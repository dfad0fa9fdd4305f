/-! Lists whose items are told apart by a key. -/
namespace WebCitation

/-- Items in order, no two with the same key. -/
structure Keyed {α κ : Type} (key : α → κ) where
  items : List α
  distinct : (items.map key).Nodup
deriving DecidableEq, Repr

namespace Keyed

variable {α κ : Type} {key : α → κ}

theorem ext {s t : Keyed key} (h : s.items = t.items) : s = t := by
  cases s
  cases t
  cases h
  rfl

variable [DecidableEq κ]

def empty : Keyed key := ⟨[], List.nodup_nil⟩

instance : Inhabited (Keyed key) := ⟨empty⟩

def size (s : Keyed key) : Nat := s.items.length

def get? (s : Keyed key) (k : κ) : Option α := s.items.find? fun a => key a = k

theorem get?_eq_none_iff {s : Keyed key} {k : κ} : s.get? k = none ↔ k ∉ s.items.map key := by
  simp [get?, List.find?_eq_none]

/-- Of items with distinct keys, each is found by its own. -/
theorem find?_key_of_mem {items : List α} {a : α} (distinct : (items.map key).Nodup) (h : a ∈ items) :
    (items.find? fun b => key b = key a) = some a := by
  induction items with
  | nil => cases h
  | cons b items ih =>
    rw [List.map_cons, List.nodup_cons] at distinct
    cases List.mem_cons.1 h with
    | inl same =>
      subst same
      exact List.find?_cons_of_pos (decide_eq_true rfl)
    | inr later =>
      have other : ¬ key b = key a := fun same => distinct.1 (same ▸ List.mem_map_of_mem later)
      rw [List.find?_cons_of_neg (by simpa using other), ih distinct.2 later]

theorem get?_eq_some_iff {s : Keyed key} {k : κ} {a : α} :
    s.get? k = some a ↔ a ∈ s.items ∧ key a = k := by
  constructor
  · intro h
    exact ⟨List.mem_of_find?_eq_some h, by simpa using List.find?_some h⟩
  · rintro ⟨member, rfl⟩
    exact find?_key_of_mem s.distinct member

/-- The items with one more at the end, unless its key is there already. -/
def push (s : Keyed key) (a : α) : Keyed key :=
  match h : s.get? (key a) with
  | some _ => s
  | none =>
    ⟨s.items ++ [a], by
      rw [List.map_append, List.nodup_append]
      refine ⟨s.distinct, by simp, ?_⟩
      intro k hk l hl hkl
      simp only [List.map_cons, List.map_nil, List.mem_singleton] at hl
      exact get?_eq_none_iff.1 h (hl ▸ hkl ▸ hk)⟩

theorem mem_of_mem_push {s : Keyed key} {a b : α} (h : b ∈ (s.push a).items) : b ∈ s.items ∨ b = a := by
  unfold push at h
  split at h
  · exact .inl h
  · exact (List.mem_append.1 h).imp_right List.mem_singleton.1

theorem items_push_of_none {s : Keyed key} {a : α} (h : s.get? (key a) = none) :
    (s.push a).items = s.items ++ [a] := by
  unfold push
  split
  · rename_i b hb
    rw [h] at hb
    cases hb
  · rfl

theorem push_of_mem {s : Keyed key} {a : α} (h : key a ∈ s.items.map key) : s.push a = s := by
  unfold push
  split
  · rfl
  · rename_i absent
    exact absurd h (get?_eq_none_iff.1 absent)

theorem mem_keys_push {s : Keyed key} {a : α} {k : κ} :
    k ∈ (s.push a).items.map key ↔ k ∈ s.items.map key ∨ k = key a := by
  by_cases h : key a ∈ s.items.map key
  · rw [push_of_mem h]
    constructor
    · exact .inl
    · rintro (before | rfl)
      · exact before
      · exact h
  · rw [items_push_of_none (get?_eq_none_iff.2 h), List.map_append, List.mem_append, List.map_singleton,
      List.mem_singleton]

/-- The items of a list; of items with the same key the first stays. -/
def ofList (items : List α) : Keyed key := items.foldl push empty

theorem items_foldl_push {items : List α} {s : Keyed key} (h : ((s.items ++ items).map key).Nodup) :
    (items.foldl push s).items = s.items ++ items := by
  induction items generalizing s with
  | nil => simp
  | cons a items ih =>
    have absent : s.get? (key a) = none := by
      rw [get?_eq_none_iff]
      intro present
      rw [List.map_append, List.map_cons] at h
      exact (List.nodup_append.1 h).2.2 _ present _ List.mem_cons_self rfl
    have pushed := items_push_of_none absent
    rw [List.foldl_cons, ih, pushed, List.append_assoc, List.singleton_append]
    rwa [pushed, List.append_assoc, List.singleton_append]

theorem mem_of_mem_foldl_push {items : List α} {s : Keyed key} {b : α}
    (h : b ∈ (items.foldl push s).items) : b ∈ s.items ∨ b ∈ items := by
  induction items generalizing s with
  | nil => exact .inl h
  | cons a items ih =>
    rcases ih h with early | late
    · rcases mem_of_mem_push early with before | rfl
      · exact .inl before
      · exact .inr List.mem_cons_self
    · exact .inr (List.mem_cons_of_mem a late)

theorem mem_keys_foldl_push {items : List α} {s : Keyed key} {k : κ} :
    k ∈ (items.foldl push s).items.map key ↔ k ∈ s.items.map key ∨ k ∈ items.map key := by
  induction items generalizing s with
  | nil => simp
  | cons a items ih => rw [List.foldl_cons, ih, mem_keys_push, List.map_cons, List.mem_cons, or_assoc]

theorem ofList_append_cons {before after : List α} {a : α} (h : key a ∈ before.map key) :
    (ofList (before ++ a :: after) : Keyed key) = ofList (before ++ after) := by
  have present : key a ∈ (ofList before : Keyed key).items.map key := mem_keys_foldl_push.2 (.inr h)
  rw [ofList] at present
  rw [ofList, ofList, List.foldl_append, List.foldl_cons, push_of_mem present, List.foldl_append]

theorem mem_of_mem_ofList {items : List α} {b : α} (h : b ∈ (ofList items : Keyed key).items) : b ∈ items :=
  (mem_of_mem_foldl_push h).resolve_left List.not_mem_nil

theorem items_ofList {items : List α} (h : (items.map key).Nodup) :
    (ofList items : Keyed key).items = items := items_foldl_push h

@[simp] theorem ofList_items (s : Keyed key) : ofList s.items = s := ext (items_ofList s.distinct)

/-- The items with `a` in the place of the one that has its key, or at the end. -/
def put (s : Keyed key) (a : α) : Keyed key :=
  if (s.get? (key a)).isSome then
    ⟨s.items.map fun b => if key b = key a then a else b, by
      have same : (s.items.map fun b => if key b = key a then a else b).map key = s.items.map key := by
        rw [List.map_map]
        apply List.map_congr_left
        intro b _
        simp only [Function.comp]
        split <;> simp_all
      rw [same]
      exact s.distinct⟩
  else s.push a

theorem mem_put {s : Keyed key} {a b : α} :
    b ∈ (s.put a).items ↔ b = a ∨ b ∈ s.items ∧ key b ≠ key a := by
  unfold put
  split
  · rename_i present
    obtain ⟨old, found⟩ := Option.isSome_iff_exists.1 present
    obtain ⟨there, same⟩ := get?_eq_some_iff.1 found
    rw [List.mem_map]
    constructor
    · rintro ⟨c, hc, rfl⟩
      split
      · exact .inl rfl
      · rename_i other
        exact .inr ⟨hc, other⟩
    · rintro (rfl | ⟨hb, other⟩)
      · exact ⟨old, there, if_pos same⟩
      · exact ⟨b, hb, if_neg other⟩
  · rename_i absent
    have none : s.get? (key a) = none := by simpa using absent
    rw [items_push_of_none none, List.mem_append, List.mem_singleton, or_comm]
    have fresh : ∀ b ∈ s.items, key b ≠ key a := fun b hb same =>
      get?_eq_none_iff.1 none (same ▸ List.mem_map_of_mem hb)
    exact or_congr_right ⟨fun hb => ⟨hb, fresh b hb⟩, And.left⟩

/-- The last item that was put under a key is the one that is found. -/
theorem get?_put (s : Keyed key) (a : α) (k : κ) :
    (s.put a).get? k = if key a = k then some a else s.get? k := by
  split
  · rename_i here
    exact get?_eq_some_iff.2 ⟨mem_put.2 (.inl rfl), here⟩
  · rename_i elsewhere
    ext b
    rw [get?_eq_some_iff, get?_eq_some_iff, mem_put]
    constructor
    · rintro ⟨rfl | ⟨hb, _⟩, rfl⟩
      · exact absurd rfl elsewhere
      · exact ⟨hb, rfl⟩
    · rintro ⟨hb, rfl⟩
      exact ⟨.inr ⟨hb, Ne.symm elsewhere⟩, rfl⟩

def total (weight : α → Nat) (items : List α) : Nat := items.foldr (fun a n => weight a + n) 0

theorem total_concat (weight : α → Nat) (items : List α) (a : α) :
    total weight (items ++ [a]) = total weight items + weight a := by
  induction items with
  | nil => exact Nat.add_comm _ _
  | cons b items ih =>
    have rest : total weight (b :: (items ++ [a])) = weight b + total weight (items ++ [a]) := rfl
    rw [List.cons_append, rest, ih, ← Nat.add_assoc]
    rfl

theorem total_replace {items : List α} (distinct : (items.map key).Nodup) {old a : α} (there : old ∈ items)
    (same : key old = key a) (weight : α → Nat) :
    total weight (items.map fun b => if key b = key a then a else b) + weight old = total weight items + weight a := by
  induction items with
  | nil => cases there
  | cons b items ih =>
    rw [List.map_cons, List.nodup_cons] at distinct
    simp only [total, List.map_cons, List.foldr_cons] at ih ⊢
    obtain rfl | later := List.mem_cons.1 there
    · have kept : (items.map fun b => if key b = key a then a else b) = items := by
        refine (List.map_congr_left fun c hc => if_neg fun here => ?_).trans (List.map_id' items)
        exact distinct.1 (same.trans here.symm ▸ List.mem_map_of_mem hc)
      rw [if_pos same, kept]
      omega
    · have other : key b ≠ key a := by
        intro here
        exact distinct.1 (here.trans same.symm ▸ List.mem_map_of_mem later)
      have rest := ih distinct.2 later
      rw [if_neg other]
      omega

/-- Items weigh as before, but for the one that was put and the one that it took the place of. -/
theorem total_put (s : Keyed key) (a : α) (weight : α → Nat) :
    total weight (s.put a).items + ((s.get? (key a)).map weight).getD 0 = total weight s.items + weight a := by
  unfold put
  split
  · rename_i present
    obtain ⟨old, found⟩ := Option.isSome_iff_exists.1 present
    obtain ⟨there, same⟩ := get?_eq_some_iff.1 found
    rw [found]
    exact total_replace s.distinct there same weight
  · rename_i absent
    have none : s.get? (key a) = none := by simpa using absent
    rw [none, items_push_of_none none]
    exact total_concat weight s.items a

end Keyed
end WebCitation
