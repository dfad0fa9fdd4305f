import Mathlib.Data.List.Perm.Basic
import Mathlib.Logic.Relation
import WebCitation.Proofs.JsonText

/-!
The order of the keys in a text. `asWritten?` reads a text and keeps the fields of each object where they stand,
repeated keys included. What is read otherwise is the same value with its fields put in order, so two texts are read
alike that differ only in where the fields of their objects stand.
-/
namespace WebCitation.Json

/-! Keys in ascending order. -/

/-- Fields in ascending order of their keys, each of them once. -/
def Ascending (fields : List (String × Json)) : Prop := (fields.map Prod.fst).Pairwise (· < ·)

theorem Ascending.distinct {fields : List (String × Json)} (h : Ascending fields) : (fields.map Prod.fst).Nodup := by
  refine List.Pairwise.imp ?_ h
  intro k l before same
  exact String.lt_irrefl l (same ▸ before)

theorem ascending_nil : Ascending [] := List.Pairwise.nil

theorem mem_keys_insertField {key k : String} {value : Json} {fields : List (String × Json)}
    (h : k ∈ (insertField key value fields).map Prod.fst) : k = key ∨ k ∈ fields.map Prod.fst := by
  induction fields with
  | nil => exact .inl (List.mem_singleton.1 h)
  | cons field fields ih =>
    obtain ⟨l, v⟩ := field
    rw [insertField] at h
    split at h
    · exact List.mem_cons.1 h
    · split at h
      · exact (List.mem_cons.1 h).imp_right (List.mem_cons_of_mem l)
      · rcases List.mem_cons.1 h with here | later
        · exact .inr (here ▸ List.mem_cons_self)
        · exact (ih later).imp_right (List.mem_cons_of_mem l)

theorem ascending_insertField (key : String) (value : Json) {fields : List (String × Json)} (h : Ascending fields) :
    Ascending (insertField key value fields) := by
  induction fields with
  | nil => exact List.pairwise_singleton _ _
  | cons field fields ih =>
    obtain ⟨l, v⟩ := field
    obtain ⟨first, rest⟩ := List.pairwise_cons.1 h
    rw [insertField]
    split
    · rename_i before
      refine List.pairwise_cons.2 ⟨?_, h⟩
      intro k member
      rcases List.mem_cons.1 member with rfl | later
      · exact before
      · exact String.lt_trans before (first k later)
    · rename_i not_before
      split
      · rename_i same
        subst same
        exact h
      · rename_i other
        have after : l < key := by
          by_contra not_after
          exact other (String.le_antisymm (String.not_lt.1 not_after) (String.not_lt.1 not_before))
        refine List.pairwise_cons.2 ⟨?_, ih rest⟩
        intro k member
        rcases mem_keys_insertField member with rfl | later
        · exact after
        · exact first k later

theorem ascending_readFields {seen : List (String × Json)} (h : Ascending seen) (fields : List (String × Json)) :
    Ascending (readFields seen fields) := by
  induction fields generalizing seen with
  | nil => exact h
  | cons field fields ih => exact ih (ascending_insertField field.1 field.2.ordered h)

/-- Fields in ascending order stay as they are. They are taken from the last one on, and then each comes in front. -/
theorem readFields_of_ascending {fields : List (String × Json)} (h : Ascending fields)
    (values : ∀ field ∈ fields, field.2.ordered = field.2) : readFields [] fields = fields := by
  rw [← readFields_perm (List.reverse_perm fields) h.distinct, readFields, List.foldl_reverse]
  induction fields with
  | nil => rfl
  | cons field fields ih =>
    obtain ⟨key, value⟩ := field
    obtain ⟨first, rest⟩ := List.pairwise_cons.1 h
    rw [List.foldr_cons, ih rest fun field member => values field (List.mem_cons_of_mem _ member),
      values _ List.mem_cons_self]
    cases fields with
    | nil => rfl
    | cons next fields => rw [insertField, if_pos (first next.1 List.mem_cons_self)]

/-! Reading a text as it is written. -/

/-- The key that a field begins with, and the text after its colon. -/
def keyBefore? (s : List Char) : Option (String × List Char) :=
  match skipSpace s with
  | '"' :: s =>
    match stringBody? (s.length + 1) [] s with
    | none => none
    | some (key, s) =>
      match skipSpace s with
      | ':' :: s => some (String.ofList key, s)
      | _ => none
  | _ => none

mutual

/-- A value with the fields of its objects in the order of the text, and the text after it. -/
def writtenValue? : Nat → Nat → List Char → Option (Json × List Char)
  | 0, _, _ => none
  | fuel + 1, depth, s =>
    match skipSpace s with
    | '[' :: s =>
      if depth ≤ 1 then none
      else
        match skipSpace s with
        | ']' :: s => some (.array [], s)
        | s => writtenItems? fuel (depth - 1) [] s
    | '\x7b' :: s =>
      if depth ≤ 1 then none
      else
        match skipSpace s with
        | '\x7d' :: s => some (.object [], s)
        | s => writtenFields? fuel (depth - 1) [] s
    | s => value? (fuel + 1) depth s

def writtenItems? : Nat → Nat → List Json → List Char → Option (Json × List Char)
  | 0, _, _, _ => none
  | fuel + 1, depth, seen, s =>
    match writtenValue? fuel depth s with
    | none => none
    | some (item, s) =>
      match skipSpace s with
      | ',' :: s => writtenItems? fuel depth (item :: seen) s
      | ']' :: s => some (.array (item :: seen).reverse, s)
      | _ => none

def writtenFields? : Nat → Nat → List (String × Json) → List Char → Option (Json × List Char)
  | 0, _, _, _ => none
  | fuel + 1, depth, seen, s =>
    match keyBefore? s with
    | none => none
    | some (key, s) =>
      match writtenValue? fuel depth s with
      | none => none
      | some (value, s) =>
        match skipSpace s with
        | ',' :: s => writtenFields? fuel depth (seen ++ [(key, value)]) s
        | '\x7d' :: s => some (.object (seen ++ [(key, value)]), s)
        | _ => none

end

/-- The value that a text writes, with the fields of its objects in the order of the text. -/
def asWritten? (s : String) : Option Json := do
  let (value, rest) ← writtenValue? (s.toList.length + 2) depthLimit s.toList
  if (skipSpace rest).isEmpty then return value else none

/-- Puts the fields of a value in order that was read before other text. -/
def putInOrder : Option (Json × List Char) → Option (Json × List Char) :=
  Option.map fun (value, rest) => (value.ordered, rest)

theorem goesOn_cases (a b : Char) (s : List Char) :
    (∃ t, s = a :: t) ∨ (∃ t, s = b :: t) ∨ (∀ t, s = a :: t → False) ∧ ∀ t, s = b :: t → False := by
  by_cases first : ∃ t, s = a :: t
  · exact .inl first
  · by_cases second : ∃ t, s = b :: t
    · exact .inr (.inl second)
    · exact .inr (.inr ⟨fun t same => first ⟨t, same⟩, fun t same => second ⟨t, same⟩⟩)

theorem fieldsFrom?_succ (fuel depth : Nat) (seen : List (String × Json)) (s : List Char) :
    fieldsFrom? (fuel + 1) depth seen s =
      match keyBefore? s with
      | none => none
      | some (key, s) =>
        match value? fuel depth s with
        | none => none
        | some (value, s) =>
          match skipSpace s with
          | ',' :: s => fieldsFrom? fuel depth (insertField key value seen) s
          | '\x7d' :: s => some (.object (insertField key value seen), s)
          | _ => none := by
  rw [fieldsFrom?, keyBefore?]
  by_cases quote : ∃ t, skipSpace s = '"' :: t
  · obtain ⟨t, quote⟩ := quote
    simp only [quote]
    cases stringBody? (t.length + 1) [] t with
    | none => rfl
    | some body =>
      obtain ⟨key, rest⟩ := body
      simp only
      by_cases colon : ∃ u, skipSpace rest = ':' :: u
      · obtain ⟨u, colon⟩ := colon
        generalize skipSpace rest = after at colon
        subst colon
        rfl
      · rw [not_exists] at colon
        simp only
  · rw [not_exists] at quote
    simp only

theorem putInOrder_leaf {s : List Char} (array : ∀ t, skipSpace s ≠ '[' :: t) (object : ∀ t, skipSpace s ≠ '\x7b' :: t)
    (fuel depth : Nat) : putInOrder (value? (fuel + 1) depth s) = value? (fuel + 1) depth s := by
  have ordered_number : ∀ n, (number n).ordered = number n := by simp [ordered]
  rw [value?]
  split
  · simp [putInOrder]
  · simp [putInOrder]
  · simp [putInOrder]
  · simp [putInOrder, Option.map_map, Function.comp_def]
  · rename_i found
    exact absurd found (array _)
  · rename_i found
    exact absurd found (object _)
  · simp [putInOrder, Option.map_map, Function.comp_def, ordered_number]

/-! With some fuel, what is read is what is written, put in order. -/

def ValuesInOrder (fuel : Nat) : Prop := ∀ depth s, putInOrder (writtenValue? fuel depth s) = value? fuel depth s

def ItemsInOrder (fuel : Nat) : Prop :=
  ∀ depth seen s, putInOrder (writtenItems? fuel depth seen s) = itemsFrom? fuel depth (seen.map ordered) s

def FieldsInOrder (fuel : Nat) : Prop :=
  ∀ depth seen s, putInOrder (writtenFields? fuel depth seen s) = fieldsFrom? fuel depth (readFields [] seen) s

theorem valuesInOrder_succ {fuel : Nat} (items : ItemsInOrder fuel) (fields : FieldsInOrder fuel) :
    ValuesInOrder (fuel + 1) := by
  intro depth s
  rcases goesOn_cases '[' '\x7b' (skipSpace s) with ⟨t, bracket⟩ | ⟨t, brace⟩ | ⟨no_bracket, no_brace⟩
  · rw [writtenValue?, value?, bracket]
    by_cases deep : depth ≤ 1
    · simp only [if_pos deep]
      rfl
    · simp only [if_neg deep]
      by_cases closed : ∃ u, skipSpace t = ']' :: u
      · obtain ⟨u, closed⟩ := closed
        simp [closed, putInOrder, ordered_array]
      · rw [not_exists] at closed
        simp only
        exact items (depth - 1) [] _
  · rw [writtenValue?, value?, brace]
    by_cases deep : depth ≤ 1
    · simp only [if_pos deep]
      rfl
    · simp only [if_neg deep]
      by_cases closed : ∃ u, skipSpace t = '\x7d' :: u
      · obtain ⟨u, closed⟩ := closed
        simp [closed, putInOrder, ordered_object, readFields]
      · rw [not_exists] at closed
        simp only
        exact fields (depth - 1) [] _
  · rw [writtenValue?]
    simp only
    rw [value?_skipSpace]
    exact putInOrder_leaf no_bracket no_brace fuel depth

theorem itemsInOrder_succ {fuel : Nat} (values : ValuesInOrder fuel) (items : ItemsInOrder fuel) :
    ItemsInOrder (fuel + 1) := by
  intro depth seen s
  rw [itemsFrom?, writtenItems?, ← values]
  cases writtenValue? fuel depth s with
  | none => rfl
  | some read =>
    obtain ⟨item, s⟩ := read
    simp only [putInOrder, Option.map_some]
    rcases goesOn_cases ',' ']' (skipSpace s) with ⟨t, comma⟩ | ⟨t, bracket⟩ | ⟨no_comma, no_bracket⟩
    · simp only [comma]
      exact items depth (item :: seen) t
    · simp [bracket, ordered_array]
    · simp only [Option.map_none]

theorem fieldsInOrder_succ {fuel : Nat} (values : ValuesInOrder fuel) (fields : FieldsInOrder fuel) :
    FieldsInOrder (fuel + 1) := by
  intro depth seen s
  rw [fieldsFrom?_succ, writtenFields?]
  cases keyBefore? s with
  | none => rfl
  | some head =>
    obtain ⟨key, s⟩ := head
    simp only
    rw [← values]
    cases writtenValue? fuel depth s with
    | none => rfl
    | some read =>
      obtain ⟨value, s⟩ := read
      -- The fields that are read already are in order on one side, and on the other where they stand.
      have grown : insertField key value.ordered (readFields [] seen) = readFields [] (seen ++ [(key, value)]) := by
        simp [readFields]
      simp only [putInOrder, Option.map_some, grown]
      rcases goesOn_cases ',' '\x7d' (skipSpace s) with ⟨t, comma⟩ | ⟨t, brace⟩ | ⟨no_comma, no_brace⟩
      · simp only [comma]
        exact fields depth (seen ++ [(key, value)]) t
      · simp [brace, ordered_object]
      · simp only [Option.map_none]

theorem inOrder (fuel : Nat) : ValuesInOrder fuel ∧ ItemsInOrder fuel ∧ FieldsInOrder fuel := by
  induction fuel with
  | zero => exact ⟨fun _ _ => rfl, fun _ _ _ => rfl, fun _ _ _ => rfl⟩
  | succ fuel ih =>
    obtain ⟨values, items, fields⟩ := ih
    exact ⟨valuesInOrder_succ items fields, itemsInOrder_succ values items, fieldsInOrder_succ values fields⟩

/-- Every text is read as what is written, put in order. -/
theorem parse?_eq_ordered (s : String) : parse? s = (asWritten? s).map ordered := by
  rw [parse?, parseWithin?, asWritten?, ← (inOrder _).1]
  cases writtenValue? (s.toList.length + 2) depthLimit s.toList with
  | none => rfl
  | some read =>
    obtain ⟨value, rest⟩ := read
    simp only [putInOrder, Option.map_some, Option.bind_eq_bind, Option.bind_some]
    split <;> rfl

theorem ascending_of_parse? {s : String} {fields : List (String × Json)} (h : parse? s = some (.object fields)) :
    Ascending fields := by
  rw [parse?_eq_ordered] at h
  obtain ⟨j, -, same⟩ := Option.map_eq_some_iff.1 h
  cases j with
  | object written =>
    rw [ordered_object] at same
    cases same
    exact ascending_readFields ascending_nil written
  | array items =>
    rw [ordered_array] at same
    cases same
  | _ => simp [ordered] at same

/-! Orders of fields. -/

/-- The fields of one object, at any depth, in another order. -/
inductive Reorder : Json → Json → Prop where
  | fields {fields fields' : List (String × Json)} (order : fields.Perm fields')
      (distinct : (fields.map Prod.fst).Nodup) : Reorder (.object fields) (.object fields')
  | item {j k : Json} (before after : List Json) (h : Reorder j k) :
      Reorder (.array (before ++ j :: after)) (.array (before ++ k :: after))
  | value {j k : Json} (key : String) (before after : List (String × Json)) (h : Reorder j k) :
      Reorder (.object (before ++ (key, j) :: after)) (.object (before ++ (key, k) :: after))

theorem Reorder.ordered_eq {j k : Json} (h : Reorder j k) : j.ordered = k.ordered := by
  induction h with
  | fields order distinct => rw [ordered_object, ordered_object, readFields_perm order.symm distinct]
  | item before after h ih => simp only [ordered_array, List.map_append, List.map_cons, ih]
  | value key before after h ih =>
    simp only [ordered_object, readFields, List.foldl_append, List.foldl_cons, ih]

/-- Texts that differ in the order of fields only are read as the same value. -/
theorem parse?_of_reorder {s t : String} {j k : Json} (hs : asWritten? s = some j) (ht : asWritten? t = some k)
    (orders : Relation.ReflTransGen Reorder j k) : ∃ o, parse? s = some o ∧ parse? t = some o := by
  have same : j.ordered = k.ordered := by
    clear ht
    induction orders with
    | refl => rfl
    | tail _ order ih => exact ih.trans order.ordered_eq
  refine ⟨j.ordered, ?_, ?_⟩
  · rw [parse?_eq_ordered, hs]
    rfl
  · rw [parse?_eq_ordered, ht, same]
    rfl

end WebCitation.Json
