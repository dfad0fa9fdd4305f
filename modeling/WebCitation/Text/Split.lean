/-! Texts cut at separators, and pieces put together again. -/
namespace WebCitation.Text

def dropPrefix? : List Char → List Char → Option (List Char)
  | [], s => some s
  | _ :: _, [] => none
  | p :: ps, c :: s => if p = c then dropPrefix? ps s else none

theorem eq_append_of_dropPrefix? {p s r : List Char} (h : dropPrefix? p s = some r) : s = p ++ r := by
  induction p generalizing s with
  | nil => exact Option.some.inj h
  | cons c p ih =>
    cases s with
    | nil => cases h
    | cons d s =>
      rw [dropPrefix?] at h
      split at h
      · rename_i same
        rw [ih h, same, List.cons_append]
      · cases h

theorem dropPrefix?_append (p s : List Char) : dropPrefix? p (p ++ s) = some s := by
  induction p with
  | nil => rfl
  | cons c p ih => rw [List.cons_append, dropPrefix?, if_pos rfl, ih]

def dropSuffix? (suffix s : List Char) : Option (List Char) :=
  (dropPrefix? suffix.reverse s.reverse).map List.reverse

theorem dropSuffix?_append (s p : List Char) : dropSuffix? p (s ++ p) = some s := by
  rw [dropSuffix?, List.reverse_append, dropPrefix?_append, Option.map_some, List.reverse_reverse]

/-- The text before and after the first occurrence of `sep`. -/
def cut? (sep : List Char) : List Char → Option (List Char × List Char)
  | [] => if sep.isEmpty then some ([], []) else none
  | c :: s =>
    match dropPrefix? sep (c :: s) with
    | some rest => some ([], rest)
    | none => (cut? sep s).map fun (before, after) => (c :: before, after)

theorem eq_append_of_cut? {sep s before after : List Char} (h : cut? sep s = some (before, after)) :
    s = before ++ sep ++ after := by
  induction s generalizing before with
  | nil =>
    rw [cut?] at h
    split at h
    · rename_i none
      cases h
      rw [List.isEmpty_iff.1 none]
      rfl
    · cases h
  | cons c s ih =>
    rw [cut?] at h
    split at h
    · rename_i rest found
      cases h
      exact eq_append_of_dropPrefix? found
    · obtain ⟨⟨front, rest⟩, found, made⟩ := Option.map_eq_some_iff.1 h
      cases made
      rw [ih found]
      rfl

theorem length_of_cut? {sep s before after : List Char} (h : cut? sep s = some (before, after)) :
    s.length = before.length + sep.length + after.length := by
  rw [eq_append_of_cut? h, List.length_append, List.length_append]

theorem dropPrefix?_of_not_mem {sep : List Char} (nonempty : sep ≠ []) {c : Char} (absent : c ∉ sep) (s : List Char) :
    dropPrefix? sep (c :: s) = none := by
  cases sep with
  | nil => exact absurd rfl nonempty
  | cons d sep =>
    have other : d ≠ c := fun same => absent (same ▸ List.mem_cons_self)
    rw [dropPrefix?, if_neg other]

/-- A text that shares no character with the separator holds none, nor the beginning of one that follows it. So the
first occurrence after it is where the separator was put, even if the separator overlaps itself. -/
theorem cut?_append_of_apart {sep : List Char} (nonempty : sep ≠ []) {s : List Char} (apart : ∀ c ∈ s, c ∉ sep)
    (t : List Char) : cut? sep (s ++ (sep ++ t)) = some (s, t) := by
  induction s with
  | nil =>
    cases sep with
    | nil => exact absurd rfl nonempty
    | cons d sep =>
      have found := dropPrefix?_append (d :: sep) t
      rw [List.cons_append] at found
      rw [List.nil_append, List.cons_append, cut?, found]
  | cons c s ih =>
    have absent := apart c List.mem_cons_self
    have rest := ih fun d member => apart d (List.mem_cons_of_mem c member)
    rw [List.cons_append, cut?, dropPrefix?_of_not_mem nonempty absent, rest]
    rfl

theorem cut?_append {c : Char} {s : List Char} (absent : c ∉ s) (t : List Char) :
    cut? [c] (s ++ c :: t) = some (s, t) := by
  refine cut?_append_of_apart (List.cons_ne_nil c []) ?_ t
  intro d member same
  exact absent (List.mem_singleton.1 same ▸ member)

theorem cut?_of_apart {sep : List Char} (nonempty : sep ≠ []) {s : List Char} (apart : ∀ c ∈ s, c ∉ sep) :
    cut? sep s = none := by
  induction s with
  | nil => rw [cut?, if_neg fun none => nonempty (List.isEmpty_iff.1 none)]
  | cons c s ih =>
    have absent := apart c List.mem_cons_self
    have rest := ih fun d member => apart d (List.mem_cons_of_mem c member)
    rw [cut?, dropPrefix?_of_not_mem nonempty absent, rest]
    rfl

/-- The pieces of a text between the occurrences of a nonempty separator, found from the left. -/
def splitOn (sep : List Char) (s : List Char) : List (List Char) :=
  match _h : cut? sep s with
  | none => [s]
  | some (before, after) =>
    if sep.isEmpty then [s] else before :: splitOn sep after
termination_by s.length
decreasing_by
  have := length_of_cut? _h
  have : sep.length ≠ 0 := by simp_all
  omega

theorem splitOn_of_cut?_eq_none {sep s : List Char} (h : cut? sep s = none) : splitOn sep s = [s] := by
  rw [splitOn]
  split
  · rfl
  · rename_i found
    rw [h] at found
    cases found

theorem splitOn_of_cut? {sep : List Char} (nonempty : sep ≠ []) {s before after : List Char}
    (h : cut? sep s = some (before, after)) : splitOn sep s = before :: splitOn sep after := by
  rw [splitOn]
  split
  · rename_i none
    rw [h] at none
    cases none
  · rename_i found
    rw [h] at found
    cases found
    exact if_neg fun none => nonempty (List.isEmpty_iff.1 none)

def splitWhere (p : Char → Bool) : List Char → List (List Char)
  | [] => [[]]
  | c :: s =>
    if p c then [] :: splitWhere p s
    else
      match splitWhere p s with
      | [] => [[c]]
      | piece :: pieces => (c :: piece) :: pieces

def join (sep : List Char) (pieces : List (List Char)) : List Char :=
  sep.intercalate pieces

end WebCitation.Text

namespace String

def pieces (s sep : String) : List String :=
  (WebCitation.Text.splitOn sep.toList s.toList).map String.ofList

end String
