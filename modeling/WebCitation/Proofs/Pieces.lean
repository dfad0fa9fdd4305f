import Mathlib.Data.List.TakeDrop
import Mathlib.Data.List.TakeWhile
import WebCitation.Text.Split

/-! Laws of cutting texts and of putting them together, on top of those of lists. -/
namespace WebCitation.Text

theorem span_eq_iff {p : Char → Bool} {s front rest : List Char} :
    s.span p = (front, rest) ↔
      s = front ++ rest ∧ (∀ c ∈ front, p c = true) ∧ ∀ c, rest.head? = some c → p c = false := by
  rw [List.span_eq_takeWhile_dropWhile, Prod.mk.injEq]
  constructor
  · rintro ⟨rfl, rfl⟩
    refine ⟨List.takeWhile_append_dropWhile.symm, fun c member => List.mem_takeWhile_imp member, fun c first => ?_⟩
    have stopped := List.head?_dropWhile_not p s
    rw [first] at stopped
    exact Bool.eq_false_iff.2 fun h => by simp [h] at stopped
  · rintro ⟨rfl, inside, stops⟩
    rw [List.takeWhile_append_of_pos inside, List.dropWhile_append_of_pos inside]
    cases rest with
    | nil => simp
    | cons c rest => simp [stops c rfl]

theorem splitWhere_eq_splitOnP (p : Char → Bool) (s : List Char) : splitWhere p s = s.splitOnP p := by
  induction s with
  | nil => rfl
  | cons c s ih =>
    rw [splitWhere, List.splitOnP_cons_eq_if_modifyHead, ih]
    split
    · rfl
    · cases h : s.splitOnP p with
      | nil => exact absurd h (List.splitOnP_ne_nil p s)
      | cons piece pieces => rfl

theorem head?_splitWhere (p : Char → Bool) (s : List Char) :
    (splitWhere p s).head? = some (s.takeWhile fun c => !p c) := by
  induction s with
  | nil => rfl
  | cons c s ih =>
    rw [splitWhere]
    cases h : p c with
    | true => simp [h]
    | false =>
      cases pieces : splitWhere p s with
      | nil => simp [pieces] at ih
      | cons piece rest =>
        rw [pieces] at ih
        simpa [h] using ih

theorem mem_join {c d : Char} {pieces : List (List Char)} :
    c ∈ join [d] pieces ↔ (c = d ∧ 1 < pieces.length) ∨ ∃ piece ∈ pieces, c ∈ piece := by
  unfold join
  induction pieces with
  | nil => simp
  | cons piece pieces ih =>
    cases pieces with
    | nil => simp
    | cons next pieces =>
      rw [List.intercalate_cons_cons, List.mem_append, List.mem_append, ih]
      simp
      tauto

theorem splitWhere_eq_splitOn (c : Char) (s : List Char) : splitWhere (· == c) s = s.splitOn c :=
  splitWhere_eq_splitOnP (· == c) s

theorem splitWhere_ne_nil (p : Char → Bool) (s : List Char) : splitWhere p s ≠ [] := by
  rw [splitWhere_eq_splitOnP]
  exact List.splitOnP_ne_nil p s

theorem join_splitWhere (c : Char) (s : List Char) : join [c] (splitWhere (· == c) s) = s := by
  rw [splitWhere_eq_splitOn]
  exact List.intercalate_splitOn c

theorem splitWhere_join {c : Char} {pieces : List (List Char)} (some_piece : pieces ≠ [])
    (apart : ∀ piece ∈ pieces, c ∉ piece) : splitWhere (· == c) (join [c] pieces) = pieces := by
  rw [splitWhere_eq_splitOn]
  exact List.splitOn_intercalate c apart some_piece

theorem splitWhere_map {p : Char → Bool} {f : Char → Char} (kept : ∀ c, p (f c) = p c) (s : List Char) :
    splitWhere p (s.map f) = (splitWhere p s).map (List.map f) := by
  induction s with
  | nil => rfl
  | cons c s ih =>
    rw [List.map_cons, splitWhere, splitWhere, kept, ih]
    cases p c with
    | true => rfl
    | false => cases splitWhere p s <;> rfl

theorem join_cons {sep piece : List Char} {pieces : List (List Char)} (more : pieces ≠ []) :
    join sep (piece :: pieces) = piece ++ (sep ++ join sep pieces) := by
  rw [join, List.intercalate_cons_of_ne_nil more, List.append_assoc, join]

theorem join_append_cons (sep front piece : List Char) (pieces : List (List Char)) :
    join sep ((front ++ piece) :: pieces) = front ++ join sep (piece :: pieces) := by
  cases pieces with
  | nil => simp [join]
  | cons next pieces => simp [join_cons]

theorem join_concat {sep : List Char} {pieces : List (List Char)} (before : pieces ≠ []) (last : List Char) :
    join sep (pieces ++ [last]) = join sep pieces ++ (sep ++ last) := by
  induction pieces with
  | nil => exact absurd rfl before
  | cons piece pieces ih =>
    cases pieces with
    | nil => simp [join]
    | cons next pieces =>
      have more : next :: pieces ≠ [] := List.cons_ne_nil next pieces
      rw [List.cons_append, join_cons (by simp), join_cons more, ih more]
      simp only [List.append_assoc]

theorem splitOn_ne_nil (sep s : List Char) : splitOn sep s ≠ [] := by
  unfold splitOn
  split
  · simp
  · split <;> simp

theorem join_splitOn (sep s : List Char) : join sep (splitOn sep s) = s := by
  fun_induction splitOn sep s with
  | case1 s none => simp [join]
  | case2 s before after found empty => simp [join]
  | case3 s before after found nonempty ih =>
    rw [join_cons (splitOn_ne_nil sep after), ih, eq_append_of_cut? found, List.append_assoc]

theorem splitOn_join {sep : List Char} (nonempty : sep ≠ []) {pieces : List (List Char)} (some_piece : pieces ≠ [])
    (apart : ∀ piece ∈ pieces, ∀ c ∈ piece, c ∉ sep) : splitOn sep (join sep pieces) = pieces := by
  induction pieces with
  | nil => exact absurd rfl some_piece
  | cons piece pieces ih =>
    have here := apart piece List.mem_cons_self
    cases pieces with
    | nil =>
      have alone : join sep [piece] = piece := by simp [join]
      rw [alone, splitOn_of_cut?_eq_none (cut?_of_apart nonempty here)]
    | cons next pieces =>
      have more : next :: pieces ≠ [] := List.cons_ne_nil next pieces
      have rest := ih more fun other member => apart other (List.mem_cons_of_mem piece member)
      rw [join_cons more, splitOn_of_cut? nonempty (cut?_append_of_apart nonempty here _), rest]

end WebCitation.Text
