import WebCitation.Proofs.NormalPaths

/-!
The removal of dot segments, as the standard of URIs states it: text is moved from an input to an output, and the
prefixes that begin with dots are left out or take back what was moved last. The normal form of a path that begins with
a slash is what this makes of the path without its query.
-/
namespace WebCitation

namespace DotSegments

open WebCitation.Path

/-- The output without its last segment and the slash before that. -/
def dropSegment (output : List Char) : List Char :=
  ((output.reverse.dropWhile (· ≠ '/')).drop 1).reverse

/-- What becomes of the input, after the output. -/
def remove (output : List Char) : List Char → List Char
  | [] => output
  -- A dot or two in front of the first slash are left out.
  | '.' :: '.' :: '/' :: input => remove output input
  | '.' :: '/' :: input => remove output input
  -- One dot as a whole segment is left out, its slash stays.
  | '/' :: '.' :: '/' :: input => remove output ('/' :: input)
  | ['/', '.'] => remove output ['/']
  -- So are two dots, and with them goes the last segment of the output.
  | '/' :: '.' :: '.' :: '/' :: input => remove (dropSegment output) ('/' :: input)
  | ['/', '.', '.'] => remove (dropSegment output) ['/']
  | ['.'] => remove output []
  | ['.', '.'] => remove output []
  -- Any other segment is moved with the slash before it, up to the next slash.
  | c :: input => remove (output ++ c :: input.takeWhile (· ≠ '/')) (input.dropWhile (· ≠ '/'))
termination_by input => input.length
decreasing_by
  all_goals simp only [List.length_cons, List.length_nil]
  all_goals try omega
  have := (List.dropWhile_sublist (l := input) fun x => decide (x ≠ '/')).length_le
  omega

def text (pieces : List (List Char)) : List Char := pieces.flatMap ('/' :: ·)

theorem join_root (pieces : List (List Char)) : Text.join ['/'] ([] :: pieces) = text pieces := by
  unfold Text.join
  induction pieces with
  | nil => rfl
  | cons piece pieces ih =>
    rw [List.intercalate_cons_cons, text, List.flatMap_cons, ← text, ← ih]
    cases pieces with
    | nil => simp
    | cons next pieces => simp [List.intercalate_cons_cons]

theorem text_cons (piece : List Char) (pieces : List (List Char)) :
    text (piece :: pieces) = '/' :: (piece ++ text pieces) := by
  simp [text]

theorem text_concat (pieces : List (List Char)) (piece : List Char) :
    text (pieces ++ [piece]) = text pieces ++ '/' :: piece := by
  simp [text]

theorem exists_text_eq {pieces : List (List Char)} (some_piece : pieces ≠ []) : ∃ t, text pieces = '/' :: t := by
  match pieces, some_piece with
  | piece :: pieces, _ => exact ⟨piece ++ text pieces, text_cons piece pieces⟩

theorem dropSegment_text {stack : List (List Char)} (free : ∀ x ∈ stack, '/' ∉ x) :
    dropSegment (text stack.reverse) = text stack.tail.reverse := by
  cases stack with
  | nil => rfl
  | cons top stack =>
    have whole : ∀ c ∈ top.reverse, decide (c ≠ '/') = true := by
      intro c member
      have inside : c ∈ top := List.mem_reverse.1 member
      exact decide_eq_true fun same => free top List.mem_cons_self (same ▸ inside)
    rw [List.reverse_cons, text_concat, dropSegment, List.reverse_append, List.reverse_cons, List.append_assoc,
      List.dropWhile_append_of_pos whole]
    simp

theorem keep_dots (stack : List (List Char)) : keep (stack ++ [[]]) ['.', '.'] = stack.tail ++ [[]] := by
  match stack with
  | [] => rfl
  | [_] => rfl
  | _ :: _ :: _ => rfl

theorem remove_nil (output : List Char) : remove output [] = output := by
  rw [remove]

theorem remove_segment {segment : List Char} (free : '/' ∉ segment) (plain : ¬IsDots segment) {rest : List Char}
    (ends : rest = [] ∨ rest.head? = some '/') (output : List Char) :
    remove output ('/' :: (segment ++ rest)) = remove (output ++ '/' :: segment) rest := by
  have whole : ∀ c ∈ segment, decide (c ≠ '/') = true :=
    fun c member => decide_eq_true fun same => free (same ▸ member)
  have stops : ∀ c, rest.head? = some c → decide (c ≠ '/') = false := by
    intro c first
    rcases ends with rfl | slash
    · cases first
    · cases first.symm.trans slash
      rfl
  -- The text after the slash up to the next one is the segment, so it begins with no dots of its own.
  have cut := Text.span_eq_iff.2 ⟨rfl, whole, stops⟩
  rw [List.span_eq_takeWhile_dropWhile, Prod.mk.injEq] at cut
  obtain ⟨upto, after⟩ := cut
  have no_dots : ∀ {t : List Char}, '/' :: (segment ++ rest) = '/' :: t → ¬IsDots (t.takeWhile (· ≠ '/')) := by
    intro t same dots
    rw [← (List.cons.inj same).2, upto] at dots
    exact plain dots
  rw [remove.eq_def]
  split
  · rename_i none
    cases none
  · rename_i begins
    cases begins
  · rename_i begins
    cases begins
  · rename_i dot
    exact absurd (.inl (by simp)) (no_dots dot)
  · rename_i dot
    exact absurd (.inl (by simp)) (no_dots dot)
  · rename_i dots
    exact absurd (.inr (by simp)) (no_dots dots)
  · rename_i dots
    exact absurd (.inr (by simp)) (no_dots dots)
  · rename_i begins
    cases begins
  · rename_i begins
    cases begins
  · rename_i c input _ _ _ _ _ _ _ _ same
    obtain ⟨rfl, rfl⟩ := List.cons.inj same
    rw [upto, after]

theorem remove_slash (output : List Char) : remove output ['/'] = output ++ ['/'] := by
  have moved : remove output ('/' :: ([] ++ [])) = remove (output ++ ['/']) [] :=
    remove_segment List.not_mem_nil (by decide) (.inl rfl) output
  exact moved.trans (remove_nil _)

/-! The normal form keeps a stack of segments above an empty one for the root. Its segments, last first, are what the
removal has moved to the output. -/

/-- One segment before others does the same to the stack and to the output. -/
theorem remove_text_cons {segment : List Char} {rest stack : List (List Char)} (others : rest ≠ [])
    (free : '/' ∉ segment) (below : ∀ x ∈ stack, '/' ∉ x) :
    ∃ above, keep (stack ++ [[]]) segment = above ++ [[]] ∧ (∀ x ∈ above, '/' ∉ x) ∧
      remove (text stack.reverse) (text (segment :: rest)) = remove (text above.reverse) (text rest) := by
  obtain ⟨t, begins⟩ := exists_text_eq others
  rw [text_cons]
  by_cases plain : IsDots segment
  · rcases plain with rfl | rfl
    · refine ⟨stack, rfl, below, ?_⟩
      rw [begins, List.cons_append, List.nil_append, remove]
    · refine ⟨stack.tail, keep_dots stack, fun x member => below x (List.mem_of_mem_tail member), ?_⟩
      rw [begins, List.cons_append, List.cons_append, List.nil_append, remove, dropSegment_text below]
  · refine ⟨segment :: stack, keep_of_plain plain _, List.forall_mem_cons.2 ⟨free, below⟩, ?_⟩
    have slash : text rest = [] ∨ (text rest).head? = some '/' := .inr (by rw [begins]; rfl)
    rw [remove_segment free plain slash, List.reverse_cons, text_concat]

theorem remove_text_singleton {segment : List Char} {stack : List (List Char)} (free : '/' ∉ segment)
    (below : ∀ x ∈ stack, '/' ∉ x) :
    ∃ out, out ≠ [] ∧ resolve (stack ++ [[]]) [segment] = [] :: out ∧
      remove (text stack.reverse) (text [segment]) = text out := by
  rw [text_cons]
  by_cases plain : IsDots segment
  · have ends : resolve (stack ++ [[]]) [segment] = ([] :: keep (stack ++ [[]]) segment).reverse := if_pos plain
    rcases plain with rfl | rfl
    · refine ⟨stack.reverse ++ [[]], by simp, by simp [ends, keep], ?_⟩
      have input : '/' :: (['.'] ++ text []) = ['/', '.'] := rfl
      rw [input, remove, remove_slash, text_concat]
    · refine ⟨stack.tail.reverse ++ [[]], by simp, by simp [ends, keep_dots], ?_⟩
      have input : '/' :: (['.', '.'] ++ text []) = ['/', '.', '.'] := rfl
      rw [input, remove, dropSegment_text below, remove_slash, text_concat]
  · have ends : resolve (stack ++ [[]]) [segment] = (keep (stack ++ [[]]) segment).reverse := if_neg plain
    refine ⟨stack.reverse ++ [segment], by simp, by simp [ends, keep_of_plain plain], ?_⟩
    have last : text [] = [] ∨ (text []).head? = some '/' := .inl rfl
    rw [remove_segment free plain last, text_concat]
    exact remove_nil _

theorem remove_text {pieces stack : List (List Char)} (some_piece : pieces ≠ []) (free : ∀ x ∈ pieces, '/' ∉ x)
    (below : ∀ x ∈ stack, '/' ∉ x) :
    ∃ out, out ≠ [] ∧ resolve (stack ++ [[]]) pieces = [] :: out ∧
      remove (text stack.reverse) (text pieces) = text out := by
  induction pieces generalizing stack with
  | nil => exact absurd rfl some_piece
  | cons segment rest ih =>
    obtain ⟨first, later⟩ := List.forall_mem_cons.1 free
    cases rest with
    | nil => exact remove_text_singleton first below
    | cons next rest =>
      have others : next :: rest ≠ [] := List.cons_ne_nil next rest
      obtain ⟨above, kept, free_above, moved⟩ := remove_text_cons others first below
      obtain ⟨out, some_out, resolved, removed⟩ := ih others later free_above
      refine ⟨out, some_out, ?_, moved.trans removed⟩
      rw [resolve_cons others, kept, resolved]

theorem normalizeChars_eq_remove {s : List Char} (h : s.head? = some '/') :
    normalizeChars s = remove [] (s.takeWhile (· ≠ '?')) := by
  obtain ⟨t, begins⟩ : ∃ t, withoutQuery s = '/' :: t := by
    cases s with
    | nil => cases h
    | cons c s =>
      cases h
      exact ⟨withoutQuery s, rfl⟩
  have root : segments (withoutQuery s) = [] :: segments t := by rw [begins]; rfl
  have whole : withoutQuery s = text (segments t) := by
    rw [← join_root, ← root, join_segments]
  have below : ∀ x ∈ ([] : List (List Char)), '/' ∉ x := nofun
  obtain ⟨out, some_out, resolved, removed⟩ :=
    remove_text (segments_ne_nil t) (fun x member => slash_not_mem member) below
  have stacked : resolve [] (segments (withoutQuery s)) = [] :: out := by
    rw [root, resolve_cons (segments_ne_nil t)]
    exact resolved
  obtain ⟨u, rest⟩ := exists_text_eq some_out
  rw [normalizeChars, stacked, join_root, rooted_of_head? (by rw [rest]; rfl), ← removed, ← whole]
  rfl

end DotSegments

/-- The normal form of a path that begins with a slash is its part before the query without the dot segments. -/
theorem normalize_removes_dot_segments {path : String} (h : path.toList.head? = some '/') :
    Path.normalize path = String.ofList (DotSegments.remove [] (path.toList.takeWhile (· ≠ '?'))) := by
  rw [Path.normalize, DotSegments.normalizeChars_eq_remove h]

theorem removal_after_doubled_slash :
    "/a//../b/./c/..?d/../e".toList.head? = some '/' ∧
      String.ofList (DotSegments.remove [] "/a//../b/./c/..".toList) = "/a/b/" := by
  have slash : "/a//../b/./c/..?d/../e".toList.head? = some '/' := by decide
  have normal : Path.normalize "/a//../b/./c/..?d/../e" = "/a/b/" := by decide
  exact ⟨slash, (normalize_removes_dot_segments slash).symm.trans normal⟩

end WebCitation
