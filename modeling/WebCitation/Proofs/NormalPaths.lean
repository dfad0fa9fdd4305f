import WebCitation.Proofs.FirstMatch
import WebCitation.Proofs.Pieces

/-!
The one form of a path. It begins with a slash and has no query and no dot segments; a path in this form is its own
normal form. So patterns cannot tell a path from its normal form, nor from itself with another query.
-/
namespace WebCitation

namespace Path

theorem segments_ne_nil (s : List Char) : segments s ≠ [] := Text.splitWhere_ne_nil _ s

theorem join_segments (s : List Char) : Text.join ['/'] (segments s) = s := Text.join_splitWhere '/' s

theorem segments_join {pieces : List (List Char)} (some_piece : pieces ≠ []) (free : ∀ piece ∈ pieces, '/' ∉ piece) :
    segments (Text.join ['/'] pieces) = pieces := Text.splitWhere_join some_piece free

theorem mem_of_mem_segments {c : Char} {s segment : List Char} (member : segment ∈ segments s) (h : c ∈ segment) :
    c ∈ s := by
  rw [← join_segments s]
  exact Text.mem_join.2 (.inr ⟨segment, member, h⟩)

theorem slash_not_mem {s segment : List Char} (member : segment ∈ segments s) : '/' ∉ segment := by
  induction s generalizing segment with
  | nil =>
    cases List.mem_singleton.1 member
    exact List.not_mem_nil
  | cons c s ih =>
    rw [segments, Text.splitWhere] at member
    split at member
    · rcases List.mem_cons.1 member with rfl | later
      · exact List.not_mem_nil
      · exact ih later
    · rename_i other
      have ordinary : '/' ≠ c := fun same => other (beq_iff_eq.2 same.symm)
      split at member
      · cases List.mem_singleton.1 member
        simpa using ordinary
      · rename_i piece pieces cut
        have first : '/' ∉ piece := ih (by rw [segments, cut]; exact List.mem_cons_self)
        rcases List.mem_cons.1 member with rfl | later
        · simp [ordinary, first]
        · exact ih (by rw [segments, cut]; exact List.mem_cons_of_mem _ later)

/-! Dot segments. -/

def IsDots (segment : List Char) : Prop := segment = ['.'] ∨ segment = ['.', '.']

instance (segment : List Char) : Decidable (IsDots segment) := inferInstanceAs (Decidable (_ ∨ _))

theorem keep_of_plain {segment : List Char} (plain : ¬IsDots segment) (kept : List (List Char)) :
    keep kept segment = segment :: kept := by
  obtain ⟨one, two⟩ := not_or.1 plain
  unfold keep
  rw [if_neg one, if_neg two]

theorem mem_keep {kept : List (List Char)} {segment x : List Char} (h : x ∈ keep kept segment)
    (rest : List (List Char)) : x ∈ kept ∨ x = [] ∨ (x ∈ segment :: rest ∧ ¬IsDots x) := by
  by_cases plain : IsDots segment
  · left
    rcases plain with rfl | rfl
    · exact h
    · match kept with
      | _ :: below :: rest => exact List.mem_cons_of_mem _ h
      | [] | [_] => exact h
  · rw [keep_of_plain plain] at h
    rcases List.mem_cons.1 h with rfl | before
    · exact .inr (.inr ⟨List.mem_cons_self, plain⟩)
    · exact .inl before

theorem mem_resolve {kept pieces : List (List Char)} {x : List Char} (h : x ∈ resolve kept pieces) :
    x ∈ kept ∨ x = [] ∨ (x ∈ pieces ∧ ¬IsDots x) := by
  fun_induction resolve kept pieces with
  | case1 kept => exact .inl (List.mem_reverse.1 h)
  | case2 kept segment dots =>
    rcases List.mem_cons.1 (List.mem_reverse.1 h) with rfl | before
    · exact .inr (.inl rfl)
    · exact mem_keep before _
  | case3 kept segment plain => exact mem_keep (List.mem_reverse.1 h) _
  | case4 kept segment rest _ ih =>
    rcases ih h with before | none | ⟨later, plain⟩
    · exact mem_keep before _
    · exact .inr (.inl none)
    · exact .inr (.inr ⟨List.mem_cons_of_mem _ later, plain⟩)

theorem resolve_cons {kept rest : List (List Char)} {segment : List Char} (others : rest ≠ []) :
    resolve kept (segment :: rest) = resolve (keep kept segment) rest := by
  rw [resolve]
  exact fun none => others none

theorem resolve_ne_nil {pieces : List (List Char)} (kept : List (List Char)) (some_piece : pieces ≠ []) :
    resolve kept pieces ≠ [] := by
  fun_induction resolve kept pieces with
  | case1 kept => exact absurd rfl some_piece
  | case2 kept segment dots => simp
  | case3 kept segment plain =>
    rw [keep_of_plain plain]
    simp
  | case4 kept segment rest more ih => exact ih more

theorem resolve_of_plain {pieces : List (List Char)} (plain : ∀ x ∈ pieces, ¬IsDots x) (kept : List (List Char)) :
    resolve kept pieces = kept.reverse ++ pieces := by
  fun_induction resolve kept pieces with
  | case1 kept => simp
  | case2 kept segment dots => exact absurd dots (plain segment List.mem_cons_self)
  | case3 kept segment free => rw [keep_of_plain free, List.reverse_cons]
  | case4 kept segment rest _ ih =>
    rw [ih fun x member => plain x (List.mem_cons_of_mem _ member), keep_of_plain (plain segment List.mem_cons_self),
      List.reverse_cons, List.append_assoc, List.singleton_append]

/-! The normal form. -/

/-- Begins with a slash and has no query and no dot segments. -/
structure Canonical (s : List Char) : Prop where
  rooted : s.head? = some '/'
  bare : '?' ∉ s
  resolved : ∀ segment ∈ segments s, segment ≠ ['.'] ∧ segment ≠ ['.', '.']

theorem rooted_of_head? {s : List Char} (h : s.head? = some '/') : rooted s = s := by
  cases s with
  | nil => cases h
  | cons c s =>
    cases h
    rfl

theorem withoutQuery_of_bare {s : List Char} (h : '?' ∉ s) : withoutQuery s = s := by
  rw [withoutQuery, List.takeWhile_eq_self_iff]
  intro c member
  exact decide_eq_true fun same => h (same ▸ member)

theorem Canonical.normalizeChars_eq {s : List Char} (h : Canonical s) : normalizeChars s = s := by
  have plain : ∀ x ∈ segments s, ¬IsDots x := fun x member => not_or.2 (h.resolved x member)
  rw [normalizeChars, withoutQuery_of_bare h.bare, resolve_of_plain plain, List.reverse_nil, List.nil_append,
    join_segments, rooted_of_head? h.rooted]

theorem mem_segments_rooted {pieces : List (List Char)} (some_piece : pieces ≠ []) (free : ∀ x ∈ pieces, '/' ∉ x)
    {x : List Char} (member : x ∈ segments (rooted (Text.join ['/'] pieces))) : x = [] ∨ x ∈ pieces := by
  have whole := segments_join some_piece free
  unfold rooted at member
  split at member
  · rw [whole] at member
    exact .inr member
  · have root : segments ('/' :: Text.join ['/'] pieces) = [] :: segments (Text.join ['/'] pieces) := rfl
    rw [root, whole] at member
    exact List.mem_cons.1 member

theorem mem_rooted {c : Char} {s : List Char} (h : c ∈ rooted s) : c = '/' ∨ c ∈ s := by
  unfold rooted at h
  split at h
  · exact .inr h
  · exact List.mem_cons.1 h

theorem canonical_normalizeChars (s : List Char) : Canonical (normalizeChars s) := by
  have piece : ∀ x ∈ resolve [] (segments (withoutQuery s)), '/' ∉ x ∧ '?' ∉ x ∧ ¬IsDots x := by
    intro x member
    rcases mem_resolve member with none | rfl | ⟨inside, plain⟩
    · cases none
    · exact ⟨List.not_mem_nil, List.not_mem_nil, by decide⟩
    · refine ⟨slash_not_mem inside, fun mark => ?_, plain⟩
      have early := List.mem_takeWhile_imp (mem_of_mem_segments inside mark)
      simp at early
  have some_piece := resolve_ne_nil [] (segments_ne_nil (withoutQuery s))
  refine ⟨head?_rooted _, fun mark => ?_, fun x member => ?_⟩
  · rcases mem_rooted mark with root | inside
    · exact absurd root (by decide)
    · rcases Text.mem_join.1 inside with ⟨slash, _⟩ | ⟨x, member, within⟩
      · exact absurd slash (by decide)
      · exact (piece x member).2.1 within
  · rcases mem_segments_rooted some_piece (fun x member => (piece x member).1) member with rfl | inside
    · decide
    · exact not_or.1 (piece x inside).2.2

theorem canonical_normalize (path : String) : Canonical (normalize path).toList := by
  rw [normalize, String.toList_ofList]
  exact canonical_normalizeChars path.toList

theorem normalize_eq_self_iff {path : String} : normalize path = path ↔ Canonical path.toList := by
  constructor
  · intro same
    rw [← same]
    exact canonical_normalize path
  · intro h
    rw [normalize, h.normalizeChars_eq, String.ofList_toList]

/-- What stands before the query of a path, with another query after it or with none. -/
def withQuery (path : String) (query : Option String) : String :=
  String.ofList (path.toList.takeWhile (· ≠ '?') ++ query.elim [] ('?' :: ·.toList))

theorem normalize_withQuery (path : String) (query : Option String) :
    normalize (withQuery path query) = normalize path := by
  have early : ∀ c ∈ path.toList.takeWhile (· ≠ '?'), decide (c ≠ '?') = true := by
    intro c member
    exact List.mem_takeWhile_imp (p := fun c => decide (c ≠ '?')) member
  have same : withoutQuery (withQuery path query).toList = withoutQuery path.toList := by
    rw [withQuery, String.toList_ofList, withoutQuery, List.takeWhile_append_of_pos early, withoutQuery]
    cases query <;> simp
  rw [normalize, normalize, normalizeChars, normalizeChars, same]

end Path

theorem Pattern.matchesPath_of_normalize {path other : String} (same : Path.normalize other = Path.normalize path)
    (p : Pattern) : p.matchesPath other = p.matchesPath path := by
  rw [matchesPath, matchesPath, same]

/-- A path in its normal form begins with a slash, has no query and no dot segments, and is its own normal form. Patterns
and sets of patterns answer alike for a path, for its normal form and for the path with any other query. -/
theorem normalized_paths_are_canonical (path : String) :
    Path.Canonical (Path.normalize path).toList ∧ Path.normalize (Path.normalize path) = Path.normalize path ∧
      (∀ p : Pattern, p.matchesPath (Path.normalize path) = p.matchesPath path ∧
        ∀ query, p.matchesPath (Path.withQuery path query) = p.matchesPath path) ∧
      ∀ s : PatternSet, s.matchPath? (Path.normalize path) = s.matchPath? path ∧
        ∀ query, s.matchPath? (Path.withQuery path query) = s.matchPath? path := by
  have canonical := Path.canonical_normalize path
  have again : Path.normalize (Path.normalize path) = Path.normalize path := Path.normalize_eq_self_iff.2 canonical
  refine ⟨canonical, again, fun p => ⟨?_, fun query => ?_⟩, fun s => ⟨?_, fun query => ?_⟩⟩
  · exact p.matchesPath_of_normalize again
  · exact p.matchesPath_of_normalize (Path.normalize_withQuery path query)
  · exact PatternSet.matchPath?_congr again
  · exact PatternSet.matchPath?_congr (Path.normalize_withQuery path query)

end WebCitation
