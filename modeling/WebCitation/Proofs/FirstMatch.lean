import Mathlib.Data.List.Nodup
import WebCitation.Proofs.Groups

/-!
Groups as a partition. Each path stands in the group of the first pattern that matches it, as often as it was given,
and in no other group; a path that no pattern matches is left out.
-/
namespace WebCitation

variable {α κ : Type}

section

variable [DecidableEq κ] {key? : α → Option κ} {k l : κ}

theorem filter_key_of_isSome (xs : List α) :
    ((xs.filter fun x => (key? x).isSome).filter fun x => key? x = some k) = xs.filter fun x => key? x = some k := by
  rw [List.filter_filter]
  refine List.filter_congr fun x _ => ?_
  by_cases hk : key? x = some k <;> simp [hk]

theorem filter_key_of_ne (other : l ≠ k) (xs : List α) :
    ((xs.filter fun x => !decide (key? x = some k)).filter fun x => key? x = some l) =
      xs.filter fun x => key? x = some l := by
  rw [List.filter_filter]
  refine List.filter_congr fun x _ => ?_
  by_cases hl : key? x = some l <;> simp [hl, other]

/-- Elements that are sorted under distinct keys are the elements that have a key. -/
theorem perm_flatMap_filter {keys : List κ} {xs : List α} (distinct : keys.Nodup)
    (keyed : ∀ x ∈ xs, ∀ k, key? x = some k → k ∈ keys) :
    (keys.flatMap fun k => xs.filter fun x => key? x = some k).Perm (xs.filter fun x => (key? x).isSome) := by
  induction keys generalizing xs with
  | nil =>
    have unkeyed : ∀ x ∈ xs, ¬ (key? x).isSome = true := by
      intro x member has
      obtain ⟨k, hk⟩ := Option.isSome_iff_exists.1 has
      cases keyed x member k hk
    rw [List.filter_eq_nil_iff.2 unkeyed, List.flatMap_nil]
  | cons k keys ih =>
    obtain ⟨fresh, distinct⟩ := List.nodup_cons.1 distinct
    -- The elements with the first key are taken out. The others are sorted under the other keys.
    have others := @ih (xs.filter fun x => !decide (key? x = some k)) distinct <| by
      intro x member l hl
      obtain ⟨given, other⟩ := List.mem_filter.1 member
      have different : l ≠ k := by
        rintro rfl
        simp [hl] at other
      exact (List.mem_cons.1 (keyed x given l hl)).resolve_left different
    have untouched : ∀ l ∈ keys, ((xs.filter fun x => !decide (key? x = some k)).filter fun x => key? x = some l) =
        xs.filter fun x => key? x = some l := by
      intro l member
      have other : l ≠ k := ne_of_mem_of_not_mem member fresh
      exact filter_key_of_ne other xs
    rw [List.flatMap_congr untouched, List.filter_comm] at others
    rw [List.flatMap_cons, ← filter_key_of_isSome xs]
    exact (others.append_left _).trans (List.filter_append_perm _ _)

end

namespace PatternSet

variable {s : PatternSet} {path : String} {p : Pattern}

def FirstMatch (patterns : List Pattern) (path : String) (p : Pattern) : Prop :=
  ∃ before after, patterns = before ++ p :: after ∧ p.matchesPath path = true ∧
    ∀ q ∈ before, q.matchesPath path = false

theorem matchPath?_eq_some_iff : s.matchPath? path = some p ↔ FirstMatch s.items path p := by
  constructor
  · intro h
    obtain ⟨matched, before, after, split, earlier⟩ := List.find?_eq_some_iff_append.1 h
    refine ⟨before, after, split, matched, ?_⟩
    intro q member
    exact Bool.not_eq_eq_eq_not.1 (earlier q member)
  · rintro ⟨before, after, split, matched, earlier⟩
    refine List.find?_eq_some_iff_append.2 ⟨matched, before, after, split, ?_⟩
    intro q member
    exact Bool.not_eq_eq_eq_not.2 (earlier q member)

theorem matchPath?_eq_none_iff : s.matchPath? path = none ↔ ∀ p ∈ s.items, p.matchesPath path = false := by
  constructor
  · intro h p member
    exact Bool.eq_false_iff.2 (List.find?_eq_none.1 h p member)
  · intro h
    refine List.find?_eq_none.2 ?_
    intro p member
    exact Bool.eq_false_iff.1 (h p member)

theorem matchPath?_eq_some_iff_of_split {before after : List Pattern} (split : s.items = before ++ p :: after) :
    s.matchPath? path = some p ↔ p.matchesPath path = true ∧ ∀ q ∈ before, q.matchesPath path = false := by
  rw [matchPath?_eq_some_iff]
  constructor
  · rintro ⟨before', after', split', matched, earlier⟩
    -- The patterns are distinct, so there is one place only at which `p` stands.
    have distinct : (before ++ p :: after).Nodup := split ▸ List.Nodup.of_map Pattern.text s.distinct
    have front : p ∉ before := fun early => (List.nodup_append.1 distinct).2.2 p early p List.mem_cons_self rfl
    have back : p ∉ after := (List.nodup_cons.1 (List.nodup_append.1 distinct).2.1).1
    have same := (List.append_cons_inj_of_notMem front back).1 (split.symm.trans split')
    exact ⟨matched, same.1 ▸ earlier⟩
  · rintro ⟨matched, earlier⟩
    exact ⟨before, after, split, matched, earlier⟩

theorem matchPath?_congr {other : String} (same : Path.normalize path = Path.normalize other) :
    s.matchPath? path = s.matchPath? other := by
  unfold matchPath?
  rw [same]

theorem claim?_eq_text_iff (member : p ∈ s.items) : s.claim? path = some p.text ↔ s.matchPath? path = some p := by
  constructor
  · intro h
    obtain ⟨q, hq, same⟩ := Option.map_eq_some_iff.1 h
    have found : q ∈ s.items := List.mem_of_find?_eq_some hq
    rw [hq, List.inj_on_of_nodup_map s.distinct found member same]
  · intro h
    rw [claim?, h]
    rfl

/-- The paths that a pattern is the first to match, under its glob text. -/
def group (s : PatternSet) (paths : List String) (p : Pattern) : String × List String :=
  (p.text, paths.filter fun path => s.matchPath? path = some p)

theorem sortPaths_eq_groups (s : PatternSet) (paths : List String) :
    s.sortPaths paths = s.items.map (s.group paths) := by
  rw [sortPaths_eq_map]
  refine List.map_congr_left fun p member => ?_
  simp only [group, claim?_eq_text_iff member]

theorem map_fst_sortPaths (s : PatternSet) (paths : List String) :
    (s.sortPaths paths).map Prod.fst = s.items.map Pattern.text := by
  rw [sortPaths_eq_groups, List.map_map]
  rfl

theorem mem_sortPaths_iff {paths : List String} {g : String × List String} :
    g ∈ s.sortPaths paths ∧ path ∈ g.2 ↔
      path ∈ paths ∧ ∃ p, s.matchPath? path = some p ∧ g = s.group paths p := by
  rw [sortPaths_eq_groups]
  constructor
  · rintro ⟨member, inside⟩
    obtain ⟨p, _, rfl⟩ := List.mem_map.1 member
    obtain ⟨given, matched⟩ := List.mem_filter.1 inside
    exact ⟨given, p, of_decide_eq_true matched, rfl⟩
  · rintro ⟨given, p, matched, rfl⟩
    refine ⟨List.mem_map_of_mem (List.mem_of_find?_eq_some matched), ?_⟩
    exact List.mem_filter.2 ⟨given, decide_eq_true matched⟩

theorem perm_sortPaths (s : PatternSet) (paths : List String) :
    ((s.sortPaths paths).flatMap Prod.snd).Perm (paths.filter fun path => (s.matchPath? path).isSome) := by
  rw [sortPaths_eq_groups, List.flatMap_map]
  refine perm_flatMap_filter (List.Nodup.of_map Pattern.text s.distinct) ?_
  intro path _ p matched
  exact List.mem_of_find?_eq_some matched

/-- Every pattern has one group, in the order of the set, and under its glob text. The group holds the paths that the
pattern is the first to match, in their order and with their repetitions, so that together the groups hold every path
that some pattern matches. -/
theorem groups_partition_paths (s : PatternSet) (paths : List String) :
    ((s.sortPaths paths).map Prod.fst = s.items.map Pattern.text ∧ (s.items.map Pattern.text).Nodup) ∧
      (∀ p ∈ s.items, ∀ group, (p.text, group) ∈ s.sortPaths paths ↔
        group = paths.filter fun path => s.matchPath? path = some p) ∧
      (∀ path ∈ paths, (∀ group ∈ s.sortPaths paths, path ∉ group.2) ↔
        ∀ p ∈ s.items, p.matchesPath path = false) ∧
      ((s.sortPaths paths).flatMap Prod.snd).Perm (paths.filter fun path => (s.matchPath? path).isSome) ∧
      ∀ path p, s.matchPath? path = some p ↔ FirstMatch s.items path p := by
  refine ⟨⟨map_fst_sortPaths s paths, s.distinct⟩, ?_, ?_, perm_sortPaths s paths,
    fun _ _ => matchPath?_eq_some_iff⟩
  · intro p member group
    rw [sortPaths_eq_groups]
    constructor
    · intro present
      obtain ⟨q, hq, same⟩ := List.mem_map.1 present
      have named : q.text = p.text := congrArg Prod.fst same
      have own : q = p := List.inj_on_of_nodup_map s.distinct hq member named
      subst own
      exact (congrArg Prod.snd same).symm
    · rintro rfl
      exact List.mem_map_of_mem member
  · intro path given
    rw [← matchPath?_eq_none_iff]
    constructor
    · intro outside
      cases matched : s.matchPath? path with
      | none => rfl
      | some p =>
        obtain ⟨member, inside⟩ := mem_sortPaths_iff.2 ⟨given, p, matched, rfl⟩
        exact absurd inside (outside _ member)
    · intro unmatched group member inside
      obtain ⟨_, p, matched, _⟩ := mem_sortPaths_iff.1 ⟨member, inside⟩
      rw [unmatched] at matched
      cases matched

namespace FourPatterns

open ThreeTemplates (belowA)

def withinA : Pattern := ⟨⟨"/a/**", [.char '/', .char 'a', .char '/', .segments], by simp [Glob.parse]; rfl⟩, none⟩

def fromB : Pattern := ⟨⟨"/b*", [.char '/', .char 'b', .run], by simp [Glob.parse]; rfl⟩, none⟩

def toB : Pattern := ⟨⟨"/*/b", [.char '/', .run, .char '/', .char 'b'], by simp [Glob.parse]; rfl⟩, none⟩

def patterns : PatternSet := ⟨[belowA, withinA, fromB, toB], by decide⟩

def paths : List String := ["/a/b", "/c", "/a/b/b", "/bb", "/a/x/../b?q", "/a/b"]

theorem groups_of_four_patterns :
    patterns.sortPaths paths =
        [("/a/*", ["/a/b", "/a/x/../b?q", "/a/b"]), ("/a/**", ["/a/b/b"]), ("/b*", ["/bb"]), ("/*/b", [])] ∧
      toB.matchesPath "/a/b" = true ∧ ("/*/b", ["/a/b"]) ∉ patterns.sortPaths paths ∧
      ∀ p ∈ patterns.items, p.matchesPath "/c" = false := by
  obtain ⟨_, grouped, outside, _, _⟩ := groups_partition_paths patterns paths
  have sorted : patterns.sortPaths paths =
      [("/a/*", ["/a/b", "/a/x/../b?q", "/a/b"]), ("/a/**", ["/a/b/b"]), ("/b*", ["/bb"]), ("/*/b", [])] := rfl
  refine ⟨sorted, rfl, ?_, ?_⟩
  · intro wrong
    have same := (grouped toB (by decide) ["/a/b"]).1 wrong
    have empty := (grouped toB (by decide) []).1 (by rw [sorted]; decide)
    cases same.trans empty.symm
  · refine (outside "/c" (by decide)).1 ?_
    rw [sorted]
    decide

end FourPatterns
end PatternSet
end WebCitation
