import Mathlib.Data.List.TakeWhile
import WebCitation.Proofs.FirstMatch
import WebCitation.Proofs.Invariants

/-!
The catch-all. Two stars after the slash match every path, so with them as its catch-all a domain claims every path.
The catch-all comes after the own patterns of the domain, unless one of them has its glob text already: then it claims
paths in that one's place, and the patterns after it come too late for them.
-/
namespace WebCitation

theorem Glob.eq_of_text {g h : Glob} (same : g.text = h.text) : g = h := by
  have again := compile_text g
  rw [same, compile_text h] at again
  exact (Except.ok.inj again).symm

namespace Pattern

variable {p q : Pattern}

/-- The label of a pattern has no part in what it matches. -/
theorem matchesPath_congr (same : p.text = q.text) (path : String) : p.matchesPath path = q.matchesPath path := by
  have globs : p.glob = q.glob := Glob.eq_of_text same
  rw [matchesPath, matchesPath, acceptsNormalized, acceptsNormalized, globs]

theorem matchesPath_of_text (named : p.text = "/**") (path : String) : p.matchesPath path = true := by
  have globs : p.glob = Domain.anyPath.glob := Glob.eq_of_text named
  rw [matchesPath, acceptsNormalized, globs]
  exact Glob.accepts_slash_segments (Path.head?_normalize path)

end Pattern

namespace Domain

variable {d : Domain} {path : String}

/-! Every path is claimed. -/

theorem isSome_matchPath?_of_anyPath (h : d.catchAll.text = "/**") (path : String) :
    (d.matchPath? path).isSome = true := by
  have present : d.catchAll.text ∈ d.patterns.items.map Pattern.text := Keyed.mem_keys_push.2 (.inr rfl)
  obtain ⟨p, member, named⟩ := List.mem_map.1 present
  have matched : p.matchesPath path = true := Pattern.matchesPath_of_text (named.trans h) path
  rw [Option.isSome_iff_ne_none]
  intro unclaimed
  have refused := PatternSet.matchPath?_eq_none_iff.1 unclaimed p member
  rw [matched] at refused
  cases refused

/-- A template is tried for the paths whose normal form is that of its own. -/
theorem mem_candidates_of_normalize {p : Pattern} {t : Template} (claimed : d.matchPath? path = some p)
    (member : t ∈ d.templates.items) (same : Path.normalize t.path = Path.normalize path) :
    Candidate.ofTemplate t ∈ d.candidates path none := by
  have claim : d.claim? path = some p.text := congrArg (Option.map Pattern.text) claimed
  have own : d.claim? t.path = some p.text := by
    rw [claim?, matchPath?, PatternSet.matchPath?_congr same]
    exact claim
  rw [candidates, claim]
  refine List.mem_append_left _ (List.mem_map_of_mem ?_)
  exact List.mem_filter.2 ⟨member, decide_eq_true own⟩

/-! Where the catch-all stands. -/

/-- The own patterns in front of the glob of the catch-all: all of them, unless one has its text. -/
def ahead (d : Domain) : List Pattern := d.own.items.takeWhile fun p => p.text ≠ d.catchAll.text

/-- Either the catch-all follows the own patterns, or one of them stands for it. -/
theorem patterns_cases (d : Domain) :
    (∀ p ∈ d.own.items, p.text ≠ d.catchAll.text) ∧ d.patterns.items = d.own.items ++ [d.catchAll] ∨
      ∃ before c after, d.own.items = before ++ c :: after ∧ c.text = d.catchAll.text ∧
        (∀ p ∈ before, p.text ≠ d.catchAll.text) ∧ d.patterns = d.own := by
  cases found : d.own.get? d.catchAll.text with
  | none =>
    refine .inl ⟨?_, Keyed.items_push_of_none found⟩
    intro p member named
    exact Keyed.get?_eq_none_iff.1 found (named ▸ List.mem_map_of_mem member)
  | some c =>
    obtain ⟨named, before, after, split, others⟩ := List.find?_eq_some_iff_append.1 found
    have present : d.catchAll.text ∈ d.own.items.map Pattern.text :=
      of_decide_eq_true named ▸ List.mem_map_of_mem (Keyed.get?_eq_some_iff.1 found).1
    refine .inr ⟨before, c, after, split, of_decide_eq_true named, ?_, Keyed.push_of_mem present⟩
    intro p member
    simpa using others p member

theorem patterns_eq_ahead (d : Domain) :
    ∃ c after, d.patterns.items = d.ahead ++ c :: after ∧ c.text = d.catchAll.text := by
  rcases d.patterns_cases with ⟨others, made⟩ | ⟨before, c, after, split, named, others, made⟩
  · have whole : d.ahead = d.own.items := by
      rw [ahead, List.takeWhile_eq_self_iff]
      intro p member
      exact decide_eq_true (others p member)
    rw [whole]
    exact ⟨d.catchAll, [], made, rfl⟩
  · have front : d.ahead = before := by
      rw [ahead, split, List.takeWhile_append_of_pos fun p member => decide_eq_true (others p member),
        List.takeWhile_cons_of_neg (by simpa using named), List.append_nil]
    rw [front, made]
    exact ⟨c, after, split, named⟩

/-- The catch-all claims what it matches and no pattern in front of it does. -/
theorem claim?_eq_catchAll_iff : d.claim? path = some d.catchAll.text ↔
    d.catchAll.matchesPath path = true ∧ ∀ p ∈ d.ahead, p.matchesPath path = false := by
  obtain ⟨c, after, split, named⟩ := d.patterns_eq_ahead
  have member : c ∈ d.patterns.items := by
    rw [split]
    exact List.mem_append_right _ List.mem_cons_self
  have claim : d.claim? path = some c.text ↔ d.patterns.matchPath? path = some c :=
    PatternSet.claim?_eq_text_iff member
  rw [← named, claim, Pattern.matchesPath_congr named.symm]
  exact PatternSet.matchPath?_eq_some_iff_of_split split

/-- The patterns end with the glob of the catch-all where no own pattern but the last has its text. -/
theorem getLast?_patterns_iff : (d.patterns.items.map Pattern.text).getLast? = some d.catchAll.text ↔
    ∀ p ∈ d.own.items.dropLast, p.text ≠ d.catchAll.text := by
  rcases d.patterns_cases with ⟨others, made⟩ | ⟨before, c, after, split, named, others, made⟩
  · rw [made, List.map_append, List.map_singleton, List.getLast?_concat]
    exact ⟨fun _ p member => others p (List.dropLast_subset _ member), fun _ => rfl⟩
  · have distinct := d.own.distinct
    rw [made, split]
    rw [split] at distinct
    rcases List.eq_nil_or_concat after with rfl | ⟨between, last, rfl⟩
    · rw [List.map_append, List.map_singleton, List.getLast?_concat, List.dropLast_concat, named]
      exact ⟨fun _ => others, fun _ => rfl⟩
    · have cut : before ++ c :: between.concat last = (before ++ c :: between) ++ [last] := by simp
      rw [cut, List.map_append, List.map_singleton] at distinct
      rw [cut, List.map_append, List.map_singleton, List.getLast?_concat, List.dropLast_concat]
      have earlier : c ∈ before ++ c :: between := List.mem_append_right _ List.mem_cons_self
      constructor
      · -- The last pattern would have the text of `c`.
        intro ends
        have same : last.text = d.catchAll.text := Option.some.inj ends
        have twice := (List.nodup_append.1 distinct).2.2 c.text (List.mem_map_of_mem earlier) last.text
          List.mem_cons_self
        exact absurd (named.trans same.symm) twice
      · intro free
        exact absurd named (free c earlier)

/-- Then every other own pattern stands in front of it. -/
theorem mem_ahead (h : ∀ p ∈ d.own.items.dropLast, p.text ≠ d.catchAll.text) {p : Pattern}
    (member : p ∈ d.own.items) (other : p.text ≠ d.catchAll.text) : p ∈ d.ahead := by
  have kept : ∀ q ∈ d.own.items.dropLast, decide (q.text ≠ d.catchAll.text) = true :=
    fun q early => decide_eq_true (h q early)
  rcases List.eq_nil_or_concat d.own.items with none | ⟨before, last, split⟩
  · rw [none] at member
    cases member
  · rw [split, List.concat_eq_append] at member kept
    rw [List.dropLast_concat] at kept
    rw [ahead, split, List.concat_eq_append, List.takeWhile_append_of_pos kept]
    rcases List.mem_append.1 member with early | late
    · exact List.mem_append_left _ early
    · have same : p = last := List.mem_singleton.1 late
      subst same
      exact List.mem_append_right _ (by simp [other])

end Domain

/-- With two stars after the slash as its catch-all, a domain claims every path, whatever its own patterns are. So its
groups hold all paths, each in one group, and a template is tried for the paths whose normal form is that of its own. -/
theorem default_catch_all_claims_every_path {d : Domain} (h : d.catchAll.text = "/**") :
    (∀ path, (d.matchPath? path).isSome = true) ∧
      (∀ paths, ((d.sortPaths paths).map Prod.fst).Nodup ∧ ((d.sortPaths paths).flatMap Prod.snd).Perm paths ∧
        ∀ path ∈ paths, ∃! group, group ∈ d.sortPaths paths ∧ path ∈ group.2) ∧
      ∀ path, ∀ t ∈ d.templates.items, Path.normalize t.path = Path.normalize path →
        Candidate.ofTemplate t ∈ d.candidates path none := by
  have claimed := d.isSome_matchPath?_of_anyPath h
  refine ⟨claimed, fun paths => ⟨?_, ?_, ?_⟩, ?_⟩
  · rw [Domain.sortPaths, PatternSet.map_fst_sortPaths]
    exact d.patterns.distinct
  · have all : (paths.filter fun path => (d.patterns.matchPath? path).isSome) = paths :=
      List.filter_eq_self.2 fun path _ => claimed path
    have grouped := PatternSet.perm_sortPaths d.patterns paths
    rw [all] at grouped
    exact grouped
  · intro path given
    obtain ⟨p, matched⟩ := Option.isSome_iff_exists.1 (claimed path)
    refine ⟨d.patterns.group paths p, PatternSet.mem_sortPaths_iff.2 ⟨given, p, matched, rfl⟩, ?_⟩
    intro group holds
    obtain ⟨_, q, matched', made⟩ := PatternSet.mem_sortPaths_iff.1 holds
    have same : q = p := Option.some.inj (matched'.symm.trans matched)
    rw [made, same]
  · intro path t member same
    obtain ⟨p, matched⟩ := Option.isSome_iff_exists.1 (claimed path)
    exact Domain.mem_candidates_of_normalize matched member same

namespace ThreeTemplates

theorem default_catch_all_of_three_templates :
    domain.catchAll.text = "/**" ∧ (domain.matchPath? "").isSome = true ∧
      domain.sortPaths ["", "/a/1", "b?/a/1"] = [("/a/*", ["/a/1"]), ("/**", ["", "b?/a/1"])] ∧
      (∃! group, group ∈ domain.sortPaths ["", "/a/1", "b?/a/1"] ∧ "b?/a/1" ∈ group.2) ∧
      Candidate.ofTemplate (template "/b") ∈ domain.candidates "/c/../b?q" none := by
  have named : domain.catchAll.text = "/**" := rfl
  obtain ⟨claimed, grouped, tried⟩ := default_catch_all_claims_every_path named
  obtain ⟨_, _, one⟩ := grouped ["", "/a/1", "b?/a/1"]
  refine ⟨named, claimed "", rfl, one "b?/a/1" (by decide), ?_⟩
  exact tried "/c/../b?q" (template "/b") (by decide) (by decide)

end ThreeTemplates

/-- The patterns of a domain end with the glob of the catch-all just where no own pattern before the last has its text.
The catch-all claims the paths that it matches and no pattern in front of it does. If it comes last, these are the paths
that no other own pattern matches. -/
theorem catch_all_comes_last_iff (d : Domain) :
    ((d.patterns.items.map Pattern.text).getLast? = some d.catchAll.text ↔
      ∀ p ∈ d.own.items.dropLast, p.text ≠ d.catchAll.text) ∧
      (∀ path, d.claim? path = some d.catchAll.text ↔
        d.catchAll.matchesPath path = true ∧ ∀ p ∈ d.ahead, p.matchesPath path = false) ∧
      ((d.patterns.items.map Pattern.text).getLast? = some d.catchAll.text →
        ∀ path, d.claim? path = some d.catchAll.text →
          ∀ p ∈ d.own.items, p.text ≠ d.catchAll.text → p.matchesPath path = false) := by
  refine ⟨Domain.getLast?_patterns_iff, fun path => Domain.claim?_eq_catchAll_iff, ?_⟩
  intro ends path claimed p member other
  have front : p ∈ d.ahead := Domain.mem_ahead (Domain.getLast?_patterns_iff.1 ends) member other
  exact (Domain.claim?_eq_catchAll_iff.1 claimed).2 p front

namespace OwnCatchAll

open ThreeTemplates (belowA)

def domain : Domain :=
  { Domain.ofName ⟨"example.com", by decide⟩ with own := ⟨[Domain.anyPath, belowA], by decide⟩ }

theorem loaded : Domain.ofDefinitions "example.com" ⟨[⟨"/**", none⟩, ⟨"/a/*", none⟩], [], []⟩ = .ok domain := by
  have sound : domain.Sound := ⟨nofun, nofun, nofun⟩
  exact Domain.ofDefinitions_of_sound sound (rfl : DomainName.ofText "example.com" = .ok domain.name)

theorem own_catch_all_hides_later_pattern :
    Domain.ofDefinitions "example.com" ⟨[⟨"/**", none⟩, ⟨"/a/*", none⟩], [], []⟩ = .ok domain ∧
      domain.catchAll.text = "/**" ∧ domain.patterns.items.map Pattern.text = ["/**", "/a/*"] ∧
      belowA ∈ domain.own.items ∧ belowA.text = "/a/*" ∧ belowA.matchesPath "/a/1" = true ∧
      domain.claim? "/a/1" = some "/**" :=
  ⟨loaded, rfl, rfl, by decide, rfl, rfl, rfl⟩

end OwnCatchAll
end WebCitation
