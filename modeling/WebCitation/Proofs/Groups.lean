import WebCitation.Proofs.Records

/-!
Groups of paths and the templates that are tried. The group of a pattern holds the paths that it claims, in their
order. Without given paths, the templates that are tried for a page are those in the group of its pattern.
-/
namespace WebCitation

namespace PatternSet

def claim? (s : PatternSet) (path : String) : Option String := (s.matchPath? path).map Pattern.text

def place (s : PatternSet) (groups : Groups) (path : String) : Groups :=
  match s.matchPath? path with
  | some p => Groups.add p.text path groups
  | none => groups

theorem add_map {patterns : List Pattern} (distinct : (patterns.map Pattern.text).Nodup)
    (text path : String) (paths : Pattern → List String) :
    Groups.add text path (patterns.map fun p => (p.text, paths p)) =
      patterns.map fun p => (p.text, if p.text = text then paths p ++ [path] else paths p) := by
  induction patterns with
  | nil => rfl
  | cons p patterns ih =>
    rw [List.map_cons, List.nodup_cons] at distinct
    rw [List.map_cons, List.map_cons, Groups.add]
    by_cases here : p.text = text
    · -- The other patterns have other texts, so nothing is added to their groups.
      have others : ∀ q ∈ patterns, q.text ≠ text := by
        intro q member same
        exact distinct.1 (here ▸ same ▸ List.mem_map_of_mem member)
      rw [if_pos here, if_pos here]
      refine congrArg _ (List.map_congr_left fun q member => ?_)
      rw [if_neg (others q member)]
    · rw [if_neg here, if_neg here, ih distinct.2]

theorem place_map (s : PatternSet) (path : String) (paths : Pattern → List String) :
    s.place (s.items.map fun p => (p.text, paths p)) path =
      s.items.map fun p => (p.text, paths p ++ [path].filter fun path => s.claim? path = some p.text) := by
  unfold place
  cases h : s.matchPath? path with
  | none =>
    refine List.map_congr_left fun p _ => ?_
    simp [claim?, h]
  | some q =>
    dsimp only
    rw [add_map s.distinct]
    refine List.map_congr_left fun p _ => ?_
    by_cases here : p.text = q.text
    · simp [claim?, h, here]
    · simp [claim?, h, here, Ne.symm here]

/-- Each pattern has a group, in the order of the patterns, with the paths that it claims in their order. -/
theorem sortPaths_eq_map (s : PatternSet) (paths : List String) :
    s.sortPaths paths =
      s.items.map fun p => (p.text, paths.filter fun path => s.claim? path = some p.text) := by
  have placed : ∀ before : Pattern → List String,
      paths.foldl s.place (s.items.map fun p => (p.text, before p)) =
        s.items.map fun p => (p.text, before p ++ paths.filter fun path => s.claim? path = some p.text) := by
    induction paths with
    | nil => simp
    | cons path paths ih =>
      intro before
      rw [List.foldl_cons, place_map, ih]
      refine List.map_congr_left fun p _ => ?_
      rw [List.append_assoc, ← List.filter_append, List.singleton_append]
  exact placed fun _ => []

/-- The paths that the pattern claims are found under its glob text. -/
theorem lookup_sortPaths {s : PatternSet} {p : Pattern} (h : p ∈ s.items) (paths : List String) :
    (s.sortPaths paths).lookup p.text = some (paths.filter fun path => s.claim? path = some p.text) := by
  rw [sortPaths_eq_map]
  generalize s.items = patterns at h
  induction patterns with
  | nil => cases h
  | cons q patterns ih =>
    rw [List.map_cons, List.lookup_cons]
    by_cases here : p.text = q.text
    · simp [here]
    · have later : p ∈ patterns := (List.mem_cons.1 h).resolve_left fun same => here (congrArg _ same)
      have other : (p.text == q.text) = false := beq_false_of_ne here
      rw [other, ih later]

end PatternSet

namespace Domain

variable {d : Domain}

def templatePaths (d : Domain) : List String := d.templates.items.map Template.path

def fallbackPath (d : Domain) : List (Option String) := (d.fallback.map fun _ => none).toList

/-- The rules at a path; without a path, those of the fallback. -/
def rulesAt? (d : Domain) : Option String → Option TemplateRules
  | some path => (d.template? path).map Template.toTemplateRules
  | none => d.fallback

/-- An output that the rules at a path have for a page. -/
structure OutputAt (d : Domain) (s : Served) (target : Webpage) (path : Option String)
    (o : TemplateOutput) : Prop where
  placed : o.path = path
  made : ∃ rules, d.rulesAt? path = some rules ∧ (rules.reading path target).resultOn s = .ok o

theorem rulesAt?_of_mem {t : Template} (h : t ∈ d.templates.items) :
    d.rulesAt? (some t.path) = some t.toTemplateRules := by
  have found : d.template? t.path = some t := Keyed.get?_eq_some_iff.2 ⟨h, rfl⟩
  rw [rulesAt?, found]
  rfl

theorem template?_isSome_iff {path : String} : (d.template? path).isSome ↔ path ∈ d.templatePaths := by
  rw [Option.isSome_iff_ne_none, ne_eq, template?, Keyed.get?_eq_none_iff, not_not]
  rfl

theorem rulesAt?_of_mem_candidates {path : String} {templates : Option (List String)} {c : Candidate}
    (h : c ∈ d.candidates path templates) : d.rulesAt? c.path = some c.rules := by
  cases templates with
  | some paths =>
    obtain ⟨asked, _, hc⟩ := List.mem_filterMap.1 h
    obtain ⟨t, ht, rfl⟩ := Option.map_eq_some_iff.1 hc
    exact rulesAt?_of_mem (Keyed.get?_eq_some_iff.1 ht).1
  | none =>
    rcases List.mem_append.1 h with h | h
    · obtain ⟨t, ht, rfl⟩ := List.mem_map.1 h
      cases hclaim : d.claim? path with
      | none => simp [hclaim] at ht
      | some glob =>
        simp only [hclaim, Option.map_some, Option.getD_some] at ht
        exact rulesAt?_of_mem (List.mem_filter.1 ht).1
    · obtain ⟨t, ht, rfl⟩ := Option.map_eq_some_iff.1 (Option.mem_toList.1 h)
      exact ht

theorem map_path_candidates_some (path : String) (paths : List String) :
    (d.candidates path (some paths)).map Candidate.path =
      (paths.filter (· ∈ d.templatePaths)).map some := by
  induction paths with
  | nil => rfl
  | cons asked paths ih =>
    have tail : (paths.filterMap fun path => (d.template? path).map Candidate.ofTemplate).map Candidate.path =
        (paths.filter (· ∈ d.templatePaths)).map some := ih
    rw [candidates]
    cases h : d.template? asked with
    | none =>
      have missing : asked ∉ d.templatePaths := by
        rw [← template?_isSome_iff, h]
        exact nofun
      simp [h, missing, tail]
    | some t =>
      have present : asked ∈ d.templatePaths := by
        rw [← template?_isSome_iff, h]
        rfl
      have own : t.path = asked := (Keyed.get?_eq_some_iff.1 h).2
      simp [h, present, tail, Candidate.ofTemplate, own]

/-- Candidates for a path that a pattern claims are the templates in the group of that pattern, and the
fallback. -/
theorem map_path_candidates_of_claimed {path : String} {p : Pattern} (h : d.matchPath? path = some p) :
    ∃ group, (d.sortPaths d.templatePaths).lookup p.text = some group ∧
      (d.candidates path none).map Candidate.path = group.map some ++ d.fallbackPath := by
  have member : p ∈ d.patterns.items := List.mem_of_find?_eq_some h
  refine ⟨_, PatternSet.lookup_sortPaths member _, ?_⟩
  have claimed : d.claim? path = some p.text := congrArg (Option.map Pattern.text) h
  have fallback : (d.fallback.map Candidate.ofFallback).toList.map Candidate.path = d.fallbackPath := by
    unfold fallbackPath
    cases d.fallback <;> rfl
  rw [candidates, claimed, List.map_append, fallback, templatePaths, List.filter_map, List.map_map,
    List.map_map]
  rfl

/-- Where no pattern claims the path, there is only the fallback. -/
theorem map_path_candidates_of_unclaimed {path : String} (h : d.matchPath? path = none) :
    (d.candidates path none).map Candidate.path = d.fallbackPath := by
  have unclaimed : d.claim? path = none := congrArg (Option.map Pattern.text) h
  unfold fallbackPath
  rw [candidates, unclaimed]
  cases d.fallback <;> rfl

/-- Where all candidates are tried and have outputs, these are the outputs at their paths. -/
theorem outputs_at_candidates {v : Visit} {templates : Option (List String)} {outs : List TemplateOutput}
    (h : (v.readBy d ⟨templates, true, false⟩).1 = .ok outs) :
    List.Forall₂ (d.OutputAt v.served v.webpage)
      ((d.candidates v.webpage.path templates).map Candidate.path) outs := by
  rw [Visit.readBy_eq_ok_iff, resultOn_reading_eq_ok_iff] at h
  obtain ⟨_, tried, htried, rfl⟩ := h
  rw [readingOf, if_pos rfl, Reading.resultOn_all, mapM_eq_ok_iff, List.forall₂_map_left_iff] at htried
  rw [List.forall₂_map_left_iff]
  have ruled : ∀ c ∈ d.candidates v.webpage.path templates, d.rulesAt? c.path = some c.rules :=
    fun _ => rulesAt?_of_mem_candidates
  refine ((List.forall₂_and_left _ _).2 ⟨ruled, htried⟩).imp ?_
  rintro c o ⟨rules, made⟩
  exact ⟨(Candidate.records_of_reading made).path, c.rules, rules, made⟩

end Domain

/-- Let all candidates be tried. Without given paths there is one output for each path in the group of the
pattern that claims the page, in the order of the group, and then that of the fallback; only the latter where
no pattern claims the page. With given paths there is one output for each of them that is the path of a
template, and none of the fallback. -/
theorem outputs_agree_with_groups (d : Domain) (v : Visit) :
    (∀ outs, (v.readBy d ⟨none, true, false⟩).1 = .ok outs →
      match d.matchPath? v.webpage.path with
      | some p =>
        ∃ group, (d.sortPaths d.templatePaths).lookup p.text = some group ∧
          List.Forall₂ (d.OutputAt v.served v.webpage) (group.map some ++ d.fallbackPath) outs
      | none => List.Forall₂ (d.OutputAt v.served v.webpage) d.fallbackPath outs) ∧
    ∀ paths outs, (v.readBy d ⟨some paths, true, false⟩).1 = .ok outs →
      List.Forall₂ (d.OutputAt v.served v.webpage)
        ((paths.filter (· ∈ d.templatePaths)).map some) outs := by
  refine ⟨fun outs h => ?_, fun paths outs h => ?_⟩
  · cases claimed : d.matchPath? v.webpage.path with
    | some p =>
      obtain ⟨group, found, same⟩ := Domain.map_path_candidates_of_claimed claimed
      exact ⟨group, found, same ▸ Domain.outputs_at_candidates h⟩
    | none => exact Domain.map_path_candidates_of_unclaimed claimed ▸ Domain.outputs_at_candidates h
  · exact Domain.map_path_candidates_some v.webpage.path paths ▸ Domain.outputs_at_candidates h

namespace ThreeTemplates

def target : Webpage := ⟨⟨.https, "", "", "e.f", none, "/a/3", none, none⟩⟩

def belowA : Pattern := ⟨⟨"/a/*", [.char '/', .char 'a', .char '/', .run], by simp [Glob.parse]; rfl⟩, none⟩

def template (path : String) : Template := ⟨⟨"e.f", none, Keyed.empty⟩, path⟩

/-- A domain with templates in and out of the group of its own pattern, and a fallback. -/
def domain : Domain :=
  { Domain.ofName ⟨"e.f", by decide⟩ with
    own := ⟨[belowA], by decide⟩
    templates := ⟨[template "/a/1", template "/b", template "/a/2"], by decide⟩
    fallback := some ⟨"e.f", none, Keyed.empty⟩ }

def visit : Visit := .start target (.error .transport) (.error .transport) none none

def output (path : Option String) : TemplateOutput :=
  ⟨"e.f", path, none, [], true, some (.ofUrl target.address)⟩

theorem outputs_of_three_templates :
    ((visit.readBy domain ⟨none, true, false⟩).1 =
        .ok [output (some "/a/1"), output (some "/a/2"), output none] ∧
      ∃ group, (domain.sortPaths domain.templatePaths).lookup belowA.text = some group ∧
        List.Forall₂ (domain.OutputAt visit.served target) (group.map some ++ [none])
          [output (some "/a/1"), output (some "/a/2"), output none]) ∧
      (visit.readBy domain ⟨some ["/b", "/c", "/b"], true, false⟩).1 =
        .ok [output (some "/b"), output (some "/b")] ∧
      List.Forall₂ (domain.OutputAt visit.served target) [some "/b", some "/b"]
        [output (some "/b"), output (some "/b")] := by
  have grouped : (visit.readBy domain ⟨none, true, false⟩).1 =
      .ok [output (some "/a/1"), output (some "/a/2"), output none] := Visit.readBy_eq_ok_iff.2 rfl
  have given : (visit.readBy domain ⟨some ["/b", "/c", "/b"], true, false⟩).1 =
      .ok [output (some "/b"), output (some "/b")] := Visit.readBy_eq_ok_iff.2 rfl
  obtain ⟨atGroup, atGiven⟩ := outputs_agree_with_groups domain visit
  exact ⟨⟨grouped, atGroup _ grouped⟩, given, atGiven _ _ given⟩

end ThreeTemplates
end WebCitation
