import WebCitation.Proofs.Failures
import WebCitation.Proofs.Groups
import WebCitation.Proofs.NormalForm

/-!
What holds of all rules, however they were put together. Every constructor and every builder sees to its own part
of it. Together they let no candidate of a domain be a template of another one, so a domain refuses the pages of
other domains and only these.
-/
namespace WebCitation

theorem FieldName.isForceRequired_iff {name : FieldName} :
    name.isForceRequired = true ↔ name = .itemType ∨ name = .title := by
  cases name <;> simp [isForceRequired]

namespace TemplateRules

/-- Item types and titles are required. -/
def RequiresForced (t : TemplateRules) : Prop :=
  ∀ f ∈ t.fields.items, f.name = .itemType ∨ f.name = .title → f.required = true

theorem Sound.requiresForced {t : TemplateRules} (h : t.Sound) : t.RequiresForced := by
  intro f member named
  exact (h.fields f member).required (FieldName.isForceRequired_iff.2 named)

end TemplateRules

/-- Rules that belong to a domain, with one field to a name. -/
structure TemplateRules.BelongsTo (t : TemplateRules) (name : DomainName) : Prop where
  domain : t.domain = name.text
  names : (t.fields.items.map TemplateField.name).Nodup
  required : t.RequiresForced

namespace Domain

/-- The domains that constructors and builders make, in any sequence. -/
inductive Arises : Domain → Prop where
  | ofText {name : String} {d : Domain} (h : ofText name = .ok d) : Arises d
  | ofDefinitions {name : String} {ds : Definition.Domain} {d : Domain} (h : ofDefinitions name ds = .ok d) :
      Arises d
  | withPatterns {d : Domain} (h : Arises d) (patterns : List Pattern) : Arises (d.withPatterns patterns)
  | withCatchAll {d d' : Domain} (h : Arises d) {pattern : String} (made : d.withCatchAll pattern = .ok d') :
      Arises d'
  | withTemplates {d : Domain} (h : Arises d) {templates : List Template} (arise : ∀ t ∈ templates, t.Arises) :
      Arises (d.withTemplates templates)
  | withFallback {d d' : Domain} (h : Arises d) {fallback : FallbackTemplate} (arises : fallback.Arises)
      (made : d.withFallback fallback = .ok d') : Arises d'
  | withTests {d : Domain} (h : Arises d) (tests : List Definition.Test) : Arises (d.withTests tests)

structure Consistent (d : Domain) : Prop where
  patterns : (d.own.items.map Pattern.text).Nodup
  template_paths : (d.templates.items.map Template.path).Nodup
  /-- A template is found at its own path. -/
  template? : ∀ path t, d.template? path = some t ↔ t ∈ d.templates.items ∧ t.path = path
  rooted : ∀ t ∈ d.templates.items, t.path.toList.head? = some '/'
  templates : ∀ t ∈ d.templates.items, t.toTemplateRules.BelongsTo d.name
  fallback : ∀ t, d.fallback = some t → TemplateRules.BelongsTo t d.name
  test_paths : (d.tests.items.map Definition.Test.path).Nodup
  test? : ∀ path t, d.test? path = some t ↔ t ∈ d.tests.items ∧ t.path = path

theorem consistent_of_rules {d : Domain} (rooted : ∀ t ∈ d.templates.items, t.path.toList.head? = some '/')
    (templates : ∀ t ∈ d.templates.items, t.domain = d.name.text ∧ t.RequiresForced)
    (fallback : ∀ t, d.fallback = some t → TemplateRules.BelongsTo t d.name) : d.Consistent where
  patterns := d.own.distinct
  template_paths := d.templates.distinct
  template? _ _ := Keyed.get?_eq_some_iff
  rooted := rooted
  templates t member := ⟨(templates t member).1, t.fields.distinct, (templates t member).2⟩
  fallback := fallback
  test_paths := d.tests.distinct
  test? _ _ := Keyed.get?_eq_some_iff

theorem Consistent.withTemplates {d : Domain} (h : d.Consistent) {templates : List Template}
    (arise : ∀ t ∈ templates, t.Arises) : (d.withTemplates templates).Consistent := by
  refine consistent_of_rules ?_ ?_ h.fallback
  · intro t member
    exact (arise t (of_mem_withTemplates member).1).sound.path
  · intro t member
    obtain ⟨given, own⟩ := of_mem_withTemplates member
    exact ⟨own, (arise t given).sound.rules.requiresForced⟩

theorem Consistent.withFallback {d d' : Domain} (h : d.Consistent) {fallback : FallbackTemplate}
    (arises : fallback.Arises) (made : d.withFallback fallback = .ok d') : d'.Consistent := by
  unfold Domain.withFallback at made
  split at made
  · rename_i own
    cases made
    refine { h with fallback := ?_ }
    rintro t same
    cases same
    exact ⟨own, Keyed.distinct _, arises.sound.requiresForced⟩
  · cases made

theorem Arises.consistent {d : Domain} (h : d.Arises) : d.Consistent := by
  -- Each builder answers for the part that it replaces; the other parts are those of the domain before it.
  induction h with
  | ofText h =>
    obtain ⟨n, _, rfl⟩ := map_eq_ok_iff.1 h
    exact consistent_of_rules nofun nofun nofun
  | ofDefinitions h =>
    have loaded := loaded_of_ofDefinitions h
    refine consistent_of_rules ?_ ?_ ?_
    · intro t member
      exact (loaded.sound.templates t member).path
    · intro t member
      exact ⟨loaded.sound.own t member, (loaded.sound.templates t member).rules.requiresForced⟩
    · rw [loaded.fallback]
      exact nofun
  | withPatterns _ patterns ih => exact { ih with patterns := Keyed.distinct _ }
  | withCatchAll _ made ih =>
    obtain ⟨catchAll, _, rfl⟩ := map_eq_ok_iff.1 made
    exact { ih with }
  | withTemplates _ arise ih => exact ih.withTemplates arise
  | withFallback _ arises made ih => exact ih.withFallback arises made
  | withTests _ tests ih => exact { ih with test_paths := Keyed.distinct _, test? := fun _ _ => Keyed.get?_eq_some_iff }

theorem Consistent.belongsTo_of_rulesAt? {d : Domain} (h : d.Consistent) {path : Option String}
    {rules : TemplateRules} (ruled : d.rulesAt? path = some rules) : rules.BelongsTo d.name := by
  cases path with
  | some own =>
    obtain ⟨t, ht, same⟩ := Option.map_eq_some_iff.1 ruled
    exact same ▸ h.templates t ((h.template? own t).1 ht).1
  | none => exact h.fallback rules ruled

/-- No template of another domain is tried. -/
theorem Consistent.domain_of_mem_candidates {d : Domain} (h : d.Consistent) {path : String}
    {templates : Option (List String)} {c : Candidate} (member : c ∈ d.candidates path templates) :
    c.rules.domain = d.name.text :=
  (h.belongsTo_of_rulesAt? (rulesAt?_of_mem_candidates member)).domain

/-- Whatever a reading of a page of the domain fails with, some candidate fails with. -/
theorem exists_candidate_failsWith {s : Served} {e : ReadingError} {d : Domain} {target : Webpage}
    {options : ReadingOptions} (own : target.domain = d.name.text)
    (h : (d.reading target options).FailsWith s e) :
    ∃ c ∈ d.candidates target.path options.templates, (c.reading target).FailsWith s e := by
  rw [reading, if_pos own, Reading.failsWith_map, readingOf] at h
  split at h
  · exact Reading.failsWith_all h
  · exact Reading.failsWith_upTo h

end Domain

theorem Selection.reading_ne_crossDomain {s : Served} (selection : Selection) (own other : String) :
    selection.reading.resultOn s ≠ .error (.crossDomain own other) := by
  intro h
  obtain ⟨_, h⟩ | ⟨_, h⟩ | ⟨_, _, _, _, _, h⟩ := error_of_reading h <;> cases h

/-- Of a consistent domain, no candidate refuses a page that the domain itself takes. -/
theorem Domain.Consistent.not_crossDomain {d : Domain} (h : d.Consistent) {v : Visit}
    (same : v.webpage.domain = d.name.text) (options : ReadingOptions) (own other : String) :
    (v.readBy d options).1 ≠ .error (.crossDomain own other) := by
  intro failed
  obtain ⟨c, member, hc⟩ := exists_candidate_failsWith same (Visit.failsWith_of_run failed)
  have agrees : v.webpage.domain = c.rules.domain := same.trans (h.domain_of_mem_candidates member).symm
  obtain ⟨selection, _, hs⟩ := TemplateRules.failsWith_reading agrees hc
  exact selection.reading_ne_crossDomain own other hs

theorem Domain.readBy_of_other_domain {d : Domain} {v : Visit} (other : v.webpage.domain ≠ d.name.text)
    (options : ReadingOptions) : (v.readBy d options).1 = .error (.crossDomain d.name.text v.webpage.domain) := by
  rw [Visit.readBy, reading, if_neg other, Visit.run]
  rfl

/-- Every domain that comes about is consistent, whatever it was put together from and in whatever sequence. So it
refuses the pages of other domains, and whichever of its templates are tried, none of them refuses a page of its
own. -/
theorem rules_are_consistent {d : Domain} (h : d.Arises) :
    d.Consistent ∧ ∀ (v : Visit) (options : ReadingOptions),
      ((∃ own other, (v.readBy d options).1 = .error (.crossDomain own other)) ↔
        v.webpage.domain ≠ d.name.text) ∧
      (v.webpage.domain ≠ d.name.text →
        (v.readBy d options).1 = .error (.crossDomain d.name.text v.webpage.domain)) := by
  have consistent := h.consistent
  refine ⟨consistent, fun v options => ⟨⟨?_, ?_⟩, fun other => Domain.readBy_of_other_domain other options⟩⟩
  · rintro ⟨own, other, failed⟩ same
    exact consistent.not_crossDomain same options own other failed
  · intro other
    exact ⟨_, _, Domain.readBy_of_other_domain other options⟩

namespace ForeignTemplate

def template (domain : String) : Template :=
  Template.withFields ⟨.ofDomain domain, "/x"⟩ [.ofName .title, TemplateField.withProcedures (.ofName .title) []]

theorem template_arises (domain : String) : (template domain).Arises := by
  have blank : Template.Arises ⟨.ofDomain domain, "/x"⟩ := .ofPath (rfl : Template.ofPath domain "/x" = .ok _)
  refine blank.withFields fun f member => ?_
  simp only [List.mem_cons, List.not_mem_nil, or_false] at member
  rcases member with rfl | rfl
  · exact .ofName .title
  · exact .withProcedures (.ofName .title) []

/-- A domain that was given a template of another one, and that is written in upper case where it is named. -/
def domain : Domain :=
  let named := Domain.ofName ⟨"m.n", by decide⟩
  { named.withTemplates [template "o.p", template "M.N"] with fallback := some (.citoidDefault "M.n") }

theorem domain_arises : domain.Arises := by
  have named : (Domain.ofName ⟨"m.n", by decide⟩).Arises := .ofText (rfl : Domain.ofText "M.N" = .ok _)
  have given : ∀ t ∈ [template "o.p", template "M.N"], t.Arises := by
    intro t member
    simp only [List.mem_cons, List.not_mem_nil, or_false] at member
    rcases member with rfl | rfl
    · exact template_arises "o.p"
    · exact template_arises "M.N"
  exact .withFallback (.withTemplates named given) (.ofDefinition "M.n" FallbackTemplate.citoidDefinition) rfl

def visit (host : String) : Visit :=
  .start ⟨⟨.https, "", "", host, none, "/x", none, none⟩⟩ (.error .transport) (.error .transport) none none

theorem domain_refuses_foreign_pages :
    domain.Arises ∧ domain.Consistent ∧ domain.templates.items = [template "M.N"] ∧
      ((visit "o.p").readBy domain .standard).1 = .error (.crossDomain "m.n" "o.p") ∧
      ¬ ∃ own other, ((visit "m.n").readBy domain .standard).1 = .error (.crossDomain own other) := by
  obtain ⟨consistent, refuses⟩ := rules_are_consistent domain_arises
  refine ⟨domain_arises, consistent, rfl, (refuses (visit "o.p") .standard).2 (by decide), fun refused => ?_⟩
  exact (refuses (visit "m.n") .standard).1.1 refused rfl

end ForeignTemplate
end WebCitation
