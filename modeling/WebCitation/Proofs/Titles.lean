import WebCitation.Proofs.Invariants
import WebCitation.Proofs.Noise
import WebCitation.Proofs.WellFormed

/-!
Titles of citations. Item types and titles are always required, which asks for values where a template has such a
field. A template without it may apply all the same, and then its citation goes without.
-/
namespace WebCitation

namespace TemplateRules

variable {s : Served} {t : TemplateRules} {fields : List FieldOutput}

def names (t : TemplateRules) : List FieldName := t.fields.items.map TemplateField.name

/-- Where all fields apply, one that is required holds values. -/
theorem valid_of_required (h : List.Forall₂ (TemplateField.Records s) t.fields.items fields)
    (applies : fields.all FieldOutput.applicable = true) {f : TemplateField} (member : f ∈ t.fields.items)
    (required : f.required = true) : ∃ o, TemplateOutput.validField? fields f.name = some o ∧ f.Records s o := by
  obtain ⟨o, inside, hf⟩ := exists_mem_of_forall₂ h.flip member
  have applicable : o.applicable = true := List.all_eq_true.1 applies o inside
  have valid : o.valid = true := by
    obtain valid | optional := hf.applicable_iff.1 applicable
    · exact valid
    · rw [required] at optional
      cases optional
  have found := TemplateOutput.validField?_of_mem (distinct_names h) inside
  rw [hf.name, valid, if_pos rfl] at found
  exact ⟨o, found, hf⟩

theorem validField?_eq_none_of_absent (h : List.Forall₂ (TemplateField.Records s) t.fields.items fields)
    {name : FieldName} (absent : name ∉ t.names) : TemplateOutput.validField? fields name = none := by
  rw [Option.eq_none_iff_forall_ne_some]
  intro o found
  obtain ⟨inside, _, rfl⟩ := TemplateOutput.mem_of_validField? found
  have same : fields.map FieldOutput.name = t.names := map_name_of_records h
  exact absent (same ▸ List.mem_map_of_mem inside)

/-- A field that is always required fills its part of every citation of its template. -/
theorem exists_part?_of_forced (h : List.Forall₂ (TemplateField.Records s) t.fields.items fields)
    (forced : t.RequiresForced) (applies : fields.all FieldOutput.applicable = true) {name : FieldName}
    (isForced : name.isForceRequired = true) (present : name ∈ t.names) (url : String) :
    ∃ value, (TemplateOutput.cite url fields).part? name = some value ∧ name.Takes value := by
  obtain ⟨f, member, rfl⟩ := List.mem_map.1 present
  have named : f.name = .itemType ∨ f.name = .title := FieldName.isForceRequired_iff.1 isForced
  have single : f.name.isArray = false ∧ f.name.isControl = false := by
    obtain named | named := named <;> rw [named] <;> exact ⟨rfl, rfl⟩
  obtain ⟨o, found, hf⟩ := valid_of_required h applies member (forced f member named)
  have part := (sumsUp_cite h url).part f.name single.1 single.2
  rw [found] at part
  obtain ⟨value, output, filled⟩ := part
  have inside : value ∈ o.values := by simp [FieldOutput.values, output]
  exact ⟨value, filled, hf.name ▸ hf.takes inside⟩

end TemplateRules

/-- A name is among the loaded fields if some definition under it is accepted; repetitions and refused definitions
beside it make no difference. -/
theorem FieldSet.mem_names_ofDefinitions {ds : List Definition.Field} {name : FieldName} :
    name ∈ (ofDefinitions ds).items.map TemplateField.name ↔
      ∃ d ∈ ds, d.Accepted ∧ FieldName.parse d.fieldname = .ok name := by
  rw [ofDefinitions, Keyed.ofList, Keyed.mem_keys_foldl_push]
  constructor
  · rintro (before | given)
    · cases before
    · obtain ⟨f, member, rfl⟩ := List.mem_map.1 given
      obtain ⟨d, inside, made⟩ := List.mem_filterMap.1 member
      have made : TemplateField.ofDefinition d = .ok f := eq_ok_iff_toOption.2 made
      exact ⟨d, inside, ⟨f, made⟩, TemplateField.parse_of_ofDefinition made⟩
  · rintro ⟨d, inside, ⟨f, made⟩, parsed⟩
    rw [TemplateField.parse_of_ofDefinition made] at parsed
    cases parsed
    exact .inr (List.mem_map_of_mem (List.mem_filterMap.2 ⟨d, inside, eq_ok_iff_toOption.1 made⟩))

/-- An output of a domain is that of a candidate. -/
theorem Domain.Records.exists_candidate {s : Served} {d : Domain} {target : Webpage} {options : ReadingOptions}
    {outs : List TemplateOutput} (h : d.Records s target options outs) {o : TemplateOutput} (member : o ∈ outs) :
    ∃ c ∈ d.candidates target.path options.templates, c.Records s target o := by
  obtain ⟨tried, outputs, first, _, records, made⟩ := h.candidates
  have inside : o ∈ outputs := by
    rw [made] at member
    split at member
    · exact (List.mem_filter.1 member).1
    · exact member
  obtain ⟨c, ht, hc⟩ := exists_mem_of_forall₂ records inside
  exact ⟨c, first.subset ht, hc⟩

/-- The citation of an output that applies has a title just where its rules have one. -/
theorem Domain.Records.exists_titled_rules {s : Served} {d : Domain} (arises : d.Arises) {target : Webpage}
    {options : ReadingOptions} {outs : List TemplateOutput} (h : d.Records s target options outs) {o : TemplateOutput}
    (member : o ∈ outs) (applies : o.applicable = true) :
    ∃ rules c, d.rulesAt? o.path = some rules ∧ o.citation = some c ∧
      (.title ∈ rules.names → ∃ title, c.title = some title ∧ title ≠ "") ∧ (.title ∉ rules.names → c.title = none) := by
  obtain ⟨c, candidate, hc⟩ := h.exists_candidate member
  have ruled : d.rulesAt? c.path = some c.rules := Domain.rulesAt?_of_mem_candidates candidate
  have all : o.fields.all FieldOutput.applicable = true := hc.applicable ▸ applies
  have cited : o.citation = some (TemplateOutput.cite target.address o.fields) :=
    hc.citation_eq_some_iff.2 ⟨applies, rfl⟩
  refine ⟨c.rules, _, hc.path ▸ ruled, cited, fun titled => ?_, fun untitled => ?_⟩
  · have forced : c.rules.RequiresForced := (arises.consistent.belongsTo_of_rulesAt? ruled).required
    obtain ⟨title, filled, taken⟩ :=
      TemplateRules.exists_part?_of_forced hc.fields forced all rfl titled target.address
    exact ⟨title, filled, (taken.isLine rfl).nonempty⟩
  · have part := (TemplateRules.sumsUp_cite hc.fields target.address).part .title rfl rfl
    rw [TemplateRules.validField?_eq_none_of_absent hc.fields untitled] at part
    exact part

/-- Every output that applies has a citation, and its title is there and not empty wherever the rules at the path of
the output have a title. Rules without one cite none, and apply all the same: only the fields that there are count.
Loaded rules have a title where some definition of one is accepted. -/
theorem applicable_outputs_have_titles {d : Domain} (h : d.Arises) {v : Visit} {options : ReadingOptions}
    {outs : List TemplateOutput} (ran : (v.readBy d options).1 = .ok outs) :
    (∀ o ∈ outs, o.applicable = true →
      ∃ rules c, d.rulesAt? o.path = some rules ∧ o.citation = some c ∧
        (.title ∈ rules.names → ∃ title, c.title = some title ∧ title ≠ "") ∧
        (.title ∉ rules.names → c.title = none)) ∧
    (∀ o ∈ outs, ∃ rules, d.rulesAt? o.path = some rules ∧ o.fields.map FieldOutput.name = rules.names ∧
      (o.applicable = true ↔ ∀ f ∈ o.fields, f.applicable = true)) ∧
    ∀ domain label ds, .title ∈ (TemplateRules.mk domain label (.ofDefinitions ds)).names ↔
      ∃ f ∈ ds, f.Accepted ∧ FieldName.parse f.fieldname = .ok .title := by
  have recorded := Domain.records_of_reading (Visit.readBy_eq_ok_iff.1 ran)
  refine ⟨?_, ?_, fun domain label ds => FieldSet.mem_names_ofDefinitions⟩
  · exact fun o member applies => recorded.exists_titled_rules h member applies
  · intro o member
    obtain ⟨c, candidate, hc⟩ := recorded.exists_candidate member
    refine ⟨c.rules, hc.path ▸ Domain.rulesAt?_of_mem_candidates candidate, ?_, ?_⟩
    · exact TemplateRules.map_name_of_records hc.fields
    · rw [hc.applicable, List.all_eq_true]

namespace UntitledTemplate

def definitions : Definition.Domain :=
  ⟨[], [⟨"/a", none, [⟨"title", [⟨[⟨"citoid", "title"⟩], []⟩], false⟩]⟩, ⟨"/b", none, []⟩], []⟩

def titledRules : TemplateRules :=
  ⟨"u.v", none, ⟨[⟨.title, true, [⟨[.citoid (some ⟨"title", FiveFields.title_listed⟩)], []⟩]⟩], by decide⟩⟩

def domain : Domain :=
  { Domain.ofName ⟨"u.v", by decide⟩ with
    templates := ⟨[⟨titledRules, "/a"⟩, ⟨⟨"u.v", none, Keyed.empty⟩, "/b"⟩], by decide⟩ }

theorem made : Domain.ofDefinitions "u.v" definitions = .ok domain := rfl

def visit : Visit :=
  .start ⟨⟨.https, "", "", "u.v", none, "/x", none, none⟩⟩ (.error .transport)
    (.ok ⟨[("title", .single "U")], by decide⟩) none none

theorem titles_of_two_templates :
    ∃ titled untitled c c', (visit.readBy domain ⟨none, true, true⟩).1 = .ok [titled, untitled] ∧
      titled.citation = some c ∧ (∃ title, c.title = some title ∧ title ≠ "") ∧
      untitled.citation = some c' ∧ c'.title = none := by
  obtain ⟨titled, untitled, ran, atA, applies, atB, bare⟩ : ∃ titled untitled,
      (visit.readBy domain ⟨none, true, true⟩).1 = .ok [titled, untitled] ∧
        titled.path = some "/a" ∧ titled.applicable = true ∧ untitled.path = some "/b" ∧ untitled.fields = [] :=
    ⟨_, _, Visit.readBy_eq_ok_iff.2 rfl, rfl, rfl, rfl, rfl⟩
  obtain ⟨cited, applicable, -⟩ := applicable_outputs_have_titles (.ofDefinitions made) ran
  obtain ⟨_, _, _, appliesIff⟩ := applicable untitled (by simp)
  have applies' : untitled.applicable = true := appliesIff.2 fun f member => by simp [bare] at member
  obtain ⟨rules, c, ruled, hc, present, -⟩ := cited titled (by simp) applies
  obtain ⟨rules', c', ruled', hc', -, absent⟩ := cited untitled (by simp) applies'
  rw [atA] at ruled
  rw [atB] at ruled'
  cases ruled
  cases ruled'
  exact ⟨titled, untitled, c, c', ran, hc, present (by decide), hc', absent (by decide)⟩

theorem untitled_output_applies :
    ∃ d o c, Domain.ofDefinitions "u.v" ⟨[], [⟨"/b", none, []⟩], []⟩ = .ok d ∧
      (visit.readBy d .standard).1 = .ok [o] ∧ o.applicable = true ∧ o.citation = some c ∧ c.title = none :=
  ⟨_, _, _, rfl, Visit.readBy_eq_ok_iff.2 rfl, rfl, rfl, rfl⟩

end UntitledTemplate
end WebCitation
