import WebCitation.Domain.Basic
import WebCitation.Proofs.Result

/-!
Rules in normal form. Rules that were read from definitions are written as definitions from which the same rules are
read again. So are templates and fallbacks that are built up by hand, but for their expressions that are blank: a
blank config is read as none, also where it is an expression.
-/
namespace WebCitation

theorem map_eq_self_iff {f : α → α} {xs : List α} : xs.map f = xs ↔ ∀ x ∈ xs, f x = x := by
  simpa using List.map_inj_left (l := xs) (f := f) (g := id)

/-- Items that are all read again are all kept. -/
theorem filterMap_map_eq {write : α → β} {read : β → Except ε γ} {again : α → γ} {items : List α}
    (h : ∀ a ∈ items, read (write a) = .ok (again a)) :
    (items.map write).filterMap (fun b => (read b).toOption) = items.map again := by
  rw [List.filterMap_map, ← List.filterMap_eq_map]
  refine List.filterMap_congr fun a member => ?_
  rw [Function.comp, h a member]
  rfl

/-! Steps. -/

theorem Separator.ofConfig_text (separator : Separator) : ofConfig separator.text = separator := by
  rw [ofConfig, dif_neg separator.nonempty]

theorem RangeList.ofConfig_config (ranges : RangeList) : ofConfig ranges.config = .ok ranges := by
  unfold ofConfig
  split
  · rename_i read h
    have same : read = ranges.ranges := Except.ok.inj (h.symm.trans ranges.parsed)
    subst same
    rfl
  · rename_i e h
    rw [ranges.parsed] at h
    cases h

namespace TransformationRule

theorem localeOfConfig_code (locale : Locale) : localeOfConfig locale.code = .ok locale := by
  cases locale <;> rfl

theorem ofConfig_config (rule : TransformationRule) : ofConfig rule.type rule.config = .ok rule := by
  cases rule with
  | join separator => exact congrArg (Except.ok ∘ join) separator.ofConfig_text
  | split separator => exact congrArg (Except.ok ∘ split) separator.ofConfig_text
  | date locale => exact congrArg (Except.map date) (localeOfConfig_code locale)
  | range ranges => exact congrArg (Except.map range) ranges.ofConfig_config

end TransformationRule

theorem Transformation.ofDefinition_toDefinition (t : Transformation) :
    ofDefinition t.toDefinition = .ok t := by
  rw [ofDefinition, toDefinition, TransformationRule.ofConfig_config]
  rfl

theorem CitoidKey.name_of_ofName {name : String} {key : CitoidKey} (h : ofName name = .ok key) :
    key.name = name := by
  unfold ofName at h
  split at h
  · cases h
    rfl
  · cases h

theorem AcceptedExpression.text_of_ofText {text : String} {expression : AcceptedExpression}
    (h : ofText text = .ok expression) : expression.text = text := by
  unfold ofText at h
  split at h
  · cases h
    rfl
  · cases h

namespace Selection

/-- A config that is taken up is not blank. -/
theorem config_of_unlessBlank {make : String → Except ConfigError α} {config : String} {a : α}
    (h : unlessBlank make config = .ok (some a)) : make config = .ok a ∧ config.trimmed ≠ "" := by
  unfold unlessBlank at h
  split at h
  · cases h
  · rename_i filled
    cases made : make config <;> rw [made] at h <;> cases h
    exact ⟨rfl, filled⟩

theorem ofDefinition_cases {d : Definition.Selection} {s : Selection} (h : ofDefinition d = .ok s) :
    (∃ key, s = citoid key ∧ unlessBlank CitoidKey.ofName d.config = .ok key) ∨
      ∃ expression, s = xpath expression ∧ unlessBlank AcceptedExpression.ofText d.config = .ok expression := by
  unfold ofDefinition at h
  split at h
  · cases made : unlessBlank CitoidKey.ofName d.config <;> rw [made] at h <;> cases h
    exact .inl ⟨_, rfl, rfl⟩
  · cases made : unlessBlank AcceptedExpression.ofText d.config <;> rw [made] at h <;> cases h
    exact .inr ⟨_, rfl, rfl⟩
  · cases h

/-- A selection of an expression that is not blank, or of anything else. -/
def Filled : Selection → Prop
  | xpath (some expression) => expression.text.trimmed ≠ ""
  | _ => True

/-- What a selection is read as again. -/
def reread : Selection → Selection
  | xpath (some expression) => if expression.text.trimmed = "" then xpath none else xpath (some expression)
  | s => s

theorem reread_eq_self_iff {s : Selection} : s.reread = s ↔ s.Filled := by
  match s with
  | citoid key => simp [reread, Filled]
  | xpath none => simp [reread, Filled]
  | xpath (some expression) =>
    by_cases blank : expression.text.trimmed = "" <;> simp [reread, Filled, blank]

theorem filled_of_ofDefinition {d : Definition.Selection} {s : Selection} (h : ofDefinition d = .ok s) :
    s.Filled := by
  rcases ofDefinition_cases h with ⟨key, rfl, _⟩ | ⟨expression, rfl, made⟩
  · trivial
  · cases expression with
    | none => trivial
    | some expression =>
      obtain ⟨taken, filled⟩ := config_of_unlessBlank made
      rwa [← AcceptedExpression.text_of_ofText taken] at filled

theorem ofDefinition_toDefinition (s : Selection) : ofDefinition s.toDefinition = .ok s.reread := by
  match s with
  | citoid none | xpath none => rfl
  | citoid (some key) =>
    have named : ∀ name ∈ SimpleCitation.keys, name.trimmed ≠ "" := by decide
    change (unlessBlank CitoidKey.ofName key.name).map citoid = _
    rw [unlessBlank, if_neg (named key.name key.listed), CitoidKey.ofName, dif_pos key.listed]
    rfl
  | xpath (some expression) =>
    change (unlessBlank AcceptedExpression.ofText expression.text).map xpath = _
    rw [unlessBlank, AcceptedExpression.ofText, dif_pos expression.accepted, reread]
    split <;> rfl

end Selection

namespace Procedure

def Filled (p : Procedure) : Prop := ∀ s ∈ p.selections, s.Filled

def reread (p : Procedure) : Procedure := { p with selections := p.selections.map Selection.reread }

theorem reread_eq_self_iff {p : Procedure} : p.reread = p ↔ p.Filled := by
  obtain ⟨selections, transformations⟩ := p
  simp only [reread, mk.injEq, and_true, map_eq_self_iff, Selection.reread_eq_self_iff, Filled]

theorem ofDefinition_toDefinition (p : Procedure) : ofDefinition p.toDefinition = .ok p.reread := by
  have selections :
      (p.selections.map Selection.toDefinition).mapM Selection.ofDefinition = .ok (p.selections.map Selection.reread) :=
    mapM_map_eq_ok_map fun s _ => s.ofDefinition_toDefinition
  have transformations :
      (p.transformations.map Transformation.toDefinition).mapM Transformation.ofDefinition =
        .ok (p.transformations.map id) := mapM_map_eq_ok_map fun t _ => t.ofDefinition_toDefinition
  rw [ofDefinition, toDefinition]
  dsimp only
  rw [selections, transformations, List.map_id]
  rfl

end Procedure

theorem exists_of_mem_mapM {f : α → Except ε β} {xs : List α} {ys : List β} (h : xs.mapM f = .ok ys)
    {y : β} (member : y ∈ ys) : ∃ x ∈ xs, f x = .ok y :=
  exists_mem_of_forall₂ (mapM_eq_ok_iff.1 h) member

theorem Procedure.filled_of_ofDefinition {d : Definition.Procedure} {p : Procedure}
    (h : ofDefinition d = .ok p) : p.Filled := by
  unfold ofDefinition at h
  obtain ⟨selections, hs, h⟩ := bind_eq_ok_iff.1 h
  obtain ⟨transformations, _, h⟩ := bind_eq_ok_iff.1 h
  cases h
  intro s member
  obtain ⟨d, _, made⟩ := exists_of_mem_mapM hs member
  exact Selection.filled_of_ofDefinition made

namespace FieldName

theorem parse_text (name : FieldName) : parse name.text = .ok name := by
  cases name <;> rfl

end FieldName

namespace TemplateField

/-- The fields that constructors and rebuilding make, of whatever procedures. -/
inductive Arises : TemplateField → Prop where
  | ofName (name : FieldName) : Arises (ofName name)
  | ofDefinition {d : Definition.Field} {f : TemplateField} (h : ofDefinition d = .ok f) : Arises f
  | withProcedures {f : TemplateField} (h : Arises f) (procedures : List Procedure) :
      Arises (f.withProcedures procedures)
  | withRequired {f g : TemplateField} (h : Arises f) {required : Bool} (made : f.withRequired required = .ok g) :
      Arises g

/-- A field that is made optional is none of those that are always required. -/
theorem withRequired_eq_ok {f g : TemplateField} {required : Bool} (made : f.withRequired required = .ok g) :
    (f.name.isForceRequired = true → required = true) ∧ g = { f with required } := by
  unfold withRequired at made
  split at made
  · cases made
  · rename_i allowed
    cases made
    refine ⟨fun force => ?_, rfl⟩
    rw [force, Bool.true_and, Bool.not_eq_true', Bool.not_eq_false] at allowed
    exact allowed

theorem Arises.required {f : TemplateField} (h : f.Arises) : f.name.isForceRequired = true → f.required = true := by
  induction h with
  | ofName name => exact id
  | ofDefinition h =>
    obtain ⟨name, _, h⟩ := bind_eq_ok_iff.1 h
    obtain ⟨procedures, _, h⟩ := bind_eq_ok_iff.1 h
    cases h
    intro force
    dsimp only at force ⊢
    rw [force, Bool.true_or]
  | withProcedures _ _ ih => exact ih
  | withRequired _ made _ =>
    obtain ⟨allowed, rfl⟩ := withRequired_eq_ok made
    exact allowed

def Filled (f : TemplateField) : Prop := ∀ p ∈ f.procedures, p.Filled

theorem filled_of_ofDefinition {d : Definition.Field} {f : TemplateField} (h : ofDefinition d = .ok f) : f.Filled := by
  unfold ofDefinition at h
  obtain ⟨name, _, h⟩ := bind_eq_ok_iff.1 h
  obtain ⟨procedures, hp, h⟩ := bind_eq_ok_iff.1 h
  cases h
  intro p member
  obtain ⟨d, _, made⟩ := exists_of_mem_mapM hp member
  exact Procedure.filled_of_ofDefinition made

def reread (f : TemplateField) : TemplateField := f.withProcedures (f.procedures.map Procedure.reread)

theorem reread_eq_self_iff {f : TemplateField} : f.reread = f ↔ f.Filled := by
  obtain ⟨name, required, procedures⟩ := f
  simp only [reread, withProcedures, mk.injEq, true_and, map_eq_self_iff, Procedure.reread_eq_self_iff, Filled]

theorem Arises.ofDefinition_toDefinition {f : TemplateField} (h : f.Arises) :
    TemplateField.ofDefinition f.toDefinition = .ok f.reread := by
  have procedures : (f.procedures.map Procedure.toDefinition).mapM Procedure.ofDefinition =
      .ok (f.procedures.map Procedure.reread) := mapM_map_eq_ok_map fun p _ => p.ofDefinition_toDefinition
  have required : (f.name.isForceRequired || f.required) = f.required := by
    cases force : f.name.isForceRequired with
    | true => rw [h.required force, Bool.true_or]
    | false => rw [Bool.false_or]
  rw [TemplateField.ofDefinition, toDefinition, FieldName.parse_text]
  simp only [procedures, bind, Except.bind, required]
  rfl

end TemplateField

theorem FieldSet.exists_of_mem {ds : List Definition.Field} {f : TemplateField}
    (member : f ∈ (ofDefinitions ds).items) : ∃ d, TemplateField.ofDefinition d = .ok f := by
  obtain ⟨d, _, made⟩ := List.mem_filterMap.1 (Keyed.mem_of_mem_ofList member)
  exact ⟨d, eq_ok_iff_toOption.2 made⟩

namespace TemplateRules

/-- No expression of the template is blank. -/
def Filled (t : TemplateRules) : Prop := ∀ f ∈ t.fields.items, f.Filled

theorem filled_of_definitions (domain : String) (label : Option String) (ds : List Definition.Field) :
    Filled ⟨domain, label, FieldSet.ofDefinitions ds⟩ := by
  intro f member
  obtain ⟨d, made⟩ := FieldSet.exists_of_mem member
  exact TemplateField.filled_of_ofDefinition made

def reread (t : TemplateRules) : TemplateRules := t.withFields (t.fields.items.map TemplateField.reread)

theorem reread_eq_self_iff {t : TemplateRules} : t.reread = t ↔ t.Filled := by
  obtain ⟨domain, label, fields⟩ := t
  have names : ((fields.items.map TemplateField.reread).map TemplateField.name).Nodup := by
    rw [List.map_map]
    exact fields.distinct
  have same : (Keyed.ofList (fields.items.map TemplateField.reread) : FieldSet) = fields ↔
      fields.items.map TemplateField.reread = fields.items := by
    constructor
    · intro h
      rw [← Keyed.items_ofList names, h]
    · intro h
      rw [h, Keyed.ofList_items]
  simp only [reread, withFields, mk.injEq, true_and, same, map_eq_self_iff, TemplateField.reread_eq_self_iff, Filled]

structure Sound (t : TemplateRules) : Prop where
  domain : t.domain.asciiLower = t.domain
  fields : ∀ f ∈ t.fields.items, f.Arises

theorem sound_ofDomain (domain : String) : (ofDomain domain).Sound :=
  ⟨String.asciiLower_asciiLower domain, fun _ member => nomatch member⟩

theorem Sound.withLabel {t : TemplateRules} (h : t.Sound) (label : String) : (t.withLabel label).Sound :=
  ⟨h.domain, h.fields⟩

theorem Sound.withFields {t : TemplateRules} (h : t.Sound) {fields : List TemplateField}
    (arise : ∀ f ∈ fields, f.Arises) : (t.withFields fields).Sound :=
  ⟨h.domain, fun f member => arise f (Keyed.mem_of_mem_ofList member)⟩

theorem sound_of_definitions (domain : String) (label : Option String) (ds : List Definition.Field) :
    Sound ⟨domain.asciiLower, label, FieldSet.ofDefinitions ds⟩ := by
  refine ⟨String.asciiLower_asciiLower domain, fun f member => ?_⟩
  obtain ⟨d, made⟩ := FieldSet.exists_of_mem member
  exact .ofDefinition made

theorem Sound.ofDefinitions_fieldDefinitions {t : TemplateRules} (h : t.Sound) :
    FieldSet.ofDefinitions t.fieldDefinitions = t.reread.fields := by
  rw [FieldSet.ofDefinitions, fieldDefinitions, filterMap_map_eq fun f member =>
    (h.fields f member).ofDefinition_toDefinition]
  rfl

end TemplateRules

namespace Template

/-- The templates that constructors make, with whatever labels and fields they are given then. -/
inductive Arises : Template → Prop where
  | ofPath {domain path : String} {t : Template} (h : ofPath domain path = .ok t) : Arises t
  | ofDefinition {domain : String} {d : Definition.Template} {t : Template}
      (h : ofDefinition domain d = .ok t) : Arises t
  | withLabel {t : Template} (h : Arises t) (label : String) : Arises (t.withLabel label)
  | withFields {t : Template} (h : Arises t) {fields : List TemplateField} (arise : ∀ f ∈ fields, f.Arises) :
      Arises (t.withFields fields)

structure Sound (t : Template) : Prop where
  rules : t.toTemplateRules.Sound
  path : t.path.toList.head? = some '/'

theorem sound_of_ofPath {domain path : String} {t : Template} (h : ofPath domain path = .ok t) : t.Sound := by
  unfold ofPath at h
  split at h
  · rename_i rooted
    cases h
    exact ⟨TemplateRules.sound_ofDomain domain, rooted⟩
  · cases h

theorem ofDefinition_eq_ok_iff {domain : String} {d : Definition.Template} {t : Template} :
    ofDefinition domain d = .ok t ↔
      d.path.toList.head? = some '/' ∧
        t = ⟨⟨domain.asciiLower, d.label, FieldSet.ofDefinitions d.fields⟩, d.path⟩ := by
  unfold ofDefinition ofPath
  split
  · rename_i rooted
    exact ⟨fun h => ⟨rooted, (Except.ok.inj h).symm⟩, fun h => congrArg Except.ok h.2.symm⟩
  · rename_i other
    exact ⟨nofun, fun h => absurd h.1 other⟩

theorem sound_of_ofDefinition {domain : String} {d : Definition.Template} {t : Template}
    (h : ofDefinition domain d = .ok t) : t.Sound := by
  obtain ⟨rooted, rfl⟩ := ofDefinition_eq_ok_iff.1 h
  exact ⟨TemplateRules.sound_of_definitions domain d.label d.fields, rooted⟩

theorem Arises.sound {t : Template} (h : t.Arises) : t.Sound := by
  induction h with
  | ofPath h => exact sound_of_ofPath h
  | ofDefinition h => exact sound_of_ofDefinition h
  | withLabel _ label ih => exact ⟨ih.rules.withLabel label, ih.path⟩
  | withFields _ arise ih => exact ⟨ih.rules.withFields arise, ih.path⟩

theorem filled_of_ofDefinition {domain : String} {d : Definition.Template} {t : Template}
    (h : ofDefinition domain d = .ok t) : t.Filled := by
  obtain ⟨_, rfl⟩ := ofDefinition_eq_ok_iff.1 h
  exact TemplateRules.filled_of_definitions _ d.label d.fields

/-- What a template is read as again: the same, without its blank expressions. -/
def reread (t : Template) : Template := t.withRules TemplateRules.reread

theorem reread_eq_self_iff {t : Template} : t.reread = t ↔ t.Filled := by
  obtain ⟨rules, path⟩ := t
  simp only [reread, withRules, mk.injEq, and_true, TemplateRules.reread_eq_self_iff]

theorem Sound.ofDefinition_toDefinition {t : Template} (h : t.Sound) :
    Template.ofDefinition t.domain t.toDefinition = .ok t.reread := by
  refine ofDefinition_eq_ok_iff.2 ⟨h.path, ?_⟩
  rw [toDefinition, h.rules.ofDefinitions_fieldDefinitions, h.rules.domain]
  rfl

end Template

namespace FallbackTemplate

inductive Arises : FallbackTemplate → Prop where
  | ofDomain (domain : String) : Arises (TemplateRules.ofDomain domain)
  | ofDefinition (domain : String) (d : Definition.Fallback) : Arises (ofDefinition domain d)
  | withLabel {t : FallbackTemplate} (h : Arises t) (label : String) : Arises (TemplateRules.withLabel t label)
  | withFields {t : FallbackTemplate} (h : Arises t) {fields : List TemplateField}
      (arise : ∀ f ∈ fields, f.Arises) : Arises (TemplateRules.withFields t fields)

theorem Arises.sound {t : FallbackTemplate} (h : Arises t) : TemplateRules.Sound t := by
  induction h with
  | ofDomain domain => exact TemplateRules.sound_ofDomain domain
  | ofDefinition domain d => exact TemplateRules.sound_of_definitions domain d.label d.fields
  | withLabel _ label ih => exact ih.withLabel label
  | withFields _ arise ih => exact ih.withFields arise

theorem ofDefinition_toDefinition {t : FallbackTemplate} (h : TemplateRules.Sound t) :
    ofDefinition t.domain (toDefinition t) = TemplateRules.reread t := by
  rw [ofDefinition, toDefinition, h.ofDefinitions_fieldDefinitions, h.domain]
  rfl

end FallbackTemplate

theorem Glob.compile_text (glob : Glob) : compile glob.text = .ok glob := by
  unfold compile
  split
  · rename_i tokens h
    have same : tokens = glob.tokens := Except.ok.inj (h.symm.trans glob.compiled)
    subst same
    rfl
  · rename_i e h
    rw [glob.compiled] at h
    cases h

theorem Pattern.compile_text (p : Pattern) : compile p.text = .ok ⟨p.glob, none⟩ := by
  rw [compile, text, Glob.compile_text]

theorem Pattern.ofDefinition_toDefinition (p : Pattern) : ofDefinition p.toDefinition = .ok p := by
  rw [ofDefinition, toDefinition, compile_text]
  rfl

theorem PatternSet.ofDefinitions_toDefinitions (s : PatternSet) : ofDefinitions s.toDefinitions = s := by
  have kept : (s.items.map Pattern.toDefinition).filterMap (fun d => (Pattern.ofDefinition d).toOption) =
      s.items.map id := filterMap_map_eq fun p _ => p.ofDefinition_toDefinition
  rw [ofDefinitions, toDefinitions, kept, List.map_id, Keyed.ofList_items]

namespace Domain

/-- Templates of its own, without blank expressions: so they are in every domain that was read from definitions. -/
structure Sound (d : Domain) : Prop where
  templates : ∀ t ∈ d.templates.items, t.Sound
  filled : ∀ t ∈ d.templates.items, t.Filled
  own : ∀ t ∈ d.templates.items, t.domain = d.name.text

theorem of_mem_withTemplates {d : Domain} {templates : List Template} {t : Template}
    (member : t ∈ (d.withTemplates templates).templates.items) : t ∈ templates ∧ t.domain = d.name.text := by
  obtain ⟨given, own⟩ := List.mem_filter.1 (Keyed.mem_of_mem_ofList member)
  exact ⟨given, of_decide_eq_true own⟩

theorem sound_withTemplates (d : Domain) (ds : List Definition.Template) :
    (d.withTemplates (ds.filterMap fun t => (Template.ofDefinition d.name.text t).toOption)).Sound := by
  have made : ∀ t ∈ ds.filterMap (fun t => (Template.ofDefinition d.name.text t).toOption),
      ∃ definition, Template.ofDefinition d.name.text definition = .ok t := by
    intro t member
    obtain ⟨definition, _, made⟩ := List.mem_filterMap.1 member
    exact ⟨definition, eq_ok_iff_toOption.2 made⟩
  refine ⟨fun t member => ?_, fun t member => ?_, fun t member => (of_mem_withTemplates member).2⟩
  · obtain ⟨_, made⟩ := made t (of_mem_withTemplates member).1
    exact Template.sound_of_ofDefinition made
  · obtain ⟨_, made⟩ := made t (of_mem_withTemplates member).1
    exact Template.filled_of_ofDefinition made

/-- A domain is read again from its definitions, but for the catch-all and the fallback, which have none. -/
theorem ofDefinitions_of_sound {d : Domain} (h : d.Sound) {name : String}
    (named : DomainName.ofText name = .ok d.name) :
    ofDefinitions name d.toDefinitions = .ok { d with catchAll := anyPath, fallback := none } := by
  have templates : ((d.templates.items.map Template.toDefinition).filterMap fun t =>
      (Template.ofDefinition d.name.text t).toOption) = d.templates.items := by
    refine (filterMap_map_eq fun t member => ?_).trans (List.map_id d.templates.items)
    rw [← h.own t member, (h.templates t member).ofDefinition_toDefinition,
      Template.reread_eq_self_iff.2 (h.filled t member)]
    rfl
  have kept : (d.templates.items.filter fun t => t.domain = d.name.text) = d.templates.items :=
    List.filter_eq_self.2 fun t member => decide_eq_true (h.own t member)
  rw [ofDefinitions, ofText, named]
  simp only [Except.map, ofName, withTemplates, withTests, toDefinitions, templates, kept,
    PatternSet.ofDefinitions_toDefinitions, Keyed.ofList_items]

/-- Only the name of a domain can be refused. -/
theorem exists_ofDefinitions {name : String} (ds : Definition.Domain)
    (valid : DomainName.isName name.asciiLower = true) : ∃ d, ofDefinitions name ds = .ok d := by
  rw [ofDefinitions, ofText, DomainName.ofText, dif_pos valid]
  exact ⟨_, rfl⟩

structure Loaded (name : String) (d : Domain) : Prop where
  sound : d.Sound
  named : DomainName.ofText name = .ok d.name
  catchAll : d.catchAll = anyPath
  fallback : d.fallback = none

theorem loaded_of_ofDefinitions {name : String} {ds : Definition.Domain} {d : Domain}
    (h : ofDefinitions name ds = .ok d) : d.Loaded name := by
  unfold ofDefinitions ofText at h
  cases named : DomainName.ofText name with
  | error e =>
    rw [named] at h
    cases h
  | ok n =>
    rw [named] at h
    cases h
    have sound := sound_withTemplates { ofName n with own := PatternSet.ofDefinitions ds.patterns } ds.templates
    exact ⟨⟨sound.templates, sound.filled, sound.own⟩, named, rfl, rfl⟩

theorem Loaded.ofDefinitions_toDefinitions {name : String} {d : Domain} (h : d.Loaded name) :
    ofDefinitions name d.toDefinitions = .ok d := by
  rw [ofDefinitions_of_sound h.sound h.named, ← h.catchAll, ← h.fallback]

end Domain

/-- A template or a fallback, whatever it was put together from, is read again without its expressions that are blank,
so as it was just if it has none. And definitions under a valid name make a domain, which is read again as it was from
the definitions that it writes. -/
theorem rules_are_read_again_but_for_blank_expressions {t : Template} (ht : t.Arises) {u : FallbackTemplate}
    (hu : u.Arises) {name : String} (valid : DomainName.isName name.asciiLower = true) (ds : Definition.Domain) :
    (Template.ofDefinition t.domain t.toDefinition = .ok t.reread ∧
      (Template.ofDefinition t.domain t.toDefinition = .ok t ↔ t.Filled)) ∧
    (FallbackTemplate.ofDefinition u.domain u.toDefinition = u.reread ∧
      (FallbackTemplate.ofDefinition u.domain u.toDefinition = u ↔ u.Filled)) ∧
    ∃ d, Domain.ofDefinitions name ds = .ok d ∧ Domain.ofDefinitions name d.toDefinitions = .ok d := by
  have template := ht.sound.ofDefinition_toDefinition
  have fallback := FallbackTemplate.ofDefinition_toDefinition hu.sound
  refine ⟨⟨template, ?_⟩, ⟨fallback, ?_⟩, ?_⟩
  · rw [template, Except.ok.injEq, Template.reread_eq_self_iff]
  · rw [fallback, TemplateRules.reread_eq_self_iff]
  · obtain ⟨d, made⟩ := Domain.exists_ofDefinitions ds valid
    exact ⟨d, made, (Domain.loaded_of_ofDefinitions made).ofDefinitions_toDefinitions⟩

namespace RewrittenTemplate

/-- A definition with a blank config, an empty separator, blanks around a locale, a required field that is not
marked so, and a field that comes twice. -/
def definition : Definition.Template :=
  ⟨"/x", none,
    [⟨"title", [⟨[⟨"citoid", " "⟩], [⟨"join", "", none⟩, ⟨"date", " es ", none⟩]⟩], false⟩, ⟨"title", [], true⟩]⟩

def template : Template :=
  ⟨⟨"i.j", none,
    ⟨[⟨.title, true, [⟨[.citoid none], [⟨.join .comma, false⟩, ⟨.date .es, true⟩]⟩]⟩], by decide⟩⟩, "/x"⟩

theorem made : Template.ofDefinition "I.J" definition = .ok template := rfl

def fallback : FallbackTemplate := .citoidDefault "I.J"

theorem domain_of_rewritten_template :
    (∃ d, Domain.ofDefinitions "I.J" ⟨[], [definition], []⟩ = .ok d ∧
      d.templates.items = [template] ∧ Domain.ofDefinitions "I.J" d.toDefinitions = .ok d) ∧
      Template.ofDefinition "i.j" (template.withLabel "L").toDefinition = .ok (template.withLabel "L") ∧
      FallbackTemplate.ofDefinition fallback.domain fallback.toDefinition = fallback := by
  have arises : (template.withLabel "L").Arises := .withLabel (.ofDefinition made) "L"
  have arises' : fallback.Arises := .ofDefinition "I.J" FallbackTemplate.citoidDefinition
  have filled : template.Filled := Template.filled_of_ofDefinition made
  have filled' : fallback.Filled := TemplateRules.filled_of_definitions _ _ _
  have valid : DomainName.isName "I.J".asciiLower = true := by decide
  obtain ⟨⟨-, again⟩, ⟨-, again'⟩, d, loaded, stable⟩ :=
    rules_are_read_again_but_for_blank_expressions arises arises' valid ⟨[], [definition], []⟩
  refine ⟨⟨d, loaded, ?_, stable⟩, again.2 filled, again'.2 filled'⟩
  have domain : Domain.ofDefinitions "I.J" ⟨[], [definition], []⟩ =
      .ok { Domain.ofName ⟨"i.j", by decide⟩ with templates := ⟨[template], by decide⟩ } := rfl
  cases loaded.symm.trans domain
  rfl

end RewrittenTemplate

namespace OghamSpace

/-- The Ogham space mark is white space, and in an expression it is a name. -/
def expression : AcceptedExpression := ⟨"\u1680", by decide⟩

def title (expression : Option AcceptedExpression) : TemplateField :=
  TemplateField.withProcedures (.ofName .title) [⟨[.xpath expression], []⟩]

def template (expression : Option AcceptedExpression) : Template :=
  Template.withFields ⟨.ofDomain "x.y", "/x"⟩ [title expression]

theorem arises (expression : Option AcceptedExpression) : (template expression).Arises := by
  have empty : Template.Arises ⟨.ofDomain "x.y", "/x"⟩ := .ofPath (rfl : Template.ofPath "x.y" "/x" = .ok _)
  refine empty.withFields fun f member => ?_
  cases List.mem_singleton.1 member
  exact (TemplateField.Arises.ofName .title).withProcedures _

theorem blank_expression_is_lost :
    (template expression).Arises ∧
      Template.ofDefinition "x.y" (template expression).toDefinition = .ok (template none) ∧
      template none ≠ template expression := by
  have reread : (template expression).reread = template none := by decide
  refine ⟨arises expression, ?_, by decide⟩
  rw [← reread]
  exact (arises expression).sound.ofDefinition_toDefinition

end OghamSpace
end WebCitation
