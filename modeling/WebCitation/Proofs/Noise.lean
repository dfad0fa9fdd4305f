import Mathlib.Logic.Relation
import WebCitation.Proofs.StoredRules

/-!
Noise in stored rules. Whoever writes rules may leave some there that are refused, or write some twice. Wherever
these stand, a domain is read as if they were not there, and so is a page that holds elements of another shape.
-/
namespace WebCitation

/-- `noisy` has one more item than `items`, which `may` stand after the items before it. -/
inductive Inserts {α : Type} (may : List α → α → Prop) : List α → List α → Prop where
  | mk {before after : List α} {extra : α} (h : may before extra) :
      Inserts may (before ++ after) (before ++ extra :: after)

/-- An item is noise if it is refused, or if it has the key of an accepted item before it. -/
def Noise {α κ : Type} (accepts : α → Prop) (key : α → κ) (before : List α) (extra : α) : Prop :=
  ¬ accepts extra ∨ ∃ first ∈ before, accepts first ∧ key extra = key first

/-- Let items with one label be read under one key. Then noise among them is left out. -/
theorem Keyed.ofList_of_inserts {α β κ μ : Type} [DecidableEq κ] {key : α → κ} {label : β → μ}
    {accepts : β → Prop} {read : β → Option α} (accepted : ∀ b, accepts b ↔ ∃ a, read b = some a)
    (labelled : ∀ b c x y, read b = some x → read c = some y → label b = label c → key x = key y)
    {items noisy : List β} (h : Inserts (Noise accepts label) items noisy) :
    (ofList (noisy.filterMap read) : Keyed key) = ofList (items.filterMap read) := by
  cases h with
  | @mk before after extra h =>
    rw [List.filterMap_append, List.filterMap_append, List.filterMap_cons]
    cases made : read extra with
    | none => rfl
    | some x =>
      -- What is read was not refused, so it repeats an item before it.
      rcases h with refused | ⟨first, member, ok, same⟩
      · exact absurd ((accepted extra).2 ⟨x, made⟩) refused
      · obtain ⟨y, made'⟩ := (accepted first).1 ok
        have keys : key x = key y := labelled extra first x y made made' same
        have earlier : y ∈ before.filterMap read := List.mem_filterMap.2 ⟨first, member, made'⟩
        apply ofList_append_cons
        rw [keys]
        exact List.mem_map_of_mem earlier

/-! Patterns, fields, templates and tests. -/

def Definition.Pattern.Compiles (d : Definition.Pattern) : Prop := ∃ glob, Glob.compile d.pattern = .ok glob

theorem Glob.text_of_compile {text : String} {glob : Glob} (h : compile text = .ok glob) : glob.text = text := by
  unfold compile at h
  split at h
  · cases h
    rfl
  · cases h

theorem Pattern.ofDefinition_eq_ok_iff {d : Definition.Pattern} {p : Pattern} :
    ofDefinition d = .ok p ↔ ∃ glob, Glob.compile d.pattern = .ok glob ∧ p = ⟨glob, d.label⟩ := by
  rw [ofDefinition, compile]
  cases Glob.compile d.pattern with
  | error e => simp [Except.map]
  | ok glob => simp [Except.map, eq_comm]

theorem PatternSet.ofDefinitions_of_inserts {ds noisy : List Definition.Pattern}
    (h : Inserts (Noise Definition.Pattern.Compiles Definition.Pattern.pattern) ds noisy) :
    ofDefinitions noisy = ofDefinitions ds := by
  apply Keyed.ofList_of_inserts _ _ h
  · intro d
    simp only [← eq_ok_iff_toOption, Pattern.ofDefinition_eq_ok_iff]
    constructor
    · rintro ⟨glob, compiled⟩
      exact ⟨_, glob, compiled, rfl⟩
    · rintro ⟨_, glob, compiled, _⟩
      exact ⟨glob, compiled⟩
  · intro b c x y hx hy same
    rw [← eq_ok_iff_toOption, Pattern.ofDefinition_eq_ok_iff] at hx hy
    obtain ⟨glob, compiled, rfl⟩ := hx
    obtain ⟨glob', compiled', rfl⟩ := hy
    exact (Glob.text_of_compile compiled).trans (same.trans (Glob.text_of_compile compiled').symm)

def Definition.Field.Accepted (d : Definition.Field) : Prop := ∃ f, TemplateField.ofDefinition d = .ok f

theorem TemplateField.parse_of_ofDefinition {d : Definition.Field} {f : TemplateField}
    (h : ofDefinition d = .ok f) : FieldName.parse d.fieldname = .ok f.name := by
  unfold ofDefinition at h
  obtain ⟨name, parsed, h⟩ := bind_eq_ok_iff.1 h
  obtain ⟨procedures, _, h⟩ := bind_eq_ok_iff.1 h
  cases h
  exact parsed

theorem FieldSet.ofDefinitions_of_inserts {ds noisy : List Definition.Field}
    (h : Inserts (Noise Definition.Field.Accepted Definition.Field.fieldname) ds noisy) :
    ofDefinitions noisy = ofDefinitions ds := by
  apply Keyed.ofList_of_inserts _ _ h
  · intro d
    simp only [← eq_ok_iff_toOption]
    rfl
  · intro b c x y hx hy same
    have parsed := TemplateField.parse_of_ofDefinition (eq_ok_iff_toOption.2 hx)
    have parsed' := TemplateField.parse_of_ofDefinition (eq_ok_iff_toOption.2 hy)
    rw [same, parsed'] at parsed
    exact (Except.ok.inj parsed).symm

def Definition.Template.Rooted (d : Definition.Template) : Prop := d.path.toList.head? = some '/'

namespace Template

/-- The templates of definitions under one domain, of which those that are refused are left out. -/
def setOfDefinitions (domain : String) (ds : List Definition.Template) : TemplateSet :=
  Keyed.ofList (ds.filterMap fun t => (ofDefinition domain t).toOption)

theorem setOfDefinitions_of_inserts (domain : String) {ds noisy : List Definition.Template}
    (h : Inserts (Noise Definition.Template.Rooted Definition.Template.path) ds noisy) :
    setOfDefinitions domain noisy = setOfDefinitions domain ds := by
  apply Keyed.ofList_of_inserts _ _ h
  · intro d
    simp only [← eq_ok_iff_toOption, ofDefinition_eq_ok_iff]
    exact ⟨fun rooted => ⟨_, rooted, rfl⟩, fun ⟨_, rooted, _⟩ => rooted⟩
  · intro b c x y hx hy same
    rw [← eq_ok_iff_toOption, ofDefinition_eq_ok_iff] at hx hy
    obtain ⟨_, rfl⟩ := hx
    obtain ⟨_, rfl⟩ := hy
    exact same

theorem setOfDefinitions_of_fields (domain : String) {before after : List Definition.Template}
    {t : Definition.Template} {fields : List Definition.Field}
    (h : Inserts (Noise Definition.Field.Accepted Definition.Field.fieldname) t.fields fields) :
    setOfDefinitions domain (before ++ { t with fields } :: after) =
      setOfDefinitions domain (before ++ t :: after) := by
  have same : ofDefinition domain { t with fields } = ofDefinition domain t := by
    rw [ofDefinition, ofDefinition, FieldSet.ofDefinitions_of_inserts h]
  simp only [setOfDefinitions, List.filterMap_append, List.filterMap_cons, same]

end Template

theorem TestSet.ofList_of_inserts {tests noisy : List Definition.Test}
    (h : Inserts (Noise (fun _ => True) Definition.Test.path) tests noisy) :
    (Keyed.ofList noisy : TestSet) = Keyed.ofList tests := by
  have read : ∀ tests : List Definition.Test, tests.filterMap some = tests := fun _ => List.filterMap_some
  rw [← read noisy, ← read tests]
  apply Keyed.ofList_of_inserts _ _ h
  · intro d
    exact iff_of_true trivial ⟨d, rfl⟩
  · intro b c x y hx hy same
    cases hx
    cases hy
    exact same

/-! Domains. -/

/-- One insertion of noise: among the patterns, the templates, the tests, or the fields of one template. -/
inductive Definition.Domain.Noisier : Definition.Domain → Definition.Domain → Prop where
  | patterns {ds : Definition.Domain} {patterns : List Definition.Pattern}
      (h : Inserts (Noise Pattern.Compiles Pattern.pattern) ds.patterns patterns) :
      Noisier ds { ds with patterns }
  | templates {ds : Definition.Domain} {templates : List Definition.Template}
      (h : Inserts (Noise Template.Rooted Template.path) ds.templates templates) :
      Noisier ds { ds with templates }
  | fields {ds : Definition.Domain} {before after : List Definition.Template} {t : Definition.Template}
      {fields : List Definition.Field} (place : ds.templates = before ++ t :: after)
      (h : Inserts (Noise Field.Accepted Field.fieldname) t.fields fields) :
      Noisier ds { ds with templates := before ++ { t with fields } :: after }
  | tests {ds : Definition.Domain} {tests : List Definition.Test}
      (h : Inserts (Noise (fun _ => True) Test.path) ds.tests tests) :
      Noisier ds { ds with tests }

namespace Domain

theorem ofDefinitions_eq_map (name : String) (ds : Definition.Domain) :
    ofDefinitions name ds = (DomainName.ofText name).map fun n =>
      { ofName n with
        own := PatternSet.ofDefinitions ds.patterns
        templates := Template.setOfDefinitions n.text ds.templates
        tests := Keyed.ofList ds.tests } := by
  rw [ofDefinitions, ofText]
  cases named : DomainName.ofText name with
  | error e => rfl
  | ok n =>
    have lower : n.text.asciiLower = n.text := by
      rw [DomainName.text_of_ofText named, String.asciiLower_asciiLower]
    have own : ∀ t ∈ ds.templates.filterMap fun t => (Template.ofDefinition n.text t).toOption,
        decide (t.domain = n.text) = true := by
      intro t member
      obtain ⟨d, _, made⟩ := List.mem_filterMap.1 member
      obtain ⟨_, rfl⟩ := Template.ofDefinition_eq_ok_iff.1 (eq_ok_iff_toOption.2 made)
      exact decide_eq_true lower
    simp only [Except.map, ofName, withTemplates, withTests, List.filter_eq_self.2 own,
      Template.setOfDefinitions]

theorem ofDefinitions_of_noisier (name : String) {ds noisy : Definition.Domain} (h : ds.Noisier noisy) :
    ofDefinitions name noisy = ofDefinitions name ds := by
  rw [ofDefinitions_eq_map, ofDefinitions_eq_map]
  cases h with
  | patterns h => simp only [PatternSet.ofDefinitions_of_inserts h]
  | templates h => simp only [Template.setOfDefinitions_of_inserts _ h]
  | fields place h => simp only [place, Template.setOfDefinitions_of_fields _ h]
  | tests h => simp only [TestSet.ofList_of_inserts h]

theorem ofDefinitions_of_noise (name : String) {ds noisy : Definition.Domain}
    (h : Relation.ReflTransGen Definition.Domain.Noisier ds noisy) :
    ofDefinitions name noisy = ofDefinitions name ds := by
  induction h with
  | refl => rfl
  | tail _ step ih => exact (ofDefinitions_of_noisier name step).trans ih

end Domain

/-! Pages. -/

theorem filterMap_of_inserts {decode : α → Option β} {items noisy : List α}
    (h : Relation.ReflTransGen (Inserts fun _ extra => decode extra = none) items noisy) :
    noisy.filterMap decode = items.filterMap decode := by
  induction h with
  | refl => rfl
  | tail _ step ih =>
    cases step with
    | @mk before after extra refused =>
      rw [← ih, List.filterMap_append, List.filterMap_append, List.filterMap_cons, refused]

/-- A page that is an array of elements, apart from the tag that may be around it. -/
def HoldsElements (page : String) (elements : List Json) : Prop :=
  Json.parse? (Highlight.strip page) = some (.array elements)

theorem PageOf.holdsElements {levels : Nat} {elements : List Json} (plain : Json.Plain levels (.array elements))
    (deep : levels < Json.depthLimit) {page : String} (h : PageOf (.array elements) page) :
    HoldsElements page (elements.map Json.ordered) := by
  rw [HoldsElements, h.parse?_strip plain deep, Json.ordered_array]

theorem RuleStorage.fetch_of_holds {s : RuleStorage} {source : RevisionSource} {domain page : String}
    {kind : RuleKind} {start : Option Nat} {elements : List Json}
    (shown : source.Shows (.latest (s.title domain kind) start) page) (h : HoldsElements page elements)
    (decode : Json → Option α) :
    s.fetch source decode domain kind start = .ok (elements.filterMap decode) := by
  rw [fetch_of_shows shown, definitionsOf_of_parse? h]

/-- Under a valid name, definitions and the same ones with noise in them make one domain. And pages with the same
elements, apart from some that are of another shape, hold the same definitions. -/
theorem noise_is_left_out :
    (∀ (name : String) (ds noisy : Definition.Domain), DomainName.isName name.asciiLower = true →
      Relation.ReflTransGen Definition.Domain.Noisier ds noisy →
        ∃ d, Domain.ofDefinitions name ds = .ok d ∧ Domain.ofDefinitions name noisy = .ok d) ∧
    ∀ {α : Type} (decode : Json → Option α) (elements noisy : List Json),
      Relation.ReflTransGen (Inserts fun _ extra => decode extra = none) elements noisy →
        ∀ page page' : String, HoldsElements page elements → HoldsElements page' noisy →
          ∀ (s : RuleStorage) (source source' : RevisionSource) (domain : String) (kind : RuleKind)
            (start : Option Nat), source.Shows (.latest (s.title domain kind) start) page →
              source'.Shows (.latest (s.title domain kind) start) page' →
                ∃ items, s.fetch source decode domain kind start = .ok items ∧
                  s.fetch source' decode domain kind start = .ok items := by
  constructor
  · intro name ds noisy valid noise
    obtain ⟨d, made⟩ := Domain.exists_ofDefinitions ds valid
    exact ⟨d, made, (Domain.ofDefinitions_of_noise name noise).trans made⟩
  · intro α decode elements noisy noise page page' held held' s source source' domain kind start shown shown'
    refine ⟨elements.filterMap decode, RuleStorage.fetch_of_holds shown held decode, ?_⟩
    rw [RuleStorage.fetch_of_holds shown' held' decode, filterMap_of_inserts noise]

namespace NoisyRules

def title : Definition.Field := ⟨"title", [], false⟩

def unknownStep : Definition.Field := ⟨"title", [⟨[⟨"css", "h1"⟩], []⟩], true⟩

def template (fields : List Definition.Field) : Definition.Template := ⟨"/x", none, fields⟩

def rules : Definition.Domain := ⟨[⟨"/c/*", none⟩], [template [title]], [⟨"/x", []⟩]⟩

/-- The same with a pattern that does not compile, with a path that has no slash, with a field that is refused in
front of the one that is accepted under its name, and with a template and a test at paths that were there. -/
def noisy : Definition.Domain :=
  ⟨[⟨"***", none⟩, ⟨"/c/*", none⟩], [⟨"x", none, []⟩, template [unknownStep, title], template []],
    [⟨"/x", []⟩, ⟨"/x", [⟨"title", []⟩]⟩]⟩

theorem refuses_three_stars : ¬ Definition.Pattern.Compiles ⟨"***", none⟩ := by
  rintro ⟨glob, compiled⟩
  have tokens := glob.compiled
  rw [Glob.text_of_compile compiled] at tokens
  simp [Glob.parse] at tokens

theorem refuses_unknownStep : ¬ unknownStep.Accepted := by
  rintro ⟨f, made⟩
  cases made

theorem refuses_bare_path : ¬ Definition.Template.Rooted ⟨"x", none, []⟩ := by
  unfold Definition.Template.Rooted
  decide

theorem noisier : Relation.ReflTransGen Definition.Domain.Noisier rules noisy := by
  -- One insertion after the other: first what is refused, then what repeats a path.
  let marked : Definition.Domain := { rules with patterns := noisy.patterns }
  let bare : Definition.Domain := { marked with templates := [⟨"x", none, []⟩, template [title]] }
  let filled : Definition.Domain := { bare with templates := [⟨"x", none, []⟩, template [unknownStep, title]] }
  let twice : Definition.Domain := { filled with templates := noisy.templates }
  have patterns : rules.Noisier marked := .patterns (@Inserts.mk _ _ [] _ _ (.inl refuses_three_stars))
  have path : marked.Noisier bare := .templates (@Inserts.mk _ _ [] _ _ (.inl refuses_bare_path))
  have field : bare.Noisier filled :=
    @Definition.Domain.Noisier.fields bare [⟨"x", none, []⟩] [] (template [title]) [unknownStep, title] rfl
      (@Inserts.mk _ _ [] _ _ (.inl refuses_unknownStep))
  have again : filled.Noisier twice :=
    .templates (@Inserts.mk _ _ filled.templates [] _ (.inr ⟨template [unknownStep, title], by decide, rfl, rfl⟩))
  have tests : twice.Noisier noisy :=
    .tests (@Inserts.mk _ _ rules.tests [] _ (.inr ⟨⟨"/x", []⟩, by decide, trivial, rfl⟩))
  exact .tail (.tail (.tail (.tail (.tail .refl patterns) path) field) again) tests

def page : String := "[\x7b\"pattern\":\"/c/*\"\x7d]"

def noisyPage : String := "<syntaxhighlight>[null,\x7b\"pattern\":\"/c/*\"\x7d]</syntaxhighlight>"

def element : Json := .object [("pattern", .string "/c/*")]

theorem plain : ∀ j ∈ [.null, element], Json.Plain 1 j := by
  intro j member
  simp only [List.mem_cons, List.not_mem_nil, or_false] at member
  rcases member with rfl | rfl
  · exact .null
  · refine .object (by decide) fun field member => ?_
    cases List.mem_singleton.1 member
    exact .string _

theorem element_ordered : element.ordered = element := by
  simp only [element, Json.ordered_object, Json.readFields, List.foldl_cons, List.foldl_nil, Json.insertField,
    Json.ordered_string]

theorem page_holds : HoldsElements page [element] := by
  have plain : Json.Plain 2 (.array [element]) := .array fun j member => plain j (List.mem_cons_of_mem _ member)
  have written : Json.WritesItem (.array [element]) page.toList := by
    have content : page.toList = [] ++ (Json.array [element]).write ++ [] := by decide
    rw [content]
    exact .mk (by decide) (Json.writes_write plain) (by decide)
  have held := PageOf.holdsElements plain (by decide) (.bare written)
  rwa [List.map_singleton, element_ordered] at held

theorem noisyPage_holds : HoldsElements noisyPage [.null, element] := by
  have plain : Json.Plain 2 (.array [.null, element]) := .array plain
  have written : Json.WritesItem (.array [.null, element]) ([] ++ (Json.array [.null, element]).write ++ []) :=
    .mk (by decide) (Json.writes_write plain) (by decide)
  have content : noisyPage.toList = [] ++ Highlight.opening ++ [] ++ '>' ::
      ([] ++ (Json.array [.null, element]).write ++ []) ++ Highlight.closing ++ [] := by decide
  have held := PageOf.holdsElements plain (by decide) (.tagged (by decide) (by decide) written (by decide) content)
  rwa [List.map_cons, List.map_singleton, element_ordered, Json.ordered_null] at held

def storage : RuleStorage := .ofSettings .standard

theorem rules_without_noise :
    (Relation.ReflTransGen Definition.Domain.Noisier rules noisy ∧
      ∃ d, Domain.ofDefinitions "I.J" rules = .ok d ∧ Domain.ofDefinitions "I.J" noisy = .ok d) ∧
    HoldsElements page [element] ∧ HoldsElements noisyPage [.null, element] ∧
      ∃ items,
        storage.fetch (fun _ => .ok [⟨1, some page⟩]) Definition.Pattern.decode "i.j" .patterns none = .ok items ∧
        storage.fetch (fun _ => .ok [⟨2, some noisyPage⟩]) Definition.Pattern.decode "i.j" .patterns none =
          .ok items := by
  obtain ⟨domains, pages⟩ := noise_is_left_out
  have inserted : Relation.ReflTransGen (Inserts fun _ extra => Definition.Pattern.decode extra = none)
      [element] [.null, element] := .single (@Inserts.mk _ _ [] _ _ rfl)
  exact ⟨⟨noisier, domains "I.J" rules noisy (by decide) noisier⟩, page_holds, noisyPage_holds,
    pages Definition.Pattern.decode _ _ inserted _ _ page_holds noisyPage_holds storage _ _ "i.j" .patterns none
      ⟨1, [], rfl⟩ ⟨2, [], rfl⟩⟩

end NoisyRules
end WebCitation
