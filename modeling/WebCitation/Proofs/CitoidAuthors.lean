import WebCitation.Proofs.Failures
import WebCitation.Template.Fallback

/-!
What the default fallback makes of a citation that Citoid gives. First and last names are taken apart when the
citation is reduced to lists, each list is checked as a whole, and the two are put together again. A list with a
blank name in it is not accepted, so authors are as Citoid has them only where each of the two lists is blank in all
places or in none.
-/
namespace WebCitation

/-! Rules that read nothing but the citation. -/

def Selection.valuesIn (c : SimpleCitation) : Selection → List String
  | citoid (some key) => c.values key.name
  | _ => []

def Procedure.outputIn (c : SimpleCitation) (p : Procedure) : ProcedureOutput :=
  p.outputOf (p.selections.map (Selection.valuesIn c))

def TemplateField.outputIn (c : SimpleCitation) (f : TemplateField) : FieldOutput :=
  f.outputOf (f.procedures.map (Procedure.outputIn c))

namespace TemplateRules

/-- All selections are of the citation, and configured. -/
def ReadsCitation (t : TemplateRules) : Prop := ∀ selection ∈ t.selections, ∃ key, selection = .citoid (some key)

def fieldsIn (c : SimpleCitation) (t : TemplateRules) : List FieldOutput :=
  t.fields.items.map (TemplateField.outputIn c)

theorem ReadsCitation.resultOn_reading {s : Served} {c : SimpleCitation} {t : TemplateRules} {path : Option String}
    {target : Webpage} (only : t.ReadsCitation) (answered : s.citoid = .ok c) (own : target.domain = t.domain) :
    (t.reading path target).resultOn s = .ok (t.outputOf path target.address (t.fieldsIn c)) := by
  have selection : ∀ selection ∈ t.selections, selection.reading.resultOn s = .ok (selection.valuesIn c) := by
    intro selection member
    obtain ⟨key, rfl⟩ := only selection member
    rw [Selection.reading, Reading.resultOn_map, Reading.resultOn, answered]
    rfl
  have procedure : ∀ f ∈ t.fields.items, ∀ p ∈ f.procedures, p.reading.resultOn s = .ok (p.outputIn c) := by
    intro f hf p hp
    have values : (p.selections.map Selection.reading).mapM (Reading.resultOn s) =
        .ok (p.selections.map (Selection.valuesIn c)) :=
      mapM_map_eq_ok_map fun _ member => selection _ (mem_selections hf hp member)
    rw [Procedure.resultOn_reading, values]
    rfl
  have field : ∀ f ∈ t.fields.items, f.reading.resultOn s = .ok (f.outputIn c) := by
    intro f hf
    have outputs : (f.procedures.map Procedure.reading).mapM (Reading.resultOn s) =
        .ok (f.procedures.map (Procedure.outputIn c)) := mapM_map_eq_ok_map (procedure f hf)
    rw [TemplateField.reading, Reading.resultOn_map, Reading.resultOn_inTurn, outputs]
    rfl
  have outputs : (t.fields.items.map TemplateField.reading).mapM (Reading.resultOn s) = .ok (t.fieldsIn c) :=
    mapM_map_eq_ok_map field
  rw [reading, if_pos own, Reading.resultOn_map, Reading.resultOn_all, outputs]
  rfl

theorem nodup_fieldsIn (c : SimpleCitation) (t : TemplateRules) : ((t.fieldsIn c).map FieldOutput.name).Nodup := by
  have names : (t.fieldsIn c).map FieldOutput.name = t.fields.items.map TemplateField.name := by
    rw [fieldsIn, List.map_map]
    rfl
  rw [names]
  exact t.fields.distinct

theorem validValues_fieldsIn {c : SimpleCitation} {t : TemplateRules} {f : TemplateField}
    (member : f ∈ t.fields.items) :
    Citation.validValues (t.fieldsIn c) f.name = if (f.outputIn c).valid then (f.outputIn c).values else [] := by
  have found := TemplateOutput.validField?_of_mem (nodup_fieldsIn c t) (List.mem_map_of_mem member)
  have named : (f.outputIn c).name = f.name := rfl
  rw [named] at found
  rw [Citation.validValues, found]
  split <;> rfl

theorem authors_cite_fieldsIn (c : SimpleCitation) (t : TemplateRules) (url : String) :
    (TemplateOutput.cite url (t.fieldsIn c)).authors =
      Citation.pairAuthors (Citation.validValues (t.fieldsIn c) .authorFirst)
        (Citation.validValues (t.fieldsIn c) .authorLast) := by
  have control : ∀ o ∈ t.fieldsIn c, o.control = o.name.isControl := by
    intro o member
    obtain ⟨f, _, rfl⟩ := List.mem_map.1 member
    rfl
  rw [TemplateOutput.cite_eq_ofValues (nodup_fieldsIn c t) control]
  rfl

end TemplateRules

/-! Lists of names, which are accepted as a whole or not at all. -/

def Author.trimmed (a : Author) : Author := ⟨a.first.trimmed, a.last.trimmed⟩

namespace Citation

/-- Names without the white space around them, if none of them is blank. -/
def wholeNames (names : List String) : List String :=
  if ∀ name ∈ names, name.trimmed ≠ "" then names.map String.trimmed else []

theorem pairAuthors_map (authors : List Author) (first last : Author → String) :
    pairAuthors (authors.map first) (authors.map last) = authors.map fun a => ⟨first a, last a⟩ := by
  induction authors with
  | nil => rfl
  | cons a authors ih => simp [pairAuthors, ih]

theorem pairAuthors_nil_right (firsts : List String) :
    pairAuthors firsts [] = firsts.map fun first => ⟨first, ""⟩ := by
  induction firsts with
  | nil => rfl
  | cons first firsts ih => simp [pairAuthors, ih]

/-- Names are blank in all places or in none. -/
def Uniform (authors : List Author) (part : Author → String) : Prop :=
  (∀ a ∈ authors, (part a).trimmed ≠ "") ∨ ∀ a ∈ authors, (part a).trimmed = ""

/-- The names of whole lists are those of the authors where each list is blank in all places or in none. -/
theorem pairAuthors_wholeNames_iff {authors : List Author}
    (named : ∀ a ∈ authors, a.first.trimmed ≠ "" ∨ a.last.trimmed ≠ "") :
    pairAuthors (wholeNames (authors.map Author.first)) (wholeNames (authors.map Author.last)) =
        authors.map Author.trimmed ↔
      Uniform authors Author.first ∧ Uniform authors Author.last := by
  simp only [wholeNames, List.forall_mem_map, List.map_map]
  by_cases firsts : ∀ a ∈ authors, a.first.trimmed ≠ "" <;> by_cases lasts : ∀ a ∈ authors, a.last.trimmed ≠ ""
  · have both : Uniform authors Author.first ∧ Uniform authors Author.last := ⟨.inl firsts, .inl lasts⟩
    rw [if_pos firsts, if_pos lasts, pairAuthors_map]
    exact iff_of_true rfl both
  · have whole : Uniform authors Author.first := .inl firsts
    have blank : Uniform authors Author.last ↔ ∀ a ∈ authors, a.last.trimmed = "" := or_iff_right lasts
    rw [if_pos firsts, if_neg lasts, pairAuthors_nil_right, and_iff_right whole, blank, List.map_map,
      List.map_inj_left]
    refine forall₂_congr fun a _ => ?_
    rw [Function.comp, Function.comp, Author.trimmed, Author.mk.injEq, and_iff_right rfl, eq_comm]
  · have whole : Uniform authors Author.last := .inl lasts
    have blank : Uniform authors Author.first ↔ ∀ a ∈ authors, a.first.trimmed = "" := or_iff_right firsts
    rw [if_neg firsts, if_pos lasts, pairAuthors, and_iff_left whole, blank, List.map_map, List.map_inj_left]
    refine forall₂_congr fun a _ => ?_
    rw [Function.comp, Function.comp, Author.trimmed, Author.mk.injEq, and_iff_left rfl, eq_comm]
  · -- A list with a blank name is not empty, so the authors are lost, and not all of their names are blank.
    obtain ⟨a, ha, _⟩ : ∃ a ∈ authors, a.first.trimmed = "" := by simpa using firsts
    have lost : ¬ [] = authors.map Author.trimmed := by
      intro none
      rw [List.map_eq_nil_iff.1 none.symm] at ha
      cases ha
    have mixed : ¬ (Uniform authors Author.first ∧ Uniform authors Author.last) := by
      rintro ⟨first, last⟩
      rcases named a ha with shown | shown
      · exact shown (first.resolve_left firsts a ha)
      · exact shown (last.resolve_left lasts a ha)
    rw [if_neg firsts, if_neg lasts, pairAuthors, List.map_nil]
    exact iff_of_false lost mixed

end Citation

theorem FieldName.accepts_trimmed_iff {field : FieldName} (array : field.isArray = true) {name : String}
    (oneLine : '\n' ∉ name.toList) : field.accepts name.trimmed = true ↔ name.trimmed ≠ "" := by
  have trimmed : '\n' ∉ name.trimmed.toList := by
    intro inside
    rw [String.trimmed, String.toList_ofList] at inside
    exact oneLine (Text.mem_of_mem_trim inside)
  cases field with
  | authorFirst | authorLast => simp [accepts, trimmed]
  | _ => cases array

namespace TemplateField

theorem check_of_isArray {f : TemplateField} (array : f.name.isArray = true) (values : List String) :
    f.check values = values.map f.accept := by
  rw [check, gather, array]
  rfl

/-- A list of names without line breaks is accepted as a whole or not at all. -/
theorem accepted_names {f : TemplateField} (array : f.name.isArray = true) {names : List String}
    (oneLine : ∀ name ∈ names, '\n' ∉ name.toList) :
    (if FieldOutput.isValid (f.check names) then (f.check names).filterMap id else []) = Citation.wholeNames names := by
  have accepts : ∀ name ∈ names, f.name.accepts name.trimmed = true ↔ name.trimmed ≠ "" :=
    fun name member => FieldName.accepts_trimmed_iff array (oneLine name member)
  rw [check_of_isArray array, Citation.wholeNames]
  by_cases whole : ∀ name ∈ names, name.trimmed ≠ ""
  · have kept : names.map f.accept = (names.map String.trimmed).map some := by
      rw [List.map_map]
      exact List.map_congr_left fun name member => if_pos ((accepts name member).2 (whole name member))
    rw [if_pos whole, kept]
    -- Without names the list is not valid, but then there is nothing to keep.
    cases names <;> simp [FieldOutput.isValid]
  · obtain ⟨name, member, blank⟩ : ∃ name ∈ names, name.trimmed = "" := by simpa using whole
    have refused : f.accept name = none := if_neg fun taken => (accepts name member).1 taken blank
    have some_none : (names.map f.accept).all Option.isSome = false :=
      List.all_eq_false.2 ⟨none, refused ▸ List.mem_map_of_mem member, by decide⟩
    rw [if_neg whole, FieldOutput.isValid, some_none, Bool.and_false]
    rfl

theorem isValid_check_singleton {f : TemplateField} {value : String} (accepts : f.name.accepts value.trimmed = true) :
    FieldOutput.isValid (f.check [value]) = true := by
  have single : f.gather [value] = [value] := by simp [gather]
  rw [check, single, List.map_singleton, accept, if_pos accepts]
  rfl

end TemplateField

/-! Citations in the form in which Citoid answers them. -/

namespace SimpleCitation

def creators (authors : List Author) : Json := .array (authors.map fun a => .array [.string a.first, .string a.last])

theorem splitCreators_creators (authors : List Author) :
    splitCreators (creators authors) = (authors.map Author.first, authors.map Author.last) := by
  simp [splitCreators, creators, Json.items?, List.map_map, Function.comp_def, creatorPart, Json.string?]

/-- An object with a known type of item, a title on one line, and authors of which each has a name on one line. The
lists of names are made from the authors only. -/
structure Cites (fields : List (String × Json)) (authors : List Author) : Prop where
  distinct : (fields.map Prod.fst).Nodup
  itemType : ∃ itemType ∈ FieldName.itemTypes, ("itemType", .string itemType) ∈ fields
  title : ∃ title : String,
    ("title", .string title) ∈ fields ∧ title.trimmed ≠ "" ∧ '\n' ∉ title.trimmed.toList
  author : ("author", creators authors) ∈ fields
  named : ∀ a ∈ authors, a.first.trimmed ≠ "" ∨ a.last.trimmed ≠ ""
  oneLine : ∀ a ∈ authors, '\n' ∉ a.first.toList ∧ '\n' ∉ a.last.toList
  unnamed : "authorFirst" ∉ fields.map Prod.fst ∧ "authorLast" ∉ fields.map Prod.fst

variable {fields : List (String × Json)} {authors : List Author}

namespace Cites

theorem values_of_text (h : Cites fields authors) {key text : String} (member : (key, .string text) ∈ fields)
    (plain : key ∉ roles) (apart : ∀ role ∈ roles, ¬ (key = role ++ "First" ∨ key = role ++ "Last")) :
    (ofMediawiki (.object fields)).values key = [text] := by
  have added : (key, .single text) ∈ pairsOfField key (.string text) := by
    rw [pairsOfField_of_not_role plain]
    exact List.mem_singleton.2 rfl
  exact values_ofMediawiki h.distinct member added (fun _ => rfl) fun role listed named =>
    absurd named (apart role listed)

theorem pairsOfField_author (authors : List Author) :
    pairsOfField "author" (creators authors) =
      [("authorFirst", .multiple (authors.map Author.first)), ("authorLast", .multiple (authors.map Author.last))] := by
  rw [pairsOfField_of_role (by decide), splitCreators_creators]
  rfl

theorem values_authorFirst (h : Cites fields authors) :
    (ofMediawiki (.object fields)).values "authorFirst" = authors.map Author.first := by
  have added : ("authorFirst", .multiple (authors.map Author.first)) ∈ pairsOfField "author" (creators authors) := by
    rw [pairsOfField_author]
    exact List.mem_cons_self
  exact values_ofMediawiki h.distinct h.author added (fun literal => absurd literal h.unnamed.1) (by decide)

theorem values_authorLast (h : Cites fields authors) :
    (ofMediawiki (.object fields)).values "authorLast" = authors.map Author.last := by
  have added : ("authorLast", .multiple (authors.map Author.last)) ∈ pairsOfField "author" (creators authors) := by
    rw [pairsOfField_author]
    exact List.mem_cons_of_mem _ List.mem_cons_self
  exact values_ofMediawiki h.distinct h.author added (fun literal => absurd literal h.unnamed.2) (by decide)

end Cites
end SimpleCitation

namespace FallbackTemplate

open SimpleCitation (Cites)

def takeOver (name : FieldName) (key : CitoidKey) (transformations : List Transformation) : TemplateField :=
  ⟨name, name.isForceRequired, [⟨[.citoid (some key)], transformations⟩]⟩

theorem items_citoidDefault (domain : String) :
    (citoidDefault domain).fields.items =
      [takeOver .itemType ⟨"itemType", by decide⟩ [], takeOver .title ⟨"title", by decide⟩ [],
        takeOver .authorFirst ⟨"authorFirst", by decide⟩ [], takeOver .authorLast ⟨"authorLast", by decide⟩ [],
        takeOver .date ⟨"date", by decide⟩ [⟨.date .en, true⟩],
        takeOver .publishedIn ⟨"publicationTitle", by decide⟩ [], takeOver .publishedBy ⟨"publisher", by decide⟩ [],
        takeOver .language ⟨"language", by decide⟩ []] := rfl

theorem readsCitation_citoidDefault (domain : String) : TemplateRules.ReadsCitation (citoidDefault domain) := by
  intro selection member
  simp only [TemplateRules.selections, items_citoidDefault, TemplateField.selections, takeOver, List.flatMap_cons,
    List.flatMap_nil, List.append_nil, List.mem_append, List.mem_singleton] at member
  rcases member with rfl | rfl | rfl | rfl | rfl | rfl | rfl | rfl <;> exact ⟨_, rfl⟩

variable {c : SimpleCitation} {name : FieldName} {key : CitoidKey}

theorem outputIn_takeOver (c : SimpleCitation) (name : FieldName) (key : CitoidKey) :
    ((takeOver name key []).outputIn c).output = (takeOver name key []).check (c.values key.name) := by
  have values : ((takeOver name key []).procedures.map (Procedure.outputIn c)).flatMap ProcedureOutput.output =
      c.values key.name := by
    simp [takeOver, Procedure.outputIn, Procedure.outputOf, Procedure.chain, Selection.valuesIn]
  rw [TemplateField.outputIn, TemplateField.outputOf, values]

theorem applicable_of_optional {transformations : List Transformation} (optional : name.isForceRequired = false) :
    ((takeOver name key transformations).outputIn c).applicable = true := by
  have free : (takeOver name key transformations).required = false := optional
  rw [TemplateField.outputIn, TemplateField.outputOf, free]
  exact Bool.or_true _

theorem applicable_of_accepts {value : String} (single : c.values key.name = [value])
    (accepts : name.accepts value.trimmed = true) : ((takeOver name key []).outputIn c).applicable = true := by
  have valid : FieldOutput.isValid ((takeOver name key []).outputIn c).output = true := by
    rw [outputIn_takeOver, single]
    exact TemplateField.isValid_check_singleton accepts
  exact Bool.or_eq_true_iff.2 (.inl valid)

theorem validValues_takeOver {t : TemplateRules} (member : takeOver name key [] ∈ t.fields.items)
    (array : name.isArray = true) (oneLine : ∀ value ∈ c.values key.name, '\n' ∉ value.toList) :
    Citation.validValues (t.fieldsIn c) name = Citation.wholeNames (c.values key.name) := by
  have kept := TemplateRules.validValues_fieldsIn (c := c) member
  have valid : ((takeOver name key []).outputIn c).valid =
      FieldOutput.isValid ((takeOver name key []).check (c.values key.name)) := by
    rw [← outputIn_takeOver]
    rfl
  rw [valid, FieldOutput.values, outputIn_takeOver] at kept
  exact kept.trans (TemplateField.accepted_names array oneLine)

theorem trimmed_of_mem_itemTypes : ∀ itemType ∈ FieldName.itemTypes, itemType.trimmed = itemType := by
  decide +kernel

variable {fields : List (String × Json)} {authors : List Author}

theorem all_applicable (h : Cites fields authors) (domain : String) :
    ((citoidDefault domain).fieldsIn (.ofMediawiki (.object fields))).all FieldOutput.applicable = true := by
  obtain ⟨itemType, listed, typed⟩ := h.itemType
  obtain ⟨title, titled, shown, oneLine⟩ := h.title
  rw [List.all_eq_true]
  intro o member
  obtain ⟨f, hf, rfl⟩ := List.mem_map.1 member
  simp only [items_citoidDefault, List.mem_cons, List.not_mem_nil, or_false] at hf
  -- Only the type and the title are required.
  rcases hf with rfl | rfl | rfl | rfl | rfl | rfl | rfl | rfl
  · refine applicable_of_accepts (h.values_of_text typed (by decide) (by decide)) ?_
    rw [trimmed_of_mem_itemTypes itemType listed]
    exact List.contains_iff_mem.2 listed
  · refine applicable_of_accepts (h.values_of_text titled (by decide) (by decide)) ?_
    simp [FieldName.accepts, shown, oneLine]
  all_goals exact applicable_of_optional rfl

theorem authors_citoidDefault (h : Cites fields authors) (domain url : String) :
    (TemplateOutput.cite url ((citoidDefault domain).fieldsIn (.ofMediawiki (.object fields)))).authors =
      Citation.pairAuthors (Citation.wholeNames (authors.map Author.first))
        (Citation.wholeNames (authors.map Author.last)) := by
  have firsts : takeOver .authorFirst ⟨"authorFirst", by decide⟩ [] ∈ (citoidDefault domain).fields.items := by
    simp [items_citoidDefault]
  have lasts : takeOver .authorLast ⟨"authorLast", by decide⟩ [] ∈ (citoidDefault domain).fields.items := by
    simp [items_citoidDefault]
  rw [TemplateRules.authors_cite_fieldsIn, validValues_takeOver firsts rfl, validValues_takeOver lasts rfl,
    h.values_authorFirst, h.values_authorLast]
  · rw [h.values_authorLast, List.forall_mem_map]
    exact fun a member => (h.oneLine a member).2
  · rw [h.values_authorFirst, List.forall_mem_map]
    exact fun a member => (h.oneLine a member).1

end FallbackTemplate

/-- On a page of its domain with such a citation, the default fallback applies. It cites the list of first names and
the list of last names, each of them only if no name in it is blank. So the authors are those of the citation where
first names are blank for all of them or for none, and last names, too. -/
theorem fallback_cites_whole_names {fields : List (String × Json)} {authors : List Author}
    (cites : SimpleCitation.Cites fields authors) {domain : String} {v : Visit}
    (own : v.webpage.domain = domain.asciiLower)
    (answered : v.served.citoid = .ok (.ofMediawiki (.object fields))) :
    ∃ o c, (v.run (FallbackTemplate.reading (.citoidDefault domain) v.webpage)).1 = .ok o ∧
      o.applicable = true ∧ o.citation = some c ∧
      c.authors = Citation.pairAuthors (Citation.wholeNames (authors.map Author.first))
        (Citation.wholeNames (authors.map Author.last)) ∧
      (c.authors = authors.map Author.trimmed ↔
        Citation.Uniform authors Author.first ∧ Citation.Uniform authors Author.last) := by
  have result : (FallbackTemplate.reading (.citoidDefault domain) v.webpage).resultOn v.served = .ok _ :=
    (FallbackTemplate.readsCitation_citoidDefault domain).resultOn_reading answered own
  have applies := FallbackTemplate.all_applicable cites domain
  have named := FallbackTemplate.authors_citoidDefault cites domain v.webpage.address
  refine ⟨_, _, (Visit.run_eq_ok_iff _ _ _).2 result, applies, if_pos applies, named, ?_⟩
  rw [named]
  exact Citation.pairAuthors_wholeNames_iff cites.named

namespace OrganisationFirst

def target : Webpage := ⟨⟨.https, "", "", "u.v", none, "/x", none, none⟩⟩

def fields (authors : List Author) : List (String × Json) :=
  [("author", SimpleCitation.creators authors), ("itemType", .string "webpage"), ("title", .string "T")]

def visit (authors : List Author) : Visit :=
  .start target (.error .transport) (.ok (.ofMediawiki (.object (fields authors)))) none none

def persons : List Author := [⟨" Ada", "Lovelace"⟩, ⟨"Grace", "Hopper "⟩]

def mixed : List Author := [⟨"", "UNESCO"⟩, ⟨"Ada", "Lovelace"⟩]

theorem cites {authors : List Author} (named : ∀ a ∈ authors, a.first.trimmed ≠ "" ∨ a.last.trimmed ≠ "")
    (oneLine : ∀ a ∈ authors, '\n' ∉ a.first.toList ∧ '\n' ∉ a.last.toList) :
    SimpleCitation.Cites (fields authors) authors where
  distinct := by simp [fields]
  itemType := ⟨"webpage", by decide, by simp [fields]⟩
  title := ⟨"T", by simp [fields], by decide, by decide⟩
  author := by simp [fields]
  named := named
  oneLine := oneLine
  unnamed := by simp [fields]

theorem authors_of_persons :
    ∃ o c, ((visit persons).run (FallbackTemplate.reading (.citoidDefault "U.v") target)).1 = .ok o ∧
      o.citation = some c ∧ c.authors = [⟨"Ada", "Lovelace"⟩, ⟨"Grace", "Hopper"⟩] := by
  have described : SimpleCitation.Cites (fields persons) persons := cites (by decide) (by decide)
  have own : (visit persons).webpage.domain = "U.v".asciiLower := by decide
  have answered : (visit persons).served.citoid = .ok (.ofMediawiki (.object (fields persons))) := rfl
  obtain ⟨o, c, ran, -, cited, -, kept⟩ := fallback_cites_whole_names described own answered
  have uniform : Citation.Uniform persons Author.first ∧ Citation.Uniform persons Author.last :=
    ⟨.inl (by decide), .inl (by decide)⟩
  exact ⟨o, c, ran, cited, (kept.2 uniform).trans (by decide)⟩

theorem first_name_is_lost :
    SimpleCitation.Cites (fields mixed) mixed ∧
      ∃ o c, ((visit mixed).run (FallbackTemplate.reading (.citoidDefault "U.v") target)).1 = .ok o ∧
        o.applicable = true ∧ o.citation = some c ∧ c.authors = [⟨"", "UNESCO"⟩, ⟨"", "Lovelace"⟩] ∧
        c.authors ≠ mixed.map Author.trimmed := by
  refine ⟨cites (by decide) (by decide), _, _, (Visit.run_eq_ok_iff _ _ _).2 rfl, rfl, rfl, rfl, ?_⟩
  decide

end OrganisationFirst
end WebCitation
