import WebCitation.Proofs.CitedDates

/-!
Blank values of fields. No field but the control field takes a blank value. Yet a field that holds one text takes several
values as one, with commas between them, and these commas are a text even where all values are blank.
-/
namespace WebCitation

open Text

namespace Text

theorem trim_join_of_blank {c : Char} (shown : isBlank c = false) {first last : List Char}
    (before : AllBlank first) (after : AllBlank last) (inner : List (List Char)) :
    trim (join [c] (first :: inner ++ [last])) = join [c] ([] :: inner ++ [[]]) := by
  have start : join [c] ([] :: inner ++ [[]]) = c :: join [c] (inner ++ [[]]) := join_cons (by simp)
  have stop : join [c] ([] :: inner ++ [[]]) = join [c] ([] :: inner) ++ [c] :=
    join_concat (List.cons_ne_nil [] inner) []
  have whole : join [c] (first :: inner ++ [last]) = first ++ (join [c] ([] :: inner ++ [[]]) ++ last) := by
    have front := join_append_cons [c] first [] inner
    rw [List.append_nil] at front
    rw [stop, join_concat (List.cons_ne_nil first inner), front]
    simp only [List.append_assoc]
  rw [whole, trim, trimStart_append before, start, List.cons_append, trimStart_cons shown, ← List.cons_append, ← start,
    trimEnd_append after, stop, trimEnd_concat shown]

theorem trimmed_eq_empty_iff {s : String} : s.trimmed = "" ↔ AllBlank s.toList := by
  simp [String.trimmed, trim_eq_nil_iff]

end Text

theorem Separator.toList_trimmed_comma_join {first last : String} (before : first.trimmed = "")
    (after : last.trimmed = "") (inner : List String) :
    (comma.join (first :: inner ++ [last])).trimmed.toList =
      Text.join [','] ([] :: inner.map String.toList ++ [[]]) := by
  have trimmed := trim_join_of_blank (c := ',') (by decide) (trimmed_eq_empty_iff.1 before)
    (trimmed_eq_empty_iff.1 after) (inner.map String.toList)
  rw [String.trimmed, String.toList_ofList, join, String.toList_ofList, ← trimmed]
  simp [comma]

namespace FieldName

theorem accepts_empty {name : FieldName} (other : name ≠ .control) : name.accepts "" = false := by
  cases name with
  | control => exact absurd rfl other
  | _ => decide

theorem accepts_of_comma {name : FieldName} (other : name ≠ .control) {value : String} (comma : ',' ∈ value.toList) :
    name.accepts value = true ↔ name.isText = true ∧ '\n' ∉ value.toList := by
  have filled : value ≠ "" := by
    rintro rfl
    cases comma
  cases name with
  | control => exact absurd rfl other
  | itemType =>
    have free : ∀ itemType ∈ itemTypes, ',' ∉ itemType.toList := by decide
    refine ⟨fun listed => ?_, nofun⟩
    exact absurd comma (free value (List.contains_iff_mem.1 listed))
  | date =>
    refine ⟨fun form => ?_, nofun⟩
    rcases (isDate_iff.1 form).of_mem comma with digit | hyphen
    · exact absurd digit (by decide)
    · cases hyphen
  | language =>
    refine ⟨fun tag => ?_, nofun⟩
    obtain ⟨code, region, made, ⟨-, -, lower⟩, tail⟩ := isLanguageTag_of_isLanguage tag
    rw [made, List.mem_append] at comma
    rcases comma with inCode | inRegion
    · exact absurd (lower ',' inCode) (by decide)
    · rcases tail with rfl | ⟨letters, rfl, -, -, alpha⟩
      · cases inRegion
      · rcases List.mem_cons.1 inRegion with same | inLetters
        · cases same
        · exact absurd (alpha ',' inLetters) (by decide)
  | title | authorFirst | authorLast | publishedIn | publishedBy => simp [accepts, isText, filled]

/-- Several values of a field that holds one text, of which only the first and the last may have line breaks. -/
def TakesBlanks (name : FieldName) (values : List String) : Prop :=
  name.isText = true ∧ name.isArray = false ∧ 2 ≤ values.length ∧ ∀ value ∈ values.tail.dropLast, '\n' ∉ value.toList

end FieldName

namespace TemplateField

theorem accept_of_blank {f : TemplateField} (other : f.name ≠ .control) {value : String} (blank : value.trimmed = "") :
    f.accept value = none := by
  rw [accept, blank, FieldName.accepts_empty other]
  rfl

theorem validate_eq_accepts {f : TemplateField} {values : List String} {value : String}
    (one : f.gather values = [value]) : f.validate values = f.name.accepts value.trimmed := by
  rw [validate, check, one]
  cases taken : f.name.accepts value.trimmed <;> simp [FieldOutput.isValid, accept, taken]

theorem validate_of_blank_head {f : TemplateField} (other : f.name ≠ .control) {first : String}
    (blank : first.trimmed = "") {rest : List String} (apart : f.gather (first :: rest) = first :: rest) :
    f.validate (first :: rest) = false := by
  rw [validate, check, apart, List.map_cons, accept_of_blank other blank]
  rfl

theorem validate_blank_iff {f : TemplateField} (other : f.name ≠ .control) {values : List String}
    (blank : ∀ value ∈ values, value.trimmed = "") : f.validate values = true ↔ f.name.TakesBlanks values := by
  -- Values that the field takes one by one are refused with the first of them; what is left are several that it joins.
  cases values with
  | nil => simp [validate, check, gather, FieldOutput.isValid, FieldName.TakesBlanks]
  | cons first rest =>
    have before : first.trimmed = "" := blank first List.mem_cons_self
    cases array : f.name.isArray with
    | true =>
      have apart : f.gather (first :: rest) = first :: rest := by simp [gather, array]
      simp [validate_of_blank_head other before apart, FieldName.TakesBlanks, array]
    | false =>
      rcases List.eq_nil_or_concat' rest with rfl | ⟨inner, last, rfl⟩
      · have apart : f.gather [first] = [first] := by simp [gather]
        simp [validate_of_blank_head other before apart, FieldName.TakesBlanks]
      · have after : last.trimmed = "" := blank last (by simp)
        have several : 1 < (first :: inner ++ [last]).length := by simp
        have text := Separator.toList_trimmed_comma_join before after inner
        have comma := Separator.mem_trimmed_comma_join several
        have oneLine : '\n' ∉ (Separator.comma.join (first :: inner ++ [last])).trimmed.toList ↔
            ∀ value ∈ inner, '\n' ∉ value.toList := by
          rw [text, mem_join]
          simp
        have joined := validate_eq_accepts (gather_of_several array several)
        rw [← List.cons_append, joined, FieldName.accepts_of_comma other comma, oneLine]
        simp [FieldName.TakesBlanks, array]

theorem Records.valid_eq_validate {s : Served} {f : TemplateField} {o : FieldOutput} (h : f.Records s o) :
    o.valid = f.validate (o.procedures.flatMap ProcedureOutput.output) := by
  have judged := congrArg FieldOutput.valid h.made
  exact judged

end TemplateField

/-- Blank values of a field other than the control field are valid just if they are several values of a field that holds
one text, without a line break between the first and the last of them. Only there does a required field apply on blank
values alone, and only there its template or fallback with it. -/
theorem blank_values_are_valid_iff (f : TemplateField) (other : f.name ≠ .control) :
    (∀ values, (∀ value ∈ values, value.trimmed = "") →
      (f.validate values = true ↔ f.name.TakesBlanks values)) ∧
    ∀ (t : TemplateRules) (path : Option String) (v : Visit) (o : TemplateOutput), f ∈ t.fields.items →
      (v.run (t.reading path v.webpage)).1 = .ok o →
        ∃ out ∈ o.fields, out.name = f.name ∧
          let values := out.procedures.flatMap ProcedureOutput.output
          ((∀ value ∈ values, value.trimmed = "") →
            (out.valid = true ↔ f.name.TakesBlanks values) ∧
            (f.required = true → out.applicable = true ∨ o.applicable = true → f.name.TakesBlanks values)) := by
  refine ⟨fun values blank => f.validate_blank_iff other blank, ?_⟩
  intro t path v o member h
  have ran : (Candidate.reading ⟨t, path⟩ v.webpage).resultOn v.served = .ok o := (Visit.run_eq_ok_iff _ _ _).1 h
  have recorded := Candidate.records_of_reading ran
  obtain ⟨out, inside, hf⟩ := exists_mem_of_forall₂ recorded.fields.flip member
  refine ⟨out, inside, hf.name, ?_⟩
  intro values blank
  have valid : out.valid = true ↔ f.name.TakesBlanks values := by
    rw [hf.valid_eq_validate]
    exact f.validate_blank_iff other blank
  refine ⟨valid, ?_⟩
  intro required applies
  have applicable : out.applicable = true := by
    rcases applies with applicable | all
    · exact applicable
    · rw [recorded.applicable] at all
      exact List.all_eq_true.1 all out inside
  rcases hf.applicable_iff.1 applicable with taken | optional
  · exact valid.1 taken
  · rw [required] at optional
    cases optional

namespace EmptyHeadings

def target : Webpage := ⟨⟨.https, "", "", "g.h", none, "/x", none, none⟩⟩

def title : TemplateField :=
  ⟨.title, true, [⟨[.xpath (some ⟨"//h1", by decide +kernel⟩)], []⟩]⟩

def rules : TemplateRules :=
  ⟨"g.h", none, ⟨[title], by simp⟩⟩

def visit (body : String) : Visit :=
  .start target (.ok (.ofBody target.address body)) (.error .transport) none none

def output (values : List String) (title : Option String) : TemplateOutput :=
  ⟨"g.h", some "/x", none, [⟨.title, [⟨[values], values, [], values⟩], [title], title.isSome, title.isSome, false⟩],
    title.isSome, title.map fun title => { Citation.ofUrl target.address with title := some title }⟩

theorem one_empty_heading_is_no_title :
    ((visit "<h1> </h1>").run (rules.reading (some "/x") target)).1 = .ok (output [""] none) ∧
      ¬ FieldName.TakesBlanks .title [""] ∧ (output [""] none).applicable = false ∧
      title.validate [" "] = false := by
  have ran : ((visit "<h1> </h1>").run (rules.reading (some "/x") target)).1 = .ok (output [""] none) :=
    (Visit.run_eq_ok_iff _ _ _).2 (by decide +kernel)
  obtain ⟨fields, templates⟩ := blank_values_are_valid_iff title (by decide)
  obtain ⟨out, member, -, alone⟩ :=
    templates rules (some "/x") (visit "<h1> </h1>") _ List.mem_cons_self ran
  have single : ∀ value : String, ¬ FieldName.TakesBlanks .title [value] := by simp [FieldName.TakesBlanks]
  obtain rfl := List.mem_singleton.1 member
  obtain ⟨-, applies⟩ := alone (by decide)
  refine ⟨ran, single "", ?_, ?_⟩
  · rw [← Bool.not_eq_true]
    exact fun applicable => single "" (applies rfl (.inr applicable))
  · rw [← Bool.not_eq_true, fields [" "] (by decide)]
    exact single " "

theorem two_empty_headings_are_cited :
    ((visit "<h1></h1><h1> </h1>").run (rules.reading (some "/x") target)).1 = .ok (output ["", ""] (some ",")) ∧
      (∀ value ∈ ["", ""], value.trimmed = "") ∧ title.validate ["", ""] = true ∧
      (output ["", ""] (some ",")).applicable = true :=
  ⟨(Visit.run_eq_ok_iff _ _ _).2 (by decide +kernel), by decide, by decide, rfl⟩

end EmptyHeadings
end WebCitation
