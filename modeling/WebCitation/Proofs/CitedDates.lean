import WebCitation.Proofs.DateForm
import WebCitation.Proofs.Pieces
import WebCitation.Proofs.WellFormed

/-!
The dates of citations. Whatever a page says and whatever is made of it, a citation has the date that the field for dates
comes to if this is one value in the form of a date, and none otherwise. The field takes the digits of every script.
-/
namespace WebCitation

open Text

theorem Separator.mem_trimmed_comma_join {values : List String} (several : 1 < values.length) :
    ',' ∈ (Separator.comma.join values).trimmed.toList := by
  have inside : ',' ∈ (Separator.comma.join values).toList := by
    rw [Separator.join, String.toList_ofList]
    change ',' ∈ Text.join [','] _
    exact mem_join.2 (.inl ⟨rfl, by simpa using several⟩)
  rw [String.trimmed, String.toList_ofList]
  exact mem_trim_of_mem (by decide) inside

namespace TemplateField

theorem accept_date {f : TemplateField} (named : f.name = .date) {value date : String} :
    f.accept value = some date ↔ value.trimmed = date ∧ DateForm isDecimalDigit date.toList := by
  rw [accept_eq_some_iff, named]
  exact and_congr_right fun _ => FieldName.isDate_iff

theorem gather_of_several {f : TemplateField} (scalar : f.name.isArray = false) {values : List String}
    (several : 1 < values.length) : f.gather values = [Separator.comma.join values] := by
  rw [gather, scalar, Bool.not_false, Bool.true_and, if_pos (decide_eq_true several)]

theorem check_eq_date_iff {f : TemplateField} (named : f.name = .date) {values : List String} {date : String} :
    f.check values = [some date] ↔
      ∃ value, values = [value] ∧ value.trimmed = date ∧ DateForm isDecimalDigit date.toList := by
  have scalar : f.name.isArray = false := by rw [named]; rfl
  match values with
  | [] => simp [check, gather]
  | [value] => simp [check, gather, accept_date named]
  | value :: next :: values =>
    have several : 1 < (value :: next :: values).length := by simp
    constructor
    · intro h
      rw [check, gather_of_several scalar several] at h
      obtain ⟨rfl, form⟩ := (accept_date named).1 (List.singleton_injective h)
      rcases form.of_mem (Separator.mem_trimmed_comma_join several) with digit | hyphen
      · exact absurd digit (by decide)
      · cases hyphen
    · rintro ⟨_, same, _⟩
      cases same

theorem Records.output_eq_date_iff {s : Served} {f : TemplateField} {o : FieldOutput} (h : f.Records s o)
    (named : o.name = .date) {date : String} :
    o.output = [some date] ↔
      ∃ value, o.procedures.flatMap ProcedureOutput.output = [value] ∧ value.trimmed = date ∧
        DateForm isDecimalDigit date.toList := by
  have checked : o.output = f.check (o.procedures.flatMap ProcedureOutput.output) := by
    have made := congrArg FieldOutput.output h.made
    exact made
  rw [checked, check_eq_date_iff (h.name ▸ named)]

theorem Records.valid_of_output {s : Served} {f : TemplateField} {o : FieldOutput} (h : f.Records s o) {value : String}
    (output : o.output = [some value]) : o.valid = true := by
  have judged : o.valid = FieldOutput.isValid o.output := by
    rw [h.made]
    rfl
  rw [judged, output]
  rfl

end TemplateField

namespace TemplateRules

variable {s : Served} {t : TemplateRules} {fields : List FieldOutput}

theorem date_cite_eq_some_iff (recorded : List.Forall₂ (TemplateField.Records s) t.fields.items fields) (url : String)
    {date : String} :
    (TemplateOutput.cite url fields).date = some date ↔
      ∃ f ∈ fields, f.name = .date ∧ f.output = [some date] := by
  have part := (sumsUp_cite recorded url).part .date rfl rfl
  have cited : (TemplateOutput.cite url fields).part? .date = (TemplateOutput.cite url fields).date := rfl
  rw [cited] at part
  constructor
  · intro h
    cases found : TemplateOutput.validField? fields .date with
    | none =>
      simp only [found, h] at part
      cases part
    | some f =>
      simp only [found] at part
      obtain ⟨value, output, same⟩ := part
      obtain ⟨member, -, named⟩ := TemplateOutput.mem_of_validField? found
      cases h.symm.trans same
      exact ⟨f, member, named, output⟩
  · rintro ⟨f, member, named, output⟩
    obtain ⟨field, hf⟩ := exists_field_of_mem recorded member
    have found := TemplateOutput.validField?_of_mem (distinct_names recorded) member
    rw [named, hf.valid_of_output output] at found
    simp only [found, if_true] at part
    obtain ⟨value, output', same⟩ := part
    rw [output] at output'
    cases output'
    exact same

end TemplateRules

/-- A citation has as its date the value that its date field comes to, trimmed, if there is just one and it is in the
form of a date in the digits of any script. The date is one in ASCII exactly where no digit is of another script. -/
theorem cited_dates_are_ascii_iff (t : TemplateRules) (path : Option String) (v : Visit) {o : TemplateOutput}
    (h : (v.run (t.reading path v.webpage)).1 = .ok o) {c : Citation} (cited : o.citation = some c) :
    (∀ date, c.date = some date ↔
      ∃ f ∈ o.fields, f.name = .date ∧ ∃ value, f.procedures.flatMap ProcedureOutput.output = [value] ∧
        value.trimmed = date ∧ DateForm isDecimalDigit date.toList) ∧
      ∀ date, c.date = some date →
        (DateForm Char.isDigit date.toList ↔ ∀ digit ∈ date.toList, digit.toNat < 128) := by
  have ran : (Candidate.reading ⟨t, path⟩ v.webpage).resultOn v.served = .ok o := (Visit.run_eq_ok_iff _ _ _).1 h
  have recorded := Candidate.records_of_reading ran
  obtain ⟨-, made⟩ := recorded.citation_eq_some_iff.1 cited
  have dated : ∀ date, c.date = some date ↔
      ∃ f ∈ o.fields, f.name = .date ∧ ∃ value, f.procedures.flatMap ProcedureOutput.output = [value] ∧
        value.trimmed = date ∧ DateForm isDecimalDigit date.toList := by
    intro date
    rw [← made, TemplateRules.date_cite_eq_some_iff recorded.fields]
    apply exists_congr
    intro f
    refine and_congr_right fun member => and_congr_right fun named => ?_
    obtain ⟨field, hf⟩ := TemplateRules.exists_field_of_mem recorded.fields member
    exact hf.output_eq_date_iff named
  refine ⟨dated, ?_⟩
  intro date known
  obtain ⟨_, _, _, _, _, _, form⟩ := (dated date).1 known
  exact form.isDigit_iff

namespace WideYear

def target : Webpage := ⟨⟨.https, "", "", "s.t", none, "/x", none, none⟩⟩

def rules : TemplateRules :=
  ⟨"s.t", none, ⟨[⟨.date, false, [⟨[.citoid (some ⟨"date", by decide⟩)], [⟨.date .en, true⟩]⟩]⟩], by decide⟩⟩

def visit (date : String) : Visit :=
  .start target (.error .transport) (.ok ⟨[("date", .single date)], by simp⟩) none none

def citation (date : String) : Citation := { Citation.ofUrl target.address with date := some date }

def output (value date : String) : TemplateOutput :=
  ⟨"s.t", some "/x", none, [⟨.date, [⟨[[value]], [value], [[date]], [date]⟩], [some date], true, true, false⟩], true,
    some (citation date)⟩

theorem narrow_year_is_cited :
    ((visit "Jan 2022").run (rules.reading (some "/x") target)).1 = .ok (output "Jan 2022" "2022-01") ∧
      (citation "2022-01").date = some "2022-01" ∧ DateForm Char.isDigit "2022-01".toList := by
  have ran : ((visit "Jan 2022").run (rules.reading (some "/x") target)).1 = .ok (output "Jan 2022" "2022-01") :=
    (Visit.run_eq_ok_iff _ _ _).2 (by decide +kernel)
  obtain ⟨-, ascii⟩ := cited_dates_are_ascii_iff rules (some "/x") (visit "Jan 2022") ran rfl
  exact ⟨ran, rfl, (ascii "2022-01" rfl).2 (by simp)⟩

theorem wide_year_is_cited :
    ((visit "２０２２").run (rules.reading (some "/x") target)).1 = .ok (output "２０２２" "２０２２") ∧
      (output "２０２２" "２０２２").citation = some (citation "２０２２") ∧
      (citation "２０２２").date = some "２０２２" ∧ ¬ DateForm Char.isDigit "２０２２".toList := by
  refine ⟨(Visit.run_eq_ok_iff _ _ _).2 (by decide +kernel), rfl, rfl, ?_⟩
  intro form
  exact absurd (form.of_mem (c := '２') (by decide)) (by decide)

end WideYear

end WebCitation
