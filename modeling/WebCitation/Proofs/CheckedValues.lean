import WebCitation.Proofs.BlankValues
import WebCitation.Proofs.CitoidAuthors

/-!
Checking values. A field with several values checks each of them in its own place, any other field has one value at
most. What is accepted is trimmed and is accepted again as it is, so to check values that have been checked changes
nothing, and a valid output says all that the field holds.
-/
namespace WebCitation

namespace Text

theorem trimmed_eq_self_iff {s : String} : s.trimmed = s ↔ IsTrimmed s.toList := by
  rw [← trim_eq_self_iff, String.trimmed, ← String.toList_inj, String.toList_ofList]

end Text

namespace FieldOutput

theorem map_some_values {o : FieldOutput} (valid : isValid o.output = true) : o.values.map some = o.output := by
  simp only [isValid, Bool.and_eq_true, List.all_eq_true] at valid
  have accepted := valid.2
  rw [values]
  generalize o.output = output at accepted
  induction output with
  | nil => rfl
  | cons value output ih =>
    obtain ⟨text, rfl⟩ := Option.isSome_iff_exists.1 (accepted value List.mem_cons_self)
    simpa using ih fun other member => accepted other (List.mem_cons_of_mem _ member)

end FieldOutput

namespace TemplateField

variable {f : TemplateField}

theorem accept_of_accept {given value : String} (h : f.accept given = some value) : f.accept value = some value := by
  obtain ⟨rfl, taken⟩ := accept_eq_some_iff.1 h
  exact accept_eq_some_iff.2 ⟨Text.trimmed_eq_self_iff.2 (Text.isTrimmed_trimmed given), taken⟩

theorem gather_of_short {values : List String} (short : values.length ≤ 1) : f.gather values = values := by
  rw [gather, decide_eq_false (by omega), Bool.and_false]
  rfl

theorem length_check_of_scalar (scalar : f.name.isArray = false) (values : List String) :
    (f.check values).length = min 1 values.length := by
  rw [check, List.length_map]
  by_cases several : 1 < values.length
  · rw [gather_of_several scalar several, List.length_singleton]
    omega
  · rw [gather_of_short (by omega)]
    omega

theorem gather_of_checked {values checked : List String} (h : f.check values = checked.map some) :
    f.gather checked = checked := by
  cases array : f.name.isArray with
  | true => rw [gather, array]; rfl
  | false =>
    have left := length_check_of_scalar array values
    rw [h, List.length_map] at left
    exact gather_of_short (by omega)

theorem check_of_checked {values checked : List String} (h : f.check values = checked.map some) :
    f.check checked = checked.map some := by
  rw [check, gather_of_checked h]
  refine List.map_congr_left fun value member => ?_
  have inside : some value ∈ f.check values := h ▸ List.mem_map_of_mem member
  obtain ⟨given, -, taken⟩ := List.mem_map.1 inside
  exact accept_of_accept taken

theorem isTrimmed_of_mem_check {values : List String} {value : String} (member : some value ∈ f.check values) :
    Text.IsTrimmed value.toList ∧ f.name.accepts value = true := by
  obtain ⟨accepted, given, rfl⟩ := takes_of_mem_check member
  exact ⟨Text.isTrimmed_trimmed given, accepted⟩

end TemplateField

/-- A check leaves the values of a list in their places, each as it would be alone, and at most one value of any other
field. What it accepts has no white space at its ends and is a value of the field, and checking it again changes
nothing. So does a field judge the outputs of its procedures, and a valid output has no values but those that it says.
-/
theorem checked_values_are_stable (f : TemplateField) :
    (f.name.isArray = true → ∀ xs : List String, (f.check xs).length = xs.length ∧
      ∀ (ys : List String) (i : Nat), xs[i]? = ys[i]? → (f.check xs)[i]? = (f.check ys)[i]?) ∧
    (f.name.isArray = false → ∀ xs : List String, (f.check xs).length = min 1 xs.length) ∧
    (∀ (xs : List String) (value : String), some value ∈ f.check xs →
      Text.IsTrimmed value.toList ∧ f.name.accepts value = true) ∧
    (∀ xs ys : List String, f.check xs = ys.map some → f.check ys = ys.map some) ∧
    ∀ (v : Visit) (o : FieldOutput), (v.run f.reading).1 = .ok o →
      o.valid = f.validate (o.procedures.flatMap ProcedureOutput.output) ∧
      (o.valid = true → o.values.map some = o.output) := by
  refine ⟨?_, TemplateField.length_check_of_scalar, fun _ _ => TemplateField.isTrimmed_of_mem_check,
    fun _ _ => TemplateField.check_of_checked, ?_⟩
  · intro array xs
    simp only [TemplateField.check_of_isArray array, List.length_map, List.getElem?_map]
    refine ⟨trivial, ?_⟩
    intro ys i same
    rw [same]
  · intro v o h
    have recorded := TemplateField.records_of_reading ((Visit.run_eq_ok_iff _ _ _).1 h)
    have judged : o.valid = FieldOutput.isValid o.output := by
      rw [recorded.made]
      rfl
    exact ⟨recorded.valid_eq_validate, fun valid => FieldOutput.map_some_values (judged ▸ valid)⟩

namespace PaddedNames

def target : Webpage := ⟨⟨.https, "", "", "k.l", none, "/x", none, none⟩⟩

def editorNames : TemplateField :=
  ⟨.authorLast, false, [⟨[.citoid (some ⟨"editorLast", by decide⟩)], []⟩]⟩

def title : TemplateField := .ofName .title

def visit : Visit :=
  .start target (.error .transport) (.ok ⟨[("editorLast", .multiple [" D", "E\t"])], by decide⟩) none none

def output : FieldOutput :=
  ⟨.authorLast, [⟨[[" D", "E\t"]], [" D", "E\t"], [], [" D", "E\t"]⟩], [some "D", some "E"], true, true, false⟩

theorem padded_names_are_checked :
    (visit.run editorNames.reading).1 = .ok output ∧ output.values.map some = output.output ∧
      output.valid = editorNames.validate [" D", "E\t"] ∧
      editorNames.check ["D", "E"] = [some "D", some "E"] ∧
      (editorNames.check [" ", "E\t"])[1]? = (editorNames.check [" D", "E\t"])[1]? ∧
      (title.check [" A", "B "]).length = 1 ∧ Text.IsTrimmed "A,B".toList := by
  have ran : (visit.run editorNames.reading).1 = .ok output := (Visit.run_eq_ok_iff _ _ _).2 rfl
  obtain ⟨inPlace, -, -, again, reads⟩ := checked_values_are_stable editorNames
  obtain ⟨-, single, taken, -, -⟩ := checked_values_are_stable title
  obtain ⟨judged, complete⟩ := reads visit output ran
  exact ⟨ran, complete rfl, judged, again [" D", "E\t"] ["D", "E"] (by decide), (inPlace rfl _).2 _ 1 rfl,
    single rfl [" A", "B "], (taken [" A", "B "] "A,B" (by decide)).1⟩

end PaddedNames
end WebCitation
