import WebCitation.Proofs.Records

/-!
What a procedure makes of its selections. It records their values and what each transformation makes of the values
before it. Where the chain ends with nothing the selected values are the output, so what was selected is never lost
altogether. Of nothing it makes nothing, unless it joins all values there.
-/
namespace WebCitation

namespace Transformation

/-- A join that takes all values together makes one of none. -/
def JoinsAll (t : Transformation) : Prop := ∃ separator, t = ⟨.join separator, false⟩

theorem apply_nil_iff (t : Transformation) : t.apply [] = [] ↔ ¬ t.JoinsAll := by
  obtain ⟨rule, itemwise⟩ := t
  cases rule with
  | join separator => cases itemwise <;> simp [apply, JoinsAll]
  | split separator => simp [apply, gathered, JoinsAll]
  | date locale => simp [apply, gathered, JoinsAll]
  | range ranges => simp [apply, RangeList.select, Range.select, JoinsAll]

end Transformation

namespace Procedure

theorem chain_nil_iff (ts : List Transformation) :
    (∀ values ∈ chain [] ts, values = []) ↔ ∀ t ∈ ts, ¬ t.JoinsAll := by
  induction ts with
  | nil => simp [chain]
  | cons t ts ih =>
    rw [chain, List.forall_mem_cons, List.forall_mem_cons, t.apply_nil_iff]
    refine and_congr_right fun other => ?_
    rw [t.apply_nil_iff.2 other]
    exact ih

theorem Records.output_ne_nil {s : Served} {p : Procedure} {o : ProcedureOutput} (h : p.Records s o)
    (selected : o.selectionOutput ≠ []) : o.output ≠ [] := by
  rw [h.output]
  dsimp only
  split
  · exact selected
  · rename_i filled
    simpa using filled

theorem getLast?_getD_of_forall_eq_nil {outputs : List (List String)} (none : ∀ values ∈ outputs, values = []) :
    outputs.getLast?.getD [] = [] := by
  cases last : outputs.getLast? with
  | none => rfl
  | some values => exact none values (List.mem_of_getLast? last)

theorem outputOf_of_flatten_eq_nil (p : Procedure) {values : List (List String)} (none : values.flatten = []) :
    ((∀ output ∈ (p.outputOf values).transformations, output = []) ↔ ∀ t ∈ p.transformations, ¬ t.JoinsAll) ∧
      ((∀ t ∈ p.transformations, ¬ t.JoinsAll) → (p.outputOf values).output = []) := by
  have chained := chain_nil_iff p.transformations
  simp only [outputOf, none]
  refine ⟨chained, ?_⟩
  intro other
  rw [getLast?_getD_of_forall_eq_nil (chained.2 other)]
  rfl

end Procedure

/-- Where every selection that is run alone has values, the procedure has an output, whatever was read before and whenever
the answers come. It records these values in order, their concatenation, what each transformation makes of the values
before it, and the last of these, or what was selected if that is empty. So the output is not empty where something was
selected. Where nothing was, all outputs on the way are empty just if no transformation joins all values, and so is then
the output itself. -/
theorem procedures_record_their_chain (p : Procedure) {v w : Visit} (alike : v.Alike w) {values : List (List String)}
    (succeed : List.Forall₂ (fun selection values => (w.run selection.reading).1 = .ok values) p.selections values) :
    ∃ o, (v.run p.reading).1 = .ok o ∧ o.selections = values ∧ p.Records v.served o ∧
      (o.selectionOutput ≠ [] → o.output ≠ []) ∧
      (o.selectionOutput = [] →
        ((∀ output ∈ o.transformations, output = []) ↔ ∀ t ∈ p.transformations, ¬ t.JoinsAll) ∧
          ((∀ t ∈ p.transformations, ¬ t.JoinsAll) → o.output = [])) := by
  have selected : List.Forall₂ (fun selection values => selection.reading.resultOn v.served = .ok values)
      p.selections values := by
    refine succeed.imp fun selection values ran => ?_
    rw [alike.served]
    exact (Visit.run_eq_ok_iff _ _ _).1 ran
  have read : p.reading.resultOn v.served = .ok (p.outputOf values) := by
    rw [Procedure.resultOn_reading, mapM_eq_ok_iff.2 (List.forall₂_map_left_iff.2 selected)]
    rfl
  have recorded := Procedure.records_of_reading read
  exact ⟨p.outputOf values, (Visit.run_eq_ok_iff _ _ _).2 read, rfl, recorded, recorded.output_ne_nil,
    p.outputOf_of_flatten_eq_nil⟩

namespace EmptiedChain

open TwoSelections (visit)

def procedure : Procedure :=
  { TwoSelections.procedure with
    transformations := [⟨.range ⟨"5", [⟨5, .single⟩], by decide⟩, false⟩, ⟨.date .en, true⟩] }

def nothing : Procedure := { procedure with selections := [.citoid (some ⟨"DOI", by decide⟩)] }

def kept : ProcedureOutput := ⟨[["A", "B"], ["T"]], ["A", "B", "T"], [[], []], ["A", "B", "T"]⟩

theorem outputs_of_emptied_chains :
    (visit (some 5)).Alike (visit none) ∧ ((visit (some 5)).run procedure.reading).1 = .ok kept ∧ kept.output ≠ [] ∧
      ∃ o, ((visit (some 5)).run nothing.reading).1 = .ok o ∧ o.selections = [[]] ∧ o.output = [] ∧
        ∀ output ∈ o.transformations, output = [] := by
  have alike : (visit (some 5)).Alike (visit none) := Visit.alike_start _ _ _ _ _ _ _
  have authors : ((visit none).run (Selection.citoid (some ⟨"authorLast", by decide⟩)).reading).1 = .ok ["A", "B"] :=
    (Visit.run_eq_ok_iff _ _ _).2 rfl
  have title : ((visit none).run (Selection.citoid (some ⟨"title", by decide⟩)).reading).1 = .ok ["T"] :=
    (Visit.run_eq_ok_iff _ _ _).2 rfl
  have doi : ((visit none).run (Selection.citoid (some ⟨"DOI", by decide⟩)).reading).1 = .ok [] :=
    (Visit.run_eq_ok_iff _ _ _).2 rfl
  have computed : ((visit (some 5)).run procedure.reading).1 = .ok kept := (Visit.run_eq_ok_iff _ _ _).2 rfl
  obtain ⟨o, ran, -, -, filled, -⟩ := procedures_record_their_chain procedure alike (.cons authors (.cons title .nil))
  obtain ⟨o', ran', selections, recorded, -, empty⟩ := procedures_record_their_chain nothing alike (.cons doi .nil)
  rw [computed] at ran
  cases ran
  have none : o'.selectionOutput = [] := by rw [recorded.selected, selections]; rfl
  have other : ∀ t ∈ nothing.transformations, ¬ t.JoinsAll := by simp [nothing, procedure, Transformation.JoinsAll]
  obtain ⟨outputs, output⟩ := empty none
  exact ⟨alike, computed, filled (by decide), o', ran', selections, output other, outputs.2 other⟩

end EmptiedChain
end WebCitation
