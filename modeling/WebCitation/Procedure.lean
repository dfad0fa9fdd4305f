import WebCitation.Step.Reading
import WebCitation.Step.Transformation

/-! Procedures: selections, and the transformations that their values go through. -/
namespace WebCitation

structure Procedure where
  selections : List Selection
  transformations : List Transformation
deriving DecidableEq, Repr

structure ProcedureOutput where
  selections : List (List String)
  selectionOutput : List String
  transformations : List (List String)
  output : List String
deriving DecidableEq, Repr

namespace Procedure

/-- The procedure of a definition; the first step that is refused refuses it. -/
def ofDefinition (d : Definition.Procedure) : Except ConfigError Procedure := do
  let selections ← d.selections.mapM Selection.ofDefinition
  let transformations ← d.transformations.mapM Transformation.ofDefinition
  return ⟨selections, transformations⟩

def toDefinition (p : Procedure) : Definition.Procedure :=
  ⟨p.selections.map Selection.toDefinition, p.transformations.map Transformation.toDefinition⟩

/-- The values after each of the transformations. -/
def chain (values : List String) : List Transformation → List (List String)
  | [] => []
  | t :: ts => t.apply values :: chain (t.apply values) ts

/-- The output for given values of the selections. Where the transformations leave nothing, the selected
values themselves are the output. -/
def outputOf (p : Procedure) (selections : List (List String)) : ProcedureOutput :=
  let selected := selections.flatten
  let transformed := chain selected p.transformations
  let last := transformed.getLast?.getD selected
  ⟨selections, selected, transformed, if last.isEmpty then selected else last⟩

/-- The most selections whose failures are seen as soon as they come. -/
def eagerSelections : Nat := 30

/-- All selections are read at once. Of more than `eagerSelections`, failures count in their order. -/
def reading (p : Procedure) : Reading ProcedureOutput :=
  let readings := p.selections.map Selection.reading
  (if readings.length ≤ eagerSelections then Reading.untilFailure readings
    else Reading.untilFailureInOrder readings).map p.outputOf

end Procedure
end WebCitation
