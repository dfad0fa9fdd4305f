import WebCitation.Field.Name
import WebCitation.Procedure

/-! Fields of templates: the procedures that fill a field of the citation. -/
namespace WebCitation

structure TemplateField where
  name : FieldName
  required : Bool
  procedures : List Procedure
deriving DecidableEq, Repr

structure FieldOutput where
  name : FieldName
  procedures : List ProcedureOutput
  /-- The values of the field, with nothing where a value is not accepted. -/
  output : List (Option String)
  valid : Bool
  /-- Whether the template may apply as far as this field is concerned. -/
  applicable : Bool
  control : Bool
deriving DecidableEq, Repr

namespace FieldOutput

def values (o : FieldOutput) : List String := o.output.filterMap id

def isValid (output : List (Option String)) : Bool := !output.isEmpty && output.all Option.isSome

end FieldOutput

namespace TemplateField

/-- A field without procedures, required only if its name makes it so. -/
def ofName (name : FieldName) : TemplateField := ⟨name, name.isForceRequired, []⟩

/-- The field of a definition. A field that is always required is so whatever the definition says. -/
def ofDefinition (d : Definition.Field) : Except ConfigError TemplateField := do
  let name ← FieldName.parse d.fieldname
  let procedures ← d.procedures.mapM Procedure.ofDefinition
  return ⟨name, name.isForceRequired || d.required, procedures⟩

def toDefinition (f : TemplateField) : Definition.Field :=
  ⟨f.name.text, f.procedures.map Procedure.toDefinition, f.required⟩

def withRequired (f : TemplateField) (required : Bool) : Except ConfigError TemplateField :=
  if f.name.isForceRequired && !required then .error (.forceRequired f.name.text)
  else .ok { f with required }

def withProcedures (f : TemplateField) (procedures : List Procedure) : TemplateField :=
  { f with procedures }

/-- A field that holds one value takes several as one, with commas between them. -/
def gather (f : TemplateField) (values : List String) : List String :=
  if !f.name.isArray && 1 < values.length then [Separator.comma.join values] else values

def accept (f : TemplateField) (value : String) : Option String :=
  if f.name.accepts value.trimmed then some value.trimmed else none

/-- The values as the field holds them, with nothing where it accepts none. -/
def check (f : TemplateField) (values : List String) : List (Option String) :=
  (f.gather values).map f.accept

def validate (f : TemplateField) (values : List String) : Bool := FieldOutput.isValid (f.check values)

/-- The output for given outputs of the procedures. -/
def outputOf (f : TemplateField) (procedures : List ProcedureOutput) : FieldOutput :=
  let output := f.check (procedures.flatMap ProcedureOutput.output)
  let valid := FieldOutput.isValid output
  ⟨f.name, procedures, output, valid, valid || !f.required, f.name.isControl⟩

/-- The procedures are read one after the other. -/
def reading (f : TemplateField) : Reading FieldOutput :=
  (Reading.inTurn (f.procedures.map Procedure.reading)).map f.outputOf

end TemplateField
end WebCitation
