import WebCitation.Citation.Basic
import WebCitation.Field.Basic
import WebCitation.Webpage.Visit

/-! What a template says, with or without a path: the fields that make up a citation. -/
namespace WebCitation

abbrev FieldSet := Keyed TemplateField.name

/-- The fields of the definitions that are accepted, without repeated names. -/
def FieldSet.ofDefinitions (ds : List Definition.Field) : FieldSet :=
  Keyed.ofList (ds.filterMap fun d => (TemplateField.ofDefinition d).toOption)

structure TemplateRules where
  domain : String
  label : Option String
  fields : FieldSet
deriving DecidableEq, Repr

structure TemplateOutput where
  domain : String
  path : Option String
  label : Option String
  fields : List FieldOutput
  applicable : Bool
  citation : Option Citation
deriving DecidableEq, Repr

namespace TemplateOutput

/-- The citation of a page that valid fields make up; control fields have no part in it. -/
def cite (url : String) (fields : List FieldOutput) : Citation :=
  (fields.filter fun f => f.valid && !f.control).foldl (fun c f => c.apply f.name f.values)
    (.ofUrl url)

end TemplateOutput

namespace TemplateRules

/-- No fields yet; domains are written in lower case. -/
def ofDomain (domain : String) : TemplateRules := ⟨domain.asciiLower, none, Keyed.empty⟩

def withLabel (t : TemplateRules) (label : String) : TemplateRules := { t with label := some label }

/-- Of fields with the same name the first stays. -/
def withFields (t : TemplateRules) (fields : List TemplateField) : TemplateRules :=
  { t with fields := Keyed.ofList fields }

def fieldDefinitions (t : TemplateRules) : List Definition.Field :=
  t.fields.items.map TemplateField.toDefinition

/-- The output for given outputs of the fields. It applies if all of them do. -/
def outputOf (t : TemplateRules) (path : Option String) (url : String) (fields : List FieldOutput) :
    TemplateOutput :=
  let applicable := fields.all FieldOutput.applicable
  ⟨t.domain, path, t.label, fields, applicable,
    if applicable then some (TemplateOutput.cite url fields) else none⟩

/-- All fields are read at once. Pages of other domains are refused. -/
def reading (t : TemplateRules) (path : Option String) (target : Webpage) : Reading TemplateOutput :=
  if target.domain = t.domain then
    (Reading.all (t.fields.items.map TemplateField.reading)).map (t.outputOf path target.address)
  else .fail (.crossDomain t.domain target.domain)

end TemplateRules
end WebCitation
