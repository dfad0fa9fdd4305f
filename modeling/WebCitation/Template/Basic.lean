import WebCitation.Template.Rules

/-! Templates, each for a path of a domain. -/
namespace WebCitation

structure Template extends TemplateRules where
  path : String
deriving DecidableEq, Repr

namespace Template

/-- A template without fields; its path begins with a slash. -/
def ofPath (domain path : String) : Except ConfigError Template :=
  if path.toList.head? = some '/' then .ok { TemplateRules.ofDomain domain with path }
  else .error (.invalidPath path)

def withRules (t : Template) (f : TemplateRules → TemplateRules) : Template :=
  { f t.toTemplateRules with path := t.path }

def withLabel (t : Template) (label : String) : Template := t.withRules (·.withLabel label)

def withFields (t : Template) (fields : List TemplateField) : Template :=
  t.withRules (·.withFields fields)

/-- The template of a definition. Fields that are not accepted are left out. -/
def ofDefinition (domain : String) (d : Definition.Template) : Except ConfigError Template :=
  (ofPath domain d.path).map fun t =>
    { t with label := d.label, fields := FieldSet.ofDefinitions d.fields }

def toDefinition (t : Template) : Definition.Template := ⟨t.path, t.label, t.fieldDefinitions⟩

def reading (t : Template) (target : Webpage) : Reading TemplateOutput :=
  t.toTemplateRules.reading (some t.path) target

end Template
end WebCitation
