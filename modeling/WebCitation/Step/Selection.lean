import WebCitation.Citation.Simple
import WebCitation.Definition.Basic
import WebCitation.Error.Config
import WebCitation.XPath.Selection

/-! Selections: what a procedure reads of a page or of its Citoid citation. -/
namespace WebCitation

/-- A key of a citation that may be read. -/
structure CitoidKey where
  name : String
  listed : name ∈ SimpleCitation.keys
deriving DecidableEq, Repr

def CitoidKey.ofName (name : String) : Except ConfigError CitoidKey :=
  if h : name ∈ SimpleCitation.keys then .ok ⟨name, h⟩ else .error (.notCitoidField name)

/-- An expression that is accepted. -/
structure AcceptedExpression where
  text : String
  accepted : XPath.accepts text = true
deriving DecidableEq, Repr

def AcceptedExpression.ofText (text : String) : Except ConfigError AcceptedExpression :=
  if h : XPath.accepts text = true then .ok ⟨text, h⟩ else .error (.invalidXPath text)

inductive Selection where
  | citoid (key : Option CitoidKey)
  | xpath (expression : Option AcceptedExpression)
deriving DecidableEq, Repr

namespace Selection

def type : Selection → String
  | citoid _ => "citoid"
  | xpath _ => "xpath"

def config : Selection → Option String
  | citoid key => key.map CitoidKey.name
  | xpath expression => expression.map AcceptedExpression.text

/-- A value made from a config, unless the config is blank. -/
def unlessBlank (make : String → Except ConfigError α) (config : String) :
    Except ConfigError (Option α) :=
  if config.trimmed = "" then .ok none else (make config).map some

def ofDefinition (d : Definition.Selection) : Except ConfigError Selection :=
  match d.type with
  | "citoid" => (unlessBlank CitoidKey.ofName d.config).map citoid
  | "xpath" => (unlessBlank AcceptedExpression.ofText d.config).map xpath
  | _ => .error (.unknownStepType .selection d.type)

def toDefinition (s : Selection) : Definition.Selection := ⟨s.type, s.config.getD ""⟩

def withConfig (s : Selection) (config : String) : Except ConfigError Selection :=
  ofDefinition ⟨s.type, config⟩

end Selection
end WebCitation
