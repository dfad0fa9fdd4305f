import WebCitation.Error.Fetch
import WebCitation.Text.Quoted

/-! Why a webpage could not be read by the rules of a domain. -/
namespace WebCitation

inductive SelectionType where
  | citoid
  | xpath
deriving DecidableEq, Repr

def SelectionType.name : SelectionType → String
  | citoid => "citoid"
  | xpath => "xpath"

inductive ReadingError where
  /-- The webpage belongs to another domain. -/
  | crossDomain (domain target : String)
  /-- A selection was read before it had a config. -/
  | undefinedConfig (step : SelectionType)
  | xpath (expression : String)
  | fetch (cause : FetchError)
deriving DecidableEq, Repr

def ReadingError.message : ReadingError → String
  | crossDomain domain target =>
    "template for " ++ domain ++ " cannot translate a webpage from " ++ target
  | undefinedConfig step => step.name ++ " step has no config"
  | xpath expression => "xpath evaluation failed for " ++ expression.quoted
  | fetch cause => "fetch failed: " ++ cause.message

end WebCitation
