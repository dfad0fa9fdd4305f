import WebCitation.Error.Config

/-! Why stored rules could not be loaded. -/
namespace WebCitation

inductive StorageError where
  /-- No response came at all. -/
  | transport
  | api (reason : String)
  /-- The content of a revision is no JSON array. -/
  | notArray
  | config (cause : ConfigError)
deriving DecidableEq, Repr

def StorageError.message : StorageError → String
  | transport => "HTTP error"
  | api reason => "storage API error: " ++ reason
  | notArray => "JSON parse error"
  | config cause => "invalid stored configuration: " ++ cause.message

end WebCitation
