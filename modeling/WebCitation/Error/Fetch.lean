/-! Why a page or a citation could not be fetched. -/
namespace WebCitation

inductive FetchError where
  /-- No response came at all. -/
  | transport
  | status (url : String) (code : Nat)
  | noCitation (url : String)
  /-- The body is not JSON. -/
  | unreadable (url : String)
  /-- The body is JSON, but no array. -/
  | notCitations (url : String)
deriving DecidableEq, Repr

namespace FetchError

def invalidResponse (url reason : String) : String := "invalid response from " ++ url ++ ": " ++ reason

def message : FetchError → String
  | transport => "HTTP error"
  | status url code => "HTTP " ++ toString code ++ " fetching " ++ url
  | noCitation url => "no citation returned for " ++ url
  | unreadable url => invalidResponse url "not JSON"
  | notCitations url => invalidResponse url "expected an array of citations"

end FetchError
end WebCitation
