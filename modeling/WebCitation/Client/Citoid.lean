import WebCitation.Citation.Simple
import WebCitation.Client.Transport
import WebCitation.Json.Parser

/-! Citations fetched from a Citoid service. -/
namespace WebCitation.Client

def citoidService : String := "citoid"

/-- Characters that stay in a segment of a path. -/
def keptInSegment (c : Char) : Bool := c.isAlphanum || ['-', '_', '.', '~'].contains c

def citoidUrl (s : Settings) (url : String) : String :=
  let endpoint := (s.citoidEndpoint.toList.reverse.dropWhile (· == '/')).reverse
  String.ofList (endpoint ++ '/' :: Percent.encode keptInSegment url.toList)

def firstCitation (url : String) : Json → Except FetchError SimpleCitation
  | .array (first :: _) => .ok (SimpleCitation.ofMediawiki first)
  | .array [] => .error (.noCitation url)
  | _ => .error (.notCitations url)

def fetchCitation (c : Client) (transport : Transport) (s : Settings) (url : String) :
    Except FetchError SimpleCitation := do
  let asked := citoidUrl s url
  let (_, r) ← c.get transport asked
  if r.status = 404 then .error (.noCitation url)
  else if !r.isSuccess then .error (.status asked r.status)
  else
    match Json.parse? r.body with
    | none => .error (.unreadable asked)
    | some j => firstCitation url j

end WebCitation.Client
