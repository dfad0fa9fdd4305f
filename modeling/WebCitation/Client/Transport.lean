import WebCitation.Error.Fetch
import WebCitation.Settings
import WebCitation.Url.Relative

/-! Requests over a transport: who sends them, and how redirects are followed. -/
namespace WebCitation

structure Response where
  status : Nat
  headers : List (String × String)
  body : String
deriving DecidableEq, Repr

namespace Response

def isSuccess (r : Response) : Bool := 200 ≤ r.status && r.status < 300

/-- The first value of a header; letter case does not matter. -/
def header? (r : Response) (name : String) : Option String :=
  (r.headers.find? fun header => header.1.asciiLower = name.asciiLower).map Prod.snd

def location? (r : Response) : Option String :=
  if [301, 302, 303, 307, 308].contains r.status then r.header? "location" else none

end Response

/-- Answers a request by its user agent and its address; no response comes where there is no server. -/
abbrev Transport := (userAgent url : String) → Option Response

def Transport.unreachable : Transport := fun _ _ => none

/-- Characters that a header may hold: no controls but the tab. -/
def isHeaderChar (c : Char) : Bool := c == '\t' || (' ' ≤ c && c != '\x7f')

structure Client where
  userAgent : String
  accepted : userAgent.toList.all isHeaderChar = true
deriving DecidableEq, Repr

namespace Client

def ofSettings (s : Settings) : Except FetchError Client :=
  if h : s.userAgent.toList.all isHeaderChar = true then .ok ⟨s.userAgent, h⟩ else .error .transport

def maxRedirects : Nat := 10

/-- The response of an address after at most `redirects` redirects, and where it came from. A redirect to
what is no address is a response like any other. -/
def follow (c : Client) (transport : Transport) (redirects : Nat) (url : Url) :
    Except FetchError (Url × Response) :=
  match transport c.userAgent url.withoutFragment with
  | none => .error .transport
  | some r =>
    match r.location?.bind fun location => (url.parseOn location).toOption with
    | none => .ok (url, r)
    | some next =>
      match redirects with
      | 0 => .error .transport
      | redirects + 1 => follow c transport redirects next

def get (c : Client) (transport : Transport) (url : String) : Except FetchError (Url × Response) :=
  match Url.parse url with
  | .ok url => c.follow transport maxRedirects url
  | .error _ => .error .transport

end Client
end WebCitation
