import WebCitation.Json.Record
import WebCitation.Text.Digit

/-! Settings of the services and of the storage of rules. -/
namespace WebCitation

structure Settings where
  userAgent : String
  timeoutSeconds : Nat
  citoidEndpoint : String
  mediawikiApi : String
  /-- The titles of stored rules begin with it. -/
  storageRoot : String
  /-- The pattern that is tried after all others of a domain. -/
  catchAllPattern : String
deriving DecidableEq, Repr

namespace Settings

def standard : Settings where
  userAgent := "Web2Cit/1.0"
  timeoutSeconds := 30
  citoidEndpoint := "https://en.wikipedia.org/api/rest_v1/data/citation/mediawiki"
  mediawikiApi := "https://meta.wikimedia.org/w/api.php"
  storageRoot := "Web2Cit/data"
  catchAllPattern := "/**"

def withUserAgent (s : Settings) (userAgent : String) : Settings := { s with userAgent }

def withTimeoutSeconds (s : Settings) (timeoutSeconds : Nat) : Settings := { s with timeoutSeconds }

def withCitoidEndpoint (s : Settings) (citoidEndpoint : String) : Settings :=
  { s with citoidEndpoint }

def withMediawikiApi (s : Settings) (mediawikiApi : String) : Settings := { s with mediawikiApi }

def withStorageRoot (s : Settings) (storageRoot : String) : Settings := { s with storageRoot }

def withCatchAllPattern (s : Settings) (catchAllPattern : String) : Settings :=
  { s with catchAllPattern }

def secondsLimit : Nat := UInt64.size

/-- A number of seconds, which may have a plus sign. -/
def readSeconds? (text : String) : Option Nat :=
  let digits :=
    match text.toList with
    | '+' :: digits => digits
    | digits => digits
  (Text.readNat? digits).filter (· < secondsLimit)

/-- The standard settings, but for the variables of an environment. A timeout that is no number is passed
over. -/
def ofEnvironment (value? : String → Option String) : Settings where
  userAgent := (value? "WEB2CIT_USER_AGENT").getD standard.userAgent
  timeoutSeconds :=
    ((value? "WEB2CIT_REQUEST_TIMEOUT_SECS").bind readSeconds?).getD standard.timeoutSeconds
  citoidEndpoint := (value? "WEB2CIT_CITOID_ENDPOINT").getD standard.citoidEndpoint
  mediawikiApi := (value? "WEB2CIT_MEDIAWIKI_API").getD standard.mediawikiApi
  storageRoot := (value? "WEB2CIT_STORAGE_ROOT").getD standard.storageRoot
  catchAllPattern := (value? "WEB2CIT_CATCH_ALL_PATTERN").getD standard.catchAllPattern

open Json

def columns : List String :=
  ["user_agent", "request_timeout_secs", "citoid_endpoint", "mediawiki_api", "storage_root",
    "catch_all_pattern"]

def decode (j : Json) : Option Settings := do
  match ← slots? columns j with
  | [userAgent, timeout, citoid, mediawiki, root, catchAll] =>
    return ⟨← required string? userAgent, ← required nat? timeout, ← required string? citoid,
      ← required string? mediawiki, ← required string? root, ← required string? catchAll⟩
  | _ => none

def encode (s : Settings) : Json :=
  .object [("user_agent", .string s.userAgent),
    ("request_timeout_secs", .number (.whole s.timeoutSeconds)),
    ("citoid_endpoint", .string s.citoidEndpoint), ("mediawiki_api", .string s.mediawikiApi),
    ("storage_root", .string s.storageRoot), ("catch_all_pattern", .string s.catchAllPattern)]

end Settings
end WebCitation
