import WebCitation.Text.Ascii
import WebCitation.Url.Host

/-! Addresses of pages on the web, in their usual form. -/
namespace WebCitation

/-- The schemes of pages that can be read. -/
inductive Scheme where
  | http
  | https
deriving DecidableEq, Repr

namespace Scheme

def text : Scheme → String
  | http => "http"
  | https => "https"

def defaultPort : Scheme → Nat
  | http => 80
  | https => 443

end Scheme

/-- An address whose parts are encoded. A port is kept only if it is not the default. -/
structure Url where
  scheme : Scheme
  userName : String
  password : String
  host : String
  port : Option Nat
  path : String
  query : Option String
  fragment : Option String
deriving DecidableEq, Repr

namespace Url

def userInfo (u : Url) : String :=
  if u.userName = "" ∧ u.password = "" then ""
  else u.userName ++ (if u.password = "" then "" else ":" ++ u.password) ++ "@"

/-- A part after its mark, if it is there. -/
def marked (mark : String) : Option String → String
  | some s => mark ++ s
  | none => ""

def pathAndQuery (u : Url) : String := u.path ++ marked "?" u.query

def withoutFragment (u : Url) : String :=
  u.scheme.text ++ "://" ++ u.userInfo ++ u.host ++ marked ":" (u.port.map toString) ++ u.pathAndQuery

def text (u : Url) : String := u.withoutFragment ++ marked "#" u.fragment

def keptInFragment : Char → Bool := Percent.printableBut [' ', '"', '<', '>', '\u0060']

def keptInPath : Char → Bool :=
  Percent.printableBut [' ', '"', '<', '>', '\u0060', '#', '?', '\x7b', '\x7d']

def keptInQuery : Char → Bool := Percent.printableBut [' ', '"', '#', '<', '>', '\'']

def keptInUserInfo : Char → Bool :=
  Percent.printableBut
    [' ', '"', '<', '>', '\u0060', '#', '?', '\x7b', '\x7d', '/', ':', ';', '=', '@', '[', '\\', ']',
      '^', '|']

def encoded (keeps : Char → Bool) (s : List Char) : String := String.ofList (Percent.encode keeps s)

/-- A segment of a path that stands for the one at hand. -/
def isHere (segment : List Char) : Bool :=
  ["." , "%2e"].contains (String.ofList (Text.asciiLower segment))

def isAbove (segment : List Char) : Bool :=
  ["..", ".%2e", "%2e.", "%2e%2e"].contains (String.ofList (Text.asciiLower segment))

/-- A segment that names a drive is never left again. -/
def isDrive : List Char → Bool
  | [c, mark] => c.isAlpha && (mark == ':' || mark == '|')
  | _ => false

def above : List (List Char) → List (List Char)
  | [] => []
  | segment :: segments => if isDrive segment then segment :: segments else segments

/-- The segments of a path in order, where `done` are those before, the last one first. -/
def resolve (done : List (List Char)) : List (List Char) → List (List Char)
  | [] => done.reverse
  | [last] =>
    if isAbove last then ([] :: above done).reverse
    else if isHere last then ([] :: done).reverse
    else (last :: done).reverse
  | segment :: segments =>
    if isAbove segment then resolve (above done) segments
    else if isHere segment then resolve done segments
    else resolve (segment :: done) segments

def isSlash (c : Char) : Bool := c == '/' || c == '\\'

/-- A path, which begins with a slash even if the text does not. -/
def pathOf (s : List Char) : String :=
  let s :=
    match s with
    | c :: rest => if isSlash c then rest else c :: rest
    | [] => []
  let segments := (Text.splitWhere isSlash s).map (Percent.encode keptInPath)
  String.ofList ('/' :: Text.join ['/'] (resolve [] segments))

/-- The text before the first character that satisfies `p`, and the text after that character. -/
def cutWhere (p : Char → Bool) (s : List Char) : List Char × Option (List Char) :=
  match s.span fun c => !p c with
  | (before, []) => (before, none)
  | (before, _ :: after) => (before, some after)

def readScheme? (s : List Char) : Option (String × List Char) :=
  let (name, rest) := s.span fun c => c.isAlphanum || c == '+' || c == '-' || c == '.'
  match name, rest with
  | c :: _, ':' :: rest =>
    if c.isAlpha then some (String.ofList (Text.asciiLower name), rest) else none
  | _, _ => none

/-- The part of an address between the slashes and the path, and the rest. Only where `special` holds do
backslashes count as slashes. -/
def spanAuthority (special : Bool) (s : List Char) : List Char × List Char :=
  s.span fun c => c != '/' && c != '?' && c != '#' && !(special && c == '\\')

/-- The part before the last `@`, if there is one, and the part after it. -/
def splitUser (s : List Char) : Option (List Char) × List Char :=
  if s.contains '@' then
    let after := (s.reverse.takeWhile (· != '@')).reverse
    (some (s.take (s.length - after.length - 1)), after)
  else (none, s)

/-- A host and what follows it: the first colon outside of brackets and all after it. -/
def splitPort (inBrackets : Bool) : List Char → List Char × List Char
  | [] => ([], [])
  | c :: s =>
    if c = ':' && !inBrackets then ([], c :: s)
    else
      let (host, rest) := splitPort (if c = '[' then true else if c = ']' then false else inBrackets) s
      (c :: host, rest)

def readPort (s : List Char) : Except UrlError (Option Nat) :=
  match s with
  | [] => .ok none
  | _ :: digits =>
    if digits.isEmpty then .ok none
    else if !digits.all Char.isDigit || 65535 < Text.digitsValue digits then .error .invalidPort
    else .ok (some (Text.digitsValue digits))

def checkOpaque (s : List Char) : Except UrlError Unit := do
  match s with
  | '/' :: '/' :: s =>
    let (authority, _) := spanAuthority false s
    let (user, rest) := splitUser authority
    let (host, port) := splitPort false rest
    if user = some [] && rest.isEmpty && (spanAuthority false s).2 != [] then .error .emptyHost
    Host.checkOpaque host
    if host.isEmpty && (!port.isEmpty || user.any fun u => u != [] && u != [':']) then .error .emptyHost
    let _ ← readPort (port.takeWhile (· != '\\'))
    return ()
  | _ => return ()

def checkFile (s : List Char) : Except UrlError Unit :=
  match s with
  | a :: b :: s =>
    if isSlash a && isSlash b then
      let host := s.takeWhile fun c => !isSlash c && c != '?' && c != '#'
      if host.isEmpty || isDrive host then .ok ()
      else
        match Host.parse host with
        | .ok _ => .ok ()
        | .error e => .error e
    else .ok ()
  | _ => .ok ()

def readUser (s : List Char) : String × String :=
  let (name, password) := cutWhere (· == ':') s
  (encoded keptInUserInfo name, encoded keptInUserInfo (password.getD []))

def readAuthority (s : List Char) :
    Except UrlError (String × String × String × Option Nat × List Char) := do
  let (authority, rest) := spanAuthority true (s.dropWhile isSlash)
  let (user, hostAndPort) := splitUser authority
  let (hostText, portText) := splitPort false hostAndPort
  if hostText.isEmpty then .error .emptyHost
  let host ← Host.parse hostText
  let port ← readPort portText
  let (name, password) := readUser (user.getD [])
  return (name, password, String.ofList host, port, rest)

def readWeb (scheme : Scheme) (s : List Char) : Except UrlError Url := do
  let (userName, password, host, port, rest) ← readAuthority s
  let (beforeFragment, fragment) := cutWhere (· == '#') rest
  let (path, query) := cutWhere (· == '?') beforeFragment
  return {
    scheme, userName, password, host, path := pathOf path
    port := if port = some scheme.defaultPort then none else port
    query := query.map (encoded keptInQuery)
    fragment := fragment.map (encoded keptInFragment) }

/-- The text without the spaces and controls at its ends and without line ends and tabs inside. -/
def cleaned (s : List Char) : List Char :=
  let isOuter (c : Char) : Bool := c.toNat ≤ 0x20
  let s := ((s.dropWhile isOuter).reverse.dropWhile isOuter).reverse
  s.filter fun c => c != '\t' && c != '\n' && c != '\r'

/-- The address that a text writes. An address of another scheme is checked before it is refused. -/
def parse (s : String) : Except UrlError Url :=
  match readScheme? (cleaned s.toList) with
  | none => .error .relativeWithoutBase
  | some (scheme, rest) =>
    match scheme with
    | "http" => readWeb .http rest
    | "https" => readWeb .https rest
    | "ftp" | "ws" | "wss" => do
      let _ ← readAuthority rest
      .error .notWeb
    | "file" => do
      checkFile rest
      .error .notWeb
    | _ => do
      checkOpaque rest
      .error .notWeb

end Url
end WebCitation
