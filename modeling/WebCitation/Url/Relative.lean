import WebCitation.Url.Basic

/-! Addresses written relative to another one. -/
namespace WebCitation.Url

def segmentsOf (path : String) : List (List Char) := Text.splitWhere isSlash (path.toList.drop 1)

def pathFrom (base : String) (s : List Char) : String :=
  let segments := (Text.splitWhere isSlash s).map (Percent.encode keptInPath)
  String.ofList ('/' :: Text.join ['/'] (resolve (segmentsOf base).dropLast.reverse segments))

/-- The address with another path, query and fragment on the same host. Without a path it keeps its own,
and without either its query too. -/
def withReference (base : Url) (s : List Char) : Url :=
  let (beforeFragment, fragment) := cutWhere (· == '#') s
  let (path, query) := cutWhere (· == '?') beforeFragment
  let query := query.map (encoded keptInQuery)
  let fragment := fragment.map (encoded keptInFragment)
  match path with
  | [] => { base with query := query.or base.query, fragment }
  | c :: _ =>
    { base with path := if isSlash c then pathOf path else pathFrom base.path path, query, fragment }

def readRelative (base : Url) (s : List Char) : Except UrlError Url :=
  match s with
  | a :: b :: _ => if isSlash a && isSlash b then readWeb base.scheme s else .ok (base.withReference s)
  | _ => .ok (base.withReference s)

def parseOn (base : Url) (s : String) : Except UrlError Url :=
  match readScheme? (cleaned s.toList) with
  | none => base.readRelative (cleaned s.toList)
  | some (_, '/' :: '/' :: _) => parse s
  | some (scheme, rest) =>
    if scheme = base.scheme.text then base.readRelative rest else parse s

end WebCitation.Url
