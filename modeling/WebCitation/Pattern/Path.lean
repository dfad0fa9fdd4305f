import WebCitation.Text.Split

/-! Paths of webpages in the one form that patterns are matched against. -/
namespace WebCitation.Path

def withoutQuery (s : List Char) : List Char := s.takeWhile (· ≠ '?')

def segments (s : List Char) : List (List Char) := Text.splitWhere (· == '/') s

/-- The segments kept so far, last first, after one more. A dot is dropped, two dots drop the segment
before them, and the first segment stays. -/
def keep (kept : List (List Char)) (segment : List Char) : List (List Char) :=
  if segment = ['.'] then kept
  else if segment = ['.', '.'] then
    match kept with
    | _ :: below :: rest => below :: rest
    | _ => kept
  else segment :: kept

/-- Resolves the dot segments. One at the end leaves an empty segment, so that its slash stays. -/
def resolve (kept : List (List Char)) : List (List Char) → List (List Char)
  | [] => kept.reverse
  | [segment] =>
    if segment = ['.'] ∨ segment = ['.', '.'] then ([] :: keep kept segment).reverse
    else (keep kept segment).reverse
  | segment :: rest => resolve (keep kept segment) rest

def rooted (s : List Char) : List Char :=
  match s with
  | '/' :: _ => s
  | _ => '/' :: s

theorem head?_rooted (s : List Char) : (rooted s).head? = some '/' := by
  unfold rooted
  split <;> rfl

/-- The path without its query, with its dot segments resolved and a slash in front. Repeated slashes
stay. -/
def normalizeChars (s : List Char) : List Char :=
  rooted (Text.join ['/'] (resolve [] (segments (withoutQuery s))))

def normalize (path : String) : String := String.ofList (normalizeChars path.toList)

theorem head?_normalize (path : String) : (normalize path).toList.head? = some '/' := by
  rw [normalize, String.toList_ofList, normalizeChars, head?_rooted]

end WebCitation.Path
