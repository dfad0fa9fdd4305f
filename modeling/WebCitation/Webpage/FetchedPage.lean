import WebCitation.Keyed
import WebCitation.Text.Ascii

/-! Pages as they were fetched. -/
namespace WebCitation

abbrev Headers := Keyed (Prod.fst : String × String → String)

structure FetchedPage where
  /-- Where the page was found in the end. -/
  url : String
  body : String
  headers : Headers
deriving DecidableEq, Repr

namespace FetchedPage

def ofBody (url body : String) : FetchedPage := ⟨url, body, Keyed.empty⟩

/-- The page with one more header; a value that is there already is replaced. -/
def withHeader (p : FetchedPage) (name value : String) : FetchedPage :=
  { p with headers := p.headers.put (name.asciiLower, value) }

def withHeaders (p : FetchedPage) (headers : List (String × String)) : FetchedPage :=
  headers.foldl (fun p (name, value) => p.withHeader name value) p

/-- The value of a header; letter case does not matter. -/
def header? (p : FetchedPage) (name : String) : Option String :=
  (p.headers.get? name.asciiLower).map Prod.snd

def sortedHeaders (p : FetchedPage) : List (String × String) :=
  p.headers.items.mergeSort fun a b => a.1 ≤ b.1

end FetchedPage
end WebCitation
