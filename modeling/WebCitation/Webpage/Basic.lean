import WebCitation.Url.Basic

/-! Pages to cite, by their addresses. -/
namespace WebCitation

structure Webpage where
  url : Url
deriving DecidableEq, Repr

namespace Webpage

def ofText (url : String) : Except ConfigError Webpage :=
  match Url.parse url with
  | .ok u => .ok ⟨u⟩
  | .error e => .error (.invalidUrl url e)

/-- The address in its usual form, under which the page is read and looked up. -/
def address (w : Webpage) : String := w.url.text

def domain (w : Webpage) : String := w.url.host

/-- The path with its query, by which the domain chooses templates. -/
def path (w : Webpage) : String := w.url.pathAndQuery

end Webpage
end WebCitation
