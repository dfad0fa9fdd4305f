import WebCitation.Webpage.Visit

/-! Visits of webpages whose pages and citations are given instead of fetched. -/
namespace WebCitation

namespace Webpage

/-- The answer for the page of an address: an HTML page with the given body, or none there. -/
def givenPage (w : Webpage) (body : Option String) : Except FetchError FetchedPage :=
  match body with
  | some body => .ok ((FetchedPage.ofBody w.address body).withHeader "content-type" "text/html")
  | none => .error (.status w.address 404)

def givenCitation (w : Webpage) (citation : Option SimpleCitation) : Except FetchError SimpleCitation :=
  match citation with
  | some citation => .ok citation
  | none => .error (.noCitation w.address)

end Webpage

namespace Visit

/-- A visit of a webpage that nothing was read of, with the answers of its services and their delays. -/
def start (w : Webpage) (page : Except FetchError FetchedPage) (citoid : Except FetchError SimpleCitation)
    (pageDelay citoidDelay : Option Nat) : Visit :=
  ⟨w, .ofService w.address page pageDelay, .ofService w.address citoid citoidDelay, 0⟩

end Visit
end WebCitation
