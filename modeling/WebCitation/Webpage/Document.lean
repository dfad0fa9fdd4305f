import WebCitation.Html.Page
import WebCitation.Webpage.Visit
import WebCitation.XPath.Selection

/-! Fetched pages as documents. -/
namespace WebCitation

def FetchedPage.document (p : FetchedPage) : XPath.Document := .ofNodes (Html.parse p.body)

/-- The document of the last fetch, if it succeeded. -/
def Visit.document? (v : Visit) : Option XPath.Document :=
  v.page.cache.peek?.map FetchedPage.document

end WebCitation
