import WebCitation.Client.Transport
import WebCitation.Webpage.FetchedPage

/-! Pages fetched over a transport. -/
namespace WebCitation.Client

def pageService : String := "http"

/-- Values that are plain text; others are left out. -/
def isPlainValue (value : String) : Bool := value.toList.all fun c => c == '\t' || (' ' ≤ c && c < '\x7f')

def fetchPage (c : Client) (transport : Transport) (url : String) : Except FetchError FetchedPage := do
  let (found, r) ← c.get transport url
  if !r.isSuccess then .error (.status url r.status)
  return (FetchedPage.ofBody found.text r.body).withHeaders
    (r.headers.filter fun header => isPlainValue header.2)

end WebCitation.Client
