import WebCitation.Step.Selection
import WebCitation.Webpage.Document

/-! What a selection reads of a webpage. -/
namespace WebCitation.Selection

def textsOf (expression : AcceptedExpression) (p : FetchedPage) :
    Except ReadingError (List String) :=
  (XPath.select p.document expression.text).mapError fun _ => .xpath expression.text

/-- The values of a selection. One that is not configured fails and asks nothing. -/
def reading : Selection → Reading (List String)
  | citoid (some key) => Reading.citoid.map fun c => c.values key.name
  | xpath (some expression) => Reading.page.bind fun p => .ofExcept (textsOf expression p)
  | citoid none => .fail (.undefinedConfig .citoid)
  | xpath none => .fail (.undefinedConfig .xpath)

end WebCitation.Selection
