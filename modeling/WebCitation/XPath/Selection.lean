import WebCitation.Html.Rendered
import WebCitation.XPath.Evaluation

/-! The texts that an expression selects on a page. -/
namespace WebCitation.XPath

/-- Numbers as texts of their own: a zero has no sign, and very large and very small ones an exponent. -/
def selectedNumber : Double.NumberFormat := ⟨.up, -5, 21, false⟩

def numberText : Double → String
  | .nan => "NaN"
  | .infinite negative => if negative then "-Infinity" else "Infinity"
  | .finite negative m e =>
    if m = 0 then "0" else String.ofList (selectedNumber.write ['0'] negative m e)

/-- The text that a node yields: an element what it shows, an attribute its value, and any other node its
collapsed text unless that is empty. -/
def selectedText (d : Document) (n : Node) : Option String :=
  match n with
  | .attribute .. => some (d.textOf n)
  | .space _ | .tree _ =>
    match (match n with | .tree row => d.content? row | _ => none) with
    | some (.element _ _ children) => some (Html.renderedText children)
    | _ =>
      let text := (d.textOf n).collapsed
      if text = "" then none else some text

def Value.texts (d : Document) : Value → List String
  | .nodes ns => ns.filterMap (selectedText d)
  | .number x => [numberText x]
  | .text s => [s]
  | .truth b => [if b then "true" else "false"]

def select (d : Document) (expression : String) : Except Fault (List String) :=
  (evaluate d expression).map (Value.texts d)

/-- Whether an expression is accepted: it can be evaluated on a page without content. -/
def accepts (expression : String) : Bool :=
  match evaluate .empty expression with
  | .ok _ => true
  | .error _ => false

end WebCitation.XPath
