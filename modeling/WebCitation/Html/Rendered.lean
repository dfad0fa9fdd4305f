import WebCitation.Html.Node
import WebCitation.Text.Blank

/-!
The text of an element as a reader sees it. Hidden elements show nothing, a line break and the bounds of a
block separate words, and white space is collapsed.
-/
namespace WebCitation.Html

def hiddenElements : List String := ["script", "style", "noscript", "template"]

def blockElements : List String :=
  ["address", "article", "aside", "blockquote", "caption", "dd", "details", "div", "dl", "dt",
    "fieldset", "figcaption", "figure", "footer", "form", "h1", "h2", "h3", "h4", "h5", "h6",
    "header", "hr", "li", "main", "nav", "ol", "p", "pre", "section", "summary", "table", "tbody",
    "td", "tfoot", "th", "thead", "title", "tr", "ul"]

inductive Display where
  | hidden
  | lineBreak
  | block
  | inLine
deriving DecidableEq, Repr

/-- The display of an element by its name, in any letter case and any namespace. -/
def Name.display (n : Name) : Display :=
  let stem := n.stem.asciiLower
  if hiddenElements.contains stem then .hidden
  else if stem == "br" then .lineBreak
  else if blockElements.contains stem then .block
  else .inLine

mutual

def Node.shownText : Node → List Char
  | .element name _ children =>
    match name.display with
    | .hidden => []
    | .lineBreak => [' ']
    | .block => ' ' :: shownTextOf children ++ [' ']
    | .inLine => shownTextOf children
  | .text content => content.toList
  | .comment _ | .instruction .. => []

def shownTextOf : List Node → List Char
  | [] => []
  | n :: ns => n.shownText ++ shownTextOf ns

end

/-- The text of an element with these children, whatever the element itself is. -/
def renderedText (children : List Node) : String :=
  String.ofList (Text.collapse (shownTextOf children))

end WebCitation.Html
