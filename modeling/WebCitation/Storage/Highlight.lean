import WebCitation.Text.Blank
import WebCitation.Text.Split

/-! Stored JSON inside a tag that highlights its syntax. -/
namespace WebCitation.Highlight

open Text

def opening : List Char := "<syntaxhighlight".toList

def closing : List Char := "</syntaxhighlight>".toList

/-- What stands between the opening tag and the closing one, if the text is nothing else. -/
def inside? (s : List Char) : Option (List Char) := do
  let (_, body) ← cut? ['>'] (← dropPrefix? opening (trimStart s))
  dropSuffix? closing (trimEnd body)

def strip (text : String) : String := ((inside? text.toList).map String.ofList).getD text

end WebCitation.Highlight
