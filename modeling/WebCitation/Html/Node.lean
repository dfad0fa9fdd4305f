import WebCitation.Text.Ascii

/-! Trees of a parsed page. -/
namespace WebCitation.Html

/-- A name with the namespace that it belongs to; the names of HTML itself have none. -/
structure Name where
  space : Option String
  stem : String
deriving DecidableEq, Repr, Inhabited

def Name.plain (stem : String) : Name := ⟨none, stem⟩

structure Attribute where
  name : Name
  value : String
deriving DecidableEq, Repr, Inhabited

inductive Node where
  | element (name : Name) (attributes : List Attribute) (children : List Node)
  | text (content : String)
  | comment (content : String)
  | instruction (target content : String)
deriving Repr, Inhabited

mutual

def Node.rawText : Node → List Char
  | .element _ _ children => rawTextOf children
  | .text content => content.toList
  | .comment _ | .instruction .. => []

def rawTextOf : List Node → List Char
  | [] => []
  | n :: ns => n.rawText ++ rawTextOf ns

end

end WebCitation.Html
