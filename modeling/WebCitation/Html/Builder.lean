import WebCitation.Html.Arena
import WebCitation.Html.Foreign

/-!
The state in which tokens become a tree: the tree so far, the stack of open elements, the list of formatting
elements, and how the next token is taken.
-/
namespace WebCitation.Html

/-- Where in a page the next token stands. -/
inductive Mode where
  | start
  | beforeHtml
  | beforeHead
  | head
  | afterHead
  | body
  | text
  | table
  | tableText
  | caption
  | columnGroup
  | tableBody
  | row
  | cell
  | template
  | afterBody
  | frameset
  | afterFrameset
  | afterAfterBody
  | afterAfterFrameset
deriving DecidableEq, Repr, Inhabited

/-- Whether white space in a text is told from its other characters here. -/
def Mode.tellsBlanks : Mode → Bool
  | start | beforeHtml | beforeHead | head | afterHead | columnGroup | afterBody | frameset | afterFrameset
  | afterAfterBody | afterAfterFrameset => true
  | _ => false

/-- A formatting element with the tag that it came from, or the bound of a part of the list. -/
inductive Formatting where
  | marker
  | element (node : Nat) (tag : Tag)
deriving DecidableEq, Repr, Inhabited

/-- The stack of open elements and the list of formatting elements both begin with the innermost. Reading is
`paused` after a script and where a page names its encoding. -/
structure Builder where
  arena : Arena
  mode : Mode
  returnMode : Mode
  templateModes : List Mode
  opened : List Nat
  formatting : List Formatting
  head : Option Nat
  form : Option Nat
  framesetAllowed : Bool
  oldLayout : Bool
  fostering : Bool
  skipNewline : Bool
  tableText : List (List Char)
  reading : Reading
  lastStartTag : String
  paused : Bool
deriving Repr, Inhabited

abbrev Build := StateM Builder

/-- What becomes of a token: it is used up, or taken again. -/
inductive Outcome where
  | done
  | again (token : Token)
deriving DecidableEq, Repr, Inhabited

namespace Builder

def empty : Builder :=
  ⟨.empty, .start, .start, [], [], [], none, none, true, false, false, false, [], .markup, "", false⟩

variable (b : Builder)

def nameOf (i : Nat) : Name := (b.arena.name? i).getD (.plain "")

def isOneOf (names : List String) (i : Nat) : Bool :=
  let n := b.nameOf i
  n.space.isNone && names.contains n.stem

def current : Nat := b.opened.headD 0

def currentIs (names : List String) : Bool := b.isOneOf names b.current

def hasOpen (names : List String) : Bool := b.opened.any (b.isOneOf names)

def root : Nat := b.opened.getLast?.getD 0

def body? : Option Nat :=
  match b.opened.reverse with
  | _ :: i :: _ => if b.isOneOf ["body"] i then some i else none
  | _ => none

/-- Whether an open element satisfies `goal`, with none around it first that `bounds` the search. -/
def inScopeOf (bounds goal : Nat → Bool) : Bool :=
  let rec find : List Nat → Bool
    | [] => false
    | i :: is => goal i || (!bounds i && find is)
  find b.opened

/-- Elements that bound the search for most end tags. -/
def boundsScope (i : Nat) : Bool :=
  b.isOneOf
      ["applet", "caption", "html", "table", "td", "th", "marquee", "object", "select", "template"] i
    || (b.nameOf i).isMathText || (b.nameOf i).isSvgHolder

def inScope (names : List String) : Bool := b.inScopeOf b.boundsScope (b.isOneOf names)

def inListScope (names : List String) : Bool :=
  b.inScopeOf (fun i => b.boundsScope i || b.isOneOf ["ol", "ul"] i) (b.isOneOf names)

def inButtonScope (names : List String) : Bool :=
  b.inScopeOf (fun i => b.boundsScope i || b.isOneOf ["button"] i) (b.isOneOf names)

def inTableScope (names : List String) : Bool :=
  b.inScopeOf (b.isOneOf ["html", "table", "template"]) (b.isOneOf names)

/-- Elements that no end tag of another element closes on its way. -/
def specialElements : List String :=
  ["address", "applet", "area", "article", "aside", "base", "basefont", "bgsound", "blockquote",
    "body", "br", "button", "caption", "center", "col", "colgroup", "dd", "details", "dir", "div",
    "dl", "dt", "embed", "fieldset", "figcaption", "figure", "footer", "form", "frame", "frameset",
    "h1", "h2", "h3", "h4", "h5", "h6", "head", "header", "hgroup", "hr", "html", "iframe", "img",
    "input", "isindex", "li", "link", "listing", "main", "marquee", "menu", "meta", "nav", "noembed",
    "noframes", "noscript", "object", "ol", "p", "param", "plaintext", "pre", "script", "section",
    "select", "source", "style", "summary", "table", "tbody", "td", "template", "textarea", "tfoot",
    "th", "thead", "title", "tr", "track", "ul", "wbr", "xmp"]

def isSpecial (i : Nat) : Bool := b.isOneOf specialElements i

/-- Elements whose end may be left out. -/
def impliedEnds : List String :=
  ["dd", "dt", "li", "option", "optgroup", "p", "rb", "rp", "rt", "rtc"]

/-- Elements whose end a template's end implies. -/
def impliedEndsOfTemplate : List String :=
  impliedEnds ++ ["caption", "colgroup", "tbody", "td", "tfoot", "th", "thead", "tr"]

/-- The mode that the open elements ask for. -/
def resetMode : Mode :=
  let rec find : List Nat → Mode
    | [] => .body
    | i :: is =>
      let n := b.nameOf i
      if n.space.isSome then find is
      else
        match n.stem with
        | "td" | "th" => if is.isEmpty then find is else .cell
        | "tr" => .row
        | "tbody" | "thead" | "tfoot" => .tableBody
        | "caption" => .caption
        | "colgroup" => .columnGroup
        | "table" => .table
        | "template" => b.templateModes.headD .body
        | "head" => if is.isEmpty then find is else .head
        | "body" => .body
        | "frameset" => .frameset
        | "html" => if b.head.isNone then .beforeHead else .afterHead
        | _ => find is
  find b.opened

end Builder

namespace Build

def setMode (m : Mode) : Build Unit := modify fun b => { b with mode := m }

def again (m : Mode) (t : Token) : Build Outcome := do
  setMode m
  return .again t

def forbidFrameset : Build Unit := modify fun b => { b with framesetAllowed := false }

def pause : Build Unit := modify fun b => { b with paused := true }

def pop : Build Unit := modify fun b => { b with opened := b.opened.drop 1 }

def push (i : Nat) : Build Unit := modify fun b => { b with opened := i :: b.opened }

def popThrough (goal : Builder → Nat → Bool) : Build Unit :=
  modify fun b => { b with opened := (b.opened.dropWhile fun i => !goal b i).drop 1 }

def popTo (names : List String) : Build Unit :=
  modify fun b => { b with opened := b.opened.dropWhile fun i => !b.isOneOf names i }

def close (names : List String) : Build Unit := popThrough fun b => b.isOneOf names

def closeImpliedExcept (name : String) : Build Unit :=
  modify fun b =>
    { b with opened := b.opened.dropWhile fun i =>
        b.isOneOf Builder.impliedEnds i && !b.isOneOf [name] i }

def closeImplied : Build Unit :=
  modify fun b => { b with opened := b.opened.dropWhile (b.isOneOf Builder.impliedEnds) }

def closeImpliedOfTemplate : Build Unit :=
  modify fun b => { b with opened := b.opened.dropWhile (b.isOneOf Builder.impliedEndsOfTemplate) }

def removeOpen (i : Nat) : Build Unit :=
  modify fun b => { b with opened := b.opened.filter (· != i) }

def pushMarker : Build Unit := modify fun b => { b with formatting := .marker :: b.formatting }

/-- Drops formatting elements up to and with the last marker. -/
def clearToMarker : Build Unit :=
  modify fun b => { b with formatting := (b.formatting.dropWhile (· != .marker)).drop 1 }

/-- Where a node is put: at the end of an element, or before another node. -/
inductive Place where
  | lastIn (parent : Nat)
  | before (sibling : Nat)

/-- The place of new content inside `target`. Content that may not stand in a table goes before it. -/
def placeIn (b : Builder) (target : Nat) : Place :=
  if b.fostering && b.isOneOf ["table", "tbody", "tfoot", "thead", "tr"] target then
    match b.opened.dropWhile fun i => !b.isOneOf ["template", "table"] i with
    | [] => .lastIn b.root
    | i :: is =>
      if b.isOneOf ["template"] i then .lastIn i
      else if (b.arena.cell i).parent.isSome then .before i
      else .lastIn (is.headD b.root)
  else .lastIn target

def insertIn (target i : Nat) : Build Unit :=
  modify fun b =>
    match placeIn b target with
    | .lastIn p => { b with arena := b.arena.append p i }
    | .before s => { b with arena := b.arena.insertBefore s i }

def addText (s : List Char) : Build Unit :=
  modify fun b =>
    match placeIn b b.current with
    | .lastIn p => { b with arena := b.arena.appendText p (String.ofList s) }
    | .before n => { b with arena := b.arena.insertTextBefore n (String.ofList s) }

def create (content : Content) : Build Nat := do
  let b ← get
  let (i, arena) := b.arena.add content
  set { b with arena := arena }
  return i

def place (name : Name) (attributes : List Attribute) : Build Nat := do
  let i ← create (.element name attributes)
  insertIn (← get).current i
  return i

def insert (tag : Tag) : Build Nat := do
  let i ← place (.plain tag.name) tag.plainAttributes
  push i
  return i

def insertImplied (name : String) : Build Nat := insert ⟨name, [], false⟩

def insertVoid (tag : Tag) : Build Unit := do
  let _ ← place (.plain tag.name) tag.plainAttributes

def addCommentTo (parent : Nat) (s : String) : Build Unit := do
  let i ← create (.comment s)
  modify fun b => { b with arena := b.arena.append parent i }

def addComment (s : String) : Build Unit := do
  let i ← create (.comment s)
  insertIn (← get).current i

def openRoot (attributes : List Attribute) : Build Unit := do
  let i ← create (.element (.plain "html") attributes)
  modify fun b => { b with arena := b.arena.append 0 i }
  push i

def insertText (tag : Tag) (reading : Reading) : Build Unit := do
  let _ ← insert tag
  modify fun b => { b with returnMode := b.mode, mode := .text, reading := reading }

def closeParagraph : Build Unit := do
  closeImpliedExcept "p"
  close ["p"]

def closeParagraphInScope : Build Unit := do
  if (← get).inButtonScope ["p"] then closeParagraph

/-- Attributes of a later tag for the whole page. -/
def htmlTagAgain (tag : Tag) : Build Outcome := do
  let b ← get
  if !b.hasOpen ["template"] then
    set { b with arena := b.arena.addAttributes b.root tag.plainAttributes }
  return .done

def endTemplate : Build Outcome := do
  if (← get).hasOpen ["template"] then
    closeImpliedOfTemplate
    close ["template"]
    clearToMarker
    modify fun b => { b with templateModes := b.templateModes.drop 1 }
    setMode (← get).resetMode
  return .done

def finishTemplate (t : Token) : Build Outcome := do
  if (← get).hasOpen ["template"] then
    close ["template"]
    clearToMarker
    modify fun b => { b with templateModes := b.templateModes.drop 1 }
    again (← get).resetMode t
  else return .done

end Build
end WebCitation.Html
