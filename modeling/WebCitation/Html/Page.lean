import WebCitation.Html.Rules.Special
import WebCitation.Html.Rules.Table

/-! The tree of a page. Every text is a page; what is damaged or missing is made up for. -/
namespace WebCitation.Html

namespace Build

/-- Takes a token by the rules of the mode at hand. -/
def byMode (t : Token) : Build Outcome := do
  match (← get).mode with
  | .start => inStart t
  | .beforeHtml => inBeforeHtml t
  | .beforeHead => inBeforeHead t
  | .head => inHead t
  | .afterHead => inAfterHead t
  | .body => inBody t
  | .text => inText t
  | .table => inTable t
  | .tableText => inTableText t
  | .caption => inCaption t
  | .columnGroup => inColumnGroup t
  | .tableBody => inTableBody t
  | .row => inRow t
  | .cell => inCell t
  | .template => inTemplate t
  | .afterBody => inAfterBody t
  | .frameset => inFrameset t
  | .afterFrameset => inAfterFrameset t
  | .afterAfterBody => inAfterAfterBody t
  | .afterAfterFrameset => inAfterAfterFrameset t

/-- Takes a token, and takes it again at most so many times. -/
def take : Nat → Token → Build Unit
  | 0, _ => pure ()
  | fuel + 1, t => do
    let outcome ← if isForeign (← get) t then inForeign byMode t else byMode t
    match outcome with
    | .done => pure ()
    | .again t => take fuel t

/-- How often a token may have to be taken: each time some elements are closed or the mode moves on. -/
def takings (b : Builder) : Nat := 8 * (b.opened.length + 8)

def takeFully (t : Token) : Build Unit := do
  take (takings (← get)) t

/-- Takes a text. While white space is told from other characters, only the characters of one kind that
begin the text are taken at a time. -/
def takeText : Nat → List Char → Build Unit
  | 0, _ | _ + 1, [] => pure ()
  | fuel + 1, c :: s => do
    if (← get).mode.tellsBlanks then
      let (run, rest) := (c :: s).span fun d => Token.isSpace d == Token.isSpace c
      takeFully (.text run)
      takeText fuel rest
    else takeFully (.text (c :: s))

/-- A document type counts at the start of a page only. -/
def takeDoctype (d : Doctype) : Build Unit := do
  if (← get).mode == .start then
    modify fun b => { b with oldLayout := d.isOld, mode := .beforeHtml }

def accept (t : Token) : Build Unit := do
  let skip := (← get).skipNewline
  modify fun b => { b with skipNewline := false }
  match t with
  | .doctype d => takeDoctype d
  | .text s =>
    let s := if skip && s.head? == some '\n' then s.drop 1 else s
    takeText s.length s
  | .fault => pure ()
  | .startTag tag =>
    modify fun b => { b with reading := .markup, lastStartTag := tag.name }
    takeFully t
  | .endTag _ =>
    modify fun b => { b with reading := .markup }
    takeFully t
  | t => takeFully t

def insideForeign (b : Builder) : Bool := !b.opened.isEmpty && (b.nameOf b.current).space.isSome

def dropByteOrderMark : List Char → List Char
  | [] => []
  | c :: s => if c.toNat = 0xFEFF then s else c :: s

/-- Reads a page to its end. A mark of byte order counts for nothing where reading begins or goes on after a
pause. -/
def readPage : Nat → List Char → Build Unit
  | 0, _ => pure ()
  | fuel + 1, s => do
    let b ← get
    let (tokens, rest) := Token.next b.reading b.lastStartTag (insideForeign b) s
    tokens.forM accept
    let paused := (← get).paused
    modify fun b => { b with paused := false }
    if s.isEmpty then pure () else readPage fuel (if paused then dropByteOrderMark rest else rest)

end Build

def unifyLines : List Char → List Char
  | [] => []
  | '\r' :: '\n' :: s => '\r' :: unifyLines s
  | c :: s => c :: unifyLines s

def parse (page : String) : List Node :=
  let s := unifyLines (Build.dropByteOrderMark page.toList)
  ((Build.readPage (s.length + 2) s).run .empty).2.arena.toNodes

end WebCitation.Html
