import WebCitation.Html.Formatting
import WebCitation.Html.Rules.Head

/-! Tokens in the body of a page. -/
namespace WebCitation.Html.Build

/-- Elements that end a paragraph and hold anything. -/
def blockTags : List String :=
  ["address", "article", "aside", "blockquote", "center", "details", "dialog", "dir", "div", "dl",
    "fieldset", "figcaption", "figure", "footer", "header", "hgroup", "main", "menu", "nav", "ol", "p",
    "search", "section", "summary", "ul"]

/-- Elements that their own end tag closes wherever they are in scope. -/
def blockEndTags : List String :=
  ["address", "article", "aside", "blockquote", "button", "center", "details", "dialog", "dir", "div",
    "dl", "fieldset", "figcaption", "figure", "footer", "header", "hgroup", "listing", "main", "menu",
    "nav", "ol", "pre", "search", "section", "select", "summary", "ul"]

def headingTags : List String := ["h1", "h2", "h3", "h4", "h5", "h6"]

def formattingTags : List String :=
  ["b", "big", "code", "em", "font", "i", "s", "small", "strike", "strong", "tt", "u"]

/-- Parts of tables and other tags that mean nothing in the body. -/
def strayTags : List String :=
  ["caption", "col", "colgroup", "frame", "head", "tbody", "td", "tfoot", "th", "thead", "tr"]

def sayDone (action : Build Unit) : Build Outcome := do
  action
  return .done

def closeItem (name : String) : Build Unit := do
  let b ← get
  let partners := if name == "li" then ["li"] else ["dd", "dt"]
  let found := b.opened.find? fun i =>
    b.isOneOf partners i || (b.isSpecial i && !b.isOneOf ["address", "div", "p"] i)
  match found with
  | some i =>
    if b.isOneOf partners i then
      let stem := (b.nameOf i).stem
      closeImpliedExcept stem
      close [stem]
  | none => pure ()

def replaceBody (tag : Tag) : Build Unit := do
  let b ← get
  if b.framesetAllowed then
    match b.body? with
    | none => pure ()
    | some i =>
      set { b with arena := b.arena.detach i, opened := [b.root] }
      let _ ← insert tag
      setMode .frameset

def openForm (tag : Tag) : Build Unit := do
  let b ← get
  let inTemplate := b.hasOpen ["template"]
  if b.form.isNone || inTemplate then
    closeParagraphInScope
    let i ← insert tag
    if !inTemplate then modify fun b => { b with form := some i }

def closeForm : Build Unit := do
  let b ← get
  if b.hasOpen ["template"] then
    if b.inScope ["form"] then
      closeImplied
      close ["form"]
  else
    set { b with form := none }
    match b.form with
    | none => pure ()
    | some i =>
      if b.inScopeOf b.boundsScope (· == i) then
        closeImplied
        removeOpen i

def insertForeign (tag : Tag) (space : String) : Build Unit := do
  let i ← place (tag.foreignName space) (tag.foreignAttributes space)
  if !tag.selfClosing then push i

/-- A selection list, or the end of the one that is open around here. -/
def openSelect (tag : Tag) : Build Unit := do
  if (← get).inScope ["select"] then close ["select"]
  else
    reopenFormatting
    let _ ← insert tag
    forbidFrameset

/-- An option or a group of them. In a selection list it ends what may be left without an end, where an option
leaves its group open. -/
def openOption (tag : Tag) : Build Unit := do
  let b ← get
  if b.inScope ["select"] then
    if tag.name == "option" then closeImpliedExcept "optgroup" else closeImplied
  else if b.currentIs ["option"] then pop
  reopenFormatting
  let _ ← insert tag

def startTagInBody (tag : Tag) : Build Outcome := do
  let b ← get
  let name := tag.name
  if headTags.contains name then inHead (.startTag tag)
  else if blockTags.contains name then
    sayDone do
      closeParagraphInScope
      let _ ← insert tag
  else if headingTags.contains name then
    sayDone do
      closeParagraphInScope
      if (← get).currentIs headingTags then pop
      let _ ← insert tag
  else if formattingTags.contains name then
    sayDone do
      reopenFormatting
      insertFormatting tag
  else if strayTags.contains name then return .done
  else
    match name with
    | "html" => htmlTagAgain tag
    | "body" =>
      match b.body? with
      | some i =>
        if b.opened.length ≠ 1 && !b.hasOpen ["template"] then
          forbidFrameset
          modify fun b => { b with arena := b.arena.addAttributes i tag.plainAttributes }
        return .done
      | none => return .done
    | "frameset" => sayDone (replaceBody tag)
    | "pre" | "listing" =>
      sayDone do
        closeParagraphInScope
        let _ ← insert tag
        modify fun b => { b with skipNewline := true, framesetAllowed := false }
    | "form" => sayDone (openForm tag)
    | "li" | "dd" | "dt" =>
      sayDone do
        forbidFrameset
        closeItem name
        closeParagraphInScope
        let _ ← insert tag
    | "plaintext" =>
      sayDone do
        closeParagraphInScope
        let _ ← insert tag
        modify fun b => { b with reading := .plain }
    | "button" =>
      sayDone do
        if b.inScope ["button"] then
          closeImplied
          close ["button"]
        reopenFormatting
        let _ ← insert tag
        forbidFrameset
    | "a" =>
      sayDone do
        closeOpenLink
        reopenFormatting
        insertFormatting tag
    | "nobr" =>
      sayDone do
        reopenFormatting
        if (← get).inScope ["nobr"] then
          closeFormatting "nobr"
          reopenFormatting
        insertFormatting tag
    | "applet" | "marquee" | "object" =>
      sayDone do
        reopenFormatting
        let _ ← insert tag
        pushMarker
        forbidFrameset
    | "table" =>
      sayDone do
        if !b.oldLayout then closeParagraphInScope
        let _ ← insert tag
        forbidFrameset
        setMode .table
    | "area" | "br" | "embed" | "img" | "keygen" | "wbr" =>
      sayDone do
        reopenFormatting
        insertVoid tag
        forbidFrameset
    | "input" =>
      sayDone do
        if b.inScope ["select"] then close ["select"]
        reopenFormatting
        insertVoid tag
        if (tag.attribute? "type").map String.asciiLower != some "hidden" then forbidFrameset
    | "param" | "source" | "track" => sayDone (insertVoid tag)
    | "hr" =>
      sayDone do
        closeParagraphInScope
        if (← get).inScope ["select"] then closeImplied
        insertVoid tag
        forbidFrameset
    | "image" => return .again (.startTag { tag with name := "img" })
    | "textarea" =>
      sayDone do
        insertText tag .escapable
        modify fun b => { b with skipNewline := true, framesetAllowed := false }
    | "xmp" =>
      sayDone do
        closeParagraphInScope
        reopenFormatting
        forbidFrameset
        insertText tag .raw
    | "iframe" =>
      sayDone do
        forbidFrameset
        insertText tag .raw
    | "noembed" | "noscript" => sayDone (insertText tag .raw)
    | "select" => sayDone (openSelect tag)
    | "optgroup" | "option" => sayDone (openOption tag)
    | "rb" | "rtc" =>
      sayDone do
        if b.inScope ["ruby"] then closeImplied
        let _ ← insert tag
    | "rp" | "rt" =>
      sayDone do
        if b.inScope ["ruby"] then closeImpliedExcept "rtc"
        let _ ← insert tag
    | "math" =>
      sayDone do
        reopenFormatting
        insertForeign tag mathMl
    | "svg" =>
      sayDone do
        reopenFormatting
        insertForeign tag svg
    | _ =>
      sayDone do
        reopenFormatting
        let _ ← insert tag

/-- The end of a paragraph, which opens one if there is none. -/
def endParagraph : Build Unit := do
  if !(← get).inButtonScope ["p"] then
    let _ ← insertImplied "p"
  closeParagraph

def endTagInBody (name : String) : Build Outcome := do
  let b ← get
  if blockEndTags.contains name then
    sayDone do
      if b.inScope [name] then
        closeImplied
        close [name]
  else if headingTags.contains name then
    sayDone do
      if b.inScope headingTags then
        closeImplied
        close headingTags
  else if formattingTags.contains name then sayDone (closeFormatting name)
  else
    match name with
    | "template" => endTemplate
    | "body" =>
      if b.inScope ["body"] then setMode .afterBody
      return .done
    | "html" => if b.inScope ["body"] then again .afterBody (.endTag name) else return .done
    | "form" => sayDone closeForm
    | "p" => sayDone endParagraph
    | "li" =>
      sayDone do
        if b.inListScope [name] then
          closeImpliedExcept name
          close [name]
    | "dd" | "dt" =>
      sayDone do
        if b.inScope [name] then
          closeImpliedExcept name
          close [name]
    | "a" | "nobr" => sayDone (closeFormatting name)
    | "applet" | "marquee" | "object" =>
      sayDone do
        if b.inScope [name] then
          closeImplied
          close [name]
          clearToMarker
    | "br" => startTagInBody ⟨"br", [], false⟩
    | _ => sayDone (closeNamed name)

def inBody (t : Token) : Build Outcome := do
  match t with
  | .text s =>
    reopenFormatting
    if !isBlankRun s then forbidFrameset
    addText s
    return .done
  | .comment s => addComment s; return .done
  | .startTag tag => startTagInBody tag
  | .endTag name => endTagInBody name
  | .finish => if (← get).templateModes.isEmpty then return .done else finishTemplate t
  | .null | .fault | .doctype _ => return .done

/-- After the body only white space and comments have a place of their own. -/
def inAfterBody (t : Token) : Build Outcome := do
  match t with
  | .text s => if isBlankRun s then inBody t else again .body t
  | .comment s => addCommentTo (← get).root s; return .done
  | .startTag tag => if tag.name == "html" then htmlTagAgain tag else again .body t
  | .endTag name =>
    if name == "html" then
      setMode .afterAfterBody
      return .done
    else again .body t
  | .finish => return .done
  | t => again .body t

def inAfterAfterBody (t : Token) : Build Outcome := do
  match t with
  | .text s => if isBlankRun s then inBody t else again .body t
  | .comment s => addCommentTo 0 s; return .done
  | .startTag tag => if tag.name == "html" then htmlTagAgain tag else again .body t
  | .finish => return .done
  | t => again .body t

end WebCitation.Html.Build
