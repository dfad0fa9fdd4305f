import WebCitation.Html.Builder
import WebCitation.Html.Encoding

/-! Tokens before the body: the start of the page and its head. -/
namespace WebCitation.Html.Build

/-- Whether a run of text is white space; runs hold white space only or none. -/
def isBlankRun (s : List Char) : Bool := s.all Token.isSpace

def inStart (t : Token) : Build Outcome := do
  match t with
  | .comment s => addCommentTo 0 s; return .done
  | .text s =>
    if isBlankRun s then return .done
    modify fun b => { b with oldLayout := true }
    again .beforeHtml t
  | t =>
    modify fun b => { b with oldLayout := true }
    again .beforeHtml t

/-- The end tags that open what is missing before the body. -/
def openingEndTags : List String := ["head", "body", "html", "br"]

def inBeforeHtml (t : Token) : Build Outcome := do
  let openFor : Build Outcome := do
    openRoot []
    again .beforeHead t
  match t with
  | .comment s => addCommentTo 0 s; return .done
  | .text s => if isBlankRun s then return .done else openFor
  | .startTag tag =>
    if tag.name == "html" then
      openRoot tag.plainAttributes
      setMode .beforeHead
      return .done
    else openFor
  | .endTag name => if openingEndTags.contains name then openFor else return .done
  | _ => openFor

def openHead (tag : Tag) : Build Unit := do
  let i ← insert tag
  modify fun b => { b with head := some i }

def inBeforeHead (t : Token) : Build Outcome := do
  let openFor : Build Outcome := do
    openHead ⟨"head", [], false⟩
    again .head t
  match t with
  | .comment s => addComment s; return .done
  | .text s => if isBlankRun s then return .done else openFor
  | .startTag tag =>
    match tag.name with
    | "html" => htmlTagAgain tag
    | "head" =>
      openHead tag
      setMode .head
      return .done
    | _ => openFor
  | .endTag name => if openingEndTags.contains name then openFor else return .done
  | _ => openFor

def voidHeadTags : List String := ["base", "basefont", "bgsound", "link", "meta"]

def textHeadTags : List (String × Reading) :=
  [("title", .escapable), ("noframes", .raw), ("style", .raw), ("noscript", .raw), ("script", .script)]

def headTags : List String :=
  voidHeadTags ++ ["noframes", "script", "style", "template", "title"]

def openTemplate (tag : Tag) : Build Outcome := do
  let _ ← insert tag
  pushMarker
  forbidFrameset
  modify fun b => { b with mode := .template, templateModes := .template :: b.templateModes }
  return .done

def inHead (t : Token) : Build Outcome := do
  let leave : Build Outcome := do
    pop
    again .afterHead t
  match t with
  | .comment s => addComment s; return .done
  | .text s =>
    if isBlankRun s then
      addText s
      return .done
    else leave
  | .startTag tag =>
    if voidHeadTags.contains tag.name then
      insertVoid tag
      if tag.namesEncoding then pause
      return .done
    else
      match textHeadTags.lookup tag.name, tag.name with
      | some reading, _ => insertText tag reading; return .done
      | none, "html" => htmlTagAgain tag
      | none, "template" => openTemplate tag
      | none, "head" => return .done
      | none, _ => leave
  | .endTag name =>
    match name with
    | "head" =>
      pop
      setMode .afterHead
      return .done
    | "body" | "html" | "br" => leave
    | "template" => endTemplate
    | _ => return .done
  | _ => leave

def inAfterHead (t : Token) : Build Outcome := do
  let openBody : Build Outcome := do
    let _ ← insertImplied "body"
    again .body t
  match t with
  | .comment s => addComment s; return .done
  | .text s =>
    if isBlankRun s then
      addText s
      return .done
    else openBody
  | .startTag tag =>
    if headTags.contains tag.name then
      match (← get).head with
      | none => return .done
      | some i =>
        push i
        let outcome ← inHead t
        removeOpen i
        return outcome
    else
      match tag.name with
      | "html" => htmlTagAgain tag
      | "body" =>
        let _ ← insert tag
        forbidFrameset
        setMode .body
        return .done
      | "frameset" =>
        let _ ← insert tag
        setMode .frameset
        return .done
      | "head" => return .done
      | _ => openBody
  | .endTag name =>
    match name with
    | "template" => endTemplate
    | "body" | "html" | "br" => openBody
    | _ => return .done
  | _ => openBody

def inText (t : Token) : Build Outcome := do
  match t with
  | .text s => addText s; return .done
  | .endTag name =>
    pop
    setMode (← get).returnMode
    if name == "script" then pause
    return .done
  | t =>
    pop
    again (← get).returnMode t

end WebCitation.Html.Build
