import WebCitation.Html.Rules.Body

/-! Tokens in tables. What may not stand in a table is moved in front of it. -/
namespace WebCitation.Html.Build

def tableParts : List String := ["table", "tbody", "tfoot", "thead", "tr"]

def tableBounds : List String := ["table", "template", "html"]

def tableBodyBounds : List String := ["tbody", "tfoot", "thead", "template", "html"]

def rowBounds : List String := ["tr", "template", "html"]

/-- Parts of which one has to be open if rows are to end with the part around them; the head of a table that
is open by itself stays open. -/
def outerParts : List String := ["table", "tbody", "tfoot"]

def cellTags : List String := ["td", "th"]

/-- Takes a token by the rules of the body, but in front of the table. -/
def fosterInBody (t : Token) : Build Outcome := do
  modify fun b => { b with fostering := true }
  let outcome ← inBody t
  modify fun b => { b with fostering := false }
  return outcome

/-- Text in a table is first gathered. -/
def textInTable (t : Token) : Build Outcome := do
  let b ← get
  if b.currentIs tableParts then
    modify fun b => { b with returnMode := b.mode }
    again .tableText t
  else fosterInBody t

def startTagInTable (tag : Tag) : Build Outcome := do
  let t := Token.startTag tag
  match tag.name with
  | "caption" =>
    sayDone do
      popTo tableBounds
      pushMarker
      let _ ← insert tag
      setMode .caption
  | "colgroup" =>
    sayDone do
      popTo tableBounds
      let _ ← insert tag
      setMode .columnGroup
  | "col" =>
    popTo tableBounds
    let _ ← insertImplied "colgroup"
    again .columnGroup t
  | "tbody" | "tfoot" | "thead" =>
    sayDone do
      popTo tableBounds
      let _ ← insert tag
      setMode .tableBody
  | "td" | "th" | "tr" =>
    popTo tableBounds
    let _ ← insertImplied "tbody"
    again .tableBody t
  | "table" =>
    if (← get).inTableScope ["table"] then
      close ["table"]
      again (← get).resetMode t
    else return .done
  | "style" | "script" | "template" => inHead t
  | "input" =>
    if (tag.attribute? "type").map String.asciiLower == some "hidden" then sayDone (insertVoid tag)
    else fosterInBody t
  | "form" =>
    sayDone do
      let b ← get
      if !b.hasOpen ["template"] && b.form.isNone then
        let i ← place (.plain tag.name) tag.plainAttributes
        modify fun b => { b with form := some i }
  | _ => fosterInBody t

def inTable (t : Token) : Build Outcome := do
  match t with
  | .text _ | .null => textInTable t
  | .comment s => addComment s; return .done
  | .startTag tag => startTagInTable tag
  | .endTag name =>
    match name with
    | "table" =>
      if (← get).inTableScope ["table"] then
        close ["table"]
        setMode (← get).resetMode
      return .done
    | "body" | "caption" | "col" | "colgroup" | "html" | "tbody" | "td" | "tfoot" | "th" | "thead"
    | "tr" => return .done
    | "template" => endTemplate
    | _ => fosterInBody t
  | .finish | .fault => inBody t
  | .doctype _ => fosterInBody t

/-- Text gathered in a table is moved in front of it if any of it is no white space. -/
def flushTableText : Build Unit := do
  let runs := (← get).tableText
  modify fun b => { b with tableText := [] }
  if runs.all isBlankRun then runs.forM addText
  else
    runs.forM fun s => do
      let _ ← fosterInBody (.text s)

def inTableText (t : Token) : Build Outcome := do
  match t with
  | .null => return .done
  | .text s =>
    modify fun b => { b with tableText := b.tableText ++ [s] }
    return .done
  | t =>
    flushTableText
    again (← get).returnMode t

def inCaption (t : Token) : Build Outcome := do
  let closeIt : Build Bool := do
    if (← get).inTableScope ["caption"] then
      closeImplied
      close ["caption"]
      clearToMarker
      return true
    else return false
  match t with
  | .startTag tag =>
    if ["caption", "col", "colgroup", "tbody", "td", "tfoot", "th", "thead", "tr"].contains tag.name then
      if ← closeIt then again .table t else return .done
    else inBody t
  | .endTag name =>
    match name with
    | "caption" =>
      if ← closeIt then setMode .table
      return .done
    | "table" => if ← closeIt then again .table t else return .done
    | "body" | "col" | "colgroup" | "html" | "tbody" | "td" | "tfoot" | "th" | "thead" | "tr" =>
      return .done
    | _ => inBody t
  | t => inBody t

def inColumnGroup (t : Token) : Build Outcome := do
  let leave : Build Outcome := do
    if (← get).currentIs ["colgroup"] then
      pop
      again .table t
    else return .done
  match t with
  | .text s =>
    if isBlankRun s then
      addText s
      return .done
    else leave
  | .comment s => addComment s; return .done
  | .startTag tag =>
    match tag.name with
    | "html" => htmlTagAgain tag
    | "col" => sayDone (insertVoid tag)
    | "template" => openTemplate tag
    | _ => leave
  | .endTag name =>
    match name with
    | "colgroup" =>
      if (← get).currentIs ["colgroup"] then
        pop
        setMode .table
      return .done
    | "col" => return .done
    | "template" => endTemplate
    | _ => leave
  | .finish => inBody t
  | _ => leave

def inTableBody (t : Token) : Build Outcome := do
  let leave : Build Outcome := do
    if (← get).inTableScope outerParts then
      popTo tableBodyBounds
      pop
      again .table t
    else return .done
  match t with
  | .startTag tag =>
    match tag.name with
    | "tr" =>
      sayDone do
        popTo tableBodyBounds
        let _ ← insert tag
        setMode .row
    | "td" | "th" =>
      popTo tableBodyBounds
      let _ ← insertImplied "tr"
      again .row t
    | "caption" | "col" | "colgroup" | "tbody" | "tfoot" | "thead" => leave
    | _ => inTable t
  | .endTag name =>
    match name with
    | "tbody" | "tfoot" | "thead" =>
      sayDone do
        if (← get).inTableScope [name] then
          popTo tableBodyBounds
          pop
          setMode .table
    | "table" => leave
    | "body" | "caption" | "col" | "colgroup" | "html" | "td" | "th" | "tr" => return .done
    | _ => inTable t
  | t => inTable t

def inRow (t : Token) : Build Outcome := do
  let leave : Build Outcome := do
    if (← get).inTableScope ["tr"] then
      popTo rowBounds
      pop
      again .tableBody t
    else return .done
  match t with
  | .startTag tag =>
    match tag.name with
    | "td" | "th" =>
      sayDone do
        popTo rowBounds
        let _ ← insert tag
        setMode .cell
        pushMarker
    | "caption" | "col" | "colgroup" | "tbody" | "tfoot" | "thead" | "tr" => leave
    | _ => inTable t
  | .endTag name =>
    match name with
    | "tr" =>
      sayDone do
        if (← get).inTableScope ["tr"] then
          popTo rowBounds
          pop
          setMode .tableBody
    | "table" => leave
    | "tbody" | "tfoot" | "thead" => if (← get).inTableScope [name] then leave else return .done
    | "body" | "caption" | "col" | "colgroup" | "html" | "td" | "th" => return .done
    | _ => inTable t
  | t => inTable t

def closeCell (t : Token) : Build Outcome := do
  closeImplied
  close cellTags
  clearToMarker
  again .row t

def inCell (t : Token) : Build Outcome := do
  match t with
  | .startTag tag =>
    match tag.name with
    | "caption" | "col" | "colgroup" | "tbody" | "td" | "tfoot" | "th" | "thead" | "tr" =>
      if (← get).inTableScope cellTags then closeCell t else return .done
    | _ => inBody t
  | .endTag name =>
    match name with
    | "td" | "th" =>
      sayDone do
        if (← get).inTableScope [name] then
          closeImplied
          close [name]
          clearToMarker
          setMode .row
    | "body" | "caption" | "col" | "colgroup" | "html" => return .done
    | "table" | "tbody" | "tfoot" | "thead" | "tr" =>
      if (← get).inTableScope [name] then closeCell t else return .done
    | _ => inBody t
  | t => inBody t

end WebCitation.Html.Build
