import WebCitation.Html.Rules.Body

/-! Tokens in templates, in framesets and in other vocabularies. -/
namespace WebCitation.Html.Build

/-- Takes a token by the rules of another mode, which the template keeps. -/
def turnTemplate (m : Mode) (t : Token) : Build Outcome := do
  modify fun b => { b with templateModes := m :: b.templateModes.drop 1 }
  again m t

def inTemplate (t : Token) : Build Outcome := do
  match t with
  | .text _ | .comment _ => inBody t
  | .startTag tag =>
    if headTags.contains tag.name then inHead t
    else
      match tag.name with
      | "caption" | "colgroup" | "tbody" | "tfoot" | "thead" => turnTemplate .table t
      | "col" => turnTemplate .columnGroup t
      | "tr" => turnTemplate .tableBody t
      | "td" | "th" => turnTemplate .row t
      | _ => turnTemplate .body t
  | .endTag name => if name == "template" then endTemplate else return .done
  | .finish => finishTemplate t
  | .null | .fault => inBody t
  | .doctype _ => return .done

def inFrameset (t : Token) : Build Outcome := do
  match t with
  | .text s =>
    if isBlankRun s then addText s
    return .done
  | .comment s => addComment s; return .done
  | .startTag tag =>
    match tag.name with
    | "html" => htmlTagAgain tag
    | "frameset" =>
      sayDone do
        let _ ← insert tag
    | "frame" => sayDone (insertVoid tag)
    | "noframes" => inHead t
    | _ => return .done
  | .endTag name =>
    if name == "frameset" && (← get).opened.length ≠ 1 then
      pop
      if !(← get).currentIs ["frameset"] then setMode .afterFrameset
    return .done
  | _ => return .done

def inAfterFrameset (t : Token) : Build Outcome := do
  match t with
  | .text s =>
    if isBlankRun s then addText s
    return .done
  | .comment s => addComment s; return .done
  | .startTag tag =>
    match tag.name with
    | "html" => htmlTagAgain tag
    | "noframes" => inHead t
    | _ => return .done
  | .endTag name =>
    if name == "html" then setMode .afterAfterFrameset
    return .done
  | _ => return .done

def inAfterAfterFrameset (t : Token) : Build Outcome := do
  match t with
  | .text s => if isBlankRun s then inBody t else return .done
  | .comment s => addCommentTo 0 s; return .done
  | .startTag tag =>
    match tag.name with
    | "html" => htmlTagAgain tag
    | "noframes" => inHead t
    | _ => return .done
  | _ => return .done

/-- Whether a token belongs to the vocabulary of the innermost open element rather than to HTML. -/
def isForeign (b : Builder) (t : Token) : Bool :=
  let n := b.nameOf b.current
  if b.opened.isEmpty || n.space.isNone then false
  else
    match t with
    | .finish => false
    | .text _ | .null => !n.isMathText && !n.isSvgHolder
    | .startTag tag =>
      !n.isSvgHolder && !(n.isMathText && tag.name != "mglyph" && tag.name != "malignmark")
        && !(n == ⟨some mathMl, "annotation-xml"⟩ && tag.name == "svg")
    | _ => true

/-- Closes elements of other vocabularies that cannot hold HTML. -/
def leaveForeign : Build Unit :=
  modify fun b =>
    { b with opened := b.opened.dropWhile fun i =>
        let n := b.nameOf i
        n.space.isSome && !n.isMathText && !n.isSvgHolder }

/-- The end tag of an element of another vocabulary, in any letter case; `none` if an HTML element comes
first. -/
def foreignEnd? (b : Builder) (name : String) (outermost : Nat) : Bool → List Nat → Option (Option Nat)
  | _, [] => some none
  | first, i :: is =>
    let n := b.nameOf i
    if i = outermost then some none
    else if !first && n.space.isNone then none
    else if n.stem.asciiLower == name then some (some i)
    else foreignEnd? b name outermost false is

def inForeign (byMode : Token → Build Outcome) (t : Token) : Build Outcome := do
  match t with
  | .null => addText [replacement]; return .done
  | .text s =>
    if !isBlankRun s then forbidFrameset
    addText s
    return .done
  | .comment s => addComment s; return .done
  | .startTag tag =>
    if tag.breaksOut then
      leaveForeign
      byMode t
    else
      sayDone do
        let b ← get
        insertForeign tag ((b.nameOf b.current).space.getD svg)
  | .endTag name =>
    if ["br", "p"].contains name then
      leaveForeign
      byMode t
    else
      let b ← get
      match foreignEnd? b name b.root true b.opened with
      | none => byMode t
      | some none => return .done
      | some (some i) => sayDone (popThrough fun _ j => j == i)
  | _ => return .done

end WebCitation.Html.Build
