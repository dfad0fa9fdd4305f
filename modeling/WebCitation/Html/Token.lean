import WebCitation.Html.Doctype
import WebCitation.Html.Reference

/-!
The tokens of a page: runs of text, tags, comments and document types. A carriage return in the characters of a
page stands for the end of a line that was written with one; in tokens all line ends are line feeds.
-/
namespace WebCitation.Html

structure Tag where
  name : String
  attributes : List (String × String)
  selfClosing : Bool
deriving DecidableEq, Repr, Inhabited

def Tag.attribute? (t : Tag) (name : String) : Option String :=
  (t.attributes.find? fun (n, _) => n == name).map Prod.snd

/-- A token of a page. A `fault` is a place where the text is damaged but nothing of it is lost. -/
inductive Token where
  | text (content : List Char)
  | null
  | fault
  | startTag (tag : Tag)
  | endTag (name : String)
  | comment (content : String)
  | doctype (doctype : Doctype)
  | finish
deriving DecidableEq, Repr, Inhabited

/-- How the characters of an element are read: as markup, as text with references, as text alone, as a
script, or as text up to the end of the page. -/
inductive Reading where
  | markup
  | escapable
  | raw
  | script
  | plain
deriving DecidableEq, Repr, Inhabited

namespace Token

def isSpace (c : Char) : Bool :=
  c == ' ' || c == '\n' || c == '\t' || c.toNat == 0xC || c == '\r'

/-- A text with line feeds for line ends and without null characters. -/
def plainText (s : List Char) : List Char :=
  s.map fun c => if c = '\r' then '\n' else if c.toNat = 0 then replacement else c

def nameOf (s : List Char) : String := String.ofList (plainText (Text.asciiLower s))

def valueOf (s : List Char) : String := String.ofList (decodeReferences true (plainText s))

def ofSection (s : List Char) : List Token :=
  s.map fun c => if c.toNat = 0 then null else text (plainText [c])

/-- The tokens of a text of markup, where fuel bounds their number. Text comes in runs. A reference and a null
character stand apart from them, and so do a carriage return with the character after it and a line feed where
a run would begin. The first `held` characters, unless there are none, were looked at to tell where a reference
ends, and a run ends with them; `alone` says that the first character stands apart. -/
def ofTextFrom : Nat → Nat → Bool → List Char → List Token
  | 0, _, _, _ | _ + 1, _, _, [] => []
  | fuel + 1, held, alone, c :: s =>
    if c = '&' then
      match readReference? false s with
      | some r =>
        (if r.closed then [] else [fault]) ++ r.characters.map (fun c => text [c])
          ++ ofTextFrom fuel r.lookahead false r.rest
      | none => text ['&'] :: ofTextFrom fuel (plainLookahead s) false s
    else if c.toNat = 0 then null :: ofTextFrom fuel (held - 1) false s
    else if c = '\r' then text ['\n'] :: ofTextFrom fuel (held - 1) true s
    else if c = '\n' || alone then text [c] :: ofTextFrom fuel (held - 1) false s
    else
      let run := (if held = 0 then s else s.take (held - 1)).takeWhile fun c =>
        c != '&' && c != '\r' && c.toNat != 0
      text (c :: run) :: ofTextFrom fuel (held - 1 - run.length) false (s.drop run.length)

def ofText (s : List Char) : List Token := ofTextFrom s.length 0 false s

def readValue? : List Char → Option (String × List Char)
  | [] => none
  | '>' :: s => some ("", '>' :: s)
  | c :: s =>
    if c = '"' || c = '\'' then
      match s.span (· != c) with
      | (value, _ :: rest) => some (valueOf value, rest)
      | (_, []) => none
    else
      match (c :: s).span fun c => !isSpace c && c != '>' with
      | (_, []) => none
      | (value, rest) => some (valueOf value, rest)

/-- The attributes and the end of a tag: whether it closes itself, and the text after it. Of attributes of
one name the first counts; a tag that does not end is none. -/
def readAttributes? : Nat → List (String × String) → List Char →
    Option (List (String × String) × Bool × List Char)
  | 0, _, _ => none
  | fuel + 1, found, s =>
    match s.dropWhile isSpace with
    | [] => none
    | '>' :: rest => some (found, false, rest)
    | '/' :: '>' :: rest => some (found, true, rest)
    | '/' :: rest => readAttributes? fuel found rest
    | c :: rest => do
      let (more, rest) := rest.span fun c => !isSpace c && c != '/' && c != '>' && c != '='
      let name := nameOf (c :: more)
      let (value, rest) ←
        match rest.dropWhile isSpace with
        | '=' :: rest => readValue? (rest.dropWhile isSpace)
        | rest => some ("", rest)
      let found := if found.any fun (n, _) => n == name then found else found ++ [(name, value)]
      readAttributes? fuel found rest

def readTag? (s : List Char) : Option (Tag × List Char) := do
  let (name, s) := s.span fun c => !isSpace c && c != '/' && c != '>'
  let (attributes, selfClosing, rest) ← readAttributes? (s.length + 1) [] s
  return (⟨nameOf name, attributes, selfClosing⟩, rest)

def readCommentBody : List Char → List Char × List Char
  | [] | ['-'] | ['-', '-'] | ['-', '-', '!'] => ([], [])
  | '-' :: '-' :: '>' :: rest => ([], rest)
  | '-' :: '-' :: '!' :: '>' :: rest => ([], rest)
  | c :: s =>
    let (content, rest) := readCommentBody s
    (c :: content, rest)

def readComment (s : List Char) : Token × List Char :=
  match s with
  | '>' :: rest => (comment "", rest)
  | '-' :: '>' :: rest => (comment "", rest)
  | s =>
    let (content, rest) := readCommentBody s
    (comment (String.ofList (plainText content)), rest)

/-- Markup that is no tag and no proper comment counts as a comment up to the next `>`. -/
def readBogus (s : List Char) : Token × List Char :=
  let (content, rest) := s.span (· != '>')
  (comment (String.ofList (plainText content)), rest.drop 1)

/-- A quoted identifier of a document type: its text, whether it ends, and the text after it. -/
def readIdentifier (mark : Char) (s : List Char) : String × Bool × List Char :=
  let (content, rest) := s.span fun c => c != mark && c != '>'
  let id := String.ofList (plainText content)
  match rest with
  | c :: after => if c = mark then (id, true, after) else (id, false, rest)
  | [] => (id, false, [])

def closeDoctype (d : Doctype) (s : List Char) : Token × List Char :=
  (doctype d, (s.dropWhile (· != '>')).drop 1)

/-- The system identifier and the end of a document type; `required` says that an identifier must come. -/
def readSystemId (d : Doctype) (required : Bool) (s : List Char) : Token × List Char :=
  let damaged : Doctype := { d with damaged := true }
  match s.dropWhile isSpace with
  | [] => (doctype damaged, [])
  | '>' :: rest => (doctype (if required then damaged else d), rest)
  | c :: s =>
    if c = '"' || c = '\'' then
      match readIdentifier c s with
      | (id, true, rest) =>
        let d : Doctype := { d with systemId := some id }
        if rest.contains '>' then closeDoctype d rest
        else (doctype { d with damaged := d.damaged || (rest.dropWhile isSpace).isEmpty }, [])
      | (id, false, rest) => closeDoctype { damaged with systemId := some id } rest
    else closeDoctype damaged s

def readPublicId (d : Doctype) (s : List Char) : Token × List Char :=
  let damaged : Doctype := { d with damaged := true }
  match s.dropWhile isSpace with
  | [] => (doctype damaged, [])
  | c :: s =>
    if c = '"' || c = '\'' then
      match readIdentifier c s with
      | (id, true, rest) => readSystemId { d with publicId := some id } false rest
      | (id, false, rest) => closeDoctype { damaged with publicId := some id } rest
    else closeDoctype damaged (c :: s)

def readDoctype (s : List Char) : Token × List Char :=
  let (name, s) := (s.dropWhile isSpace).span fun c => !isSpace c && c != '>'
  let d : Doctype := ⟨nameOf name, none, none, name.isEmpty⟩
  match s.dropWhile isSpace with
  | [] => (doctype { d with damaged := true }, [])
  | '>' :: rest => (doctype d, rest)
  | s =>
    match Text.dropWord? "public".toList s, Text.dropWord? "system".toList s with
    | some s, _ => readPublicId d s
    | none, some s => readSystemId d true s
    | none, none => closeDoctype { d with damaged := true } s

def readSection : List Char → List Char × List Char
  | [] => ([], [])
  | ']' :: ']' :: '>' :: rest => ([], rest)
  | c :: s =>
    let (content, rest) := readSection s
    (c :: content, rest)

/-- A comment, a document type or a section of plain characters, after `<!`; such sections are known only
where `foreign` holds. -/
def readDeclaration (foreign : Bool) (s : List Char) : List Token × List Char :=
  match Text.dropPrefix? "--".toList s, Text.dropWord? "doctype".toList s,
      (if foreign then Text.dropPrefix? "[CDATA[".toList s else none) with
  | some s, _, _ => let (t, rest) := readComment s; ([t], rest)
  | none, some s, _ => let (t, rest) := readDoctype s; ([t], rest)
  | none, none, some s => let (content, rest) := readSection s; (ofSection content, rest)
  | none, none, none => let (t, rest) := readBogus s; ([t], rest)

def readMarkup (foreign : Bool) (s : List Char) : List Token × List Char :=
  match s with
  | '!' :: s => readDeclaration foreign s
  | '?' :: _ => let (t, rest) := readBogus s; ([t], rest)
  | '/' :: rest =>
    match rest with
    | [] => ([text ['<'], text ['/']], [])
    | '>' :: rest => ([fault], rest)
    | c :: _ =>
      if c.isAlpha then
        match readTag? rest with
        | some (tag, rest) => ([endTag tag.name], rest)
        | none => ([], [])
      else let (t, rest) := readBogus rest; ([t], rest)
  | c :: _ =>
    if c.isAlpha then
      match readTag? s with
      | some (tag, rest) => ([startTag tag], rest)
      | none => ([], [])
    else if ['<', '&', '\r'].contains c || c.toNat = 0 then ([text ['<']], s)
    else ([text ['<'], text [c]], s.drop 1)
  | [] => ([text ['<']], [])

/-- Whether a text begins with a name, in any letter case, that ends there. -/
def beginsWithName (name s : List Char) : Bool :=
  match Text.dropWord? name s with
  | some (c :: _) => isSpace c || c == '/' || c == '>'
  | _ => false

def beginsWithEndTag (name : List Char) : List Char → Bool
  | '<' :: '/' :: s => beginsWithName name s
  | _ => false

def readUntilEndTag (name : List Char) : List Char → List Char × List Char
  | [] => ([], [])
  | c :: s =>
    if beginsWithEndTag name (c :: s) then ([], c :: s)
    else
      let (content, rest) := readUntilEndTag name s
      (c :: content, rest)

/-- Where a script stands: in its own text, in a comment, or in a script within a comment. A comment ends
at `>` after two dashes, of which `dashes` are already there. -/
inductive ScriptState where
  | bare
  | escaped (dashes : Nat)
  | nested (dashes : Nat)
deriving DecidableEq, Repr

def ScriptState.next (state : ScriptState) (c : Char) (s : List Char) : ScriptState :=
  match state, c with
  | bare, '<' => if (Text.dropPrefix? "!--".toList s).isSome then .escaped 0 else .bare
  | bare, _ => .bare
  | escaped d, '-' => .escaped (d + 1)
  | escaped d, '>' => if 2 ≤ d then .bare else .escaped 0
  | escaped _, '<' => if beginsWithName "script".toList s then .nested 0 else .escaped 0
  | escaped _, _ => .escaped 0
  | nested d, '-' => .nested (d + 1)
  | nested d, '>' => if 2 ≤ d then .bare else .nested 0
  | nested _, '<' => if beginsWithEndTag "script".toList (c :: s) then .escaped 0 else .nested 0
  | nested _, _ => .nested 0

def readScript (name : List Char) : ScriptState → List Char → List Char × List Char
  | _, [] => ([], [])
  | state, c :: s =>
    if beginsWithEndTag name (c :: s) && !(state matches .nested _) then ([], c :: s)
    else
      let (content, rest) := readScript name (state.next c s) s
      (c :: content, rest)

def readEndTag (s : List Char) : List Token × List Char :=
  match s with
  | '<' :: '/' :: s =>
    match readTag? s with
    | some (tag, rest) => ([endTag tag.name], rest)
    | none => ([], [])
  | s => ([], s)

def ofEscapable (content : List Char) : List Token :=
  let whole := text (decodeReferences false (plainText content))
  match content with
  | '&' :: s => if (readReference? false s).all (·.closed) then [whole] else [fault, whole]
  | _ => [whole]

/-- The tokens at the start of a text, and the text after them. The element whose text is read is named
`last`; at the end of the page there is the token `finish`. -/
def next (reading : Reading) (last : String) (foreign : Bool) (s : List Char) : List Token × List Char :=
  match s, reading with
  | [], _ => ([finish], [])
  | '<' :: s, .markup => readMarkup foreign s
  | s, .markup =>
    let (run, rest) := s.span (· != '<')
    (ofText run, rest)
  | s, .escapable =>
    let (content, rest) := readUntilEndTag last.toList s
    if content.isEmpty then readEndTag rest else (ofEscapable content, rest)
  | s, .raw =>
    let (content, rest) := readUntilEndTag last.toList s
    if content.isEmpty then readEndTag rest else ([text (plainText content)], rest)
  | s, .script =>
    let (content, rest) := readScript last.toList .bare s
    if content.isEmpty then readEndTag rest else ([text (plainText content)], rest)
  | s, .plain => ([text (plainText s)], [])

end Token
end WebCitation.Html
