import WebCitation.Html.Token

/-! The encoding that a page names for itself. -/
namespace WebCitation.Html

/-- Whether a text goes on with `=` and a name: one in quotation marks has to end, one without has to begin. -/
def namesValue (s : List Char) : Bool :=
  match s.dropWhile Token.isSpace with
  | '=' :: s =>
    match s.dropWhile Token.isSpace with
    | [] => false
    | c :: rest => if c = '"' || c = '\'' then rest.contains c else true
  | _ => false

/-- Whether a description of the content names an encoding, by the first `charset` that `=` follows. -/
def namesCharset : List Char → Bool
  | [] => false
  | c :: s =>
    match Text.dropWord? "charset".toList (c :: s) with
    | none => namesCharset s
    | some rest =>
      if (rest.dropWhile Token.isSpace).head? == some '=' then namesValue rest else namesCharset s

def Tag.namesEncoding (t : Tag) : Bool :=
  t.name == "meta" &&
    ((t.attribute? "charset").isSome
      || ((t.attribute? "http-equiv").any fun v => v.asciiLower == "content-type")
        && (t.attribute? "content").any fun v => namesCharset v.toList)

end WebCitation.Html
