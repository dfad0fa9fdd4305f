import WebCitation.Error.Config
import WebCitation.Text.Digit

/-! The fields that a template may fill, and the values that each accepts. -/
namespace WebCitation

inductive FieldName where
  | itemType
  | title
  | authorFirst
  | authorLast
  | date
  | publishedIn
  | publishedBy
  | language
  | control
deriving DecidableEq, Repr

namespace FieldName

def text : FieldName → String
  | itemType => "itemType"
  | title => "title"
  | authorFirst => "authorFirst"
  | authorLast => "authorLast"
  | date => "date"
  | publishedIn => "publishedIn"
  | publishedBy => "publishedBy"
  | language => "language"
  | control => "control"

def ofText? : String → Option FieldName
  | "itemType" => some itemType
  | "title" => some title
  | "authorFirst" => some authorFirst
  | "authorLast" => some authorLast
  | "date" => some date
  | "publishedIn" => some publishedIn
  | "publishedBy" => some publishedBy
  | "language" => some language
  | "control" => some control
  | _ => none

def parse (s : String) : Except ConfigError FieldName :=
  match ofText? s with
  | some name => .ok name
  | none => .error (.unknownField s)

def isArray : FieldName → Bool
  | authorFirst | authorLast => true
  | _ => false

def isForceRequired : FieldName → Bool
  | itemType | title => true
  | _ => false

/-- Whether the field decides over a template only and has no part in the citation. -/
def isControl : FieldName → Bool
  | control => true
  | _ => false

def itemTypes : List String :=
  ["artwork", "audioRecording", "bill", "blogPost", "book", "bookSection", "case", "computerProgram",
    "conferencePaper", "dictionaryEntry", "document", "email", "encyclopediaArticle", "film",
    "forumPost", "hearing", "instantMessage", "interview", "journalArticle", "letter",
    "magazineArticle", "manuscript", "map", "newspaperArticle", "patent", "podcast", "preprint",
    "presentation", "radioBroadcast", "report", "statute", "thesis", "tvBroadcast",
    "videoRecording", "webpage"]

def isDatePart : List Char → Bool
  | ['-', a, b] => Text.isDecimalDigit a && Text.isDecimalDigit b
  | _ => false

/-- A year of four digits, with an optional month and day of two digits each. -/
def isDate (s : List Char) : Bool :=
  let rest := s.drop 4
  (s.take 4).length == 4 && (s.take 4).all Text.isDecimalDigit
    && (rest.isEmpty || (isDatePart (rest.take 3) && (rest.length == 3 || isDatePart (rest.drop 3))))

/-- Two or three lower case letters, with an optional hyphen and two to four letters after it. -/
def isLanguage (s : List Char) : Bool :=
  let (code, rest) := s.span Char.isLower
  let region :=
    match rest with
    | [] => true
    | '-' :: letters => 2 ≤ letters.length && letters.length ≤ 4 && letters.all Char.isAlpha
    | _ => false
  2 ≤ code.length && code.length ≤ 3 && region

def accepts (name : FieldName) (value : String) : Bool :=
  match name with
  | itemType => itemTypes.contains value
  | date => isDate value.toList
  | language => isLanguage value.toList
  | control => !value.toList.contains '\n'
  | title | authorFirst | authorLast | publishedIn | publishedBy =>
    value != "" && !value.toList.contains '\n'

end FieldName
end WebCitation
