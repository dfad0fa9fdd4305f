import WebCitation.Number.Reading
import WebCitation.Text.Split
import WebCitation.XPath.Axis
import WebCitation.XPath.Name

/-!
The tokens of an expression. Abbreviated steps are written out: `@` is the attribute axis, `.` and `..` are
steps to the node itself and to its parent, and `//` holds a step to all descendants between two slashes.
-/
namespace WebCitation.XPath

inductive Operator where
  | or
  | and
  | equal
  | notEqual
  | less
  | lessEqual
  | greater
  | greaterEqual
  | plus
  | minus
  | times
  | divide
  | remainder
  | union
deriving DecidableEq, Repr

inductive Token where
  | axis (axis : Axis)
  | test (test : NodeTest)
  | call (name : String)
  | number (value : Double)
  | literal (text : String)
  | reference (name : String)
  | operator (operator : Operator)
  | slash
  | comma
  | openParen
  | closeParen
  | openBracket
  | closeBracket
deriving DecidableEq, Repr

namespace Token

/-- Whether a name that begins like an operator is one after this token: where an operand ends, and after a
comma. -/
def precedesOperator : Token → Bool
  | test _ | number _ | literal _ | reference _ | closeParen | closeBracket | comma => true
  | _ => false

def wordOperators : List (List Char × Operator) :=
  [(['a', 'n', 'd'], .and), (['o', 'r'], .or), (['m', 'o', 'd'], .remainder),
    (['d', 'i', 'v'], .divide), (['*'], .times)]

/-- An operator at the start of a text; what follows it may be glued to it. -/
def readWordOperator? (s : List Char) : Option (Token × List Char) :=
  wordOperators.findSome? fun (word, o) => (Text.dropPrefix? word s).map fun rest => (operator o, rest)

def readLiteral? (mark : Char) (s : List Char) : Option (String × List Char) :=
  match s.span (· != mark) with
  | (text, _ :: rest) => some (String.ofList text, rest)
  | (_, []) => none

/-- Digits with an optional point among or after them, or a point with digits after it. -/
def readNumber? (s : List Char) : Option (Token × List Char) :=
  let (whole, rest) := s.span Char.isDigit
  let (fraction, rest) :=
    match rest with
    | '.' :: after =>
      let (fraction, after) := after.span Char.isDigit
      if whole.isEmpty && fraction.isEmpty then ([], rest) else (fraction, after)
    | _ => ([], rest)
  if whole.isEmpty && fraction.isEmpty then none
  else some (number (Double.ofDecimal false (Text.digitsValue (whole ++ fraction)) (-fraction.length)), rest)

def readTarget? : List Char → Option (Option String × List Char)
  | ')' :: s => some (none, s)
  | c :: s =>
    if c = '"' || c = '\'' then
      match readLiteral? c s with
      | some (target, ')' :: s) => some (some target, s)
      | _ => none
    else none
  | [] => none

def readKindTest? (name : String) (s : List Char) : Option (Token × List Char) :=
  match name, s with
  | "comment", '(' :: ')' :: s => some (test .comment, s)
  | "text", '(' :: ')' :: s => some (test .text, s)
  | "node", '(' :: ')' :: s => some (test .any, s)
  | "processing-instruction", '(' :: s =>
    (readTarget? s).map fun (target, s) => (test (.instruction target), s)
  | _, _ => none

/-- A name that an opening parenthesis follows is a call, and any other a test. -/
def nameToken (qualifier : Option String) (stem : String) (s : List Char) : Token :=
  match s, qualifier with
  | '(' :: _, none => call stem
  | '(' :: _, some q => call (q ++ ":" ++ stem)
  | _, none => test (.name stem)
  | _, some q => test (.qualified q stem)

def readNamed? (s : List Char) : Option (Token × List Char) := do
  let (name, s) ← readName? s
  match s with
  | ':' :: ':' :: s => (Axis.ofName? name).map fun a => (axis a, s)
  | ':' :: '*' :: s => some (test (.qualified name "*"), s)
  | ':' :: s =>
    let (stem, s) ← readName? s
    some (nameToken (some name) stem s, s)
  | s => (readKindTest? name s).or (some (nameToken none name s, s))

def readReference? (s : List Char) : Option (Token × List Char) := do
  let (name, s) ← readName? s
  match s with
  | ':' :: rest =>
    let (stem, s) ← readName? rest
    some (reference (name ++ ":" ++ stem), s)
  | s => some (reference name, s)

/-- The token at the start of a text that is no punctuation; `operators` says that operators come before
names here. -/
def readWord? (operators : Bool) (s : List Char) : Option (Token × List Char) :=
  match (if operators then readWordOperator? s else none) with
  | some t => some t
  | none =>
    match s with
    | '*' :: s => some (test .wildcard, s)
    | s => readNamed? s

/-- The tokens at the start of a text: one, or those of an abbreviation. -/
def read? (operators : Bool) : List Char → Option (List Token × List Char)
  | '<' :: '=' :: s => some ([operator .lessEqual], s)
  | '>' :: '=' :: s => some ([operator .greaterEqual], s)
  | '!' :: '=' :: s => some ([operator .notEqual], s)
  | '/' :: '/' :: s => some ([slash, axis .descendantOrSelf, test .any, slash], s)
  | '.' :: '.' :: s => some ([axis .parent, test .any], s)
  | '/' :: s => some ([slash], s)
  | '=' :: s => some ([operator .equal], s)
  | '<' :: s => some ([operator .less], s)
  | '>' :: s => some ([operator .greater], s)
  | '(' :: s => some ([openParen], s)
  | ')' :: s => some ([closeParen], s)
  | '[' :: s => some ([openBracket], s)
  | ']' :: s => some ([closeBracket], s)
  | '@' :: s => some ([axis .attributes], s)
  | ',' :: s => some ([comma], s)
  | '+' :: s => some ([operator .plus], s)
  | '-' :: s => some ([operator .minus], s)
  | '|' :: s => some ([operator .union], s)
  | '"' :: s => (readLiteral? '"' s).map fun (t, s) => ([literal t], s)
  | '\'' :: s => (readLiteral? '\'' s).map fun (t, s) => ([literal t], s)
  | '$' :: s => (readReference? s).map fun (t, s) => ([t], s)
  | s =>
    match readNumber? s, s with
    | some (t, s), _ => some ([t], s)
    | none, '.' :: s => some ([axis .self, test .any], s)
    | none, s => (readWord? operators s).map fun (t, s) => ([t], s)

def tokensFrom : Nat → Bool → List Char → Option (List Token)
  | 0, _, s => if s.isEmpty then some [] else none
  | fuel + 1, operators, s =>
    match s.dropWhile isSpace with
    | [] => some []
    | s => do
      let (tokens, rest) ← read? operators s
      let more ← tokensFrom fuel ((tokens.getLast?.map precedesOperator).getD false) rest
      return tokens ++ more

def ofText? (s : List Char) : Option (List Token) := tokensFrom (s.length + 1) false s

end Token
end WebCitation.XPath
