import WebCitation.Html.ReferenceTable
import WebCitation.Text.Digit
import WebCitation.Text.Split

/-! Character references and the characters that they stand for. -/
namespace WebCitation.Html

/-- What numbers in the range of the second control characters stand for, from 0x80 on; those without an
entry of their own stand for themselves. -/
def legacyControls : List Nat :=
  [0x20AC, 0x81, 0x201A, 0x192, 0x201E, 0x2026, 0x2020, 0x2021, 0x2C6, 0x2030, 0x160, 0x2039, 0x152,
    0x8D, 0x17D, 0x8F, 0x90, 0x2018, 0x2019, 0x201C, 0x201D, 0x2022, 0x2013, 0x2014, 0x2DC, 0x2122,
    0x161, 0x203A, 0x153, 0x9D, 0x17E, 0x178]

def replacement : Char := '\uFFFD'

def numberedCharacter (n : Nat) : Char :=
  if n = 0 ∨ 0x10FFFF < n ∨ (0xD800 ≤ n ∧ n ≤ 0xDFFF) then replacement
  else if 0x80 ≤ n ∧ n ≤ 0x9F then Char.ofNat (legacyControls.getD (n - 0x80) n)
  else Char.ofNat n

def dropSemicolon : List Char → List Char
  | ';' :: s => s
  | s => s

/-- A reference: the characters that it stands for, whether a semicolon closes it, how many characters after it
had to be looked at to tell where it ends, and the text after it. -/
structure Reference where
  characters : List Char
  closed : Bool
  lookahead : Nat
  rest : List Char
deriving DecidableEq, Repr

/-- A reference by number, where `rest` follows the digits. -/
def Reference.ofNumber (n : Nat) (rest : List Char) : Reference :=
  ⟨[numberedCharacter n], rest.head? == some ';', 0, dropSemicolon rest⟩

def readNumbered? (s : List Char) : Option Reference :=
  match s with
  | 'x' :: s | 'X' :: s =>
    let (digits, rest) := s.span Text.isHexDigit
    if digits.isEmpty then none else some (.ofNumber (Text.hexValue digits) rest)
  | s =>
    let (digits, rest) := s.span Char.isDigit
    if digits.isEmpty then none else some (.ofNumber (Text.digitsValue digits) rest)

/-- The longest name that begins a text, with what it stands for and the text after it. -/
def readName? (s : List Char) : Option (List Char × List Char × List Char) :=
  references.foldl (fun best (name, characters) =>
    match Text.dropPrefix? name s with
    | none => best
    | some (';' :: rest) => some (name ++ [';'], characters, rest)
    | some rest =>
      let longer := (best.map fun (b, _, _) => b.length).getD 0 < name.length
      if longer && bareReferences.contains name then some (name, characters, rest) else best) none

/-- How many characters two texts share at their starts. -/
def sharedLength : List Char → List Char → Nat
  | a :: s, b :: t => if a = b then sharedLength s t + 1 else 0
  | _, _ => 0

/-- How many characters of a text are looked at to find the longest name that begins it: those with which some
name begins, and the one after them. -/
def nameReach (s : List Char) : Nat :=
  min s.length (references.foldl (fun n (name, _) => max n (sharedLength (name ++ [';']) s)) 0 + 1)

/-- Whether a name without a semicolon is left alone in an attribute, by the character after it. -/
def continuesName : List Char → Bool
  | c :: _ => c == '=' || c.isAlphanum
  | [] => false

def readReference? (inAttribute : Bool) (s : List Char) : Option Reference :=
  match s with
  | '#' :: s => readNumbered? s
  | s =>
    match readName? s with
    | none => none
    | some (name, characters, rest) =>
      let closed := name.getLast? == some ';'
      if inAttribute && !closed && continuesName rest then none
      else some ⟨characters, closed, nameReach s - name.length, rest⟩

/-- How many characters after a `&` that begins no reference had to be looked at to tell so: the sign of a
number, or a name and the character after it. -/
def plainLookahead : List Char → Nat
  | '#' :: 'x' :: _ | '#' :: 'X' :: _ => 2
  | '#' :: _ => 1
  | s =>
    match s.takeWhile Char.isAlphanum with
    | [] => 0
    | name => min s.length (name.length + 1)

def decodeFrom (inAttribute : Bool) : Nat → List Char → List Char
  | 0, s => s
  | _ + 1, [] => []
  | fuel + 1, c :: s =>
    match (if c = '&' then readReference? inAttribute s else none) with
    | some r => r.characters ++ decodeFrom inAttribute fuel r.rest
    | none => c :: decodeFrom inAttribute fuel s

def decodeReferences (inAttribute : Bool) (s : List Char) : List Char :=
  decodeFrom inAttribute s.length s

end WebCitation.Html
