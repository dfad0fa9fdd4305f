import WebCitation.Number.Double
import WebCitation.Text.Ascii
import WebCitation.Text.Blank
import WebCitation.Text.Digit

/-! Numbers read from text, and the number that a text stands for. -/
namespace WebCitation.Double

open Text

def readExponent? : List Char → Option Int
  | [] => some 0
  | c :: s =>
    if c.toLower ≠ 'e' then none
    else
      match s with
      | '-' :: digits => (readNat? digits).map fun n => -(n : Int)
      | '+' :: digits => (readNat? digits).map Int.ofNat
      | digits => (readNat? digits).map Int.ofNat

/-- The double nearest to a decimal numeral without a sign: digits around an optional point, at least one
of them, and an optional exponent. -/
def readNumeral? (negative : Bool) (s : List Char) : Option Double :=
  let (whole, s) := s.span Char.isDigit
  let (fraction, s) :=
    match s with
    | '.' :: s => s.span Char.isDigit
    | s => ([], s)
  if whole.isEmpty && fraction.isEmpty then none
  else
    (readExponent? s).map fun e =>
      ofDecimal negative (digitsValue (whole ++ fraction)) (e - fraction.length)

def readUnsigned? (negative : Bool) (s : List Char) : Option Double :=
  let word := asciiLower s
  if word = "inf".toList || word = "infinity".toList then some (.infinite negative)
  else if word = "nan".toList then some .nan
  else readNumeral? negative s

/-- The number that a text writes, with an optional sign. -/
def read? : List Char → Option Double
  | '-' :: s => readUnsigned? true s
  | '+' :: s => readUnsigned? false s
  | s => readUnsigned? false s

/-- The number that a text stands for; a text that writes none stands for a NaN. -/
def ofText (s : List Char) : Double := (read? (trim s)).getD .nan

end WebCitation.Double
