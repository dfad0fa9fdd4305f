import WebCitation.Date.Calendar
import WebCitation.Text.Blank
import WebCitation.Text.Digit

/-! Single days, as the day on which a page was read. -/
namespace WebCitation

structure Day where
  year : Int
  month : Nat
  day : Nat
  valid : Calendar.isDay year month day = true
deriving DecidableEq, Repr

namespace Day

open Text

def yearBound : Nat := 262143

def readPart? (width : Nat) (s : List Char) : Option (Nat × List Char) :=
  let s := trimStart s
  let digits := (s.take width).takeWhile Char.isDigit
  if digits.isEmpty then none else some (digitsValue digits, s.drop digits.length)

/-- A year, of up to four digits unless it has a sign, and the text after it. -/
def readYear? (s : List Char) : Option (Int × List Char) :=
  let signed (s : List Char) : Option (Nat × List Char) :=
    let (digits, rest) := s.span Char.isDigit
    if digits.isEmpty then none else some (digitsValue digits, rest)
  match trimStart s with
  | '-' :: s => (signed s).map fun (n, s) => (-(n : Int), s)
  | '+' :: s => (signed s).map fun (n, s) => ((n : Int), s)
  | s => (readPart? 4 s).map fun (n, s) => ((n : Int), s)

def readHyphen? (s : List Char) : Option (List Char) :=
  match trimStart s with
  | '-' :: s => some s
  | _ => none

def parse? (text : String) : Option Day := do
  let (year, s) ← readYear? text.toList
  let (month, s) ← readPart? 2 (← readHyphen? s)
  let (day, s) ← readPart? 2 (← readHyphen? s)
  if !(trimStart s).isEmpty || yearBound < year.natAbs then none
  else if h : Calendar.isDay year month day = true then some ⟨year, month, day, h⟩
  else none

/-- Four digits; a year of another width has a sign. -/
def yearText (year : Int) : List Char :=
  if 0 ≤ year ∧ year ≤ 9999 then Calendar.padded 4 year.toNat
  else (if year < 0 then '-' else '+') :: Calendar.padded 4 year.natAbs

def text (d : Day) : String :=
  String.ofList
    (yearText d.year ++ '-' :: Calendar.padded 2 d.month ++ '-' :: Calendar.padded 2 d.day)

end Day
end WebCitation
