/-! Dates of the proleptic Gregorian calendar, to the day, the month or the year. -/
namespace WebCitation

namespace Calendar

def isLeap (year : Int) : Bool := year % 4 == 0 && (year % 100 != 0 || year % 400 == 0)

/-- The days of a month from 1 to 12; no other month has any. -/
def daysIn (year : Int) (month : Nat) : Nat :=
  match month with
  | 1 | 3 | 5 | 7 | 8 | 10 | 12 => 31
  | 4 | 6 | 9 | 11 => 30
  | 2 => if isLeap year then 29 else 28
  | _ => 0

def isDay (year : Int) (month day : Nat) : Bool := 1 ≤ day && day ≤ daysIn year month

def isMonth (month : Nat) : Bool := 1 ≤ month && month ≤ 12

def padded (width n : Nat) : List Char :=
  let digits := Nat.toDigits 10 n
  List.replicate (width - digits.length) '0' ++ digits

end Calendar

/-- A date with as much precision as its source gave. -/
inductive PartialDate where
  | year (year : Nat)
  | month (year month : Nat)
  | day (year month day : Nat)
deriving DecidableEq, Repr

namespace PartialDate

def Valid : PartialDate → Prop
  | year _ => True
  | month _ m => Calendar.isMonth m = true
  | day y m d => Calendar.isDay y m d = true

/-- The date of the given parts, if the calendar has it. A day without a month is passed over. -/
def ofParts? (year : Nat) : Option Nat → Option Nat → Option PartialDate
  | some m, some d => if Calendar.isDay year m d then some (.day year m d) else none
  | some m, none => if Calendar.isMonth m then some (.month year m) else none
  | none, _ => some (.year year)

/-- `yyyy`, `yyyy-mm` or `yyyy-mm-dd`. -/
def text : PartialDate → List Char
  | year y => Calendar.padded 4 y
  | month y m => Calendar.padded 4 y ++ '-' :: Calendar.padded 2 m
  | day y m d => Calendar.padded 4 y ++ '-' :: Calendar.padded 2 m ++ '-' :: Calendar.padded 2 d

end PartialDate
end WebCitation
