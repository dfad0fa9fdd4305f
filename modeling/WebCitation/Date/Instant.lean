import WebCitation.Date.Day

/-! Points in time, as a wiki writes them. -/
namespace WebCitation

namespace Calendar

/-- The days from March 1 of the year zero to a day. -/
def dayNumber (year : Int) (month day : Nat) : Int :=
  let year := if month ≤ 2 then year - 1 else year
  let month : Int := if month ≤ 2 then month + 9 else month - 3
  365 * year + Int.fdiv year 4 - Int.fdiv year 100 + Int.fdiv year 400
    + Int.fdiv (153 * month + 2) 5 + day - 1

/-- The year, month and day with a number of days since March 1 of the year zero. -/
def dayOfNumber (n : Int) : Int × Nat × Nat :=
  let era := Int.fdiv n 146097
  let inEra := Int.fmod n 146097
  let year := (inEra - inEra / 1460 + inEra / 36524 - inEra / 146096) / 365
  let inYear := inEra - (365 * year + year / 4 - year / 100)
  let month := (5 * inYear + 2) / 153
  let day := (inYear - (153 * month + 2) / 5 + 1).toNat
  let year := year + 400 * era
  if month < 10 then (year, (month + 3).toNat, day) else (year + 1, (month - 9).toNat, day)

end Calendar

/-- Seconds and nanoseconds since March 1 of the year zero. A leap second has more than a second's
nanoseconds. -/
structure Instant where
  seconds : Int
  nanoseconds : Nat
deriving DecidableEq, Repr

namespace Instant

open Text

def readTwo? (bound : Nat) : List Char → Option (Nat × List Char)
  | a :: b :: s =>
    match readNat? [a, b] with
    | some n => if n < bound then some (n, s) else none
    | none => none
  | _ => none

def readColon? : List Char → Option (List Char)
  | ':' :: s => some s
  | _ => none

/-- The nanoseconds of an optional fraction of a second; digits past the ninth do not count. -/
def readFraction? : List Char → Option (Nat × List Char)
  | '.' :: s =>
    let digits := s.takeWhile Char.isDigit
    if digits.isEmpty then none
    else
      let nine := digits.take 9
      some (digitsValue nine * Nat.pow 10 (9 - nine.length), s.drop digits.length)
  | s => some (0, s)

def readOffset? (s : List Char) : Option (Int × List Char) :=
  let signed (sign : Int) (s : List Char) : Option (Int × List Char) := do
    let (hours, s) ← readTwo? 24 s
    let s := s.dropWhile fun c => c == ':' || isBlank c
    let (minutes, s) ← readTwo? 60 s
    return (sign * (3600 * hours + 60 * minutes), s)
  match s with
  | 'Z' :: s | 'z' :: s => some (0, s)
  | '+' :: s => signed 1 s
  | '-' :: s => signed (-1) s
  | _ => none

/-- The time after a day: after a `T` of either case, or after white space. -/
def dropTimeMark : List Char → List Char
  | 'T' :: s | 't' :: s => trimStart s
  | s => trimStart s

def parse? (text : String) : Option Instant := do
  let (year, s) ← Day.readYear? text.toList
  let (month, s) ← Day.readPart? 2 (← Day.readHyphen? s)
  let (day, s) ← Day.readPart? 2 (← Day.readHyphen? s)
  let (hour, s) ← readTwo? 24 (dropTimeMark s)
  let (minute, s) ← readTwo? 60 (← readColon? s)
  let (second, s) ← readTwo? 61 (← readColon? s)
  let (fraction, s) ← readFraction? s
  let (offset, s) ← readOffset? (trimStart s)
  if !(trimStart s).isEmpty || !Calendar.isDay year month day then none
  else
    let whole := 86400 * Calendar.dayNumber year month day + 3600 * hour + 60 * minute + min second 59
    some ⟨whole - offset, if second = 60 then fraction + 1000000000 else fraction⟩

/-- A fraction of a second with no, three, six or nine digits. -/
def fractionText (nanoseconds : Nat) : List Char :=
  if nanoseconds = 0 then []
  else if nanoseconds % 1000000 = 0 then '.' :: Calendar.padded 3 (nanoseconds / 1000000)
  else if nanoseconds % 1000 = 0 then '.' :: Calendar.padded 6 (nanoseconds / 1000)
  else '.' :: Calendar.padded 9 nanoseconds

def text (i : Instant) : String :=
  let (year, month, day) := Calendar.dayOfNumber (Int.fdiv i.seconds 86400)
  let time := (Int.fmod i.seconds 86400).toNat
  let (second, fraction) :=
    if i.nanoseconds < 1000000000 then (time % 60, i.nanoseconds)
    else (time % 60 + 1, i.nanoseconds - 1000000000)
  String.ofList
    (Day.yearText year ++ '-' :: Calendar.padded 2 month ++ '-' :: Calendar.padded 2 day
      ++ 'T' :: Calendar.padded 2 (time / 3600) ++ ':' :: Calendar.padded 2 (time / 60 % 60)
      ++ ':' :: Calendar.padded 2 second ++ fractionText fraction ++ ['Z'])

end Instant
end WebCitation
