import WebCitation.Date.Calendar
import WebCitation.Date.Locale
import WebCitation.Date.TimeOfDay
import WebCitation.Text.Lowercase
import WebCitation.Text.Split

/-!
Dates in free text. A text of the form `yyyy-mm-dd` or `yyyy-mm`, with or without a time after it, is read
as it stands. Any other text is cut into words and numbers, all of which must have a place in a date.
-/
namespace WebCitation.DateReader

open Text

/-- The parts of a text of the ISO form, as written; a day is optional. -/
structure IsoParts where
  year : List Char
  month : List Char
  day : Option (List Char)

/-- Between one and two digits of any script, and the text after them. -/
def oneOrTwoDigits? (s : List Char) : Option (List Char × List Char) :=
  let (digits, s) := s.span isDecimalDigit
  if 1 ≤ digits.length ∧ digits.length ≤ 2 then some (digits, s) else none

/-- Whether the text is empty or a time that a `T` or a space sets off, on the same line. -/
def isIsoTail : List Char → Bool
  | [] => true
  | c :: s => (c == 'T' || c == ' ') && !s.contains '\n'

def isoParts? (s : List Char) : Option IsoParts := do
  let (year, s) := s.span isDecimalDigit
  if year.length ≠ 4 then none
  match s with
  | '-' :: s =>
    let (month, s) ← oneOrTwoDigits? s
    match s with
    | '-' :: s =>
      let (day, s) ← oneOrTwoDigits? s
      if isIsoTail s then return ⟨year, month, some day⟩ else none
    | s => if isIsoTail s then return ⟨year, month, none⟩ else none
  | _ => none

/-- The date of a text of the ISO form. A day in digits that are not ASCII is passed over. -/
def ofIsoParts (p : IsoParts) : Option PartialDate := do
  let year ← readNat? p.year
  let month ← readNat? p.month
  PartialDate.ofParts? year (some month) (p.day.bind readNat?)

/-- A number in a text, and how many digits it was written with. -/
structure Numeral where
  value : Nat
  width : Nat
deriving DecidableEq, Repr

def Numeral.isYear (n : Numeral) : Bool := n.width == 4

def Numeral.isShort (n : Numeral) : Bool := n.width ≤ 2

/-- What a word of a text contributes to its date. -/
inductive Token where
  | numeral (n : Numeral)
  | month (m : Nat)
  | filler
deriving DecidableEq, Repr

def ordinalSuffixes : List String := ["st", "nd", "rd", "th", "er", "e", "o", "a", "º", "ª"]

def isOrdinalSuffix (s : List Char) : Bool := s.isEmpty || ordinalSuffixes.any (·.toList == s)

/-- Numbers have up to four digits and may be ordinals; any other word must be known to the locale. -/
def token? (locale : Locale) (word : List Char) : Option Token :=
  let (digits, suffix) := word.span Char.isDigit
  if !digits.isEmpty then
    if isOrdinalSuffix suffix && digits.length ≤ 4 then
      some (.numeral ⟨digitsValue digits, digits.length⟩)
    else none
  else
    match locale.month? word with
    | some m => some (.month m)
    | none => if locale.isFiller word then some .filler else none

def Token.numeral? : Token → Option Numeral
  | .numeral n => some n
  | _ => none

def Token.month? : Token → Option Nat
  | .month m => some m
  | _ => none

/-- The words of a text, in lower case and without its times of day. -/
def wordsOf (s : List Char) : List (List Char) :=
  (splitWhere (!isAlphanumeric ·) (lower (TimeOfDay.blankOut s))).filter (!·.isEmpty)

/-- The date of a named month: the first year found, and at most one short number for the day. -/
def ofNamedMonth (month : Nat) (numerals : List Numeral) : Option PartialDate :=
  match numerals.find? (·.isYear), numerals.filter (!·.isYear) with
  | some year, [] => PartialDate.ofParts? year.value (some month) none
  | some year, [day] =>
    if day.isShort then PartialDate.ofParts? year.value (some month) (some day.value) else none
  | _, _ => none

/-- The month and the day of two numbers before a year. A first number that can be no month in its place
is the day. -/
def monthAndDay (locale : Locale) (a b : Nat) : Nat × Nat :=
  let (month, day) := if locale.monthFirst then (a, b) else (b, a)
  if 12 < month ∧ day ≤ 12 then (day, month) else (month, day)

/-- The date of numbers alone: a year, a year and a month in either order, or all three with the year at
one end. -/
def ofNumerals (locale : Locale) : List Numeral → Option PartialDate
  | [year] => if year.isYear then PartialDate.ofParts? year.value none none else none
  | [a, b] =>
    if a.isYear && b.isShort then PartialDate.ofParts? a.value (some b.value) none
    else if b.isYear && a.isShort then PartialDate.ofParts? b.value (some a.value) none
    else none
  | [a, b, c] =>
    if a.isYear && b.isShort && c.isShort then
      PartialDate.ofParts? a.value (some b.value) (some c.value)
    else if c.isYear && a.isShort && b.isShort then
      let (month, day) := monthAndDay locale a.value b.value
      PartialDate.ofParts? c.value (some month) (some day)
    else none
  | _ => none

/-- The date of words and numbers, of which at most one names a month. -/
def ofTokens (locale : Locale) (tokens : List Token) : Option PartialDate :=
  let numerals := tokens.filterMap Token.numeral?
  match tokens.filterMap Token.month? with
  | [] => ofNumerals locale numerals
  | [month] => ofNamedMonth month numerals
  | _ => none

def read? (locale : Locale) (s : List Char) : Option PartialDate :=
  let s := trim s
  match isoParts? s with
  | some parts => ofIsoParts parts
  | none => ((wordsOf s).mapM (token? locale)).bind (ofTokens locale)

def parse? (locale : Locale) (text : String) : Option String :=
  (read? locale text.toList).map fun date => String.ofList date.text

end WebCitation.DateReader
