import WebCitation.Text.Blank
import WebCitation.Text.Word

/-! Times of day such as `10:30`, `9:05:07.5 p.m.` or `10:00+02:00`, found in a text and blanked out. -/
namespace WebCitation.TimeOfDay

open Text

def twoDigits? : List Char → Option (List Char)
  | a :: b :: s => if isDecimalDigit a && isDecimalDigit b then some s else none
  | _ => none

def minutes? : List Char → Option (List Char)
  | ':' :: s => twoDigits? s
  | _ => none

def clock? : List Char → Option (List Char)
  | a :: s =>
    if isDecimalDigit a then
      match s with
      | b :: s' => if isDecimalDigit b then minutes? s' else minutes? s
      | [] => none
    else none
  | [] => none

def fraction? : List Char → Option (List Char)
  | '.' :: d :: s => if isDecimalDigit d then some (s.dropWhile isDecimalDigit) else none
  | _ => none

def dropDot : List Char → List Char
  | '.' :: s => s
  | s => s

/-- The text after `am` or `pm` in either case, each letter with a point or without. -/
def halfDay? : List Char → Option (List Char)
  | c :: s =>
    if c.toLower = 'a' ∨ c.toLower = 'p' then
      match dropDot s with
      | m :: s => if m.toLower = 'm' then some (dropDot s) else none
      | [] => none
    else none
  | [] => none

/-- The text after a signed offset of two and two digits, with a colon between them or without. -/
def offset? (s : List Char) : Option (List Char) :=
  match trimStart s with
  | c :: s =>
    if c = '+' ∨ c = '-' then do
      let s ← twoDigits? s
      match s with
      | ':' :: s => twoDigits? s
      | s => twoDigits? s
    else none
  | [] => none

def optional (part? : List Char → Option (List Char)) (s : List Char) : List Char :=
  (part? s).getD s

def rest? (s : List Char) : Option (List Char) := do
  let s ← clock? s
  let s := optional fraction? (optional minutes? s)
  return optional offset? (optional halfDay? (trimStart s))

/-- Replaces each time of day by one space. The first `skip` characters belong to a time that is already
replaced, and `inWord` says that a word character stands before the text; no time begins there. -/
def blankOutFrom (skip : Nat) (inWord : Bool) : List Char → List Char
  | [] => []
  | c :: s =>
    match skip with
    | skip + 1 => blankOutFrom skip (isWordChar c) s
    | 0 =>
      match if inWord then none else rest? (c :: s) with
      | some rest => ' ' :: blankOutFrom (s.length - rest.length) (isWordChar c) s
      | none => c :: blankOutFrom 0 (isWordChar c) s

def blankOut (s : List Char) : List Char := blankOutFrom 0 false s

end WebCitation.TimeOfDay
