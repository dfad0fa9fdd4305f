import WebCitation.Error.Config
import WebCitation.Text.Blank
import WebCitation.Text.Digit
import WebCitation.Text.Split

/-!
Ranges of positions: `2` is one position, `1:` runs to the end, `:3` from the start, `1:3` includes both
ends. A list of ranges has commas between them.
-/
namespace WebCitation

inductive RangeEnd where
  | single
  | last
  | index (n : Nat)
deriving DecidableEq, Repr

structure Range where
  first : Nat
  last : RangeEnd
deriving DecidableEq, Repr

namespace Range

open Text

def indexLimit : Nat := UInt64.size

/-- The position that digits write. Those of other scripts have no value here. -/
def index (digits : List Char) : Except RangeError Nat :=
  match readNat? digits with
  | some n => if n < indexLimit then .ok n else .error (.outOfRange (String.ofList digits))
  | none => .error (.outOfRange (String.ofList digits))

/-- The digits that a text begins with and what comes after them, without the white space around the digits. -/
def digitsAhead (s : List Char) : List Char × List Char :=
  let (digits, rest) := (trimStart s).span isDecimalDigit
  (digits, trimStart rest)

def parts? (s : List Char) : Option (List Char × Option (List Char)) :=
  match digitsAhead s with
  | (first, []) => some (first, none)
  | (first, ':' :: s) =>
    match digitsAhead s with
    | (second, []) => some (first, some second)
    | _ => none
  | _ => none

/-- What the position that digits write stands for, or what stands for none if there are no digits. -/
def optionalIndex (absent : α) (present : Nat → α) (digits : List Char) : Except RangeError α :=
  if digits.isEmpty then .ok absent else (index digits).map present

def parseItem (s : List Char) : Except RangeError Range :=
  match parts? s with
  | none => .error (.malformed (String.ofList (trim s)))
  | some (digits, none) => if digits.isEmpty then .error .empty else (index digits).map (⟨·, .single⟩)
  | some (first, some last) => do return ⟨← optionalIndex 0 id first, ← optionalIndex .last .index last⟩

def parseList (config : String) : Except RangeError (List Range) :=
  if (trim config.toList).isEmpty then .error .noRange
  else (splitWhere (· == ',') config.toList).mapM parseItem

/-- The last position that the range asks for in a list, given the last one that the list has. -/
def lastAsked (r : Range) (last : Nat) : Nat :=
  match r.last with
  | .single => r.first
  | .last => last
  | .index n => n

/-- Where the slice that the range takes of a list of the given length starts and where it stops. A range that has
no position in the list takes the empty slice at its beginning. -/
def slice (r : Range) : Nat → Nat × Nat
  | 0 => (0, 0)
  | last + 1 =>
    -- cut off at the end before the step past it, so that this sum never exceeds a length
    let reached := min (r.lastAsked last) last
    if r.first ≤ reached then (r.first, reached + 1) else (0, 0)

/-- The items at the positions of the range; positions past the end have none. -/
def select (r : Range) (items : List α) : List α :=
  let (start, stop) := r.slice items.length
  (items.take stop).drop start

end Range
end WebCitation
