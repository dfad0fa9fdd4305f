import WebCitation.Json.Basic
import WebCitation.Text.Digit

/-!
JSON text. It is read strictly: no text after the value, no unpaired surrogates, no number beyond the
range of doubles, and a bound on the nesting of arrays and objects.
-/
namespace WebCitation.Json

def isSpace (c : Char) : Bool := c == ' ' || c == '\n' || c == '\t' || c == '\r'

def skipSpace (s : List Char) : List Char := s.dropWhile isSpace

def hexValue? (c : Char) : Option Nat :=
  if c.isDigit then some (c.toNat - '0'.toNat)
  else if 'a' ≤ c ∧ c ≤ 'f' then some (c.toNat - 'a'.toNat + 10)
  else if 'A' ≤ c ∧ c ≤ 'F' then some (c.toNat - 'A'.toNat + 10)
  else none

def unit? : List Char → Option (Nat × List Char)
  | a :: b :: c :: d :: s => do
    let a ← hexValue? a
    let b ← hexValue? b
    let c ← hexValue? c
    let d ← hexValue? d
    return (((a * 16 + b) * 16 + c) * 16 + d, s)
  | _ => none

def shortEscape? : Char → Option Char
  | '"' => some '"'
  | '\\' => some '\\'
  | '/' => some '/'
  | 'b' => some '\x08'
  | 'f' => some '\x0C'
  | 'n' => some '\n'
  | 'r' => some '\r'
  | 't' => some '\t'
  | _ => none

/-- The character of an escape by code unit, after its `u`; a surrogate needs its partner. -/
def unitEscape? (s : List Char) : Option (Char × List Char) := do
  let (high, s) ← unit? s
  if 0xD800 ≤ high ∧ high ≤ 0xDBFF then
    match s with
    | '\\' :: 'u' :: s =>
      let (low, s) ← unit? s
      if 0xDC00 ≤ low ∧ low ≤ 0xDFFF then
        return (Char.ofNat (0x10000 + (high - 0xD800) * 0x400 + (low - 0xDC00)), s)
      else none
    | _ => none
  else if 0xDC00 ≤ high ∧ high ≤ 0xDFFF then none
  else return (Char.ofNat high, s)

/-- The characters of a string after its opening quote, gathered backwards, and the text after it. -/
def stringBody? : Nat → List Char → List Char → Option (List Char × List Char)
  | 0, _, _ => none
  | fuel + 1, seen, s =>
    match s with
    | [] => none
    | '"' :: s => some (seen.reverse, s)
    | '\\' :: 'u' :: s =>
      match unitEscape? s with
      | some (c, s) => stringBody? fuel (c :: seen) s
      | none => none
    | '\\' :: e :: s =>
      match shortEscape? e with
      | some c => stringBody? fuel (c :: seen) s
      | none => none
    | c :: s => if c.toNat < 0x20 || c == '\\' then none else stringBody? fuel (c :: seen) s

/-- Appends digits to a number as long as it keeps to 64 bits; gives the number and how many went in. -/
def absorb (n : Nat) : List Char → Nat × Nat
  | [] => (n, 0)
  | c :: cs =>
    let next := 10 * n + Text.digitValue c
    if UInt64.size ≤ next then (n, 0)
    else
      let (m, count) := absorb next cs
      (m, count + 1)

def greatestScale : Int := 308

/-- `± n * 10 ^ e` in two roundings: the number as a double, then scaled by powers of ten of up to
`10 ^ 308` each. Too great a result is none. -/
def scaledDouble? : Nat → Double → Int → Option Double
  | 0, x, _ => some x
  | fuel + 1, x, e =>
    let power (k : Nat) : Double := Double.ofDecimal false 1 k
    if e.natAbs ≤ greatestScale.toNat then
      if 0 ≤ e then
        match x.mul (power e.toNat) with
        | .infinite _ => none
        | y => some y
      else some (x.div (power e.natAbs))
    else if x.isZero then some x
    else if 0 ≤ e then none
    else scaledDouble? fuel (x.div (power 308)) (e + 308)

/-- The parts of a number: sign, digits before the point, and, if they are there, the digits after it
and the exponent with its sign. -/
structure Literal where
  negative : Bool
  whole : List Char
  fraction : Option (List Char)
  exponent : Option (Bool × List Char)

def exponentLimit : Nat := Nat.pow 2 31

/-- The number of a literal. The leading digits that fit into 64 bits count; later ones only move the
point. -/
def Literal.number? (l : Literal) : Option Number := do
  let signed (x : Double) : Double := if l.negative then x.neg else x
  let (n, used) := absorb 0 l.whole
  let overflow := used < l.whole.length
  if !overflow && l.fraction.isNone && l.exponent.isNone then
    if !l.negative then return .whole n
    else if n = 0 || Nat.pow 2 63 < n then return .double (signed (Double.ofNat n))
    else return .whole (-n)
  else
    let (n, moved) := absorb n (l.fraction.getD [])
    let point : Int := (l.whole.length - used : Nat) - (moved : Int)
    let double (e : Int) : Option Number :=
      (scaledDouble? 20 (Double.ofNat n) e).map fun x => .double (signed x)
    match l.exponent with
    | none => double point
    | some (negative, digits) =>
      let e := Text.digitsValue digits
      if exponentLimit ≤ e then
        if n ≠ 0 && !negative then none else return .double (Double.zero l.negative)
      else double (if negative then point - e else point + e)

def digits (s : List Char) : List Char × List Char := s.span Char.isDigit

def number? (s : List Char) : Option (Number × List Char) := do
  let (negative, s) := match s with | '-' :: s => (true, s) | s => (false, s)
  let (whole, s) := digits s
  if whole.isEmpty || (whole.head? = some '0' && whole.length ≠ 1) then none
  let (fraction, s) ← match s with
    | '.' :: s =>
      let (fraction, s) := digits s
      if fraction.isEmpty then none else some (some fraction, s)
    | s => some (none, s)
  let (exponent, s) ← match s with
    | e :: s' =>
      if e = 'e' || e = 'E' then
        let (down, s') := match s' with
          | '+' :: s' => (false, s')
          | '-' :: s' => (true, s')
          | s' => (false, s')
        let (exponent, s') := digits s'
        if exponent.isEmpty then none else some (some (down, exponent), s')
      else some (none, s)
    | [] => some (none, [])
  return (← Literal.number? ⟨negative, whole, fraction, exponent⟩, s)

mutual

/-- A value and the text after it; `depth` is how many more levels of nesting are allowed. -/
def value? : Nat → Nat → List Char → Option (Json × List Char)
  | 0, _, _ => none
  | fuel + 1, depth, s =>
    match skipSpace s with
    | 'n' :: 'u' :: 'l' :: 'l' :: s => some (.null, s)
    | 't' :: 'r' :: 'u' :: 'e' :: s => some (.bool true, s)
    | 'f' :: 'a' :: 'l' :: 's' :: 'e' :: s => some (.bool false, s)
    | '"' :: s => (stringBody? (s.length + 1) [] s).map fun (t, s) => (.string (String.ofList t), s)
    | '[' :: s =>
      if depth ≤ 1 then none
      else
        match skipSpace s with
        | ']' :: s => some (.array [], s)
        | s => itemsFrom? fuel (depth - 1) [] s
    | '\x7b' :: s =>
      if depth ≤ 1 then none
      else
        match skipSpace s with
        | '\x7d' :: s => some (.object [], s)
        | s => fieldsFrom? fuel (depth - 1) [] s
    | s => (number? s).map fun (n, s) => (.number n, s)

/-- The items of an array, of which those in `seen` are read, last first. -/
def itemsFrom? : Nat → Nat → List Json → List Char → Option (Json × List Char)
  | 0, _, _, _ => none
  | fuel + 1, depth, seen, s =>
    match value? fuel depth s with
    | none => none
    | some (item, s) =>
      match skipSpace s with
      | ',' :: s => itemsFrom? fuel depth (item :: seen) s
      | ']' :: s => some (.array (item :: seen).reverse, s)
      | _ => none

def fieldsFrom? : Nat → Nat → List (String × Json) → List Char → Option (Json × List Char)
  | 0, _, _, _ => none
  | fuel + 1, depth, seen, s =>
    match skipSpace s with
    | '"' :: s =>
      match stringBody? (s.length + 1) [] s with
      | none => none
      | some (key, s) =>
        match skipSpace s with
        | ':' :: s =>
          match value? fuel depth s with
          | none => none
          | some (value, s) =>
            let seen := insertField (String.ofList key) value seen
            match skipSpace s with
            | ',' :: s => fieldsFrom? fuel depth seen s
            | '\x7d' :: s => some (.object seen, s)
            | _ => none
        | _ => none
    | _ => none

end

/-- How deep arrays and objects may nest, the outermost being one level. -/
def depthLimit : Nat := 128

/-- The value that a text writes, if it writes one and nothing else. -/
def parseWithin? (depth : Nat) (s : List Char) : Option Json := do
  let (value, rest) ← value? (s.length + 2) depth s
  if (skipSpace rest).isEmpty then return value else none

def parse? (s : String) : Option Json := parseWithin? depthLimit s.toList

end WebCitation.Json
