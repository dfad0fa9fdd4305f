import WebCitation.Text.Split

/-! International labels in ASCII: first the ASCII characters, then where the others go among them. -/
namespace WebCitation.Punycode

/-- How far the threshold of a digit lies above the bias, kept between its bounds. -/
def threshold (k bias : Nat) : Nat := if k ≤ bias then 1 else if bias + 26 ≤ k then 26 else k - bias

/-- Divides a number until it is small, and counts the divisions. -/
def shrink : Nat → Nat → Nat → Nat × Nat
  | 0, delta, k => (delta, k)
  | fuel + 1, delta, k => if 455 < delta then shrink fuel (delta / 35) (k + 36) else (delta, k)

/-- The bias after a number has been written. -/
def adapt (delta count : Nat) (first : Bool) : Nat :=
  let delta := if first then delta / 700 else delta / 2
  let (delta, k) := shrink delta (delta + delta / count) 0
  k + 36 * delta / (delta + 38)

def digitChar (d : Nat) : Char := if d < 26 then Char.ofNat ('a'.toNat + d) else Char.ofNat ('0'.toNat + d - 26)

def digitValue? (c : Char) : Option Nat :=
  if c.isDigit then some (c.toNat - '0'.toNat + 26)
  else if c.isLower then some (c.toNat - 'a'.toNat)
  else if c.isUpper then some (c.toNat - 'A'.toNat)
  else none

/-- A number as digits of growing weight. -/
def writeNumber (bias : Nat) : Nat → Nat → Nat → List Char
  | 0, _, _ => []
  | fuel + 1, k, q =>
    let t := threshold k bias
    if q < t then [digitChar q]
    else digitChar (t + (q - t) % (36 - t)) :: writeNumber bias fuel (k + 36) ((q - t) / (36 - t))

structure Encoder where
  delta : Nat
  bias : Nat
  handled : Nat
  first : Bool

def encodeOne (n : Nat) : Encoder → List Nat → List Char × Encoder
  | e, [] => ([], e)
  | e, c :: cs =>
    if c < n then encodeOne n { e with delta := e.delta + 1 } cs
    else if c = n then
      let digits := writeNumber e.bias (e.delta + 2) 36 e.delta
      let e' : Encoder := ⟨0, adapt e.delta (e.handled + 1) e.first, e.handled + 1, false⟩
      let (more, last) := encodeOne n e' cs
      (digits ++ more, last)
    else encodeOne n e cs

def encodeFrom (label : List Nat) : Nat → Nat → Encoder → List Char
  | 0, _, _ => []
  | fuel + 1, n, e =>
    match (label.filter (n ≤ ·)).min? with
    | none => []
    | some m =>
      let (digits, e) := encodeOne m { e with delta := e.delta + (m - n) * (e.handled + 1) } label
      digits ++ encodeFrom label fuel (m + 1) { e with delta := e.delta + 1 }

def encode (label : List Char) : List Char :=
  let basic := label.filter (·.toNat < 0x80)
  let start := if basic.isEmpty then [] else basic ++ ['-']
  start ++ encodeFrom (label.map Char.toNat) label.length 0x80 ⟨0, 72, basic.length, true⟩

def readNumber? (bias : Nat) : Nat → Nat → Nat → List Char → Option (Nat × List Char)
  | _, _, _, [] => none
  | k, weight, i, c :: s => do
    let d ← digitValue? c
    let t := threshold k bias
    let i := i + d * weight
    if UInt32.size ≤ i then none
    else if d < t then some (i, s)
    else readNumber? bias (k + 36) (weight * (36 - t)) i s

/-- Puts further characters among those of a label, where `n` and `i` are the last character and the place
after it. -/
def decodeFrom (first : Bool) : Nat → Nat → Nat → Nat → List Char → List Char → Option (List Char)
  | 0, _, _, _, _, _ => none
  | _ + 1, _, _, _, label, [] => some label
  | fuel + 1, n, i, bias, label, c :: digits => do
    let (delta, digits) ← readNumber? bias 36 1 0 (c :: digits)
    let count := label.length + 1
    let n := n + (i + delta) / count
    let place := (i + delta) % count
    if 0x10FFFF < n || (0xD800 ≤ n && n ≤ 0xDFFF) then none
    else
      decodeFrom false fuel n (place + 1) (adapt delta count first)
        (label.take place ++ Char.ofNat n :: label.drop place) digits

/-- The label that an ASCII text stands for. A hyphen ends the ASCII characters, of which there is then at
least one. -/
def decode? (s : List Char) : Option (List Char) :=
  let digits := (s.reverse.takeWhile (· != '-')).reverse
  let basic := s.take (s.length - digits.length - 1)
  if (basic.isEmpty && s.contains '-') || !s.all (·.toNat < 0x80) then none
  else decodeFrom true (digits.length + 1) 0x80 0 72 basic digits

end WebCitation.Punycode
