/-!
Double precision numbers with exact arithmetic: every operation takes the exact result on natural
numbers and rounds it once, to nearest with ties to even.
-/
namespace WebCitation

/-- A finite number is `± mantissa * 2 ^ exponent`. Rounding keeps the mantissa below `2 ^ 53` and the
exponent from -1074 on, with the smallest exponent that allows. -/
inductive Double where
  | nan
  | infinite (negative : Bool)
  | finite (negative : Bool) (mantissa : Nat) (exponent : Int)
deriving DecidableEq, Repr, Inhabited

namespace Double

def zero (negative : Bool) : Double := .finite negative 0 (-1074)

/-- The quotient to nearest, a tie to the even neighbour. -/
def roundDiv (num den : Nat) : Nat :=
  let q := num / den
  let r := num % den
  if 2 * r < den then q else if den < 2 * r then q + 1 else q + q % 2

/-- The rational `num / den` over `2 ^ e`, as a numerator and a denominator. -/
def scaled (num den : Nat) (e : Int) : Nat × Nat :=
  if 0 ≤ e then (num, den * Nat.pow 2 e.toNat) else (num * Nat.pow 2 (-e).toNat, den)

def ofRatio (negative : Bool) (num den : Nat) : Double :=
  if num = 0 ∨ den = 0 then zero negative
  else
    let guess : Int := (num.log2 : Int) - den.log2 - 53
    let low := max guess (-1074)
    let (a, b) := scaled num den low
    let e := if Nat.pow 2 53 ≤ a / b then low + 1 else low
    let (a, b) := scaled num den e
    let m := roundDiv a b
    let (m, e) := if m = Nat.pow 2 53 then (Nat.pow 2 52, e + 1) else (m, e)
    if 971 < e then .infinite negative else .finite negative m e

def ofBinary (negative : Bool) (m : Nat) (e : Int) : Double :=
  if 0 ≤ e then ofRatio negative (m * Nat.pow 2 e.toNat) 1 else ofRatio negative m (Nat.pow 2 (-e).toNat)

/-- The double nearest to `± n * 10 ^ e`. Powers beyond the range are settled without being built. -/
def ofDecimal (negative : Bool) (n : Nat) (e : Int) : Double :=
  if n = 0 then zero negative
  else
    let top := e + (Nat.toDigits 10 n).length
    if 400 < top then .infinite negative
    else if top < -400 then zero negative
    else if 0 ≤ e then ofRatio negative (n * Nat.pow 10 e.toNat) 1
    else ofRatio negative n (Nat.pow 10 (-e).toNat)

def ofNat (n : Nat) : Double := ofRatio false n 1

def isNaN : Double → Bool
  | nan => true
  | _ => false

def isZero : Double → Bool
  | finite _ m _ => m == 0
  | _ => false

def isNegative : Double → Bool
  | nan => false
  | infinite negative => negative
  | finite negative _ _ => negative

def neg : Double → Double
  | nan => nan
  | infinite negative => infinite !negative
  | finite negative m e => finite (!negative) m e

/-- `± m * 2 ^ e` as a multiple of `2 ^ least`, where `least ≤ e`. -/
def alignedTo (least : Int) (negative : Bool) (m : Nat) (e : Int) : Int :=
  let n : Int := m * Nat.pow 2 (e - least).toNat
  if negative then -n else n

def add : Double → Double → Double
  | nan, _ | _, nan => nan
  | infinite a, infinite b => if a = b then infinite a else nan
  | infinite a, _ => infinite a
  | _, infinite b => infinite b
  | finite s m e, finite t n f =>
    let least := min e f
    let sum := alignedTo least s m e + alignedTo least t n f
    if sum = 0 then zero (s && t) else ofBinary (sum < 0) sum.natAbs least

def sub (x y : Double) : Double := add x y.neg

def mul : Double → Double → Double
  | nan, _ | _, nan => nan
  | infinite s, infinite t => infinite (s != t)
  | infinite s, finite t n _ | finite t n _, infinite s =>
    if n = 0 then nan else infinite (s != t)
  | finite s m e, finite t n f => ofBinary (s != t) (m * n) (e + f)

def div : Double → Double → Double
  | nan, _ | _, nan => nan
  | infinite _, infinite _ => nan
  | infinite s, finite t _ _ => infinite (s != t)
  | finite s _ _, infinite t => zero (s != t)
  | finite s m e, finite t n f =>
    if n = 0 then if m = 0 then nan else infinite (s != t)
    else
      let (a, b) := scaled m n (f - e)
      ofRatio (s != t) a b

/-- The remainder of the quotient cut toward zero; it has the sign of the dividend. -/
def rem : Double → Double → Double
  | nan, _ | _, nan => nan
  | infinite _, _ => nan
  | x, infinite _ => x
  | finite s m e, finite _ n f =>
    if n = 0 then nan
    else
      let least := min e f
      let a := (alignedTo least false m e).natAbs
      let b := (alignedTo least false n f).natAbs
      ofBinary s (a % b) least

def lt : Double → Double → Bool
  | nan, _ | _, nan => false
  | infinite s, infinite t => s && !t
  | infinite s, finite .. => s
  | finite .., infinite t => !t
  | finite s m e, finite t n f =>
    let least := min e f
    alignedTo least s m e < alignedTo least t n f

/-- Numerical equality: the two zeros are equal, and a NaN equals nothing. -/
def eq : Double → Double → Bool
  | nan, _ | _, nan => false
  | infinite s, infinite t => s == t
  | infinite _, finite .. | finite .., infinite _ => false
  | finite s m e, finite t n f =>
    let least := min e f
    alignedTo least s m e == alignedTo least t n f

def le (x y : Double) : Bool := lt x y || eq x y

/-- The whole part of the magnitude and whether anything is cut from it. -/
def wholePart (m : Nat) (e : Int) : Nat × Bool :=
  if 0 ≤ e then (m * Nat.pow 2 e.toNat, false)
  else (m / Nat.pow 2 (-e).toNat, m % Nat.pow 2 (-e).toNat != 0)

def floor : Double → Double
  | finite negative m e =>
    let (n, inexact) := wholePart m e
    ofRatio negative (if negative && inexact then n + 1 else n) 1
  | x => x

def ceiling (x : Double) : Double := x.neg.floor.neg

def truncate? : Double → Option Int
  | finite negative m e =>
    let n := (wholePart m e).1
    some (if negative then -n else n)
  | _ => none

end Double
end WebCitation
