import WebCitation.Number.Double

/-! The fewest decimal digits that read back as the same double, and how they are written out. -/
namespace WebCitation.Double

/-- A positive decimal number `digits * 10 ^ power`. -/
structure Digits where
  digits : Nat
  power : Int
deriving DecidableEq, Repr

def digitCount (n : Nat) : Nat := (Nat.toDigits 10 n).length

/-- The power `k` with `10 ^ k ≤ num / den < 10 ^ (k + 1)`, tried downward from `-(bound - fuel)`. -/
def powerBelowOne (num den : Nat) : Nat → Nat → Nat
  | 0, k => k
  | fuel + 1, k => if den ≤ num * Nat.pow 10 k then k else powerBelowOne num den fuel (k + 1)

/-- The power of ten of the leading digit of `num / den`. -/
def leadingPower (num den : Nat) : Int :=
  if den ≤ num then (digitCount (num / den) : Int) - 1
  else -(powerBelowOne num den 400 1 : Int)

/-- `num / den` over `10 ^ k`, as a numerator and a denominator. -/
def scaledDecimal (num den : Nat) (k : Int) : Nat × Nat :=
  if 0 ≤ k then (num, den * Nat.pow 10 k.toNat) else (num * Nat.pow 10 (-k).toNat, den)

/-- The interval of numbers that round to `mantissa * 2 ^ exponent`, in quarters of its unit, with its
ends if `closed`. -/
structure Neighbourhood where
  low : Nat
  middle : Nat
  high : Nat
  closed : Bool

/-- The gap below a power of two is half the gap above it. -/
def neighbourhood (m : Nat) (e : Int) : Neighbourhood :=
  ⟨if m = Nat.pow 2 52 ∧ -1074 < e then 4 * m - 1 else 4 * m - 2, 4 * m, 4 * m + 2, m % 2 = 0⟩

/-- Which of two equally near decimals is taken. -/
inductive Tie where
  | up
  | toEven
deriving DecidableEq, Repr

/-- The point of the grid `10 ^ k` inside the neighbourhood that is nearest to the middle, if one of the
two around the middle lies inside. Quarters are `unitNum / unitDen` each. -/
def pointOnGrid (tie : Tie) (n : Neighbourhood) (unitNum unitDen : Nat) (k : Int) : Option Nat :=
  let onGrid (quarters : Nat) : Nat × Nat := scaledDecimal (quarters * unitNum) unitDen k
  let (num, den) := onGrid n.middle
  let (lowNum, lowDen) := onGrid n.low
  let (highNum, highDen) := onGrid n.high
  let below := num / den
  let above := below + 1
  let belowInside := lowNum < below * lowDen || (n.closed && lowNum == below * lowDen)
  let aboveInside := above * highDen < highNum || (n.closed && above * highDen == highNum)
  let twice := 2 * (num % den)
  let belowNearer := twice < den || (twice == den && tie == .toEven && below % 2 == 0)
  if num % den = 0 then some below
  else if belowInside && (belowNearer || !aboveInside) then some below
  else if aboveInside then some above
  else none

/-- Tries grids of one digit, two digits and so on; the first with a hit wins. -/
def shortestFrom (tie : Tie) (n : Neighbourhood) (unitNum unitDen : Nat) (top : Int) : Nat → Nat → Digits
  | 0, _ => ⟨n.middle * unitNum / unitDen, 0⟩
  | fuel + 1, extra =>
    match pointOnGrid tie n unitNum unitDen (top - extra) with
    | some digits => ⟨digits, top - extra⟩
    | none => shortestFrom tie n unitNum unitDen top fuel (extra + 1)

/-- The fewest digits that lie nearer to `m * 2 ^ e` than to any other double; of those the nearest. -/
def shortestDigits (tie : Tie) (m : Nat) (e : Int) : Digits :=
  let n := neighbourhood m e
  let (unitNum, unitDen) : Nat × Nat :=
    if 2 ≤ e then (Nat.pow 2 (e - 2).toNat, 1) else (1, Nat.pow 2 (2 - e).toNat)
  shortestFrom tie n unitNum unitDen (leadingPower (n.middle * unitNum) unitDen) 20 0

/-- The digits of a nonzero number as text, without zeros at the end, and the position of the point:
the number is `0.d₁d₂… * 10 ^ point`. -/
def layoutDigits (tie : Tie) (m : Nat) (e : Int) : List Char × Int :=
  let d := shortestDigits tie m e
  let text := Nat.toDigits 10 d.digits
  (((text.reverse.dropWhile (· == '0')).reverse), d.power + text.length)

def positional (digits : List Char) (point : Int) : List Char :=
  if point ≤ 0 then
    '0' :: '.' :: List.replicate (-point).toNat '0' ++ digits
  else if digits.length ≤ point.toNat then
    digits ++ List.replicate (point.toNat - digits.length) '0'
  else digits.take point.toNat ++ '.' :: digits.drop point.toNat

def exponential (digits : List Char) (point : Int) : List Char :=
  let head := digits.take 1 ++ (if digits.length ≤ 1 then [] else '.' :: digits.drop 1)
  let exponent := point - 1
  head ++ 'e' :: (if exponent < 0 then '-' else '+') :: Nat.toDigits 10 exponent.natAbs

/-- How numbers are written: which of two equally short texts is taken, which positions of the point
keep the number free of an exponent, and whether a whole number shows its point. -/
structure NumberFormat where
  tie : Tie
  leastPoint : Int
  greatestPoint : Int
  wholePoint : Bool

/-- The text of a finite number; a zero is `zeroText`. -/
def NumberFormat.write (format : NumberFormat) (zeroText : List Char) (negative : Bool)
    (m : Nat) (e : Int) : List Char :=
  let sign := if negative then ['-'] else []
  if m = 0 then sign ++ zeroText
  else
    let (digits, point) := layoutDigits format.tie m e
    if format.leastPoint ≤ point ∧ point ≤ format.greatestPoint then
      let text := positional digits point
      sign ++ (if format.wholePoint && !text.contains '.' then text ++ ['.', '0'] else text)
    else sign ++ exponential digits point

end WebCitation.Double
