import WebCitation.Text.Digit
import WebCitation.Text.TableText
import WebCitation.Url.Idna.CompositionTable

/-! Composed characters: every text has one form in which letters and their marks are composed. -/
namespace WebCitation.Idna

open Text

def composed : List (Nat × Nat × Nat) :=
  (triplesOf (wordsOfLines composedLines)).map fun (c, a, b) => (hexValue c, hexValue a, hexValue b)

def combiningRanges : List (Nat × Nat × Nat) :=
  (triplesOf (wordsOfLines combiningLines)).map fun (first, last, k) =>
    (hexValue first, hexValue last, digitsValue k)

/-- The class of a mark; zero for a character that begins anew. -/
def combiningClass (n : Nat) : Nat :=
  ((combiningRanges.find? fun (first, last, _) => first ≤ n && n ≤ last).map fun (_, _, k) => k).getD 0

/-- Syllables that consist of two or three letters each. -/
def decomposeSyllable (n : Nat) : List Nat :=
  let i := n - 0xAC00
  let last := if i % 28 = 0 then [] else [0x11A7 + i % 28]
  (0x1100 + i / 588) :: (0x1161 + i % 588 / 28) :: last

/-- The parts of a character, taken apart at most so often. -/
def decomposeFrom : Nat → Nat → List Nat
  | 0, n => [n]
  | fuel + 1, n =>
    if 0xAC00 ≤ n ∧ n ≤ 0xD7A3 then decomposeSyllable n
    else
      match composed.lookup n with
      | some (a, b) => decomposeFrom fuel a ++ [b]
      | none => [n]

def decompose (n : Nat) : List Nat := decomposeFrom 4 n

/-- Puts a mark behind those of its class and before those of higher ones; `marks` is reversed. -/
def insertMark (n : Nat) : List Nat → List Nat
  | [] => [n]
  | m :: ms =>
    if combiningClass n != 0 && combiningClass n < combiningClass m then m :: insertMark n ms
    else n :: m :: ms

def orderMarks (s : List Nat) : List Nat := (s.foldl (fun done n => insertMark n done) []).reverse

def compose? (a b : Nat) : Option Nat :=
  if 0x1100 ≤ a ∧ a ≤ 0x1112 ∧ 0x1161 ≤ b ∧ b ≤ 0x1175 then
    some (0xAC00 + ((a - 0x1100) * 21 + (b - 0x1161)) * 28)
  else if 0xAC00 ≤ a ∧ a ≤ 0xD7A3 ∧ (a - 0xAC00) % 28 = 0 ∧ 0x11A8 ≤ b ∧ b ≤ 0x11C2 then
    some (a + (b - 0x11A7))
  else (composed.find? fun (_, x, y) => x == a && y == b).map Prod.fst

/-- Composes marks with the letter before them. `skipped` are the marks between that do not compose,
reversed; a mark is blocked by one of its own class or a higher one. -/
def composeFrom (starter : Option Nat) (skipped : List Nat) : List Nat → List Nat
  | [] => starter.toList ++ skipped.reverse
  | n :: s =>
    let k := combiningClass n
    let blocked :=
      match skipped with
      | [] => false
      | m :: _ => k ≤ combiningClass m
    match starter with
    | none => if k = 0 then composeFrom (some n) [] s else n :: composeFrom none [] s
    | some a =>
      match (if blocked then none else compose? a n) with
      | some c => composeFrom (some c) skipped s
      | none =>
        if k = 0 then a :: skipped.reverse ++ composeFrom (some n) [] s
        else composeFrom (some a) (n :: skipped) s

def compose (s : List Char) : List Char :=
  (composeFrom none [] (orderMarks ((s.map Char.toNat).flatMap decompose))).map Char.ofNat

end WebCitation.Idna
