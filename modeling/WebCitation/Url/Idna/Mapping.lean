import WebCitation.Text.Digit
import WebCitation.Text.TableText
import WebCitation.Url.Idna.MappingTable

/-! How the characters of international names are prepared. -/
namespace WebCitation.Idna

open Text

/-- Characters that move by a fixed distance. -/
structure MappedRun where
  first : Nat
  last : Nat
  step : Nat
  target : Nat

def mappedRuns : List MappedRun :=
  (quadruplesOf (wordsOfLines mappedRunLines)).map fun (first, last, step, target) =>
    ⟨hexValue first, hexValue last, digitsValue step, hexValue target⟩

def mappedCharacters : List (Nat × List Char) :=
  (pairsOf (wordsOfLines mappedLines)).map fun (c, target) => (hexValue c, charactersOf target)

def ignoredRanges : List (Nat × Nat) := rangesOf ignoredLines

def refusedRanges : List (Nat × Nat) := rangesOf refusedLines

def isWithin (ranges : List (Nat × Nat)) (n : Nat) : Bool :=
  ranges.any fun (first, last) => first ≤ n && n ≤ last

def replacement? (n : Nat) : Option (List Char) :=
  match mappedCharacters.lookup n with
  | some target => some target
  | none =>
    (mappedRuns.find? fun r => r.first ≤ n && n ≤ r.last && (n - r.first) % r.step == 0).map fun r =>
      [Char.ofNat (r.target + (n - r.first))]

/-- A prepared character; `none` for one that may not occur. -/
def prepareChar (c : Char) : Option (List Char) :=
  if c.toNat < 0x80 then some [c.toLower]
  else if isWithin refusedRanges c.toNat then none
  else if isWithin ignoredRanges c.toNat then some []
  else some ((replacement? c.toNat).getD [c])

def isPrepared (c : Char) : Bool := prepareChar c == some [c]

end WebCitation.Idna
