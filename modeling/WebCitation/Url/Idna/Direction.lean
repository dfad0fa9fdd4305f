import WebCitation.Text.TableText
import WebCitation.Url.Idna.Composition
import WebCitation.Url.Idna.DirectionTable

/-! The direction of the characters of a label, and the places where invisible joiners may stand. -/
namespace WebCitation.Idna

open Text

inductive Direction where
  | leftToRight
  | rightToLeft
  | number
  | arabicNumber
  | neutral
  | mark
  | other
deriving DecidableEq, Repr

def Direction.ofName (name : String) : Direction :=
  if ["R", "AL"].contains name then rightToLeft
  else if name = "EN" then number
  else if name = "AN" then arabicNumber
  else if name = "NSM" then mark
  else if ["ES", "CS", "ET", "ON", "BN"].contains name then neutral
  else other

def namedRanges (lines : List String) : List (Nat × Nat × String) :=
  (triplesOf (wordsOfLines lines)).map fun (first, last, name) =>
    (hexValue first, hexValue last, String.ofList name)

def directionRanges : List (Nat × Nat × String) := namedRanges directionLines

def joiningRanges : List (Nat × Nat × String) := namedRanges joiningLines

def nameIn? (ranges : List (Nat × Nat × String)) (n : Nat) : Option String :=
  (ranges.find? fun (first, last, _) => first ≤ n && n ≤ last).map fun (_, _, name) => name

def direction (c : Char) : Direction :=
  ((nameIn? directionRanges c.toNat).map Direction.ofName).getD .leftToRight

/-- Whether a name has characters that run from right to left, so that all its labels are checked. -/
def runsBothWays (s : List Char) : Bool :=
  s.any fun c => [Direction.rightToLeft, .arabicNumber].contains (direction c)

/-- Whether the characters of a label run in one direction, so that it reads the same in any text. -/
def isOrdered (label : List Char) : Bool :=
  let all := label.map direction
  let lastStrong := (all.reverse.dropWhile (· == .mark)).head?
  match all with
  | [] => true
  | .rightToLeft :: _ =>
    all.all (fun d => d != .leftToRight && d != .other)
      && [some .rightToLeft, some .number, some .arabicNumber].contains lastStrong
      && !(all.contains .number && all.contains .arabicNumber)
  | .leftToRight :: _ =>
    all.all (fun d => [Direction.leftToRight, .number, .neutral, .mark].contains d)
      && [some .leftToRight, some .number].contains lastStrong
  | _ => false

def joining (c : Char) : String := (nameIn? joiningRanges c.toNat).getD "U"

/-- Whether a character is a sign that takes the vowel from the letter before it. -/
def isVirama (c : Char) : Bool := combiningClass c.toNat == 9

/-- Whether invisible joiners stand only where they have an effect; `before` is reversed. -/
def joinersFit (before : List Char) : List Char → Bool
  | [] => true
  | c :: after =>
    let virama := (before.head?.map isVirama).getD false
    let left := ((before.dropWhile fun b => joining b == "T").head?.map joining).getD "U"
    let right := ((after.dropWhile fun a => joining a == "T").head?.map joining).getD "U"
    let fits :=
      if c = '\u200D' then virama
      else if c = '\u200C' then virama || (["L", "D"].contains left && ["R", "D"].contains right)
      else true
    fits && joinersFit (c :: before) after

end WebCitation.Idna
