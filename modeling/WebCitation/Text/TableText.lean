import WebCitation.Text.Blank

/-! Tables of characters that are written as text: words between blanks, code points in hexadecimal. -/
namespace WebCitation.Text

/-- The value of a hexadecimal digit; of any other character, zero. -/
def hexDigitValue (c : Char) : Nat :=
  let n := c.toNat
  if c.isDigit then n - '0'.toNat
  else if 'A' ≤ c && c ≤ 'F' then n - 'A'.toNat + 10
  else if 'a' ≤ c && c ≤ 'f' then n - 'a'.toNat + 10
  else 0

def isHexDigit (c : Char) : Bool :=
  c.isDigit || ('a' ≤ c && c ≤ 'f') || ('A' ≤ c && c ≤ 'F')

def hexValue (digits : List Char) : Nat := digits.foldl (fun n c => 16 * n + hexDigitValue c) 0

/-- The characters whose code points a word lists, with `+` between them. -/
def charactersOf (word : List Char) : List Char :=
  (word.splitOn '+').map fun code => Char.ofNat (hexValue code)

def wordsOfLines (lines : List String) : List (List Char) := lines.flatMap fun line => words line.toList

def pairsOf : List (List Char) → List (List Char × List Char)
  | a :: b :: rest => (a, b) :: pairsOf rest
  | _ => []

def triplesOf : List (List Char) → List (List Char × List Char × List Char)
  | a :: b :: c :: rest => (a, b, c) :: triplesOf rest
  | _ => []

def quadruplesOf : List (List Char) → List (List Char × List Char × List Char × List Char)
  | a :: b :: c :: d :: rest => (a, b, c, d) :: quadruplesOf rest
  | _ => []

/-- Ranges of code points, first and last by turns. -/
def rangesOf (lines : List String) : List (Nat × Nat) :=
  (pairsOf (wordsOfLines lines)).map fun (a, b) => (hexValue a, hexValue b)

end WebCitation.Text
