import WebCitation.Text.Digit
import WebCitation.Text.Split
import WebCitation.Text.TableText

/-! Addresses of eight pieces of sixteen bits. -/
namespace WebCitation.Ipv6

def readPiece? (s : List Char) : Option Nat :=
  if s.isEmpty || 4 < s.length || !s.all Text.isHexDigit then none else some (Text.hexValue s)

/-- A byte in decimal, without zeros in front. -/
def readByte? (s : List Char) : Option Nat := do
  let n ← Text.readNat? s
  if 255 < n || (1 < s.length && s.head? == some '0') then none else some n

def readBytes? (s : List Char) : Option (List Nat) := do
  match ← (Text.splitWhere (· == '.') s).mapM readByte? with
  | [a, b, c, d] => some [256 * a + b, 256 * c + d]
  | _ => none

/-- Pieces between colons, the last two of which may be written as bytes. -/
def readPieces? (s : List Char) : Option (List Nat) :=
  if s.isEmpty then some []
  else
    let parts := Text.splitWhere (· == ':') s
    match parts.getLast? with
    | none => none
    | some last =>
      if last.contains '.' then do
        let pieces ← parts.dropLast.mapM readPiece?
        return pieces ++ (← readBytes? last)
      else parts.mapM readPiece?

/-- The pieces of an address; `::` stands for as many zeros as are missing, at least one. -/
def read? (s : List Char) : Option (List Nat) :=
  match Text.cut? [':', ':'] s with
  | none => do
    let pieces ← readPieces? s
    if pieces.length = 8 then some pieces else none
  | some (before, after) => do
    let head ← readPieces? before
    let tail ← readPieces? after
    if before.contains '.' || 8 ≤ head.length + tail.length then none
    else some (head ++ List.replicate (8 - head.length - tail.length) 0 ++ tail)

def zeroRun (pieces : List Nat) : Nat := (pieces.takeWhile (· == 0)).length

/-- The start and the length of the first of the longest runs of zeros. -/
def longestRun (pieces : List Nat) : Nat × Nat :=
  (List.range pieces.length).foldl (fun (start, length) i =>
    let n := zeroRun (pieces.drop i)
    if length < n then (i, n) else (start, length)) (0, 0)

def piecesText (pieces : List Nat) : List Char :=
  Text.join [':'] (pieces.map (Nat.toDigits 16))

/-- An address in the usual form, where `::` stands for the longest run of two or more zeros. -/
def text (pieces : List Nat) : List Char :=
  let (start, length) := longestRun pieces
  if length < 2 then piecesText pieces
  else piecesText (pieces.take start) ++ ':' :: ':' :: piecesText (pieces.drop (start + length))

end WebCitation.Ipv6
