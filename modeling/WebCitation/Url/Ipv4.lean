import WebCitation.Text.Digit
import WebCitation.Text.Split
import WebCitation.Text.TableText

/-! Addresses of four bytes, which may be written with fewer parts and in other bases. -/
namespace WebCitation.Ipv4

def octalValue (digits : List Char) : Nat :=
  digits.foldl (fun n c => 8 * n + Text.digitValue c) 0

/-- The number that a part writes: hexadecimal after `0x`, octal after `0`, else decimal. -/
def readPart? (s : List Char) : Option Nat :=
  match s with
  | [] => none
  | '0' :: 'x' :: digits | '0' :: 'X' :: digits =>
    if digits.all Text.isHexDigit then some (Text.hexValue digits) else none
  | '0' :: d :: digits =>
    if (d :: digits).all fun c => '0' ≤ c && c ≤ '7' then some (octalValue (d :: digits)) else none
  | digits => Text.readNat? digits

/-- The parts between dots; a last empty part does not count. -/
def partsOf (s : List Char) : List (List Char) :=
  let parts := Text.splitWhere (· == '.') s
  if 1 < parts.length && parts.getLast? == some [] then parts.dropLast else parts

/-- Whether a host has to be an address because its last part is a number. -/
def endsInNumber (s : List Char) : Bool :=
  match (partsOf s).getLast? with
  | none => false
  | some last => (!last.isEmpty && last.all Char.isDigit) || (readPart? last).isSome

/-- The value of an address: all parts but the last are bytes, and the last fills the rest. -/
def value? (numbers : List Nat) : Option Nat :=
  match numbers.reverse with
  | [] => none
  | last :: others =>
    if 3 < others.length || others.any (255 < ·) || Nat.pow 256 (4 - others.length) ≤ last then none
    else some (numbers.dropLast.zipIdx.foldl (fun n (b, i) => n + b * Nat.pow 256 (3 - i)) last)

def text (value : Nat) : List Char :=
  let byte (i : Nat) : List Char := Nat.toDigits 10 (value / Nat.pow 256 i % 256)
  byte 3 ++ '.' :: byte 2 ++ '.' :: byte 1 ++ '.' :: byte 0

def normalize? (s : List Char) : Option (List Char) := do
  let numbers ← (partsOf s).mapM readPart?
  return text (← value? numbers)

end WebCitation.Ipv4
