import WebCitation.Text.TableText
import WebCitation.Text.Utf8

/-! Percent-encoded characters. -/
namespace WebCitation.Percent

def encodeByte (b : UInt8) : List Char :=
  let digit (n : Nat) : Char := (Nat.digitChar n).toUpper
  ['%', digit (b.toNat / 16), digit (b.toNat % 16)]

def encode (keeps : Char → Bool) (s : List Char) : List Char :=
  s.flatMap fun c => if keeps c then [c] else (Text.utf8Char c).flatMap encodeByte

/-- The bytes that a text stands for; a `%` without two digits stands for itself. -/
def decode : List Char → List UInt8
  | [] => []
  | '%' :: a :: b :: s =>
    if Text.isHexDigit a && Text.isHexDigit b then
      UInt8.ofNat (16 * Text.hexDigitValue a + Text.hexDigitValue b) :: decode s
    else Text.utf8Char '%' ++ decode (a :: b :: s)
  | c :: s => Text.utf8Char c ++ decode s

def printableBut (others : List Char) (c : Char) : Bool :=
  0x20 ≤ c.toNat && c.toNat ≤ 0x7E && !others.contains c

end WebCitation.Percent
