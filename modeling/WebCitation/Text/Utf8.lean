/-! Characters as UTF-8 bytes, and bytes as characters. -/
namespace WebCitation.Text

def utf8Char (c : Char) : List UInt8 :=
  let n := c.toNat
  let tail (shift : Nat) : UInt8 := UInt8.ofNat (0x80 + n / Nat.pow 2 shift % 0x40)
  if n < 0x80 then [UInt8.ofNat n]
  else if n < 0x800 then [UInt8.ofNat (0xC0 + n / 0x40), tail 0]
  else if n < 0x10000 then [UInt8.ofNat (0xE0 + n / 0x1000), tail 6, tail 0]
  else [UInt8.ofNat (0xF0 + n / 0x40000), tail 12, tail 6, tail 0]

/-- What a decoder waits for: how many more bytes, the bits so far, and the range of the next one. -/
structure Pending where
  missing : Nat
  bits : Nat
  low : Nat
  high : Nat

/-- The sequence that a first byte opens; `none` for a byte that opens none. -/
def pendingAfter (n : Nat) : Option Pending :=
  if 0xC2 ≤ n ∧ n ≤ 0xDF then some ⟨1, n - 0xC0, 0x80, 0xBF⟩
  else if n = 0xE0 then some ⟨2, 0, 0xA0, 0xBF⟩
  else if n = 0xED then some ⟨2, 0xD, 0x80, 0x9F⟩
  else if 0xE1 ≤ n ∧ n ≤ 0xEF then some ⟨2, n - 0xE0, 0x80, 0xBF⟩
  else if n = 0xF0 then some ⟨3, 0, 0x90, 0xBF⟩
  else if n = 0xF4 then some ⟨3, 4, 0x80, 0x8F⟩
  else if 0xF1 ≤ n ∧ n ≤ 0xF3 then some ⟨3, n - 0xF0, 0x80, 0xBF⟩
  else none

/-- What one more byte completes, and what is waited for after it. A byte that does not go on with a sequence
makes one replacement character of it and is looked at afresh. -/
def readByte (pending : Option Pending) (n : Nat) : List Char × Option Pending :=
  let fresh : List Char × Option Pending :=
    if n < 0x80 then ([Char.ofNat n], none)
    else
      match pendingAfter n with
      | some p => ([], some p)
      | none => (['\uFFFD'], none)
  match pending with
  | none => fresh
  | some p =>
    if p.low ≤ n ∧ n ≤ p.high then
      let bits := p.bits * 0x40 + n % 0x40
      if p.missing = 1 then ([Char.ofNat bits], none)
      else ([], some ⟨p.missing - 1, bits, 0x80, 0xBF⟩)
    else ('\uFFFD' :: fresh.1, fresh.2)

/-- Reads UTF-8; each maximal part of a broken sequence becomes one replacement character. -/
def decodeUtf8From (pending : Option Pending) : List UInt8 → List Char
  | [] => if pending.isSome then ['\uFFFD'] else []
  | b :: bytes =>
    let (characters, pending) := readByte pending b.toNat
    characters ++ decodeUtf8From pending bytes

def decodeUtf8 (bytes : List UInt8) : List Char := decodeUtf8From none bytes

end WebCitation.Text
