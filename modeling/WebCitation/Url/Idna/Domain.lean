import WebCitation.Text.Ascii
import WebCitation.Text.Split
import WebCitation.Text.Word
import WebCitation.Url.Idna.Direction
import WebCitation.Url.Idna.Mapping
import WebCitation.Url.Punycode

/-! Domain names in ASCII. International labels are prepared, checked and encoded. -/
namespace WebCitation.Idna

def isForbidden (c : Char) : Bool :=
  c.toNat ≤ 0x20 || c.toNat == 0x7F
    || ['%', '#', '/', ':', '<', '>', '?', '@', '[', '\\', ']', '^', '|'].contains c

def encodedMark : List Char := ['x', 'n', '-', '-']

def encodedPart? (label : List Char) : Option (List Char) := Text.dropPrefix? encodedMark label

/-- Whether a decoded label is proper: prepared, composed, and without a mark at its start. -/
def isProper (label : List Char) : Bool :=
  label.all isPrepared && Idna.compose label == label && !(label.head?.map Text.marks.holds).getD false
    && joinersFit [] label && !label.any isForbidden

def encodedLimit : Nat := 2000

def decodedLimit : Nat := 1000

/-- A label as characters; an encoded one has to hold a character that needs encoding. -/
def decodeLabel? (label : List Char) : Option (List Char) :=
  let isAscii (s : List Char) : Bool := s.all (·.toNat < 0x80)
  match encodedPart? label with
  | none => if !isAscii label && decodedLimit < label.length then none else some label
  | some part => do
    if encodedLimit < part.length then none
    let decoded ← Punycode.decode? part
    if isAscii decoded then none else some decoded

def encodeLabel (label : List Char) : List Char :=
  if label.all (·.toNat < 0x80) then label else encodedMark ++ Punycode.encode label

def toAsciiByLabels? (s : List Char) : Option (List Char) := do
  let prepared ← s.mapM prepareChar
  let labels ← (Text.splitWhere (· == '.') (compose prepared.flatten)).mapM decodeLabel?
  let directed := !labels.any runsBothWays || labels.all isOrdered
  if labels.all isProper && directed then some (Text.join ['.'] (labels.map encodeLabel)) else none

def isSimple (s : List Char) : Bool :=
  s.all (·.toNat < 0x80)
    && (Text.splitWhere (· == '.') s).all fun label => (encodedPart? label).isNone

/-- A domain name in ASCII and in lower case; `none` if it may not be one. -/
def toAscii? (s : List Char) : Option (List Char) :=
  let lowered := Text.asciiLower s
  if isSimple lowered then if lowered.any isForbidden then none else some lowered
  else toAsciiByLabels? s

end WebCitation.Idna
