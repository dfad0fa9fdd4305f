/-! Names in expressions. -/
namespace WebCitation.XPath

def isSpace (c : Char) : Bool := c == ' ' || c == '\t' || c == '\n' || c == '\r'

/-- The characters other than letters of ASCII and `_` that may begin a name, as ranges of code points. -/
def nameStarts : List (Nat × Nat) :=
  [(0xC0, 0xD6), (0xD8, 0xF6), (0xF8, 0x2FF), (0x370, 0x37D), (0x37F, 0x1FFF), (0x200C, 0x200D),
    (0x2070, 0x218F), (0x2C00, 0x2FEF), (0x3001, 0xD7FF), (0xF900, 0xFDCF), (0xFDF0, 0xFFFD),
    (0x10000, 0xEFFFF)]

def isNameStart (c : Char) : Bool :=
  c.isAlpha || c == '_'
    || (0x80 ≤ c.toNat && nameStarts.any fun (low, high) => low ≤ c.toNat && c.toNat ≤ high)

def isNameChar (c : Char) : Bool :=
  isNameStart c || c.isDigit || c == '-' || c == '.' || c.toNat == 0xB7
    || (0x300 ≤ c.toNat && c.toNat ≤ 0x36F) || c.toNat == 0x203F || c.toNat == 0x2040

def readName? : List Char → Option (String × List Char)
  | [] => none
  | c :: s =>
    if isNameStart c then
      let (rest, s) := s.span isNameChar
      some (String.ofList (c :: rest), s)
    else none

end WebCitation.XPath
