import WebCitation.Error.Config
import WebCitation.Text.Ascii
import WebCitation.Text.Split

/-! Names of domains. -/
namespace WebCitation

namespace DomainName

/-- ASCII letters and digits, and the two characters whose case folds to an ASCII letter: the long s and the
Kelvin sign. -/
def isLetterOrDigit (c : Char) : Bool := c.isAlphanum || c == '\u017f' || c == '\u212a'

/-- One to 63 letters, digits and hyphens, with no hyphen at either end. -/
def isLabel (label : List Char) : Bool :=
  0 < label.length && label.length ≤ 63 && label.all (fun c => isLetterOrDigit c || c == '-')
    && label.head? != some '-' && label.getLast? != some '-'

def maxBytes : Nat := 253

def isName (name : String) : Bool :=
  name.utf8ByteSize ≤ maxBytes && (Text.splitWhere (· == '.') name.toList).all isLabel

end DomainName

structure DomainName where
  text : String
  valid : DomainName.isName text = true
deriving DecidableEq, Repr

namespace DomainName

def ofText (name : String) : Except ConfigError DomainName :=
  if h : isName name.asciiLower = true then .ok ⟨name.asciiLower, h⟩
  else .error (.invalidDomain name.asciiLower)

theorem text_of_ofText {name : String} {n : DomainName} (h : ofText name = .ok n) : n.text = name.asciiLower := by
  unfold ofText at h
  split at h
  · cases h
    rfl
  · cases h

end DomainName
end WebCitation
