/-! Sets of characters given as a sorted table of closed code point ranges. -/
namespace WebCitation.Text

/-- Closed ranges of code points in ascending order, without overlap. -/
abbrev Ranges := Array (Nat × Nat)

namespace Ranges

/-- Halves the window `[low, high)` of the table until it is empty; the fuel bounds the halvings. -/
def searchFrom (table : Ranges) (n : Nat) : Nat → Nat → Nat → Bool
  | 0, _, _ => false
  | fuel + 1, low, high =>
    if low < high then
      let middle := (low + high) / 2
      match table[middle]? with
      | none => false
      | some (first, last) =>
        if n < first then searchFrom table n fuel low middle
        else if last < n then searchFrom table n fuel (middle + 1) high
        else true
    else false

def holds (table : Ranges) (c : Char) : Bool :=
  searchFrom table c.toNat (table.size + 1) 0 table.size

end Ranges
end WebCitation.Text
