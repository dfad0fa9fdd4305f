import WebCitation.Number.Reading
import WebCitation.Number.Shortest
import WebCitation.XPath.Document

/-! What expressions stand for: nodes in document order, numbers, texts and truth values. -/
namespace WebCitation.XPath

/-- Numbers in texts are positional and have no more digits than they need. -/
def numberInText : Double.NumberFormat := ⟨.up, -400, 400, false⟩

/-- The text of a number; a zero keeps its sign. -/
def textOfNumber : Double → String
  | .nan => "NaN"
  | .infinite negative => if negative then "-Infinity" else "Infinity"
  | .finite negative m e => String.ofList (numberInText.write ['0'] negative m e)

inductive Value where
  | nodes (nodes : List Node)
  | number (value : Double)
  | text (value : String)
  | truth (value : Bool)
deriving DecidableEq, Repr, Inhabited

namespace Value

variable (d : Document)

/-- The text of the first node, of a number, or of a truth value. -/
def asText : Value → String
  | nodes [] => ""
  | nodes (n :: _) => d.textOf n
  | number x => textOfNumber x
  | text s => s
  | truth b => if b then "true" else "false"

def asNumber : Value → Double
  | number x => x
  | truth b => Double.ofNat (if b then 1 else 0)
  | v => Double.ofText (v.asText d).toList

/-- Nodes and texts are true unless empty, and numbers unless zero or a NaN. -/
def asTruth : Value → Bool
  | nodes ns => !ns.isEmpty
  | number x => !x.isZero && !x.isNaN
  | text s => s != ""
  | truth b => b

/-- Equality. Nodes equal what one of their texts equals; a truth value is compared as one. -/
def equal : Value → Value → Bool
  | nodes ns, nodes ms =>
    let texts := ms.map d.textOf
    ns.any fun n => texts.contains (d.textOf n)
  | nodes ns, number x | number x, nodes ns =>
    ns.any fun n => Double.eq (Double.ofText (d.textOf n).toList) x
  | nodes ns, text s | text s, nodes ns => ns.any fun n => d.textOf n == s
  | v@(truth _), w | v, w@(truth _) => v.asTruth == w.asTruth
  | v@(number _), w | v, w@(number _) => Double.eq (v.asNumber d) (w.asNumber d)
  | v, w => v.asText d == w.asText d

end Value
end WebCitation.XPath
