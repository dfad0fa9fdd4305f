import WebCitation.Number.Shortest

/-! JSON values. The keys of an object stand in ascending order, each of them once. -/
namespace WebCitation

namespace Json

/-- Whole numbers of up to 64 bits are kept exactly; all others are doubles. -/
inductive Number where
  | whole (value : Int)
  | double (value : Double)
deriving DecidableEq, Repr, Inhabited

/-- The shortest text of a double has a point or an exponent. It has an exponent from `1e+16` up and
below `1e-5`. -/
def numberFormat : Double.NumberFormat := ⟨.toEven, -4, 16, true⟩

def Number.text : Number → String
  | .whole i => toString i
  | .double (.finite negative m e) =>
    String.ofList (numberFormat.write ['0', '.', '0'] negative m e)
  | .double _ => "null"

end Json

inductive Json where
  | null
  | bool (value : Bool)
  | number (value : Json.Number)
  | string (value : String)
  | array (items : List Json)
  | object (fields : List (String × Json))
deriving Repr, Inhabited

namespace Json

/-- The fields with one more. A later value of the same key takes the place of the earlier one. -/
def insertField (key : String) (value : Json) : List (String × Json) → List (String × Json)
  | [] => [(key, value)]
  | (k, v) :: fields =>
    if key < k then (key, value) :: (k, v) :: fields
    else if key = k then (key, value) :: fields
    else (k, v) :: insertField key value fields

def field? (key : String) : Json → Option Json
  | object fields => fields.lookup key
  | _ => none

def string? : Json → Option String
  | string s => some s
  | _ => none

def bool? : Json → Option Bool
  | bool b => some b
  | _ => none

def nat? : Json → Option Nat
  | number (.whole i) => if 0 ≤ i then some i.toNat else none
  | _ => none

def items? : Json → Option (List Json)
  | array items => some items
  | _ => none

end Json
end WebCitation
