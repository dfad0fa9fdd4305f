/-! The directions in which a location step moves, and what it keeps of the nodes there. -/
namespace WebCitation.XPath

inductive Axis where
  | ancestor
  | ancestorOrSelf
  | attributes
  | child
  | descendant
  | descendantOrSelf
  | following
  | followingSibling
  | namespaces
  | parent
  | preceding
  | precedingSibling
  | self
deriving DecidableEq, Repr

namespace Axis

def ofName? : String → Option Axis
  | "ancestor" => some ancestor
  | "ancestor-or-self" => some ancestorOrSelf
  | "attribute" => some attributes
  | "child" => some child
  | "descendant" => some descendant
  | "descendant-or-self" => some descendantOrSelf
  | "following" => some following
  | "following-sibling" => some followingSibling
  | "namespace" => some namespaces
  | "parent" => some parent
  | "preceding" => some preceding
  | "preceding-sibling" => some precedingSibling
  | "self" => some self
  | _ => none

/-- Whether the axis lists its nodes against document order; attributes are listed as they are written. -/
def isReverse : Axis → Bool
  | ancestor | ancestorOrSelf | attributes | preceding | precedingSibling => true
  | _ => false

end Axis

inductive NodeTest where
  | any
  | text
  | comment
  | instruction (target : Option String)
  | wildcard
  | name (stem : String)
  | qualified (qualifier stem : String)
deriving DecidableEq, Repr

end WebCitation.XPath
