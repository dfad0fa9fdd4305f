import WebCitation.Html.Node
import WebCitation.XPath.Axis

/-!
A page as a table of its nodes in document order. Each node knows its parent and where its subtree ends, so
that every axis is a range of the table or a part of one.
-/
namespace WebCitation.XPath

/-- A row of the table; the root of the page stands for no node of the tree. -/
structure Entry where
  node : Option Html.Node
  parent : Nat
  stop : Nat
deriving Repr, Inhabited

mutual

/-- The rows of a tree whose first row is `start`. -/
def entriesOf (parent start : Nat) : Html.Node → List Entry
  | .element name attributes children =>
    let inner := entriesOfAll start (start + 1) children
    ⟨some (.element name attributes children), parent, start + 1 + inner.length⟩ :: inner
  | n => [⟨some n, parent, start + 1⟩]

def entriesOfAll (parent start : Nat) : List Html.Node → List Entry
  | [] => []
  | n :: ns =>
    let first := entriesOf parent start n
    first ++ entriesOfAll parent (start + first.length) ns

end

structure Document where
  entries : Array Entry

/-- A node of a page, an attribute of an element, or the one namespace that every element has. -/
inductive Node where
  | tree (row : Nat)
  | attribute (owner index : Nat)
  | space (owner : Nat)
deriving DecidableEq, Repr, Inhabited

namespace Node

/-- The row of the node, or of the element that it belongs to. -/
def row : Node → Nat
  | tree r => r
  | .attribute r _ => r
  | space r => r

/-- Document order. The attributes of an element follow it, the last written first; namespaces follow the
whole page. -/
def isBefore (a b : Node) : Bool :=
  match a, b with
  | space r, space s => r < s
  | space _, _ => false
  | _, space _ => true
  | .attribute r i, .attribute s j => r < s || (r = s && j < i)
  | tree r, .attribute s _ => r ≤ s
  | a, b => a.row < b.row

/-- Puts a node before the later nodes of a list in document order, unless it is there already; `rest`
merges what comes after it. -/
def place (n : Node) (rest : List Node → List Node) : List Node → List Node
  | [] => n :: rest []
  | m :: ms =>
    if n = m then n :: rest ms
    else if n.isBefore m then n :: rest (m :: ms)
    else m :: place n rest ms

def merge : List Node → List Node → List Node
  | [] => id
  | n :: ns => place n (merge ns)

end Node

def xmlSpace : String := "http://www.w3.org/XML/1998/namespace"

namespace Document

def ofNodes (nodes : List Html.Node) : Document :=
  let inner := entriesOfAll 0 1 nodes
  ⟨(⟨none, 0, inner.length + 1⟩ :: inner).toArray⟩

def empty : Document := ofNodes []

variable (d : Document)

def content? (row : Nat) : Option Html.Node := d.entries[row]?.bind Entry.node

def parentOf (row : Nat) : Nat := ((d.entries[row]?).map Entry.parent).getD 0

/-- The first row after the subtree of a row. -/
def stopOf (row : Nat) : Nat := ((d.entries[row]?).map Entry.stop).getD 0

def rows (first stop : Nat) : List Nat := List.range' first (stop - first)

def attributesOf (row : Nat) : List Html.Attribute :=
  match d.content? row with
  | some (.element _ attributes _) => attributes
  | _ => []

def isElement (row : Nat) : Bool :=
  match d.content? row with
  | some (.element ..) => true
  | _ => false

def childRows (row : Nat) : List Nat :=
  (rows (row + 1) (d.stopOf row)).filter fun r => d.parentOf r = row

/-- The rows whose subtree holds `row`, from the nearest to the root. -/
def ancestorRows (row : Nat) : List Nat :=
  ((rows 0 row).filter fun r => row < d.stopOf r).reverse

/-- The rows that share the parent of `row`; the root has none beside it. -/
def siblingRows (row : Nat) : List Nat := if row = 0 then [] else d.childRows (d.parentOf row)

def treeAxis (axis : Axis) (row : Nat) : List Node :=
  match axis with
  | .ancestor => (d.ancestorRows row).map .tree
  | .ancestorOrSelf => .tree row :: (d.ancestorRows row).map .tree
  | .attributes => (List.range (d.attributesOf row).length).map (.attribute row)
  | .child => (d.childRows row).map .tree
  | .descendant => (rows (row + 1) (d.stopOf row)).map .tree
  | .descendantOrSelf => (rows row (d.stopOf row)).map .tree
  | .following => (rows (d.stopOf row) d.entries.size).map .tree
  | .followingSibling => ((d.siblingRows row).filter (row < ·)).map .tree
  | .namespaces => if d.isElement row then [.space row] else []
  | .parent => if row = 0 then [] else [.tree (d.parentOf row)]
  | .preceding => (((rows 0 row).filter fun r => d.stopOf r ≤ row).reverse).map .tree
  | .precedingSibling => (((d.siblingRows row).filter (· < row)).reverse).map .tree
  | .self => [.tree row]

/-- The nodes along an axis, in the order of the axis. Attributes and namespaces have no siblings and no
children, and their parent is the element that they belong to. -/
def along (axis : Axis) : Node → List Node
  | .tree row => d.treeAxis axis row
  | n =>
    match axis with
    | .self | .descendantOrSelf => [n]
    | .parent => [.tree n.row]
    | .ancestor => d.treeAxis .ancestorOrSelf n.row
    | .ancestorOrSelf => n :: d.treeAxis .ancestorOrSelf n.row
    | .following | .preceding => d.treeAxis axis n.row
    | _ => []

def textOf : Node → String
  | .tree row =>
    match d.content? row with
    | some (.comment content) => content
    | some (.instruction _ content) => content
    | some n => String.ofList n.rawText
    | none => String.ofList ((d.childRows row).flatMap fun r =>
        ((d.content? r).map Html.Node.rawText).getD [])
  | .attribute row index => (((d.attributesOf row)[index]?).map (·.value)).getD ""
  | .space _ => xmlSpace

def nameOf : Node → Option Html.Name
  | .tree row =>
    match d.content? row with
    | some (.element name ..) => some name
    | some (.instruction target _) => some (.plain target)
    | _ => none
  | .attribute row index => ((d.attributesOf row)[index]?).map (·.name)
  | .space _ => some (.plain "xml")

end Document
end WebCitation.XPath
