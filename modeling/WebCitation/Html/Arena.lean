import WebCitation.Html.Node

/-!
A tree under construction. Nodes are numbered as they are made; each lists its children and knows its
parent, so that it can be moved to another place.
-/
namespace WebCitation.Html

inductive Content where
  | page
  | element (name : Name) (attributes : List Attribute)
  | text (content : String)
  | comment (content : String)
deriving Repr, Inhabited

structure Cell where
  content : Content
  parent : Option Nat
  children : List Nat
deriving Repr, Inhabited

structure Arena where
  cells : Array Cell
deriving Repr, Inhabited

namespace Arena

/-- An empty page, which is node 0. -/
def empty : Arena := ⟨#[⟨.page, none, []⟩]⟩

variable (a : Arena)

def cell (i : Nat) : Cell := a.cells.getD i default

def modify (i : Nat) (f : Cell → Cell) : Arena := ⟨a.cells.modify i f⟩

def name? (i : Nat) : Option Name :=
  match (a.cell i).content with
  | .element name _ => some name
  | _ => none

def add (content : Content) : Nat × Arena := (a.cells.size, ⟨a.cells.push ⟨content, none, []⟩⟩)

def detach (i : Nat) : Arena :=
  match (a.cell i).parent with
  | none => a
  | some p =>
    (a.modify p fun c => { c with children := c.children.filter (· != i) }).modify i
      fun c => { c with parent := none }

def append (parent i : Nat) : Arena :=
  (a.modify parent fun c => { c with children := c.children ++ [i] }).modify i
    fun c => { c with parent := some parent }

def insertBefore (sibling i : Nat) : Arena :=
  match (a.cell sibling).parent with
  | none => a
  | some p =>
    (a.modify p fun c =>
      { c with children := c.children.flatMap fun j => if j = sibling then [i, j] else [j] }).modify i
        fun c => { c with parent := some p }

def moveChildren (source target : Nat) : Arena :=
  (a.cell source).children.foldl (fun a i => (a.detach i).append target i) a

def extendText? (i : Nat) (s : String) : Option Arena :=
  match (a.cell i).content with
  | .text t => some (a.modify i fun c => { c with content := .text (t ++ s) })
  | _ => none

/-- Adds text at the end of a node; it joins text that is there. -/
def appendText (parent : Nat) (s : String) : Arena :=
  match (a.cell parent).children.getLast?.bind (a.extendText? · s) with
  | some a => a
  | none =>
    let (i, a) := a.add (.text s)
    a.append parent i

/-- Adds text right before a node; it stays apart from text that is there. -/
def insertTextBefore (sibling : Nat) (s : String) : Arena :=
  let (i, a) := a.add (.text s)
  a.insertBefore sibling i

/-- Gives an element those of the attributes whose names it does not have yet. -/
def addAttributes (i : Nat) (new : List Attribute) : Arena :=
  a.modify i fun c =>
    match c.content with
    | .element name attributes =>
      let missing := new.filter fun n => attributes.all fun b => b.name != n.name
      { c with content := .element name (attributes ++ missing) }
    | _ => c

/-- The trees of some nodes, down to a depth that no tree of the arena exceeds. -/
def nodes : Nat → List Nat → List Node
  | 0, _ => []
  | fuel + 1, is =>
    is.filterMap fun i =>
      match (a.cell i).content with
      | .page => none
      | .element name attributes => some (.element name attributes (nodes fuel (a.cell i).children))
      | .text s => some (.text s)
      | .comment s => some (.comment s)

def toNodes : List Node := a.nodes (a.cells.size + 1) (a.cell 0).children

end Arena
end WebCitation.Html
