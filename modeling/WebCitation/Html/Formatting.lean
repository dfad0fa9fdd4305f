import WebCitation.Html.Builder

/-!
Formatting elements: opened again where text follows after their parents have closed, and taken apart when
they are closed across the bounds of blocks.
-/
namespace WebCitation.Html

namespace Formatting

def node? : Formatting → Option Nat
  | marker => none
  | element i _ => some i

def isNode (i : Nat) (f : Formatting) : Bool := f.node? == some i

end Formatting

namespace Tag

/-- Whether two tags have the same name and the same attributes in any order. -/
def sameAs (s t : Tag) : Bool :=
  s.name == t.name && s.attributes.length == t.attributes.length
    && s.attributes.all t.attributes.contains

end Tag

namespace Builder

variable (b : Builder)

/-- Formatting elements since the last marker, the latest first. -/
def recentFormatting : List (Nat × Tag) :=
  (b.formatting.takeWhile (· != .marker)).filterMap fun
    | .marker => none
    | .element i t => some (i, t)

/-- Whether nothing has to be opened again before this entry. -/
def isSettled : Formatting → Bool
  | .marker => true
  | .element i _ => b.opened.contains i

end Builder

namespace Build

def dropFormatting (i : Nat) : Build Unit :=
  modify fun b => { b with formatting := b.formatting.filter fun f => !f.isNode i }

/-- Opens the formatting elements again that have been closed by the elements around them. -/
def reopenFormatting : Build Unit := do
  let b ← get
  let stale := b.formatting.takeWhile fun f => !b.isSettled f
  let fresh ← stale.reverse.mapM fun
    | .marker => pure Formatting.marker
    | .element _ tag => do return Formatting.element (← insert tag) tag
  modify fun b => { b with formatting := fresh.reverse ++ b.formatting.drop stale.length }

/-- Opens a formatting element. Of more than three alike the earliest is dropped. -/
def insertFormatting (tag : Tag) : Build Unit := do
  let alike := (← get).recentFormatting.filter fun (_, t) => tag.sameAs t
  if 3 ≤ alike.length then
    match alike.getLast? with
    | some (i, _) => dropFormatting i
    | none => pure ()
  let i ← insert tag
  modify fun b => { b with formatting := .element i tag :: b.formatting }

/-- Closes the innermost element of a name, unless a special element lies in between. -/
def closeNamed (name : String) : Build Unit := do
  let b ← get
  match b.opened.find? fun i => b.isOneOf [name] i || b.isSpecial i with
  | none => pure ()
  | some i =>
    if b.isOneOf [name] i then
      closeImpliedExcept name
      popThrough fun _ j => j == i

/-- Where the entry of a replaced formatting element goes: in its own place, or right after another. -/
inductive Bookmark where
  | inPlace
  | after (node : Nat)

/-- Puts copies of the formatting elements between a block and the element that is taken apart around it;
`last` is the outermost node so far. Beyond the third, elements are closed without a copy. -/
def wrapFrom (block : Nat) : Nat → Nat → Bookmark → List Nat → Build (Nat × Bookmark)
  | _, last, mark, [] => return (last, mark)
  | count, last, mark, i :: is => do
    let entry := (← get).formatting.find? (·.isNode i)
    match (if 3 < count then none else entry) with
    | some (.element _ tag) =>
      let copy ← create (.element (.plain tag.name) tag.plainAttributes)
      modify fun b =>
        { b with
          opened := b.opened.map fun j => if j = i then copy else j
          formatting := b.formatting.map fun f => if f.isNode i then .element copy tag else f
          arena := (b.arena.detach last).append copy last }
      wrapFrom block (count + 1) copy (if last = block then .after copy else mark) is
    | _ =>
      dropFormatting i
      removeOpen i
      wrapFrom block (count + 1) last mark is

def splitAround (i : Nat) (tag : Tag) (block : Nat) : Build Unit := do
  let b ← get
  let ancestor := ((b.opened.dropWhile (· != i)).drop 1).headD b.root
  let between := ((b.opened.takeWhile (· != i)).dropWhile (· != block)).drop 1
  let (last, mark) ← wrapFrom block 1 block .inPlace between
  modify fun b => { b with arena := b.arena.detach last }
  insertIn ancestor last
  let copy ← create (.element (.plain tag.name) tag.plainAttributes)
  modify fun b => { b with arena := (b.arena.moveChildren block copy).append block copy }
  let entry := Formatting.element copy tag
  match mark with
  | .inPlace =>
    modify fun b => { b with formatting := b.formatting.map fun f => if f.isNode i then entry else f }
  | .after j =>
    modify fun b =>
      { b with formatting := b.formatting.flatMap fun f =>
          if f.isNode j then [entry, f] else if f.isNode i then [] else [f] }
  removeOpen i
  modify fun b =>
    { b with opened := b.opened.flatMap fun j => if j = block then [copy, j] else [j] }

/-- One round of closing a formatting element; says whether another round may follow. -/
def closeFormattingOnce (name : String) : Build Bool := do
  let b ← get
  match b.recentFormatting.find? fun (_, t) => t.name == name with
  | none =>
    closeNamed name
    return false
  | some (i, tag) =>
    if !b.opened.contains i then
      dropFormatting i
      return false
    else if !b.inScopeOf b.boundsScope (· == i) then return false
    else
      match ((b.opened.takeWhile (· != i)).filter b.isSpecial).getLast? with
      | none =>
        popThrough fun _ j => j == i
        dropFormatting i
        return false
      | some block =>
        splitAround i tag block
        return true

def closeFormattingFrom (name : String) : Nat → Build Unit
  | 0 => pure ()
  | n + 1 => do
    if ← closeFormattingOnce name then closeFormattingFrom name n

def closeFormatting (name : String) : Build Unit := do
  let b ← get
  if b.currentIs [name] && !b.formatting.any (·.isNode b.current) then pop
  else closeFormattingFrom name 8

/-- Closes a link that is still open when another begins. -/
def closeOpenLink : Build Unit := do
  let b ← get
  match b.recentFormatting.find? fun (i, _) => b.isOneOf ["a"] i with
  | none => pure ()
  | some (i, _) =>
    closeFormatting "a"
    dropFormatting i
    removeOpen i

end Build
end WebCitation.Html
