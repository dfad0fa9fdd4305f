import WebCitation.Error.Storage

/-! Revisions of stored pages, and a store that holds them in memory. -/
namespace WebCitation

structure Revision where
  id : Nat
  /-- Left out unless it was asked for. -/
  content : Option String
deriving DecidableEq, Repr

/-- Which revisions of a page are asked for. -/
structure RevisionQuery where
  title : String
  withContent : Bool
  /-- No revision is newer than this one. -/
  start : Option Nat
  /-- How many revisions are wanted at most. -/
  limit : Option Nat
deriving DecidableEq, Repr

/-- The latest revision of a page with its content, no newer than `start`. -/
def RevisionQuery.latest (title : String) (start : Option Nat) : RevisionQuery :=
  ⟨title, true, start, some 1⟩

/-- A place that answers queries, newest revisions first. -/
abbrev RevisionSource := RevisionQuery → Except StorageError (List Revision)

structure SavedRevision where
  id : Nat
  title : String
  content : String
deriving DecidableEq, Repr

/-- All revisions of all pages, oldest first. -/
structure RevisionStore where
  revisions : List SavedRevision
deriving DecidableEq, Repr

namespace RevisionStore

def empty : RevisionStore := ⟨[]⟩

/-- The number of the next revision; revisions are numbered from one, over all pages. -/
def nextId (s : RevisionStore) : Nat := s.revisions.length + 1

def save (s : RevisionStore) (title content : String) : RevisionStore :=
  ⟨s.revisions ++ [⟨s.nextId, title, content⟩]⟩

def ofPages (pages : List (String × String)) : RevisionStore :=
  pages.foldl (fun s (title, content) => s.save title content) empty

def matchesQuery (q : RevisionQuery) (r : SavedRevision) : Bool :=
  r.title == q.title && q.start.all (r.id ≤ ·)

def fetch (s : RevisionStore) (q : RevisionQuery) : List Revision :=
  let found := s.revisions.reverse.filter (matchesQuery q)
  ((q.limit.map found.take).getD found).map fun r =>
    ⟨r.id, if q.withContent then some r.content else none⟩

def source (s : RevisionStore) : RevisionSource := fun q => .ok (s.fetch q)

end RevisionStore
end WebCitation
