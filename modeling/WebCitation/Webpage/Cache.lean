import WebCitation.Error.Fetch
import WebCitation.Text.Quoted

/-! Caches that remember the last fetch of an address and share it among its readers. -/
namespace WebCitation

/-- What a cache knows of the last fetch. -/
inductive CacheState where
  | empty
  | pending
  | resolved
  | rejected
deriving DecidableEq, Repr

def CacheState.name : CacheState → String
  | empty => "empty"
  | pending => "pending"
  | resolved => "resolved"
  | rejected => "rejected"

/-- The fetches of an address, and the one that its readers share. -/
structure ResponseCache (α : Type) where
  url : String
  /-- All the fetches that were issued, each with its answer once it is settled. -/
  fetches : List (Option (Except FetchError α))
  /-- The place of the fetch that a read hands out, if one was issued. -/
  shared : Option Nat
  /-- A fetch is on its way. -/
  refreshing : Bool
  issued : ∀ place, shared = some place → place < fetches.length
deriving Repr

namespace ResponseCache

def ofUrl (url : String) : ResponseCache α := ⟨url, [], none, false, fun _ h => nomatch h⟩

def calls (c : ResponseCache α) : Nat := c.fetches.length

def answer? (c : ResponseCache α) (place : Nat) : Option (Except FetchError α) :=
  c.fetches[place]?.join

def latest? (c : ResponseCache α) : Option (Except FetchError α) := c.shared.bind c.answer?

def state (c : ResponseCache α) : CacheState :=
  match c.shared with
  | none => .empty
  | some place =>
    match c.answer? place with
    | none => .pending
    | some (.ok _) => .resolved
    | some (.error _) => .rejected

/-- The data of the shared fetch, if it succeeded. -/
def peek? (c : ResponseCache α) : Option α :=
  match c.latest? with
  | some (.ok a) => some a
  | _ => none

def issue (c : ResponseCache α) : Nat × ResponseCache α :=
  (c.calls, ⟨c.url, c.fetches ++ [none], some c.calls, true, by simp [calls]⟩)

/-- Whether a read issues a new fetch: the first one does, and one that asks for fresh data while no fetch
is on its way. -/
def issues (c : ResponseCache α) (refresh : Bool) : Bool :=
  c.shared.isNone || (refresh && !c.refreshing)

/-- The fetch that a read hands out, and the cache after it. -/
def read (c : ResponseCache α) (refresh : Bool) : Nat × ResponseCache α :=
  match c.shared with
  | some place => if refresh && !c.refreshing then c.issue else (place, c)
  | none => c.issue

/-- Settles a fetch. One that is settled already keeps its answer. -/
def settle (c : ResponseCache α) (place : Nat) (answer : Except FetchError α) : ResponseCache α :=
  match c.fetches[place]? with
  | some none =>
    ⟨c.url, c.fetches.set place (some answer), c.shared, false, by simpa using c.issued⟩
  | _ => c

def settleShared (c : ResponseCache α) (answer : Except FetchError α) : ResponseCache α :=
  match c.shared with
  | some place => c.settle place answer
  | none => c

/-- A read that does not ask for fresh data issues only the first fetch. -/
theorem issues_false (c : ResponseCache α) : c.issues false = !c.shared.isSome := by
  cases h : c.shared <;> simp [issues, h]

theorem read_of_issues {c : ResponseCache α} {refresh : Bool} (h : c.issues refresh = true) :
    c.read refresh = c.issue := by
  unfold read
  split
  · rename_i place hp
    rw [issues, hp] at h
    rw [if_pos (by simpa using h)]
  · rfl

@[simp] theorem shared_settle (c : ResponseCache α) (place : Nat) (answer : Except FetchError α) :
    (c.settle place answer).shared = c.shared := by
  unfold settle
  split <;> rfl

@[simp] theorem calls_settle (c : ResponseCache α) (place : Nat) (answer : Except FetchError α) :
    (c.settle place answer).calls = c.calls := by
  unfold settle
  split
  · exact List.length_set
  · rfl

theorem answer?_settle (c : ResponseCache α) (place other : Nat) (answer : Except FetchError α) :
    (c.settle place answer).answer? other =
      if other = place ∧ other < c.calls then some ((c.answer? other).getD answer) else c.answer? other := by
  by_cases ho : other = place ∧ other < c.calls
  · obtain ⟨rfl, lt⟩ := ho
    rw [if_pos ⟨rfl, lt⟩]
    have lt' : other < c.fetches.length := lt
    unfold settle answer?
    split
    · rename_i h
      have hf : c.fetches[other] = none := (List.getElem?_eq_some_iff.1 h).2
      simp [hf, lt']
    · rename_i h
      cases hf : c.fetches[other] with
      | none => exact absurd (by simp [lt', hf]) h
      | some a => simp [lt', hf]
  · rw [if_neg ho]
    unfold settle answer?
    split
    · rename_i h
      have lt : place < c.fetches.length := (List.getElem?_eq_some_iff.1 h).1
      have ne : place ≠ other := fun he => ho ⟨he.symm, he ▸ lt⟩
      rw [List.getElem?_set_ne ne]
    · rfl

/-- Settling the shared fetch leaves an answer to it, -/
theorem latest?_settleShared {c : ResponseCache α} {place : Nat} (hp : c.shared = some place)
    (answer : Except FetchError α) :
    (c.settleShared answer).latest? = some (c.latest?.getD answer) := by
  simp only [settleShared, hp, latest?, shared_settle, Option.bind_some]
  rw [answer?_settle, if_pos ⟨rfl, c.issued place hp⟩]

/-- and it stays the shared one. -/
@[simp] theorem shared_settleShared (c : ResponseCache α) (answer : Except FetchError α) :
    (c.settleShared answer).shared = c.shared := by
  unfold settleShared
  split <;> simp

@[simp] theorem calls_settleShared (c : ResponseCache α) (answer : Except FetchError α) :
    (c.settleShared answer).calls = c.calls := by
  unfold settleShared
  split <;> simp

def text (c : ResponseCache α) : String :=
  "ResponseCache \x7b url: " ++ c.url.quoted ++ ", refreshing: "
    ++ (if c.refreshing then "true" else "false") ++ " \x7d"

end ResponseCache
end WebCitation
