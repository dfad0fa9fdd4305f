import WebCitation.Citation.Simple
import WebCitation.Error.Reading
import WebCitation.Webpage.FetchedPage

/-!
Readings of a webpage. A reading asks the page, its citation or both. A poll lets it go on as far as the
answers so far allow; what is left of it waits only for a source that it asked and that has not answered.
-/
namespace WebCitation

inductive Source where
  | page
  | citoid
deriving DecidableEq, Repr

/-- What the sources have answered so far. -/
structure Answers where
  page : Option (Except FetchError FetchedPage)
  citoid : Option (Except FetchError SimpleCitation)

def Answers.has (a : Answers) : Source → Bool
  | .page => a.page.isSome
  | .citoid => a.citoid.isSome

/-- What is read of a webpage. The parts of a reading that go on at once are polled in order. -/
inductive Reading : Type → Type 1 where
  | done {α : Type} (result : Except ReadingError α) : Reading α
  /-- The fetched page. -/
  | page : Reading FetchedPage
  /-- The citation of the page. -/
  | citoid : Reading SimpleCitation
  /-- One reading, and then the one that its value leads to. -/
  | bind {α β : Type} (r : Reading α) (f : α → Reading β) : Reading β
  /-- Two readings at once, each of them to its end. -/
  | both {α : Type} (r : Reading α) (rs : Reading (List α)) : Reading (List α)
  /-- Two readings at once. The second is begun unless the first has failed, and a failure of either is the
  result even while the other waits. -/
  | orFailure {α : Type} (r : Reading α) (rs : Reading (List α)) : Reading (List α)
  /-- Two readings at once. While the first waits, there is no result, and `later` go on; once it is
  through, `rs` are read. -/
  | ahead {α : Type} (r : Reading α) (rs later : Reading (List α)) : Reading (List α)

namespace Reading

def pure (x : α) : Reading α := done (.ok x)

def fail (e : ReadingError) : Reading α := done (.error e)

def ofExcept (result : Except ReadingError α) : Reading α := done result

def map (f : α → β) (r : Reading α) : Reading β := r.bind fun x => pure (f x)

/-- One reading after the other; a failure ends them. -/
def inTurn : List (Reading α) → Reading (List α)
  | [] => pure []
  | r :: rs => r.bind fun x => (inTurn rs).map (x :: ·)

/-- One reading after the other, up to and with the first value that satisfies `p`. -/
def upTo (p : α → Bool) : List (Reading α) → Reading (List α)
  | [] => pure []
  | r :: rs => r.bind fun x => if p x then pure [x] else (upTo p rs).map (x :: ·)

/-- All readings at once, each of them to its end; of failures the first in order counts. -/
def all : List (Reading α) → Reading (List α)
  | [] => pure []
  | r :: rs => both r (all rs)

/-- Readings at once, begun in order until one has failed; the first failure that is seen counts. -/
def untilFailure : List (Reading α) → Reading (List α)
  | [] => pure []
  | r :: rs => orFailure r (untilFailure rs)

/-- Readings at once, of which a failure counts only after all before it are through. -/
def untilFailureInOrder : List (Reading α) → Reading (List α)
  | [] => pure []
  | r :: rs => ahead r (untilFailureInOrder rs) (all rs)

def outcome? : Reading α → Option (Except ReadingError α)
  | done result => some result
  | _ => none

/-- The first of two results in front of the second; of two failures the first counts. -/
def consResult (x : Except ReadingError α) (xs : Except ReadingError (List α)) :
    Except ReadingError (List α) :=
  match x with
  | .ok x => xs.map (x :: ·)
  | .error e => .error e

def bothOutcome : Option (Except ReadingError α) → Option (Except ReadingError (List α)) →
    Option (Except ReadingError (List α))
  | some x, some xs => some (consResult x xs)
  | _, _ => none

def earlyOutcome : Option (Except ReadingError α) → Option (Except ReadingError (List α)) →
    Option (Except ReadingError (List α))
  | some (.error e), _ => some (.error e)
  | _, some (.error e) => some (.error e)
  | some (.ok x), some (.ok xs) => some (.ok (x :: xs))
  | _, _ => none

theorem bothOutcome_eq_none {x : Option (Except ReadingError α)} {xs : Option (Except ReadingError (List α))}
    (h : bothOutcome x xs = none) : x = none ∨ xs = none := by
  cases x <;> cases xs <;> simp_all [bothOutcome]

theorem earlyOutcome_eq_none {x : Option (Except ReadingError α)}
    {xs : Option (Except ReadingError (List α))} (h : earlyOutcome x xs = none) :
    x = none ∨ (∃ y, x = some (.ok y)) ∧ xs = none := by
  match x, xs with
  | none, _ => exact .inl rfl
  | some (.ok y), none => exact .inr ⟨⟨y, rfl⟩, rfl⟩
  | some (.ok _), some (.ok _) => cases h
  | some (.ok _), some (.error _) => cases h
  | some (.error _), _ => cases h

/-- What is left of a reading after a poll, with what the sources have answered so far. -/
def poll (a : Answers) : Reading α → Reading α
  | done result => done result
  | page => (a.page.map fun x => done (x.mapError .fetch)).getD page
  | citoid => (a.citoid.map fun x => done (x.mapError .fetch)).getD citoid
  | bind r f =>
    let r := r.poll a
    match r.outcome? with
    | some (.ok x) => (f x).poll a
    | some (.error e) => done (.error e)
    | none => bind r f
  | both r rs =>
    let r := r.poll a
    let rs := rs.poll a
    ((bothOutcome r.outcome? rs.outcome?).map done).getD (both r rs)
  | orFailure r rs =>
    let r := r.poll a
    let rs := rs.poll a
    ((earlyOutcome r.outcome? rs.outcome?).map done).getD (orFailure r rs)
  | ahead r rs later =>
    let r := r.poll a
    match r.outcome? with
    | some (.ok x) =>
      let rs := rs.poll a
      (rs.outcome?.map fun xs => done (xs.map (x :: ·))).getD (rs.map (x :: ·))
    | some (.error e) => done (.error e)
    | none => ahead r rs (later.poll a)

def asked (a : Answers) : Reading α → List Source
  | done _ => []
  | page => [.page]
  | citoid => [.citoid]
  | bind r f =>
    r.asked a ++
      match (r.poll a).outcome? with
      | some (.ok x) => (f x).asked a
      | _ => []
  | both r rs => r.asked a ++ rs.asked a
  | orFailure r rs =>
    r.asked a ++
      match (r.poll a).outcome? with
      | some (.error _) => []
      | _ => rs.asked a
  | ahead r rs later =>
    r.asked a ++
      match (r.poll a).outcome? with
      | some (.ok _) => rs.asked a
      | some (.error _) => []
      | none => later.asked a

/-! What a poll leaves of readings that are put together. -/

theorem poll_bind_cases (a : Answers) (r : Reading α) (f : α → Reading β) :
    (∃ x, (r.poll a).outcome? = some (.ok x) ∧ (r.bind f).poll a = (f x).poll a) ∨
    (∃ e, (r.poll a).outcome? = some (.error e) ∧ (r.bind f).poll a = fail e) ∨
    (r.poll a).outcome? = none ∧ (r.bind f).poll a = (r.poll a).bind f := by
  simp only [poll]
  split
  · rename_i x ends
    exact .inl ⟨x, ends, rfl⟩
  · rename_i e ends
    exact .inr (.inl ⟨e, ends, rfl⟩)
  · rename_i waits
    exact .inr (.inr ⟨waits, rfl⟩)

theorem poll_both_cases (a : Answers) (r : Reading α) (rs : Reading (List α)) :
    (∃ result, bothOutcome (r.poll a).outcome? (rs.poll a).outcome? = some result ∧
      (r.both rs).poll a = done result) ∨
    bothOutcome (r.poll a).outcome? (rs.poll a).outcome? = none ∧
      (r.both rs).poll a = (r.poll a).both (rs.poll a) := by
  simp only [poll]
  cases bothOutcome (r.poll a).outcome? (rs.poll a).outcome? with
  | some result => exact .inl ⟨result, rfl, rfl⟩
  | none => exact .inr ⟨rfl, rfl⟩

theorem poll_orFailure_cases (a : Answers) (r : Reading α) (rs : Reading (List α)) :
    (∃ result, earlyOutcome (r.poll a).outcome? (rs.poll a).outcome? = some result ∧
      (r.orFailure rs).poll a = done result) ∨
    earlyOutcome (r.poll a).outcome? (rs.poll a).outcome? = none ∧
      (r.orFailure rs).poll a = (r.poll a).orFailure (rs.poll a) := by
  simp only [poll]
  cases earlyOutcome (r.poll a).outcome? (rs.poll a).outcome? with
  | some result => exact .inl ⟨result, rfl, rfl⟩
  | none => exact .inr ⟨rfl, rfl⟩

/-- Once the first is through, what is left is what is left of the second. -/
theorem poll_ahead_cases (a : Answers) (r : Reading α) (rs later : Reading (List α)) :
    (∃ x result, (r.poll a).outcome? = some (.ok x) ∧ (rs.poll a).outcome? = some result ∧
      (r.ahead rs later).poll a = done (result.map (x :: ·))) ∨
    (∃ x, (r.poll a).outcome? = some (.ok x) ∧ (rs.poll a).outcome? = none ∧
      (r.ahead rs later).poll a = (rs.poll a).map (x :: ·)) ∨
    (∃ e, (r.poll a).outcome? = some (.error e) ∧ (r.ahead rs later).poll a = fail e) ∨
    (r.poll a).outcome? = none ∧ (r.ahead rs later).poll a = (r.poll a).ahead rs (later.poll a) := by
  simp only [poll]
  split
  · rename_i x ends
    cases left : (rs.poll a).outcome? with
    | some result => exact .inl ⟨x, result, ends, rfl, rfl⟩
    | none => exact .inr (.inl ⟨x, ends, rfl, rfl⟩)
  · rename_i e ends
    exact .inr (.inr (.inl ⟨e, ends, rfl⟩))
  · rename_i waits
    exact .inr (.inr (.inr ⟨waits, rfl⟩))

/-- Sources are asked of which one has not answered. -/
def WaitsFor (a : Answers) (sources : List Source) : Prop := ∃ s ∈ sources, a.has s = false

theorem waitsFor_append {a : Answers} {before after : List Source} :
    WaitsFor a (before ++ after) ↔ WaitsFor a before ∨ WaitsFor a after := by
  simp only [WaitsFor, List.mem_append, or_and_right, exists_or]

theorem waitsFor_page {a : Answers} (h : (poll a page).outcome? = none) : WaitsFor a [.page] := by
  refine ⟨.page, List.mem_singleton_self _, ?_⟩
  cases answered : a.page with
  | none => simp [Answers.has, answered]
  | some x => simp [poll, answered, outcome?] at h

theorem waitsFor_citoid {a : Answers} (h : (poll a citoid).outcome? = none) : WaitsFor a [.citoid] := by
  refine ⟨.citoid, List.mem_singleton_self _, ?_⟩
  cases answered : a.citoid with
  | none => simp [Answers.has, answered]
  | some x => simp [poll, answered, outcome?] at h

/-- What is left of a reading has come to its end, or waits for a source that it has asked. -/
theorem waits_poll (a : Answers) (r : Reading α) (h : (r.poll a).outcome? = none) : WaitsFor a (r.asked a) := by
  induction r with
  | done result => cases h
  | page => exact waitsFor_page h
  | citoid => exact waitsFor_citoid h
  | bind r f ihr ihf =>
    rw [asked, waitsFor_append]
    obtain ⟨x, ends, left⟩ | ⟨e, ends, left⟩ | ⟨waits, _⟩ := poll_bind_cases a r f
    · rw [left] at h
      rw [ends]
      exact .inr (ihf x h)
    · rw [left] at h
      cases h
    · exact .inl (ihr waits)
  | both r rs ihr ihrs =>
    rw [asked, waitsFor_append]
    obtain ⟨result, _, left⟩ | ⟨waits, _⟩ := poll_both_cases a r rs
    · rw [left] at h
      cases h
    · exact (bothOutcome_eq_none waits).imp ihr ihrs
  | orFailure r rs ihr ihrs =>
    rw [asked, waitsFor_append]
    obtain ⟨result, _, left⟩ | ⟨waits, _⟩ := poll_orFailure_cases a r rs
    · rw [left] at h
      cases h
    · obtain first | ⟨⟨x, ends⟩, second⟩ := earlyOutcome_eq_none waits
      · exact .inl (ihr first)
      · rw [ends]
        exact .inr (ihrs second)
  | ahead r rs later ihr ihrs ihlater =>
    rw [asked, waitsFor_append]
    obtain ⟨_, _, _, _, left⟩ | ⟨x, ends, second, _⟩ | ⟨_, _, left⟩ | ⟨first, _⟩ := poll_ahead_cases a r rs later
    · rw [left] at h
      cases h
    · rw [ends]
      exact .inr (ihrs second)
    · rw [left] at h
      cases h
    · exact .inl (ihr first)

end Reading
end WebCitation
