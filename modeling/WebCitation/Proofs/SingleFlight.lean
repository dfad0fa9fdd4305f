import WebCitation.Webpage.Cache

/-!
Caches over time. Whoever reads a cache, and whenever its fetches come to their ends, at most one of them is
on its way, and all readers share the last one.
-/
namespace WebCitation

/-- What happens to a cache: it is read, or one of its fetches is settled. -/
inductive CacheEvent (α : Type) where
  | read (refresh : Bool)
  | settle (place : Nat) (answer : Except FetchError α)

namespace ResponseCache

def step (c : ResponseCache α) : CacheEvent α → ResponseCache α
  | .read refresh => (c.read refresh).2
  | .settle place answer => c.settle place answer

def after (c : ResponseCache α) (events : List (CacheEvent α)) : ResponseCache α := events.foldl step c

/-- A cache whose earlier fetches were answered, and whose last one may be on its way. -/
def ofFetches (url : String) (earlier : List (Except FetchError α)) (last : Option (Except FetchError α)) :
    ResponseCache α :=
  ⟨url, earlier.map some ++ [last], some earlier.length, last.isNone, by simp⟩

/-- The state that a cache is in on account of its last fetch. -/
def stateOf : Option (Option (Except FetchError α)) → CacheState
  | none => .empty
  | some none => .pending
  | some (some (.ok _)) => .resolved
  | some (some (.error _)) => .rejected

/-- The caches whose shared fetch and whose flag are in step with their fetches. -/
inductive InStep : ResponseCache α → Prop where
  | unread (url : String) : InStep (ofUrl url)
  | read (url : String) (earlier : List (Except FetchError α)) (last : Option (Except FetchError α)) :
      InStep (ofFetches url earlier last)

section OfFetches

variable (url : String) (earlier : List (Except FetchError α)) (last : Option (Except FetchError α))

@[simp] theorem calls_ofFetches : (ofFetches url earlier last).calls = earlier.length + 1 := by
  simp [ofFetches, calls]

@[simp] theorem latest?_ofFetches : (ofFetches url earlier last).latest? = last := by
  simp [ofFetches, latest?, answer?]

@[simp] theorem getLast?_ofFetches : (ofFetches url earlier last).fetches.getLast? = some last := by
  simp [ofFetches]

theorem state_ofFetches : (ofFetches url earlier last).state = stateOf (some last) := by
  match last with
  | none => simp [ofFetches, state, answer?, stateOf]
  | some (.ok a) => simp [ofFetches, state, answer?, stateOf]
  | some (.error e) => simp [ofFetches, state, answer?, stateOf]

/-- A read of such a cache issues a fetch only if it asks for fresh data and the last fetch is settled. -/
theorem read_ofFetches (refresh : Bool) :
    (ofFetches url earlier last).read refresh =
      match last with
      | some x =>
        if refresh then (earlier.length + 1, ofFetches url (earlier ++ [x]) none)
        else (earlier.length, ofFetches url earlier (some x))
      | none => (earlier.length, ofFetches url earlier none) := by
  cases last with
  | none => cases refresh <;> rfl
  | some x => cases refresh <;> simp [ofFetches, read, issue, calls]

/-- Only the last fetch can be on its way, -/
theorem getElem?_ofFetches_eq_none_iff (place : Nat) :
    (ofFetches url earlier last).fetches[place]? = some none ↔ place = earlier.length ∧ last = none := by
  rcases Nat.lt_trichotomy place earlier.length with lt | rfl | gt
  · rw [ofFetches, List.getElem?_append_left (by simpa using lt)]
    simp [lt, Nat.ne_of_lt lt]
  · simp [ofFetches]
  · have missing : (earlier.map some ++ [last])[place]? = none := by
      rw [List.getElem?_eq_none_iff, List.length_append, List.length_map]
      exact gt
    rw [ofFetches, missing]
    simp [Nat.ne_of_gt gt]

/-- so nothing else can be settled. -/
theorem settle_ofFetches (place : Nat) (answer : Except FetchError α) :
    (ofFetches url earlier last).settle place answer =
      if place = earlier.length ∧ last = none then ofFetches url earlier (some answer)
      else ofFetches url earlier last := by
  split
  · rename_i h
    obtain ⟨rfl, rfl⟩ := h
    simp [ofFetches, settle]
  · rename_i h
    unfold settle
    split
    · rename_i onItsWay
      exact absurd ((getElem?_ofFetches_eq_none_iff url earlier last place).1 onItsWay) h
    · rfl

end OfFetches

theorem InStep.step {c : ResponseCache α} (h : c.InStep) (e : CacheEvent α) : (c.step e).InStep := by
  cases h with
  | unread url =>
    cases e with
    | read refresh => exact .read url [] none
    | settle place answer => exact .unread url
  | read url earlier last =>
    cases e with
    | read refresh =>
      simp only [ResponseCache.step, read_ofFetches]
      split
      · split
        · exact .read url _ none
        · exact .read url earlier _
      · exact .read url earlier none
    | settle place answer =>
      simp only [ResponseCache.step, settle_ofFetches]
      split
      · exact .read url earlier _
      · exact .read url earlier last

theorem InStep.after {c : ResponseCache α} (h : c.InStep) (events : List (CacheEvent α)) :
    (c.after events).InStep := by
  induction events generalizing c with
  | nil => exact h
  | cons e events ih => exact ih (h.step e)

/-- An answer to a fetch stays whatever happens next. -/
theorem answer?_step {c : ResponseCache α} {place : Nat} {x : Except FetchError α}
    (h : c.answer? place = some x) (e : CacheEvent α) : (c.step e).answer? place = some x := by
  cases e with
  | read refresh =>
    have lt : place < c.fetches.length := by
      obtain ⟨fetch, hf, _⟩ := Option.bind_eq_some_iff.1 h
      exact (List.getElem?_eq_some_iff.1 hf).1
    have issued : c.issue.2.answer? place = some x := by
      rw [← h, issue, answer?, answer?, List.getElem?_append_left lt]
    simp only [step, read]
    split
    · split
      · exact issued
      · exact h
    · exact issued
  | settle other answer =>
    rw [step, answer?_settle, h]
    split <;> rfl

theorem answer?_after {c : ResponseCache α} {place : Nat} {x : Except FetchError α}
    (h : c.answer? place = some x) (events : List (CacheEvent α)) :
    (c.after events).answer? place = some x := by
  induction events generalizing c with
  | nil => exact h
  | cons e events ih => exact ih (answer?_step h e)

/-- Once its last fetch is settled, a cache changes only where fresh data is asked for. -/
theorem after_eq_of_settled (url : String) (earlier : List (Except FetchError α)) (x : Except FetchError α)
    {events : List (CacheEvent α)} (h : ∀ e ∈ events, e ≠ .read true) :
    (ofFetches url earlier (some x)).after events = ofFetches url earlier (some x) := by
  induction events with
  | nil => rfl
  | cons e events ih =>
    have same : (ofFetches url earlier (some x)).step e = ofFetches url earlier (some x) := by
      cases e with
      | read refresh =>
        cases refresh with
        | true => exact absurd rfl (h _ List.mem_cons_self)
        | false =>
          rw [step, read_ofFetches]
          rfl
      | settle place answer => rw [step, settle_ofFetches, if_neg (by simp)]
    rw [after, List.foldl_cons, same]
    exact ih fun e he => h e (List.mem_cons_of_mem _ he)

/-- A cache that fetches once for all who read it in the meantime. -/
structure SingleFlight (c : ResponseCache α) : Prop where
  one_on_its_way : c.fetches.countP Option.isNone ≤ 1
  refreshing_iff : c.refreshing = true ↔ c.state = .pending
  /-- A new fetch is issued if there was none, or if fresh data is asked for and the last fetch is settled. -/
  issues_iff : ∀ refresh, (c.read refresh).2.fetches = c.fetches ++ [none] ↔
    c.fetches = [] ∨ refresh = true ∧ ∃ x, c.fetches.getLast? = some (some x)
  /-- Any other read leaves the cache as it is. -/
  read_eq : ∀ refresh, (c.read refresh).2.fetches ≠ c.fetches ++ [none] → (c.read refresh).2 = c
  hands_out_last : ∀ refresh, (c.read refresh).1 + 1 = (c.read refresh).2.calls
  /-- A fetch on its way can be settled, and then no fetch is on its way. -/
  settles : ∀ place answer, c.fetches[place]? = some none →
    (c.settle place answer).answer? place = some answer ∧ (c.settle place answer).refreshing = false
  answers_stay : ∀ place x events, c.answer? place = some x → (c.after events).answer? place = some x
  state_eq : c.state = stateOf c.fetches.getLast?
  /-- Once its last fetch is settled, a cache stays as it is until fresh data is asked for. -/
  settled_stays : ∀ events, c.state = .resolved ∨ c.state = .rejected →
    (∀ e ∈ events, e ≠ .read true) → c.after events = c
  peek_iff : c.peek?.isSome = true ↔ c.state = .resolved
  peek_last : ∀ a, c.peek? = some a ↔ c.fetches.getLast? = some (some (.ok a))

theorem singleFlight_ofUrl (url : String) : (ofUrl url : ResponseCache α).SingleFlight where
  one_on_its_way := Nat.zero_le 1
  refreshing_iff := by simp [ofUrl, state]
  issues_iff refresh := by simp [ofUrl, read, issue]
  read_eq refresh h := absurd rfl h
  hands_out_last refresh := rfl
  settles place answer h := nomatch h
  answers_stay place x events h := answer?_after h events
  state_eq := rfl
  settled_stays events h := by simp [ofUrl, state] at h
  peek_iff := by simp [ofUrl, state, peek?, latest?]
  peek_last a := by simp [ofUrl, peek?, latest?]

theorem singleFlight_ofFetches (url : String) (earlier : List (Except FetchError α))
    (last : Option (Except FetchError α)) : (ofFetches url earlier last).SingleFlight where
  one_on_its_way := by
    have settled : (earlier.map some).countP Option.isNone = 0 := by
      simp [List.countP_eq_zero]
    have one := List.countP_le_length (p := Option.isNone) (l := [last])
    simpa [ofFetches, List.countP_append, settled] using one
  refreshing_iff := by
    rw [state_ofFetches]
    match last with
    | none => simp [ofFetches, stateOf]
    | some (.ok a) => simp [ofFetches, stateOf]
    | some (.error e) => simp [ofFetches, stateOf]
  issues_iff refresh := by
    rw [read_ofFetches]
    cases last <;> cases refresh <;> simp [ofFetches]
  read_eq refresh := by
    rw [read_ofFetches]
    cases last <;> cases refresh <;> simp [ofFetches]
  hands_out_last refresh := by
    rw [read_ofFetches]
    cases last <;> cases refresh <;> simp
  settles place answer h := by
    obtain ⟨rfl, rfl⟩ := (getElem?_ofFetches_eq_none_iff url earlier last place).1 h
    rw [settle_ofFetches, if_pos ⟨rfl, rfl⟩]
    simp [ofFetches, answer?]
  answers_stay place x events h := answer?_after h events
  state_eq := by rw [getLast?_ofFetches, state_ofFetches]
  settled_stays events := by
    cases last with
    | none => simp [state_ofFetches, stateOf]
    | some x => exact fun _ h => after_eq_of_settled url earlier x h
  peek_iff := by
    rw [state_ofFetches]
    match last with
    | none => simp [peek?, stateOf]
    | some (.ok a) => simp [peek?, stateOf]
    | some (.error e) => simp [peek?, stateOf]
  peek_last a := by
    rw [getLast?_ofFetches]
    match last with
    | none => simp [peek?]
    | some (.ok a) => simp [peek?]
    | some (.error e) => simp [peek?]

theorem InStep.singleFlight {c : ResponseCache α} (h : c.InStep) : c.SingleFlight := by
  cases h with
  | unread url => exact singleFlight_ofUrl url
  | read url earlier last => exact singleFlight_ofFetches url earlier last

/-- Whatever happens to a cache, it fetches once for all who read it in the meantime. -/
theorem single_flight_after (url : String) (events : List (CacheEvent α)) :
    ((ofUrl url).after events).SingleFlight := ((InStep.unread url).after events).singleFlight

/-- Fresh data is not fetched while a fetch is on its way. -/
example : ((ofUrl "u" : ResponseCache Nat).after
    [.read true, .read true, .settle 0 (.ok 1), .read false, .read true]).fetches = [some (.ok 1), none] := rfl

end ResponseCache
end WebCitation
