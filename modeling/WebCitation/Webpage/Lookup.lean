import WebCitation.Webpage.Cache

/-! Lookups: caches in front of services that take their time to answer. -/
namespace WebCitation

/-- A cache, and what the service behind it answers at present. Times are in milliseconds. -/
structure Lookup (α : Type) where
  cache : ResponseCache α
  served : Except FetchError α
  /-- How long the service takes; without a delay it answers at once. -/
  delay : Option Nat
  /-- When the fetch on its way is answered. -/
  due : Nat

namespace Lookup

def ofService (url : String) (served : Except FetchError α) (delay : Option Nat) : Lookup α :=
  ⟨.ofUrl url, served, delay, 0⟩

/-- When a fetch that is issued now is answered. One with a delay, even of zero, takes until the clock has
moved on. -/
def dueFrom (l : Lookup α) (now : Nat) : Nat :=
  match l.delay with
  | none => now
  | some delay => now + delay + 1

def read (l : Lookup α) (refresh : Bool) (now : Nat) : Lookup α :=
  if l.cache.issues refresh then { l with cache := (l.cache.read refresh).2, due := l.dueFrom now } else l

/-- The lookup after its shared fetch has been waited for, until now. -/
def settleBy (l : Lookup α) (now : Nat) : Lookup α :=
  if l.due ≤ now then { l with cache := l.cache.settleShared l.served } else l

def poll (l : Lookup α) (now : Nat) : Lookup α := (l.read false now).settleBy now

/-- What a reader is answered who asks now. -/
def answer? (l : Lookup α) (now : Nat) : Option (Except FetchError α) := (l.poll now).cache.latest?

/-- A fetch was issued already. -/
def Begun (l : Lookup α) : Prop := l.cache.shared.isSome = true

theorem issues_of_begun {l : Lookup α} (h : l.Begun) : l.cache.issues false = false := by
  rw [ResponseCache.issues_false, h, Bool.not_true]

theorem read_of_begun {l : Lookup α} (h : l.Begun) (now : Nat) : l.read false now = l := by
  simp [read, issues_of_begun h]

theorem begun_read (l : Lookup α) (now : Nat) : (l.read false now).Begun := by
  unfold read
  split
  · rename_i h
    simp [Begun, ResponseCache.read_of_issues h, ResponseCache.issue]
  · rename_i h
    simpa only [Begun, ResponseCache.issues_false, Bool.not_eq_true', Bool.not_eq_false] using h

theorem begun_settleBy {l : Lookup α} (h : l.Begun) (now : Nat) : (l.settleBy now).Begun := by
  unfold settleBy
  split
  · simpa [Begun] using h
  · exact h

theorem begun_poll (l : Lookup α) (now : Nat) : (l.poll now).Begun := begun_settleBy (begun_read l now) now

theorem latest?_settleBy {l : Lookup α} (h : l.Begun) (now : Nat) :
    (l.settleBy now).cache.latest? =
      if l.due ≤ now then some (l.cache.latest?.getD l.served) else l.cache.latest? := by
  obtain ⟨place, hp⟩ := Option.isSome_iff_exists.1 h
  unfold settleBy
  split
  · rw [ResponseCache.latest?_settleShared hp]
  · rfl

theorem isSome_answer?_of_due {l : Lookup α} (h : l.Begun) {now : Nat} (due : l.due ≤ now) :
    (l.answer? now).isSome := by
  rw [answer?, poll, read_of_begun h, latest?_settleBy h, if_pos due]
  rfl

theorem begun_of_isSome_latest? {l : Lookup α} (h : l.cache.latest?.isSome) : l.Begun := by
  obtain ⟨answer, ha⟩ := Option.isSome_iff_exists.1 h
  obtain ⟨place, hp, _⟩ := Option.bind_eq_some_iff.1 ha
  simp [Begun, hp]

theorem isSome_latest?_settleBy {l : Lookup α} (h : l.cache.latest?.isSome) (now : Nat) :
    (l.settleBy now).cache.latest?.isSome := by
  rw [latest?_settleBy (begun_of_isSome_latest? h)]
  split
  · rfl
  · exact h

/-- An answer to one reader is there for all later ones, -/
theorem isSome_answer?_poll {l : Lookup α} {now : Nat} (h : (l.answer? now).isSome) (later : Nat) :
    ((l.poll now).answer? later).isSome := by
  unfold answer?
  rw [poll, read_of_begun (begun_poll l now)]
  exact isSome_latest?_settleBy h later

/-- and also where nobody asked at first. -/
theorem isSome_answer?_mono {l : Lookup α} {now later : Nat} (h : (l.answer? now).isSome)
    (le : now ≤ later) : (l.answer? later).isSome := by
  by_cases hb : l.Begun
  · simp only [answer?, poll, read_of_begun hb, latest?_settleBy hb] at h ⊢
    by_cases due : l.due ≤ now
    · rw [if_pos (Nat.le_trans due le)]
      rfl
    · rw [if_neg due] at h
      split
      · rfl
      · exact h
  · have issues : l.cache.issues false = true := by
      simpa [Begun, ResponseCache.issues_false] using hb
    have pending : (l.read false now).cache.latest? = none := by
      simp [read, issues, ResponseCache.read_of_issues issues, ResponseCache.issue, ResponseCache.latest?,
        ResponseCache.answer?, ResponseCache.calls]
    rw [answer?, poll, latest?_settleBy (begun_read l now), pending] at h
    rw [answer?, poll, latest?_settleBy (begun_read l later)]
    cases hd : l.delay with
    | some delay =>
      have late : ¬ now + delay + 1 ≤ now := by omega
      simp [read, issues, dueFrom, hd, late] at h
    | none => simp [read, issues, dueFrom, hd]

end Lookup
end WebCitation
