import WebCitation.Webpage.Basic
import WebCitation.Webpage.Lookup
import WebCitation.Webpage.Reading

/-!
Visits: a webpage together with the caches that all readings of it share. A reading that waits lets the
clock run to the next answer, so every reading comes to its result.
-/
namespace WebCitation

structure Visit where
  webpage : Webpage
  page : Lookup FetchedPage
  citoid : Lookup SimpleCitation
  now : Nat

namespace Visit

/-- The visit after fresh data of the page was asked for; while a fetch is on its way it will do. -/
def refreshPage (v : Visit) (refresh : Bool) : Visit := { v with page := v.page.read refresh v.now }

def refreshCitoid (v : Visit) (refresh : Bool) : Visit :=
  { v with citoid := v.citoid.read refresh v.now }

def servePage (v : Visit) (served : Except FetchError FetchedPage) : Visit :=
  { v with page := { v.page with served } }

def serveCitoid (v : Visit) (served : Except FetchError SimpleCitation) : Visit :=
  { v with citoid := { v.citoid with served } }

def answers (v : Visit) : Answers := ⟨v.page.answer? v.now, v.citoid.answer? v.now⟩

def poll (v : Visit) (asked : List Source) : Visit :=
  { v with
    page := if .page ∈ asked then v.page.poll v.now else v.page
    citoid := if .citoid ∈ asked then v.citoid.poll v.now else v.citoid }

/-- When a source that was asked will answer, unless it has answered already. -/
def dueOf (asked : List Source) (s : Source) (l : Lookup α) : List Nat :=
  if s ∈ asked ∧ l.cache.latest?.isNone then [l.due] else []

def dues (v : Visit) (asked : List Source) : List Nat :=
  dueOf asked .page v.page ++ dueOf asked .citoid v.citoid

/-- The visit when the next source that was asked answers. -/
def wait (v : Visit) (asked : List Source) : Visit :=
  { v with now := max v.now ((v.dues asked).min?.getD 0) }

/-- How many sources have no answer now. -/
def silent (v : Visit) : Nat :=
  (if v.answers.has .page then 0 else 1) + (if v.answers.has .citoid then 0 else 1)

theorem now_le_wait (v : Visit) (asked : List Source) : v.now ≤ (v.wait asked).now := Nat.le_max_left _ _

theorem has_wait_poll {v : Visit} {s : Source} (h : v.answers.has s = true) (asked : List Source) :
    ((v.poll asked).wait asked).answers.has s = true := by
  have le : v.now ≤ ((v.poll asked).wait asked).now := now_le_wait (v.poll asked) asked
  cases s
  · simp only [answers, Answers.has] at h ⊢
    by_cases hs : Source.page ∈ asked
    · simpa [wait, poll, hs] using Lookup.isSome_answer?_poll h _
    · simpa [wait, poll, hs] using Lookup.isSome_answer?_mono h le
  · simp only [answers, Answers.has] at h ⊢
    by_cases hs : Source.citoid ∈ asked
    · simpa [wait, poll, hs] using Lookup.isSome_answer?_poll h _
    · simpa [wait, poll, hs] using Lookup.isSome_answer?_mono h le

/-- Waiting brings the answer of some source that had none. -/
theorem exists_has_wait_poll {v : Visit} {asked : List Source} {s : Source} (hs : s ∈ asked)
    (h : v.answers.has s = false) :
    ∃ t, v.answers.has t = false ∧ ((v.poll asked).wait asked).answers.has t = true := by
  have dues : (v.poll asked).dues asked ≠ [] := by
    cases s <;>
      simp_all [Visit.dues, dueOf, poll, answers, Answers.has, Lookup.answer?]
  obtain ⟨due, hm⟩ : ∃ due, ((v.poll asked).dues asked).min? = some due := by
    cases hm : ((v.poll asked).dues asked).min? with
    | none => exact absurd (List.min?_eq_none_iff.1 hm) dues
    | some due => exact ⟨due, rfl⟩
  have le : due ≤ ((v.poll asked).wait asked).now := by
    simp only [wait, hm, Option.getD_some]
    exact Nat.le_max_right _ _
  have mem := List.min?_mem hm
  simp only [Visit.dues, List.mem_append] at mem
  rcases mem with mem | mem <;> unfold dueOf at mem <;> split at mem <;>
    simp only [List.mem_singleton, List.not_mem_nil] at mem
  · rename_i hc
    refine ⟨.page, ?_, ?_⟩
    · simpa [poll, hc.1, answers, Answers.has, Lookup.answer?] using hc.2
    · subst mem
      simp only [poll, hc.1, if_true] at le
      simp only [answers, Answers.has]
      exact Lookup.isSome_answer?_of_due (by simpa [wait, poll, hc.1] using Lookup.begun_poll _ _)
        (by simpa [wait, poll, hc.1] using le)
  · rename_i hc
    refine ⟨.citoid, ?_, ?_⟩
    · simpa [poll, hc.1, answers, Answers.has, Lookup.answer?] using hc.2
    · subst mem
      simp only [poll, hc.1, if_true] at le
      simp only [answers, Answers.has]
      exact Lookup.isSome_answer?_of_due (by simpa [wait, poll, hc.1] using Lookup.begun_poll _ _)
        (by simpa [wait, poll, hc.1] using le)

theorem silent_wait_lt {v : Visit} {r : Reading α} (h : (r.poll v.answers).outcome? = none) :
    ((v.poll (r.asked v.answers)).wait (r.asked v.answers)).silent < v.silent := by
  obtain ⟨s, hs, hf⟩ := r.waits_poll v.answers h
  obtain ⟨t, before, after⟩ := exists_has_wait_poll hs hf
  cases t
  · by_cases hc : v.answers.has .citoid = true
    · simp [silent, before, after, hc, has_wait_poll hc]
    · simp only [silent, before, after, hc, if_true, if_false, Bool.false_eq_true]
      split <;> decide
  · by_cases hp : v.answers.has .page = true
    · simp [silent, before, after, hp, has_wait_poll hp]
    · simp only [silent, before, after, hp, if_true, if_false, Bool.false_eq_true]
      split <;> decide

def run (r : Reading α) (v : Visit) : Except ReadingError α × Visit :=
  match _h : (r.poll v.answers).outcome? with
  | some result => (result, v.poll (r.asked v.answers))
  | none => run (r.poll v.answers) ((v.poll (r.asked v.answers)).wait (r.asked v.answers))
termination_by v.silent
decreasing_by exact silent_wait_lt _h

end Visit
end WebCitation
