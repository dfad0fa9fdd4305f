import WebCitation.Domain.Reading
import WebCitation.Webpage.Given

/-!
Many readings of one webpage. They share its caches, so the page and its citation are fetched at most once,
and what a selection was answered is what all later ones are answered.
-/
namespace WebCitation

namespace Lookup

/-- At most one fetch was issued, and none that is not shared. -/
structure Once (l : Lookup α) : Prop where
  at_most : l.cache.calls ≤ 1
  unread : ¬ l.Begun → l.cache.calls = 0

theorem once_ofService (url : String) (served : Except FetchError α) (delay : Option Nat) :
    (ofService url served delay).Once := ⟨Nat.zero_le 1, fun _ => rfl⟩

theorem calls_settleBy (l : Lookup α) (now : Nat) : (l.settleBy now).cache.calls = l.cache.calls := by
  unfold settleBy
  split
  · exact ResponseCache.calls_settleShared _ _
  · rfl

theorem Once.poll {l : Lookup α} (h : l.Once) (now : Nat) : (l.poll now).Once where
  at_most := by
    rw [Lookup.poll, calls_settleBy, read]
    split
    · rename_i issues
      -- A read without refresh issues a fetch only where there was none.
      have unread : ¬ l.Begun := by
        intro begun
        rw [issues_of_begun begun] at issues
        cases issues
      simpa [ResponseCache.read_of_issues issues, ResponseCache.issue, ResponseCache.calls] using h.unread unread
    · exact h.at_most
  unread unread := absurd (begun_poll l now) unread

theorem latest?_poll {l : Lookup α} {x : Except FetchError α} (h : l.cache.latest? = some x) (now : Nat) :
    (l.poll now).cache.latest? = some x := by
  have begun : l.Begun := begun_of_isSome_latest? (by rw [h]; rfl)
  rw [poll, read_of_begun begun, latest?_settleBy begun, h]
  split <;> rfl

end Lookup

namespace Visit

structure Once (v : Visit) : Prop where
  page : v.page.Once
  citoid : v.citoid.Once

/-- What the lookups of one visit hold, those of the other hold as well. -/
structure Keeps (v w : Visit) : Prop where
  page : ∀ x, v.page.cache.latest? = some x → w.page.cache.latest? = some x
  citoid : ∀ x, v.citoid.cache.latest? = some x → w.citoid.cache.latest? = some x

theorem Keeps.trans {u v w : Visit} (h : u.Keeps v) (h' : v.Keeps w) : u.Keeps w :=
  ⟨fun x hx => h'.page x (h.page x hx), fun x hx => h'.citoid x (h.citoid x hx)⟩

theorem keeps_rfl {v : Visit} : v.Keeps v := ⟨fun _ h => h, fun _ h => h⟩

theorem once_start (w : Webpage) (page : Except FetchError FetchedPage)
    (citoid : Except FetchError SimpleCitation) (pageDelay citoidDelay : Option Nat) :
    (start w page citoid pageDelay citoidDelay).Once :=
  ⟨Lookup.once_ofService _ _ _, Lookup.once_ofService _ _ _⟩

theorem Once.poll {v : Visit} (h : v.Once) (asked : List Source) : (v.poll asked).Once where
  page := by
    simp only [Visit.poll]
    split
    · exact h.page.poll v.now
    · exact h.page
  citoid := by
    simp only [Visit.poll]
    split
    · exact h.citoid.poll v.now
    · exact h.citoid

theorem keeps_poll (v : Visit) (asked : List Source) : v.Keeps (v.poll asked) where
  page x h := by
    simp only [poll]
    split
    · exact Lookup.latest?_poll h v.now
    · exact h
  citoid x h := by
    simp only [poll]
    split
    · exact Lookup.latest?_poll h v.now
    · exact h

theorem Once.wait {v : Visit} (h : v.Once) (asked : List Source) : (v.wait asked).Once := ⟨h.page, h.citoid⟩

theorem keeps_wait (v : Visit) (asked : List Source) : v.Keeps (v.wait asked) := ⟨fun _ h => h, fun _ h => h⟩

theorem Once.run {v : Visit} (h : v.Once) (r : Reading α) : (v.run r).2.Once := by
  fun_induction Visit.run r v with
  | case1 r v result _ => exact h.poll _
  | case2 r v _ ih => exact ih ((h.poll _).wait _)

theorem keeps_run (r : Reading α) (v : Visit) : v.Keeps (v.run r).2 := by
  fun_induction run r v with
  | case1 r v result _ => exact keeps_poll v _
  | case2 r v _ ih => exact (keeps_poll v _).trans ((keeps_wait _ _).trans ih)

end Visit

/-- A poll of a reading: the visit that it finds, and the sources that it asks. -/
structure Poll where
  visit : Visit
  asked : List Source

namespace Poll

def answers (p : Poll) : Answers := p.visit.answers

/-- The visit after a poll. -/
def after (p : Poll) : Visit := p.visit.poll p.asked

end Poll

/-- The polls of one reading, in their order. -/
def Visit.polls (r : Reading α) (v : Visit) : List Poll :=
  match _h : (r.poll v.answers).outcome? with
  | some _ => [⟨v, r.asked v.answers⟩]
  | none =>
    ⟨v, r.asked v.answers⟩ ::
      polls (r.poll v.answers) ((v.poll (r.asked v.answers)).wait (r.asked v.answers))
termination_by v.silent
decreasing_by exact silent_wait_lt _h

namespace Visit

theorem polls_of_outcome {r : Reading α} {v : Visit} {result : Except ReadingError α}
    (h : (r.poll v.answers).outcome? = some result) : v.polls r = [⟨v, r.asked v.answers⟩] := by
  rw [polls]
  split
  · rfl
  · rename_i waits
    rw [waits] at h
    cases h

theorem polls_of_waits {r : Reading α} {v : Visit} (h : (r.poll v.answers).outcome? = none) :
    v.polls r = ⟨v, r.asked v.answers⟩ ::
      ((v.poll (r.asked v.answers)).wait (r.asked v.answers)).polls (r.poll v.answers) := by
  rw [polls]
  split
  · rename_i result ends
    rw [ends] at h
    cases h
  · rfl

theorem keeps_of_mem_polls {r : Reading α} {v : Visit} {p : Poll} (h : p ∈ v.polls r) :
    v.Keeps p.visit := by
  fun_induction run r v with
  | case1 r v result ends =>
    rw [polls_of_outcome ends, List.mem_singleton] at h
    subst h
    exact keeps_rfl
  | case2 r v waits ih =>
    rw [polls_of_waits waits] at h
    rcases List.mem_cons.1 h with rfl | h
    · exact keeps_rfl
    · exact (keeps_poll v _).trans ((keeps_wait _ _).trans (ih h))

theorem keeps_run_of_mem_polls {r : Reading α} {v : Visit} {p : Poll} (h : p ∈ v.polls r) :
    p.after.Keeps (v.run r).2 := by
  fun_induction run r v with
  | case1 r v result ends =>
    rw [polls_of_outcome ends, List.mem_singleton] at h
    subst h
    exact keeps_rfl
  | case2 r v waits ih =>
    rw [polls_of_waits waits] at h
    rcases List.mem_cons.1 h with rfl | h
    · exact (keeps_wait _ _).trans (keeps_run _ _)
    · exact ih h

theorem pairwise_polls (r : Reading α) (v : Visit) :
    (v.polls r).Pairwise fun p q => p.after.Keeps q.visit := by
  fun_induction run r v with
  | case1 r v result ends =>
    rw [polls_of_outcome ends]
    exact List.pairwise_singleton _ _
  | case2 r v waits ih =>
    rw [polls_of_waits waits]
    exact List.pairwise_cons.2 ⟨fun q hq => (keeps_wait _ _).trans (keeps_of_mem_polls hq), ih⟩

end Visit

/-- A webpage is read by a domain, some time after it was read before. Since then the services may answer
otherwise and with other delays. -/
structure Call where
  domain : Domain
  options : ReadingOptions
  pause : Nat
  page : Except FetchError FetchedPage
  citoid : Except FetchError SimpleCitation
  pageDelay : Option Nat
  citoidDelay : Option Nat

namespace Visit

def resume (v : Visit) (c : Call) : Visit :=
  { v with
    page := { v.page with served := c.page, delay := c.pageDelay }
    citoid := { v.citoid with served := c.citoid, delay := c.citoidDelay }
    now := v.now + c.pause }

def call (v : Visit) (c : Call) : Except ReadingError (List TemplateOutput) × Visit :=
  (v.resume c).readBy c.domain c.options

def afterCalls (v : Visit) (calls : List Call) : Visit := calls.foldl (fun v c => (v.call c).2) v

/-- All polls of calls in their order. -/
def history (v : Visit) : List Call → List Poll
  | [] => []
  | c :: calls =>
    (v.resume c).polls (c.domain.reading v.webpage c.options) ++ (v.call c).2.history calls

theorem Once.afterCalls {v : Visit} (h : v.Once) (calls : List Call) : (v.afterCalls calls).Once := by
  induction calls generalizing v with
  | nil => exact h
  | cons c calls ih =>
    have resumed : (v.resume c).Once := ⟨⟨h.page.at_most, h.page.unread⟩, ⟨h.citoid.at_most, h.citoid.unread⟩⟩
    exact ih (resumed.run _)

theorem keeps_resume (v : Visit) (c : Call) : v.Keeps (v.resume c) := ⟨fun _ h => h, fun _ h => h⟩

theorem keeps_of_mem_history {v : Visit} {calls : List Call} {p : Poll} (h : p ∈ v.history calls) :
    v.Keeps p.visit := by
  induction calls generalizing v with
  | nil => cases h
  | cons c calls ih =>
    rcases List.mem_append.1 h with h | h
    · exact (keeps_resume v c).trans (keeps_of_mem_polls h)
    · exact (keeps_resume v c).trans ((keeps_run _ _).trans (ih h))

theorem pairwise_history (v : Visit) (calls : List Call) :
    (v.history calls).Pairwise fun p q => p.after.Keeps q.visit := by
  induction calls generalizing v with
  | nil => exact .nil
  | cons c calls ih =>
    -- Polls of one call are pairwise as they should be; from one call to the next, the visit in between keeps all.
    rw [history, List.pairwise_append]
    exact ⟨pairwise_polls _ _, ih _, fun p hp q hq =>
      (keeps_run_of_mem_polls hp).trans (keeps_of_mem_history hq)⟩

end Visit

/-- What a fetch has come to by the end of one poll, data or failure, all selections of the other are answered. -/
structure Poll.SeenAgain (p q : Poll) : Prop where
  page : ∀ x, p.after.page.cache.latest? = some x → q.answers.page = some x
  citoid : ∀ x, p.after.citoid.cache.latest? = some x → q.answers.citoid = some x

/-- However often a webpage is read, its page and its citation are fetched at most once, and what their fetches
have come to is what all later selections are answered. -/
theorem webpage_fetched_at_most_once (w : Webpage) (page : Except FetchError FetchedPage)
    (citoid : Except FetchError SimpleCitation) (pageDelay citoidDelay : Option Nat) (calls : List Call) :
    let v := Visit.start w page citoid pageDelay citoidDelay
    (v.afterCalls calls).page.cache.calls ≤ 1 ∧ (v.afterCalls calls).citoid.cache.calls ≤ 1 ∧
      (v.history calls).Pairwise Poll.SeenAgain := by
  intro v
  have once : (v.afterCalls calls).Once := (Visit.once_start w page citoid pageDelay citoidDelay).afterCalls calls
  refine ⟨once.page.at_most, once.citoid.at_most, (v.pairwise_history calls).imp fun keeps => ?_⟩
  exact ⟨fun x h => Lookup.latest?_poll (keeps.page x h) _, fun x h => Lookup.latest?_poll (keeps.citoid x h) _⟩

end WebCitation
