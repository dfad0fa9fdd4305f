import WebCitation.Proofs.Failures
import WebCitation.Proofs.OneFetch

/-!
Sources that no selection reads. A source may answer what it likes and take as long as it likes where no candidate
has a configured selection of it: the result is the same, and the source is never asked.
-/
namespace WebCitation

/-- The answers of all sources but one agree. -/
structure Answers.AgreeBut (src : Source) (a b : Answers) : Prop where
  page : src ≠ .page → a.page = b.page
  citoid : src ≠ .citoid → a.citoid = b.citoid

namespace Reading

/-- No part of a reading reads the source. -/
def Avoids (src : Source) : Reading α → Prop
  | done _ => True
  | page => src ≠ .page
  | citoid => src ≠ .citoid
  | bind r f => r.Avoids src ∧ ∀ x, (f x).Avoids src
  | both r rs => r.Avoids src ∧ rs.Avoids src
  | orFailure r rs => r.Avoids src ∧ rs.Avoids src
  | ahead r rs later => r.Avoids src ∧ rs.Avoids src ∧ later.Avoids src

variable {src : Source}

theorem avoids_map {f : α → β} {r : Reading α} (h : r.Avoids src) : (r.map f).Avoids src := ⟨h, fun _ => trivial⟩

theorem poll_congr {a b : Answers} (agree : a.AgreeBut src b) {r : Reading α} (h : r.Avoids src) :
    r.poll a = r.poll b := by
  induction r with
  | done result => rfl
  | page => rw [poll, poll, agree.page h]
  | citoid => rw [poll, poll, agree.citoid h]
  | bind r f ihr ihf =>
    have values : ∀ x, (f x).poll a = (f x).poll b := fun x => ihf x (h.2 x)
    simp only [poll, ihr h.1, values]
  | both r rs ihr ihrs => simp only [poll, ihr h.1, ihrs h.2]
  | orFailure r rs ihr ihrs => simp only [poll, ihr h.1, ihrs h.2]
  | ahead r rs later ihr ihrs ihlater => simp only [poll, ihr h.1, ihrs h.2.1, ihlater h.2.2]

theorem asked_congr {a b : Answers} (agree : a.AgreeBut src b) {r : Reading α} (h : r.Avoids src) :
    r.asked a = r.asked b := by
  induction r with
  | done result => rfl
  | page => rfl
  | citoid => rfl
  | bind r f ihr ihf =>
    have values : ∀ x, (f x).asked a = (f x).asked b := fun x => ihf x (h.2 x)
    simp only [asked, poll_congr agree h.1, ihr h.1, values]
  | both r rs ihr ihrs => simp only [asked, ihr h.1, ihrs h.2]
  | orFailure r rs ihr ihrs => simp only [asked, poll_congr agree h.1, ihr h.1, ihrs h.2]
  | ahead r rs later ihr ihrs ihlater =>
    simp only [asked, poll_congr agree h.1, ihr h.1, ihrs h.2.1, ihlater h.2.2]

theorem not_mem_asked (a : Answers) {r : Reading α} (h : r.Avoids src) : src ∉ r.asked a := by
  intro member
  induction r with
  | done result => cases member
  | page => exact h (List.mem_singleton.1 member)
  | citoid => exact h (List.mem_singleton.1 member)
  | bind r f ihr ihf =>
    rw [asked] at member
    rcases List.mem_append.1 member with first | rest
    · exact ihr h.1 first
    · split at rest
      · exact ihf _ (h.2 _) rest
      · cases rest
  | both r rs ihr ihrs =>
    rcases List.mem_append.1 member with first | rest
    · exact ihr h.1 first
    · exact ihrs h.2 rest
  | orFailure r rs ihr ihrs =>
    rcases List.mem_append.1 member with first | rest
    · exact ihr h.1 first
    · split at rest
      · cases rest
      · exact ihrs h.2 rest
  | ahead r rs later ihr ihrs ihlater =>
    rcases List.mem_append.1 member with first | rest
    · exact ihr h.1 first
    · split at rest
      · exact ihrs h.2.1 rest
      · cases rest
      · exact ihlater h.2.2 rest

theorem avoids_getD (result? : Option (Except ReadingError α)) {left : Reading α} (h : left.Avoids src) :
    ((result?.map done).getD left).Avoids src := by
  cases result? with
  | none => exact h
  | some result => exact trivial

/-- What is left of a reading after a poll reads nothing new. -/
theorem avoids_poll {a : Answers} {r : Reading α} (h : r.Avoids src) : (r.poll a).Avoids src := by
  induction r with
  | done result => exact trivial
  | page =>
    rw [poll]
    cases a.page with
    | none => exact h
    | some x => exact trivial
  | citoid =>
    rw [poll]
    cases a.citoid with
    | none => exact h
    | some x => exact trivial
  | bind r f ihr ihf =>
    simp only [poll]
    split
    · exact ihf _ (h.2 _)
    · exact trivial
    · exact ⟨ihr h.1, h.2⟩
  | both r rs ihr ihrs =>
    have left : (both (r.poll a) (rs.poll a)).Avoids src := ⟨ihr h.1, ihrs h.2⟩
    exact avoids_getD _ left
  | orFailure r rs ihr ihrs =>
    have left : (orFailure (r.poll a) (rs.poll a)).Avoids src := ⟨ihr h.1, ihrs h.2⟩
    exact avoids_getD _ left
  | ahead r rs later ihr ihrs ihlater =>
    simp only [poll]
    split
    · cases (rs.poll a).outcome? with
      | none => exact avoids_map (ihrs h.2.1)
      | some result => exact trivial
    · exact trivial
    · exact ⟨ihr h.1, h.2.1, ihlater h.2.2⟩

theorem avoids_of_forall (readAll : List (Reading α) → Reading (List α)) (none : readAll [] = pure [])
    (more : ∀ r rs, (∀ q ∈ r :: rs, q.Avoids src) → (readAll rs).Avoids src → (readAll (r :: rs)).Avoids src)
    {rs : List (Reading α)} (h : ∀ r ∈ rs, r.Avoids src) : (readAll rs).Avoids src := by
  induction rs with
  | nil =>
    rw [none]
    exact trivial
  | cons r rs ih => exact more r rs h (ih fun q member => h q (List.mem_cons_of_mem r member))

theorem avoids_all {rs : List (Reading α)} (h : ∀ r ∈ rs, r.Avoids src) : (all rs).Avoids src := by
  refine avoids_of_forall all rfl ?_ h
  exact fun r _ h rest => ⟨h r List.mem_cons_self, rest⟩

theorem avoids_untilFailure {rs : List (Reading α)} (h : ∀ r ∈ rs, r.Avoids src) :
    (untilFailure rs).Avoids src := by
  refine avoids_of_forall untilFailure rfl ?_ h
  exact fun r _ h rest => ⟨h r List.mem_cons_self, rest⟩

theorem avoids_untilFailureInOrder {rs : List (Reading α)} (h : ∀ r ∈ rs, r.Avoids src) :
    (untilFailureInOrder rs).Avoids src := by
  refine avoids_of_forall untilFailureInOrder rfl ?_ h
  intro r rs h rest
  -- What goes on while the first waits is all of the others.
  have later : (all rs).Avoids src := avoids_all fun q member => h q (List.mem_cons_of_mem r member)
  exact ⟨h r List.mem_cons_self, rest, later⟩

theorem avoids_inTurn {rs : List (Reading α)} (h : ∀ r ∈ rs, r.Avoids src) : (inTurn rs).Avoids src := by
  refine avoids_of_forall inTurn rfl ?_ h
  exact fun r _ h rest => ⟨h r List.mem_cons_self, fun _ => avoids_map rest⟩

theorem avoids_upTo {p : α → Bool} {rs : List (Reading α)} (h : ∀ r ∈ rs, r.Avoids src) :
    (upTo p rs).Avoids src := by
  refine avoids_of_forall (upTo p) rfl ?_ h
  intro r rs h rest
  refine ⟨h r List.mem_cons_self, fun x => ?_⟩
  dsimp only
  split
  · exact trivial
  · exact avoids_map rest

end Reading

namespace Visit

variable {src : Source}

/-- Two visits of one webpage at one time, which agree on all sources but one. -/
structure AgreesBut (src : Source) (v w : Visit) : Prop where
  webpage : v.webpage = w.webpage
  now : v.now = w.now
  page : src ≠ .page → v.page = w.page
  citoid : src ≠ .citoid → v.citoid = w.citoid

/-- The lookup of a source is the same at two visits, with all its fetches. -/
structure SameAt (src : Source) (v w : Visit) : Prop where
  page : src = .page → v.page = w.page
  citoid : src = .citoid → v.citoid = w.citoid

theorem AgreesBut.answers {v w : Visit} (h : v.AgreesBut src w) : v.answers.AgreeBut src w.answers where
  page other := by rw [Visit.answers, Visit.answers, h.page other, h.now]
  citoid other := by rw [Visit.answers, Visit.answers, h.citoid other, h.now]

theorem AgreesBut.poll {v w : Visit} (h : v.AgreesBut src w) (asked : List Source) :
    (v.poll asked).AgreesBut src (w.poll asked) where
  webpage := h.webpage
  now := h.now
  page other := by simp only [Visit.poll, h.page other, h.now]
  citoid other := by simp only [Visit.poll, h.citoid other, h.now]

theorem dueOf_of_not_mem {asked : List Source} {s : Source} (unasked : s ∉ asked) (l : Lookup α) :
    dueOf asked s l = [] := if_neg fun h => unasked h.1

theorem AgreesBut.wait {v w : Visit} (h : v.AgreesBut src w) {asked : List Source} (unasked : src ∉ asked) :
    (v.wait asked).AgreesBut src (w.wait asked) := by
  have dues : v.dues asked = w.dues asked := by
    rw [Visit.dues, Visit.dues]
    cases src with
    | page => rw [dueOf_of_not_mem unasked, dueOf_of_not_mem unasked, h.citoid (by decide)]
    | citoid => rw [dueOf_of_not_mem unasked, dueOf_of_not_mem unasked, h.page (by decide)]
  refine ⟨h.webpage, ?_, h.page, h.citoid⟩
  rw [Visit.wait, Visit.wait, dues, h.now]

theorem run_of_outcome {r : Reading α} {v : Visit} {result : Except ReadingError α}
    (h : (r.poll v.answers).outcome? = some result) : v.run r = (result, v.poll (r.asked v.answers)) := by
  rw [run]
  split
  · rename_i ends
    rw [ends] at h
    cases h
    rfl
  · rename_i waits
    rw [waits] at h
    cases h

theorem run_of_waits {r : Reading α} {v : Visit} (h : (r.poll v.answers).outcome? = none) :
    v.run r = ((v.poll (r.asked v.answers)).wait (r.asked v.answers)).run (r.poll v.answers) := by
  rw [run]
  split
  · rename_i ends
    rw [ends] at h
    cases h
  · rfl

/-- The two runs of a reading go on side by side to the same result. -/
theorem AgreesBut.run_eq {r : Reading α} {v w : Visit} (h : v.AgreesBut src w) (avoids : r.Avoids src) :
    (v.run r).1 = (w.run r).1 := by
  fun_induction run r v generalizing w with
  | case1 r v result ends =>
    rw [Reading.poll_congr h.answers avoids] at ends
    rw [run_of_outcome ends]
  | case2 r v waits ih =>
    -- Nobody waits for the source, so the clocks of both visits move on together.
    have next := (h.poll (r.asked v.answers)).wait (Reading.not_mem_asked v.answers avoids)
    rw [ih next (Reading.avoids_poll avoids)]
    rw [Reading.poll_congr h.answers avoids] at waits ⊢
    rw [run_of_waits waits, Reading.asked_congr h.answers avoids]

theorem sameAt_poll (v : Visit) {asked : List Source} (unasked : src ∉ asked) : (v.poll asked).SameAt src v where
  page same := if_neg (same ▸ unasked)
  citoid same := if_neg (same ▸ unasked)

theorem sameAt_run {r : Reading α} {v : Visit} (avoids : r.Avoids src) : (v.run r).2.SameAt src v := by
  fun_induction run r v with
  | case1 r v result ends => exact sameAt_poll v (Reading.not_mem_asked v.answers avoids)
  | case2 r v waits ih =>
    have left := ih (Reading.avoids_poll avoids)
    have polled := sameAt_poll v (Reading.not_mem_asked v.answers avoids)
    exact ⟨fun same => (left.page same).trans (polled.page same),
      fun same => (left.citoid same).trans (polled.citoid same)⟩

theorem not_mem_asked_of_mem_polls {r : Reading α} {v : Visit} (avoids : r.Avoids src) {p : Poll}
    (h : p ∈ v.polls r) : src ∉ p.asked := by
  fun_induction run r v with
  | case1 r v result ends =>
    rw [polls_of_outcome ends, List.mem_singleton] at h
    subst h
    exact Reading.not_mem_asked v.answers avoids
  | case2 r v waits ih =>
    rw [polls_of_waits waits] at h
    rcases List.mem_cons.1 h with rfl | h
    · exact Reading.not_mem_asked v.answers avoids
    · exact ih (Reading.avoids_poll avoids) h

end Visit

/-! Rules whose selections leave a source alone. -/

/-- The source that a selection reads. One that is not configured reads none. -/
def Selection.source? : Selection → Option Source
  | citoid key => key.map fun _ => .citoid
  | xpath expression => expression.map fun _ => .page

variable {src : Source}

theorem Selection.avoids_reading {selection : Selection} (h : selection.source? ≠ some src) :
    selection.reading.Avoids src := by
  match selection with
  | citoid (some key) =>
    have other : src ≠ .citoid := fun same => h (congrArg some same.symm)
    exact Reading.avoids_map other
  | xpath (some expression) =>
    have other : src ≠ .page := fun same => h (congrArg some same.symm)
    exact ⟨other, fun _ => trivial⟩
  | citoid none => exact trivial
  | xpath none => exact trivial

theorem Procedure.avoids_reading {p : Procedure} (h : ∀ selection ∈ p.selections, selection.source? ≠ some src) :
    p.reading.Avoids src := by
  have parts : ∀ r ∈ p.selections.map Selection.reading, r.Avoids src := by
    rw [List.forall_mem_map]
    exact fun selection member => Selection.avoids_reading (h selection member)
  refine Reading.avoids_map ?_
  split
  · exact Reading.avoids_untilFailure parts
  · exact Reading.avoids_untilFailureInOrder parts

theorem TemplateField.avoids_reading {f : TemplateField}
    (h : ∀ selection ∈ f.selections, selection.source? ≠ some src) : f.reading.Avoids src := by
  refine Reading.avoids_map (Reading.avoids_inTurn (List.forall_mem_map.2 fun p hp => ?_))
  exact Procedure.avoids_reading fun selection member => h selection (List.mem_flatMap.2 ⟨p, hp, member⟩)

theorem TemplateRules.avoids_reading {t : TemplateRules} (path : Option String) (target : Webpage)
    (h : ∀ selection ∈ t.selections, selection.source? ≠ some src) : (t.reading path target).Avoids src := by
  unfold reading
  split
  · refine Reading.avoids_map (Reading.avoids_all (List.forall_mem_map.2 fun f hf => ?_))
    exact TemplateField.avoids_reading fun selection member => h selection (List.mem_flatMap.2 ⟨f, hf, member⟩)
  · exact trivial

theorem Domain.avoids_reading {d : Domain} {target : Webpage} {options : ReadingOptions}
    (h : ∀ c ∈ d.candidates target.path options.templates, ∀ selection ∈ c.rules.selections,
      selection.source? ≠ some src) : (d.reading target options).Avoids src := by
  have parts : ∀ r ∈ (d.candidates target.path options.templates).map (·.reading target), r.Avoids src := by
    rw [List.forall_mem_map]
    exact fun c hc => TemplateRules.avoids_reading c.path target (h c hc)
  unfold reading
  split
  · refine Reading.avoids_map ?_
    unfold readingOf
    split
    · exact Reading.avoids_all parts
    · exact Reading.avoids_upTo parts
  · exact trivial

/-- Let no candidate have a configured selection of a source. Then a domain comes to the same result whatever this
source answers and however long it takes, also where it was read before, and whether or not the result is a failure.
No poll asks the source, so it is not fetched. -/
theorem unused_source_does_not_matter (src : Source) (d : Domain) (options : ReadingOptions) {v w : Visit}
    (agree : v.AgreesBut src w)
    (unused : ∀ c ∈ d.candidates v.webpage.path options.templates, ∀ selection ∈ c.rules.selections,
      selection.source? ≠ some src) :
    (v.readBy d options).1 = (w.readBy d options).1 ∧
      (∀ p ∈ v.polls (d.reading v.webpage options), src ∉ p.asked) ∧
      (v.readBy d options).2.SameAt src v := by
  have avoids : (d.reading v.webpage options).Avoids src := Domain.avoids_reading unused
  refine ⟨?_, fun p member => Visit.not_mem_asked_of_mem_polls avoids member, Visit.sameAt_run avoids⟩
  rw [Visit.readBy, Visit.readBy, ← agree.webpage]
  exact agree.run_eq avoids

namespace CitationOnly

open OptionalField (source title)

def target : Webpage := ⟨⟨.https, "", "", "q.r", none, "/x", none, none⟩⟩

def template (selections : List Selection) : Template :=
  ⟨⟨"q.r", none, ⟨[⟨.title, true, [⟨selections, []⟩]⟩], by simp⟩⟩, "/x"⟩

def domain (selections : List Selection) : Domain :=
  { Domain.ofName ⟨"q.r", by decide⟩ with templates := ⟨[template selections], by simp⟩ }

def options : ReadingOptions := ⟨some ["/x"], false, true⟩

def visit (page : Except FetchError FetchedPage) (pageDelay : Option Nat) : Visit :=
  .start target page (.ok source) pageDelay none

def offline : Visit := visit (.error .transport) none

def late : Visit := visit (.ok (.ofBody target.address "<title>U</title>")) (some 7)

def output : TemplateOutput :=
  ⟨"q.r", some "/x", none,
    [⟨.title, [⟨[["T"]], ["T"], [], ["T"]⟩], [some "T"], true, true, false⟩], true,
    some { Citation.ofUrl target.address with title := some "T" }⟩

theorem agrees : late.AgreesBut .page offline := ⟨rfl, rfl, fun other => absurd rfl other, fun _ => rfl⟩

theorem reads_citation_only {selections : List Selection}
    (only : ∀ selection ∈ selections, selection.source? ≠ some .page) :
    ∀ c ∈ (domain selections).candidates target.path options.templates, ∀ selection ∈ c.rules.selections,
      selection.source? ≠ some .page := by
  have tried : (domain selections).candidates target.path options.templates = [.ofTemplate (template selections)] :=
    rfl
  intro c hc selection member
  rw [tried, List.mem_singleton] at hc
  subst hc
  refine only selection ?_
  simpa [TemplateRules.selections, TemplateField.selections, Candidate.ofTemplate, template] using member

theorem outputs_of_citation_only :
    late.AgreesBut .page offline ∧
      (late.readBy (domain [title]) options).1 = .ok [output] ∧
      (late.readBy (domain [title]) options).2.page.cache.calls = 0 ∧
      ∀ outs, (late.readBy (domain [title, .xpath none]) options).1 ≠ .ok outs := by
  have titled : ∀ selection ∈ [title], selection.source? ≠ some .page := by simp [title, Selection.source?]
  have unconfigured : ∀ selection ∈ [title, .xpath none], selection.source? ≠ some .page := by
    simp [title, Selection.source?]
  obtain ⟨same, -, unread⟩ :=
    unused_source_does_not_matter .page (domain [title]) options agrees (reads_citation_only titled)
  obtain ⟨fails, -, -⟩ := unused_source_does_not_matter .page (domain [title, .xpath none]) options agrees
    (reads_citation_only unconfigured)
  refine ⟨agrees, ?_, ?_, ?_⟩
  · rw [same]
    exact Visit.readBy_eq_ok_iff.2 rfl
  · rw [unread.page rfl]
    rfl
  · intro outs read
    rw [fails] at read
    have result := Visit.readBy_eq_ok_iff.1 read
    cases result

end CitationOnly
end WebCitation
