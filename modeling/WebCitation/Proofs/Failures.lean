import WebCitation.Proofs.Citations

/-!
Where failures come from. Whatever fails in a reading fails in one of its parts, and the failure is the one of that
part. In a template these parts are its selections: nothing else that a template does ever fails.
-/
namespace WebCitation

namespace Reading

/-- The failures that a reading may come to when its sources have answered: each part that is read may bring its
own, and time decides which of them is seen. -/
def FailsWith (s : Served) (e : ReadingError) : Reading α → Prop
  | done result => result = .error e
  | page => s.page.mapError .fetch = .error e
  | citoid => s.citoid.mapError .fetch = .error e
  | bind r f => r.FailsWith s e ∨ ∃ x, r.resultOn s = .ok x ∧ (f x).FailsWith s e
  | both r rs => r.FailsWith s e ∨ rs.FailsWith s e
  | orFailure r rs => r.FailsWith s e ∨ rs.FailsWith s e
  | ahead r rs _ => r.FailsWith s e ∨ rs.FailsWith s e

variable {s : Served} {e : ReadingError}

theorem error_of_bothOutcome {x? : Option (Except ReadingError α)} {xs? : Option (Except ReadingError (List α))}
    (h : bothOutcome x? xs? = some (.error e)) : x? = some (.error e) ∨ xs? = some (.error e) := by
  match x?, xs? with
  | some (.error _), some _ =>
    cases h
    exact .inl rfl
  | some (.ok _), some (.error _) =>
    cases h
    exact .inr rfl
  | some (.ok _), some (.ok _) => cases h
  | some _, none => cases h
  | none, _ => cases h

theorem error_of_earlyOutcome {x? : Option (Except ReadingError α)} {xs? : Option (Except ReadingError (List α))}
    (h : earlyOutcome x? xs? = some (.error e)) : x? = some (.error e) ∨ xs? = some (.error e) := by
  match x?, xs? with
  | some (.error _), _ =>
    cases h
    exact .inl rfl
  | some (.ok _), some (.error _) =>
    cases h
    exact .inr rfl
  | none, some (.error _) =>
    cases h
    exact .inr rfl
  | some (.ok _), some (.ok _) => cases h
  | some (.ok _), none => cases h
  | none, some (.ok _) => cases h
  | none, none => cases h

theorem failsWith_of_outcome? {r : Reading α} (h : r.outcome? = some (.error e)) : r.FailsWith s e := by
  rw [eq_done_of_outcome? h]
  exact rfl

theorem failsWith_map {f : α → β} {r : Reading α} : (r.map f).FailsWith s e ↔ r.FailsWith s e := by
  constructor
  · rintro (h | ⟨x, _, h⟩)
    · exact h
    · cases h
  · exact .inl

theorem resultOn_poll_eq_ok_iff {a : Answers} (answered : a.AreFrom s) {r : Reading α} {x : α} :
    (r.poll a).resultOn s = .ok x ↔ r.resultOn s = .ok x := by
  rw [eq_ok_iff_toOption, eq_ok_iff_toOption, toOption_resultOn_poll answered]

/-- What is left of a reading after a poll fails with nothing else than the reading itself. -/
theorem failsWith_of_poll {a : Answers} (answered : a.AreFrom s) {r : Reading α} (h : (r.poll a).FailsWith s e) :
    r.FailsWith s e := by
  -- A part that has come to its end with a failure is left as that failure, so its own induction tells the rest.
  induction r with
  | done result => exact h
  | page =>
    cases hp : a.page with
    | none => simpa [poll, hp] using h
    | some x => simpa [poll, hp, FailsWith, answered.page x hp] using h
  | citoid =>
    cases hc : a.citoid with
    | none => simpa [poll, hc] using h
    | some x => simpa [poll, hc, FailsWith, answered.citoid x hc] using h
  | bind r f ihr ihf =>
    have values : ∀ x, (r.poll a).resultOn s = .ok x → r.resultOn s = .ok x := fun x =>
      (resultOn_poll_eq_ok_iff answered).1
    obtain ⟨x, ends, left⟩ | ⟨e', ends, left⟩ | ⟨_, left⟩ := poll_bind_cases a r f <;> rw [left] at h
    · exact .inr ⟨x, values x (resultOn_of_outcome? ends), ihf x h⟩
    · cases h
      exact .inl (ihr (failsWith_of_outcome? ends))
    · obtain first | ⟨x, value, second⟩ := h
      · exact .inl (ihr first)
      · exact .inr ⟨x, values x value, second⟩
  | both r rs ihr ihrs =>
    obtain ⟨result, ends, left⟩ | ⟨_, left⟩ := poll_both_cases a r rs <;> rw [left] at h
    · cases h
      exact (error_of_bothOutcome ends).imp (ihr ∘ failsWith_of_outcome?) (ihrs ∘ failsWith_of_outcome?)
    · exact h.imp ihr ihrs
  | orFailure r rs ihr ihrs =>
    obtain ⟨result, ends, left⟩ | ⟨_, left⟩ := poll_orFailure_cases a r rs <;> rw [left] at h
    · cases h
      exact (error_of_earlyOutcome ends).imp (ihr ∘ failsWith_of_outcome?) (ihrs ∘ failsWith_of_outcome?)
    · exact h.imp ihr ihrs
  | ahead r rs later ihr ihrs _ =>
    obtain ⟨x, result, _, ends, left⟩ | ⟨x, _, _, left⟩ | ⟨e', ends, left⟩ | ⟨_, left⟩ :=
      poll_ahead_cases a r rs later <;> rw [left] at h
    · exact .inr (ihrs (failsWith_of_outcome? (ends.trans (congrArg some (map_eq_error_iff.1 h)))))
    · exact .inr (ihrs (failsWith_map.1 h))
    · cases h
      exact .inl (ihr (failsWith_of_outcome? ends))
    · exact h.imp ihr id

/-- Many readings fail with what one of them fails with, however they are read, as long as more of them fail with
nothing else. -/
theorem exists_failsWith (readAll : List (Reading α) → Reading (List α)) (none : readAll [] = pure [])
    (more : ∀ r rs, (readAll (r :: rs)).FailsWith s e → r.FailsWith s e ∨ (readAll rs).FailsWith s e)
    {f : γ → Reading α} {xs : List γ} (h : (readAll (xs.map f)).FailsWith s e) : ∃ x ∈ xs, (f x).FailsWith s e := by
  induction xs with
  | nil =>
    rw [List.map_nil, none] at h
    cases h
  | cons x xs ih =>
    rcases more (f x) (xs.map f) h with first | rest
    · exact ⟨x, List.mem_cons_self, first⟩
    · obtain ⟨y, member, later⟩ := ih rest
      exact ⟨y, List.mem_cons_of_mem x member, later⟩

variable {f : γ → Reading α} {xs : List γ}

theorem failsWith_all (h : (all (xs.map f)).FailsWith s e) : ∃ x ∈ xs, (f x).FailsWith s e := by
  refine exists_failsWith all rfl ?_ h
  exact fun _ _ h => h

theorem failsWith_untilFailure (h : (untilFailure (xs.map f)).FailsWith s e) : ∃ x ∈ xs, (f x).FailsWith s e := by
  refine exists_failsWith untilFailure rfl ?_ h
  exact fun _ _ h => h

theorem failsWith_untilFailureInOrder (h : (untilFailureInOrder (xs.map f)).FailsWith s e) :
    ∃ x ∈ xs, (f x).FailsWith s e := by
  refine exists_failsWith untilFailureInOrder rfl ?_ h
  exact fun _ _ h => h

theorem failsWith_inTurn (h : (inTurn (xs.map f)).FailsWith s e) : ∃ x ∈ xs, (f x).FailsWith s e := by
  refine exists_failsWith inTurn rfl ?_ h
  rintro r rs (first | ⟨_, _, rest⟩)
  · exact .inl first
  · exact .inr (failsWith_map.1 rest)

theorem failsWith_upTo {p : α → Bool} (h : (upTo p (xs.map f)).FailsWith s e) : ∃ x ∈ xs, (f x).FailsWith s e := by
  refine exists_failsWith (upTo p) rfl ?_ h
  rintro r rs (first | ⟨x, _, rest⟩)
  · exact .inl first
  · dsimp only at rest
    split at rest
    · cases rest
    · exact .inr (failsWith_map.1 rest)

end Reading

/-- A run fails with one of the failures that its reading may come to. -/
theorem Visit.failsWith_of_run {r : Reading α} {v : Visit} {e : ReadingError} (h : (v.run r).1 = .error e) :
    r.FailsWith v.served e := by
  fun_induction run r v with
  | case1 r v result ends =>
    cases h
    exact Reading.failsWith_of_poll v.areFrom_served (Reading.failsWith_of_outcome? ends)
  | case2 r v waits ih =>
    have left := ih h
    rw [served_wait, served_poll] at left
    exact Reading.failsWith_of_poll v.areFrom_served left

/-! Selections, and what is put together from them. -/

variable {s : Served} {e : ReadingError}

namespace Selection

theorem failsWith_reading_iff {selection : Selection} :
    selection.reading.FailsWith s e ↔ selection.reading.resultOn s = .error e := by
  match selection with
  | citoid (some key) =>
    rw [reading, Reading.failsWith_map, Reading.resultOn_map, Reading.FailsWith, Reading.resultOn]
    cases s.citoid <;> simp [Except.mapError, Except.map]
  | xpath (some expression) =>
    rw [reading, Reading.FailsWith, Reading.resultOn]
    simp only [Reading.FailsWith, Reading.resultOn, Reading.ofExcept]
    cases s.page <;> simp [Except.mapError, Except.bind]
  | citoid none => rfl
  | xpath none => rfl

/-- A selection fails for want of a config, with its source, or over an expression that selects nothing on the page
that was fetched. -/
theorem error_of_reading {selection : Selection} (h : selection.reading.resultOn s = .error e) :
    (∃ step, e = .undefinedConfig step) ∨ (∃ cause, e = .fetch cause) ∨
      ∃ (expression : AcceptedExpression) (p : FetchedPage) (fault : XPath.Fault), selection = xpath (some expression) ∧
        XPath.select p.document expression.text = .error fault ∧ e = .xpath expression.text := by
  match selection with
  | citoid none | xpath none =>
    cases h
    exact .inl ⟨_, rfl⟩
  | citoid (some key) =>
    rw [reading, Reading.resultOn_map, Reading.resultOn] at h
    cases hc : s.citoid with
    | error cause =>
      rw [hc] at h
      cases h
      exact .inr (.inl ⟨cause, rfl⟩)
    | ok c =>
      rw [hc] at h
      cases h
  | xpath (some expression) =>
    rw [reading, Reading.resultOn, Reading.resultOn] at h
    cases hp : s.page with
    | error cause =>
      rw [hp] at h
      cases h
      exact .inr (.inl ⟨cause, rfl⟩)
    | ok p =>
      rw [hp] at h
      have h : textsOf expression p = .error e := h
      unfold textsOf at h
      cases hx : XPath.select p.document expression.text with
      | ok texts =>
        rw [hx] at h
        cases h
      | error fault =>
        rw [hx] at h
        cases h
        exact .inr (.inr ⟨expression, p, fault, rfl, hx, rfl⟩)

/-- A selection that is run alone has one result, whenever its source answers. -/
theorem run_reading (selection : Selection) (v : Visit) :
    (v.run selection.reading).1 = selection.reading.resultOn v.served := by
  cases h : (v.run selection.reading).1 with
  | ok values => exact ((v.run_eq_ok_iff _ _).1 h).symm
  | error e => exact (failsWith_reading_iff.1 (Visit.failsWith_of_run h)).symm

end Selection

namespace Procedure

theorem failsWith_reading {p : Procedure} (h : p.reading.FailsWith s e) :
    ∃ selection ∈ p.selections, selection.reading.resultOn s = .error e := by
  have part : ∃ selection ∈ p.selections, selection.reading.FailsWith s e := by
    have h := Reading.failsWith_map.1 h
    split at h
    · exact Reading.failsWith_untilFailure h
    · exact Reading.failsWith_untilFailureInOrder h
  simpa only [Selection.failsWith_reading_iff] using part

theorem exists_resultOn_reading_iff {p : Procedure} :
    (∃ o, p.reading.resultOn s = .ok o) ↔
      ∀ selection ∈ p.selections, ∃ values, selection.reading.resultOn s = .ok values := by
  rw [resultOn_reading, exists_map_eq_ok_iff, exists_mapM_eq_ok_iff, List.forall_mem_map]

end Procedure

namespace TemplateField

def selections (f : TemplateField) : List Selection := f.procedures.flatMap Procedure.selections

theorem failsWith_reading {f : TemplateField} (h : f.reading.FailsWith s e) :
    ∃ selection ∈ f.selections, selection.reading.resultOn s = .error e := by
  obtain ⟨p, hp, h⟩ := Reading.failsWith_inTurn (Reading.failsWith_map.1 h)
  obtain ⟨selection, member, failed⟩ := Procedure.failsWith_reading h
  exact ⟨selection, List.mem_flatMap.2 ⟨p, hp, member⟩, failed⟩

theorem exists_resultOn_reading_iff {f : TemplateField} :
    (∃ o, f.reading.resultOn s = .ok o) ↔
      ∀ selection ∈ f.selections, ∃ values, selection.reading.resultOn s = .ok values := by
  rw [reading, Reading.resultOn_map, exists_map_eq_ok_iff, Reading.resultOn_inTurn, exists_mapM_eq_ok_iff,
    List.forall_mem_map]
  simp only [Procedure.exists_resultOn_reading_iff, selections, List.mem_flatMap]
  exact ⟨fun h selection ⟨p, hp, member⟩ => h p hp selection member,
    fun h p hp selection member => h selection ⟨p, hp, member⟩⟩

end TemplateField

namespace TemplateRules

variable {path : Option String} {target : Webpage}

def selections (t : TemplateRules) : List Selection := t.fields.items.flatMap TemplateField.selections

theorem failsWith_reading {t : TemplateRules} (own : target.domain = t.domain)
    (h : (t.reading path target).FailsWith s e) :
    ∃ selection ∈ t.selections, selection.reading.resultOn s = .error e := by
  rw [reading, if_pos own] at h
  obtain ⟨f, hf, h⟩ := Reading.failsWith_all (Reading.failsWith_map.1 h)
  obtain ⟨selection, member, failed⟩ := TemplateField.failsWith_reading h
  exact ⟨selection, List.mem_flatMap.2 ⟨f, hf, member⟩, failed⟩

theorem exists_resultOn_reading_iff {t : TemplateRules} :
    (∃ o, (t.reading path target).resultOn s = .ok o) ↔
      target.domain = t.domain ∧
        ∀ selection ∈ t.selections, ∃ values, selection.reading.resultOn s = .ok values := by
  unfold reading
  split
  · rename_i own
    rw [Reading.resultOn_map, exists_map_eq_ok_iff, Reading.resultOn_all, exists_mapM_eq_ok_iff,
      List.forall_mem_map]
    simp only [TemplateField.exists_resultOn_reading_iff, selections, List.mem_flatMap]
    exact ⟨fun h => ⟨own, fun selection ⟨f, hf, member⟩ => h f hf selection member⟩,
      fun h f hf selection member => h.2 selection ⟨f, hf, member⟩⟩
  · rename_i other
    constructor
    · rintro ⟨o, h⟩
      cases h
    · rintro ⟨own, _⟩
      exact absurd own other

theorem mem_selections {t : TemplateRules} {f : TemplateField} {p : Procedure} {selection : Selection}
    (hf : f ∈ t.fields.items) (hp : p ∈ f.procedures) (member : selection ∈ p.selections) :
    selection ∈ t.selections :=
  List.mem_flatMap.2 ⟨f, hf, List.mem_flatMap.2 ⟨p, hp, member⟩⟩

end TemplateRules

/-- A template or a fallback, which has no path, has an output where the page is one of its domain and each of its
selections has values when it is run alone, whatever was read before and whenever the answers come. Otherwise, on a
page of its domain, it fails with what such a selection fails with. So transformations, checks and required fields
make no difference, and a selection that fails makes its template fail even in an optional field. -/
theorem output_iff_selections_have_values (t : TemplateRules) (path : Option String) {v w : Visit}
    (alike : v.Alike w) :
    ((∃ o, (v.run (t.reading path v.webpage)).1 = .ok o) ↔
      v.webpage.domain = t.domain ∧
        ∀ selection ∈ t.selections, ∃ values, (w.run selection.reading).1 = .ok values) ∧
    (v.webpage.domain = t.domain → ∀ e, (v.run (t.reading path v.webpage)).1 = .error e →
      ∃ selection ∈ t.selections, (w.run selection.reading).1 = .error e) ∧
    (∀ u : TemplateRules, u.domain = t.domain → u.selections ⊆ t.selections →
      (∃ o, (v.run (t.reading path v.webpage)).1 = .ok o) →
        ∃ o, (v.run (u.reading path v.webpage)).1 = .ok o) ∧
    ∀ f ∈ t.fields.items, ∀ p ∈ f.procedures, ∀ selection ∈ p.selections, ∀ e,
      (w.run selection.reading).1 = .error e → ∃ e', (v.run (t.reading path v.webpage)).1 = .error e' := by
  have alone : ∀ selection : Selection, (w.run selection.reading).1 = selection.reading.resultOn v.served := by
    intro selection
    rw [selection.run_reading, alike.served]
  have output_iff : ∀ u : TemplateRules, (∃ o, (v.run (u.reading path v.webpage)).1 = .ok o) ↔
      v.webpage.domain = u.domain ∧
        ∀ selection ∈ u.selections, ∃ values, (w.run selection.reading).1 = .ok values := by
    intro u
    simp only [Visit.run_eq_ok_iff, alone]
    exact TemplateRules.exists_resultOn_reading_iff
  refine ⟨output_iff t, ?_, ?_, ?_⟩
  · intro own e failed
    obtain ⟨selection, member, h⟩ := TemplateRules.failsWith_reading own (Visit.failsWith_of_run failed)
    exact ⟨selection, member, (alone selection).trans h⟩
  · intro u domain fewer output
    obtain ⟨own, values⟩ := (output_iff t).1 output
    exact (output_iff u).2 ⟨own.trans domain.symm, fun selection member => values selection (fewer member)⟩
  · intro f hf p hp selection member e failed
    cases ran : (v.run (t.reading path v.webpage)).1 with
    | error e' => exact ⟨e', rfl⟩
    | ok o =>
      obtain ⟨values, h⟩ := ((output_iff t).1 ⟨o, ran⟩).2 selection (TemplateRules.mem_selections hf hp member)
      rw [failed] at h
      cases h

namespace OptionalField

def target : Webpage := ⟨⟨.https, "", "", "k.l", none, "/x", none, none⟩⟩

def source : SimpleCitation := ⟨[("title", .single "T")], by decide⟩

def title : Selection := .citoid (some ⟨"title", FiveFields.title_listed⟩)

def rules (date : List Procedure) : TemplateRules :=
  ⟨"k.l", none, ⟨[⟨.title, true, [⟨[title], []⟩]⟩, ⟨.date, false, date⟩], by simp⟩⟩

def visit (citoidDelay : Option Nat) : Visit :=
  .start target (.error .transport) (.ok source) none citoidDelay

/-- A title is no date, which makes the field invalid and nothing fail. Only a selection without a config fails. -/
theorem output_unless_date_is_unconfigured :
    (visit none).Alike (visit (some 5)) ∧
      (∃ o, ((visit none).run ((rules [⟨[title], []⟩]).reading (some "/x") target)).1 = .ok o) ∧
      ((visit none).run ((rules [⟨[title, .xpath none], []⟩]).reading (some "/x") target)).1 =
        .error (.undefinedConfig .xpath) := by
  have alike : (visit none).Alike (visit (some 5)) := Visit.alike_start _ _ _ _ _ _ _
  have titled : ((visit (some 5)).run title.reading).1 = .ok ["T"] := (Visit.run_eq_ok_iff _ _ _).2 rfl
  have unconfigured : ((visit (some 5)).run (Selection.xpath none).reading).1 = .error (.undefinedConfig .xpath) :=
    Selection.run_reading _ _
  obtain ⟨output, -⟩ := output_iff_selections_have_values (rules [⟨[title], []⟩]) (some "/x") alike
  obtain ⟨-, same, -, fails⟩ :=
    output_iff_selections_have_values (rules [⟨[title, .xpath none], []⟩]) (some "/x") alike
  refine ⟨alike, output.2 ⟨rfl, ?_⟩, ?_⟩
  · intro selection member
    have one : selection = title := by simpa [TemplateRules.selections, TemplateField.selections, rules] using member
    exact ⟨_, one ▸ titled⟩
  · obtain ⟨e, failed⟩ := fails ⟨.date, false, [⟨[title, .xpath none], []⟩]⟩ (by simp [rules]) _
      List.mem_cons_self (.xpath none) (by simp) _ unconfigured
    obtain ⟨selection, member, h⟩ := same rfl e failed
    have either : selection = title ∨ selection = .xpath none := by
      simpa [TemplateRules.selections, TemplateField.selections, rules] using member
    rcases either with rfl | rfl
    · rw [titled] at h
      cases h
    · rw [unconfigured] at h
      cases h
      exact failed

end OptionalField
end WebCitation
