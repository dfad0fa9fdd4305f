import WebCitation.Proofs.Dispatch

/-!
What the outputs of a domain record. Selections, fields and templates may come to their ends in any order,
but each is recorded in its own place. So the delays of the sources make no difference to what is recorded.
-/
namespace WebCitation

theorem Reading.exists_take_of_upTo {s : Served} {p : α → Bool} {rs : List (Reading α)} {xs : List α}
    (h : (upTo p rs).resultOn s = .ok xs) :
    ∃ n, List.Forall₂ (fun r x => r.resultOn s = .ok x) (rs.take n) xs := by
  induction rs generalizing xs with
  | nil =>
    cases h
    exact ⟨0, .nil⟩
  | cons r rs ih =>
    rw [upTo, resultOn, bind_eq_ok_iff] at h
    obtain ⟨x, hr, h⟩ := h
    split at h
    · cases h
      exact ⟨1, .cons hr .nil⟩
    · obtain ⟨ys, hys, rfl⟩ := resultOn_map_eq_ok_iff.1 h
      obtain ⟨n, hn⟩ := ih hys
      exact ⟨n + 1, .cons hr hn⟩

namespace Procedure

/-- What a procedure records: the values of its selections, and what each transformation makes of the values
before it. -/
structure Records (s : Served) (p : Procedure) (o : ProcedureOutput) : Prop where
  selections : List.Forall₂ (fun selection values => selection.reading.resultOn s = .ok values)
    p.selections o.selections
  selected : o.selectionOutput = o.selections.flatten
  length_transformations : o.transformations.length = p.transformations.length
  transformations : ∀ (i : Nat) (t : Transformation), p.transformations[i]? = some t →
    o.transformations[i]? = (o.selectionOutput :: o.transformations)[i]?.map t.apply
  output : o.output =
    let last := o.transformations.getLast?.getD o.selectionOutput
    if last.isEmpty then o.selectionOutput else last

theorem length_chain (values : List String) (ts : List Transformation) :
    (chain values ts).length = ts.length := by
  induction ts generalizing values with
  | nil => rfl
  | cons t ts ih => rw [chain, List.length_cons, ih, List.length_cons]

theorem getElem?_chain (values : List String) (ts : List Transformation) (i : Nat) (t : Transformation)
    (h : ts[i]? = some t) : (chain values ts)[i]? = (values :: chain values ts)[i]?.map t.apply := by
  induction ts generalizing values i with
  | nil => simp at h
  | cons u ts ih =>
    cases i with
    | zero =>
      rw [List.getElem?_cons_zero] at h
      cases h
      rfl
    | succ i =>
      rw [List.getElem?_cons_succ] at h
      simp only [chain, List.getElem?_cons_succ]
      exact ih (u.apply values) i h

theorem resultOn_reading (s : Served) (p : Procedure) :
    p.reading.resultOn s = ((p.selections.map Selection.reading).mapM (Reading.resultOn s)).map p.outputOf := by
  rw [reading, Reading.resultOn_map]
  split
  · rw [Reading.resultOn_untilFailure]
  · rw [Reading.resultOn_untilFailureInOrder]

theorem records_of_reading {s : Served} {p : Procedure} {o : ProcedureOutput}
    (h : p.reading.resultOn s = .ok o) : p.Records s o := by
  rw [resultOn_reading, map_eq_ok_iff] at h
  obtain ⟨selections, values, rfl⟩ := h
  exact {
    selections := List.forall₂_map_left_iff.1 (mapM_eq_ok_iff.1 values)
    selected := rfl
    length_transformations := length_chain _ _
    transformations := getElem?_chain _ _
    output := rfl }

end Procedure

/-- What a field records: the outputs of its procedures, and their values one after the other as far as it
accepts them. -/
structure TemplateField.Records (s : Served) (f : TemplateField) (o : FieldOutput) : Prop where
  procedures : List.Forall₂ (Procedure.Records s) f.procedures o.procedures
  made : o = f.outputOf o.procedures

theorem TemplateField.records_of_reading {s : Served} {f : TemplateField} {o : FieldOutput}
    (h : f.reading.resultOn s = .ok o) : f.Records s o := by
  obtain ⟨procedures, hp, rfl⟩ := Reading.resultOn_map_eq_ok_iff.1 h
  rw [Reading.resultOn_inTurn, mapM_eq_ok_iff, List.forall₂_map_left_iff] at hp
  exact ⟨hp.imp fun _ _ => Procedure.records_of_reading, rfl⟩

/-- What a candidate records of a page of its domain: the outputs of its fields, and what they add up to. -/
structure Candidate.Records (s : Served) (target : Webpage) (c : Candidate) (o : TemplateOutput) : Prop where
  own : target.domain = c.rules.domain
  fields : List.Forall₂ (TemplateField.Records s) c.rules.fields.items o.fields
  made : o = c.rules.outputOf c.path target.address o.fields

theorem Candidate.records_of_reading {s : Served} {target : Webpage} {c : Candidate} {o : TemplateOutput}
    (h : (c.reading target).resultOn s = .ok o) : c.Records s target o := by
  unfold reading TemplateRules.reading at h
  split at h
  · rename_i own
    obtain ⟨fields, hf, rfl⟩ := Reading.resultOn_map_eq_ok_iff.1 h
    rw [Reading.resultOn_all, mapM_eq_ok_iff, List.forall₂_map_left_iff] at hf
    exact ⟨own, hf.imp fun _ _ => TemplateField.records_of_reading, rfl⟩
  · cases h

namespace Candidate.Records

variable {s : Served} {target : Webpage} {c : Candidate} {o : TemplateOutput}

theorem path (h : c.Records s target o) : o.path = c.path := by
  rw [h.made]
  rfl

theorem applicable (h : c.Records s target o) : o.applicable = o.fields.all FieldOutput.applicable := by
  rw [h.made]
  rfl

theorem citation_eq_some_iff (h : c.Records s target o) {citation : Citation} :
    o.citation = some citation ↔ o.applicable = true ∧ TemplateOutput.cite target.address o.fields = citation := by
  have cited : o.citation = if o.applicable then some (TemplateOutput.cite target.address o.fields) else none := by
    rw [h.made]
    rfl
  rw [cited]
  split
  · rename_i applies
    simp [applies]
  · rename_i other
    simp [other]

end Candidate.Records

namespace Domain

/-- What a domain records of a page of its own: the outputs of the candidates that come first, in their order,
and of all of them if all are tried. Where only those that apply are wanted, the others are left out. -/
structure Records (s : Served) (d : Domain) (target : Webpage) (options : ReadingOptions)
    (outs : List TemplateOutput) : Prop where
  own : target.domain = d.name.text
  candidates : ∃ tried outputs, tried <+: d.candidates target.path options.templates ∧
    (options.tryAll = true → tried = d.candidates target.path options.templates) ∧
    List.Forall₂ (Candidate.Records s target) tried outputs ∧
    outs = if options.onlyApplicable then outputs.filter TemplateOutput.applicable else outputs

theorem exists_tried_of_readingOf {s : Served} {candidates : List Candidate} {tryAll : Bool}
    {target : Webpage} {outputs : List TemplateOutput}
    (h : (readingOf candidates tryAll target).resultOn s = .ok outputs) :
    ∃ tried, tried <+: candidates ∧ (tryAll = true → tried = candidates) ∧
      List.Forall₂ (Candidate.Records s target) tried outputs := by
  have records : ∀ tried : List Candidate,
      List.Forall₂ (fun r o => r.resultOn s = .ok o) (tried.map (·.reading target)) outputs →
        List.Forall₂ (Candidate.Records s target) tried outputs := by
    intro tried ht
    exact (List.forall₂_map_left_iff.1 ht).imp fun _ _ => Candidate.records_of_reading
  unfold readingOf at h
  cases tryAll with
  | true =>
    rw [if_pos rfl, Reading.resultOn_all, mapM_eq_ok_iff] at h
    exact ⟨candidates, List.prefix_rfl, fun _ => rfl, records candidates h⟩
  | false =>
    obtain ⟨n, hn⟩ := Reading.exists_take_of_upTo h
    rw [← List.map_take] at hn
    exact ⟨candidates.take n, List.take_prefix n candidates, nofun, records _ hn⟩

theorem records_of_reading {s : Served} {d : Domain} {target : Webpage} {options : ReadingOptions}
    {outs : List TemplateOutput} (h : (d.reading target options).resultOn s = .ok outs) :
    d.Records s target options outs := by
  obtain ⟨own, outputs, ho, made⟩ := resultOn_reading_eq_ok_iff.1 h
  obtain ⟨tried, first, all, records⟩ := exists_tried_of_readingOf ho
  exact ⟨own, tried, outputs, first, all, records, made⟩

end Domain

/-- Delays make no difference to the outputs, and the outputs are recorded in the order of what is declared. -/
theorem outputs_independent_of_delays {v w : Visit} (alike : v.Alike w) (d : Domain)
    (options : ReadingOptions) :
    (∀ outs, (v.readBy d options).1 = .ok outs ↔ (w.readBy d options).1 = .ok outs) ∧
      ∀ outs, (v.readBy d options).1 = .ok outs → d.Records v.served v.webpage options outs := by
  refine ⟨fun outs => ?_, fun outs h => ?_⟩
  · rw [Visit.readBy_eq_ok_iff, Visit.readBy_eq_ok_iff, alike.webpage, alike.served]
  · exact Domain.records_of_reading (Visit.readBy_eq_ok_iff.1 h)

namespace TwoSelections

def target : Webpage := ⟨⟨.https, "", "", "c.d", none, "/x", none, none⟩⟩

def citation : SimpleCitation :=
  ⟨[("title", .single "T"), ("authorLast", .multiple ["A", "B"])], by decide⟩

def procedure : Procedure :=
  ⟨[.citoid (some ⟨"authorLast", by decide⟩), .citoid (some ⟨"title", by decide⟩)], [⟨.join .comma, false⟩]⟩

def domain : Domain :=
  { Domain.ofName ⟨"c.d", by decide⟩ with
    templates := ⟨[⟨⟨"c.d", none, ⟨[⟨.title, true, [procedure]⟩], by decide⟩⟩, "/x"⟩], by decide⟩ }

def output : TemplateOutput :=
  ⟨"c.d", some "/x", none,
    [⟨.title, [⟨[["A", "B"], ["T"]], ["A", "B", "T"], [["A,B,T"]], ["A,B,T"]⟩], [some "A,B,T"], true, true, false⟩],
    true, some { Citation.ofUrl target.address with title := some "A,B,T" }⟩

def visit (citoidDelay : Option Nat) : Visit :=
  .start target (.error .transport) (.ok citation) none citoidDelay

def options : ReadingOptions := ⟨some ["/x"], false, true⟩

theorem outputs_of_two_selections :
    (visit none).Alike (visit (some 5)) ∧
      ((visit (some 5)).readBy domain options).1 = .ok [output] ∧
      domain.Records (visit none).served target options [output] := by
  have alike : (visit none).Alike (visit (some 5)) := Visit.alike_start _ _ _ _ _ _ _
  have atOnce : ((visit none).readBy domain options).1 = .ok [output] := Visit.readBy_eq_ok_iff.2 rfl
  obtain ⟨same, recorded⟩ := outputs_independent_of_delays alike domain options
  exact ⟨alike, (same _).1 atOnce, recorded _ atOnce⟩

end TwoSelections
end WebCitation
