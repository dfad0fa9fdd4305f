import WebCitation.Domain.Reading
import WebCitation.Proofs.Result

/-!
Candidates tried one after the other, and all of them at once. Where all of them have an output, the first way
has those up to and with the first that applies, so it never fails where the second does not.
-/
namespace WebCitation

theorem filter_take_findIdx (p : α → Bool) (xs : List α) :
    (xs.take (xs.findIdx p + 1)).filter p = (xs.find? p).toList := by
  induction xs with
  | nil => rfl
  | cons x xs ih =>
    cases hp : p x with
    | true => simp [List.findIdx_cons, hp]
    | false => simpa [List.findIdx_cons, hp] using ih

/-- What readings come to one after the other, where they come to `xs` all at once. -/
theorem Reading.resultOn_upTo {s : Served} {rs : List (Reading α)} {xs : List α}
    (h : (all rs).resultOn s = .ok xs) (p : α → Bool) :
    (upTo p rs).resultOn s = .ok (xs.take (xs.findIdx p + 1)) := by
  rw [resultOn_all, mapM_eq_ok_iff] at h
  induction h with
  | nil => rfl
  | @cons r x rs xs hr _ ih =>
    rw [upTo, resultOn, hr]
    simp only [Except.bind]
    cases hp : p x with
    | true => simp [List.findIdx_cons, hp, pure]
    | false => simp [List.findIdx_cons, hp, resultOn_map, ih, Except.map]

namespace Domain

/-- A domain has outputs for the pages of its own host, and only where its candidates have them. -/
theorem resultOn_reading_eq_ok_iff {d : Domain} {target : Webpage} {options : ReadingOptions} {s : Served}
    {outs : List TemplateOutput} :
    (d.reading target options).resultOn s = .ok outs ↔
      target.domain = d.name.text ∧
        ∃ tried,
          (readingOf (d.candidates target.path options.templates) options.tryAll target).resultOn s = .ok tried ∧
          outs = if options.onlyApplicable then tried.filter TemplateOutput.applicable else tried := by
  unfold reading
  split
  · rename_i same
    rw [Reading.resultOn_map_eq_ok_iff]
    constructor
    · rintro ⟨tried, htried, made⟩
      exact ⟨same, tried, htried, made.symm⟩
    · rintro ⟨_, tried, htried, made⟩
      exact ⟨tried, htried, made.symm⟩
  · rename_i other
    simp [Reading.fail, other]

end Domain

theorem Visit.readBy_eq_ok_iff {v : Visit} {d : Domain} {options : ReadingOptions}
    {outs : List TemplateOutput} :
    (v.readBy d options).1 = .ok outs ↔ (d.reading v.webpage options).resultOn v.served = .ok outs :=
  v.run_eq_ok_iff _ _

/-- Let all candidates at once have outputs. Then one candidate after the other has those up to and with the
first that applies, and of these only that one applies. Where one after the other fails, all at once fail. -/
theorem sequential_dispatch_refines_exhaustive (d : Domain) (paths : Option (List String)) {v w : Visit}
    (alike : v.Alike w) :
    (∀ outs, (v.readBy d ⟨paths, true, false⟩).1 = .ok outs →
      (w.readBy d ⟨paths, false, false⟩).1
          = .ok (outs.take (outs.findIdx TemplateOutput.applicable + 1)) ∧
        (w.readBy d ⟨paths, false, true⟩).1 = .ok (outs.find? TemplateOutput.applicable).toList) ∧
    ∀ onlyApplicable e, (w.readBy d ⟨paths, false, onlyApplicable⟩).1 = .error e →
      ∃ e', (v.readBy d ⟨paths, true, false⟩).1 = .error e' := by
  have sequential : ∀ onlyApplicable outs, (v.readBy d ⟨paths, true, false⟩).1 = .ok outs →
      (w.readBy d ⟨paths, false, onlyApplicable⟩).1 =
        .ok (if onlyApplicable then (outs.find? TemplateOutput.applicable).toList
          else outs.take (outs.findIdx TemplateOutput.applicable + 1)) := by
    intro onlyApplicable outs h
    rw [Visit.readBy_eq_ok_iff, Domain.resultOn_reading_eq_ok_iff] at h ⊢
    obtain ⟨same, tried, htried, houts⟩ := h
    have all : tried = outs := houts.symm
    subst all
    rw [← alike.webpage, ← alike.served]
    refine ⟨same, _, Reading.resultOn_upTo htried TemplateOutput.applicable, ?_⟩
    rw [filter_take_findIdx]
  refine ⟨fun outs h => ⟨sequential false outs h, sequential true outs h⟩, ?_⟩
  intro onlyApplicable e h
  cases hv : (v.readBy d ⟨paths, true, false⟩).1 with
  | error e' => exact ⟨e', rfl⟩
  | ok outs =>
    rw [sequential onlyApplicable outs hv] at h
    cases h

namespace TwoTemplates

def target : Webpage := ⟨⟨.https, "", "", "a.b", none, "/x", none, none⟩⟩

/-- A domain with a template that cannot apply, as its title has no values, and one without fields. -/
def domain : Domain :=
  { Domain.ofName ⟨"a.b", by decide⟩ with
    templates :=
      ⟨[⟨⟨"a.b", none, ⟨[⟨.title, true, []⟩], by decide⟩⟩, "/x"⟩, ⟨⟨"a.b", none, Keyed.empty⟩, "/y"⟩],
        by decide⟩ }

def refused : TemplateOutput :=
  ⟨"a.b", some "/x", none, [⟨.title, [], [], false, false, false⟩], false, none⟩

def applied : TemplateOutput := ⟨"a.b", some "/y", none, [], true, some (.ofUrl target.address)⟩

def visit (pageDelay : Option Nat) : Visit :=
  .start target (.error .transport) (.error .transport) pageDelay none

def options (tryAll onlyApplicable : Bool) : ReadingOptions :=
  ⟨some ["/x", "/y", "/y"], tryAll, onlyApplicable⟩

theorem sequential_dispatch_of_two_templates :
    (visit none).Alike (visit (some 5)) ∧
      ((visit none).readBy domain (options true false)).1 = .ok [refused, applied, applied] ∧
      ((visit (some 5)).readBy domain (options false false)).1 = .ok [refused, applied] ∧
      ((visit (some 5)).readBy domain (options false true)).1 = .ok [applied] := by
  have alike : (visit none).Alike (visit (some 5)) := Visit.alike_start _ _ _ _ _ _ _
  have exhaustive : ((visit none).readBy domain (options true false)).1
      = .ok [refused, applied, applied] := Visit.readBy_eq_ok_iff.2 rfl
  have sequential :=
    (sequential_dispatch_refines_exhaustive domain (some ["/x", "/y", "/y"]) alike).1 _ exhaustive
  exact ⟨alike, exhaustive, sequential.1, sequential.2⟩

end TwoTemplates
end WebCitation
