import WebCitation.Step.Transformation

/-!
Itemwise transformations work on each value apart, so they take lists of values piece by piece. The others see the values
together: a split or a date takes them as one value, with commas between them.
-/
namespace WebCitation

/-- The rules that take several values as one where they do not work on each apart. -/
def TransformationRule.gathers : TransformationRule → Bool
  | split _ | date _ => true
  | join _ | range _ => false

namespace Transformation

theorem gathered_of_ne_nil {values : List String} (some_value : values ≠ []) :
    gathered false values = [",".intercalate values] := by
  have present : values.isEmpty = false := by simpa using some_value
  rw [gathered, present, Separator.join_eq_intercalate]
  rfl

theorem apply_eq_flatMap (rule : TransformationRule) (values : List String) :
    apply ⟨rule, true⟩ values = values.flatMap fun value => apply ⟨rule, true⟩ [value] := by
  cases rule with
  | join sep => simp [apply, List.map_eq_flatMap]
  | split sep => simp [apply, gathered]
  | date locale => simp [apply, gathered, List.map_eq_flatMap]
  | range ranges => simp [apply]

theorem apply_append (rule : TransformationRule) (xs ys : List String) :
    apply ⟨rule, true⟩ (xs ++ ys) = apply ⟨rule, true⟩ xs ++ apply ⟨rule, true⟩ ys := by
  rw [apply_eq_flatMap rule (xs ++ ys), List.flatMap_append, ← apply_eq_flatMap, ← apply_eq_flatMap]

theorem apply_gathered {rule : TransformationRule} (gathers : rule.gathers = true) {values : List String}
    (some_value : values ≠ []) : apply ⟨rule, false⟩ values = apply ⟨rule, true⟩ [",".intercalate values] := by
  cases rule with
  | join | range => cases gathers
  | split sep => simp only [apply, gathered_of_ne_nil some_value]; rfl
  | date locale => simp only [apply, gathered_of_ne_nil some_value]; rfl

theorem apply_nil_of_gathers {rule : TransformationRule} (gathers : rule.gathers = true) (itemwise : Bool) :
    apply ⟨rule, itemwise⟩ [] = [] := by
  cases rule with
  | join | range => cases gathers
  | split sep => simp [apply, gathered]
  | date locale => simp [apply, gathered]

end Transformation

/-- An itemwise transformation makes of a list what it makes of each value, one after the other. A split or a date that
is not itemwise makes of a list what it makes, itemwise or not, of its values as one. -/
theorem itemwise_means_per_item (t : Transformation) :
    (t.itemwise = true →
      t.apply [] = [] ∧ (∀ xs ys, t.apply (xs ++ ys) = t.apply xs ++ t.apply ys) ∧
        ∀ xs, t.apply xs = xs.flatMap fun x => t.apply [x]) ∧
      (t.itemwise = false → t.rule.gathers = true →
        t.apply [] = [] ∧ ∀ xs, xs ≠ [] →
          t.apply xs = t.apply [",".intercalate xs] ∧
            t.apply xs = Transformation.apply { t with itemwise := true } [",".intercalate xs]) := by
  obtain ⟨rule, itemwise⟩ := t
  constructor
  · rintro rfl
    have each := Transformation.apply_eq_flatMap rule
    exact ⟨each [], Transformation.apply_append rule, each⟩
  · rintro rfl gathers
    refine ⟨Transformation.apply_nil_of_gathers gathers false, ?_⟩
    intro xs some_value
    have once := Transformation.apply_gathered gathers some_value
    have again := Transformation.apply_gathered gathers (List.cons_ne_nil (",".intercalate xs) [])
    have same : ",".intercalate [",".intercalate xs] = ",".intercalate xs := by simp
    rw [same] at again
    exact ⟨once.trans again.symm, once⟩

namespace Semicolons

def each : Transformation := ⟨.split ⟨";", by decide⟩, true⟩

def whole : Transformation := { each with itemwise := false }

theorem pieces_of_two_values :
    each.apply (["a;b"] ++ ["c"]) = ["a", "b"] ++ ["c"] ∧ whole.apply ["a;b", "c"] = ["a", "b,c"] := by
  obtain ⟨-, appended, -⟩ := (itemwise_means_per_item each).1 rfl
  obtain ⟨-, gathered⟩ := (itemwise_means_per_item whole).2 rfl rfl
  obtain ⟨-, taken⟩ := gathered ["a;b", "c"] (by decide)
  constructor
  · refine (appended ["a;b"] ["c"]).trans ?_
    decide +kernel
  · refine taken.trans ?_
    decide +kernel

end Semicolons
end WebCitation
