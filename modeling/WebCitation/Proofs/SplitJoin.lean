import WebCitation.Proofs.Pieces
import WebCitation.Step.Transformation

/-!
Splitting and joining undo each other. A join puts together again what a split at the same separator took apart, whatever
the separator is. A split finds the joined values again if they share no character with the separator.
-/
namespace WebCitation

open Text

namespace Separator

theorem text_ofConfig (config : String) : (ofConfig config).text = if config = "" then "," else config := by
  unfold ofConfig
  split <;> rfl

theorem join_split (sep : Separator) (value : String) : sep.join (sep.split value) = value := by
  have texts : (sep.split value).map String.toList = splitOn sep.text.toList value.toList := by
    simp [split, String.pieces, Function.comp_def]
  rw [join, texts, join_splitOn, String.ofList_toList]

theorem split_join (sep : Separator) {values : List String} (some_value : values ≠ [])
    (apart : ∀ value ∈ values, ∀ c ∈ value.toList, c ∉ sep.text.toList) : sep.split (sep.join values) = values := by
  have nonempty : sep.text.toList ≠ [] := by simpa using sep.nonempty
  have found : splitOn sep.text.toList (Text.join sep.text.toList (values.map String.toList)) =
      values.map String.toList := by
    apply splitOn_join nonempty
    · simpa using some_value
    · intro piece member c inside
      obtain ⟨value, given, rfl⟩ := List.mem_map.1 member
      exact apart value given c inside
  rw [split, join, String.pieces, String.toList_ofList, found]
  simp [Function.comp_def]

end Separator

/-- Let a split work on each value and a join on all of them, as they do when their definitions do not say, and let both
have one config. Then the join undoes the split of every text, and the split undoes the join of every nonempty list of
values none of which shares a character with the separator. -/
theorem split_and_join_are_inverse (config : String) :
    ∃ split join,
      (∀ flag ∈ [none, some true], Transformation.ofDefinition ⟨"split", config, flag⟩ = .ok split) ∧
      (∀ flag ∈ [none, some false], Transformation.ofDefinition ⟨"join", config, flag⟩ = .ok join) ∧
      let sep := if config = "" then "," else config
      (∀ values, join.apply values = [sep.intercalate values]) ∧
      (∀ text, join.apply (split.apply [text]) = [text]) ∧
      ∀ values, values ≠ [] → (∀ value ∈ values, ∀ c ∈ value.toList, c ∉ sep.toList) →
        split.apply (join.apply values) = values := by
  refine ⟨⟨.split (.ofConfig config), true⟩, ⟨.join (.ofConfig config), false⟩, ?_, ?_, ?_⟩
  · simp [Transformation.ofDefinition, TransformationRule.ofConfig, TransformationRule.itemwiseDefault, Except.map]
  · simp [Transformation.ofDefinition, TransformationRule.ofConfig, TransformationRule.itemwiseDefault, Except.map]
  · intro sep
    have same : (Separator.ofConfig config).text = sep := Separator.text_ofConfig config
    have splits : ∀ text, Transformation.apply ⟨.split (.ofConfig config), true⟩ [text] =
        (Separator.ofConfig config).split text := by
      intro text
      simp [Transformation.apply, Transformation.gathered]
    refine ⟨?_, ?_, ?_⟩
    · intro values
      rw [← same, ← Separator.join_eq_intercalate]
      rfl
    · intro text
      rw [splits]
      exact congrArg (fun joined => [joined]) (Separator.join_split _ text)
    · intro values some_value apart
      rw [← same] at apart
      exact (splits _).trans (Separator.split_join _ some_value apart)

theorem values_between_overlaps :
    ∃ split join, Transformation.ofDefinition ⟨"split", "aa", none⟩ = .ok split ∧
      Transformation.ofDefinition ⟨"join", "aa", none⟩ = .ok join ∧
      join.apply ["", "", "b", ""] = ["aaaabaa"] ∧ split.apply ["aaaabaa"] = ["", "", "b", ""] := by
  obtain ⟨split, join, hs, hj, joined, -, found⟩ := split_and_join_are_inverse "aa"
  have made : join.apply ["", "", "b", ""] = ["aaaabaa"] := (joined _).trans (by decide)
  have again := found ["", "", "b", ""] (by simp) (by simp)
  rw [made] at again
  exact ⟨split, join, hs none (by simp), hj none (by simp), made, again⟩

end WebCitation
