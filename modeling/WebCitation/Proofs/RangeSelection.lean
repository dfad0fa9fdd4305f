import WebCitation.Proofs.RangeGrammar
import WebCitation.Step.Transformation

/-!
What ranges select. A range takes the items at the positions that it covers; the slice by which it takes them is one
that the list has, whatever the bounds of the range are.
-/
namespace WebCitation

/-- The items of a list at the positions that satisfy `p`, in their order. -/
def itemsAt (p : Nat → Bool) (items : List α) : List α :=
  ((List.range items.length).filter p).filterMap (items[·]?)

theorem itemsAt_nil (p : Nat → Bool) : itemsAt p ([] : List α) = [] := rfl

theorem itemsAt_cons (p : Nat → Bool) (x : α) (xs : List α) :
    itemsAt p (x :: xs) = (if p 0 then [x] else []) ++ itemsAt (fun i => p (i + 1)) xs := by
  have later : ((List.range xs.length).map Nat.succ).filter p =
      ((List.range xs.length).filter fun i => p (i + 1)).map Nat.succ := List.filter_map
  unfold itemsAt
  rw [List.length_cons, List.range_succ_eq_map, List.filter_cons, later]
  split <;> simp [List.filterMap_map]

theorem itemsAt_congr {p q : Nat → Bool} {items : List α} (same : ∀ i, i < items.length → p i = q i) :
    itemsAt p items = itemsAt q items := by
  unfold itemsAt
  rw [List.filter_congr fun i member => same i (List.mem_range.1 member)]

theorem drop_take_eq_itemsAt (items : List α) (start stop : Nat) :
    (items.take stop).drop start = itemsAt (fun i => start ≤ i && i < stop) items := by
  induction items generalizing start stop with
  | nil => simp [itemsAt]
  | cons x xs ih =>
    rw [itemsAt_cons]
    cases stop with
    | zero => simp [itemsAt]
    | succ stop =>
      cases start with
      | zero => simpa using ih 0 stop
      | succ start => simpa using ih start stop

namespace Range

/-- The positions that a range stands for, in lists of any length. -/
def covers (r : Range) (i : Nat) : Bool :=
  match r.last with
  | .single => i == r.first
  | .last => r.first ≤ i
  | .index n => r.first ≤ i && i ≤ n

/-- A slice that a list of the given length has: it is not reversed, stops at the end of the list at the latest, and
so its stop is a word if the length is one. -/
structure IsSlice (slice : Nat × Nat) (length : Nat) : Prop where
  ordered : slice.1 ≤ slice.2
  inside : slice.2 ≤ length
  word : length < UInt64.size → slice.2 < UInt64.size

theorem slice_inside (r : Range) (length : Nat) :
    (r.slice length).1 ≤ (r.slice length).2 ∧ (r.slice length).2 ≤ length := by
  cases length with
  | zero => simp [slice]
  | succ last =>
    simp only [slice]
    split
    · rename_i reached
      constructor
      · exact Nat.le_succ_of_le reached
      · omega
    · simp

theorem isSlice_slice (r : Range) (length : Nat) : IsSlice (r.slice length) length := by
  obtain ⟨ordered, inside⟩ := r.slice_inside length
  exact ⟨ordered, inside, fun word => Nat.lt_of_le_of_lt inside word⟩

theorem covers_iff (r : Range) {last i : Nat} (inside : i ≤ last) :
    r.covers i = true ↔ r.first ≤ i ∧ i ≤ r.lastAsked last := by
  obtain ⟨first, e⟩ := r
  cases e <;> simp [covers, lastAsked] <;> omega

theorem covers_iff_mem_slice (r : Range) {length i : Nat} (inside : i < length) :
    r.covers i = true ↔ (r.slice length).1 ≤ i ∧ i < (r.slice length).2 := by
  cases length with
  | zero => omega
  | succ last =>
    have inside : i ≤ last := Nat.le_of_lt_succ inside
    rw [r.covers_iff inside, slice]
    split
    · simp only
      omega
    · simp only
      omega

theorem select_eq_itemsAt (r : Range) (items : List α) : r.select items = itemsAt r.covers items := by
  have taken : r.select items = (items.take (r.slice items.length).2).drop (r.slice items.length).1 := rfl
  rw [taken, drop_take_eq_itemsAt]
  apply itemsAt_congr
  intro i inside
  rw [Bool.eq_iff_iff, r.covers_iff_mem_slice inside]
  simp

theorem flatMap_select_singleton (ranges : List Range) (item : α) :
    ranges.flatMap (·.select [item]) = List.replicate (ranges.countP (·.covers 0)) item := by
  induction ranges with
  | nil => rfl
  | cons r ranges ih =>
    have taken : r.select [item] = if r.covers 0 then [item] else [] := by
      rw [select_eq_itemsAt, itemsAt_cons, itemsAt_nil, List.append_nil]
    rw [List.flatMap_cons, ih, taken, List.countP_cons]
    split
    · rw [List.replicate_succ]
      rfl
    · rfl

theorem exists_rangeList_iff {ranges : List Range} :
    (∃ l : RangeList, l.ranges = ranges) ↔ ranges ≠ [] ∧ ∀ r ∈ ranges, r.InWords := by
  rw [← exists_parseList_iff]
  constructor
  · rintro ⟨l, rfl⟩
    exact ⟨l.config, l.parsed⟩
  · rintro ⟨config, parsed⟩
    exact ⟨⟨config, ranges, parsed⟩, rfl⟩

end Range

/-- Ranges select the items at the positions that they cover, range after range and in the order of the positions, each
by a slice that the list has. On each item apart they repeat it for every range that covers the first position. Just the
nonempty lists of ranges whose positions are words are those of a transformation. -/
theorem range_selection_is_exact (ranges : List Range) (values : List String) :
    ranges.flatMap (·.select values) = ranges.flatMap (fun r => itemsAt r.covers values) ∧
      (∀ r ∈ ranges, ∀ length, Range.IsSlice (r.slice length) length) ∧
      ((∃ l : RangeList, l.ranges = ranges) ↔ ranges ≠ [] ∧ ∀ r ∈ ranges, r.InWords) ∧
      ∀ l : RangeList, l.ranges = ranges →
        Transformation.apply ⟨.range l, false⟩ values = ranges.flatMap (fun r => itemsAt r.covers values) ∧
        Transformation.apply ⟨.range l, true⟩ values =
          values.flatMap fun value => List.replicate (ranges.countP (·.covers 0)) value := by
  have whole : ranges.flatMap (·.select values) = ranges.flatMap (fun r => itemsAt r.covers values) := by
    simp only [Range.select_eq_itemsAt]
  refine ⟨whole, fun r _ length => r.isSlice_slice length, Range.exists_rangeList_iff, ?_⟩
  rintro l rfl
  constructor
  · exact whole
  · simp only [Transformation.apply, RangeList.select, Range.flatMap_select_singleton, if_true]

namespace WideRanges

/-- To the largest position, reversed, at the largest position, and the first one alone. -/
def ranges : RangeList :=
  ⟨"1:18446744073709551615,2:1,18446744073709551615,0",
    [⟨1, .index 18446744073709551615⟩, ⟨2, .index 1⟩, ⟨18446744073709551615, .single⟩, ⟨0, .single⟩], by decide +kernel⟩

theorem selection_of_wide_ranges :
    (∀ r ∈ ranges.ranges, Range.IsSlice (r.slice 3) 3) ∧
      Transformation.apply ⟨.range ranges, false⟩ ["a", "b", "c"] = ["b", "c", "a"] ∧
      Transformation.apply ⟨.range ranges, true⟩ ["a", "b", "c"] = ["a", "b", "c"] := by
  obtain ⟨-, slices, -, applied⟩ := range_selection_is_exact ranges.ranges ["a", "b", "c"]
  obtain ⟨whole, each⟩ := applied ranges rfl
  exact ⟨fun r member => slices r member 3, whole.trans (by decide), each.trans (by decide)⟩

end WideRanges
end WebCitation
