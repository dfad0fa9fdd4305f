import WebCitation.Definition.Codec
import WebCitation.Proofs.JsonText

/-!
The stored form of rules as JSON. Every shape is written as a plain value, and it is read again from each text of
that value.
-/
namespace WebCitation.Json

/-- Fields with distinct keys are found after they are read, and so are the others that were read before. -/
theorem lookup_readFields {fields : List (String × Json)} (distinct : (fields.map Prod.fst).Nodup)
    (seen : List (String × Json)) (column : String) :
    (readFields seen fields).lookup column = ((fields.lookup column).map ordered).or (seen.lookup column) := by
  induction fields generalizing seen with
  | nil => rfl
  | cons field fields ih =>
    obtain ⟨key, value⟩ := field
    obtain ⟨fresh, distinct⟩ := List.nodup_cons.1 distinct
    rw [readFields, List.foldl_cons, ← readFields, ih distinct, lookup_insertField, lookup_cons]
    by_cases same : column = key
    · subst same
      rw [lookup_of_not_mem fresh, if_pos rfl, if_pos rfl]
      rfl
    · rw [if_neg same, if_neg same]

theorem slots?_ordered {fields : List (String × Json)} (distinct : (fields.map Prod.fst).Nodup)
    (columns : List String) :
    slots? columns (object fields).ordered = some (columns.map fun column => (fields.lookup column).map ordered) := by
  rw [ordered_object, slots?]
  simp only [lookup_readFields distinct, List.lookup_nil, Option.or_none]

/-- What is written of anything is plain, and it is read again when it is read. -/
structure RoundTrips (levels : Nat) (write : α → Json) (read : Json → Option α) : Prop where
  plain : ∀ a, Plain levels (write a)
  read : ∀ a, read (write a).ordered = some a

namespace RoundTrips

theorem string (levels : Nat) : RoundTrips levels Json.string string? :=
  ⟨fun s => .string s, fun s => by rw [ordered_string]; rfl⟩

variable {levels : Nat} {write : α → Json} {read : Json → Option α}

theorem mapM (h : RoundTrips levels write read) (items : List α) :
    ((items.map write).map ordered).mapM read = some items := by
  induction items with
  | nil => rfl
  | cons a items ih =>
    rw [List.map_cons, List.map_cons, List.mapM_cons, h.read, ih]
    rfl

theorem filterMap (h : RoundTrips levels write read) (items : List α) :
    ((items.map write).map ordered).filterMap read = items := by
  induction items with
  | nil => rfl
  | cons a items ih => rw [List.map_cons, List.map_cons, List.filterMap_cons_some (h.read a), ih]

theorem list (h : RoundTrips levels write read) :
    RoundTrips (levels + 1) (fun items => array (items.map write)) (listOf? read) := by
  refine ⟨fun items => .array fun j member => ?_, fun items => ?_⟩
  · obtain ⟨a, _, rfl⟩ := List.mem_map.1 member
    exact h.plain a
  · rw [ordered_array]
    exact h.mapM items

theorem object {columns : α → List (String × Json)} (distinct : ∀ a, ((columns a).map Prod.fst).Nodup)
    (plain : ∀ a, ∀ field ∈ columns a, Plain levels field.2)
    (read_of_slots : ∀ a j, (∀ names, slots? names j =
      some (names.map fun name => ((columns a).lookup name).map ordered)) → read j = some a) :
    RoundTrips (levels + 1) (fun a => .object (columns a)) read :=
  ⟨fun a => .object (distinct a) (plain a), fun a => read_of_slots a _ (slots?_ordered (distinct a))⟩

end RoundTrips

end WebCitation.Json

namespace WebCitation.Definition

open Json

theorem Selection.roundTrips : RoundTrips 1 encode decode := by
  refine .object (fun d => ?_) (fun d => ?_) (fun d j slots => ?_)
  · simp
  · simp [Plain.string]
  · rw [decode, slots]
    simp [List.lookup_cons, required, withDefault, string?]

theorem Transformation.roundTrips : RoundTrips 1 encode decode := by
  refine .object (fun d => ?_) (fun d => ?_) (fun d j slots => ?_)
  · cases d.itemwise <;> simp [optionalField]
  · cases d.itemwise <;> simp [optionalField, Plain.string, Plain.bool]
  · rw [decode, slots]
    obtain ⟨type, config, itemwise⟩ := d
    cases itemwise <;> simp [List.lookup_cons, required, withDefault, string?, nullable, optionalField, bool?]

theorem Procedure.roundTrips : RoundTrips 3 encode decode := by
  refine .object (fun d => ?_) (fun d => ?_) (fun d j slots => ?_)
  · simp
  · simp [Selection.roundTrips.list.plain, Transformation.roundTrips.list.plain]
  · rw [decode, slots]
    simp [List.lookup_cons, withDefault, Selection.roundTrips.list.read, Transformation.roundTrips.list.read]

theorem Field.roundTrips : RoundTrips 5 encode decode := by
  refine .object (fun d => ?_) (fun d => ?_) (fun d j slots => ?_)
  · simp
  · simp [Procedure.roundTrips.list.plain, Plain.string, Plain.bool]
  · rw [decode, slots]
    simp [List.lookup_cons, Json.required, string?, bool?, withDefault, Procedure.roundTrips.list.read]

theorem Template.roundTrips : RoundTrips 7 encode decode := by
  refine .object (fun d => ?_) (fun d => ?_) (fun d j slots => ?_)
  · cases d.label <;> simp [optionalField]
  · cases d.label <;> simp [optionalField, Field.roundTrips.list.plain, Plain.string]
  · rw [decode, slots]
    obtain ⟨path, label, fields⟩ := d
    cases label <;>
      simp [List.lookup_cons, required, string?, nullable, withDefault, optionalField, Field.roundTrips.list.read]

theorem Fallback.roundTrips : RoundTrips 7 encode decode := by
  refine .object (fun d => ?_) (fun d => ?_) (fun d j slots => ?_)
  · cases d.label <;> simp [optionalField]
  · cases d.label <;> simp [optionalField, Field.roundTrips.list.plain, Plain.string]
  · rw [decode, slots]
    obtain ⟨label, fields⟩ := d
    cases label <;>
      simp [List.lookup_cons, string?, nullable, withDefault, optionalField, Field.roundTrips.list.read]

theorem Pattern.roundTrips : RoundTrips 1 encode decode := by
  refine .object (fun d => ?_) (fun d => ?_) (fun d j slots => ?_)
  · cases d.label <;> simp [optionalField]
  · cases d.label <;> simp [optionalField, Plain.string]
  · rw [decode, slots]
    obtain ⟨pattern, label⟩ := d
    cases label <;> simp [List.lookup_cons, required, string?, nullable, optionalField]

theorem Goal.roundTrips : RoundTrips 2 encode decode := by
  refine .object (fun d => ?_) (fun d => ?_) (fun d j slots => ?_)
  · simp
  · simp [Plain.string, ofStrings, (RoundTrips.string 0).list.plain]
  · rw [decode, slots]
    simp [List.lookup_cons, required, string?, withDefault, ofStrings, (RoundTrips.string 0).list.read]

theorem Test.roundTrips : RoundTrips 4 encode decode := by
  refine .object (fun d => ?_) (fun d => ?_) (fun d j slots => ?_)
  · simp
  · simp [Plain.string, Goal.roundTrips.list.plain]
  · rw [decode, slots]
    simp [List.lookup_cons, required, string?, withDefault, Goal.roundTrips.list.read]

theorem Domain.roundTrips : RoundTrips 9 encode decode := by
  refine .object (fun d => ?_) (fun d => ?_) (fun d j slots => ?_)
  · simp
  · have patterns := (Pattern.roundTrips.list.plain d.patterns).mono (by decide : 2 ≤ 8)
    have tests := (Test.roundTrips.list.plain d.tests).mono (by decide : 5 ≤ 8)
    simp [patterns, tests, Template.roundTrips.list.plain]
  · rw [decode, slots]
    simp [List.lookup_cons, withDefault, Pattern.roundTrips.list.read, Template.roundTrips.list.read,
      Test.roundTrips.list.read]

end WebCitation.Definition
