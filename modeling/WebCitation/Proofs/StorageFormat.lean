import Mathlib.Data.List.Forall2
import WebCitation.Proofs.Codec
import WebCitation.Proofs.Result

/-!
The storage format, said without its reader. A record is stored as an object, with its keys in any order and others
beside them, or as an array of its columns in order. A column with a value to take may be missing. What is read of a
JSON value is what it stores, and what is written is read again, as a value and from each of its texts.
-/
namespace WebCitation.Json

/-- What may stand in a column of a record, where there may be nothing. -/
abbrev Cell := Option Json → Prop

section

variable {α : Type} (form : α → Json → Prop)

def Cell.must (a : α) : Cell
  | some j => form a j
  | none => False

def Cell.orElse (value a : α) : Cell
  | some j => form a j
  | none => a = value

/-- A column without a value is missing or null. -/
def Cell.maybe : Option α → Cell
  | some a, some j => j ≠ null ∧ form a j
  | none, some j => j = null
  | some _, none => False
  | none, none => True

def Items (as : List α) (j : Json) : Prop := ∃ items, j = array items ∧ List.Forall₂ form as items

end

/-- The columns of an object go by their keys, those of an array by their places. -/
def Record (cells : List (String × Cell)) : Json → Prop
  | object fields => ∀ cell ∈ cells, cell.2 (fields.lookup cell.1)
  | array items => items.length ≤ cells.length ∧ ∀ i (h : i < cells.length), cells[i].2 items[i]?
  | _ => False

def IsString (s : String) (j : Json) : Prop := j = string s

def IsBool (b : Bool) (j : Json) : Prop := j = bool b

/-- Just the forms of a value are read as it. -/
def Reads (form : α → Json → Prop) (read : Json → Option α) : Prop := ∀ a j, read j = some a ↔ form a j

theorem reads_string : Reads IsString string? := by
  intro s j
  cases j <;> simp [string?, IsString]

theorem reads_bool : Reads IsBool bool? := by
  intro b j
  cases j <;> simp [bool?, IsBool]

namespace Reads

variable {form : α → Json → Prop} {read : Json → Option α} (h : Reads form read)

include h

theorem must (a : α) (o : Option Json) : required read o = some a ↔ Cell.must form a o := by
  cases o with
  | none => simp [required, Cell.must]
  | some j => exact h a j

theorem orElse (value a : α) (o : Option Json) : withDefault value read o = some a ↔ Cell.orElse form value a o := by
  cases o with
  | none => simp [withDefault, Cell.orElse, eq_comm]
  | some j => exact h a j

theorem maybe (a : Option α) (o : Option Json) : nullable read o = some a ↔ Cell.maybe form a o := by
  cases o with
  | none => cases a <;> simp [nullable, Cell.maybe]
  | some j =>
    have read_iff := fun b => h b j
    cases j <;> cases a <;> simp [nullable, Cell.maybe, read_iff]

theorem list : Reads (Items form) (listOf? read) := by
  intro as j
  cases j with
  | array items =>
    have each : List.Forall₂ (fun a j => read j = some a) as items ↔ List.Forall₂ form as items := by
      constructor
      · exact List.Forall₂.imp fun a j => (h a j).1
      · exact List.Forall₂.imp fun a j => (h a j).2
    simp [listOf?, Items, mapM_eq_some_iff, each]
  | _ => simp [listOf?, Items]

end Reads

theorem getElem_append_replicate {items : List Json} {more i : Nat}
    (h : i < (items.map some ++ List.replicate more none).length) :
    (items.map some ++ List.replicate more none)[i] = items[i]? := by
  by_cases inside : i < items.length
  · rw [List.getElem_append_left (by simpa using inside), List.getElem_map, List.getElem?_eq_getElem inside]
  · rw [List.getElem_append_right (by simpa using inside), List.getElem_replicate]
    exact (List.getElem?_eq_none (Nat.le_of_not_lt inside)).symm

theorem slots?_eq_some_iff {cells : List (String × Cell)} {j : Json} :
    (∃ slots, slots? (cells.map Prod.fst) j = some slots ∧ List.Forall₂ (fun cell o => cell.2 o) cells slots) ↔
      Record cells j := by
  cases j with
  | object fields => simp [slots?, Record, List.forall₂_map_right_iff, List.forall₂_same]
  | array items =>
    simp only [slots?, Record, List.length_map]
    by_cases short : items.length ≤ cells.length
    · simp only [short, true_and, if_true, Option.some.injEq, exists_eq_left']
      rw [List.forall₂_iff_get]
      have whole : cells.length = (items.map some ++ List.replicate (cells.length - items.length) none).length := by
        simp
        omega
      constructor
      · rintro ⟨_, each⟩ i inside
        have at_place := each i inside (whole ▸ inside)
        rwa [List.get_eq_getElem, List.get_eq_getElem, getElem_append_replicate] at at_place
      · intro each
        refine ⟨whole, fun i inside _ => ?_⟩
        rw [List.get_eq_getElem, List.get_eq_getElem, getElem_append_replicate]
        exact each i inside
    · simp [short]
  | _ => simp [slots?, Record]

theorem reads_record {cells : α → List (String × Cell)} {columns : List String}
    {read : List (Option Json) → Option α} (named : ∀ a, (cells a).map Prod.fst = columns)
    (each : ∀ a slots, read slots = some a ↔ List.Forall₂ (fun cell o => cell.2 o) (cells a) slots) :
    Reads (fun a => Record (cells a)) (fun j => (slots? columns j).bind read) := by
  intro a j
  simp only [Option.bind_eq_some_iff, each, ← named a]
  exact slots?_eq_some_iff

theorem Items.write {form : α → Json → Prop} {write : α → Json} (h : ∀ a, form a (write a)) (as : List α) :
    Items form as (array (as.map write)) :=
  ⟨as.map write, rfl, List.forall₂_map_right_iff.2 (List.forall₂_same.2 fun a _ => h a)⟩

/-- What is written of a value is read as the value, and so are all of its texts. Just the forms of a value are read as
it, and whatever was read is written in a form that is read as the same. -/
structure StorageFormat (form : α → Json → Prop) (write : α → Json) (read : Json → Option α) : Prop where
  written : ∀ a, read (write a) = some a
  text : ∀ a (s : String), WritesItem (write a) s.toList → (parse? s).bind read = some a
  stored : ∀ a j, read j = some a ↔ form a j
  again : ∀ a j, read j = some a →
    read (write a) = some a ∧ ∀ s : String, WritesItem (write a) s.toList → (parse? s).bind read = some a

theorem StorageFormat.of_reads {form : α → Json → Prop} {write : α → Json} {read : Json → Option α} {levels : Nat}
    (reads : Reads form read) (stored : ∀ a, form a (write a)) (texts : RoundTrips levels write read)
    (deep : levels < depthLimit) : StorageFormat form write read := by
  have written : ∀ a, read (write a) = some a := fun a => (reads a (write a)).2 (stored a)
  have text : ∀ a (s : String), WritesItem (write a) s.toList → (parse? s).bind read = some a := by
    intro a s h
    have parsed : parse? s = some (write a).ordered := parseWithin?_of_writes (texts.plain a) deep h
    rw [parsed]
    exact texts.read a
  exact ⟨written, text, reads, fun a j _ => ⟨written a, text a⟩⟩

end WebCitation.Json

namespace WebCitation.Definition

open Json

namespace Selection

def StoredAs (d : Selection) : Json → Prop :=
  Record [("type", .must IsString d.type), ("config", .orElse IsString "" d.config)]

theorem reads : Reads StoredAs decode := by
  refine reads_record (fun _ => rfl) fun ⟨type, config⟩ slots => ?_
  match slots with
  | [_, _] => simp [← reads_string.must, ← reads_string.orElse, Option.bind_eq_some_iff]
  | [] | [_] | _ :: _ :: _ :: _ => simp

theorem storedAs_encode (d : Selection) : d.StoredAs d.encode := by
  simp [StoredAs, Record, encode, List.lookup_cons, Cell.must, Cell.orElse, IsString]

end Selection

namespace Transformation

def StoredAs (d : Transformation) : Json → Prop :=
  Record [("type", .must IsString d.type), ("config", .orElse IsString "" d.config),
    ("itemwise", .maybe IsBool d.itemwise)]

theorem reads : Reads StoredAs decode := by
  refine reads_record (fun _ => rfl) fun ⟨type, config, itemwise⟩ slots => ?_
  match slots with
  | [_, _, _] =>
    simp [← reads_string.must, ← reads_string.orElse, ← reads_bool.maybe, Option.bind_eq_some_iff]
  | [] | [_] | [_, _] | _ :: _ :: _ :: _ :: _ => simp

theorem storedAs_encode (d : Transformation) : d.StoredAs d.encode := by
  obtain ⟨type, config, itemwise⟩ := d
  cases itemwise <;>
    simp [StoredAs, Record, encode, optionalField, List.lookup_cons, Cell.must, Cell.orElse, Cell.maybe, IsString,
      IsBool]

end Transformation

namespace Procedure

def StoredAs (d : Procedure) : Json → Prop :=
  Record [("selections", .orElse (Items Selection.StoredAs) [] d.selections),
    ("transformations", .orElse (Items Transformation.StoredAs) [] d.transformations)]

theorem reads : Reads StoredAs decode := by
  refine reads_record (fun _ => rfl) fun ⟨selections, transformations⟩ slots => ?_
  match slots with
  | [_, _] =>
    simp [← Selection.reads.list.orElse, ← Transformation.reads.list.orElse, Option.bind_eq_some_iff]
  | [] | [_] | _ :: _ :: _ :: _ => simp

theorem storedAs_encode (d : Procedure) : d.StoredAs d.encode := by
  simp [StoredAs, Record, encode, List.lookup_cons, Cell.orElse, Items.write Selection.storedAs_encode,
    Items.write Transformation.storedAs_encode]

end Procedure

namespace Field

def StoredAs (d : Field) : Json → Prop :=
  Record [("fieldname", .must IsString d.fieldname), ("procedures", .orElse (Items Procedure.StoredAs) [] d.procedures),
    ("required", .orElse IsBool false d.required)]

theorem reads : Reads StoredAs decode := by
  refine reads_record (fun _ => rfl) fun ⟨fieldname, procedures, required⟩ slots => ?_
  match slots with
  | [_, _, _] =>
    simp [← reads_string.must, ← Procedure.reads.list.orElse, ← reads_bool.orElse, Option.bind_eq_some_iff,
      -Bool.exists_bool]
  | [] | [_] | [_, _] | _ :: _ :: _ :: _ :: _ => simp

theorem storedAs_encode (d : Field) : d.StoredAs d.encode := by
  simp [StoredAs, Record, encode, List.lookup_cons, Cell.must, Cell.orElse, IsString, IsBool,
    Items.write Procedure.storedAs_encode]

end Field

namespace Template

def StoredAs (d : Template) : Json → Prop :=
  Record [("path", .must IsString d.path), ("label", .maybe IsString d.label),
    ("fields", .orElse (Items Field.StoredAs) [] d.fields)]

theorem reads : Reads StoredAs decode := by
  refine reads_record (fun _ => rfl) fun ⟨path, label, fields⟩ slots => ?_
  match slots with
  | [_, _, _] =>
    simp [← reads_string.must, ← reads_string.maybe, ← Field.reads.list.orElse, Option.bind_eq_some_iff]
  | [] | [_] | [_, _] | _ :: _ :: _ :: _ :: _ => simp

theorem storedAs_encode (d : Template) : d.StoredAs d.encode := by
  obtain ⟨path, label, fields⟩ := d
  cases label <;>
    simp [StoredAs, Record, encode, optionalField, List.lookup_cons, Cell.must, Cell.orElse, Cell.maybe, IsString,
      Items.write Field.storedAs_encode]

end Template

namespace Fallback

def StoredAs (d : Fallback) : Json → Prop :=
  Record [("label", .maybe IsString d.label), ("fields", .orElse (Items Field.StoredAs) [] d.fields)]

theorem reads : Reads StoredAs decode := by
  refine reads_record (fun _ => rfl) fun ⟨label, fields⟩ slots => ?_
  match slots with
  | [_, _] => simp [← reads_string.maybe, ← Field.reads.list.orElse, Option.bind_eq_some_iff]
  | [] | [_] | _ :: _ :: _ :: _ => simp

theorem storedAs_encode (d : Fallback) : d.StoredAs d.encode := by
  obtain ⟨label, fields⟩ := d
  cases label <;>
    simp [StoredAs, Record, encode, optionalField, List.lookup_cons, Cell.orElse, Cell.maybe, IsString,
      Items.write Field.storedAs_encode]

end Fallback

namespace Pattern

def StoredAs (d : Pattern) : Json → Prop :=
  Record [("pattern", .must IsString d.pattern), ("label", .maybe IsString d.label)]

theorem reads : Reads StoredAs decode := by
  refine reads_record (fun _ => rfl) fun ⟨pattern, label⟩ slots => ?_
  match slots with
  | [_, _] => simp [← reads_string.must, ← reads_string.maybe, Option.bind_eq_some_iff]
  | [] | [_] | _ :: _ :: _ :: _ => simp

theorem storedAs_encode (d : Pattern) : d.StoredAs d.encode := by
  obtain ⟨pattern, label⟩ := d
  cases label <;>
    simp [StoredAs, Record, encode, optionalField, List.lookup_cons, Cell.must, Cell.maybe, IsString]

end Pattern

namespace Goal

def StoredAs (d : Goal) : Json → Prop :=
  Record [("fieldname", .must IsString d.fieldname), ("goal", .orElse (Items IsString) [] d.goal)]

theorem reads : Reads StoredAs decode := by
  refine reads_record (fun _ => rfl) fun ⟨fieldname, goal⟩ slots => ?_
  match slots with
  | [_, _] => simp [← reads_string.must, ← reads_string.list.orElse, Option.bind_eq_some_iff]
  | [] | [_] | _ :: _ :: _ :: _ => simp

theorem storedAs_encode (d : Goal) : d.StoredAs d.encode := by
  have is_string : ∀ s, IsString s (string s) := fun _ => rfl
  have goals := Items.write is_string d.goal
  simp [StoredAs, Record, encode, List.lookup_cons, Cell.must, Cell.orElse, ofStrings, goals, IsString]

end Goal

namespace Test

def StoredAs (d : Test) : Json → Prop :=
  Record [("path", .must IsString d.path), ("fields", .orElse (Items Goal.StoredAs) [] d.fields)]

theorem reads : Reads StoredAs decode := by
  refine reads_record (fun _ => rfl) fun ⟨path, fields⟩ slots => ?_
  match slots with
  | [_, _] => simp [← reads_string.must, ← Goal.reads.list.orElse, Option.bind_eq_some_iff]
  | [] | [_] | _ :: _ :: _ :: _ => simp

theorem storedAs_encode (d : Test) : d.StoredAs d.encode := by
  simp [StoredAs, Record, encode, List.lookup_cons, Cell.must, Cell.orElse, IsString,
    Items.write Goal.storedAs_encode]

end Test

namespace Domain

def StoredAs (d : Domain) : Json → Prop :=
  Record [("patterns", .orElse (Items Pattern.StoredAs) [] d.patterns),
    ("templates", .orElse (Items Template.StoredAs) [] d.templates),
    ("tests", .orElse (Items Test.StoredAs) [] d.tests)]

theorem reads : Reads StoredAs decode := by
  refine reads_record (fun _ => rfl) fun ⟨patterns, templates, tests⟩ slots => ?_
  match slots with
  | [_, _, _] =>
    simp [← Pattern.reads.list.orElse, ← Template.reads.list.orElse, ← Test.reads.list.orElse,
      Option.bind_eq_some_iff]
  | [] | [_] | [_, _] | _ :: _ :: _ :: _ :: _ => simp

theorem storedAs_encode (d : Domain) : d.StoredAs d.encode := by
  simp [StoredAs, Record, encode, List.lookup_cons, Cell.orElse, Items.write Pattern.storedAs_encode,
    Items.write Template.storedAs_encode, Items.write Test.storedAs_encode]

end Domain

/-- Each of the nine shapes of stored rules is read again from what is written of it. -/
theorem storage_format_round_trips :
    StorageFormat Selection.StoredAs Selection.encode Selection.decode ∧
      StorageFormat Transformation.StoredAs Transformation.encode Transformation.decode ∧
      StorageFormat Procedure.StoredAs Procedure.encode Procedure.decode ∧
      StorageFormat Field.StoredAs Field.encode Field.decode ∧
      StorageFormat Template.StoredAs Template.encode Template.decode ∧
      StorageFormat Fallback.StoredAs Fallback.encode Fallback.decode ∧
      StorageFormat Pattern.StoredAs Pattern.encode Pattern.decode ∧
      StorageFormat Test.StoredAs Test.encode Test.decode ∧
      StorageFormat Domain.StoredAs Domain.encode Domain.decode := by
  refine ⟨?_, ?_, ?_, ?_, ?_, ?_, ?_, ?_, ?_⟩
  · exact .of_reads Selection.reads Selection.storedAs_encode Selection.roundTrips (by decide)
  · exact .of_reads Transformation.reads Transformation.storedAs_encode Transformation.roundTrips (by decide)
  · exact .of_reads Procedure.reads Procedure.storedAs_encode Procedure.roundTrips (by decide)
  · exact .of_reads Field.reads Field.storedAs_encode Field.roundTrips (by decide)
  · exact .of_reads Template.reads Template.storedAs_encode Template.roundTrips (by decide)
  · exact .of_reads Fallback.reads Fallback.storedAs_encode Fallback.roundTrips (by decide)
  · exact .of_reads Pattern.reads Pattern.storedAs_encode Pattern.roundTrips (by decide)
  · exact .of_reads Test.reads Test.storedAs_encode Test.roundTrips (by decide)
  · exact .of_reads Domain.reads Domain.storedAs_encode Domain.roundTrips (by decide)

example : Field.decode (.array [.string "date", .array []]) = some ⟨"date", [], false⟩ := by
  rfl

end WebCitation.Definition
