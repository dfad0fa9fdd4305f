import Mathlib.Data.List.DropRight
import Mathlib.Data.List.Nodup
import WebCitation.Json.Parser
import WebCitation.Json.Printer

/-!
The texts of a JSON value are read as that value, wherever they have white space and in whatever order the keys
of an object stand.
-/
namespace WebCitation.Json

/-! Fields. -/

theorem lookup_cons (key : String) (value : Json) (fields : List (String × Json)) (column : String) :
    ((key, value) :: fields).lookup column = if column = key then some value else fields.lookup column := by
  rw [List.lookup_cons]
  by_cases same : column = key
  · rw [beq_iff_eq.2 same, if_pos same]
  · rw [beq_false_of_ne same, if_neg same]

theorem lookup_of_not_mem {fields : List (String × Json)} {key : String} (absent : key ∉ fields.map Prod.fst) :
    fields.lookup key = none := by
  refine List.lookup_eq_none_iff.2 fun field member => bne_iff_ne.2 ?_
  rintro rfl
  exact absent (List.mem_map_of_mem member)

theorem lookup_insertField (key : String) (value : Json) (fields : List (String × Json)) (column : String) :
    (insertField key value fields).lookup column =
      if column = key then some value else fields.lookup column := by
  induction fields with
  | nil => exact lookup_cons key value [] column
  | cons field fields ih =>
    obtain ⟨k, v⟩ := field
    rw [insertField]
    split
    · rw [lookup_cons]
    · split
      · rename_i named
        subst named
        simp only [lookup_cons]
        split <;> rfl
      · rename_i other
        rw [lookup_cons, lookup_cons, ih]
        by_cases same : column = k
        · rw [if_pos same, if_pos same, if_neg (same ▸ Ne.symm other)]
        · rw [if_neg same, if_neg same]

/-- It does not matter which of two fields is inserted first, unless they have the same key. -/
theorem insertField_comm {k l : String} (distinct : k ≠ l) (v w : Json) (fields : List (String × Json)) :
    insertField k v (insertField l w fields) = insertField l w (insertField k v fields) := by
  induction fields with
  | nil => grind [insertField]
  | cons field fields ih => grind [insertField]

/-- The value with the keys of its objects in ascending order, as every value that is read has them. -/
def ordered : Json → Json
  | array items => array (items.map ordered)
  | object fields => object (fields.foldl (fun seen field => insertField field.1 (ordered field.2) seen) [])
  | j => j
decreasing_by
  · have := List.sizeOf_lt_of_mem ‹_›
    simp only [array.sizeOf_spec]
    omega
  · obtain ⟨key, value⟩ := field
    have := List.sizeOf_lt_of_mem ‹_›
    simp only [object.sizeOf_spec, Prod.mk.sizeOf_spec] at this ⊢
    omega

@[simp] theorem ordered_null : null.ordered = null := by simp [ordered]

@[simp] theorem ordered_bool (b : Bool) : (bool b).ordered = bool b := by simp [ordered]

@[simp] theorem ordered_string (s : String) : (string s).ordered = string s := by simp [ordered]

theorem ordered_array (items : List Json) : (array items).ordered = array (items.map ordered) := by
  rw [ordered]

/-- The fields as they are read one after the other, on top of those that are read already. -/
def readFields (seen fields : List (String × Json)) : List (String × Json) :=
  fields.foldl (fun seen field => insertField field.1 field.2.ordered seen) seen

theorem ordered_object (fields : List (String × Json)) :
    (object fields).ordered = object (readFields [] fields) := by
  rw [ordered, readFields]

/-- It does not matter in which order fields with distinct keys are read. -/
theorem readFields_perm {fields written : List (String × Json)} (order : written.Perm fields)
    (distinct : (fields.map Prod.fst).Nodup) (seen : List (String × Json)) :
    readFields seen written = readFields seen fields := by
  refine (order.symm.foldl_eq' (fun x hx y hy seen => ?_) seen).symm
  by_cases same : x = y
  · rw [same]
  · exact insertField_comm (fun named => same (List.inj_on_of_nodup_map distinct hx hy named.symm ▸ rfl)) _ _ seen

/-- Values without numbers, with distinct keys in each object and no more than some levels of nesting. -/
inductive Plain : Nat → Json → Prop where
  | null {levels : Nat} : Plain levels null
  | bool {levels : Nat} (b : Bool) : Plain levels (bool b)
  | string {levels : Nat} (s : String) : Plain levels (string s)
  | array {levels : Nat} {items : List Json} (h : ∀ j ∈ items, Plain levels j) : Plain (levels + 1) (array items)
  | object {levels : Nat} {fields : List (String × Json)} (distinct : (fields.map Prod.fst).Nodup)
      (h : ∀ field ∈ fields, Plain levels field.2) : Plain (levels + 1) (object fields)

theorem Plain.mono {low high : Nat} {j : Json} (h : Plain low j) (le : low ≤ high) : Plain high j := by
  induction h generalizing high with
  | null => exact .null
  | bool b => exact .bool b
  | string s => exact .string s
  | array _ ih =>
    obtain ⟨high, rfl⟩ := Nat.exists_eq_add_of_le' (Nat.le_trans (Nat.le_add_left 1 _) le)
    exact .array fun j member => ih j member (Nat.le_of_succ_le_succ le)
  | object distinct _ ih =>
    obtain ⟨high, rfl⟩ := Nat.exists_eq_add_of_le' (Nat.le_trans (Nat.le_add_left 1 _) le)
    exact .object distinct fun field member => ih field member (Nat.le_of_succ_le_succ le)

def Blank (w : List Char) : Prop := ∀ c ∈ w, isSpace c = true

instance (w : List Char) : Decidable (Blank w) := decidable_of_iff (w.all isSpace = true) List.all_eq_true

/-- The texts of one or more things, with commas between them. -/
inductive Separated (writes : α → List Char → Prop) : List α → List Char → Prop where
  | last {a : α} {s : List Char} (h : writes a s) : Separated writes [a] s
  | more {a : α} {s : List Char} {as : List α} {t : List Char} (h : writes a s) (others : Separated writes as t) :
      Separated writes (a :: as) (s ++ ',' :: t)

mutual

/-- The texts of a value without numbers: white space stands anywhere between tokens, and the keys of an object
in any order. -/
inductive Writes : Json → List Char → Prop where
  | null : Writes null "null".toList
  | bool (b : Bool) : Writes (bool b) (if b then "true" else "false").toList
  | string (s : String) : Writes (string s) (writeString s)
  | noItems {w : List Char} (blank : Blank w) : Writes (array []) ('[' :: w ++ [']'])
  | array {items : List Json} {s : List Char} (h : Separated WritesItem items s) :
      Writes (array items) ('[' :: s ++ [']'])
  | noFields {w : List Char} (blank : Blank w) : Writes (object []) ('\x7b' :: w ++ ['\x7d'])
  | object {fields written : List (String × Json)} {s : List Char} (order : written.Perm fields)
      (h : Separated WritesField written s) : Writes (object fields) ('\x7b' :: s ++ ['\x7d'])

inductive WritesItem : Json → List Char → Prop where
  | mk {u v s : List Char} {j : Json} (before : Blank u) (h : Writes j s) (after : Blank v) :
      WritesItem j (u ++ s ++ v)

inductive WritesField : String × Json → List Char → Prop where
  | mk {u v s : List Char} {key : String} {j : Json} (before : Blank u) (after : Blank v) (h : WritesItem j s) :
      WritesField (key, j) (u ++ writeString key ++ v ++ ':' :: s)

end

/-! Strings. -/

theorem unit?_append {s : List Char} {n : Nat} (h : unit? s = some (n, [])) (rest : List Char) :
    unit? (s ++ rest) = some (n, rest) := by
  match s, h with
  | a :: b :: c :: d :: s, h =>
    simp only [unit?, Option.bind_eq_bind, Option.bind_eq_some_iff, Option.pure_def, Option.some.injEq,
      Prod.mk.injEq] at h
    obtain ⟨a', ha, b', hb, c', hc, d', hd, rfl, rfl⟩ := h
    simp [unit?, ha, hb, hc, hd]

theorem unit?_of_control : ∀ n : Fin 0x20,
    unit? (List.replicate (4 - (Text.hexadecimal n).length) '0' ++ Text.hexadecimal n) = some (n.val, []) := by
  decide +kernel

theorem unitEscape?_of_control {c : Char} (control : c.toNat < 0x20) (rest : List Char) :
    unitEscape? (List.replicate (4 - (Text.hexadecimal c.toNat).length) '0' ++ Text.hexadecimal c.toNat ++ rest) =
      some (c, rest) := by
  have high : ¬(0xD800 ≤ c.toNat ∧ c.toNat ≤ 0xDBFF) := by omega
  have low : ¬(0xDC00 ≤ c.toNat ∧ c.toNat ≤ 0xDFFF) := by omega
  rw [unitEscape?, unit?_append (unit?_of_control ⟨c.toNat, control⟩)]
  simp only [Option.bind_eq_bind, Option.bind_some, if_neg high, if_neg low, Char.ofNat_toNat, Option.pure_def]

theorem stringBody?_cons {c : Char} (quote : c ≠ '"') (backslash : c ≠ '\\') (shown : ¬c.toNat < 0x20) (fuel : Nat)
    (seen s : List Char) : stringBody? (fuel + 1) seen (c :: s) = stringBody? fuel (c :: seen) s := by
  rw [stringBody?.eq_def]
  grind

theorem stringBody?_escapeChar (fuel : Nat) (seen : List Char) (c : Char) (s : List Char) :
    stringBody? (fuel + 1) seen (escapeChar c ++ s) = stringBody? fuel (c :: seen) s := by
  unfold escapeChar
  split
  -- The characters with a letter of their own come first.
  · rfl
  · rfl
  · rfl
  · rfl
  · rfl
  · rfl
  · rfl
  · rename_i quote backslash _ _ _ _ _
    split
    · rename_i control
      simp only [List.cons_append]
      rw [stringBody?, unitEscape?_of_control control]
    · rename_i shown
      exact stringBody?_cons quote backslash shown fuel seen s

theorem length_le_length_flatMap (s : List Char) : s.length ≤ (s.flatMap escapeChar).length := by
  induction s with
  | nil => exact Nat.le_refl 0
  | cons c s ih =>
    have one : 1 ≤ (escapeChar c).length := by
      unfold escapeChar
      split <;> try decide
      split <;> simp
    rw [List.flatMap_cons, List.length_append, List.length_cons]
    omega

theorem stringBody?_flatMap {fuel : Nat} {s : List Char} (enough : s.length < fuel) (seen rest : List Char) :
    stringBody? fuel seen (s.flatMap escapeChar ++ '"' :: rest) = some (seen.reverse ++ s, rest) := by
  induction s generalizing fuel seen with
  | nil =>
    obtain ⟨fuel, rfl⟩ := Nat.exists_eq_add_of_lt enough
    rw [List.append_nil]
    rfl
  | cons c s ih =>
    match fuel, enough with
    | fuel + 1, enough =>
      rw [List.flatMap_cons, List.append_assoc, stringBody?_escapeChar, ih (Nat.lt_of_succ_lt_succ enough),
        List.reverse_cons, List.append_assoc]
      rfl

theorem stringBody?_writeString (s : String) (rest : List Char) :
    ∃ t, writeString s ++ rest = '"' :: t ∧ stringBody? (t.length + 1) [] t = some (s.toList, rest) := by
  refine ⟨s.toList.flatMap escapeChar ++ '"' :: rest, ?_, ?_⟩
  · simp [writeString]
  · have := length_le_length_flatMap s.toList
    refine stringBody?_flatMap ?_ [] rest
    rw [List.length_append]
    omega

/-! White space. -/

theorem skipSpace_append {w : List Char} (blank : Blank w) (s : List Char) : skipSpace (w ++ s) = skipSpace s :=
  List.dropWhile_append_of_pos blank

theorem skipSpace_cons {c : Char} (shown : isSpace c = false) (s : List Char) : skipSpace (c :: s) = c :: s := by
  rw [skipSpace, List.dropWhile_cons_of_neg (by rw [shown]; decide)]

theorem skipSpace_skipSpace (s : List Char) : skipSpace (skipSpace s) = skipSpace s :=
  List.dropWhile_idempotent _ _

theorem value?_skipSpace (fuel depth : Nat) (s : List Char) : value? fuel depth (skipSpace s) = value? fuel depth s := by
  cases fuel with
  | zero => rfl
  | succ fuel => rw [value?, value?, skipSpace_skipSpace]

theorem value?_append {w : List Char} (blank : Blank w) (fuel depth : Nat) (s : List Char) :
    value? fuel depth (w ++ s) = value? fuel depth s := by
  rw [← value?_skipSpace, skipSpace_append blank, value?_skipSpace]

theorem itemsFrom?_skipSpace (fuel depth : Nat) (seen : List Json) (s : List Char) :
    itemsFrom? fuel depth seen (skipSpace s) = itemsFrom? fuel depth seen s := by
  cases fuel with
  | zero => rfl
  | succ fuel => rw [itemsFrom?, itemsFrom?, value?_skipSpace]

theorem fieldsFrom?_skipSpace (fuel depth : Nat) (seen : List (String × Json)) (s : List Char) :
    fieldsFrom? fuel depth seen (skipSpace s) = fieldsFrom? fuel depth seen s := by
  cases fuel with
  | zero => rfl
  | succ fuel => rw [fieldsFrom?, fieldsFrom?, skipSpace_skipSpace]

/-! Values. -/

theorem value?_array {depth : Nat} (deep : 1 < depth) {s : List Char} (filled : ∀ t, skipSpace s ≠ ']' :: t)
    (fuel : Nat) : value? (fuel + 1) depth ('[' :: s) = itemsFrom? fuel (depth - 1) [] s := by
  rw [value?, skipSpace_cons (by decide)]
  simp only [if_neg (Nat.not_le.2 deep)]
  exact itemsFrom?_skipSpace fuel (depth - 1) [] s

theorem value?_object {depth : Nat} (deep : 1 < depth) {s : List Char} (filled : ∀ t, skipSpace s ≠ '\x7d' :: t)
    (fuel : Nat) : value? (fuel + 1) depth ('\x7b' :: s) = fieldsFrom? fuel (depth - 1) [] s := by
  rw [value?, skipSpace_cons (by decide)]
  simp only [if_neg (Nat.not_le.2 deep)]
  exact fieldsFrom?_skipSpace fuel (depth - 1) [] s

def starts : List Char := ['n', 't', 'f', '"', '[', '\x7b']

theorem isSpace_of_mem_starts {c : Char} (h : c ∈ starts) : isSpace c = false := by
  simp only [starts, List.mem_cons, List.not_mem_nil, or_false] at h
  rcases h with rfl | rfl | rfl | rfl | rfl | rfl <;> decide

theorem Writes.cons {j : Json} {s : List Char} (h : Writes j s) : ∃ c t, s = c :: t ∧ c ∈ starts := by
  cases h with
  | bool b => cases b <;> exact ⟨_, _, rfl, by decide⟩
  | _ => exact ⟨_, _, rfl, by decide⟩

/-- Every text of the value is read as the value, whatever comes after it. -/
def Readable (depth : Nat) (j : Json) : Prop :=
  ∀ s, Writes j s → ∀ fuel rest, s.length ≤ fuel → value? fuel depth (s ++ rest) = some (j.ordered, rest)

/-- The text of an item is read as the item, and what comes after it closes the array or goes on with it. -/
theorem itemsFrom?_of_writesItem {depth : Nat} {j : Json} (readable : Readable depth j) {s : List Char}
    (h : WritesItem j s) {fuel : Nat} (enough : s.length ≤ fuel) (seen : List Json) (rest : List Char) :
    itemsFrom? (fuel + 1) depth seen (s ++ rest) =
      match skipSpace rest with
      | ',' :: t => itemsFrom? fuel depth (j.ordered :: seen) t
      | ']' :: t => some (.array (j.ordered :: seen).reverse, t)
      | _ => none := by
  obtain ⟨before, h, after⟩ := h
  simp only [List.length_append] at enough
  rw [itemsFrom?, List.append_assoc, List.append_assoc, value?_append before, readable _ h fuel _ (by omega)]
  change (match skipSpace (_ ++ rest) with
    | ',' :: t => itemsFrom? fuel depth (j.ordered :: seen) t
    | ']' :: t => some (.array (j.ordered :: seen).reverse, t)
    | _ => none) = _
  rw [skipSpace_append after]

theorem itemsFrom?_of_separated {depth : Nat} {items : List Json} (readable : ∀ j ∈ items, Readable depth j)
    {s : List Char} (h : Separated WritesItem items s) {fuel : Nat} (enough : s.length < fuel) (seen : List Json)
    (rest : List Char) :
    itemsFrom? fuel depth seen (s ++ ']' :: rest) = some (.array (seen.reverse ++ items.map ordered), rest) := by
  -- The comma after an item pays for the fuel that the item takes.
  induction h generalizing fuel seen with
  | @last j s h =>
    match fuel, enough with
    | fuel + 1, enough =>
      rw [itemsFrom?_of_writesItem (readable j List.mem_cons_self) h (by omega), skipSpace_cons (by decide)]
      simp
  | @more j s items t h others ih =>
    match fuel, enough with
    | fuel + 1, enough =>
      simp only [List.length_append, List.length_cons] at enough
      rw [List.append_assoc, itemsFrom?_of_writesItem (readable j List.mem_cons_self) h (by omega), List.cons_append,
        skipSpace_cons (by decide)]
      simp only
      rw [ih (fun j member => readable j (List.mem_cons_of_mem _ member)) (by omega)]
      simp

theorem fieldsFrom?_of_writesField {depth : Nat} {key : String} {j : Json} (readable : Readable depth j)
    {s : List Char} (h : WritesField (key, j) s) {fuel : Nat} (enough : s.length ≤ fuel)
    (seen : List (String × Json)) (rest : List Char) :
    fieldsFrom? (fuel + 1) depth seen (s ++ rest) =
      match skipSpace rest with
      | ',' :: t => fieldsFrom? fuel depth (insertField key j.ordered seen) t
      | '\x7d' :: t => some (.object (insertField key j.ordered seen), t)
      | _ => none := by
  obtain @⟨u, v, _, _, _, before, after, ⟨inside, h, behind⟩⟩ := h
  simp only [List.length_append, List.length_cons] at enough
  simp only [List.append_assoc, List.cons_append]
  obtain ⟨t, written, body⟩ := stringBody?_writeString key (v ++ ':' :: (_ ++ (_ ++ (_ ++ rest))))
  rw [fieldsFrom?, skipSpace_append before, written, skipSpace_cons (by decide)]
  simp only [body]
  rw [skipSpace_append after, skipSpace_cons (by decide)]
  simp only
  rw [value?_append inside, readable _ h fuel _ (by omega)]
  rw [String.ofList_toList]
  change (match skipSpace (_ ++ rest) with
    | ',' :: t => fieldsFrom? fuel depth (insertField key j.ordered seen) t
    | '\x7d' :: t => some (.object (insertField key j.ordered seen), t)
    | _ => none) = _
  rw [skipSpace_append behind]

theorem fieldsFrom?_of_separated {depth : Nat} {fields : List (String × Json)}
    (readable : ∀ field ∈ fields, Readable depth field.2) {s : List Char} (h : Separated WritesField fields s)
    {fuel : Nat} (enough : s.length < fuel) (seen : List (String × Json)) (rest : List Char) :
    fieldsFrom? fuel depth seen (s ++ '\x7d' :: rest) = some (.object (readFields seen fields), rest) := by
  induction h generalizing fuel seen with
  | @last field s h =>
    match fuel, enough with
    | fuel + 1, enough =>
      rw [fieldsFrom?_of_writesField (readable field List.mem_cons_self) h (by omega), skipSpace_cons (by decide)]
      rfl
  | @more field s fields t h others ih =>
    match fuel, enough with
    | fuel + 1, enough =>
      simp only [List.length_append, List.length_cons] at enough
      rw [List.append_assoc, fieldsFrom?_of_writesField (readable field List.mem_cons_self) h (by omega),
        List.cons_append, skipSpace_cons (by decide)]
      simp only
      rw [ih (fun field member => readable field (List.mem_cons_of_mem _ member)) (by omega)]
      rfl

theorem Separated.exists_append {writes : α → List Char → Prop} {as : List α} {s : List Char}
    (h : Separated writes as s) : ∃ a t rest, writes a t ∧ s = t ++ rest := by
  cases h with
  | last h => exact ⟨_, _, [], h, (List.append_nil _).symm⟩
  | more h => exact ⟨_, _, _, h, rfl⟩

theorem skipSpace_items {items : List Json} {s : List Char} (h : Separated WritesItem items s)
    (rest t : List Char) : skipSpace (s ++ rest) ≠ ']' :: t := by
  obtain ⟨j, s, others, ⟨before, first, _⟩, rfl⟩ := h.exists_append
  obtain ⟨c, u, rfl, start⟩ := first.cons
  have inside : ']' ∉ starts := by decide
  simp only [List.append_assoc]
  rw [skipSpace_append before, List.cons_append, skipSpace_cons (isSpace_of_mem_starts start)]
  exact fun same => inside ((List.cons.inj same).1 ▸ start)

theorem skipSpace_fields {fields : List (String × Json)} {s : List Char} (h : Separated WritesField fields s)
    (rest t : List Char) : skipSpace (s ++ rest) ≠ '\x7d' :: t := by
  obtain ⟨field, s, others, ⟨before, _, _⟩, rfl⟩ := h.exists_append
  simp only [List.append_assoc, writeString, List.cons_append]
  rw [skipSpace_append before, skipSpace_cons (by decide)]
  exact fun same => absurd (List.cons.inj same).1 (by decide)

theorem readable_of_succ {depth : Nat} {j : Json} (h : ∀ s, Writes j s → ∀ fuel rest, s.length ≤ fuel + 1 →
    value? (fuel + 1) depth (s ++ rest) = some (j.ordered, rest)) : Readable depth j := by
  intro s w fuel rest enough
  obtain ⟨c, t, rfl, _⟩ := w.cons
  obtain ⟨fuel, rfl⟩ := Nat.exists_eq_add_of_le' (Nat.le_trans (Nat.le_add_left 1 t.length) enough)
  exact h _ w fuel rest enough

/-- Plain values are read from their texts, as long as they are not nested too deep. -/
theorem readable_of_plain {levels : Nat} {j : Json} (plain : Plain levels j) {depth : Nat} (deep : levels < depth) :
    Readable depth j := by
  -- Every level of the value takes one of the levels that are allowed, so the depth changes with the induction.
  induction plain generalizing depth with
  | null =>
    refine readable_of_succ fun s h fuel rest _ => ?_
    cases h
    rw [ordered_null]
    rfl
  | bool b =>
    refine readable_of_succ fun s h fuel rest _ => ?_
    cases h
    rw [ordered_bool]
    cases b <;> rfl
  | string t =>
    refine readable_of_succ fun s h fuel rest _ => ?_
    cases h
    obtain ⟨u, written, body⟩ := stringBody?_writeString t rest
    rw [value?, written, skipSpace_cons (by decide), ordered_string]
    simp only [body, Option.map_some, String.ofList_toList]
  | @array levels items _ ih =>
    refine readable_of_succ fun s h fuel rest enough => ?_
    have nested : ∀ j ∈ items, Readable (depth - 1) j := fun j member => ih j member (by omega)
    cases h with
    | noItems blank =>
      rw [value?, List.append_assoc, List.cons_append, skipSpace_cons (by decide), ordered_array]
      simp only [if_neg (show ¬depth ≤ 1 by omega), skipSpace_append blank]
      rfl
    | @array _ s h =>
      simp only [List.length_append, List.length_cons] at enough
      rw [List.append_assoc, List.cons_append, value?_array (by omega) (skipSpace_items h _), ordered_array]
      exact itemsFrom?_of_separated nested h (by omega) [] rest
  | @object levels fields distinct _ ih =>
    refine readable_of_succ fun s h fuel rest enough => ?_
    have nested : ∀ field ∈ fields, Readable (depth - 1) field.2 := fun field member => ih field member (by omega)
    cases h with
    | noFields blank =>
      rw [value?, List.append_assoc, List.cons_append, skipSpace_cons (by decide), ordered_object]
      simp only [if_neg (show ¬depth ≤ 1 by omega), skipSpace_append blank]
      rfl
    | @object _ written s order h =>
      simp only [List.length_append, List.length_cons] at enough
      rw [List.append_assoc, List.cons_append, value?_object (by omega) (skipSpace_fields h _), ordered_object,
        ← readFields_perm order distinct]
      exact fieldsFrom?_of_separated (fun field member => nested field (order.mem_iff.1 member)) h (by omega) [] rest

/-- The text of a plain value, with white space around it, is read as the value. -/
theorem parseWithin?_of_writes {levels : Nat} {j : Json} (plain : Plain levels j) (deep : levels < depthLimit)
    {s : List Char} (h : WritesItem j s) : parseWithin? depthLimit s = some j.ordered := by
  obtain @⟨u, v, s, _, before, h, after⟩ := h
  rw [parseWithin?, List.append_assoc, value?_append before,
    readable_of_plain plain deep s h _ v (by simp only [List.length_append]; omega)]
  simp only [Option.bind_eq_bind, Option.bind_some]
  rw [← List.append_nil v, skipSpace_append after]
  rfl

/-! The text without any white space. -/

theorem blank_nil : Blank [] := fun _ member => nomatch member

theorem Writes.item {j : Json} {s : List Char} (h : Writes j s) : WritesItem j s := by
  have item := WritesItem.mk blank_nil h blank_nil
  rwa [List.nil_append, List.append_nil] at item

theorem separated_writeItems {j : Json} {items : List Json} (h : ∀ k ∈ j :: items, Writes k k.write) :
    Separated WritesItem (j :: items) (writeItems (j :: items)) := by
  induction items generalizing j with
  | nil => exact .last (h j List.mem_cons_self).item
  | cons k items ih =>
    rw [writeItems]
    · exact .more (h j List.mem_cons_self).item (ih fun l member => h l (List.mem_cons_of_mem j member))
    · exact List.cons_ne_nil k items

theorem Writes.field {j : Json} {s : List Char} (h : Writes j s) (key : String) :
    WritesField (key, j) (writeString key ++ ':' :: s) := by
  have field : WritesField (key, j) _ := .mk blank_nil blank_nil h.item
  rwa [List.nil_append, List.append_nil] at field

theorem separated_writeFields {field : String × Json} {fields : List (String × Json)}
    (h : ∀ f ∈ field :: fields, Writes f.2 f.2.write) :
    Separated WritesField (field :: fields) (writeFields (field :: fields)) := by
  induction fields generalizing field with
  | nil => exact .last ((h field List.mem_cons_self).field field.1)
  | cons next fields ih =>
    rw [writeFields]
    · exact .more ((h field List.mem_cons_self).field field.1)
        (ih fun f member => h f (List.mem_cons_of_mem field member))
    · exact List.cons_ne_nil next fields

/-- What is written of a plain value is one of its texts. -/
theorem writes_write {levels : Nat} {j : Json} (plain : Plain levels j) : Writes j j.write := by
  induction plain with
  | null => exact .null
  | bool b => exact .bool b
  | string s => exact .string s
  | @array _ items _ ih =>
    rw [write]
    match items, ih with
    | [], _ => exact .noItems blank_nil
    | j :: items, ih => exact .array (separated_writeItems ih)
  | @object _ fields _ _ ih =>
    rw [write]
    match fields, ih with
    | [], _ => exact .noFields blank_nil
    | field :: fields, ih => exact .object (List.Perm.refl _) (separated_writeFields ih)

end WebCitation.Json
