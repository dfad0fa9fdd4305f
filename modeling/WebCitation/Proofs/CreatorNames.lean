import WebCitation.Citation.Simple
import WebCitation.Proofs.KeyOrder

/-!
Citations made from the objects of a response. The creators of a role become two lists, of first and of last names, with
one entry each for every creator. An object may also have fields with the keys of these lists. Their keys come after
the role in order, so their values take the place of the lists, if they are values that are kept at all.
-/
namespace WebCitation.SimpleCitation

open Json (Ascending Reorder asWritten?)

/-- The citation with the values that one field adds. -/
def addField (c : SimpleCitation) (field : String × Json) : SimpleCitation :=
  (pairsOfField field.1 field.2).foldl (fun c (key, value) => c.insert key value) c

theorem ofMediawiki_object (fields : List (String × Json)) :
    ofMediawiki (.object fields) = fields.foldl addField Keyed.empty := by
  rw [ofMediawiki, ofPairs, List.foldl_flatMap]
  rfl

/-! What one field adds. -/

theorem value?_foldl_insert_of_not_mem {pairs : List (String × CitationValue)} {c : SimpleCitation} {k : String}
    (absent : ∀ value, (k, value) ∉ pairs) :
    (pairs.foldl (fun c (key, value) => c.insert key value) c).value? k = c.value? k := by
  induction pairs generalizing c with
  | nil => rfl
  | cons pair pairs ih =>
    obtain ⟨l, v⟩ := pair
    have other : l ≠ k := by
      rintro rfl
      exact absent v List.mem_cons_self
    rw [List.foldl_cons, ih fun value later => absent value (List.mem_cons_of_mem _ later), value?_insert, if_neg other]

section

variable (c : SimpleCitation) {key k : String} {j : Json}

theorem value?_addField_of_mem {value : CitationValue} (added : (k, value) ∈ pairsOfField key j) :
    (c.addField (key, j)).value? k = some value :=
  value?_foldl_insert (fun _ other => eq_of_mem_pairsOfField added other) (.inl added)

theorem value?_addField_of_apart (other : key ≠ k) (apart : key ∈ roles → k ≠ key ++ "First" ∧ k ≠ key ++ "Last") :
    (c.addField (key, j)).value? k = c.value? k := by
  refine value?_foldl_insert_of_not_mem fun value added => ?_
  rcases key_of_mem_pairsOfField added with same | ⟨role, first | last⟩
  · exact other same
  · exact (apart role).1 first
  · exact (apart role).2 last

theorem value?_addField_self (plain : key ∉ roles) :
    (c.addField (key, j)).value? key = (valueOfJson? j).or (c.value? key) := by
  have pairs := pairsOfField_of_not_role plain j
  cases found : valueOfJson? j with
  | some value =>
    rw [found] at pairs
    exact value?_addField_of_mem c (pairs ▸ List.mem_singleton.2 rfl)
  | none =>
    rw [found] at pairs
    rw [addField, pairs]
    rfl

end

/-! What all fields add. -/

/-- No field adds a value under a key but the field of that key. -/
def OwnOnly (fields : List (String × Json)) (k : String) : Prop :=
  k ∉ roles ∧ ∀ role ∈ roles, role ∈ fields.map Prod.fst → k ≠ role ++ "First" ∧ k ≠ role ++ "Last"

theorem value?_foldl_addField {fields : List (String × Json)} {k : String}
    (distinct : (fields.map Prod.fst).Nodup) (own : OwnOnly fields k) (c : SimpleCitation) :
    (fields.foldl addField c).value? k = ((fields.lookup k).bind valueOfJson?).or (c.value? k) := by
  induction fields generalizing c with
  | nil => rfl
  | cons field fields ih =>
    obtain ⟨key, j⟩ := field
    obtain ⟨fresh, distinct⟩ := List.nodup_cons.1 distinct
    obtain ⟨plain, apart⟩ := own
    have later : OwnOnly fields k :=
      ⟨plain, fun role listed member => apart role listed (List.mem_cons_of_mem key member)⟩
    rw [List.foldl_cons, ih distinct later, Json.lookup_cons]
    by_cases same : k = key
    · subst same
      rw [Json.lookup_of_not_mem fresh, if_pos rfl, value?_addField_self c plain]
      rfl
    · have elsewhere : (c.addField (key, j)).value? k = c.value? k :=
        value?_addField_of_apart c (Ne.symm same) fun role => apart key role List.mem_cons_self
      rw [elsewhere, if_neg same]

/-- The names that a role adds under a key stay, unless a later field of that key has a value that is kept. -/
theorem value?_derived {fields : List (String × Json)} (ascending : Ascending fields) {role k : String} {j : Json}
    {names : List String} (member : (role, j) ∈ fields) (added : (k, .multiple names) ∈ pairsOfField role j)
    (after : role < k) (plain : k ∉ roles)
    (alone : ∀ other ∈ roles, k = other ++ "First" ∨ k = other ++ "Last" → other = role) :
    (ofMediawiki (.object fields)).value? k = ((fields.lookup k).bind valueOfJson?).or (some (.multiple names)) := by
  obtain ⟨front, back, rfl⟩ := List.append_of_mem member
  have distinct := ascending.distinct
  rw [List.map_append, List.map_cons] at distinct
  obtain ⟨-, distinct, -⟩ := List.nodup_append.1 distinct
  obtain ⟨fresh, distinct⟩ := List.nodup_cons.1 distinct
  have own : OwnOnly back k := by
    refine ⟨plain, fun other listed inside => ?_⟩
    constructor
    · rintro rfl
      exact fresh (alone other listed (.inl rfl) ▸ inside)
    · rintro rfl
      exact fresh (alone other listed (.inr rfl) ▸ inside)
  -- What stands before the role has smaller keys, so the field of `k` can only come after it.
  have later : k ∉ front.map Prod.fst := by
    intro inside
    rw [Ascending, List.map_append, List.map_cons] at ascending
    have before : k < role := (List.pairwise_append.1 ascending).2.2 k inside role List.mem_cons_self
    exact String.lt_irrefl k (String.lt_trans before after)
  have elsewhere : k ≠ role := fun same => String.lt_irrefl role (same ▸ after)
  rw [ofMediawiki_object, List.foldl_append, List.foldl_cons, value?_foldl_addField distinct own,
    value?_addField_of_mem _ added, List.lookup_append, Json.lookup_of_not_mem later, Option.none_or, Json.lookup_cons,
    if_neg elsewhere]

/-! Creators. -/

/-- The name at a place of a creator is the text that stands there, and it is empty if none does. -/
inductive NameAt (i : Nat) : Json → String → Prop where
  | named {parts : List Json} {name : String} (h : parts[i]? = some (.string name)) : NameAt i (.array parts) name
  | unnamed {creator : Json} (h : ∀ parts name, creator = .array parts → parts[i]? ≠ some (.string name)) :
      NameAt i creator ""

theorem nameAt_creatorPart (i : Nat) (creator : Json) : NameAt i creator (creatorPart i creator) := by
  cases creator with
  | array parts =>
    rw [creatorPart]
    cases found : parts[i]? with
    | none => exact .unnamed fun _ _ same => by cases same; simp [found]
    | some part =>
      cases part with
      | string name => exact .named found
      | _ => exact .unnamed fun _ _ same => by cases same; simp [found]
  | _ => exact .unnamed nofun

theorem forall₂_nameAt (i : Nat) (creators : List Json) :
    List.Forall₂ (NameAt i) creators (creators.map (creatorPart i)) := by
  rw [List.forall₂_map_right_iff]
  exact List.forall₂_same.2 fun creator _ => nameAt_creatorPart i creator

/-! Values that are kept. -/

/-- Strings, numbers and arrays have a value in a citation. -/
def IsKept : Json → Prop
  | .string _ | .number _ | .array _ => True
  | _ => False

theorem isSome_valueOfJson?_iff (j : Json) : (valueOfJson? j).isSome ↔ IsKept j := by
  cases j <;> simp [valueOfJson?, IsKept]

theorem lookup_eq_some_iff_mem {fields : List (String × Json)} (distinct : (fields.map Prod.fst).Nodup) {key : String}
    {j : Json} : fields.lookup key = some j ↔ (key, j) ∈ fields := by
  rw [List.lookup_eq_some_iff]
  constructor
  · rintro ⟨front, back, rfl, -⟩
    simp
  · intro member
    obtain ⟨front, back, rfl⟩ := List.append_of_mem member
    refine ⟨front, back, rfl, fun field inside => bne_iff_ne.2 ?_⟩
    rw [List.map_append, List.nodup_append] at distinct
    exact (distinct.2.2 _ (List.mem_map_of_mem inside) _ List.mem_cons_self).symm

/-- The citation of an object has these names under a key, unless the object has a value of its own there that is kept,
which then takes their place. -/
def HasNames (fields : List (String × Json)) (k : String) (names : List String) : Prop :=
  ((∀ j, (k, j) ∈ fields → ¬IsKept j) → (ofMediawiki (.object fields)).value? k = some (.multiple names)) ∧
    ∀ j, (k, j) ∈ fields → IsKept j →
      (ofMediawiki (.object fields)).value? k = valueOfJson? j ∧ (valueOfJson? j).isSome

theorem hasNames_of_value? {fields : List (String × Json)} (distinct : (fields.map Prod.fst).Nodup) {k : String}
    {names : List String} (value : (ofMediawiki (.object fields)).value? k =
      ((fields.lookup k).bind valueOfJson?).or (some (.multiple names))) : HasNames fields k names := by
  rw [HasNames, value]
  constructor
  · intro unkept
    cases found : fields.lookup k with
    | none => rfl
    | some j =>
      have none : valueOfJson? j = none := by
        rw [← Option.not_isSome_iff_eq_none, isSome_valueOfJson?_iff]
        exact unkept j ((lookup_eq_some_iff_mem distinct).1 found)
      rw [Option.bind_some, none]
      rfl
  · intro j member kept
    obtain ⟨own, found⟩ := Option.isSome_iff_exists.1 ((isSome_valueOfJson?_iff j).2 kept)
    rw [(lookup_eq_some_iff_mem distinct).2 member, Option.bind_some, found]
    exact ⟨rfl, rfl⟩

theorem value?_of_ownOnly {fields : List (String × Json)} (distinct : (fields.map Prod.fst).Nodup) {k : String}
    (own : OwnOnly fields k) : (ofMediawiki (.object fields)).value? k = (fields.lookup k).bind valueOfJson? := by
  rw [ofMediawiki_object, value?_foldl_addField distinct own]
  exact Option.or_none

theorem isSome_value?_iff {fields : List (String × Json)} (distinct : (fields.map Prod.fst).Nodup) {k : String}
    (own : OwnOnly fields k) :
    ((ofMediawiki (.object fields)).value? k).isSome ↔ ∃ j, (k, j) ∈ fields ∧ IsKept j := by
  rw [value?_of_ownOnly distinct own]
  constructor
  · intro some_value
    obtain ⟨value, found⟩ := Option.isSome_iff_exists.1 some_value
    obtain ⟨j, at_key, made⟩ := Option.bind_eq_some_iff.1 found
    exact ⟨j, (lookup_eq_some_iff_mem distinct).1 at_key, (isSome_valueOfJson?_iff j).1 (made ▸ rfl)⟩
  · rintro ⟨j, member, kept⟩
    rw [(lookup_eq_some_iff_mem distinct).2 member, Option.bind_some]
    exact (isSome_valueOfJson?_iff j).2 kept

theorem keys_of_role : ∀ role ∈ roles, ∀ k ∈ [role ++ "First", role ++ "Last"],
    role < k ∧ k ∉ roles ∧ ∀ other ∈ roles, k = other ++ "First" ∨ k = other ++ "Last" → other = role := by
  decide

theorem hasNames_of_role {fields : List (String × Json)} (ascending : Ascending fields) {role : String} {j : Json}
    (listed : role ∈ roles) (member : (role, j) ∈ fields) :
    HasNames fields (role ++ "First") ((j.items?.getD []).map (creatorPart 0)) ∧
      HasNames fields (role ++ "Last") ((j.items?.getD []).map (creatorPart 1)) := by
  have pairs := pairsOfField_of_role listed j
  have first := keys_of_role role listed (role ++ "First") (by simp)
  have last := keys_of_role role listed (role ++ "Last") (by simp)
  constructor
  · refine hasNames_of_value? ascending.distinct (value?_derived ascending member ?_ first.1 first.2.1 first.2.2)
    rw [pairs]
    exact List.mem_cons_self
  · refine hasNames_of_value? ascending.distinct (value?_derived ascending member ?_ last.1 last.2.1 last.2.2)
    rw [pairs]
    exact List.mem_cons_of_mem _ List.mem_cons_self

/-- Of an object with its keys in order, as every object is that a text is read as, each role gives two lists with an
entry for every creator in its place: the text at the first place of the creator and the one at the second, or else
nothing. A string, a number or an array under the key of such a list takes its place. Any other key that is no role has
a value just if the object has a string, a number or an array there. And texts that differ in the order of keys only
give the same citation. -/
theorem creators_stay_in_step :
    (∀ fields, Ascending fields →
      (∀ role ∈ ["author", "editor", "contributor"], ∀ j, (role, j) ∈ fields → ∃ firsts lasts : List String,
        firsts.length = (j.items?.getD []).length ∧ lasts.length = (j.items?.getD []).length ∧
        List.Forall₂ (NameAt 0) (j.items?.getD []) firsts ∧ List.Forall₂ (NameAt 1) (j.items?.getD []) lasts ∧
        HasNames fields (role ++ "First") firsts ∧ HasNames fields (role ++ "Last") lasts) ∧
      ∀ key ∉ ["author", "editor", "contributor"],
        (∀ role ∈ ["author", "editor", "contributor"], role ∈ fields.map Prod.fst →
          key ≠ role ++ "First" ∧ key ≠ role ++ "Last") →
        (((ofMediawiki (.object fields)).value? key).isSome ↔ ∃ j, (key, j) ∈ fields ∧ IsKept j)) ∧
    (∀ text fields, Json.parse? text = some (.object fields) → Ascending fields) ∧
    ∀ (s t : String) (j k : Json), asWritten? s = some j → asWritten? t = some k → Relation.ReflTransGen Reorder j k →
      ∃ o p, Json.parse? s = some o ∧ Json.parse? t = some p ∧
        ∀ key, (ofMediawiki o).value? key = (ofMediawiki p).value? key := by
  refine ⟨?_, fun _ _ => Json.ascending_of_parse?, ?_⟩
  · intro fields ascending
    constructor
    · intro role listed j member
      obtain ⟨first, last⟩ := hasNames_of_role ascending listed member
      exact ⟨_, _, List.length_map _, List.length_map _, forall₂_nameAt 0 _, forall₂_nameAt 1 _, first, last⟩
    · intro key plain apart
      exact isSome_value?_iff ascending.distinct ⟨plain, apart⟩
  · intro s t j k hs ht orders
    obtain ⟨o, read_s, read_t⟩ := Json.parse?_of_reorder hs ht orders
    exact ⟨o, o, read_s, read_t, fun _ => rfl⟩

namespace OwnLastNames

def authors : List Json := [.array [.string "A", .string "B"], .array [.string "C"]]

def fields : List (String × Json) :=
  [("author", .array authors), ("authorFirst", .null), ("authorLast", .string "D"), ("title", .string "T")]

def text : String :=
  "\x7b\"author\":[[\"A\",\"B\"],[\"C\"]],\"authorFirst\":null,\"authorLast\":\"D\",\"title\":\"T\"\x7d"

def turned : String :=
  "\x7b\"title\":\"T\",\"authorLast\":\"D\",\"authorFirst\":null,\"author\":[[\"A\",\"B\"],[\"C\"]]\x7d"

theorem ascending_fields : Ascending fields := by
  unfold Ascending
  decide

theorem ordered_fields : (Json.object fields).ordered = .object fields := by
  rw [Json.ordered_object, Json.readFields_of_ascending ascending_fields]
  intro field member
  simp only [fields, List.mem_cons, List.not_mem_nil, or_false] at member
  rcases member with rfl | rfl | rfl | rfl <;> simp [authors, Json.ordered_array]

theorem names_beside_own_last_names :
    Json.parse? text = some (.object fields) ∧ Ascending fields ∧ asWritten? text = some (.object fields) ∧
      asWritten? turned = some (.object fields.reverse) ∧
      (∃ firsts : List String, firsts.length = 2 ∧
        (ofMediawiki (.object fields)).value? "authorFirst" = some (.multiple firsts)) ∧
      (ofMediawiki (.object fields)).value? "authorLast" = some (.single "D") ∧
      ((ofMediawiki (.object fields)).value? "title").isSome = true ∧
      ∃ o p, Json.parse? text = some o ∧ Json.parse? turned = some p ∧
        ∀ key, (ofMediawiki o).value? key = (ofMediawiki p).value? key := by
  obtain ⟨objects, inOrder, texts⟩ := creators_stay_in_step
  have written : asWritten? text = some (.object fields) := by cbv
  have read : Json.parse? text = some (.object fields) := by
    rw [Json.parse?_eq_ordered, written, Option.map_some, ordered_fields]
  have ascending : Ascending fields := inOrder text fields read
  have reversed : asWritten? turned = some (.object fields.reverse) := by cbv
  obtain ⟨creators, further⟩ := objects fields ascending
  have member : ("author", .array authors) ∈ fields := by simp [fields]
  obtain ⟨firsts, lasts, two, -, -, -, derived, own⟩ := creators "author" (by decide) (.array authors) member
  have dropped : ∀ j, ("authorFirst", j) ∈ fields → ¬IsKept j := by
    intro j member kept
    have nothing : j = .null := by simpa [fields] using member
    rw [nothing] at kept
    exact kept
  have titled := (further "title" (by decide) (by decide)).2 ⟨.string "T", by simp [fields], trivial⟩
  refine ⟨read, ascending, written, reversed, ⟨firsts, two, derived.1 dropped⟩, ?_, titled, ?_⟩
  · exact (own.2 (.string "D") (by simp [fields]) trivial).1
  · exact texts text turned _ _ written reversed (.single (.fields (List.reverse_perm fields).symm ascending.distinct))

end OwnLastNames
end WebCitation.SimpleCitation
