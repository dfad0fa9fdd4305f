import WebCitation.Json.Record
import WebCitation.Keyed

/-! Citations as a citation service gives them, reduced to texts and lists of texts under keys. -/
namespace WebCitation

inductive CitationValue where
  | single (value : String)
  | multiple (values : List String)
deriving DecidableEq, Repr

def CitationValue.toList : CitationValue → List String
  | single value => [value]
  | multiple values => values

/-- Values in the order in which their keys came. -/
abbrev SimpleCitation := Keyed (Prod.fst : String × CitationValue → String)

namespace SimpleCitation

def keys : List String :=
  ["itemType", "title", "url", "abstractNote", "date", "accessDate", "language", "shortTitle",
    "publicationTitle", "websiteTitle", "blogTitle", "bookTitle", "encyclopediaTitle", "publisher",
    "place", "series", "edition", "volume", "issue", "pages", "section", "ISBN", "ISSN", "DOI", "PMID",
    "PMCID", "libraryCatalog", "rights", "extra", "tags", "authorFirst", "authorLast", "editorFirst",
    "editorLast", "contributorFirst", "contributorLast"]

def roles : List String := ["author", "editor", "contributor"]

/-- The citation with a value for a key; a key that is there already keeps its place. -/
def insert (c : SimpleCitation) (key : String) (value : CitationValue) : SimpleCitation :=
  c.put (key, value)

def value? (c : SimpleCitation) (key : String) : Option CitationValue := (c.get? key).map Prod.snd

def values (c : SimpleCitation) (key : String) : List String :=
  ((c.value? key).map CitationValue.toList).getD []

theorem value?_insert (c : SimpleCitation) (key : String) (value : CitationValue) (k : String) :
    (c.insert key value).value? k = if key = k then some value else c.value? k := by
  rw [value?, insert, Keyed.get?_put]
  split <;> rfl

def ofPairs (pairs : List (String × CitationValue)) : SimpleCitation :=
  pairs.foldl (fun c (key, value) => c.insert key value) Keyed.empty

theorem value?_foldl_insert {pairs : List (String × CitationValue)} {c : SimpleCitation} {key : String}
    {value : CitationValue} (only : ∀ other, (key, other) ∈ pairs → other = value)
    (h : (key, value) ∈ pairs ∨ c.value? key = some value) :
    (pairs.foldl (fun c (key, value) => c.insert key value) c).value? key = some value := by
  induction pairs generalizing c with
  | nil => exact h.resolve_left List.not_mem_nil
  | cons pair pairs ih =>
    obtain ⟨k, v⟩ := pair
    refine ih (fun other later => only other (List.mem_cons_of_mem _ later)) ?_
    rw [value?_insert]
    by_cases here : k = key
    · subst here
      have same := only v List.mem_cons_self
      exact .inr (by rw [if_pos rfl, same])
    · rw [if_neg here]
      refine h.imp_left fun member => (List.mem_cons.1 member).resolve_left fun same => ?_
      exact here (congrArg Prod.fst same).symm

theorem value?_ofPairs {pairs : List (String × CitationValue)} {key : String} {value : CitationValue}
    (member : (key, value) ∈ pairs) (only : ∀ other, (key, other) ∈ pairs → other = value) :
    (ofPairs pairs).value? key = some value := value?_foldl_insert only (.inl member)

def creatorPart (i : Nat) : Json → String
  | .array parts => (parts[i]?.bind Json.string?).getD ""
  | _ => ""

def splitCreators (j : Json) : List String × List String :=
  let creators := j.items?.getD []
  (creators.map (creatorPart 0), creators.map (creatorPart 1))

/-- The text of an item in a list: the item itself or the tag that it holds. -/
def listText? : Json → Option String
  | .string s => some s
  | j => (j.field? "tag").bind Json.string?

/-- The value that a key other than a role has, if it has one. -/
def valueOfJson? : Json → Option CitationValue
  | .string s => some (.single s)
  | .number n => some (.single n.text)
  | .array items => some (.multiple (items.filterMap listText?))
  | _ => none

def pairsOfField (key : String) (j : Json) : List (String × CitationValue) :=
  if roles.contains key then
    let (firsts, lasts) := splitCreators j
    [(key ++ "First", .multiple firsts), (key ++ "Last", .multiple lasts)]
  else ((valueOfJson? j).map fun value => (key, value)).toList

theorem pairsOfField_of_role {key : String} (role : key ∈ roles) (j : Json) :
    pairsOfField key j =
      [(key ++ "First", .multiple (splitCreators j).1), (key ++ "Last", .multiple (splitCreators j).2)] :=
  if_pos (List.contains_iff_mem.2 role)

theorem pairsOfField_of_not_role {key : String} (other : key ∉ roles) (j : Json) :
    pairsOfField key j = ((valueOfJson? j).map fun value => (key, value)).toList :=
  if_neg fun role => other (List.contains_iff_mem.1 role)

/-- A field adds values under its own key, or else it has a role and adds the names of creators. -/
theorem key_of_mem_pairsOfField {key k : String} {j : Json} {value : CitationValue}
    (h : (k, value) ∈ pairsOfField key j) :
    key = k ∨ key ∈ roles ∧ (k = key ++ "First" ∨ k = key ++ "Last") := by
  by_cases role : key ∈ roles
  · simp only [pairsOfField_of_role role, List.mem_cons, List.not_mem_nil, or_false, Prod.mk.injEq] at h
    exact .inr ⟨role, h.imp And.left And.left⟩
  · simp only [pairsOfField_of_not_role role, Option.mem_toList, Option.map_eq_some_iff, Prod.mk.injEq] at h
    obtain ⟨_, _, same, _⟩ := h
    exact .inl same

theorem eq_of_mem_pairsOfField {key k : String} {j : Json} {v w : CitationValue}
    (hv : (k, v) ∈ pairsOfField key j) (hw : (k, w) ∈ pairsOfField key j) : w = v := by
  by_cases role : key ∈ roles
  · have apart : key ++ "First" ≠ key ++ "Last" := by simp
    simp only [pairsOfField_of_role role, List.mem_cons, List.not_mem_nil, or_false, Prod.mk.injEq] at hv hw
    rcases hv with ⟨rfl, rfl⟩ | ⟨rfl, rfl⟩ <;> rcases hw with ⟨same, rfl⟩ | ⟨same, rfl⟩
    · rfl
    · exact absurd same apart
    · exact absurd same.symm apart
    · rfl
  · simp only [pairsOfField_of_not_role role, Option.mem_toList, Option.map_eq_some_iff, Prod.mk.injEq] at hv hw
    obtain ⟨_, hv, _, rfl⟩ := hv
    obtain ⟨_, hw, _, rfl⟩ := hw
    exact Option.some.inj (hw.symm.trans hv)

def ofMediawiki (j : Json) : SimpleCitation :=
  match j with
  | .object fields => ofPairs (fields.flatMap fun (key, j) => pairsOfField key j)
  | _ => Keyed.empty

/-- A key has the values that one field adds, where neither a field of that key nor another role adds any. -/
theorem values_ofMediawiki {fields : List (String × Json)} (distinct : (fields.map Prod.fst).Nodup)
    {key k : String} {j : Json} {value : CitationValue} (member : (key, j) ∈ fields)
    (added : (k, value) ∈ pairsOfField key j) (own : k ∈ fields.map Prod.fst → k = key)
    (role : ∀ role ∈ roles, k = role ++ "First" ∨ k = role ++ "Last" → role = key) :
    (ofMediawiki (.object fields)).values k = value.toList := by
  have only : ∀ other, (k, other) ∈ fields.flatMap (fun (key, j) => pairsOfField key j) → other = value := by
    intro other h
    obtain ⟨⟨key', j'⟩, member', added'⟩ := List.mem_flatMap.1 h
    have here : key' = key := by
      rcases key_of_mem_pairsOfField added' with same | ⟨listed, named⟩
      · subst same
        exact own (List.mem_map_of_mem member')
      · exact role key' listed named
    subst here
    have same : some (key', j') = some (key', j) :=
      (Keyed.find?_key_of_mem distinct member').symm.trans (Keyed.find?_key_of_mem distinct member)
    cases same
    exact eq_of_mem_pairsOfField added added'
  rw [values, ofMediawiki, value?_ofPairs (List.mem_flatMap.2 ⟨(key, j), member, added⟩) only]
  rfl

def decodeValue (j : Json) : Option CitationValue :=
  match j with
  | .string s => some (.single s)
  | j => (j.items?.bind (·.mapM Json.string?)).map .multiple

def decode (j : Json) : Option SimpleCitation :=
  match j with
  | .object fields =>
    (fields.mapM fun (field : String × Json) => (decodeValue field.2).map (field.1, ·)).map ofPairs
  | _ => none

end SimpleCitation
end WebCitation
