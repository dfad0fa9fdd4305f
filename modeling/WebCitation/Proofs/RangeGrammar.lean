import WebCitation.Proofs.Digits
import WebCitation.Proofs.Pieces
import WebCitation.Proofs.Result
import WebCitation.Step.Range

/-!
The grammar of lists of ranges. Which texts write which range is said of the texts alone, as a relation; the reader
takes these texts and no others. A list of ranges can be written if it has a range and its positions are words.
-/
namespace WebCitation.Range

open Text

structure IsIndex (s : List Char) : Prop where
  nonempty : s ≠ []
  digits : ∀ c ∈ s, c.isDigit = true
  word : digitsValue s < UInt64.size

/-- A position that may be left out, and what it stands for. -/
inductive OptionalIndex (absent : α) (present : Nat → α) : List Char → α → Prop where
  | absent : OptionalIndex absent present [] absent
  | index {s : List Char} (index : IsIndex s) : OptionalIndex absent present s (present (digitsValue s))

/-- The texts of a range. White space may stand around it and around its colon. -/
inductive Denotes : List Char → Range → Prop where
  | single {before s after : List Char} (blank_before : AllBlank before) (index : IsIndex s)
      (blank_after : AllBlank after) : Denotes (before ++ (s ++ after)) ⟨digitsValue s, .single⟩
  | interval {before s left right t after : List Char} {n : Nat} {e : RangeEnd} (blank_before : AllBlank before)
      (starts : OptionalIndex 0 id s n) (blank_left : AllBlank left) (blank_right : AllBlank right)
      (ends : OptionalIndex .last .index t e) (blank_after : AllBlank after) :
      Denotes (before ++ (s ++ (left ++ ':' :: (right ++ (t ++ after))))) ⟨n, e⟩

theorem IsIndex.run {s : List Char} (h : IsIndex s) : ∀ c ∈ s, isDecimalDigit c = true :=
  fun c member => isDecimalDigit_of_isDigit (h.digits c member)

theorem OptionalIndex.run {absent value : α} {present : Nat → α} {s : List Char}
    (h : OptionalIndex absent present s value) : ∀ c ∈ s, isDecimalDigit c = true := by
  cases h with
  | absent => exact fun c member => nomatch member
  | index index => exact index.run

/-! Reading. -/

theorem digitsAhead_append {before digits after rest : List Char} (blank_before : AllBlank before)
    (run : ∀ c ∈ digits, isDecimalDigit c = true) (blank_after : AllBlank after)
    (stops : ∀ c, rest.head? = some c → isBlank c = false ∧ isDecimalDigit c = false) :
    digitsAhead (before ++ (digits ++ (after ++ rest))) = (digits, rest) := by
  have shown : trimStart rest = rest := by
    cases rest with
    | nil => rfl
    | cons c rest => exact trimStart_cons (stops c rfl).1 rest
  have ends : ∀ c, (after ++ rest).head? = some c → isDecimalDigit c = false := by
    intro c first
    cases after with
    | nil => exact (stops c first).2
    | cons d after =>
      cases first
      exact isDecimalDigit_of_isBlank (blank_after c List.mem_cons_self)
  unfold digitsAhead
  rw [trimStart_append blank_before]
  cases digits with
  | nil =>
    have cut : rest.span isDecimalDigit = ([], rest) := span_eq_iff.2 ⟨rfl, run, fun c first => (stops c first).2⟩
    rw [List.nil_append, trimStart_append blank_after, shown, cut]
    simp only [shown]
  | cons d digits =>
    have solid : isBlank d = false := by
      apply Bool.eq_false_iff.2
      intro blank
      have digit := run d List.mem_cons_self
      rw [isDecimalDigit_of_isBlank blank] at digit
      cases digit
    have cut : (d :: digits ++ (after ++ rest)).span isDecimalDigit = (d :: digits, after ++ rest) :=
      span_eq_iff.2 ⟨rfl, run, ends⟩
    rw [List.cons_append, trimStart_cons solid, ← List.cons_append, cut]
    simp only [trimStart_append blank_after, shown]

theorem exists_append_of_digitsAhead {s digits rest : List Char} (h : digitsAhead s = (digits, rest)) :
    ∃ before after, s = before ++ (digits ++ (after ++ rest)) ∧ AllBlank before ∧ AllBlank after := by
  unfold digitsAhead at h
  cases cut : (trimStart s).span isDecimalDigit with
  | mk front back =>
    rw [cut] at h
    cases h
    obtain ⟨whole, _, _⟩ := span_eq_iff.1 cut
    refine ⟨s.takeWhile isBlank, back.takeWhile isBlank, ?_, ?_, ?_⟩
    · have back_whole : back.takeWhile isBlank ++ trimStart back = back := List.takeWhile_append_dropWhile
      rw [back_whole, ← whole]
      exact List.takeWhile_append_dropWhile.symm
    · intro c member
      exact List.mem_takeWhile_imp member
    · intro c member
      exact List.mem_takeWhile_imp member

theorem index_eq_ok_iff {s : List Char} {n : Nat} : index s = .ok n ↔ IsIndex s ∧ digitsValue s = n := by
  unfold index
  constructor
  · intro h
    split at h
    · rename_i value read
      obtain ⟨nonempty, digits, rfl⟩ := readNat?_eq_some_iff.1 read
      split at h
      · rename_i word
        cases h
        exact ⟨⟨nonempty, digits, word⟩, rfl⟩
      · cases h
    · cases h
  · rintro ⟨⟨nonempty, digits, word⟩, rfl⟩
    have read := readNat?_eq_some_iff.2 ⟨nonempty, digits, rfl⟩
    simp only [read]
    exact if_pos word

theorem parts?_eq_single_iff {s digits : List Char} :
    parts? s = some (digits, none) ↔ digitsAhead s = (digits, []) := by
  unfold parts?
  constructor
  · intro h
    split at h
    · rename_i cut
      cases h
      exact cut
    · split at h <;> cases h
    · cases h
  · intro h
    simp only [h]

theorem parts?_eq_interval_iff {s first last : List Char} :
    parts? s = some (first, some last) ↔
      ∃ t, digitsAhead s = (first, ':' :: t) ∧ digitsAhead t = (last, []) := by
  unfold parts?
  constructor
  · intro h
    split at h
    · cases h
    · rename_i t cut
      split at h
      · rename_i cut_last
        cases h
        exact ⟨t, cut, cut_last⟩
      · cases h
    · cases h
  · rintro ⟨t, cut, cut_last⟩
    simp only [cut, cut_last]

theorem optionalIndex_eq_ok_iff {absent value : α} {present : Nat → α} {s : List Char} :
    optionalIndex absent present s = .ok value ↔ OptionalIndex absent present s value := by
  unfold optionalIndex
  constructor
  · intro h
    split at h
    · rename_i none
      cases h
      cases List.isEmpty_iff.1 none
      exact .absent
    · obtain ⟨n, read, rfl⟩ := map_eq_ok_iff.1 h
      obtain ⟨index, rfl⟩ := index_eq_ok_iff.1 read
      exact .index index
  · intro h
    cases h with
    | absent => rfl
    | index index =>
      rw [if_neg (mt List.isEmpty_iff.1 index.nonempty)]
      exact map_eq_ok_iff.2 ⟨_, index_eq_ok_iff.2 ⟨index, rfl⟩, rfl⟩

theorem denotes_of_parseItem {s : List Char} {r : Range} (h : parseItem s = .ok r) : Denotes s r := by
  unfold parseItem at h
  split at h
  · cases h
  · rename_i digits parts
    split at h
    · cases h
    · obtain ⟨n, read, rfl⟩ := map_eq_ok_iff.1 h
      obtain ⟨index, rfl⟩ := index_eq_ok_iff.1 read
      obtain ⟨before, after, rfl, blank_before, blank_after⟩ :=
        exists_append_of_digitsAhead (parts?_eq_single_iff.1 parts)
      rw [List.append_nil]
      exact .single blank_before index blank_after
  · rename_i first last parts
    simp only [bind, bind_eq_ok_iff, optionalIndex_eq_ok_iff] at h
    obtain ⟨n, starts, e, ends, made⟩ := h
    cases made
    obtain ⟨t, cut, cut_last⟩ := parts?_eq_interval_iff.1 parts
    obtain ⟨before, left, rfl, blank_before, blank_left⟩ := exists_append_of_digitsAhead cut
    obtain ⟨right, after, rfl, blank_right, blank_after⟩ := exists_append_of_digitsAhead cut_last
    rw [List.append_nil]
    exact .interval blank_before starts blank_left blank_right ends blank_after

theorem parseItem_of_denotes {s : List Char} {r : Range} (h : Denotes s r) : parseItem s = .ok r := by
  have at_end : ∀ c, ([] : List Char).head? = some c → isBlank c = false ∧ isDecimalDigit c = false := nofun
  unfold parseItem
  cases h with
  | @single before s after blank_before index blank_after =>
    have cut : digitsAhead (before ++ (s ++ after)) = (s, []) := by
      rw [← List.append_nil after]
      exact digitsAhead_append blank_before index.run blank_after at_end
    have absent : ¬ s.isEmpty = true := mt List.isEmpty_iff.1 index.nonempty
    simp only [parts?_eq_single_iff.2 cut, if_neg absent, index_eq_ok_iff.2 ⟨index, rfl⟩, Except.map]
  | @interval before s left right t after n e blank_before starts blank_left blank_right ends blank_after =>
    have colon : isBlank ':' = false ∧ isDecimalDigit ':' = false := by decide
    have cut : digitsAhead (before ++ (s ++ (left ++ ':' :: (right ++ (t ++ after))))) =
        (s, ':' :: (right ++ (t ++ after))) :=
      digitsAhead_append blank_before starts.run blank_left fun c first => Option.some.inj first ▸ colon
    have cut_last : digitsAhead (right ++ (t ++ after)) = (t, []) := by
      rw [← List.append_nil after]
      exact digitsAhead_append blank_right ends.run blank_after at_end
    simp only [parts?_eq_interval_iff.2 ⟨_, cut, cut_last⟩, optionalIndex_eq_ok_iff.2 starts,
      optionalIndex_eq_ok_iff.2 ends]
    rfl

theorem parseItem_eq_ok_iff {s : List Char} {r : Range} : parseItem s = .ok r ↔ Denotes s r :=
  ⟨denotes_of_parseItem, parseItem_of_denotes⟩

theorem parseList_eq_ok_iff {config : String} {ranges : List Range} :
    parseList config = .ok ranges ↔
      ¬ AllBlank config.toList ∧ List.Forall₂ Denotes (config.toList.splitOn ',') ranges := by
  have blank : (trim config.toList).isEmpty = true ↔ AllBlank config.toList :=
    List.isEmpty_iff.trans trim_eq_nil_iff
  have pieces : splitWhere (· == ',') config.toList = config.toList.splitOn ',' := splitWhere_eq_splitOnP _ _
  unfold parseList
  rw [pieces]
  constructor
  · intro h
    split at h
    · cases h
    · rename_i shown
      refine ⟨mt blank.2 shown, ?_⟩
      simpa only [mapM_eq_ok_iff, parseItem_eq_ok_iff] using h
  · rintro ⟨shown, denoted⟩
    rw [if_neg (mt blank.1 shown)]
    simpa only [mapM_eq_ok_iff, parseItem_eq_ok_iff] using denoted

/-! Writing. -/

/-- The positions are words of 64 bits. -/
structure InWords (r : Range) : Prop where
  first : r.first < UInt64.size
  last : ∀ n, r.last = .index n → n < UInt64.size

theorem Denotes.inWords {s : List Char} {r : Range} (h : Denotes s r) : r.InWords := by
  cases h with
  | single _ index _ => exact ⟨index.word, nofun⟩
  | interval _ starts _ _ ends _ =>
    constructor
    · cases starts with
      | absent => exact (by decide : 0 < UInt64.size)
      | index index => exact index.word
    · intro n same
      cases ends with
      | absent => cases same
      | index index =>
        cases same
        exact index.word

theorem Denotes.shown {s : List Char} {r : Range} (h : Denotes s r) : ¬ AllBlank s := by
  intro blank
  cases h with
  | @single _ s _ _ index _ =>
    obtain ⟨c, member⟩ := List.exists_mem_of_ne_nil s index.nonempty
    have other := isBlank_of_isDigit (index.digits c member)
    rw [blank c (by simp [member])] at other
    cases other
  | interval =>
    have colon := blank ':' (by simp)
    revert colon
    decide

def text (r : Range) : List Char :=
  Nat.toDigits 10 r.first ++
    match r.last with
    | .single => []
    | .last => [':']
    | .index n => ':' :: Nat.toDigits 10 n

theorem digitsValue_toDigits (n : Nat) : digitsValue (Nat.toDigits 10 n) = n := Nat.ofDigitChars_ten_toDigits

theorem isIndex_toDigits {n : Nat} (word : n < UInt64.size) : IsIndex (Nat.toDigits 10 n) where
  nonempty := Nat.toDigits_ne_nil
  digits _ member := Nat.isDigit_of_mem_toDigits (by decide) (by decide) member
  word := by rwa [digitsValue_toDigits]

theorem denotes_text {r : Range} (h : r.InWords) : Denotes r.text r := by
  have nothing : AllBlank [] := nofun
  have first := isIndex_toDigits h.first
  obtain ⟨n, e⟩ := r
  cases e with
  | single => simpa [text, digitsValue_toDigits] using Denotes.single nothing first nothing
  | last =>
    have denotes := Denotes.interval nothing (.index first) nothing nothing .absent nothing
    simpa [text, digitsValue_toDigits] using denotes
  | index m =>
    have last := isIndex_toDigits (h.last m rfl)
    have denotes := Denotes.interval nothing (.index first) nothing nothing (.index last) nothing
    simpa [text, digitsValue_toDigits] using denotes

theorem comma_not_mem_text (r : Range) : ',' ∉ r.text := by
  have digits : ∀ n, ',' ∉ Nat.toDigits 10 n := by
    intro n member
    have digit := Nat.isDigit_of_mem_toDigits (by decide) (by decide) member
    revert digit
    decide
  unfold text
  cases r.last <;> simp [digits]

theorem exists_parseList_iff {ranges : List Range} :
    (∃ config, parseList config = .ok ranges) ↔ ranges ≠ [] ∧ ∀ r ∈ ranges, r.InWords := by
  constructor
  · rintro ⟨config, h⟩
    obtain ⟨-, denoted⟩ := parseList_eq_ok_iff.1 h
    constructor
    · rintro rfl
      exact List.splitOnP_ne_nil _ _ (List.forall₂_nil_right_iff.1 denoted)
    · intro r member
      obtain ⟨s, _, denotes⟩ := exists_mem_of_forall₂ denoted member
      exact denotes.inWords
  · rintro ⟨some_range, words⟩
    have denoted : List.Forall₂ Denotes (ranges.map text) ranges := by
      rw [List.forall₂_map_left_iff, List.forall₂_same]
      exact fun r member => denotes_text (words r member)
    have pieces : ([','].intercalate (ranges.map text)).splitOn ',' = ranges.map text := by
      apply List.splitOn_intercalate
      · simp [comma_not_mem_text]
      · simpa using some_range
    refine ⟨String.ofList ([','].intercalate (ranges.map text)), parseList_eq_ok_iff.2 ?_⟩
    rw [String.toList_ofList, pieces]
    refine ⟨?_, denoted⟩
    intro blank
    obtain ⟨r, member⟩ := List.exists_mem_of_ne_nil ranges some_range
    apply (denotes_text (words r member)).shown
    intro c inside
    exact blank c (mem_join.2 (.inr ⟨r.text, List.mem_map_of_mem member, inside⟩))

/-- A config is read where it is not blank and each piece between its commas is a position, or a colon between two
positions that may be left out. It is read as the ranges that the pieces write, in their order. -/
theorem range_grammar_is_exact (config : String) :
    ((∃ ranges, parseList config = .ok ranges) ↔
      ¬ AllBlank config.toList ∧ ∀ piece ∈ config.toList.splitOn ',', ∃ r, Denotes piece r) ∧
      ∀ ranges, parseList config = .ok ranges ↔
        ¬ AllBlank config.toList ∧ List.Forall₂ Denotes (config.toList.splitOn ',') ranges := by
  constructor
  · simp only [parseList_eq_ok_iff, exists_and_left, exists_forall₂_iff]
  · intro ranges
    exact parseList_eq_ok_iff

example : parseList " 1 , 2 : 4,:03,5:" =
    .ok [⟨1, .single⟩, ⟨2, .index 4⟩, ⟨0, .index 3⟩, ⟨5, .last⟩] := by
  decide +kernel

end WebCitation.Range
