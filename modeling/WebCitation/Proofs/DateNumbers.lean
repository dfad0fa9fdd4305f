import WebCitation.Proofs.ParsedDates

/-!
The numbers of a date in free text: which of them a date is made of, and when the language matters to numbers alone.
-/
namespace WebCitation

/-- Digits of all scripts count. -/
def Text.WithoutDigits (s : List Char) : Prop := ∀ c ∈ s, isDecimalDigit c = false

instance (s : List Char) : Decidable (Text.WithoutDigits s) :=
  decidable_of_iff (s.all (!Text.isDecimalDigit ·) = true) (by simp [Text.WithoutDigits])

open Text

theorem Locale.withoutDigits_months (locale : Locale) : ∀ name ∈ locale.months, WithoutDigits name.toList := by
  cases locale <;> decide +kernel

theorem Locale.withoutDigits_fillers (locale : Locale) : ∀ name ∈ locale.fillers, WithoutDigits name.toList := by
  cases locale <;> decide +kernel

theorem Locale.withoutDigits_of_month? {locale : Locale} {word : List Char} {m : Nat}
    (h : locale.month? word = some m) : WithoutDigits word := by
  -- a month is found in the table by its whole name or by the beginning of one
  have of_position {p : List Char → Bool} (inside : ∀ name, p name = true → ∀ c ∈ word, c ∈ name)
      (found : (locale.months.findIdx? fun name => p name.toList).map (· + 1) = some m) : WithoutDigits word := by
    intro c member
    obtain ⟨i, index, _⟩ := Option.map_eq_some_iff.1 found
    obtain ⟨bound, holds, _⟩ := List.findIdx?_eq_some_iff_getElem.1 index
    exact locale.withoutDigits_months _ (List.getElem_mem bound) c (inside _ holds c member)
  unfold month? at h
  simp only at h
  split at h
  · rename_i found
    cases h
    refine of_position (p := (· == word)) (fun name same c member => ?_) found
    rwa [beq_iff_eq.1 same]
  · split at h
    · exact of_position (fun name front c member => (List.isPrefixOf_iff_prefix.1 front).subset member) h
    · cases h

theorem Locale.withoutDigits_of_isFiller {locale : Locale} {word : List Char} (h : locale.isFiller word = true) :
    WithoutDigits word := by
  obtain ⟨name, listed, same⟩ := List.any_eq_true.1 h
  rw [← beq_iff_eq.1 same]
  exact locale.withoutDigits_fillers name listed

inductive DatePart where
  | year
  | month
  | day
deriving DecidableEq

namespace PartialDate

def parts : PartialDate → List (DatePart × Nat)
  | year y => [(.year, y)]
  | month y m => [(.year, y), (.month, m)]
  | day y m d => [(.year, y), (.month, m), (.day, d)]

theorem countP_year_parts (d : PartialDate) : d.parts.countP (·.1 = .year) = 1 := by
  cases d <;> rfl

theorem parts_of_ofParts? {y : Nat} {m d : Option Nat} {date : PartialDate} (h : ofParts? y m d = some date)
    (order : m = none → d = none) :
    date.parts = (.year, y) :: (m.toList.map (DatePart.month, ·) ++ d.toList.map (DatePart.day, ·)) := by
  unfold ofParts? at h
  split at h
  · split at h <;> cases h
    rfl
  · split at h <;> cases h
    rfl
  · cases h
    rw [order rfl]
    rfl

end PartialDate

namespace DateReader

/-- The number that a word writes, perhaps as an ordinal. -/
def numeral? (word : List Char) : Option Numeral :=
  let (digits, suffix) := word.span Char.isDigit
  if !digits.isEmpty && (isOrdinalSuffix suffix && digits.length ≤ 4) then some ⟨digitsValue digits, digits.length⟩
  else none

def numeralsOf (s : List Char) : List Numeral := (wordsOf s).filterMap numeral?

theorem token?_of_digit (locale : Locale) {word : List Char} {c : Char} (first : word.head? = some c)
    (digit : c.isDigit = true) : token? locale word = (numeral? word).map .numeral := by
  obtain ⟨digits, suffix, cut⟩ : ∃ digits suffix, word.span Char.isDigit = (digits, suffix) := ⟨_, _, rfl⟩
  have nonempty : digits ≠ [] := by
    rintro rfl
    obtain ⟨rfl, _, stops⟩ := span_eq_iff.1 cut
    have := stops c first
    simp [digit] at this
  rw [token?, numeral?, cut]
  have present : (!digits.isEmpty) = true := by simp [nonempty]
  simp only [present, if_true, Bool.true_and]
  split <;> rfl

theorem span_of_no_digit {word : List Char} (other : ∀ c, word.head? = some c → c.isDigit = false) :
    word.span Char.isDigit = ([], word) :=
  span_eq_iff.2 ⟨rfl, nofun, other⟩

theorem numeral?_of_no_digit {word : List Char} (other : ∀ c, word.head? = some c → c.isDigit = false) :
    numeral? word = none := by
  rw [numeral?, span_of_no_digit other]
  rfl

theorem of_token? {locale : Locale} {word : List Char} {t : Token} (h : token? locale word = some t) :
    t.numeral? = numeral? word ∧ t.month? = locale.month? word ∧
      (numeral? word = none → WithoutDigits word) := by
  by_cases digit : ∃ c, word.head? = some c ∧ c.isDigit = true
  · obtain ⟨c, first, digit⟩ := digit
    rw [token?_of_digit locale first digit] at h
    obtain ⟨n, number, rfl⟩ := Option.map_eq_some_iff.1 h
    refine ⟨number.symm, Eq.symm ?_, fun absent => by simp [number] at absent⟩
    change locale.month? word = none
    rw [Option.eq_none_iff_forall_ne_some]
    intro m named
    have := Locale.withoutDigits_of_month? named c (List.mem_of_head? first)
    simp [isDecimalDigit_of_isDigit digit] at this
  · have other : ∀ c, word.head? = some c → c.isDigit = false := by
      intro c first
      exact Bool.eq_false_iff.2 fun d => digit ⟨c, first, d⟩
    rw [numeral?_of_no_digit other]
    rw [token?, span_of_no_digit other] at h
    simp only [List.isEmpty_nil, Bool.not_true, Bool.false_eq_true, if_false] at h
    split at h
    · rename_i m named
      cases h
      exact ⟨rfl, named.symm, fun _ => Locale.withoutDigits_of_month? named⟩
    · rename_i unnamed
      split at h
      · rename_i filler
        cases h
        exact ⟨rfl, unnamed.symm, fun _ => Locale.withoutDigits_of_isFiller filler⟩
      · cases h

def namedPart (named : Option Nat) : List (DatePart × Nat) := named.toList.map (DatePart.month, ·)

/-- Each part of the date has a numeral of its own, apart from a month that a word names, and no numeral is left over.
The year is the part that takes four digits. -/
structure Spends (numerals : List Numeral) (named : Option Nat) (d : PartialDate) (uses : List (DatePart × Numeral)) :
    Prop where
  all : (uses.map Prod.snd).Perm numerals
  once : (uses.map (Prod.map id Numeral.value) ++ namedPart named).Perm d.parts
  years : ∀ u ∈ uses, u.1 = .year ↔ u.2.isYear = true

/-- The first year, and all numbers that are no years. -/
def oneYear (numerals : List Numeral) : List Numeral :=
  (numerals.find? (·.isYear)).toList ++ numerals.filter (!·.isYear)

theorem perm_oneYear {numerals : List Numeral} (h : numerals.countP (·.isYear) = 1) :
    (oneYear numerals).Perm numerals := by
  rw [List.countP_eq_length_filter] at h
  obtain ⟨year, only⟩ := List.length_eq_one_iff.1 h
  have first : numerals.find? (·.isYear) = some year := by
    rw [← List.head?_filter, only]
    rfl
  have both := List.filter_append_perm (·.isYear) numerals
  rw [only] at both
  rw [oneYear, first]
  exact both

theorem Spends.countP_isYear {numerals : List Numeral} {named : Option Nat} {d : PartialDate}
    {uses : List (DatePart × Numeral)} (h : Spends numerals named d uses) : numerals.countP (·.isYear) = 1 := by
  have parts := h.once.countP_eq (·.1 = .year)
  have months : (namedPart named).countP (·.1 = .year) = 0 := by
    cases named <;> rfl
  rw [d.countP_year_parts, List.countP_append, months, List.countP_map] at parts
  rw [← h.all.countP_eq, List.countP_map, ← parts]
  refine List.countP_congr fun u member => ?_
  simpa using (h.years u member).symm

theorem Numeral.isYear_of_isShort {n : Numeral} (h : n.isShort = true) : n.isYear = false := by
  have := of_decide_eq_true h
  simp [isYear]
  omega

theorem Spends.perm {numerals numerals' : List Numeral} {named : Option Nat} {d : PartialDate}
    {uses : List (DatePart × Numeral)} (h : Spends numerals named d uses) (same : numerals.Perm numerals') :
    Spends numerals' named d uses :=
  ⟨h.all.trans same, h.once, h.years⟩

def placed (month day : Option Numeral) : List (DatePart × Numeral) :=
  month.toList.map (DatePart.month, ·) ++ day.toList.map (DatePart.day, ·)

theorem map_snd_placed (month day : Option Numeral) : (placed month day).map Prod.snd = month.toList ++ day.toList := by
  simp [placed, Function.comp_def]

theorem map_value_placed (month day : Option Numeral) :
    (placed month day).map (Prod.map id Numeral.value) =
      (month.map (·.value)).toList.map (DatePart.month, ·) ++ (day.map (·.value)).toList.map (DatePart.day, ·) := by
  simp only [placed, List.map_append, List.map_map, Option.toList_map]
  rfl

/-- A year and short numerals have their places in the date, and the month is a numeral or a word. -/
theorem exists_spends {year : Numeral} {month day : Option Numeral} {named m : Option Nat} {d : PartialDate}
    (h : PartialDate.ofParts? year.value m (day.map (·.value)) = some d)
    (either : m.toList = named.toList ++ (month.map (·.value)).toList) (order : m = none → day = none)
    (last : year.isYear = true) (short : ∀ n ∈ month.toList ++ day.toList, n.isShort = true) :
    ∃ uses, Spends (year :: (month.toList ++ day.toList)) named d uses := by
  refine ⟨(.year, year) :: placed month day, ?_, ?_, ?_⟩
  · rw [List.map_cons, map_snd_placed]
  · have parts := PartialDate.parts_of_ofParts? h fun absent => by rw [order absent, Option.map_none]
    rw [parts, either, List.map_cons, map_value_placed, List.map_append, List.append_assoc]
    exact List.perm_append_comm.cons _
  · intro u member
    obtain rfl | member := List.mem_cons.1 member
    · simp [last]
    · have inside : u.2 ∈ month.toList ++ day.toList := map_snd_placed month day ▸ List.mem_map_of_mem member
      have other : u.1 ≠ .year := by
        obtain member | member := List.mem_append.1 member
        all_goals
          obtain ⟨n, _, rfl⟩ := List.mem_map.1 member
          exact nofun
      simp [other, Numeral.isYear_of_isShort (short u.2 inside)]

theorem spends_of_ofNumerals {locale : Locale} {numerals : List Numeral} {d : PartialDate}
    (h : ofNumerals locale numerals = some d) : ∃ uses, Spends numerals none d uses := by
  obtain ⟨year, month, day, all, last, short, order, h⟩ := exists_parts_of_ofNumerals h
  have first : month.map (·.value) = none → day = none := fun absent => order (Option.map_eq_none_iff.1 absent)
  have numbers : (month.map (·.value)).toList = (none : Option Nat).toList ++ (month.map (·.value)).toList := rfl
  obtain ⟨uses, spent⟩ := exists_spends h numbers first last short
  exact ⟨uses, spent.perm all⟩

/-- With a word for the month, only the first year has a place in the date. -/
theorem spends_of_ofNamedMonth {month : Nat} {numerals : List Numeral} {d : PartialDate}
    (h : ofNamedMonth month numerals = some d) : ∃ uses, Spends (oneYear numerals) (some month) d uses := by
  obtain ⟨year, day, found, others, short, h⟩ := exists_parts_of_ofNamedMonth h
  have kept : oneYear numerals = year :: ((none : Option Numeral).toList ++ day.toList) := by
    rw [oneYear, found, others]
    rfl
  rw [kept]
  exact exists_spends h rfl nofun (List.find?_some found) short

/-- What a date in free text is made of: numbers, and words that have no digits. -/
structure MadeOf (locale : Locale) (s : List Char) (named : Option Nat) (d : PartialDate) : Prop where
  months : (wordsOf s).filterMap locale.month? = named.toList
  words : ∀ word ∈ wordsOf s, numeral? word = none → WithoutDigits word
  kept : ∃ uses, Spends (oneYear (numeralsOf s)) named d uses
  alone : named = none → (numeralsOf s).countP (·.isYear) = 1

theorem exists_madeOf {locale : Locale} {s : List Char} (free : IsFreeForm (trim s)) {d : PartialDate}
    (h : read? locale s = some d) : ∃ named, MadeOf locale (trim s) named d := by
  rw [read?_of_isFreeForm free] at h
  obtain ⟨tokens, cut, h⟩ := Option.bind_eq_some_iff.1 h
  have numerals : tokens.filterMap Token.numeral? = numeralsOf (trim s) :=
    filterMap_of_mapM (fun _ _ known => (of_token? known).1) cut
  have months : tokens.filterMap Token.month? = (wordsOf (trim s)).filterMap locale.month? :=
    filterMap_of_mapM (fun _ _ known => (of_token? known).2.1) cut
  have words : ∀ word ∈ wordsOf (trim s), numeral? word = none → WithoutDigits word := by
    intro word member
    obtain ⟨t, _, known⟩ := exists_mem_of_forall₂ (mapM_eq_some_iff.1 cut) member
    exact (of_token? known).2.2
  simp only [ofTokens, numerals, months] at h
  split at h
  · rename_i unnamed
    obtain ⟨uses, spent⟩ := spends_of_ofNumerals h
    have one := spent.countP_isYear
    have kept := perm_oneYear one
    exact ⟨none, unnamed, words, ⟨uses, spent.perm kept.symm⟩, fun _ => one⟩
  · rename_i month named
    exact ⟨some month, named, words, spends_of_ofNamedMonth h, nofun⟩
  · cases h

theorem exists_madeOf_of_parse? {locale : Locale} {text : String} (free : IsFreeForm (trim text.toList)) {date : String}
    (h : parse? locale text = some date) :
    ∃ named d, String.ofList d.text = date ∧ MadeOf locale (trim text.toList) named d := by
  obtain ⟨d, read, written⟩ := parse?_eq_some_iff.1 h
  obtain ⟨named, made⟩ := exists_madeOf free read
  exact ⟨named, d, written, made⟩

theorem MadeOf.spends_iff {locale : Locale} {s : List Char} {named : Option Nat} {d : PartialDate}
    (h : MadeOf locale s named d) :
    (∃ uses, Spends (numeralsOf s) named d uses) ↔ (numeralsOf s).countP (·.isYear) = 1 := by
  constructor
  · rintro ⟨uses, spent⟩
    exact spent.countP_isYear
  · intro one
    obtain ⟨uses, spent⟩ := h.kept
    exact ⟨uses, spent.perm (perm_oneYear one)⟩

theorem countP_others_oneYear (numerals : List Numeral) :
    (oneYear numerals).countP (!·.isYear) = numerals.countP (!·.isYear) := by
  have years : (numerals.find? (·.isYear)).toList.countP (!·.isYear) = 0 := by
    rw [List.countP_eq_zero]
    intro n member
    simp [List.find?_some (Option.mem_toList.1 member)]
  rw [oneYear, List.countP_append, years, Nat.zero_add, List.countP_filter]
  simp

/-- A date has room for two numbers besides its year, or for one beside a word for the month. -/
theorem MadeOf.others_le {locale : Locale} {s : List Char} {named : Option Nat} {d : PartialDate}
    (h : MadeOf locale s named d) :
    (numeralsOf s).countP (!·.isYear) + ((wordsOf s).filterMap locale.month?).length ≤ 2 := by
  obtain ⟨uses, spent⟩ := h.kept
  have most : d.parts.length ≤ 3 := by cases d <;> simp [PartialDate.parts]
  have parts := spent.once.length_eq
  have all := spent.all.length_eq
  have one := spent.countP_isYear
  have split := List.length_eq_countP_add_countP (·.isYear) (l := oneYear (numeralsOf s))
  have others := countP_others_oneYear (numeralsOf s)
  simp only [Bool.not_eq_true, Bool.decide_eq_false] at split
  simp only [List.length_append, List.length_map, namedPart] at parts all
  rw [h.months]
  omega

/-! Numbers alone. -/

theorem ofTokens_numerals (locale : Locale) (numerals : List Numeral) :
    ofTokens locale (numerals.map .numeral) = ofNumerals locale numerals := by
  have all : (numerals.map Token.numeral).filterMap Token.numeral? = numerals := by
    simp [List.filterMap_map, Function.comp_def, Token.numeral?]
  have none : (numerals.map Token.numeral).filterMap Token.month? = [] := by
    simp [Token.month?]
  simp only [ofTokens, all, none]

def IsNumeric (word : List Char) : Prop := ∃ c ∈ word.head?, c.isDigit = true

instance : DecidablePred IsNumeric := fun word =>
  decidable_of_iff (word.head?.any Char.isDigit = true) (Option.any_eq_true Char.isDigit word.head?)

theorem mapM_token?_of_numeric (locale : Locale) {words : List (List Char)} (numeric : ∀ word ∈ words, IsNumeric word) :
    words.mapM (token? locale) = (words.mapM numeral?).map (·.map .numeral) := by
  induction words with
  | nil => rfl
  | cons word words ih =>
    obtain ⟨⟨c, first, digit⟩, others⟩ := List.forall_mem_cons.1 numeric
    rw [List.mapM_cons, List.mapM_cons, token?_of_digit locale first digit, ih others]
    cases numeral? word with
    | none => rfl
    | some n =>
      cases words.mapM numeral? with
      | none => rfl
      | some numerals => rfl

theorem read?_of_numeric (locale : Locale) {s : List Char} (free : IsFreeForm (trim s))
    (numeric : ∀ word ∈ wordsOf (trim s), IsNumeric word) :
    read? locale s = ((wordsOf (trim s)).mapM numeral?).bind (ofNumerals locale) := by
  rw [read?_of_isFreeForm free, mapM_token?_of_numeric locale numeric, Option.bind_map]
  simp only [Function.comp_def, ofTokens_numerals]

theorem ofParts?_of_month_lt {y m : Nat} (h : 12 < m) (d : Nat) : PartialDate.ofParts? y (some m) (some d) = none := by
  refine if_neg fun has => ?_
  have := Calendar.isMonth_iff.1 (Calendar.isMonth_of_isDay has)
  omega

def dayBeforeYear (locale : Locale) (y a b : Nat) : Option PartialDate :=
  PartialDate.ofParts? y (some (monthAndDay locale a b).1) (some (monthAndDay locale a b).2)

theorem dayBeforeYear_en {a b : Nat} (small : a ≤ 12) (y : Nat) :
    dayBeforeYear .en y a b = PartialDate.ofParts? y (some a) (some b) := by
  have order : monthAndDay .en a b = (a, b) := if_neg (by simp; omega)
  rw [dayBeforeYear, order]

theorem dayBeforeYear_of_ne_en {locale : Locale} (other : locale ≠ .en) {a b : Nat} (small : b ≤ 12) (y : Nat) :
    dayBeforeYear locale y a b = PartialDate.ofParts? y (some b) (some a) := by
  have last : locale.monthFirst = false := by cases locale <;> first | rfl | exact absurd rfl other
  have order : monthAndDay locale a b = (b, a) := by
    simp only [monthAndDay, last]
    exact if_neg (by simp; omega)
  rw [dayBeforeYear, order]

theorem monthAndDay_eq {a b : Nat} (plain : 12 < a ∧ b ≤ 12 ∨ a ≤ 12 ∧ 12 < b ∨ a = b) (l₁ l₂ : Locale) :
    monthAndDay l₁ a b = monthAndDay l₂ a b := by
  unfold monthAndDay
  cases l₁.monthFirst <;> cases l₂.monthFirst <;> grind

theorem dayBeforeYear_eq {a b : Nat} (plain : 12 < a ∨ 12 < b ∨ a = b) (l₁ l₂ : Locale) (y : Nat) :
    dayBeforeYear l₁ y a b = dayBeforeYear l₂ y a b := by
  by_cases both : 12 < a ∧ 12 < b
  · have none (l : Locale) : dayBeforeYear l y a b = none := by
      rcases monthAndDay_cases l a b with order | order
      · rw [dayBeforeYear, order]
        exact ofParts?_of_month_lt both.1 b
      · rw [dayBeforeYear, order]
        exact ofParts?_of_month_lt both.2 a
    rw [none, none]
  · rw [dayBeforeYear, dayBeforeYear, monthAndDay_eq (by omega) l₁ l₂]

theorem ofNumerals_day {a b year : Numeral} (first : a.isShort = true) (second : b.isShort = true)
    (last : year.isYear = true) (locale : Locale) :
    ofNumerals locale [a, b, year] = dayBeforeYear locale year.value a.value b.value := by
  have other := Numeral.isYear_of_isShort first
  simp [ofNumerals, dayBeforeYear, first, second, last, other]

theorem ofNumerals_congr {l₁ l₂ : Locale} {numerals : List Numeral}
    (same : ∀ a b year, numerals = [a, b, year] → a.isShort = true → b.isShort = true → year.isYear = true →
      dayBeforeYear l₁ year.value a.value b.value = dayBeforeYear l₂ year.value a.value b.value) :
    ofNumerals l₁ numerals = ofNumerals l₂ numerals := by
  unfold ofNumerals
  split
  · rfl
  · rfl
  · rename_i a b c
    by_cases last : c.isYear = true ∧ a.isShort = true ∧ b.isShort = true
    · have day := same a b c rfl last.2.1 last.2.2 last.1
      simp only [dayBeforeYear] at day
      simp only [last.1, last.2.1, last.2.2, day]
    · have refused : (c.isYear && a.isShort && b.isShort) = false := by
        simpa [and_assoc] using last
      simp only [refused]
      rfl
  · rfl

/-- Two different numbers before a year, each of which may be the month. -/
structure EitherMonth (a b year : Numeral) : Prop where
  first : a.isShort = true ∧ a.value ≤ 12
  second : b.isShort = true ∧ b.value ≤ 12
  last : year.isYear = true
  differ : a.value ≠ b.value

theorem ofNumerals_eq_or (l₁ l₂ : Locale) (numerals : List Numeral) :
    ofNumerals l₁ numerals = ofNumerals l₂ numerals ∨
      (l₁ = .en ↔ l₂ ≠ .en) ∧ ∃ a b year, numerals = [a, b, year] ∧ EitherMonth a b year := by
  by_cases either : ∃ a b year, numerals = [a, b, year] ∧ EitherMonth a b year
  · by_cases english : l₁ = .en ↔ l₂ ≠ .en
    · exact .inr ⟨english, either⟩
    · have first : l₁.monthFirst = l₂.monthFirst := by cases l₁ <;> cases l₂ <;> simp_all [Locale.monthFirst]
      refine .inl (ofNumerals_congr fun a b year _ _ _ _ => ?_)
      simp only [dayBeforeYear, monthAndDay, first]
  · refine .inl (ofNumerals_congr fun a b year whole short_a short_b last => ?_)
    refine dayBeforeYear_eq ?_ l₁ l₂ year.value
    by_contra! plain
    exact either ⟨a, b, year, whole, ⟨short_a, plain.1⟩, ⟨short_b, plain.2.1⟩, last, plain.2.2⟩

/-- A text whose numbers may be read as two different days. -/
structure Ambiguous (s : List Char) (a b year : Numeral) : Prop where
  free : IsFreeForm s
  written : (wordsOf s).mapM numeral? = some [a, b, year]
  either : EitherMonth a b year

end DateReader

open DateReader

/-- A date in free text is made of all numbers of the text just where exactly one of these is a year. Next to a word for
the month further years are passed over; any other number without a place makes the text no date. -/
theorem numbers_are_used_iff_one_year (locale : Locale) {text : String} (free : IsFreeForm (trim text.toList)) :
    (∀ date, parse? locale text = some date →
      ∃ named d, String.ofList d.text = date ∧ MadeOf locale (trim text.toList) named d ∧
        ((∃ uses, Spends (numeralsOf (trim text.toList)) named d uses) ↔
          (numeralsOf (trim text.toList)).countP (·.isYear) = 1)) ∧
      (2 < (numeralsOf (trim text.toList)).countP (!·.isYear) +
          ((wordsOf (trim text.toList)).filterMap locale.month?).length → parse? locale text = none) ∧
      ((wordsOf (trim text.toList)).filterMap locale.month? = [] →
        (numeralsOf (trim text.toList)).countP (·.isYear) ≠ 1 → parse? locale text = none) := by
  refine ⟨fun date h => ?_, fun many => ?_, fun unnamed years => ?_⟩
  · obtain ⟨named, d, written, made⟩ := exists_madeOf_of_parse? free h
    exact ⟨named, d, written, made, made.spends_iff⟩
  · rw [Option.eq_none_iff_forall_ne_some]
    intro date h
    obtain ⟨named, d, _, made⟩ := exists_madeOf_of_parse? free h
    have := made.others_le
    omega
  · rw [Option.eq_none_iff_forall_ne_some]
    intro date h
    obtain ⟨named, d, _, made⟩ := exists_madeOf_of_parse? free h
    have months := made.months
    rw [unnamed] at months
    exact years (made.alone (Option.toList_eq_nil_iff.1 months.symm))

namespace SeveralYears

theorem numbers_of_weekday :
    IsFreeForm (trim "Thursday, January 27th, 2022 10:30".toList) ∧
      (∃ named d uses, String.ofList d.text = "2022-01-27" ∧ Spends [⟨27, 2⟩, ⟨2022, 4⟩] named d uses) ∧
      parse? .en "27 January 2022 5" = none ∧ parse? .en "2021, 2022" = none := by
  have free : IsFreeForm (trim "Thursday, January 27th, 2022 10:30".toList) := isoParts?_eq_none_iff.1 rfl
  have numbers : numeralsOf (trim "Thursday, January 27th, 2022 10:30".toList) = [⟨27, 2⟩, ⟨2022, 4⟩] := by decide +kernel
  have read : parse? .en "Thursday, January 27th, 2022 10:30" = some "2022-01-27" := by decide +kernel
  obtain ⟨named, d, written, _, all⟩ := (numbers_are_used_iff_one_year .en free).1 _ read
  rw [numbers] at all
  obtain ⟨uses, spent⟩ := all.2 rfl
  have further : IsFreeForm (trim "27 January 2022 5".toList) := isoParts?_eq_none_iff.1 rfl
  have years : IsFreeForm (trim "2021, 2022".toList) := isoParts?_eq_none_iff.1 rfl
  exact ⟨free, ⟨named, d, uses, written, spent⟩,
    (numbers_are_used_iff_one_year .en further).2.1 (by decide +kernel),
    (numbers_are_used_iff_one_year .en years).2.2 (by decide +kernel) (by decide +kernel)⟩

theorem second_year_is_passed_over :
    IsFreeForm (trim "January 2021 2022".toList) ∧ parse? .en "January 2021 2022" = some "2021-01" ∧
      numeralsOf (trim "January 2021 2022".toList) = [⟨2021, 4⟩, ⟨2022, 4⟩] ∧
      ∀ named d uses, ¬ Spends (numeralsOf (trim "January 2021 2022".toList)) named d uses := by
  have numbers : numeralsOf (trim "January 2021 2022".toList) = [⟨2021, 4⟩, ⟨2022, 4⟩] := by decide +kernel
  refine ⟨isoParts?_eq_none_iff.1 rfl, by decide +kernel, numbers, fun named d uses spent => ?_⟩
  have one := spent.countP_isYear
  rw [numbers] at one
  exact absurd one (by decide)

end SeveralYears

/-- Numbers alone are read alike in any two languages, but for two different ones up to twelve before a year. Of these
English reads the first as the month, every other language the second. -/
theorem numeric_dates_agree_unless_ambiguous {text : String}
    (numeric : ∀ word ∈ wordsOf (trim text.toList), IsNumeric word) :
    (∀ l₁ l₂, parse? l₁ text = parse? l₂ text ∨
      (l₁ = .en ↔ l₂ ≠ .en) ∧ ∃ a b year, Ambiguous (trim text.toList) a b year) ∧
      ∀ a b year, Ambiguous (trim text.toList) a b year →
        parse? .en text =
            (PartialDate.ofParts? year.value (some a.value) (some b.value)).map (fun d => String.ofList d.text) ∧
          ∀ l, l ≠ .en → parse? l text =
            (PartialDate.ofParts? year.value (some b.value) (some a.value)).map fun d => String.ofList d.text := by
  constructor
  · intro l₁ l₂
    by_cases free : IsFreeForm (trim text.toList)
    · have read (l : Locale) := read?_of_numeric l free numeric
      cases written : (wordsOf (trim text.toList)).mapM numeral? with
      | none => exact .inl (by simp [parse?, read, written])
      | some numerals =>
        rcases ofNumerals_eq_or l₁ l₂ numerals with same | ⟨english, a, b, year, rfl, either⟩
        · exact .inl (by simp only [parse?, read, written, Option.bind_some, same])
        · exact .inr ⟨english, a, b, year, free, written, either⟩
    · obtain ⟨p, heads⟩ := exists_heads_of_not_isFreeForm free
      exact .inl (by simp only [parse?, read?_of_heads heads])
  · intro a b year h
    have read (l : Locale) : read? l text.toList = dayBeforeYear l year.value a.value b.value := by
      rw [read?_of_numeric l h.free numeric, h.written]
      exact ofNumerals_day h.either.first.1 h.either.second.1 h.either.last l
    refine ⟨?_, fun l other => ?_⟩
    · rw [parse?, read, dayBeforeYear_en h.either.first.2]
    · rw [parse?, read, dayBeforeYear_of_ne_en other h.either.second.2]

namespace NumbersAlone

theorem fifth_or_first :
    (∀ word ∈ wordsOf (trim "5/1/2022 10:30".toList), IsNumeric word) ∧
      parse? .en "5/1/2022 10:30" = some "2022-05-01" ∧ parse? .de "5/1/2022 10:30" = some "2022-01-05" ∧
      parse? .en "27/01/2022" = parse? .de "27/01/2022" := by
  have numeric : ∀ word ∈ wordsOf (trim "5/1/2022 10:30".toList), IsNumeric word := by decide +kernel
  have numeric' : ∀ word ∈ wordsOf (trim "27/01/2022".toList), IsNumeric word := by decide +kernel
  have ambiguous : Ambiguous (trim "5/1/2022 10:30".toList) ⟨5, 1⟩ ⟨1, 1⟩ ⟨2022, 4⟩ :=
    ⟨isoParts?_eq_none_iff.1 rfl, by decide +kernel, ⟨by decide, by decide, rfl, by decide⟩⟩
  obtain ⟨english, others⟩ := (numeric_dates_agree_unless_ambiguous numeric).2 _ _ _ ambiguous
  refine ⟨numeric, english.trans (by decide +kernel), (others .de (by decide)).trans (by decide +kernel), ?_⟩
  rcases (numeric_dates_agree_unless_ambiguous numeric').1 .en .de with same | ⟨_, a, b, year, ambiguous⟩
  · exact same
  · have written : (wordsOf (trim "27/01/2022".toList)).mapM numeral? = some [⟨27, 2⟩, ⟨1, 2⟩, ⟨2022, 4⟩] := by
      decide +kernel
    cases written.symm.trans ambiguous.written
    exact absurd ambiguous.either.first.2 (by decide)

end NumbersAlone
end WebCitation
