import WebCitation.Field.Basic
import WebCitation.Proofs.DateForm
import WebCitation.Proofs.IsoDates
import WebCitation.Proofs.Result
import WebCitation.Step.Transformation

/-!
What comes of reading a date. The date that a text says is one of the calendar, in four digits for the year and two for
the month and the day, and in this form every locale reads it as itself.
-/
namespace WebCitation

namespace Calendar

theorem daysIn_le (year : Int) (month : Nat) : daysIn year month ≤ 31 := by
  unfold daysIn
  split <;> try split
  all_goals decide

theorem isDay_iff {year : Int} {month day : Nat} : isDay year month day = true ↔ 1 ≤ day ∧ day ≤ daysIn year month := by
  simp [isDay]

theorem isMonth_iff {month : Nat} : isMonth month = true ↔ 1 ≤ month ∧ month ≤ 12 := by
  simp [isMonth]

theorem isMonth_of_isDay {year : Int} {month day : Nat} (h : isDay year month day = true) : isMonth month = true := by
  have days : daysIn year month ≠ 0 := by
    have := isDay_iff.1 h
    omega
  unfold daysIn at days
  split at days
  all_goals first | decide | exact absurd rfl days

end Calendar

open Text

/-- The texts `yyyy`, `yyyy-mm` and `yyyy-mm-dd` in ASCII digits, with a month and a day that the calendar has. -/
inductive IsIsoDate : List Char → Prop where
  | year {y : List Char} (year : IsNumber 4 y) : IsIsoDate y
  | month {y m : List Char} (year : IsNumber 4 y) (month : IsNumber 2 m)
      (named : 1 ≤ digitsValue m ∧ digitsValue m ≤ 12) : IsIsoDate (y ++ '-' :: m)
  | day {y m d : List Char} (year : IsNumber 4 y) (month : IsNumber 2 m) (day : IsNumber 2 d)
      (named : 1 ≤ digitsValue m ∧ digitsValue m ≤ 12)
      (has : 1 ≤ digitsValue d ∧ digitsValue d ≤ Calendar.daysIn (digitsValue y) (digitsValue m)) :
      IsIsoDate (y ++ '-' :: m ++ '-' :: d)

theorem IsIsoDate.shown {s : List Char} (h : IsIsoDate s) : ∀ c ∈ s, isBlank c = false := by
  have hyphen : isBlank '-' = false := by decide
  have digits {width : Nat} {n : List Char} (number : IsNumber width n) : ∀ c ∈ n, isBlank c = false :=
    fun c member => isBlank_of_isDigit (number.digits c member)
  cases h with
  | year year => exact digits year
  | month year month _ =>
    rw [List.forall_mem_append, List.forall_mem_cons]
    exact ⟨digits year, hyphen, digits month⟩
  | day year month day _ _ =>
    simp only [List.forall_mem_append, List.forall_mem_cons]
    exact ⟨⟨digits year, hyphen, digits month⟩, hyphen, digits day⟩

namespace PartialDate

def yearOf : PartialDate → Nat
  | year y => y
  | month y _ => y
  | day y _ _ => y

/-- A date of the calendar that four digits for the year and two for the others can write. -/
structure Writable (d : PartialDate) : Prop where
  valid : d.Valid
  short : d.yearOf < 10000

theorem Writable.isIsoDate {d : PartialDate} (h : d.Writable) : IsIsoDate d.text := by
  have year : IsNumber 4 (Calendar.padded 4 d.yearOf) := Calendar.isNumber_padded (by decide) h.short
  have two {n : Nat} (small : n < 100) : IsNumber 2 (Calendar.padded 2 n) := Calendar.isNumber_padded (by decide) small
  cases d with
  | year y => exact .year year
  | month y m =>
    have named := Calendar.isMonth_iff.1 h.valid
    refine .month year (two (by omega)) ?_
    rwa [Calendar.digitsValue_padded]
  | day y m d =>
    have named := Calendar.isMonth_iff.1 (Calendar.isMonth_of_isDay h.valid)
    have has := Calendar.isDay_iff.1 h.valid
    have most := Calendar.daysIn_le y m
    refine .day year (two (by omega)) (two (by omega)) ?_ ?_
    · rwa [Calendar.digitsValue_padded]
    · rwa [Calendar.digitsValue_padded, Calendar.digitsValue_padded, Calendar.digitsValue_padded]

theorem of_ofParts? {y : Nat} {m d : Option Nat} {date : PartialDate} (h : ofParts? y m d = some date) :
    date.Valid ∧ date.yearOf = y := by
  unfold ofParts? at h
  split at h
  · split at h
    · rename_i valid
      cases h
      exact ⟨valid, rfl⟩
    · cases h
  · split at h
    · rename_i valid
      cases h
      exact ⟨valid, rfl⟩
    · cases h
  · cases h
    exact ⟨trivial, rfl⟩

theorem writable_of_ofParts? {y : Nat} (short : y < 10000) {m d : Option Nat} {date : PartialDate}
    (h : ofParts? y m d = some date) : date.Writable := by
  obtain ⟨valid, rfl⟩ := of_ofParts? h
  exact ⟨valid, short⟩

end PartialDate

namespace TimeOfDay

/-! Every time of day has a colon. -/

theorem clock?_of_not_mem_colon {s : List Char} (absent : ':' ∉ s) : clock? s = none := by
  have minutes : ∀ t : List Char, ':' ∉ t → minutes? t = none := by
    intro t absent
    unfold minutes?
    split
    · exact absurd List.mem_cons_self absent
    · rfl
  unfold clock?
  split
  · rename_i a s
    have later : ':' ∉ s := fun member => absent (List.mem_cons_of_mem a member)
    split
    · split
      · rename_i b s
        rw [minutes _ later, minutes s fun member => later (List.mem_cons_of_mem b member), ite_self]
      · rfl
    · rfl
  · rfl

theorem blankOutFrom_of_not_mem_colon {s : List Char} (absent : ':' ∉ s) (inWord : Bool) :
    blankOutFrom 0 inWord s = s := by
  induction s generalizing inWord with
  | nil => rfl
  | cons c s ih =>
    have here : rest? (c :: s) = none := by simp [rest?, clock?_of_not_mem_colon absent]
    have later : ':' ∉ s := fun member => absent (List.mem_cons_of_mem c member)
    rw [blankOutFrom, here, ite_self]
    exact congrArg (c :: ·) (ih later _)

end TimeOfDay

namespace DateReader

theorem writable_of_ofIsoParts {p : IsoParts} {date : PartialDate} (four : p.year.length = 4)
    (h : ofIsoParts p = some date) : date.Writable := by
  simp only [ofIsoParts, Option.bind_eq_bind, Option.bind_eq_some_iff] at h
  obtain ⟨year, hyear, month, _, h⟩ := h
  obtain ⟨_, digits, rfl⟩ := readNat?_eq_some_iff.1 hyear
  have short := digitsValue_lt digits
  rw [four] at short
  exact PartialDate.writable_of_ofParts? short h

/-- The value has no more digits than the numeral was written with. -/
def Numeral.Fits (n : Numeral) : Prop := n.value < Nat.pow 10 n.width

theorem Numeral.Fits.short {n : Numeral} (h : n.Fits) (year : n.isYear = true) : n.value < 10000 := by
  have four : n.width = 4 := beq_iff_eq.1 year
  rw [Fits, four] at h
  exact h

theorem fits_of_token? {locale : Locale} {word : List Char} {n : Numeral} (h : token? locale word = some (.numeral n)) :
    n.Fits := by
  unfold token? at h
  split at h
  rename_i digits suffix cut
  obtain ⟨_, inside, _⟩ := span_eq_iff.1 cut
  split at h
  · split at h
    · cases h
      exact digitsValue_lt inside
    · cases h
  · split at h
    · cases h
    · split at h <;> cases h

theorem monthAndDay_cases (locale : Locale) (a b : Nat) :
    monthAndDay locale a b = (a, b) ∨ monthAndDay locale a b = (b, a) := by
  unfold monthAndDay
  cases locale.monthFirst <;> simp <;> omega

theorem exists_parts_of_ofNumerals {locale : Locale} {numerals : List Numeral} {date : PartialDate}
    (h : ofNumerals locale numerals = some date) :
    ∃ (year : Numeral) (month day : Option Numeral), (year :: (month.toList ++ day.toList)).Perm numerals ∧
      year.isYear = true ∧ (∀ n ∈ month.toList ++ day.toList, n.isShort = true) ∧ (month = none → day = none) ∧
      PartialDate.ofParts? year.value (month.map (·.value)) (day.map (·.value)) = some date := by
  unfold ofNumerals at h
  split at h
  · rename_i n
    split at h
    · rename_i year
      exact ⟨n, none, none, .refl _, year, by simp, fun _ => rfl, h⟩
    · cases h
  · rename_i a b
    simp only [Bool.and_eq_true] at h
    split at h
    · rename_i first
      exact ⟨a, some b, none, .refl _, first.1, by simpa using first.2, nofun, h⟩
    · split at h
      · rename_i last
        exact ⟨b, some a, none, .swap _ _ _, last.1, by simpa using last.2, nofun, h⟩
      · cases h
  · rename_i a b c
    simp only [Bool.and_eq_true, and_assoc] at h
    split at h
    · rename_i first
      exact ⟨a, some b, some c, .refl _, first.1, by simpa using first.2, nofun, h⟩
    · split at h
      · rename_i last
        rcases monthAndDay_cases locale a.value b.value with order | order
        · rw [order] at h
          have moved : ([c] ++ [a, b]).Perm ([a, b] ++ [c]) := List.perm_append_comm
          exact ⟨c, some a, some b, moved, last.1, by simpa using last.2, nofun, h⟩
        · rw [order] at h
          have turned : [c, b, a].Perm [a, b, c] := List.reverse_perm [a, b, c]
          exact ⟨c, some b, some a, turned, last.1, by simpa using last.2.symm, nofun, h⟩
      · cases h
  · cases h

theorem exists_parts_of_ofNamedMonth {month : Nat} {numerals : List Numeral} {date : PartialDate}
    (h : ofNamedMonth month numerals = some date) :
    ∃ (year : Numeral) (day : Option Numeral), numerals.find? (·.isYear) = some year ∧
      numerals.filter (!·.isYear) = day.toList ∧ (∀ n ∈ day.toList, n.isShort = true) ∧
      PartialDate.ofParts? year.value (some month) (day.map (·.value)) = some date := by
  unfold ofNamedMonth at h
  split at h
  · rename_i year found others
    exact ⟨year, none, found, others, by simp, h⟩
  · rename_i year day found others
    split at h
    · rename_i short
      exact ⟨year, some day, found, others, by simpa using short, h⟩
    · cases h
  · cases h

theorem writable_of_ofNumerals {locale : Locale} {numerals : List Numeral} (fits : ∀ n ∈ numerals, n.Fits)
    {date : PartialDate} (h : ofNumerals locale numerals = some date) : date.Writable := by
  obtain ⟨year, month, day, all, last, _, _, h⟩ := exists_parts_of_ofNumerals h
  have member : year ∈ numerals := all.subset List.mem_cons_self
  exact PartialDate.writable_of_ofParts? ((fits year member).short last) h

theorem writable_of_ofNamedMonth {month : Nat} {numerals : List Numeral} (fits : ∀ n ∈ numerals, n.Fits)
    {date : PartialDate} (h : ofNamedMonth month numerals = some date) : date.Writable := by
  obtain ⟨year, day, found, _, _, h⟩ := exists_parts_of_ofNamedMonth h
  have member : year ∈ numerals := List.mem_of_find?_eq_some found
  exact PartialDate.writable_of_ofParts? ((fits year member).short (List.find?_some found)) h

/-- What is read of a text can be written. -/
theorem writable_of_read? {locale : Locale} {s : List Char} {date : PartialDate} (h : read? locale s = some date) :
    date.Writable := by
  unfold read? at h
  simp only at h
  split at h
  · rename_i parts iso
    have year := (isoParts?_eq_some_iff.1 iso).1.year
    exact writable_of_ofIsoParts (Nat.le_antisymm year.most year.least) h
  · obtain ⟨tokens, cut, h⟩ := Option.bind_eq_some_iff.1 h
    have fits : ∀ n ∈ tokens.filterMap Token.numeral?, n.Fits := by
      intro n member
      obtain ⟨token, among, numeral⟩ := List.mem_filterMap.1 member
      obtain ⟨word, _, read⟩ := exists_mem_of_mapM_eq_some cut among
      cases token with
      | numeral m =>
        cases numeral
        exact fits_of_token? read
      | month _ | filler => cases numeral
    unfold ofTokens at h
    split at h
    · exact writable_of_ofNumerals fits h
    · exact writable_of_ofNamedMonth fits h
    · cases h

theorem readNat?_padded {width n : Nat} (wide : 0 < width) (h : IsNumber width (Calendar.padded width n)) :
    readNat? (Calendar.padded width n) = some n := by
  rw [h.readNat? wide, Calendar.digitsValue_padded]

theorem isoParts?_of_digits {s : List Char} (digits : ∀ c ∈ s, c.isDigit = true) : isoParts? s = none := by
  have whole : s.span isDecimalDigit = (s, []) :=
    span_eq_iff.2 ⟨by simp, fun c member => isDecimalDigit_of_isDigit (digits c member), nofun⟩
  exact isoParts?_eq_none whole nofun

theorem wordsOf_of_digits {s : List Char} (nonempty : s ≠ []) (digits : ∀ c ∈ s, c.isDigit = true) :
    wordsOf s = [s] := by
  have absent : ':' ∉ s := fun member => absurd (digits ':' member) (by decide)
  have whole : s.splitOnP (!isAlphanumeric ·) = [s] := by
    apply List.splitOnP_eq_singleton
    intro c member
    simp [isAlphanumeric_of_isDigit (digits c member)]
  rw [wordsOf, TimeOfDay.blankOut, TimeOfDay.blankOutFrom_of_not_mem_colon absent, lower_of_isDigit digits,
    splitWhere_eq_splitOnP, whole]
  simp [nonempty]

theorem token?_of_isNumber {locale : Locale} {width : Nat} {s : List Char} (h : IsNumber width s) (wide : 0 < width)
    (most : width ≤ 4) : token? locale s = some (.numeral ⟨digitsValue s, width⟩) := by
  have whole : s.span Char.isDigit = (s, []) := span_eq_iff.2 ⟨by simp, h.digits, nofun⟩
  have nonempty : s ≠ [] := by
    rintro rfl
    exact absurd h.length (Nat.ne_of_lt wide)
  rw [token?, whole]
  simp [nonempty, isOrdinalSuffix, h.length, most]

/-- A year alone is read through its words, as it is not of the ISO form. -/
theorem read?_of_digits {locale : Locale} {s : List Char} (h : IsNumber 4 s) :
    read? locale s = some (.year (digitsValue s)) := by
  have nonempty : s ≠ [] := by
    rintro rfl
    exact absurd h.length (by decide)
  have shown : trim s = s := trim_of_shown fun c member => isBlank_of_isDigit (h.digits c member)
  have token : token? locale s = some (.numeral ⟨digitsValue s, 4⟩) :=
    token?_of_isNumber h (by decide) (by decide)
  rw [read?]
  simp only [shown, isoParts?_of_digits h.digits, wordsOf_of_digits nonempty h.digits, List.mapM_cons, token]
  rfl

theorem read?_of_isoParts? {locale : Locale} {s : List Char} {p : IsoParts} (shown : trim s = s)
    (h : isoParts? s = some p) : read? locale s = ofIsoParts p := by
  rw [read?]
  simp only [shown, h]

/-- A year, a month and perhaps a day in the ISO form are read as they stand. -/
theorem read?_padded {locale : Locale} {s : List Char} {y m : Nat} {d : Option Nat}
    (written : s = Calendar.padded 4 y ++ '-' :: Calendar.padded 2 m ++ d.elim [] ('-' :: Calendar.padded 2 ·))
    (shown : trim s = s) (year : y < 10000) (month : m < 100) (day : ∀ n, d = some n → n < 100) :
    read? locale s = PartialDate.ofParts? y (some m) d := by
  have four : IsNumber 4 (Calendar.padded 4 y) := Calendar.isNumber_padded (by decide) year
  have two {n : Nat} (small : n < 100) : IsNumber 2 (Calendar.padded 2 n) := Calendar.isNumber_padded (by decide) small
  have parts : isoParts? s = some ⟨Calendar.padded 4 y, Calendar.padded 2 m, d.map (Calendar.padded 2)⟩ := by
    refine isoParts?_eq_some_iff.2 ⟨⟨?_, ?_, ?_⟩, [], ?_, rfl⟩
    · exact .of_isNumber four (by decide) (by decide)
    · exact .of_isNumber (two month) (by decide) (by decide)
    · intro digits h
      obtain ⟨n, present, rfl⟩ := Option.map_eq_some_iff.1 h
      exact .of_isNumber (two (day n present)) (by decide) (by decide)
    · cases d <;> simp [written, IsoParts.text]
  have read_day : (d.map (Calendar.padded 2)).bind readNat? = d := by
    cases d with
    | none => rfl
    | some n => exact readNat?_padded (by decide) (two (day n rfl))
  have read_year := readNat?_padded (by decide) four
  have read_month := readNat?_padded (by decide) (two month)
  rw [read?_of_isoParts? shown parts, ofIsoParts]
  simp only [read_year, read_month, read_day]
  rfl

/-- What a date writes is read as the date, whatever the language. -/
theorem read?_text {locale : Locale} {d : PartialDate} (h : d.Writable) : read? locale d.text = some d := by
  have shown : trim d.text = d.text := trim_of_shown h.isIsoDate.shown
  cases d with
  | year y =>
    have number : IsNumber 4 (Calendar.padded 4 y) := Calendar.isNumber_padded (by decide) h.short
    rw [PartialDate.text, read?_of_digits number, Calendar.digitsValue_padded]
  | month y m =>
    have named := Calendar.isMonth_iff.1 h.valid
    have read : read? locale (PartialDate.month y m).text = PartialDate.ofParts? y (some m) none :=
      read?_padded (by simp [PartialDate.text]) shown h.short (by omega) nofun
    exact read.trans (if_pos h.valid)
  | day y m d =>
    have named := Calendar.isMonth_iff.1 (Calendar.isMonth_of_isDay h.valid)
    have has := Calendar.isDay_iff.1 h.valid
    have most := Calendar.daysIn_le y m
    have day : ∀ n, some d = some n → n < 100 := by
      intro n same
      cases same
      omega
    have read : read? locale (PartialDate.day y m d).text = PartialDate.ofParts? y (some m) (some d) :=
      read?_padded rfl shown h.short (by omega) day
    exact read.trans (if_pos h.valid)

theorem parse?_eq_some_iff {locale : Locale} {text date : String} :
    parse? locale text = some date ↔ ∃ d, read? locale text.toList = some d ∧ String.ofList d.text = date :=
  Option.map_eq_some_iff

/-- A date is in the ISO form, and in this form it is read as itself. -/
theorem isIsoDate_of_parse? {locale : Locale} {text date : String} (h : parse? locale text = some date) :
    IsIsoDate date.toList ∧ ∀ l, parse? l date = some date := by
  obtain ⟨d, read, rfl⟩ := parse?_eq_some_iff.1 h
  have writable := writable_of_read? read
  rw [String.toList_ofList]
  refine ⟨writable.isIsoDate, fun l => parse?_eq_some_iff.2 ⟨d, ?_, rfl⟩⟩
  rw [String.toList_ofList]
  exact read?_text writable

end DateReader

/-! What comes of a date. -/

theorem IsIsoDate.dateForm {s : List Char} (h : IsIsoDate s) : DateForm Char.isDigit s := by
  have run {width : Nat} {n : List Char} (number : IsNumber width n) : RunOf Char.isDigit width n :=
    ⟨number.length, number.digits⟩
  cases h with
  | year year => exact .year (run year)
  | month year month _ => exact .month (run year) (run month)
  | day year month day _ _ => exact .day (run year) (run month) (run day)

theorem FieldName.isDate_of_isIsoDate {s : List Char} (h : IsIsoDate s) : isDate s = true :=
  isDate_iff.2 (h.dateForm.imp fun _ _ => isDecimalDigit_of_isDigit)

theorem TemplateField.check_date {f : TemplateField} (named : f.name = .date) {date : String}
    (iso : IsIsoDate date.toList) : f.check [date] = [some date] := by
  have shown : date.trimmed = date := by
    rw [String.trimmed, trim_of_shown iso.shown, String.ofList_toList]
  have accepts : f.name.accepts date = true := by
    rw [named]
    exact FieldName.isDate_of_isIsoDate iso
  have single : f.gather [date] = [date] := by simp [gather]
  rw [check, single, List.map_singleton, accept, shown, if_pos accepts]

namespace Transformation

theorem dateOrSelf_dateOrSelf (locale : Locale) (value : String) :
    dateOrSelf locale (dateOrSelf locale value) = dateOrSelf locale value := by
  unfold dateOrSelf
  cases h : DateReader.parse? locale value with
  | none => simp [h]
  | some date => simp [(DateReader.isIsoDate_of_parse? h).2 locale]

theorem gathered_singleton (itemwise : Bool) (value : String) : gathered itemwise [value] = [value] := by
  simp [gathered, Separator.join, join]

theorem gathered_map_gathered (itemwise : Bool) (values : List String) (f : String → String) :
    gathered itemwise ((gathered itemwise values).map f) = (gathered itemwise values).map f := by
  cases itemwise with
  | true => rfl
  | false =>
    cases values with
    | nil => rfl
    | cons value values => exact gathered_singleton false _

theorem apply_date_apply (locale : Locale) (itemwise : Bool) (values : List String) :
    apply ⟨.date locale, itemwise⟩ (apply ⟨.date locale, itemwise⟩ values) = apply ⟨.date locale, itemwise⟩ values := by
  have applied : ∀ values, apply ⟨.date locale, itemwise⟩ values = (gathered itemwise values).map (dateOrSelf locale) :=
    fun _ => rfl
  rw [applied, applied, gathered_map_gathered, List.map_map]
  refine List.map_congr_left fun value _ => ?_
  rw [Function.comp_apply, dateOrSelf_dateOrSelf]

end Transformation

/-- What is read of a text is a date of the calendar in the ISO form, which every language reads as itself and the
field for dates takes. To read dates a second time changes nothing. -/
theorem parsed_dates_are_stable (locale : Locale) :
    (∀ text date, DateReader.parse? locale text = some date →
      IsIsoDate date.toList ∧ (∀ l, DateReader.parse? l date = some date) ∧
        ∀ f : TemplateField, f.name = .date → f.check [date] = [some date]) ∧
      ∀ t : Transformation, t.rule = .date locale → ∀ values, t.apply (t.apply values) = t.apply values := by
  constructor
  · intro text date h
    obtain ⟨iso, again⟩ := DateReader.isIsoDate_of_parse? h
    exact ⟨iso, again, fun f named => f.check_date named iso⟩
  · rintro ⟨_, itemwise⟩ rfl values
    exact Transformation.apply_date_apply locale itemwise values

theorem date_before_hour_is_stable :
    DateReader.parse? .en "Sept. 5, 2021 10:30 AM" = some "2021-09-05" ∧
      IsIsoDate "2021-09-05".toList ∧ (∀ l, DateReader.parse? l "2021-09-05" = some "2021-09-05") ∧
      TemplateField.check (.ofName .date) ["2021-09-05"] = [some "2021-09-05"] ∧
      Transformation.apply ⟨.date .en, true⟩ ["2021-09-05"] = ["2021-09-05"] := by
  have read : DateReader.parse? .en "Sept. 5, 2021 10:30 AM" = some "2021-09-05" := by decide +kernel
  obtain ⟨iso, again, taken⟩ := (parsed_dates_are_stable .en).1 _ _ read
  have once := (parsed_dates_are_stable .en).2 ⟨.date .en, true⟩ rfl ["Sept. 5, 2021 10:30 AM"]
  have values : Transformation.apply ⟨.date .en, true⟩ ["Sept. 5, 2021 10:30 AM"] = ["2021-09-05"] := by
    simp [Transformation.apply, Transformation.gathered, Transformation.dateOrSelf, read]
  rw [values] at once
  exact ⟨read, iso, again, taken _ rfl, once⟩

end WebCitation
