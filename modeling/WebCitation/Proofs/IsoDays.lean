import WebCitation.Proofs.ParsedDates

/-! The day of a text in the ISO form: when a date that is read of the text has it. -/
namespace WebCitation.DateReader

open Text

/-- Digits of other scripts have no number. -/
def InAscii (s : List Char) : Prop := ∀ c ∈ s, c.isDigit = true

instance (s : List Char) : Decidable (InAscii s) := decidable_of_iff (s.all Char.isDigit = true) List.all_eq_true

theorem DigitsOf.readNat?_eq_some_iff {low high n : Nat} {s : List Char} (h : DigitsOf low high s) (least : 1 ≤ low) :
    readNat? s = some n ↔ InAscii s ∧ digitsValue s = n := by
  rw [Text.readNat?_eq_some_iff]
  exact ⟨fun read => read.2, fun read => ⟨h.ne_nil least, read⟩⟩

theorem DigitsOf.readNat?_eq_none {low high : Nat} {s : List Char} (h : DigitsOf low high s) (least : 1 ≤ low)
    (other : ¬ InAscii s) : readNat? s = none := by
  rw [Option.eq_none_iff_forall_ne_some]
  intro n read
  exact other ((h.readNat?_eq_some_iff least).1 read).1

/-- The year and the month that the parts write, if the calendar has the month. -/
structure IsoParts.NamesMonth (p : IsoParts) : Prop where
  year : InAscii p.year
  month : InAscii p.month
  has : Calendar.isMonth (digitsValue p.month) = true

/-- No date, or the day that the parts write. -/
def IsoParts.DayOrNone (p : IsoParts) (day : List Char) : Option String → Prop
  | none => True
  | some date =>
    InAscii p.year ∧ InAscii p.month ∧ InAscii day ∧
      date = String.ofList (PartialDate.day (digitsValue p.year) (digitsValue p.month) (digitsValue day)).text

theorem IsoParts.Formed.ofIsoParts_eq_none {p : IsoParts} (h : p.Formed) (other : ¬ (InAscii p.year ∧ InAscii p.month)) :
    ofIsoParts p = none := by
  unfold ofIsoParts
  by_cases year : InAscii p.year
  · have month : ¬ InAscii p.month := fun month => other ⟨year, month⟩
    have unread : readNat? p.month = none := h.month.readNat?_eq_none (Nat.le_refl 1) month
    simp [unread]
  · have unread : readNat? p.year = none := h.year.readNat?_eq_none (by decide) year
    simp [unread]

theorem IsoParts.Formed.ofIsoParts_eq {p : IsoParts} (h : p.Formed) (year : InAscii p.year) (month : InAscii p.month) :
    ofIsoParts p = PartialDate.ofParts? (digitsValue p.year) (some (digitsValue p.month)) (p.day.bind readNat?) := by
  have read_year := (h.year.readNat?_eq_some_iff (by decide)).2 ⟨year, rfl⟩
  have read_month := (h.month.readNat?_eq_some_iff (Nat.le_refl 1)).2 ⟨month, rfl⟩
  simp [ofIsoParts, read_year, read_month]

/-- Without a day that can be read, the date is that of the month. -/
theorem IsoParts.Formed.ofIsoParts_of_unread_day {p : IsoParts} (h : p.Formed) (named : p.NamesMonth)
    (unread : p.day.bind readNat? = none) :
    ofIsoParts p = some (.month (digitsValue p.year) (digitsValue p.month)) := by
  rw [h.ofIsoParts_eq named.year named.month, unread]
  exact if_pos named.has

theorem IsoParts.Formed.day_unread {p : IsoParts} (h : p.Formed) {day : List Char} (written : p.day = some day)
    (other : ¬ InAscii day) : p.day.bind readNat? = none := by
  rw [written]
  exact (h.day day written).readNat?_eq_none (Nat.le_refl 1) other

theorem IsoParts.Formed.ofIsoParts_of_day {p : IsoParts} (h : p.Formed) {day : List Char} (written : p.day = some day)
    (ascii : InAscii day) (year : InAscii p.year) (month : InAscii p.month) :
    ofIsoParts p =
      PartialDate.ofParts? (digitsValue p.year) (some (digitsValue p.month)) (some (digitsValue day)) := by
  have read : p.day.bind readNat? = some (digitsValue day) := by
    rw [written]
    exact ((h.day day written).readNat?_eq_some_iff (Nat.le_refl 1)).2 ⟨ascii, rfl⟩
  rw [h.ofIsoParts_eq year month, read]

theorem IsoParts.Formed.dayOrNone_iff {p : IsoParts} (h : p.Formed) {day : List Char} (written : p.day = some day) :
    p.DayOrNone day ((ofIsoParts p).map fun date => String.ofList date.text) ↔ InAscii day ∨ ¬ p.NamesMonth := by
  by_cases front : InAscii p.year ∧ InAscii p.month
  · obtain ⟨year, month⟩ := front
    by_cases ascii : InAscii day
    · rw [h.ofIsoParts_of_day written ascii year month, PartialDate.ofParts?]
      refine iff_of_true ?_ (.inl ascii)
      split
      · exact ⟨year, month, ascii, rfl⟩
      · trivial
    · rw [h.ofIsoParts_eq year month, h.day_unread written ascii, PartialDate.ofParts?]
      split
      · rename_i has
        have named : p.NamesMonth := ⟨year, month, has⟩
        simp [DayOrNone, ascii, named]
      · rename_i lacks
        have unnamed : ¬ p.NamesMonth := fun named => lacks named.has
        simp [DayOrNone, unnamed]
  · have unnamed : ¬ p.NamesMonth := fun named => front ⟨named.year, named.month⟩
    rw [h.ofIsoParts_eq_none front]
    simp [DayOrNone, unnamed]

end DateReader

open DateReader Text

/-- A text of the ISO form with a day is read as that day or not at all, unless its day alone is written in digits of
another script: then the date is that of the month. -/
theorem iso_day_is_kept_iff (locale : Locale) {text : String} {p : IsoParts} {day : List Char}
    (heads : p.Heads (trim text.toList)) (written : p.day = some day) :
    (p.DayOrNone day (parse? locale text) ↔ InAscii day ∨ ¬ p.NamesMonth) ∧
      (p.NamesMonth → ¬ InAscii day →
        parse? locale text = some (String.ofList (PartialDate.month (digitsValue p.year) (digitsValue p.month)).text)) ∧
      (p.NamesMonth → InAscii day →
        Calendar.isDay (digitsValue p.year) (digitsValue p.month) (digitsValue day) = true →
        parse? locale text =
          some (String.ofList (PartialDate.day (digitsValue p.year) (digitsValue p.month) (digitsValue day)).text)) := by
  have read : parse? locale text = (ofIsoParts p).map fun date => String.ofList date.text := by
    rw [parse?, read?_of_heads heads]
  rw [read]
  refine ⟨heads.formed.dayOrNone_iff written, ?_, ?_⟩
  · intro named other
    rw [heads.formed.ofIsoParts_of_unread_day named (heads.formed.day_unread written other)]
    rfl
  · intro named ascii has
    rw [heads.formed.ofIsoParts_of_day written ascii named.year named.month, PartialDate.ofParts?, if_pos has]
    rfl

namespace WideDay

def narrow : IsoParts := ⟨"2022".toList, "01".toList, some "27".toList⟩

def wide : IsoParts := ⟨"2022".toList, "01".toList, some "２７".toList⟩

theorem narrow_day_is_kept :
    narrow.Heads (trim " 2022-01-27T10:00:00Z".toList) ∧ narrow.NamesMonth ∧ InAscii "27".toList ∧
      parse? .fr " 2022-01-27T10:00:00Z" = some "2022-01-27" := by
  have heads : narrow.Heads (trim " 2022-01-27T10:00:00Z".toList) :=
    isoParts?_eq_some_iff_heads.1 rfl
  have named : narrow.NamesMonth := ⟨by decide, by decide, by decide⟩
  have ascii : InAscii "27".toList := by decide
  obtain ⟨_, _, kept⟩ := iso_day_is_kept_iff .fr heads (rfl : narrow.day = some "27".toList)
  exact ⟨heads, named, ascii, kept named ascii (by decide)⟩

theorem wide_day_is_lost :
    wide.Heads (trim "2022-01-２７".toList) ∧ wide.day = some "２７".toList ∧
      parse? .en "2022-01-２７" = some "2022-01" ∧ ¬ wide.DayOrNone "２７".toList (parse? .en "2022-01-２７") := by
  have heads : wide.Heads (trim "2022-01-２７".toList) := isoParts?_eq_some_iff_heads.1 rfl
  have month : parse? .en "2022-01-２７" = some "2022-01" := by decide +kernel
  have other : ¬ InAscii "２７".toList := by decide
  refine ⟨heads, rfl, month, ?_⟩
  rw [month]
  rintro ⟨_, _, ascii, _⟩
  exact other ascii

end WideDay
end WebCitation
