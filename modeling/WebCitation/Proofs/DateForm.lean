import Mathlib.Data.List.Basic
import WebCitation.Field.Name
import WebCitation.Proofs.Digits

/-!
The form of the dates that a field takes: a year of four digits, and after it a month and a day of two digits each, or
the month alone, or neither.
-/
namespace WebCitation

open Text

structure RunOf (digit : Char → Bool) (width : Nat) (s : List Char) : Prop where
  length : s.length = width
  digits : ∀ c ∈ s, digit c = true

/-- The texts `yyyy`, `yyyy-mm` and `yyyy-mm-dd` in the digits of a class. -/
inductive DateForm (digit : Char → Bool) : List Char → Prop where
  | year {y : List Char} (year : RunOf digit 4 y) : DateForm digit y
  | month {y m : List Char} (year : RunOf digit 4 y) (month : RunOf digit 2 m) : DateForm digit (y ++ '-' :: m)
  | day {y m d : List Char} (year : RunOf digit 4 y) (month : RunOf digit 2 m) (day : RunOf digit 2 d) :
      DateForm digit (y ++ '-' :: m ++ '-' :: d)

theorem RunOf.imp {p q : Char → Bool} {width : Nat} {s : List Char} (h : RunOf p width s)
    (digits : ∀ c ∈ s, p c = true → q c = true) : RunOf q width s :=
  ⟨h.length, fun c member => digits c member (h.digits c member)⟩

theorem DateForm.imp {p q : Char → Bool} {s : List Char} (h : DateForm p s)
    (digits : ∀ c ∈ s, p c = true → q c = true) : DateForm q s := by
  cases h with
  | year year => exact .year (year.imp digits)
  | month year month =>
    simp only [List.forall_mem_append, List.forall_mem_cons] at digits
    exact .month (year.imp digits.1) (month.imp digits.2.2)
  | day year month day =>
    simp only [List.forall_mem_append, List.forall_mem_cons] at digits
    exact .day (year.imp digits.1.1) (month.imp digits.1.2.2) (day.imp digits.2.2)

theorem DateForm.of_mem {p : Char → Bool} {s : List Char} (h : DateForm p s) {c : Char} (member : c ∈ s) :
    p c = true ∨ c = '-' := by
  cases h with
  | year year => exact .inl (year.digits c member)
  | month year month =>
    rw [List.mem_append, List.mem_cons] at member
    rcases member with member | rfl | member
    · exact .inl (year.digits c member)
    · exact .inr rfl
    · exact .inl (month.digits c member)
  | day year month day =>
    simp only [List.mem_append, List.mem_cons] at member
    rcases member with (member | rfl | member) | rfl | member
    · exact .inl (year.digits c member)
    · exact .inr rfl
    · exact .inl (month.digits c member)
    · exact .inr rfl
    · exact .inl (day.digits c member)

theorem isDigit_of_isDecimalDigit {c : Char} (ascii : c.toNat < 128) (h : isDecimalDigit c = true) :
    c.isDigit = true := by
  rwa [isDecimalDigit, if_pos ascii] at h

theorem toNat_lt_of_isDigit {c : Char} (h : c.isDigit = true) : c.toNat < 128 := by
  have range := toNat_of_isDigit h
  omega

theorem DateForm.isDigit_iff {s : List Char} (h : DateForm isDecimalDigit s) :
    DateForm Char.isDigit s ↔ ∀ c ∈ s, c.toNat < 128 := by
  constructor
  · intro form c member
    rcases form.of_mem member with digit | rfl
    · exact toNat_lt_of_isDigit digit
    · decide
  · intro ascii
    exact h.imp fun c member => isDigit_of_isDecimalDigit (ascii c member)

namespace FieldName

theorem isDatePart_iff {s : List Char} : isDatePart s = true ↔ ∃ part, s = '-' :: part ∧ RunOf isDecimalDigit 2 part := by
  constructor
  · intro h
    unfold isDatePart at h
    split at h
    · rename_i a b
      simp only [Bool.and_eq_true] at h
      exact ⟨[a, b], rfl, rfl, by simp [h]⟩
    · cases h
  · rintro ⟨part, rfl, two, digits⟩
    obtain ⟨a, b, rfl⟩ := List.length_eq_two.1 two
    simp [isDatePart, digits]

theorem isDate_append {y rest : List Char} (year : RunOf isDecimalDigit 4 y) :
    isDate (y ++ rest) =
      (rest.isEmpty || (isDatePart (rest.take 3) && (rest.length == 3 || isDatePart (rest.drop 3)))) := by
  have front : (y ++ rest).take 4 = y := List.take_left' year.length
  have back : (y ++ rest).drop 4 = rest := List.drop_left' year.length
  have digits : y.all isDecimalDigit = true := List.all_eq_true.2 year.digits
  simp [isDate, front, back, digits, year.length]

theorem isDate_iff {s : List Char} : isDate s = true ↔ DateForm isDecimalDigit s := by
  constructor
  · intro h
    have year : RunOf isDecimalDigit 4 (s.take 4) := by
      simp only [isDate, Bool.and_eq_true, beq_iff_eq, List.all_eq_true] at h
      exact ⟨h.1.1, h.1.2⟩
    obtain ⟨y, rest, rfl, same⟩ : ∃ y rest, s = y ++ rest ∧ s.take 4 = y :=
      ⟨_, _, (List.take_append_drop 4 s).symm, rfl⟩
    rw [same] at year
    rw [isDate_append year] at h
    simp only [Bool.or_eq_true, Bool.and_eq_true, beq_iff_eq, List.isEmpty_iff, isDatePart_iff] at h
    rcases h with rfl | ⟨⟨m, front, month⟩, three | ⟨d, back, day⟩⟩
    · rw [List.append_nil]
      exact .year year
    · rw [List.take_of_length_le (Nat.le_of_eq three)] at front
      rw [front]
      exact .month year month
    · rw [← List.take_append_drop 3 rest, front, back, ← List.append_assoc]
      exact .day year month day
  · intro h
    cases h with
    | year year =>
      rw [← List.append_nil s, isDate_append year]
      rfl
    | @month y m year month =>
      have whole : ('-' :: m).take 3 = '-' :: m := List.take_of_length_le (by simp [month.length])
      rw [isDate_append year, whole, isDatePart_iff.2 ⟨m, rfl, month⟩]
      simp [month.length]
    | @day y m d year month day =>
      have three : ('-' :: m).length = 3 := by simp [month.length]
      have front : ('-' :: m ++ '-' :: d).take 3 = '-' :: m := List.take_left' three
      have back : ('-' :: m ++ '-' :: d).drop 3 = '-' :: d := List.drop_left' three
      have part := isDatePart_iff.2 ⟨m, rfl, month⟩
      have last_part := isDatePart_iff.2 ⟨d, rfl, day⟩
      rw [List.append_assoc, isDate_append year, front, back, part, last_part]
      simp

end FieldName
end WebCitation
