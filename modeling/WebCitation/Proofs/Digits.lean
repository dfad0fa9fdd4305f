import WebCitation.Date.Calendar
import WebCitation.Text.Alphabetic
import WebCitation.Text.Blank
import WebCitation.Text.Digit
import WebCitation.Text.Lowercase

/-! ASCII digits: what they are among the other characters, and the numbers that they write. -/
namespace WebCitation

namespace Text

theorem toNat_of_isDigit {c : Char} (h : c.isDigit = true) : 48 ≤ c.toNat ∧ c.toNat ≤ 57 :=
  Char.isDigit_iff_toNat.1 h

theorem isDecimalDigit_of_isDigit {c : Char} (h : c.isDigit = true) : isDecimalDigit c = true := by
  have range := toNat_of_isDigit h
  rw [isDecimalDigit, if_pos (by omega), h]

theorem isAlphanumeric_of_isDigit {c : Char} (h : c.isDigit = true) : isAlphanumeric c = true := by
  have range := toNat_of_isDigit h
  rw [isAlphanumeric, if_pos (by omega), Char.isAlphanum, h, Bool.or_true]

theorem isBlank_of_isDigit {c : Char} (h : c.isDigit = true) : isBlank c = false := by
  have range := toNat_of_isDigit h
  simp [isBlank]
  omega

def blankCodes : List Nat :=
  [0x9, 0xA, 0xB, 0xC, 0xD, 0x20, 0x85, 0xA0, 0x1680, 0x2000, 0x2001, 0x2002, 0x2003, 0x2004, 0x2005, 0x2006, 0x2007,
    0x2008, 0x2009, 0x200A, 0x2028, 0x2029, 0x202F, 0x205F, 0x3000]

theorem toNat_mem_blankCodes {c : Char} (h : isBlank c = true) : c.toNat ∈ blankCodes := by
  simp [isBlank] at h
  simp [blankCodes]
  omega

theorem isDecimalDigit_of_isBlank {c : Char} (h : isBlank c = true) : isDecimalDigit c = false := by
  have codes : ∀ n ∈ blankCodes, isDecimalDigit (Char.ofNat n) = false := by decide
  have code := codes c.toNat (toNat_mem_blankCodes h)
  rwa [Char.ofNat_toNat] at code

theorem lowerChar_of_isDigit {c : Char} (h : c.isDigit = true) : lowerChar c = [c] := by
  have range := toNat_of_isDigit h
  have lower : c.toLower = c := by
    apply dif_neg
    rintro ⟨upper, -⟩
    have := UInt32.le_iff_toNat_le.1 upper
    change 65 ≤ c.toNat at this
    omega
  rw [lowerChar, if_pos (by omega), lower]

theorem lower_of_isDigit {s : List Char} (digits : ∀ c ∈ s, c.isDigit = true) : lower s = s := by
  induction s with
  | nil => rfl
  | cons c s ih =>
    obtain ⟨first, others⟩ := List.forall_mem_cons.1 digits
    have step : lower (c :: s) = lowerChar c ++ lower s := List.flatMap_cons
    rw [step, lowerChar_of_isDigit first, ih others]
    rfl

/-! Numbers. -/

theorem digitsValue_cons (c : Char) (s : List Char) :
    digitsValue (c :: s) = Nat.pow 10 s.length * digitValue c + digitsValue s := by
  have first : digitsValue (c :: s) = Nat.ofDigitChars 10 s (10 * 0 + digitValue c) := rfl
  rw [first, Nat.ofDigitChars_eq_ofDigitChars_zero, Nat.mul_zero, Nat.zero_add]
  rfl

theorem digitsValue_lt {s : List Char} (digits : ∀ c ∈ s, c.isDigit = true) : digitsValue s < Nat.pow 10 s.length := by
  induction s with
  | nil => exact Nat.zero_lt_one
  | cons c s ih =>
    obtain ⟨first, others⟩ := List.forall_mem_cons.1 digits
    have small : digitValue c ≤ 9 := by
      have range := toNat_of_isDigit first
      change c.toNat - 48 ≤ 9
      omega
    have high : Nat.pow 10 s.length * digitValue c ≤ Nat.pow 10 s.length * 9 := Nat.mul_le_mul_left _ small
    have low := ih others
    have step : Nat.pow 10 (c :: s).length = Nat.pow 10 s.length * 10 := rfl
    rw [digitsValue_cons, step]
    omega

theorem readNat?_eq_some_iff {s : List Char} {n : Nat} :
    readNat? s = some n ↔ s ≠ [] ∧ (∀ c ∈ s, c.isDigit = true) ∧ digitsValue s = n := by
  simp [readNat?, and_assoc]

structure IsNumber (width : Nat) (s : List Char) : Prop where
  length : s.length = width
  digits : ∀ c ∈ s, c.isDigit = true

theorem IsNumber.readNat? {width : Nat} {s : List Char} (h : IsNumber width s) (wide : 0 < width) :
    readNat? s = some (digitsValue s) := by
  have nonempty : s ≠ [] := by
    rintro rfl
    have := h.length
    simp at this
    omega
  exact readNat?_eq_some_iff.2 ⟨nonempty, h.digits, rfl⟩

end Text

namespace Calendar

theorem length_padded {width n : Nat} (wide : 0 < width) (h : n < Nat.pow 10 width) : (padded width n).length = width := by
  have short := (Nat.length_toDigits_le_iff (b := 10) (by decide) wide).2 h
  rw [padded, List.length_append, List.length_replicate]
  omega

theorem isDigit_of_mem_padded {width n : Nat} {c : Char} (h : c ∈ padded width n) : c.isDigit = true := by
  rcases List.mem_append.1 h with zero | digit
  · rw [(List.mem_replicate.1 zero).2]
    decide
  · exact Nat.isDigit_of_mem_toDigits (by decide) (by decide) digit

theorem digitsValue_padded (width n : Nat) : Text.digitsValue (padded width n) = n := by
  have value : Text.digitsValue (padded width n) = Nat.ofDigitChars 10 (padded width n) 0 := rfl
  rw [value, padded, Nat.ofDigitChars_append, Nat.ofDigitChars_replicate_zero, Nat.mul_zero, Nat.ofDigitChars_ten_toDigits]

theorem isNumber_padded {width n : Nat} (wide : 0 < width) (h : n < Nat.pow 10 width) :
    Text.IsNumber width (padded width n) :=
  ⟨length_padded wide h, fun _ => isDigit_of_mem_padded⟩

end Calendar

end WebCitation
