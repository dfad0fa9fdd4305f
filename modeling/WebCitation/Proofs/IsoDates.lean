import WebCitation.Date.Reader
import WebCitation.Proofs.Digits
import WebCitation.Proofs.Pieces

/-! The ISO form of a date, as its texts say it: which texts are of the form, and of which parts. -/
namespace WebCitation.DateReader

open Text

/-- So many decimal digits of any script. -/
structure DigitsOf (low high : Nat) (s : List Char) : Prop where
  digits : ∀ c ∈ s, isDecimalDigit c = true
  least : low ≤ s.length
  most : s.length ≤ high

theorem DigitsOf.of_isNumber {low high width : Nat} {s : List Char} (h : IsNumber width s) (least : low ≤ width)
    (most : width ≤ high) : DigitsOf low high s := by
  have length := h.length
  exact ⟨fun c member => isDecimalDigit_of_isDigit (h.digits c member), by omega, by omega⟩

theorem DigitsOf.ne_nil {low high : Nat} {s : List Char} (h : DigitsOf low high s) (least : 1 ≤ low) : s ≠ [] := by
  rintro rfl
  have := h.least
  simp at this
  omega

structure IsoParts.Formed (p : IsoParts) : Prop where
  year : DigitsOf 4 4 p.year
  month : DigitsOf 1 2 p.month
  day : ∀ day, p.day = some day → DigitsOf 1 2 day

def IsoParts.text (p : IsoParts) : List Char :=
  p.year ++ '-' :: p.month ++ p.day.elim [] ('-' :: ·)

theorem oneOrTwoDigits?_eq_some_iff {s digits rest : List Char} :
    oneOrTwoDigits? s = some (digits, rest) ↔
      s = digits ++ rest ∧ DigitsOf 1 2 digits ∧ ∀ c, rest.head? = some c → isDecimalDigit c = false := by
  unfold oneOrTwoDigits?
  split
  rename_i front back cut
  obtain ⟨rfl, inside, stops⟩ := span_eq_iff.1 cut
  constructor
  · intro h
    split at h
    · rename_i few
      cases h
      exact ⟨rfl, ⟨inside, few.1, few.2⟩, stops⟩
    · cases h
  · rintro ⟨same, few, stop⟩
    have again := span_eq_iff.2 ⟨same, few.digits, stop⟩
    cases cut.symm.trans again
    exact if_pos ⟨few.least, few.most⟩

theorem not_isDecimalDigit_of_isIsoTail {tail : List Char} (h : isIsoTail tail = true) {c : Char}
    (first : tail.head? = some c) : isDecimalDigit c = false ∧ c ≠ '-' := by
  cases tail with
  | nil => cases first
  | cons d tail =>
    cases first
    simp only [isIsoTail, Bool.and_eq_true, Bool.or_eq_true, beq_iff_eq] at h
    rcases h.1 with rfl | rfl <;> decide

def isoRest? (year s : List Char) : Option IsoParts := do
  let (month, s) ← oneOrTwoDigits? s
  match s with
  | '-' :: s =>
    let (day, s) ← oneOrTwoDigits? s
    if isIsoTail s then return ⟨year, month, some day⟩ else none
  | s => if isIsoTail s then return ⟨year, month, none⟩ else none

theorem isoRest?_append {p : IsoParts} (month : DigitsOf 1 2 p.month) (day : ∀ d, p.day = some d → DigitsOf 1 2 d)
    {rest : List Char} (stops : ∀ c, rest.head? = some c → isDecimalDigit c = false ∧ c ≠ '-') :
    isoRest? p.year (p.month ++ p.day.elim [] ('-' :: ·) ++ rest) = if isIsoTail rest then some p else none := by
  obtain ⟨year, month', day'⟩ := p
  have digits : ∀ c, rest.head? = some c → isDecimalDigit c = false := fun c first => (stops c first).1
  cases day' with
  | none =>
    have read : oneOrTwoDigits? (month' ++ rest) = some (month', rest) :=
      oneOrTwoDigits?_eq_some_iff.2 ⟨rfl, month, digits⟩
    simp only [isoRest?, Option.elim_none, List.append_nil, read, Option.bind_eq_bind, Option.bind_some]
    split
    · exact absurd rfl (stops '-' rfl).2
    · rfl
  | some d =>
    have hyphen : isDecimalDigit '-' = false := by decide
    have read : oneOrTwoDigits? (month' ++ '-' :: (d ++ rest)) = some (month', '-' :: (d ++ rest)) :=
      oneOrTwoDigits?_eq_some_iff.2 ⟨rfl, month, fun c first => Option.some.inj first ▸ hyphen⟩
    have read_day : oneOrTwoDigits? (d ++ rest) = some (d, rest) :=
      oneOrTwoDigits?_eq_some_iff.2 ⟨rfl, day d rfl, digits⟩
    simp [isoRest?, read, read_day]

theorem isoRest?_eq_some_iff {year s : List Char} {p : IsoParts} :
    isoRest? year s = some p ↔
      p.year = year ∧ DigitsOf 1 2 p.month ∧ (∀ d, p.day = some d → DigitsOf 1 2 d) ∧
        ∃ tail, s = p.month ++ p.day.elim [] ('-' :: ·) ++ tail ∧ isIsoTail tail = true := by
  constructor
  · unfold isoRest?
    simp only [Option.bind_eq_bind, Option.bind_eq_some_iff, Prod.exists, oneOrTwoDigits?_eq_some_iff]
    rintro ⟨month, rest, ⟨rfl, few, stops⟩, h⟩
    split at h
    · simp only [Option.bind_eq_some_iff, Prod.exists, oneOrTwoDigits?_eq_some_iff] at h
      obtain ⟨day, tail, ⟨rfl, few_day, _⟩, h⟩ := h
      split at h
      · rename_i ends
        cases h
        exact ⟨rfl, few, fun _ same => Option.some.inj same ▸ few_day, tail, by simp, ends⟩
      · cases h
    · split at h
      · rename_i ends
        cases h
        exact ⟨rfl, few, nofun, rest, by simp, ends⟩
      · cases h
  · rintro ⟨rfl, few, few_day, tail, rfl, ends⟩
    have read := isoRest?_append few few_day fun c first => not_isDecimalDigit_of_isIsoTail ends first
    rw [if_pos ends] at read
    exact read

theorem isoParts?_of_hyphen {s year rest : List Char} (cut : s.span isDecimalDigit = (year, '-' :: rest))
    (four : year.length = 4) : isoParts? s = isoRest? year rest := by
  unfold isoParts?
  rw [cut]
  simp only [four, ne_eq, not_true_eq_false, if_false]
  rfl

theorem isoParts?_eq_none {s year rest : List Char} (cut : s.span isDecimalDigit = (year, rest))
    (other : year.length = 4 → rest.head? ≠ some '-') : isoParts? s = none := by
  unfold isoParts?
  rw [cut]
  by_cases four : year.length = 4
  · simp only [four, ne_eq, not_true_eq_false, if_false]
    split
    · exact absurd rfl (other four)
    · rfl
  · exact if_pos four

theorem IsoParts.Formed.isoParts?_append {p : IsoParts} (h : p.Formed) {rest : List Char}
    (stops : ∀ c, rest.head? = some c → isDecimalDigit c = false ∧ c ≠ '-') :
    isoParts? (p.text ++ rest) = if isIsoTail rest then some p else none := by
  have hyphen : isDecimalDigit '-' = false := by decide
  have cut : (p.text ++ rest).span isDecimalDigit =
      (p.year, '-' :: (p.month ++ p.day.elim [] ('-' :: ·) ++ rest)) :=
    span_eq_iff.2 ⟨by simp [IsoParts.text], h.year.digits, fun c first => Option.some.inj first ▸ hyphen⟩
  rw [isoParts?_of_hyphen cut (Nat.le_antisymm h.year.most h.year.least)]
  exact isoRest?_append h.month h.day stops

/-- The texts of the ISO form are those that begin with well-formed parts and go on with no more than a time. -/
theorem isoParts?_eq_some_iff {s : List Char} {p : IsoParts} :
    isoParts? s = some p ↔ p.Formed ∧ ∃ tail, s = p.text ++ tail ∧ isIsoTail tail = true := by
  constructor
  · intro h
    obtain ⟨year, rest, cut⟩ : ∃ year rest, s.span isDecimalDigit = (year, rest) := ⟨_, _, rfl⟩
    by_cases form : year.length = 4 ∧ rest.head? = some '-'
    · obtain ⟨four, hyphen⟩ := form
      obtain ⟨rest, rfl⟩ := List.head?_eq_some_iff.1 hyphen
      rw [isoParts?_of_hyphen cut four] at h
      obtain ⟨rfl, month, day, tail, rfl, ends⟩ := isoRest?_eq_some_iff.1 h
      obtain ⟨rfl, digits, _⟩ := span_eq_iff.1 cut
      have year := DigitsOf.mk digits (Nat.le_of_eq four.symm) (Nat.le_of_eq four)
      exact ⟨⟨year, month, day⟩, tail, by simp [IsoParts.text], ends⟩
    · rw [isoParts?_eq_none cut fun four hyphen => form ⟨four, hyphen⟩] at h
      cases h
  · rintro ⟨formed, tail, rfl, ends⟩
    have read := formed.isoParts?_append fun c first => not_isDecimalDigit_of_isIsoTail ends first
    rw [if_pos ends] at read
    exact read

structure IsoParts.Heads (p : IsoParts) (s : List Char) : Prop where
  formed : p.Formed
  time : ∃ tail, s = p.text ++ tail ∧ isIsoTail tail = true

def IsFreeForm (s : List Char) : Prop := ∀ p : IsoParts, ¬ p.Heads s

theorem isoParts?_eq_some_iff_heads {s : List Char} {p : IsoParts} : isoParts? s = some p ↔ p.Heads s := by
  rw [isoParts?_eq_some_iff]
  exact ⟨fun h => ⟨h.1, h.2⟩, fun h => ⟨h.formed, h.time⟩⟩

theorem isoParts?_eq_none_iff {s : List Char} : isoParts? s = none ↔ IsFreeForm s := by
  simp only [Option.eq_none_iff_forall_ne_some, IsFreeForm, ne_eq, isoParts?_eq_some_iff_heads]

theorem exists_heads_of_not_isFreeForm {s : List Char} (h : ¬ IsFreeForm s) : ∃ p : IsoParts, p.Heads s := by
  simpa [IsFreeForm] using h

theorem read?_of_heads {locale : Locale} {s : List Char} {p : IsoParts} (h : p.Heads (trim s)) :
    read? locale s = ofIsoParts p := by
  have parts : isoParts? (trim s) = some p := isoParts?_eq_some_iff_heads.2 h
  rw [read?]
  simp only [parts]

theorem read?_of_isFreeForm {locale : Locale} {s : List Char} (free : IsFreeForm (trim s)) :
    read? locale s = ((wordsOf (trim s)).mapM (token? locale)).bind (ofTokens locale) := by
  have parts : isoParts? (trim s) = none := isoParts?_eq_none_iff.2 free
  rw [read?]
  simp only [parts]

end WebCitation.DateReader
