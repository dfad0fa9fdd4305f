import WebCitation.Proofs.IsoDays
import WebCitation.Text.Ascii

/-! The case of ASCII letters in the texts of dates: where it matters to what is read, and where it does not. -/
namespace WebCitation

namespace Text

theorem isDecimalDigit_toLower (c : Char) : isDecimalDigit c.toLower = isDecimalDigit c := apply_toLower (by decide) c

theorem isBlank_toLower (c : Char) : isBlank c.toLower = isBlank c := apply_toLower (by decide) c

theorem isWordChar_toLower (c : Char) : isWordChar c.toLower = isWordChar c := apply_toLower (by decide) c

theorem lowerChar_toLower (c : Char) : lowerChar c.toLower = lowerChar c := apply_toLower (by decide) c

theorem lower_asciiLower (s : List Char) : lower (asciiLower s) = lower s := by
  simp [lower, asciiLower, List.flatMap_map, lowerChar_toLower]

theorem trimStart_asciiLower (s : List Char) : trimStart (asciiLower s) = asciiLower (trimStart s) := by
  have same : isBlank ∘ Char.toLower = isBlank := funext isBlank_toLower
  rw [trimStart, asciiLower, List.dropWhile_map, same]
  rfl

theorem trimEnd_asciiLower (s : List Char) : trimEnd (asciiLower s) = asciiLower (trimEnd s) := by
  induction s with
  | nil => rfl
  | cons c s ih =>
    rw [asciiLower_cons, trimEnd, trimEnd, ih, isBlank_toLower]
    cases trimEnd s with
    | nil => cases isBlank c <;> rfl
    | cons d t => rfl

theorem trim_asciiLower (s : List Char) : trim (asciiLower s) = asciiLower (trim s) := by
  rw [trim, trimStart_asciiLower, trimEnd_asciiLower, trim]

end Text

open Text

namespace TimeOfDay

/-! A time of day is found at the same place of a text in lower case. -/

theorem twoDigits?_asciiLower (s : List Char) : twoDigits? (asciiLower s) = (twoDigits? s).map asciiLower := by
  match s with
  | [] => rfl
  | [a] => rfl
  | a :: b :: s =>
    simp only [asciiLower_cons, twoDigits?, isDecimalDigit_toLower]
    split <;> rfl

theorem minutes?_cons (c : Char) (s : List Char) : minutes? (c :: s) = if c = ':' then twoDigits? s else none := by
  unfold minutes?
  split <;> simp_all

theorem minutes?_asciiLower (s : List Char) : minutes? (asciiLower s) = (minutes? s).map asciiLower := by
  cases s with
  | nil => rfl
  | cons c s =>
    rw [asciiLower_cons, minutes?_cons, minutes?_cons, twoDigits?_asciiLower]
    simp only [toLower_eq_iff (d := ':') (by decide)]
    split <;> rfl

theorem clock?_asciiLower (s : List Char) : clock? (asciiLower s) = (clock? s).map asciiLower := by
  match s with
  | [] => rfl
  | [a] =>
    simp only [asciiLower_cons, asciiLower_nil, clock?, isDecimalDigit_toLower]
    split <;> rfl
  | a :: b :: s =>
    have rest := minutes?_asciiLower (b :: s)
    simp only [asciiLower_cons] at rest
    simp only [asciiLower_cons, clock?, isDecimalDigit_toLower, minutes?_asciiLower, rest]
    split
    · split <;> rfl
    · rfl

theorem fraction?_singleton (c : Char) : fraction? [c] = none := by
  unfold fraction?
  split <;> simp_all

theorem fraction?_cons_cons (c d : Char) (s : List Char) :
    fraction? (c :: d :: s) =
      if c = '.' then if isDecimalDigit d then some (s.dropWhile isDecimalDigit) else none else none := by
  unfold fraction?
  split <;> simp_all

theorem fraction?_asciiLower (s : List Char) : fraction? (asciiLower s) = (fraction? s).map asciiLower := by
  match s with
  | [] => rfl
  | [c] => rw [asciiLower_cons, asciiLower_nil, fraction?_singleton, fraction?_singleton, Option.map_none]
  | c :: d :: s =>
    have same : isDecimalDigit ∘ Char.toLower = isDecimalDigit := funext isDecimalDigit_toLower
    rw [asciiLower_cons, asciiLower_cons, fraction?_cons_cons, fraction?_cons_cons, asciiLower, List.dropWhile_map, same]
    simp only [toLower_eq_iff (d := '.') (by decide), isDecimalDigit_toLower]
    split <;> try split
    all_goals rfl

theorem dropDot_cons (c : Char) (s : List Char) : dropDot (c :: s) = if c = '.' then s else c :: s := by
  unfold dropDot
  split <;> simp_all

theorem dropDot_asciiLower (s : List Char) : dropDot (asciiLower s) = asciiLower (dropDot s) := by
  cases s with
  | nil => rfl
  | cons c s =>
    rw [asciiLower_cons, dropDot_cons, dropDot_cons]
    simp only [toLower_eq_iff (d := '.') (by decide)]
    split <;> rfl

theorem halfDay?_asciiLower (s : List Char) : halfDay? (asciiLower s) = (halfDay? s).map asciiLower := by
  cases s with
  | nil => rfl
  | cons c s =>
    simp only [asciiLower_cons, halfDay?, toLower_toLower, dropDot_asciiLower]
    split
    · cases dropDot s with
      | nil => rfl
      | cons m s =>
        simp only [asciiLower_cons, toLower_toLower, dropDot_asciiLower]
        split <;> rfl
    · rfl

def offsetMinutes? : List Char → Option (List Char)
  | ':' :: s => twoDigits? s
  | s => twoDigits? s

theorem offsetMinutes?_cons (c : Char) (s : List Char) :
    offsetMinutes? (c :: s) = if c = ':' then twoDigits? s else twoDigits? (c :: s) := by
  unfold offsetMinutes?
  split <;> simp_all

theorem offsetMinutes?_asciiLower (s : List Char) :
    offsetMinutes? (asciiLower s) = (offsetMinutes? s).map asciiLower := by
  cases s with
  | nil => rfl
  | cons c s =>
    have whole := twoDigits?_asciiLower (c :: s)
    rw [asciiLower_cons] at whole
    rw [asciiLower_cons, offsetMinutes?_cons, offsetMinutes?_cons, twoDigits?_asciiLower, whole]
    simp only [toLower_eq_iff (d := ':') (by decide)]
    split <;> rfl

theorem offset?_eq (s : List Char) :
    offset? s =
      match trimStart s with
      | c :: s => if c = '+' ∨ c = '-' then (twoDigits? s).bind offsetMinutes? else none
      | [] => none := rfl

theorem offset?_asciiLower (s : List Char) : offset? (asciiLower s) = (offset? s).map asciiLower := by
  rw [offset?_eq, offset?_eq, trimStart_asciiLower]
  cases trimStart s with
  | nil => rfl
  | cons c s =>
    simp only [asciiLower_cons, toLower_eq_iff (d := '+') (by decide), toLower_eq_iff (d := '-') (by decide),
      twoDigits?_asciiLower]
    split
    · cases twoDigits? s with
      | none => rfl
      | some s => exact offsetMinutes?_asciiLower s
    · rfl

theorem optional_asciiLower {part? : List Char → Option (List Char)}
    (same : ∀ s, part? (asciiLower s) = (part? s).map asciiLower) (s : List Char) :
    optional part? (asciiLower s) = asciiLower (optional part? s) := by
  rw [optional, optional, same]
  cases part? s <;> rfl

theorem rest?_asciiLower (s : List Char) : rest? (asciiLower s) = (rest? s).map asciiLower := by
  simp only [rest?, clock?_asciiLower]
  cases clock? s with
  | none => rfl
  | some s =>
    simp [optional_asciiLower minutes?_asciiLower, optional_asciiLower fraction?_asciiLower, trimStart_asciiLower,
      optional_asciiLower halfDay?_asciiLower, optional_asciiLower offset?_asciiLower]

theorem blankOutFrom_asciiLower (skip : Nat) (inWord : Bool) (s : List Char) :
    blankOutFrom skip inWord (asciiLower s) = asciiLower (blankOutFrom skip inWord s) := by
  induction s generalizing skip inWord with
  | nil => rfl
  | cons c s ih =>
    cases skip with
    | succ skip => simp only [asciiLower_cons, blankOutFrom, isWordChar_toLower, ih]
    | zero =>
      have found := rest?_asciiLower (c :: s)
      rw [asciiLower_cons] at found
      simp only [asciiLower_cons, blankOutFrom, isWordChar_toLower, found]
      cases inWord with
      | true => simp [ih]
      | false =>
        cases rest? (c :: s) with
        | none => simp [ih]
        | some rest =>
          have space : ' '.toLower = ' ' := by decide
          simp [ih, space, length_asciiLower]

/-! No time of day begins in front of a character that is neither a digit nor a colon. -/

theorem exists_colon_of_clock? {s rest : List Char} (h : clock? s = some rest) :
    ∃ digits s', s = digits ++ ':' :: s' ∧ ∀ c ∈ digits, isDecimalDigit c = true := by
  have colon {c : Char} {s rest : List Char} (h : minutes? (c :: s) = some rest) : c = ':' := by
    rw [minutes?_cons] at h
    split at h
    · assumption
    · cases h
  unfold clock? at h
  split at h
  · rename_i a s
    split at h
    · rename_i digit
      split at h
      · rename_i b s
        split at h
        · rename_i digit'
          cases s with
          | nil => cases h
          | cons c s =>
            cases colon h
            exact ⟨[a, b], s, rfl, by simp [digit, digit']⟩
        · cases colon h
          exact ⟨[a], s, rfl, by simp [digit]⟩
      · cases h
    · cases h
  · cases h

theorem rest?_of_stop {front s : List Char} {c : Char} (absent : ':' ∉ front) (stop : isDecimalDigit c = false)
    (other : c ≠ ':') : rest? (front ++ c :: s) = none := by
  have clock : clock? (front ++ c :: s) = none := by
    rw [Option.eq_none_iff_forall_ne_some]
    intro rest h
    obtain ⟨digits, s', whole, all⟩ := exists_colon_of_clock? h
    rcases List.append_eq_append_iff.1 whole with ⟨u, rfl, tail⟩ | ⟨u, rfl, tail⟩
    · cases u with
      | nil => exact other (List.cons.inj tail).1
      | cons d u =>
        cases (List.cons.inj tail).1
        have := all c (by simp)
        simp [stop] at this
    · cases u with
      | nil => exact other (List.cons.inj tail).1.symm
      | cons d u =>
        cases (List.cons.inj tail).1
        exact absent (by simp)
  simp [rest?, clock]

theorem blankOutFrom_of_stop {front : List Char} {c : Char} (absent : ':' ∉ front) (stop : isDecimalDigit c = false)
    (other : c ≠ ':') (s : List Char) (inWord : Bool) :
    blankOutFrom 0 inWord (front ++ c :: s) = front ++ c :: blankOutFrom 0 (isWordChar c) s := by
  induction front generalizing inWord with
  | nil =>
    have here : rest? ([] ++ c :: s) = none := rest?_of_stop nofun stop other
    rw [List.nil_append] at here
    simp [blankOutFrom, here]
  | cons d front ih =>
    have here : rest? (d :: (front ++ c :: s)) = none := rest?_of_stop absent stop other
    have later : ':' ∉ front := fun member => absent (List.mem_cons_of_mem d member)
    simp [blankOutFrom, here, ih later]

end TimeOfDay

namespace DateReader

theorem wordsOf_asciiLower (s : List Char) : wordsOf (asciiLower s) = wordsOf s := by
  rw [wordsOf, TimeOfDay.blankOut, TimeOfDay.blankOutFrom_asciiLower, lower_asciiLower]
  rfl

theorem wordsOf_congr {s t : List Char} (same : asciiLower s = asciiLower t) : wordsOf s = wordsOf t := by
  rw [← wordsOf_asciiLower s, same, wordsOf_asciiLower]

theorem toLower_eq_self {c : Char} (h : isDecimalDigit c = true ∨ c = '-') : c.toLower = c := by
  rcases capital_or c with ⟨n, small, rfl⟩ | same
  · have letters : ∀ n < 26, ¬ (isDecimalDigit (Char.ofNat (65 + n)) = true ∨ Char.ofNat (65 + n) = '-') := by decide
    exact absurd h (letters n small)
  · exact same

theorem toLower_eq_t {c : Char} (h : c.toLower = 't') : c = 'T' ∨ c = 't' := by
  rcases capital_or c with ⟨n, small, rfl⟩ | same
  · have letters : ∀ n < 26, (Char.ofNat (65 + n)).toLower = 't' → Char.ofNat (65 + n) = 'T' := by decide
    exact .inl (letters n small h)
  · exact .inr (same.symm.trans h)

theorem IsoParts.Formed.of_mem_text {p : IsoParts} (h : p.Formed) {c : Char} (member : c ∈ p.text) :
    isDecimalDigit c = true ∨ c = '-' := by
  have year := h.year.digits c
  have month := h.month.digits c
  have day : ∀ d, p.day = some d → c ∈ d → isDecimalDigit c = true := fun d written => (h.day d written).digits c
  cases written : p.day <;> simp [IsoParts.text, written] at member <;> grind

theorem IsoParts.Formed.exists_append {p : IsoParts} (h : p.Formed) {rest t : List Char}
    (same : asciiLower (p.text ++ rest) = asciiLower t) :
    ∃ rest', t = p.text ++ rest' ∧ asciiLower rest = asciiLower rest' := by
  rw [asciiLower_append] at same
  obtain ⟨front, rest', rfl, lower, lower_rest⟩ := List.map_eq_append_iff.1 same.symm
  have plain : asciiLower p.text = p.text := by
    rw [asciiLower, List.map_congr_left fun c member => toLower_eq_self (h.of_mem_text member)]
    exact List.map_id _
  rw [plain] at lower
  have fixed : ∀ c ∈ front, c.toLower = c := by
    intro c member
    have inside : c.toLower ∈ p.text := lower ▸ List.mem_map_of_mem member
    have digit := h.of_mem_text inside
    rw [isDecimalDigit_toLower, toLower_eq_iff (by decide)] at digit
    exact toLower_eq_self digit
  rw [List.map_congr_left fixed, List.map_id'] at lower
  exact ⟨rest', by rw [lower], lower_rest.symm⟩

theorem isIsoTail_or {rest rest' : List Char} (same : asciiLower rest = asciiLower rest') (h : isIsoTail rest = true) :
    isIsoTail rest' = true ∨ (∃ u, rest = 'T' :: u) ∧ ∃ u, rest' = 't' :: u := by
  cases rest with
  | nil =>
    cases rest' with
    | nil => exact .inl rfl
    | cons c rest' => cases same
  | cons c rest =>
    cases rest' with
    | nil => cases same
    | cons c' rest' =>
      obtain ⟨first, others⟩ := List.cons.inj same
      simp only [isIsoTail, Bool.and_eq_true, Bool.or_eq_true, beq_iff_eq, Bool.not_eq_true',
        List.contains_eq_mem, decide_eq_false_iff_not] at h ⊢
      have line : '\n' ∉ rest' := fun member => h.2 (mem_of_asciiLower (by decide) others.symm member)
      rcases h.1 with rfl | rfl
      · rcases toLower_eq_t (c := c') first.symm with rfl | rfl
        · exact .inl ⟨.inl rfl, line⟩
        · exact .inr ⟨⟨_, rfl⟩, _, rfl⟩
      · have space : c' = ' ' := (toLower_eq_iff (by decide)).1 first.symm
        exact .inl ⟨.inr space, line⟩

/-- Two texts with the same parts of a date, which `T` sets off from a time in the first and `t` from what follows in
the second. -/
structure IsoParts.SetOff (p : IsoParts) (s t : List Char) : Prop where
  heads : p.Heads s
  capital : ∃ rest, s = p.text ++ 'T' :: rest
  small : ∃ rest, t = p.text ++ 't' :: rest

theorem IsoParts.Heads.or_setOff {p : IsoParts} {s t : List Char} (h : p.Heads s)
    (same : asciiLower s = asciiLower t) : p.Heads t ∨ p.SetOff s t := by
  obtain ⟨rest, rfl, tail⟩ := h.time
  obtain ⟨rest', rfl, others⟩ := h.formed.exists_append same
  rcases isIsoTail_or others tail with tail' | ⟨⟨u, rfl⟩, u', rfl⟩
  · exact .inl ⟨h.formed, rest', rfl, tail'⟩
  · exact .inr ⟨h, ⟨u, rfl⟩, u', rfl⟩

theorem read?_eq_or_setOff (locale : Locale) {s t : List Char} (same : asciiLower s = asciiLower t) :
    read? locale s = read? locale t ∨ (∃ p : IsoParts, p.SetOff (trim s) (trim t)) ∨
      ∃ p : IsoParts, p.SetOff (trim t) (trim s) := by
  have trimmed : asciiLower (trim s) = asciiLower (trim t) := by
    rw [← trim_asciiLower, same, trim_asciiLower]
  by_cases free_s : IsFreeForm (trim s)
  · by_cases free_t : IsFreeForm (trim t)
    · exact .inl (by rw [read?_of_isFreeForm free_s, read?_of_isFreeForm free_t, wordsOf_congr trimmed])
    · obtain ⟨p, heads⟩ := exists_heads_of_not_isFreeForm free_t
      rcases heads.or_setOff trimmed.symm with heads' | setOff
      · exact absurd heads' (free_s p)
      · exact .inr (.inr ⟨p, setOff⟩)
  · obtain ⟨p, heads⟩ := exists_heads_of_not_isFreeForm free_s
    rcases heads.or_setOff trimmed with heads' | setOff
    · exact .inl (by rw [read?_of_heads heads, read?_of_heads heads'])
    · exact .inr (.inl ⟨p, setOff⟩)

/-! A small `t` after the parts of a date belongs to the last word of these. -/

def IsoParts.last (p : IsoParts) : List Char := p.day.getD p.month

theorem IsoParts.Formed.last {p : IsoParts} (h : p.Formed) : DigitsOf 1 2 p.last := by
  unfold IsoParts.last
  cases written : p.day with
  | none => exact h.month
  | some d => exact h.day d written

theorem IsoParts.exists_text_eq (p : IsoParts) : ∃ front, p.text = front ++ '-' :: p.last := by
  cases written : p.day with
  | none => exact ⟨p.year, by simp [text, last, written]⟩
  | some d => exact ⟨p.year ++ '-' :: p.month, by simp [text, last, written]⟩

theorem head?_lower_blankOutFrom (s : List Char) :
    (lower (TimeOfDay.blankOutFrom 0 true s)).head? = (lower s).head? := by
  cases s with
  | nil => rfl
  | cons c s =>
    obtain ⟨d, others, made⟩ : ∃ d others, lowerChar c = d :: others := by
      unfold lowerChar
      split
      · exact ⟨_, _, rfl⟩
      · split <;> exact ⟨_, _, rfl⟩
    simp [TimeOfDay.blankOutFrom, lower, made]

theorem eq_of_isOrdinalSuffix {w : List Char} (h : isOrdinalSuffix ('t' :: w) = true) : w = ['h'] := by
  have suffix : ['h'] = w := by simpa [isOrdinalSuffix, ordinalSuffixes] using h
  exact suffix.symm

theorem token?_of_small {locale : Locale} {last w : List Char} (nonempty : last ≠ []) (ascii : InAscii last)
    (other : w.head? ≠ some 'h') : token? locale (last ++ 't' :: w) = none := by
  have letter : Char.isDigit 't' = false := by decide
  have cut : (last ++ 't' :: w).span Char.isDigit = (last, 't' :: w) :=
    span_eq_iff.2 ⟨rfl, ascii, fun c first => Option.some.inj first ▸ letter⟩
  have suffix : isOrdinalSuffix ('t' :: w) = false := by
    refine Bool.eq_false_iff.2 fun h => other ?_
    rw [eq_of_isOrdinalSuffix h]
    rfl
  rw [token?, cut]
  simp [nonempty, suffix]

theorem exists_word_of_small {p : IsoParts} (formed : p.Formed) (ascii : InAscii p.last) (rest : List Char) :
    ∃ w, p.last ++ 't' :: w ∈ wordsOf (p.text ++ 't' :: rest) ∧ ∀ c, w.head? = some c → (lower rest).head? = some c := by
  obtain ⟨front, whole⟩ := p.exists_text_eq
  have absent : ':' ∉ p.text := by
    intro member
    rcases formed.of_mem_text member with digit | hyphen
    · exact absurd digit (by decide)
    · exact absurd hyphen (by decide)
  have blanked : TimeOfDay.blankOut (p.text ++ 't' :: rest) = p.text ++ 't' :: TimeOfDay.blankOutFrom 0 true rest :=
    TimeOfDay.blankOutFrom_of_stop absent (by decide) (by decide) rest false
  have letters : lower (p.text ++ 't' :: TimeOfDay.blankOutFrom 0 true rest) =
      lower front ++ '-' :: (p.last ++ 't' :: lower (TimeOfDay.blankOutFrom 0 true rest)) := by
    have hyphen : lowerChar '-' = ['-'] := by decide
    have small : lowerChar 't' = ['t'] := by decide
    have last : List.flatMap lowerChar p.last = p.last := lower_of_isDigit ascii
    simp [whole, lower, hyphen, small, last]
  have alphanumeric : ∀ c ∈ p.last ++ ['t'], isAlphanumeric c = true := by
    intro c member
    rcases List.mem_append.1 member with digit | letter
    · exact isAlphanumeric_of_isDigit (ascii c digit)
    · rw [List.mem_singleton.1 letter]
      decide
  refine ⟨(lower (TimeOfDay.blankOutFrom 0 true rest)).takeWhile isAlphanumeric, ?_, ?_⟩
  · have piece := head?_splitWhere (fun c => !isAlphanumeric c)
      ((p.last ++ ['t']) ++ lower (TimeOfDay.blankOutFrom 0 true rest))
    simp only [Bool.not_not] at piece
    rw [List.takeWhile_append_of_pos alphanumeric, splitWhere_eq_splitOnP] at piece
    have sep : (!isAlphanumeric '-') = true := by decide
    rw [wordsOf, blanked, letters, splitWhere_eq_splitOnP,
      List.splitOnP_append_cons (p := fun c => !isAlphanumeric c) _ _ sep, List.mem_filter]
    refine ⟨List.mem_append_right _ ?_, by simp⟩
    simpa using List.mem_of_head? piece
  · intro c first
    rw [← head?_lower_blankOutFrom]
    cases below : lower (TimeOfDay.blankOutFrom 0 true rest) with
    | nil => simp [below] at first
    | cons d u =>
      rw [below] at first
      by_cases kept : isAlphanumeric d = true
      · simpa [kept] using first
      · simp [kept] at first

theorem IsoParts.Formed.isFreeForm_small {p : IsoParts} (h : p.Formed) (rest : List Char) :
    IsFreeForm (p.text ++ 't' :: rest) := by
  rw [← isoParts?_eq_none_iff]
  refine (h.isoParts?_append fun c first => ?_).trans (if_neg (by simp [isIsoTail]))
  cases first
  decide

theorem read?_of_small {locale : Locale} {s : List Char} {p : IsoParts} (formed : p.Formed) (ascii : InAscii p.last)
    {rest : List Char} (small : trim s = p.text ++ 't' :: rest) (other : (lower rest).head? ≠ some 'h') :
    read? locale s = none := by
  have free : IsFreeForm (trim s) := small ▸ formed.isFreeForm_small rest
  obtain ⟨w, member, first⟩ := exists_word_of_small formed ascii rest
  have nonempty : p.last ≠ [] := formed.last.ne_nil (Nat.le_refl 1)
  have unknown : token? locale (p.last ++ 't' :: w) = none :=
    token?_of_small nonempty ascii fun h => other (first 'h' h)
  rw [read?_of_isFreeForm free, small, mapM_eq_none_of_mem member unknown]
  rfl

end DateReader

open DateReader

/-- The case of letters does not matter to the date that is read of a text, unless a `T` sets off a time from a date in
the ISO form. A small `t` does not set it off: it joins the last digits of the date, and unless an `h` follows that makes
an ordinal of them, no date is read. -/
theorem letter_case_matters_only_before_time (locale : Locale) {s t : String} (same : s.asciiLower = t.asciiLower) :
    (parse? locale s = parse? locale t ∨ (∃ p : IsoParts, p.SetOff (trim s.toList) (trim t.toList)) ∨
      ∃ p : IsoParts, p.SetOff (trim t.toList) (trim s.toList)) ∧
      ∀ p : IsoParts, p.SetOff (trim s.toList) (trim t.toList) →
        parse? locale s = (ofIsoParts p).map (fun d => String.ofList d.text) ∧
          (InAscii p.last →
            (∀ rest, trim t.toList = p.text ++ 't' :: rest → (lower rest).head? ≠ some 'h') →
            parse? locale t = none) := by
  have letters : asciiLower s.toList = asciiLower t.toList := by
    simpa [String.asciiLower] using congrArg String.toList same
  refine ⟨?_, fun p setOff => ⟨?_, fun ascii other => ?_⟩⟩
  · rcases read?_eq_or_setOff locale letters with read | setOff
    · exact .inl (by rw [parse?, parse?, read])
    · exact .inr setOff
  · rw [parse?, read?_of_heads setOff.heads]
  · obtain ⟨rest, small⟩ := setOff.small
    rw [parse?, read?_of_small setOff.heads.formed ascii small (other rest small)]
    rfl

namespace SmallT

def parts : IsoParts := ⟨"2022".toList, "01".toList, some "27".toList⟩

theorem setOff : parts.SetOff (trim "2022-01-27T10:00".toList) (trim "2022-01-27t10:00".toList) where
  heads := isoParts?_eq_some_iff_heads.1 rfl
  capital := ⟨"10:00".toList, rfl⟩
  small := ⟨"10:00".toList, rfl⟩

theorem case_of_months_and_hours :
    "SEPT. 5, 2021 10:30 am".asciiLower = "Sept. 5, 2021 10:30 AM".asciiLower ∧
      parse? .en "SEPT. 5, 2021 10:30 am" = parse? .en "Sept. 5, 2021 10:30 AM" ∧
      "2022-01-27T10:00".asciiLower = "2022-01-27t10:00".asciiLower ∧
      parse? .en "2022-01-27T10:00" = some "2022-01-27" ∧ parse? .en "2022-01-27t10:00" = none := by
  have same : "SEPT. 5, 2021 10:30 am".asciiLower = "Sept. 5, 2021 10:30 AM".asciiLower := by decide
  have same' : "2022-01-27T10:00".asciiLower = "2022-01-27t10:00".asciiLower := by decide
  have alike : parse? .en "SEPT. 5, 2021 10:30 am" = parse? .en "Sept. 5, 2021 10:30 AM" := by
    have free : isoParts? (trim "SEPT. 5, 2021 10:30 am".toList) = none := rfl
    have free' : isoParts? (trim "Sept. 5, 2021 10:30 AM".toList) = none := rfl
    rcases (letter_case_matters_only_before_time .en same).1 with read | ⟨p, setOff⟩ | ⟨p, setOff⟩
    · exact read
    · exact absurd setOff.heads (isoParts?_eq_none_iff.1 free p)
    · exact absurd setOff.heads (isoParts?_eq_none_iff.1 free' p)
  obtain ⟨capital, small⟩ := (letter_case_matters_only_before_time .en same').2 parts setOff
  refine ⟨same, alike, same', capital.trans (by decide), small (by decide) fun rest whole => ?_⟩
  have time : "10:00".toList = rest := by
    have cut : parts.text ++ 't' :: "10:00".toList = parts.text ++ 't' :: rest := whole
    simpa using cut
  rw [← time]
  decide

theorem small_t_is_not_read :
    "2022-01-27T10:00".asciiLower = "2022-01-27t10:00".asciiLower ∧
      parse? .en "2022-01-27T10:00" = some "2022-01-27" ∧ parse? .en "2022-01-27t10:00" = none := by
  decide +kernel

end SmallT
end WebCitation
