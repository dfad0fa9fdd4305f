/-! White space of every script: trimming, words, and text with its white space collapsed. -/
namespace WebCitation.Text

/-- The characters with the White_Space property. -/
def isBlank (c : Char) : Bool :=
  let n := c.toNat
  (0x9 ≤ n && n ≤ 0xD) || n == 0x20 || n == 0x85 || n == 0xA0 || n == 0x1680
    || (0x2000 ≤ n && n ≤ 0x200A) || n == 0x2028 || n == 0x2029 || n == 0x202F
    || n == 0x205F || n == 0x3000

def AllBlank (s : List Char) : Prop := ∀ c ∈ s, isBlank c = true

def trimStart (s : List Char) : List Char := s.dropWhile isBlank

theorem trimStart_eq_nil_iff {s : List Char} : trimStart s = [] ↔ AllBlank s := by
  induction s with
  | nil => simp [trimStart, AllBlank]
  | cons c s ih =>
    cases blank : isBlank c with
    | true =>
      have rest : AllBlank (c :: s) ↔ AllBlank s := by simp [AllBlank, blank]
      rw [trimStart, List.dropWhile_cons_of_pos blank, rest]
      exact ih
    | false => simp [trimStart, AllBlank, blank]

theorem trimStart_append {w : List Char} (blank : ∀ c ∈ w, isBlank c = true) (s : List Char) :
    trimStart (w ++ s) = trimStart s := by
  induction w with
  | nil => rfl
  | cons c w ih =>
    rw [List.cons_append, trimStart, List.dropWhile_cons_of_pos (blank c List.mem_cons_self)]
    exact ih fun d member => blank d (List.mem_cons_of_mem c member)

theorem trimStart_cons {c : Char} (shown : isBlank c = false) (s : List Char) : trimStart (c :: s) = c :: s := by
  rw [trimStart, List.dropWhile_cons_of_neg (by rw [shown]; decide)]

theorem head?_trimStart {c : Char} {s : List Char} (h : (trimStart s).head? = some c) : isBlank c = false := by
  have first := List.head?_dropWhile_not isBlank s
  rw [trimStart] at h
  rw [h] at first
  exact first

@[simp] def trimEnd : List Char → List Char
  | [] => []
  | c :: s =>
    match trimEnd s with
    | [] => if isBlank c then [] else [c]
    | t => c :: t

theorem trimEnd_of_blank {w : List Char} (blank : ∀ c ∈ w, isBlank c = true) : trimEnd w = [] := by
  induction w with
  | nil => rfl
  | cons c w ih =>
    rw [trimEnd, ih fun d member => blank d (List.mem_cons_of_mem c member)]
    exact if_pos (blank c List.mem_cons_self)

theorem trimEnd_eq_nil_iff {s : List Char} : trimEnd s = [] ↔ AllBlank s := by
  constructor
  · intro h
    induction s with
    | nil => exact fun c member => nomatch member
    | cons c s ih =>
      rw [trimEnd] at h
      split at h
      · rename_i rest
        split at h
        · rename_i blank
          exact List.forall_mem_cons.2 ⟨blank, ih rest⟩
        · cases h
      · cases h
  · exact trimEnd_of_blank

theorem trimEnd_append {w : List Char} (blank : ∀ c ∈ w, isBlank c = true) (s : List Char) :
    trimEnd (s ++ w) = trimEnd s := by
  induction s with
  | nil => exact trimEnd_of_blank blank
  | cons c s ih => rw [List.cons_append, trimEnd, trimEnd, ih]

theorem trimEnd_concat {c : Char} (shown : isBlank c = false) (s : List Char) :
    trimEnd (s ++ [c]) = s ++ [c] := by
  induction s with
  | nil => simp [shown]
  | cons d s ih =>
    rw [List.cons_append, trimEnd, ih]
    cases s <;> rfl

theorem mem_of_mem_trimEnd {c : Char} {s : List Char} (h : c ∈ trimEnd s) : c ∈ s := by
  induction s with
  | nil => exact h
  | cons d s ih =>
    rw [trimEnd] at h
    split at h
    · split at h
      · cases h
      · exact List.mem_cons.2 (.inl (List.mem_singleton.1 h))
    · rename_i rest
      exact List.mem_cons.2 ((List.mem_cons.1 h).imp_right ih)

theorem head?_trimEnd {c : Char} {s : List Char} (h : (trimEnd s).head? = some c) : s.head? = some c := by
  cases s with
  | nil => exact h
  | cons d s =>
    rw [trimEnd] at h
    split at h
    · split at h
      · cases h
      · exact h
    · exact h

theorem getLast?_trimEnd {c : Char} {s : List Char} (h : (trimEnd s).getLast? = some c) : isBlank c = false := by
  induction s with
  | nil => cases h
  | cons d s ih =>
    rw [trimEnd] at h
    split at h
    · split at h
      · cases h
      · rename_i shown
        cases h
        exact Bool.eq_false_iff.2 shown
    · rename_i nonempty
      rw [List.getLast?_cons_of_ne_nil nonempty] at h
      exact ih h

def trim (s : List Char) : List Char := trimEnd (trimStart s)

theorem head?_trim {c : Char} {s : List Char} (h : (trim s).head? = some c) : isBlank c = false :=
  head?_trimStart (head?_trimEnd h)

theorem trim_eq_nil_iff {s : List Char} : trim s = [] ↔ AllBlank s := by
  rw [trim, trimEnd_eq_nil_iff]
  constructor
  · intro h
    apply trimStart_eq_nil_iff.1
    cases shown : trimStart s with
    | nil => rfl
    | cons c t =>
      have first : isBlank c = false := head?_trimStart (by rw [shown]; rfl)
      rw [shown] at h
      rw [h c List.mem_cons_self] at first
      cases first
  · intro h
    rw [trimStart_eq_nil_iff.2 h]
    exact fun c member => nomatch member

theorem getLast?_trim {c : Char} {s : List Char} (h : (trim s).getLast? = some c) : isBlank c = false :=
  getLast?_trimEnd h

theorem mem_of_mem_trim {c : Char} {s : List Char} (h : c ∈ trim s) : c ∈ s :=
  (List.dropWhile_sublist isBlank).mem (mem_of_mem_trimEnd h)

theorem mem_trim_of_mem {c : Char} (shown : isBlank c = false) {s : List Char} (h : c ∈ s) : c ∈ trim s := by
  have kept_start : c ∈ trimStart s := by
    induction s with
    | nil => cases h
    | cons d s ih =>
      cases blank : isBlank d with
      | true =>
        have later : c ∈ s := by
          rcases List.mem_cons.1 h with rfl | later
          · rw [shown] at blank
            cases blank
          · exact later
        rw [trimStart, List.dropWhile_cons_of_pos blank]
        exact ih later
      | false => rwa [trimStart_cons blank]
  rw [trim]
  generalize trimStart s = t at kept_start
  induction t with
  | nil => exact kept_start
  | cons d t ih =>
    rw [trimEnd]
    rcases List.mem_cons.1 kept_start with rfl | later
    · split
      · simp [shown]
      · exact List.mem_cons_self
    · have inside := ih later
      split
      · rename_i none
        rw [none] at inside
        cases inside
      · exact List.mem_cons_of_mem d inside

def IsTrimmed (s : List Char) : Prop :=
  (∀ c, s.head? = some c → isBlank c = false) ∧ ∀ c, s.getLast? = some c → isBlank c = false

theorem isTrimmed_trim (s : List Char) : IsTrimmed (trim s) := ⟨fun _ => head?_trim, fun _ => getLast?_trim⟩

theorem trim_eq_self_iff {s : List Char} : trim s = s ↔ IsTrimmed s := by
  constructor
  · intro same
    rw [← same]
    exact isTrimmed_trim s
  · rintro ⟨first, last⟩
    cases s with
    | nil => rfl
    | cons c s =>
      have shown := last _ (List.getLast?_eq_some_getLast (List.cons_ne_nil c s))
      have kept := trimEnd_concat shown (c :: s).dropLast
      rw [trim, trimStart_cons (first c rfl)]
      rwa [List.dropLast_concat_getLast] at kept

theorem trim_of_shown {s : List Char} (shown : ∀ c ∈ s, isBlank c = false) : trim s = s :=
  trim_eq_self_iff.2 ⟨fun c first => shown c (List.mem_of_head? first), fun c last => shown c (List.mem_of_getLast? last)⟩

/-- Replaces each run of white space by one space; `after` says that a run is already open. -/
def squeeze (after : Bool) : List Char → List Char
  | [] => []
  | c :: s =>
    if isBlank c then if after then squeeze true s else ' ' :: squeeze true s
    else c :: squeeze false s

/-- No white space at the ends, and one space for each run of it inside. -/
def collapse (s : List Char) : List Char := squeeze false (trim s)

/-- The runs of other characters, where `current` is the run that is being read, backwards. -/
def wordsFrom (current : List Char) : List Char → List (List Char)
  | [] => if current.isEmpty then [] else [current.reverse]
  | c :: s =>
    if isBlank c then
      if current.isEmpty then wordsFrom [] s else current.reverse :: wordsFrom [] s
    else wordsFrom (c :: current) s

def words (s : List Char) : List (List Char) := wordsFrom [] s

end WebCitation.Text

namespace String

def trimmed (s : String) : String := String.ofList (WebCitation.Text.trim s.toList)

def collapsed (s : String) : String := String.ofList (WebCitation.Text.collapse s.toList)

end String
