/-! Letter case of ASCII letters alone; every other character stays. -/
namespace WebCitation.Text

def asciiLower (s : List Char) : List Char := s.map Char.toLower

theorem capital_or (c : Char) : (∃ n < 26, c = Char.ofNat (65 + n)) ∨ c.toLower = c := by
  by_cases capital : 65 ≤ c.toNat ∧ c.toNat ≤ 90
  · refine .inl ⟨c.toNat - 65, by omega, ?_⟩
    rw [Nat.add_sub_cancel' capital.1, Char.ofNat_toNat]
  · refine .inr (dif_neg fun ⟨low, high⟩ => capital ⟨?_, ?_⟩)
    · exact UInt32.le_iff_toNat_le.1 low
    · exact UInt32.le_iff_toNat_le.1 high

/-- What is the same of each capital letter and its small one is the same of every character and its lower case. -/
theorem apply_toLower {f : Char → α}
    (letters : ∀ n < 26, f (Char.ofNat (65 + n)).toLower = f (Char.ofNat (65 + n))) (c : Char) : f c.toLower = f c := by
  rcases capital_or c with ⟨n, small, rfl⟩ | same
  · exact letters n small
  · rw [same]

theorem toLower_toLower (c : Char) : c.toLower.toLower = c.toLower := apply_toLower (by decide) c

theorem toLower_eq_iff {c d : Char}
    (other : ∀ n < 26, ((Char.ofNat (65 + n)).toLower = d ↔ Char.ofNat (65 + n) = d)) : c.toLower = d ↔ c = d :=
  Iff.of_eq (apply_toLower (f := (· = d)) (fun n h => propext (other n h)) c)

@[simp] theorem asciiLower_nil : asciiLower [] = [] := rfl

@[simp] theorem asciiLower_cons (c : Char) (s : List Char) : asciiLower (c :: s) = c.toLower :: asciiLower s := rfl

theorem length_asciiLower (s : List Char) : (asciiLower s).length = s.length := List.length_map _

theorem asciiLower_append (s t : List Char) : asciiLower (s ++ t) = asciiLower s ++ asciiLower t := List.map_append

theorem mem_of_asciiLower {c : Char} (other : ∀ n < 26, ((Char.ofNat (65 + n)).toLower = c ↔ Char.ofNat (65 + n) = c))
    {s t : List Char} (same : asciiLower s = asciiLower t) (h : c ∈ s) : c ∈ t := by
  have lower : c ∈ asciiLower t := by
    rw [← same]
    exact List.mem_map.2 ⟨c, h, (toLower_eq_iff other).2 rfl⟩
  obtain ⟨d, member, made⟩ := List.mem_map.1 lower
  exact (toLower_eq_iff other).1 made ▸ member

theorem forall_ascii {p : Char → Prop} (each : ∀ n < 128, p (Char.ofNat n)) {c : Char} (ascii : c.toNat < 128) :
    p c := by
  have here := each c.toNat ascii
  rwa [Char.ofNat_toNat] at here

theorem toNat_lt_of_isAlphanum {c : Char} (h : c.isAlphanum = true) : c.toNat < 128 := by
  have below : ∀ last : Char, c.val ≤ last.val → last.toNat < 128 → c.toNat < 128 :=
    fun _ le ascii => Nat.lt_of_le_of_lt (UInt32.le_iff_toNat_le.1 le) ascii
  rcases Bool.or_eq_true_iff.1 h with letter | digit
  · rcases Bool.or_eq_true_iff.1 letter with upper | lower
    · exact below 'Z' (of_decide_eq_true upper).2 (by decide)
    · exact below 'z' (of_decide_eq_true (Bool.and_eq_true_iff.1 lower).2) (by decide)
  · exact Nat.lt_of_le_of_lt (Char.isDigit_iff_toNat.1 digit).2 (by decide)

theorem isLower_or_isDigit_toLower {c : Char} (h : c.isAlphanum = true) :
    c.toLower.isLower = true ∨ c.toLower.isDigit = true :=
  forall_ascii (p := fun c => c.isAlphanum = true → c.toLower.isLower = true ∨ c.toLower.isDigit = true) (by decide)
    (toNat_lt_of_isAlphanum h) h

/-- The rest of a text that begins with `word`, up to the case of ASCII letters; `word` is in lower case. -/
def dropWord? : List Char → List Char → Option (List Char)
  | [], s => some s
  | _ :: _, [] => none
  | p :: ps, c :: s => if p = c.toLower then dropWord? ps s else none

end WebCitation.Text

namespace String

def asciiLower (s : String) : String := String.ofList (WebCitation.Text.asciiLower s.toList)

@[simp] theorem asciiLower_asciiLower (s : String) : s.asciiLower.asciiLower = s.asciiLower := by
  simp only [asciiLower, WebCitation.Text.asciiLower, String.toList_ofList, List.map_map]
  exact congrArg String.ofList (List.map_congr_left fun c _ => WebCitation.Text.toLower_toLower c)

end String
