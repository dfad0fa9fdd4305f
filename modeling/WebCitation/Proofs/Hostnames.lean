import Mathlib.Data.String.Basic
import WebCitation.Domain.Basic
import WebCitation.Proofs.Pieces
import WebCitation.Proofs.Result

/-!
Which texts name a domain. They are labels with dots between them, over the ASCII letters and digits and two letters
that are no ASCII characters but have an ASCII letter as their other case. All names in ASCII are among them, and a name
stays what it is but for the case of its ASCII letters.
-/
namespace WebCitation

namespace Text

theorem utf8ByteSize_asciiLower (s : String) : s.asciiLower.utf8ByteSize = s.utf8ByteSize := by
  have same : ∀ t : List Char, String.utf8Len (asciiLower t) = String.utf8Len t := by
    intro t
    induction t with
    | nil => rfl
    | cons c t ih =>
      rw [asciiLower_cons, String.utf8Len_cons, String.utf8Len_cons, ih, apply_toLower (f := Char.utf8Size) (by decide)]
  rw [String.asciiLower, String.utf8ByteSize_ofList, same, ← String.utf8ByteSize_ofList, String.ofList_toList]

end Text

namespace DomainName

open Text

/-- One to 63 letters and hyphens, with no hyphen at either end. -/
structure IsLabelOf (letter : Char → Bool) (label : List Char) : Prop where
  nonempty : label ≠ []
  short : label.length ≤ 63
  letters : ∀ c ∈ label, letter c = true ∨ c = '-'
  first : label.head? ≠ some '-'
  last : label.getLast? ≠ some '-'

/-- Labels with dots between them, in 1 to 253 bytes. -/
structure IsNameOf (letter : Char → Bool) (name : String) : Prop where
  nonempty : 1 ≤ name.utf8ByteSize
  short : name.utf8ByteSize ≤ 253
  labels : ∃ labels : List (List Char), labels ≠ [] ∧ name.toList = join ['.'] labels ∧
    ∀ label ∈ labels, IsLabelOf letter label

theorem isLabel_iff {label : List Char} : isLabel label = true ↔ IsLabelOf isLetterOrDigit label := by
  simp only [isLabel, Bool.and_eq_true, decide_eq_true_eq, List.all_eq_true, Bool.or_eq_true, beq_iff_eq, bne_iff_ne,
    List.length_pos_iff]
  constructor
  · rintro ⟨⟨⟨⟨nonempty, short⟩, letters⟩, first⟩, last⟩
    exact ⟨nonempty, short, letters, first, last⟩
  · rintro ⟨nonempty, short, letters, first, last⟩
    exact ⟨⟨⟨⟨nonempty, short⟩, letters⟩, first⟩, last⟩

section

variable {letter : Char → Bool}

theorem IsLabelOf.of_mem {label : List Char} (h : IsLabelOf letter label) {c : Char} (other : letter c = false)
    (notHyphen : c ≠ '-') : c ∉ label := by
  intro member
  rcases h.letters c member with isLetter | hyphen
  · rw [other] at isLetter
    cases isLetter
  · exact notHyphen hyphen

/-- The labels of a name are its pieces between dots. -/
theorem isNameOf_iff (noDot : letter '.' = false) {name : String} :
    IsNameOf letter name ↔
      name.utf8ByteSize ≤ 253 ∧ ∀ label ∈ splitWhere (· == '.') name.toList, IsLabelOf letter label := by
  constructor
  · rintro ⟨-, short, labels, some_label, made, each⟩
    rw [made, splitWhere_join some_label fun label member => (each label member).of_mem noDot (by decide)]
    exact ⟨short, each⟩
  · rintro ⟨short, each⟩
    refine ⟨?_, short, _, splitWhere_ne_nil _ _, (join_splitWhere '.' name.toList).symm, each⟩
    rw [Nat.one_le_iff_ne_zero, Ne, String.utf8ByteSize_eq_zero_iff]
    rintro rfl
    exact (each [] List.mem_cons_self).nonempty rfl

theorem isLabelOf_asciiLower (kept : ∀ c : Char, letter c.toLower = letter c) {label : List Char} :
    IsLabelOf letter (asciiLower label) ↔ IsLabelOf letter label := by
  have hyphen : ∀ c : Char, c.toLower = '-' ↔ c = '-' := fun c => toLower_eq_iff (by decide)
  have first : (asciiLower label).head? = some '-' ↔ label.head? = some '-' := by
    cases label <;> simp [hyphen]
  have last : (asciiLower label).getLast? = some '-' ↔ label.getLast? = some '-' := by
    simp [asciiLower, List.getLast?_map, hyphen]
  have letters : (∀ c ∈ asciiLower label, letter c = true ∨ c = '-') ↔ ∀ c ∈ label, letter c = true ∨ c = '-' := by
    simp [asciiLower, kept, hyphen]
  constructor
  · rintro ⟨nonempty, short, made, noFirst, noLast⟩
    refine ⟨?_, length_asciiLower label ▸ short, letters.1 made, mt first.2 noFirst, mt last.2 noLast⟩
    rintro rfl
    exact nonempty rfl
  · rintro ⟨nonempty, short, made, noFirst, noLast⟩
    refine ⟨?_, (length_asciiLower label).symm ▸ short, letters.2 made, mt first.1 noFirst, mt last.1 noLast⟩
    exact mt List.map_eq_nil_iff.1 nonempty

theorem isNameOf_asciiLower (noDot : letter '.' = false) (kept : ∀ c : Char, letter c.toLower = letter c)
    {name : String} : IsNameOf letter name.asciiLower ↔ IsNameOf letter name := by
  have dot : ∀ c : Char, (c.toLower == '.') = (c == '.') := apply_toLower (f := (· == '.')) (by decide)
  have labels : splitWhere (· == '.') name.asciiLower.toList = (splitWhere (· == '.') name.toList).map asciiLower := by
    rw [String.asciiLower, String.toList_ofList]
    exact splitWhere_map dot name.toList
  rw [isNameOf_iff noDot, isNameOf_iff noDot, utf8ByteSize_asciiLower, labels]
  simp only [List.forall_mem_map, isLabelOf_asciiLower kept]

end

theorem isName_iff {name : String} : isName name = true ↔ IsNameOf isLetterOrDigit name := by
  rw [isNameOf_iff (by decide), isName, Bool.and_eq_true, decide_eq_true_eq, List.all_eq_true]
  simp only [isLabel_iff, maxBytes]

theorem isLetterOrDigit_toLower (c : Char) : isLetterOrDigit c.toLower = isLetterOrDigit c :=
  apply_toLower (by decide) c

theorem isName_asciiLower_iff {name : String} : isName name.asciiLower = true ↔ IsNameOf isLetterOrDigit name := by
  rw [isName_iff, isNameOf_asciiLower (by decide) isLetterOrDigit_toLower]

theorem IsNameOf.mem_cases {letter : Char → Bool} {name : String} (h : IsNameOf letter name) {c : Char}
    (member : c ∈ name.toList) : letter c = true ∨ c = '-' ∨ c = '.' := by
  obtain ⟨labels, -, made, each⟩ := h.labels
  rw [made, mem_join] at member
  rcases member with ⟨dot, -⟩ | ⟨label, inside, member⟩
  · exact .inr (.inr dot)
  · exact ((each label inside).letters c member).imp_right .inl

theorem IsNameOf.imp {letter other : Char → Bool} {name : String} (h : IsNameOf letter name)
    (agree : ∀ c ∈ name.toList, letter c = true → other c = true) : IsNameOf other name := by
  obtain ⟨labels, some_label, made, each⟩ := h.labels
  refine ⟨h.nonempty, h.short, labels, some_label, made, fun label inside => ?_⟩
  obtain ⟨nonempty, short, letters, first, last⟩ := each label inside
  refine ⟨nonempty, short, fun c member => (letters c member).imp_left (agree c ?_), first, last⟩
  rw [made, mem_join]
  exact .inr ⟨label, inside, member⟩

def NoFoldedLetter (name : String) : Prop := '\u017f' ∉ name.toList ∧ '\u212a' ∉ name.toList

theorem isNameOf_isAlphanum_iff {name : String} :
    IsNameOf Char.isAlphanum name ↔ IsNameOf isLetterOrDigit name ∧ NoFoldedLetter name := by
  constructor
  · intro h
    have absent : ∀ c : Char, c.isAlphanum = false → c ≠ '-' → c ≠ '.' → c ∉ name.toList := by
      intro c other notHyphen notDot member
      rcases h.mem_cases member with letter | hyphen | dot
      · rw [other] at letter
        cases letter
      · exact notHyphen hyphen
      · exact notDot dot
    refine ⟨h.imp fun c _ letter => by simp [isLetterOrDigit, letter], ?_, ?_⟩
    · exact absent '\u017f' (by decide) (by decide) (by decide)
    · exact absent '\u212a' (by decide) (by decide) (by decide)
  · rintro ⟨h, noLongS, noKelvin⟩
    refine h.imp fun c member letter => ?_
    have notLongS : c ≠ '\u017f' := fun same => noLongS (same ▸ member)
    have notKelvin : c ≠ '\u212a' := fun same => noKelvin (same ▸ member)
    simpa [isLetterOrDigit, notLongS, notKelvin] using letter

def IsLowerName (name : String) : Prop :=
  ∀ c ∈ name.toList, c.isLower = true ∨ c.isDigit = true ∨ c = '-' ∨ c = '.'

theorem isLowerName_asciiLower_iff {name : String} (h : IsNameOf isLetterOrDigit name) :
    IsLowerName name.asciiLower ↔ NoFoldedLetter name := by
  have lowered : ∀ c, c ∈ name.asciiLower.toList ↔ ∃ d ∈ name.toList, d.toLower = c := by
    simp [String.asciiLower, asciiLower]
  constructor
  · intro lower
    have absent : ∀ c : Char, c.toLower = c → c.isLower = false → c.isDigit = false → c ≠ '-' → c ≠ '.' →
        c ∉ name.toList := by
      intro c same notLower notDigit notHyphen notDot member
      have made := lower c ((lowered c).2 ⟨c, member, same⟩)
      simp [notLower, notDigit, notHyphen, notDot] at made
    exact ⟨absent '\u017f' (by decide) (by decide) (by decide) (by decide) (by decide),
      absent '\u212a' (by decide) (by decide) (by decide) (by decide) (by decide)⟩
  · intro free c member
    obtain ⟨d, inside, rfl⟩ := (lowered c).1 member
    rcases (isNameOf_isAlphanum_iff.2 ⟨h, free⟩).mem_cases inside with letter | rfl | rfl
    · exact (isLower_or_isDigit_toLower letter).imp_right .inl
    · exact .inr (.inr (.inl rfl))
    · exact .inr (.inr (.inr rfl))

end DomainName

namespace Domain

theorem exists_ofText_iff {name : String} :
    (∃ d, ofText name = .ok d) ↔ DomainName.IsNameOf DomainName.isLetterOrDigit name := by
  rw [ofText, exists_map_eq_ok_iff, ← DomainName.isName_asciiLower_iff, DomainName.ofText]
  split
  · rename_i valid
    simp [valid]
  · rename_i refused
    simp [refused]

theorem name_of_ofText {name : String} {d : Domain} (h : ofText name = .ok d) : d.name.text = name.asciiLower := by
  obtain ⟨n, named, rfl⟩ := map_eq_ok_iff.1 h
  exact DomainName.text_of_ofText named

end Domain

/-- Names of domains are labels of 1 to 63 letters, digits and inner hyphens with dots between them, in at most 253
bytes. Letters are those of ASCII, and the long s and the Kelvin sign. The name is kept with its ASCII letters in lower
case, so it is all in ASCII just if it has neither of those two. -/
theorem names_are_hostnames_iff (name : String) :
    ((∃ d, Domain.ofText name = .ok d) ↔
      DomainName.IsNameOf (fun c => c.isAlphanum || c == '\u017f' || c == '\u212a') name) ∧
    (DomainName.IsNameOf Char.isAlphanum name ↔ (∃ d, Domain.ofText name = .ok d) ∧ DomainName.NoFoldedLetter name) ∧
    ∀ d, Domain.ofText name = .ok d → d.name.text = name.asciiLower ∧
      (DomainName.IsLowerName d.name.text ↔ DomainName.NoFoldedLetter name) := by
  refine ⟨Domain.exists_ofText_iff, ?_, ?_⟩
  · rw [Domain.exists_ofText_iff]
    exact DomainName.isNameOf_isAlphanum_iff
  · intro d h
    have kept := Domain.name_of_ofText h
    rw [kept]
    exact ⟨rfl, DomainName.isLowerName_asciiLower_iff (Domain.exists_ofText_iff.1 ⟨d, h⟩)⟩

namespace LongS

def plain : Domain := .ofName ⟨"www.example-1.org", by decide⟩

theorem plain_name_is_lowered :
    Domain.ofText "WWW.Example-1.org" = .ok plain ∧ plain.name.text = "WWW.Example-1.org".asciiLower ∧
      DomainName.IsLowerName plain.name.text ∧ DomainName.IsNameOf Char.isAlphanum "WWW.Example-1.org" := by
  obtain ⟨-, ascii, kept⟩ := names_are_hostnames_iff "WWW.Example-1.org"
  have made : Domain.ofText "WWW.Example-1.org" = .ok plain := rfl
  have free : DomainName.NoFoldedLetter "WWW.Example-1.org" := ⟨by decide, by decide⟩
  obtain ⟨lowered, lower⟩ := kept plain made
  exact ⟨made, lowered, lower.2 free, ascii.2 ⟨⟨plain, made⟩, free⟩⟩

def folded : Domain := .ofName ⟨"ſ", by decide⟩

theorem long_s_names_a_domain :
    Domain.ofText "ſ" = .ok folded ∧ ¬ DomainName.IsNameOf Char.isAlphanum "ſ" ∧
      ¬ DomainName.IsLowerName folded.name.text := by
  refine ⟨rfl, fun ascii => ?_, fun lower => ?_⟩
  · exact absurd (ascii.mem_cases (c := 'ſ') (by decide)) (by decide)
  · exact absurd (lower 'ſ' (by decide)) (by decide)

end LongS

end WebCitation
