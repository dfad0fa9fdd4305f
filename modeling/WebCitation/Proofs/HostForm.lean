import WebCitation.Proofs.Pieces
import WebCitation.Proofs.Result
import WebCitation.Url.Basic

/-!
The form of hosts. However the host of an address is written, with capital letters, with characters of other scripts,
with encoded labels or as a number, the host that is read from it is in ASCII and has no capital letters.
-/
namespace WebCitation

open Text

namespace Text

/-- An ASCII character that is no capital letter. -/
def IsSmallAscii (c : Char) : Prop := c.toNat < 128 ∧ c.toLower = c

theorem isSmallAscii_of_mem_toDigits {b n : Nat} (h : 1 < b) (base : b ≤ 16) {c : Char}
    (member : c ∈ Nat.toDigits b n) : IsSmallAscii c := by
  have digit : ∀ d < 16, IsSmallAscii (Nat.digitChar d) := by
    unfold IsSmallAscii
    decide
  induction n using Nat.strongRecOn with
  | ind n ih =>
    by_cases one : n < b
    · rw [Nat.toDigits_of_lt_base one] at member
      exact List.mem_singleton.1 member ▸ digit n (by omega)
    · rw [Nat.toDigits_of_base_le h (by omega)] at member
      rcases List.mem_append.1 member with before | last
      · exact ih (n / b) (Nat.div_lt_self (by omega) h) before
      · exact List.mem_singleton.1 last ▸ digit (n % b) (by have := Nat.mod_lt n (by omega : 0 < b); omega)

end Text

/-! Encoded labels. -/

namespace Punycode

theorem threshold_bounds (k bias : Nat) : 1 ≤ threshold k bias ∧ threshold k bias ≤ 26 := by
  unfold threshold
  split
  · omega
  · split <;> omega

theorem isSmallAscii_digitChar : ∀ d < 36, IsSmallAscii (digitChar d) := by
  unfold IsSmallAscii
  decide

theorem isSmallAscii_writeNumber {bias fuel k q : Nat} : ∀ c ∈ writeNumber bias fuel k q, IsSmallAscii c := by
  induction fuel generalizing k q with
  | zero => simp [writeNumber]
  | succ fuel ih =>
    obtain ⟨least, most⟩ := threshold_bounds k bias
    rw [writeNumber]
    split
    · simpa using isSmallAscii_digitChar q (by omega)
    · have digit := Nat.mod_lt (q - threshold k bias) (by omega : 0 < 36 - threshold k bias)
      exact List.forall_mem_cons.2 ⟨isSmallAscii_digitChar _ (by omega), ih⟩

theorem isSmallAscii_encodeOne (n : Nat) (e : Encoder) (label : List Nat) :
    ∀ c ∈ (encodeOne n e label).1, IsSmallAscii c := by
  induction label generalizing e with
  | nil => simp [encodeOne]
  | cons c label ih =>
    rw [encodeOne]
    split
    · exact ih _
    · split
      · exact List.forall_mem_append.2 ⟨isSmallAscii_writeNumber, ih _⟩
      · exact ih e

theorem isSmallAscii_encodeFrom (label : List Nat) (fuel n : Nat) (e : Encoder) :
    ∀ c ∈ encodeFrom label fuel n e, IsSmallAscii c := by
  induction fuel generalizing n e with
  | zero => simp [encodeFrom]
  | succ fuel ih =>
    rw [encodeFrom]
    split
    · simp
    · exact List.forall_mem_append.2 ⟨isSmallAscii_encodeOne _ _ _, ih _ _⟩

theorem isSmallAscii_encode {label : List Char} (small : ∀ c ∈ label, c.toNat < 128 → c.toLower = c) :
    ∀ c ∈ encode label, IsSmallAscii c := by
  have basic : ∀ c ∈ label.filter (·.toNat < 0x80), IsSmallAscii c := by
    intro c member
    obtain ⟨inside, ascii⟩ := List.mem_filter.1 member
    exact ⟨of_decide_eq_true ascii, small c inside (of_decide_eq_true ascii)⟩
  rw [encode]
  refine List.forall_mem_append.2 ⟨?_, isSmallAscii_encodeFrom _ _ _ _⟩
  split
  · simp
  · exact List.forall_mem_append.2 ⟨basic, by simp [IsSmallAscii]⟩

end Punycode

namespace Idna

theorem toLower_of_isPrepared {c : Char} (h : isPrepared c = true) (ascii : c.toNat < 128) : c.toLower = c := by
  rw [isPrepared, beq_iff_eq, prepareChar, if_pos ascii] at h
  exact List.singleton_injective (Option.some.inj h)

theorem isSmallAscii_encodeLabel {label : List Char} (proper : isProper label = true) :
    ∀ c ∈ encodeLabel label, IsSmallAscii c := by
  have small : ∀ c ∈ label, c.toNat < 128 → c.toLower = c := by
    intro c member
    simp only [isProper, Bool.and_eq_true, List.all_eq_true] at proper
    exact toLower_of_isPrepared (proper.1.1.1.1 c member)
  rw [encodeLabel]
  split
  · rename_i ascii
    rw [List.all_eq_true] at ascii
    exact fun c member => ⟨of_decide_eq_true (ascii c member), small c member (of_decide_eq_true (ascii c member))⟩
  · exact List.forall_mem_append.2 ⟨by simp [encodedMark, IsSmallAscii], Punycode.isSmallAscii_encode small⟩

theorem isSmallAscii_toAscii? {s host : List Char} (h : toAscii? s = some host) : ∀ c ∈ host, IsSmallAscii c := by
  rw [toAscii?] at h
  split at h
  · rename_i simple
    split at h
    · cases h
    · cases h
      rw [isSimple, Bool.and_eq_true, List.all_eq_true] at simple
      intro c member
      refine ⟨of_decide_eq_true (simple.1 c member), ?_⟩
      obtain ⟨d, -, rfl⟩ := List.mem_map.1 member
      exact toLower_toLower d
  · rw [toAsciiByLabels?] at h
    simp only [Option.bind_eq_bind, Option.bind_eq_some_iff] at h
    obtain ⟨prepared, -, labels, -, h⟩ := h
    split at h
    · rename_i proper
      cases h
      rw [Bool.and_eq_true, List.all_eq_true] at proper
      intro c member
      rcases mem_join.1 member with ⟨rfl, -⟩ | ⟨piece, inside, member⟩
      · simp [IsSmallAscii]
      · obtain ⟨label, known, rfl⟩ := List.mem_map.1 inside
        exact isSmallAscii_encodeLabel (proper.1 label known) c member
    · cases h

end Idna

namespace Ipv4

def bytes (value : Nat) : List (List Char) := [3, 2, 1, 0].map fun i => Nat.toDigits 10 (value / Nat.pow 256 i % 256)

theorem text_eq_join (value : Nat) : text value = join ['.'] (bytes value) := by
  simp [text, bytes, join, List.intercalate_cons_cons]

theorem isSmallAscii_text (value : Nat) : ∀ c ∈ text value, IsSmallAscii c := by
  intro c member
  rw [text_eq_join] at member
  rcases mem_join.1 member with ⟨rfl, -⟩ | ⟨byte, inside, member⟩
  · simp [IsSmallAscii]
  · obtain ⟨i, -, rfl⟩ := List.mem_map.1 inside
    exact isSmallAscii_of_mem_toDigits (by decide) (by decide) member

end Ipv4

namespace Ipv6

theorem isSmallAscii_piecesText (pieces : List Nat) : ∀ c ∈ piecesText pieces, IsSmallAscii c := by
  intro c member
  rcases mem_join.1 member with ⟨rfl, -⟩ | ⟨piece, inside, member⟩
  · simp [IsSmallAscii]
  · obtain ⟨n, -, rfl⟩ := List.mem_map.1 inside
    exact isSmallAscii_of_mem_toDigits (by decide) (by decide) member

theorem isSmallAscii_text (pieces : List Nat) : ∀ c ∈ text pieces, IsSmallAscii c := by
  have colon : IsSmallAscii ':' := by simp [IsSmallAscii]
  rw [text]
  split
  split
  · exact isSmallAscii_piecesText pieces
  · simp only [List.forall_mem_append, List.forall_mem_cons]
    exact ⟨isSmallAscii_piecesText _, colon, colon, isSmallAscii_piecesText _⟩

end Ipv6

namespace Host

theorem isSmallAscii_parse {s host : List Char} (h : parse s = .ok host) : ∀ c ∈ host, IsSmallAscii c := by
  unfold parse at h
  split at h
  · unfold parseBracketed at h
    split at h
    · cases h
      simp only [List.cons_append, List.forall_mem_append, List.forall_mem_cons]
      exact ⟨by simp [IsSmallAscii], Ipv6.isSmallAscii_text _, by simp [IsSmallAscii]⟩
    · cases h
  · split at h
    · cases h
    · cases h
    · rename_i name _ read
      split at h
      · split at h
        · rename_i address known
          cases h
          obtain ⟨_, -, known⟩ := Option.bind_eq_some_iff.1 known
          obtain ⟨value, -, known⟩ := Option.bind_eq_some_iff.1 known
          cases known
          exact Ipv4.isSmallAscii_text value
        · cases h
      · cases h
        exact Idna.isSmallAscii_toAscii? read

end Host

namespace Url

theorem isSmallAscii_readAuthority {s rest : List Char} {userName password host : String} {port : Option Nat}
    (h : readAuthority s = .ok (userName, password, host, port, rest)) : ∀ c ∈ host.toList, IsSmallAscii c := by
  unfold readAuthority at h
  dsimp only at h
  split at h
  · cases h
  · obtain ⟨parsed, known, h⟩ := bind_eq_ok_iff.1 h
    obtain ⟨_, -, h⟩ := bind_eq_ok_iff.1 h
    cases h
    rw [String.toList_ofList]
    exact Host.isSmallAscii_parse known

theorem isSmallAscii_readWeb {scheme : Scheme} {s : List Char} {u : Url} (h : readWeb scheme s = .ok u) :
    ∀ c ∈ u.host.toList, IsSmallAscii c := by
  obtain ⟨⟨userName, password, host, port, rest⟩, read, h⟩ := bind_eq_ok_iff.1 h
  cases h
  exact isSmallAscii_readAuthority read

theorem isSmallAscii_parse {s : String} {u : Url} (h : parse s = .ok u) : ∀ c ∈ u.host.toList, IsSmallAscii c := by
  unfold parse at h
  split at h
  · cases h
  · split at h
    · exact isSmallAscii_readWeb h
    · exact isSmallAscii_readWeb h
    -- An address of any other scheme is read before it is refused.
    all_goals
      obtain ⟨_, -, refused⟩ := bind_eq_ok_iff.1 h
      cases refused

end Url
end WebCitation
