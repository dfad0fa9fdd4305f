import WebCitation.Proofs.HostForm
import WebCitation.Proofs.Hostnames
import WebCitation.Proofs.NormalForm
import WebCitation.Storage.Loader
import WebCitation.Webpage.Basic

/-!
Which pages have a domain that can be configured. The host of a page is a name of a domain as it stands if it is one
up to case, and then the domain of that name is the page's own. Numeric addresses of four bytes always are, those of
eight pieces never, and other hosts are as far as they keep to the form of names, which is narrower than what an address
may have.
-/
namespace WebCitation

open Text

namespace Text

theorem asciiLower_of_small {s : List Char} (small : ∀ c ∈ s, IsSmallAscii c) : asciiLower s = s := by
  have same := List.map_congr_left fun c member => (small c member).2
  rwa [List.map_id'] at same

theorem utf8Len_of_ascii {s : List Char} (ascii : ∀ c ∈ s, c.toNat < 128) : String.utf8Len s = s.length := by
  induction s with
  | nil => rfl
  | cons c s ih =>
    obtain ⟨first, rest⟩ := List.forall_mem_cons.1 ascii
    have one : c.utf8Size = 1 := forall_ascii (p := fun c => c.utf8Size = 1) (by decide) first
    rw [String.utf8Len_cons, ih rest, one, List.length_cons]

end Text

namespace Ipv4

theorem length_text_le (value : Nat) : (text value).length ≤ 253 := by
  have byte : ∀ n, (Nat.toDigits 10 (n % 256)).length ≤ 3 := by
    intro n
    rw [Nat.length_toDigits_le_iff (by decide) (by decide)]
    omega
  have highest := byte (value / Nat.pow 256 3)
  have second := byte (value / Nat.pow 256 2)
  have third := byte (value / Nat.pow 256 1)
  have lowest := byte (value / Nat.pow 256 0)
  simp only [text, List.length_append, List.length_cons]
  omega

theorem isLabelOf_bytes (value : Nat) : ∀ label ∈ bytes value, DomainName.IsLabelOf Char.isAlphanum label := by
  intro label member
  obtain ⟨i, -, rfl⟩ := List.mem_map.1 member
  have digits : ∀ c ∈ Nat.toDigits 10 (value / Nat.pow 256 i % 256), c.isDigit = true :=
    fun c member => Nat.isDigit_of_mem_toDigits (by decide) (by decide) member
  have noHyphen : '-' ∉ Nat.toDigits 10 (value / Nat.pow 256 i % 256) :=
    fun member => absurd (digits '-' member) (by decide)
  refine ⟨Nat.toDigits_ne_nil, ?_, fun c member => .inl (by simp [Char.isAlphanum, digits c member]),
    fun first => noHyphen (List.mem_of_head? first), fun last => noHyphen (List.mem_of_getLast? last)⟩
  rw [Nat.length_toDigits_le_iff (by decide) (by decide)]
  omega

theorem isNameOf_text (value : Nat) : DomainName.IsNameOf Char.isAlphanum (String.ofList (text value)) := by
  have labels := isLabelOf_bytes value
  have dots : ∀ label ∈ bytes value, '.' ∉ label :=
    fun label member => (labels label member).of_mem (by decide) (by decide)
  rw [DomainName.isNameOf_iff (by decide), String.utf8ByteSize_ofList,
    utf8Len_of_ascii fun c member => (isSmallAscii_text value c member).1, String.toList_ofList, text_eq_join,
    splitWhere_join (by simp [bytes]) dots, ← text_eq_join]
  exact ⟨length_text_le value, labels⟩

end Ipv4

theorem Ipv6.not_isNameOf_text (pieces : List Nat) :
    ¬ DomainName.IsNameOf Char.isAlphanum (String.ofList ('[' :: Ipv6.text pieces ++ [']'])) := by
  intro h
  exact absurd (h.mem_cases (c := '[') (by simp)) (by decide)

namespace Webpage

variable {url : String} {w : Webpage}

theorem isSmallAscii_domain (h : ofText url = .ok w) : ∀ c ∈ w.domain.toList, IsSmallAscii c := by
  unfold ofText at h
  split at h
  · rename_i u read
    cases h
    exact Url.isSmallAscii_parse read
  · cases h

theorem asciiLower_domain (h : ofText url = .ok w) : w.domain.asciiLower = w.domain := by
  rw [String.asciiLower, asciiLower_of_small (isSmallAscii_domain h), String.ofList_toList]

/-- The host of a page has none of the letters that make a name other than one in ASCII. -/
theorem isNameOf_domain_iff (h : ofText url = .ok w) :
    DomainName.IsNameOf DomainName.isLetterOrDigit w.domain ↔ DomainName.IsNameOf Char.isAlphanum w.domain := by
  have absent : ∀ c : Char, 128 ≤ c.toNat → c ∉ w.domain.toList :=
    fun c wide member => absurd (isSmallAscii_domain h c member).1 (by omega)
  have free : DomainName.NoFoldedLetter w.domain :=
    ⟨absent '\u017f' (by decide), absent '\u212a' (by decide)⟩
  rw [DomainName.isNameOf_isAlphanum_iff]
  exact ⟨fun named => ⟨named, free⟩, And.left⟩

end Webpage

namespace Domain

theorem name_of_ofDefinitions {name : String} {ds : Definition.Domain} {d : Domain}
    (h : ofDefinitions name ds = .ok d) : d.name.text = name.asciiLower := by
  obtain ⟨named, made, rfl⟩ := map_eq_ok_iff.1 h
  have lowered := name_of_ofText made
  exact lowered

theorem ofText_eq_error {name : String} (other : ¬ DomainName.IsNameOf DomainName.isLetterOrDigit name) :
    ofText name = .error (.invalidDomain name.asciiLower) := by
  rw [← DomainName.isName_asciiLower_iff] at other
  rw [ofText, DomainName.ofText, dif_neg other]
  rfl

theorem name_of_withCatchAll {d e : Domain} {pattern : String} (h : d.withCatchAll pattern = .ok e) :
    e.name = d.name := by
  obtain ⟨catchAll, -, rfl⟩ := map_eq_ok_iff.1 h
  rfl

theorem withCatchAll_ne_invalidDomain (d : Domain) (pattern name : String) :
    d.withCatchAll pattern ≠ .error (.invalidDomain name) := by
  unfold withCatchAll Pattern.compile
  split <;> simp [Except.map]

end Domain

namespace RuleStorage

theorem assemble_eq_invalidDomain_iff (s : RuleStorage) {name : String} (lower : name.asciiLower = name)
    (ds : Definition.Domain) {fallback : Option FallbackTemplate} (own : ∀ t ∈ fallback, t.domain = name) :
    (∃ refused, s.assemble name ds fallback = .error (.invalidDomain refused)) ↔
      ¬ DomainName.IsNameOf DomainName.isLetterOrDigit name := by
  constructor
  · rintro ⟨refused, h⟩ named
    -- The catch-all is refused with another error, and the fallback only if it is for another domain.
    rcases bind_eq_error_iff.1 h with failed | ⟨d, made, h⟩
    · obtain ⟨d, made⟩ := Domain.exists_ofDefinitions ds (DomainName.isName_asciiLower_iff.2 named)
      rw [made] at failed
      cases failed
    · rcases bind_eq_error_iff.1 h with failed | ⟨e, caught, added⟩
      · exact d.withCatchAll_ne_invalidDomain s.catchAll refused failed
      · cases fallback with
        | none => cases added
        | some t =>
          have kept : e.name.text = name := by
            rw [Domain.name_of_withCatchAll caught, Domain.name_of_ofDefinitions made, lower]
          change e.withFallback t = _ at added
          rw [Domain.withFallback, if_pos ((own t rfl).trans kept.symm)] at added
          cases added
  · intro other
    rw [assemble, Domain.ofDefinitions, Domain.ofText_eq_error other]
    exact ⟨name.asciiLower, rfl⟩

theorem load_eq_invalidDomain_iff (s : RuleStorage) {source : RevisionSource} {name : String} {ds : Definition.Domain}
    (loaded : s.loadDefinitions source name = .ok ds) (fallback : Option FallbackTemplate) {refused : String} :
    s.load source name fallback = .error (.config (.invalidDomain refused)) ↔
      s.assemble name ds fallback = .error (.invalidDomain refused) := by
  rw [load, loaded]
  change (s.assemble name ds fallback).mapError StorageError.config = _ ↔ _
  cases s.assemble name ds fallback <;> simp [Except.mapError]

end RuleStorage

/-- The host of a page names a domain just if it is a name in ASCII, and then the name is that host as it stands. Once
the definitions of the page's own domain have come, they are refused for an invalid domain only where the host is no
name, also with the fallback for that domain. An address of four bytes always is a name, one of eight pieces never. -/
theorem own_domain_is_configured_iff {url : String} {w : Webpage} (h : Webpage.ofText url = .ok w) :
    (DomainName.IsNameOf Char.isAlphanum w.domain → ∃ d, Domain.ofText w.domain = .ok d ∧ d.name.text = w.domain) ∧
    (¬ DomainName.IsNameOf Char.isAlphanum w.domain → Domain.ofText w.domain = .error (.invalidDomain w.domain)) ∧
    (∀ (s : RuleStorage) (source : RevisionSource) (ds : Definition.Domain),
      s.loadDefinitions source w.domain = .ok ds → ∀ fallback ∈ [none, some (FallbackTemplate.citoidDefault w.domain)],
        ((∃ name, s.load source w.domain fallback = .error (.config (.invalidDomain name))) ↔
          ¬ DomainName.IsNameOf Char.isAlphanum w.domain)) ∧
    (∀ address, w.domain = String.ofList (Ipv4.text address) → DomainName.IsNameOf Char.isAlphanum w.domain) ∧
    ∀ address, w.domain = String.ofList ('[' :: Ipv6.text address ++ [']']) →
      ¬ DomainName.IsNameOf Char.isAlphanum w.domain := by
  have lower := Webpage.asciiLower_domain h
  rw [← Webpage.isNameOf_domain_iff h]
  refine ⟨?_, ?_, ?_, ?_, ?_⟩
  · intro named
    obtain ⟨d, made⟩ := Domain.exists_ofText_iff.2 named
    exact ⟨d, made, (Domain.name_of_ofText made).trans lower⟩
  · intro other
    rw [Domain.ofText_eq_error other, lower]
  · intro s source ds loaded fallback given
    have own : ∀ t ∈ fallback, t.domain = w.domain := by
      intro t member
      rcases List.mem_cons.1 given with rfl | given
      · cases member
      · cases List.mem_singleton.1 given
        cases member
        exact lower
    simp only [s.load_eq_invalidDomain_iff loaded, s.assemble_eq_invalidDomain_iff lower ds own]
  · intro address same
    rw [Webpage.isNameOf_domain_iff h, same]
    exact Ipv4.isNameOf_text address
  · intro address same
    rw [Webpage.isNameOf_domain_iff h, same]
    exact Ipv6.not_isNameOf_text address

namespace NumericHosts

def plain : Webpage := ⟨⟨.http, "", "", "127.0.0.1", none, "/x", none, none⟩⟩

def bracketed : Webpage := ⟨⟨.http, "", "", "[::1]", none, "/x", none, none⟩⟩

def storage : RuleStorage := ⟨"data", "/**"⟩

theorem number_is_configured :
    Webpage.ofText "http://0x7F.1:80/x" = .ok plain ∧ plain.domain = String.ofList (Ipv4.text 0x7F000001) ∧
      (∃ d, Domain.ofText plain.domain = .ok d ∧ d.name.text = plain.domain) ∧
      Webpage.ofText "http://[0::1]/x" = .ok bracketed ∧
      Domain.ofText bracketed.domain = .error (.invalidDomain bracketed.domain) ∧
      storage.loadDefinitions RevisionStore.empty.source plain.domain = .ok ⟨[], [], []⟩ ∧
      ¬ ∃ name, storage.load RevisionStore.empty.source plain.domain (some (.citoidDefault plain.domain)) =
        .error (.config (.invalidDomain name)) := by
  have read : Webpage.ofText "http://0x7F.1:80/x" = .ok plain := by decide +kernel
  have written : plain.domain = String.ofList (Ipv4.text 0x7F000001) := by decide
  have readBracketed : Webpage.ofText "http://[0::1]/x" = .ok bracketed := by decide +kernel
  have loaded : storage.loadDefinitions RevisionStore.empty.source plain.domain = .ok ⟨[], [], []⟩ := rfl
  obtain ⟨taken, -, loads, bytes, -⟩ := own_domain_is_configured_iff read
  obtain ⟨-, refused, -, -, pieces⟩ := own_domain_is_configured_iff readBracketed
  have named := bytes 0x7F000001 written
  have noName := pieces [0, 0, 0, 0, 0, 0, 0, 1] (by decide +kernel)
  refine ⟨read, written, taken named, readBracketed, refused noName, loaded, ?_⟩
  rw [loads storage _ _ loaded _ (by simp), not_not]
  exact named

end NumericHosts

namespace Underscore

def target : Webpage := ⟨⟨.http, "", "", "a_b.com", none, "/x", none, none⟩⟩

theorem underscore_is_not_configured :
    Webpage.ofText "http://a_b.com/x" = .ok target ∧
      Domain.ofText target.domain = .error (.invalidDomain "a_b.com") := by
  decide +kernel

end Underscore
end WebCitation
