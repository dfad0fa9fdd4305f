import WebCitation.Proofs.Hostnames
import WebCitation.Storage.Loader

/-!
The titles of the pages that store rules. A title is a path: the root, the labels of a domain from the last to the
first, and the file of a kind of rules. No name of a domain has a slash, so the parts of the path can be read off the
title, and two domains share no page, even where the labels of one are those of the other with more in front.
-/
namespace WebCitation

open Text

theorem DomainName.IsNameOf.slash_not_mem {name : String} (h : IsNameOf isLetterOrDigit name) :
    '/' ∉ name.asciiLower.toList := by
  intro member
  rcases ((isNameOf_asciiLower (by decide) isLetterOrDigit_toLower).2 h).mem_cases member with letter | hyphen | dot
  · exact absurd letter (by decide)
  · cases hyphen
  · cases dot

namespace RuleStorage

def parts (domain : String) (kind : RuleKind) : List (List Char) :=
  (splitWhere (· == '.') domain.asciiLower.toList).reverse ++ [kind.fileName.toList]

theorem toList_title (s : RuleStorage) (domain : String) (kind : RuleKind) :
    (s.title domain kind).toList = s.root.toList ++ '/' :: join ['/'] (parts domain kind) := by
  have labels := splitWhere_ne_nil (· == '.') domain.asciiLower.toList
  rw [parts, join_concat (by simpa using labels)]
  simp [title, domainPath]

theorem slash_not_mem_parts {domain : String} (named : DomainName.IsNameOf DomainName.isLetterOrDigit domain)
    (kind : RuleKind) : ∀ part ∈ parts domain kind, '/' ∉ part := by
  intro part member slash
  rcases List.mem_append.1 member with label | file
  · refine named.slash_not_mem ?_
    rw [← join_splitWhere '.' domain.asciiLower.toList, mem_join]
    exact .inr ⟨part, List.mem_reverse.1 label, slash⟩
  · rw [List.mem_singleton.1 file] at slash
    cases kind <;> exact absurd slash (by decide)

theorem parts_ne_nil (domain : String) (kind : RuleKind) : parts domain kind ≠ [] := List.concat_ne_nil _ _

/-- The parts of a path say which domain and which kind of rules it is for. -/
theorem parts_inj {a b : String} {k l : RuleKind} :
    parts a k = parts b l ↔ a.asciiLower = b.asciiLower ∧ k = l := by
  constructor
  · intro same
    obtain ⟨labels, file⟩ := List.append_inj' same rfl
    refine ⟨?_, ?_⟩
    · have lowered := congrArg (join ['.']) (List.reverse_injective labels)
      rw [join_splitWhere, join_splitWhere] at lowered
      exact String.toList_inj.1 lowered
    · exact RuleKind.fileName_inj.1 (String.toList_inj.1 (List.singleton_injective file))
  · rintro ⟨same, rfl⟩
    rw [parts, parts, same]

end RuleStorage

/-- In one storage, the pages of two domains have the same title just if the names of the domains are the same up to the
case of ASCII letters and the pages are for the same kind of rules. -/
theorem titles_are_shared_iff (s : RuleStorage) {a b : String} {d e : Domain} (ha : Domain.ofText a = .ok d)
    (hb : Domain.ofText b = .ok e) (k l : RuleKind) :
    s.title a k = s.title b l ↔ a.asciiLower = b.asciiLower ∧ k = l := by
  have ofA := RuleStorage.slash_not_mem_parts (Domain.exists_ofText_iff.1 ⟨d, ha⟩) k
  have ofB := RuleStorage.slash_not_mem_parts (Domain.exists_ofText_iff.1 ⟨e, hb⟩) l
  rw [← RuleStorage.parts_inj, ← String.toList_inj, RuleStorage.toList_title, RuleStorage.toList_title,
    List.append_cancel_left_eq, List.cons.injEq]
  constructor
  · rintro ⟨-, joined⟩
    have split := congrArg (splitWhere (· == '/')) joined
    rwa [splitWhere_join (RuleStorage.parts_ne_nil a k) ofA,
      splitWhere_join (RuleStorage.parts_ne_nil b l) ofB] at split
  · intro same
    exact ⟨rfl, congrArg (join ['/']) same⟩

namespace Subdomain

def storage : RuleStorage := ⟨"data", "/**"⟩

def domain : Domain := .ofName ⟨"g.h", by decide⟩

def inner : Domain := .ofName ⟨"templates.g.h", by decide⟩

theorem titles_of_subdomain :
    Domain.ofText "G.h" = .ok domain ∧ Domain.ofText "g.H" = .ok domain ∧ Domain.ofText "templates.g.h" = .ok inner ∧
      storage.title "G.h" .tests = storage.title "g.H" .tests ∧
      storage.title "G.h" .tests = "data/h/g/tests.json" ∧
      storage.title "G.h" .templates ≠ storage.title "templates.g.h" .templates := by
  have here : Domain.ofText "G.h" = .ok domain := rfl
  have same : Domain.ofText "g.H" = .ok domain := rfl
  have below : Domain.ofText "templates.g.h" = .ok inner := rfl
  refine ⟨here, same, below, (titles_are_shared_iff storage here same .tests .tests).2 ⟨by decide, rfl⟩, by decide, ?_⟩
  rw [Ne, titles_are_shared_iff storage here below]
  rintro ⟨lowered, -⟩
  exact absurd lowered (by decide)

end Subdomain
end WebCitation
