import Mathlib.Data.List.TakeDrop
import Mathlib.Data.List.TakeWhile
import WebCitation.Proofs.Citations

/-!
Citations are well formed. Whatever a page holds and whatever is made of it, a field is valid only if all its values
have the shape that it asks for, and a citation holds no values but those of valid fields.
-/
namespace WebCitation

/-- A text on one line, not empty, and without white space at its ends. -/
structure Text.IsLine (s : String) : Prop where
  nonempty : s ≠ ""
  first : ∀ c, s.toList.head? = some c → isBlank c = false
  last : ∀ c, s.toList.getLast? = some c → isBlank c = false
  one : '\n' ∉ s.toList

/-- Two or three small letters, and then nothing or a hyphen with two to four letters after it. -/
def IsLanguageTag (s : String) : Prop :=
  ∃ code region, s.toList = code ++ region ∧
    (2 ≤ code.length ∧ code.length ≤ 3 ∧ ∀ c ∈ code, c.isLower = true) ∧
    (region = [] ∨
      ∃ letters, region = '-' :: letters ∧ 2 ≤ letters.length ∧ letters.length ≤ 4 ∧ ∀ c ∈ letters, c.isAlpha = true)

structure Author.WellFormed (a : Author) : Prop where
  first : a.first = "" ∨ Text.IsLine a.first
  last : a.last = "" ∨ Text.IsLine a.last
  named : ¬ (a.first = "" ∧ a.last = "")

structure Citation.WellFormed (c : Citation) : Prop where
  itemType : ∀ s, c.itemType = some s → s ∈ FieldName.itemTypes
  language : ∀ s, c.language = some s → IsLanguageTag s
  title : ∀ s, c.title = some s → Text.IsLine s
  publishedIn : ∀ s, c.publishedIn = some s → Text.IsLine s
  publishedBy : ∀ s, c.publishedBy = some s → Text.IsLine s
  authors : ∀ a ∈ c.authors, a.WellFormed

theorem Text.isTrimmed_trimmed (s : String) : IsTrimmed s.trimmed.toList := by
  rw [String.trimmed, String.toList_ofList]
  exact isTrimmed_trim s.toList

namespace FieldName

/-- The values that a field holds: they are accepted as they were trimmed. -/
def Takes (name : FieldName) (value : String) : Prop :=
  name.accepts value = true ∧ ∃ given : String, given.trimmed = value

/-- The fields that take any text on one line. -/
def isText : FieldName → Bool
  | title | authorFirst | authorLast | publishedIn | publishedBy => true
  | _ => false

theorem Takes.isLine {name : FieldName} (text : name.isText = true) {value : String} (h : name.Takes value) :
    Text.IsLine value := by
  obtain ⟨accepted, given, rfl⟩ := h
  have filled : given.trimmed ≠ "" ∧ '\n' ∉ given.trimmed.toList := by
    cases name with
    | title | authorFirst | authorLast | publishedIn | publishedBy => simpa [accepts] using accepted
    | _ => cases text
  have trimmed := Text.isTrimmed_trimmed given
  exact ⟨filled.1, trimmed.1, trimmed.2, filled.2⟩

theorem isLanguageTag_of_isLanguage {s : String} (h : isLanguage s.toList = true) : IsLanguageTag s := by
  unfold isLanguage at h
  rw [List.span_eq_takeWhile_dropWhile] at h
  simp only [Bool.and_eq_true, decide_eq_true_eq] at h
  obtain ⟨⟨least, most⟩, tail⟩ := h
  refine ⟨s.toList.takeWhile Char.isLower, s.toList.dropWhile Char.isLower,
    List.takeWhile_append_dropWhile.symm, ⟨least, most, fun c member => List.mem_takeWhile_imp member⟩, ?_⟩
  split at tail
  · rename_i none
    exact .inl none
  · rename_i letters some
    simp only [Bool.and_eq_true, decide_eq_true_eq, List.all_eq_true] at tail
    exact .inr ⟨letters, some, tail.1.1, tail.1.2, tail.2⟩
  · cases tail

end FieldName

namespace Citation

theorem names_of_mem_pairAuthors {firsts lasts : List String} {a : Author} (member : a ∈ pairAuthors firsts lasts) :
    (a.first = "" ∨ a.first ∈ firsts) ∧ (a.last = "" ∨ a.last ∈ lasts) ∧ (a.first ∈ firsts ∨ a.last ∈ lasts) := by
  induction firsts generalizing lasts with
  | nil =>
    obtain ⟨last, inside, rfl⟩ := List.mem_map.1 member
    exact ⟨.inl rfl, .inr inside, .inr inside⟩
  | cons first firsts ih =>
    obtain rfl | later := List.mem_cons.1 member
    · have last : lasts.head?.getD "" = "" ∨ lasts.head?.getD "" ∈ lasts := by cases lasts <;> simp
      exact ⟨.inr List.mem_cons_self, last, .inl List.mem_cons_self⟩
    · obtain ⟨hfirst, hlast, named⟩ := ih later
      exact ⟨hfirst.imp_right (List.mem_cons_of_mem first), hlast.imp_right List.mem_of_mem_tail,
        named.imp (List.mem_cons_of_mem first) List.mem_of_mem_tail⟩

theorem mem_of_part?_ofValues {url : String} {values : FieldName → Option (List String)} {name : FieldName}
    {value : String} (h : (ofValues url values).part? name = some value) : value ∈ (values name).getD [] := by
  have single : (values name).bind List.head? = some value := by
    cases name with
    | authorFirst | authorLast | control => cases h
    | _ => exact h
  obtain ⟨given, hv, first⟩ := Option.bind_eq_some_iff.1 single
  rw [hv]
  exact List.mem_of_head? first

theorem wellFormed_ofValues {url : String} {values : FieldName → Option (List String)}
    (taken : ∀ name, ∀ value ∈ (values name).getD [], name.Takes value) : (ofValues url values).WellFormed := by
  have part : ∀ (name : FieldName) (s : String), (ofValues url values).part? name = some s → name.Takes s :=
    fun name s h => taken name s (mem_of_part?_ofValues h)
  refine ⟨?_, ?_, ?_, ?_, ?_, ?_⟩
  · intro s h
    exact List.contains_iff_mem.1 (part .itemType s h).1
  · intro s h
    exact FieldName.isLanguageTag_of_isLanguage (part .language s h).1
  · intro s h
    exact (part .title s h).isLine rfl
  · intro s h
    exact (part .publishedIn s h).isLine rfl
  · intro s h
    exact (part .publishedBy s h).isLine rfl
  · intro a member
    obtain ⟨hfirst, hlast, named⟩ := names_of_mem_pairAuthors member
    have first : a.first ∈ (values .authorFirst).getD [] → Text.IsLine a.first :=
      fun member => (taken .authorFirst a.first member).isLine rfl
    have last : a.last ∈ (values .authorLast).getD [] → Text.IsLine a.last :=
      fun member => (taken .authorLast a.last member).isLine rfl
    refine ⟨hfirst.imp_right first, hlast.imp_right last, fun ⟨noFirst, noLast⟩ => ?_⟩
    cases named with
    | inl inside => exact (first inside).nonempty noFirst
    | inr inside => exact (last inside).nonempty noLast

end Citation

theorem TemplateField.accept_eq_some_iff {f : TemplateField} {given value : String} :
    f.accept given = some value ↔ given.trimmed = value ∧ f.name.accepts value = true := by
  rw [accept]
  constructor
  · intro h
    split at h
    · rename_i taken
      cases h
      exact ⟨rfl, taken⟩
    · cases h
  · rintro ⟨rfl, taken⟩
    exact if_pos taken

theorem TemplateField.takes_of_mem_check {f : TemplateField} {values : List String} {value : String}
    (member : some value ∈ f.check values) : f.name.Takes value := by
  obtain ⟨given, _, accepted⟩ := List.mem_map.1 member
  obtain ⟨trimmed, taken⟩ := accept_eq_some_iff.1 accepted
  exact ⟨taken, given, trimmed⟩

theorem TemplateField.Records.takes {s : Served} {f : TemplateField} {o : FieldOutput} (h : f.Records s o)
    {value : String} (member : value ∈ o.values) : o.name.Takes value := by
  have inside : some value ∈ o.output := by simpa [FieldOutput.values] using member
  rw [h.made] at inside
  rw [h.name]
  exact takes_of_mem_check inside

theorem TemplateRules.wellFormed_cite {s : Served} {t : TemplateRules} {fields : List FieldOutput}
    (recorded : List.Forall₂ (TemplateField.Records s) t.fields.items fields) (url : String) :
    (TemplateOutput.cite url fields).WellFormed := by
  rw [cite_eq_ofValues recorded]
  refine Citation.wellFormed_ofValues fun name value member => ?_
  cases found : TemplateOutput.validField? fields name with
  | none =>
    rw [found] at member
    cases member
  | some o =>
    rw [found] at member
    obtain ⟨inside, _, rfl⟩ := TemplateOutput.mem_of_validField? found
    obtain ⟨f, hf⟩ := exists_field_of_mem recorded inside
    exact hf.takes member

/-- Every citation that a template or a fallback comes to is well formed, whatever the page and the rules are. -/
theorem citations_are_well_formed (t : TemplateRules) (path : Option String) (v : Visit) {o : TemplateOutput}
    (h : (v.run (t.reading path v.webpage)).1 = .ok o) {c : Citation} (cited : o.citation = some c) :
    c.WellFormed := by
  have ran : (Candidate.reading ⟨t, path⟩ v.webpage).resultOn v.served = .ok o := (Visit.run_eq_ok_iff _ _ _).1 h
  have recorded := Candidate.records_of_reading ran
  obtain ⟨_, made⟩ := recorded.citation_eq_some_iff.1 cited
  rw [← made]
  exact t.wellFormed_cite recorded.fields _

namespace PaddedValues

def target : Webpage := ⟨⟨.https, "", "", "s.t", none, "/x", none, none⟩⟩

def source : SimpleCitation :=
  ⟨[("title", .single " A B\t"), ("language", .single "pt-BR "), ("authorFirst", .multiple ["C"]),
    ("authorLast", .multiple [" D", "E"])], by decide⟩

theorem listed : ∀ name ∈ [FieldName.title, .language, .authorFirst, .authorLast], name.text ∈ SimpleCitation.keys := by
  decide

def field (name : FieldName) (h : name.text ∈ SimpleCitation.keys) : TemplateField :=
  ⟨name, false, [⟨[.citoid (some ⟨name.text, h⟩)], []⟩]⟩

def rules : TemplateRules :=
  ⟨"s.t", none,
    ⟨[field .title (listed _ (by simp)), field .language (listed _ (by simp)),
      field .authorFirst (listed _ (by simp)), field .authorLast (listed _ (by simp))], by decide⟩⟩

def visit : Visit := .start target (.error .transport) (.ok source) none none

def citation : Citation :=
  { Citation.ofUrl target.address with
    title := some "A B"
    language := some "pt-BR"
    authors := [⟨"C", "D"⟩, ⟨"", "E"⟩] }

theorem citation_of_padded_values :
    ∃ o, (visit.run (rules.reading (some "/x") target)).1 = .ok o ∧ o.citation = some citation ∧
      citation.WellFormed := by
  obtain ⟨o, ran, cites⟩ : ∃ o, (visit.run (rules.reading (some "/x") target)).1 = .ok o ∧
      o.citation = some citation := ⟨_, (Visit.run_eq_ok_iff _ _ _).2 rfl, rfl⟩
  exact ⟨o, ran, cites, citations_are_well_formed rules (some "/x") visit ran cites⟩

end PaddedValues
end WebCitation
