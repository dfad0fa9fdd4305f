import Mathlib.Data.List.Find
import Mathlib.Data.List.Nodup
import Mathlib.Data.List.Perm.Basic
import WebCitation.Proofs.Records

/-!
What outputs of templates say. A citation is put together field by field, but which field comes first makes no
difference: every part of the citation has its values from the one valid field of its name.
-/
namespace WebCitation

namespace Citation

/-- Authors from their first and their last names; a name that is missing is empty. -/
def pairAuthors : List String → List String → List Author
  | [], lasts => lasts.map fun last => ⟨"", last⟩
  | first :: firsts, lasts => ⟨first, lasts.head?.getD ""⟩ :: pairAuthors firsts lasts.tail

theorem length_pairAuthors (firsts lasts : List String) :
    (pairAuthors firsts lasts).length = max firsts.length lasts.length := by
  induction firsts generalizing lasts with
  | nil => simp [pairAuthors]
  | cons first firsts ih =>
    rw [pairAuthors, List.length_cons, ih, List.length_tail, List.length_cons]
    omega

theorem getElem?_pairAuthors (firsts lasts : List String) (i : Nat)
    (h : i < max firsts.length lasts.length) :
    (pairAuthors firsts lasts)[i]? = some ⟨firsts[i]?.getD "", lasts[i]?.getD ""⟩ := by
  induction firsts generalizing lasts i with
  | nil =>
    have inside : i < lasts.length := by simpa using h
    simp [pairAuthors, inside]
  | cons first firsts ih =>
    cases i with
    | zero => simp [pairAuthors, List.head?_eq_getElem?]
    | succ i =>
      have inside : i < max firsts.length lasts.tail.length := by
        rw [List.length_cons] at h
        rw [List.length_tail]
        omega
      rw [pairAuthors, List.getElem?_cons_succ, ih _ _ inside, List.getElem?_tail, List.getElem?_cons_succ]

theorem nameAuthors_setFirst (firsts lasts : List String) :
    nameAuthors setFirst (pairAuthors [] lasts) firsts = pairAuthors firsts lasts := by
  induction firsts generalizing lasts with
  | nil => rw [nameAuthors]
  | cons first firsts ih =>
    have rest := ih lasts.tail
    cases lasts <;> simpa [pairAuthors, nameAuthors, setFirst] using rest

theorem nameAuthors_setLast (firsts lasts : List String) :
    nameAuthors setLast (pairAuthors firsts []) lasts = pairAuthors firsts lasts := by
  induction lasts generalizing firsts with
  | nil => rw [nameAuthors]
  | cons last lasts ih =>
    cases firsts with
    | nil => simpa [pairAuthors, nameAuthors, setLast] using ih []
    | cons first firsts => simpa [pairAuthors, nameAuthors, setLast] using ih firsts

/-- The citation whose parts have the given values. Parts that hold one value take the first. -/
def ofValues (url : String) (values : FieldName → Option (List String)) : Citation :=
  let single (name : FieldName) : Option String := (values name).bind List.head?
  ⟨single .itemType, single .title,
    pairAuthors ((values .authorFirst).getD []) ((values .authorLast).getD []), single .date,
    single .publishedIn, single .publishedBy, single .language, url⟩

theorem ofUrl_eq_ofValues (url : String) : ofUrl url = ofValues url fun _ => none := rfl

theorem ofValues_congr {url : String} {values values' : FieldName → Option (List String)}
    (h : ∀ name, name.isControl = false → values name = values' name) :
    ofValues url values = ofValues url values' := by
  simp only [ofValues, h .itemType rfl, h .title rfl, h .authorFirst rfl, h .authorLast rfl, h .date rfl,
    h .publishedIn rfl, h .publishedBy rfl, h .language rfl]

theorem apply_ofValues {url : String} {values : FieldName → Option (List String)} {name : FieldName}
    (h : values name = none) (given : List String) :
    (ofValues url values).apply name given = ofValues url (Function.update values name (some given)) := by
  cases name with
  | authorFirst => simp [apply, ofValues, Function.update, h, nameAuthors_setFirst]
  | authorLast => simp [apply, ofValues, Function.update, h, nameAuthors_setLast]
  | _ => simp [apply, ofValues, Function.update]

end Citation

namespace TemplateOutput

/-- The values that the outputs hold under a name. -/
def values? (fields : List FieldOutput) (name : FieldName) : Option (List String) :=
  (fields.find? fun f => f.name = name).map FieldOutput.values

theorem foldl_apply_eq_ofValues {url : String} {fields : List FieldOutput}
    (distinct : (fields.map FieldOutput.name).Nodup) {values : FieldName → Option (List String)}
    (fresh : ∀ f ∈ fields, values f.name = none) :
    fields.foldl (fun c f => c.apply f.name f.values) (Citation.ofValues url values) =
      Citation.ofValues url fun name => (values? fields name).or (values name) := by
  induction fields generalizing values with
  | nil => rfl
  | cons f fields ih =>
    rw [List.map_cons, List.nodup_cons] at distinct
    rw [List.foldl_cons, Citation.apply_ofValues (fresh f List.mem_cons_self), ih distinct.2]
    · congr 1
      funext name
      by_cases here : f.name = name
      · have later : values? fields name = none := by
          rw [values?, Option.map_eq_none_iff, List.find?_eq_none]
          intro g member same
          exact distinct.1 (here ▸ of_decide_eq_true same ▸ List.mem_map_of_mem member)
        subst here
        rw [later]
        simp [values?]
      · simp [values?, here, Function.update_of_ne (Ne.symm here)]
    · intro g member
      have other : g.name ≠ f.name := fun same => distinct.1 (same ▸ List.mem_map_of_mem member)
      rw [Function.update_of_ne other]
      exact fresh g (List.mem_cons_of_mem f member)

def validField? (fields : List FieldOutput) (name : FieldName) : Option FieldOutput :=
  (fields.filter FieldOutput.valid).find? fun f => f.name = name

theorem mem_of_validField? {fields : List FieldOutput} {name : FieldName} {f : FieldOutput}
    (h : validField? fields name = some f) : f ∈ fields ∧ f.valid = true ∧ f.name = name := by
  obtain ⟨member, valid⟩ := List.mem_filter.1 (List.mem_of_find?_eq_some h)
  exact ⟨member, valid, by simpa using List.find?_some h⟩

theorem validField?_of_mem {fields : List FieldOutput} (distinct : (fields.map FieldOutput.name).Nodup)
    {f : FieldOutput} (member : f ∈ fields) :
    validField? fields f.name = if f.valid then some f else none := by
  cases valid : f.valid with
  | true =>
    have kept : f ∈ fields.filter FieldOutput.valid := List.mem_filter.2 ⟨member, valid⟩
    exact Keyed.find?_key_of_mem (distinct.sublist (List.filter_sublist.map _)) kept
  | false =>
    refine Option.eq_none_iff_forall_ne_some.2 fun g found => ?_
    obtain ⟨hg, accepted, named⟩ := mem_of_validField? found
    have same : g = f := List.inj_on_of_nodup_map distinct hg member named
    rw [same, valid] at accepted
    cases accepted

theorem validField?_perm {fields fields' : List FieldOutput}
    (distinct : (fields.map FieldOutput.name).Nodup) (h : fields.Perm fields') (name : FieldName) :
    validField? fields name = validField? fields' name := by
  refine List.find?_eq_find?_of_perm (h.filter _) ?_
  rintro f ⟨hf, named⟩ g ⟨hg, named'⟩
  have same : f.name = g.name := (of_decide_eq_true named).trans (of_decide_eq_true named').symm
  exact List.inj_on_of_nodup_map distinct (List.mem_filter.1 hf).1 (List.mem_filter.1 hg).1 same

/-- A citation has its values from the valid fields, whatever their order. -/
theorem cite_eq_ofValues {url : String} {fields : List FieldOutput}
    (distinct : (fields.map FieldOutput.name).Nodup)
    (control : ∀ f ∈ fields, f.control = f.name.isControl) :
    cite url fields = Citation.ofValues url fun name => (validField? fields name).map FieldOutput.values := by
  have found : ∀ name, name.isControl = false →
      values? (fields.filter fun f => f.valid && !f.control) name =
        (validField? fields name).map FieldOutput.values := by
    intro name other
    refine congrArg (Option.map FieldOutput.values) ?_
    rw [validField?, List.find?_filter, List.find?_filter]
    refine List.find?_congr fun f member => ?_
    by_cases here : f.name = name
    · simp [here, control f member, other]
    · simp [here]
  rw [cite, Citation.ofUrl_eq_ofValues,
    foldl_apply_eq_ofValues (distinct.sublist (List.filter_sublist.map _)) fun _ _ => rfl]
  simp only [Option.or_none]
  exact Citation.ofValues_congr found

end TemplateOutput

namespace TemplateField

theorem length_check_le {f : TemplateField} (single : f.name.isArray = false) (values : List String) :
    (f.check values).length ≤ 1 := by
  rw [check, List.length_map, gather]
  simp only [single, Bool.not_false, Bool.true_and, decide_eq_true_eq]
  split
  · exact Nat.le_refl 1
  · omega

namespace Records

variable {s : Served} {f : TemplateField} {o : FieldOutput}

theorem name (h : f.Records s o) : o.name = f.name := by
  rw [h.made]
  rfl

theorem control (h : f.Records s o) : o.control = o.name.isControl := by
  rw [h.made]
  rfl

theorem applicable_iff (h : f.Records s o) : o.applicable = true ↔ o.valid = true ∨ f.required = false := by
  rw [h.made]
  simp [outputOf]

theorem single (h : f.Records s o) (single : f.name.isArray = false) (valid : o.valid = true) :
    ∃ value, o.output = [some value] := by
  have short : o.output.length ≤ 1 := by
    rw [h.made]
    exact length_check_le single _
  have accepted : FieldOutput.isValid o.output = true := by
    rw [h.made] at valid ⊢
    exact valid
  match hv : o.output, short, accepted with
  | [some value], _, _ => exact ⟨value, rfl⟩
  | [none], _, accepted => cases accepted
  | [], _, accepted => cases accepted

end Records
end TemplateField

namespace Citation

open TemplateOutput

/-- The part of a citation that a field with one value fills. -/
def part? (c : Citation) : FieldName → Option String
  | .itemType => c.itemType
  | .title => c.title
  | .date => c.date
  | .publishedIn => c.publishedIn
  | .publishedBy => c.publishedBy
  | .language => c.language
  | .authorFirst | .authorLast | .control => none

/-- The values of the valid field of a name, none if there is no such field. -/
def validValues (fields : List FieldOutput) (name : FieldName) : List String :=
  ((validField? fields name).map FieldOutput.values).getD []

/-- What a citation says of a page, given the outputs of the fields. -/
structure SumsUp (c : Citation) (url : String) (fields : List FieldOutput) : Prop where
  url : c.url = url
  /-- A part with one value has that of the valid field, and is null where no valid field has its name. -/
  part : ∀ name : FieldName, name.isArray = false → name.isControl = false →
    match validField? fields name with
    | some f => ∃ value, f.output = [some value] ∧ c.part? name = some value
    | none => c.part? name = none
  /-- There are as many authors as the longer list of names has. -/
  length_authors : c.authors.length =
    max (validValues fields .authorFirst).length (validValues fields .authorLast).length
  /-- Names belong together by their positions; a missing one is empty. -/
  author : ∀ i, i < c.authors.length → c.authors[i]? =
    some ⟨(validValues fields .authorFirst)[i]?.getD "", (validValues fields .authorLast)[i]?.getD ""⟩

theorem part?_ofValues {name : FieldName} (single : name.isArray = false) (other : name.isControl = false)
    (url : String) (values : FieldName → Option (List String)) :
    (ofValues url values).part? name = (values name).bind List.head? := by
  cases name with
  | authorFirst | authorLast => cases single
  | control => cases other
  | _ => rfl

theorem sumsUp_ofValues {url : String} {fields : List FieldOutput}
    (one : ∀ f ∈ fields, f.name.isArray = false → f.valid = true → ∃ value, f.output = [some value]) :
    (ofValues url fun name => (validField? fields name).map FieldOutput.values).SumsUp url fields where
  url := rfl
  part name single other := by
    rw [part?_ofValues single other]
    cases h : validField? fields name with
    | none => rfl
    | some f =>
      obtain ⟨member, valid, named⟩ := mem_of_validField? h
      obtain ⟨value, output⟩ := one f member (named ▸ single) valid
      exact ⟨value, output, by simp [FieldOutput.values, output]⟩
  length_authors := length_pairAuthors _ _
  author i h := getElem?_pairAuthors _ _ i (length_pairAuthors _ _ ▸ h)

end Citation

namespace TemplateRules

variable {s : Served} {t : TemplateRules} {path : Option String} {target : Webpage}

theorem resultOn_reading_eq_ok_iff {o : TemplateOutput} :
    (t.reading path target).resultOn s = .ok o ↔
      target.domain = t.domain ∧
        ∃ fields, List.Forall₂ (fun f o => f.reading.resultOn s = .ok o) t.fields.items fields ∧
          o = t.outputOf path target.address fields := by
  unfold reading
  split
  · rename_i own
    simp only [Reading.resultOn_map_eq_ok_iff, Reading.resultOn_all, mapM_eq_ok_iff,
      List.forall₂_map_left_iff]
    constructor
    · rintro ⟨fields, hf, made⟩
      exact ⟨own, fields, hf, made.symm⟩
    · rintro ⟨_, fields, hf, made⟩
      exact ⟨fields, hf, made.symm⟩
  · rename_i other
    simp [Reading.fail, other]

/-- The outputs of the fields of a template stand in its order, under its names. -/
theorem map_name_of_records {fields : List FieldOutput}
    (h : List.Forall₂ (TemplateField.Records s) t.fields.items fields) :
    fields.map FieldOutput.name = t.fields.items.map TemplateField.name := by
  generalize t.fields.items = items at h
  induction h with
  | nil => rfl
  | cons hf _ ih => rw [List.map_cons, List.map_cons, hf.name, ih]

theorem exists_field_of_mem {fields : List FieldOutput}
    (h : List.Forall₂ (TemplateField.Records s) t.fields.items fields) {o : FieldOutput} (member : o ∈ fields) :
    ∃ f : TemplateField, f.Records s o := by
  obtain ⟨f, _, hf⟩ := exists_mem_of_forall₂ h member
  exact ⟨f, hf⟩

theorem all_applicable_iff {fields : List FieldOutput}
    (h : List.Forall₂ (TemplateField.Records s) t.fields.items fields) :
    fields.all FieldOutput.applicable = true ↔
      List.Forall₂ (fun f o => o.valid = true ∨ f.required = false) t.fields.items fields := by
  generalize t.fields.items = items at h
  induction h with
  | nil => simp
  | cons hf _ ih => rw [List.all_cons, Bool.and_eq_true, hf.applicable_iff, ih, List.forall₂_cons]

theorem distinct_names {fields : List FieldOutput}
    (h : List.Forall₂ (TemplateField.Records s) t.fields.items fields) :
    (fields.map FieldOutput.name).Nodup := map_name_of_records h ▸ t.fields.distinct

theorem cite_eq_ofValues {fields : List FieldOutput}
    (h : List.Forall₂ (TemplateField.Records s) t.fields.items fields) (url : String) :
    TemplateOutput.cite url fields =
      .ofValues url fun name => (TemplateOutput.validField? fields name).map FieldOutput.values := by
  refine TemplateOutput.cite_eq_ofValues (distinct_names h) fun o member => ?_
  obtain ⟨f, hf⟩ := exists_field_of_mem h member
  exact hf.control

theorem sumsUp_cite {fields : List FieldOutput}
    (h : List.Forall₂ (TemplateField.Records s) t.fields.items fields) (url : String) :
    (TemplateOutput.cite url fields).SumsUp url fields := by
  rw [cite_eq_ofValues h]
  refine Citation.sumsUp_ofValues fun o member single valid => ?_
  obtain ⟨f, hf⟩ := exists_field_of_mem h member
  exact hf.single (hf.name ▸ single) valid

/-- The order of the fields decides neither whether a template applies nor what it cites. -/
theorem exists_resultOn_of_perm {u : TemplateRules} {o : TemplateOutput}
    (domain : u.domain = t.domain) (perm : u.fields.items.Perm t.fields.items)
    (h : (t.reading path target).resultOn s = .ok o) :
    ∃ o', (u.reading path target).resultOn s = .ok o' ∧
      o'.applicable = o.applicable ∧ o'.citation = o.citation := by
  obtain ⟨own, fields, hf, rfl⟩ := resultOn_reading_eq_ok_iff.1 h
  obtain ⟨fields', hf', same⟩ := List.perm_comp_forall₂ perm hf
  refine ⟨u.outputOf path target.address fields',
    resultOn_reading_eq_ok_iff.2 ⟨domain ▸ own, fields', hf', rfl⟩, ?_⟩
  have recorded := hf.imp fun _ _ => TemplateField.records_of_reading
  have recorded' := hf'.imp fun _ _ => TemplateField.records_of_reading
  have applies : fields'.all FieldOutput.applicable = fields.all FieldOutput.applicable := same.all_eq
  have cites : TemplateOutput.cite target.address fields' = TemplateOutput.cite target.address fields := by
    rw [cite_eq_ofValues recorded, cite_eq_ofValues recorded']
    simp only [TemplateOutput.validField?_perm (distinct_names recorded') same]
  simp only [outputOf, applies, cites, and_self]

end TemplateRules

/-- A template or a fallback, which has no path, has the outputs of its fields in their order, and applies where
each of them is valid or not required. Only then is there a citation, and it sums up the valid fields. The order
of the fields makes no difference to it. -/
theorem output_sums_up_fields (t : TemplateRules) (path : Option String) (v : Visit) {o : TemplateOutput}
    (h : (v.run (t.reading path v.webpage)).1 = .ok o) :
    o.fields.map FieldOutput.name = t.fields.items.map TemplateField.name ∧
      (o.applicable = true ↔
        List.Forall₂ (fun f o => o.valid = true ∨ f.required = false) t.fields.items o.fields) ∧
      (match o.citation with
        | some c => o.applicable = true ∧ c.SumsUp v.webpage.address o.fields
        | none => o.applicable = false) ∧
      ∀ (u : TemplateRules) (w : Visit), u.domain = t.domain → u.fields.items.Perm t.fields.items → v.Alike w →
        ∃ o', (w.run (u.reading path w.webpage)).1 = .ok o' ∧
          o'.applicable = o.applicable ∧ o'.citation = o.citation := by
  rw [Visit.run_eq_ok_iff] at h
  obtain ⟨own, fields, hf, rfl⟩ := TemplateRules.resultOn_reading_eq_ok_iff.1 h
  have recorded := hf.imp fun _ _ => TemplateField.records_of_reading
  refine ⟨TemplateRules.map_name_of_records recorded, TemplateRules.all_applicable_iff recorded, ?_, ?_⟩
  · cases applies : fields.all FieldOutput.applicable with
    | true =>
      simp only [TemplateRules.outputOf, applies, if_true]
      exact ⟨trivial, TemplateRules.sumsUp_cite recorded _⟩
    | false => simp [TemplateRules.outputOf, applies]
  · intro u w domain perm alike
    simp only [Visit.run_eq_ok_iff, ← alike.webpage, ← alike.served]
    exact TemplateRules.exists_resultOn_of_perm domain perm h

namespace FiveFields

def target : Webpage := ⟨⟨.https, "", "", "g.h", none, "/x", none, none⟩⟩

def source : SimpleCitation :=
  ⟨[("title", .single "T"), ("authorFirst", .multiple ["A", "B"]), ("authorLast", .multiple ["C"])], by decide⟩

def fromKey (key : CitoidKey) : List Procedure := [⟨[.citoid (some key)], []⟩]

theorem title_listed : "title" ∈ SimpleCitation.keys := by decide

theorem authorLast_listed : "authorLast" ∈ SimpleCitation.keys := by decide

/-- Last names before first names, and two optional fields without values. -/
def rules : TemplateRules :=
  ⟨"g.h", none,
    ⟨[⟨.authorLast, false, fromKey ⟨"authorLast", authorLast_listed⟩⟩, ⟨.control, false, []⟩,
      ⟨.title, true, fromKey ⟨"title", title_listed⟩⟩, ⟨.authorFirst, true, fromKey ⟨"authorFirst", by decide⟩⟩,
      ⟨.date, false, []⟩], by decide⟩⟩

def reversed : TemplateRules := { rules with fields := ⟨rules.fields.items.reverse, by decide⟩ }

def visit (citoidDelay : Option Nat) : Visit :=
  .start target (.error .transport) (.ok source) none citoidDelay

def citation : Citation :=
  { Citation.ofUrl target.address with title := some "T", authors := [⟨"A", "C"⟩, ⟨"B", ""⟩] }

theorem citation_of_five_fields :
    ∃ o o', ((visit none).run (rules.reading (some "/x") target)).1 = .ok o ∧
      o.fields.map FieldOutput.name = [.authorLast, .control, .title, .authorFirst, .date] ∧
      o.applicable = true ∧ o.citation = some citation ∧ citation.SumsUp target.address o.fields ∧
      ((visit (some 5)).run (reversed.reading (some "/x") target)).1 = .ok o' ∧ o'.citation = some citation := by
  obtain ⟨o, ran, applies, cites⟩ : ∃ o, ((visit none).run (rules.reading (some "/x") target)).1 = .ok o ∧
      o.applicable = true ∧ o.citation = some citation := ⟨_, (Visit.run_eq_ok_iff _ _ _).2 rfl, rfl, rfl⟩
  obtain ⟨names, -, sums, permuted⟩ := output_sums_up_fields rules (some "/x") (visit none) ran
  rw [cites] at sums
  obtain ⟨o', ran', -, cites'⟩ := permuted reversed (visit (some 5)) rfl (List.reverse_perm _)
    (Visit.alike_start _ _ _ _ _ _ _)
  exact ⟨o, o', ran, names, applies, cites, sums.2, ran', cites'.trans cites⟩

end FiveFields
end WebCitation
