import WebCitation.Proofs.Codec
import WebCitation.Proofs.NormalForm
import WebCitation.Storage.Loader

/-!
Stored rules. What a domain writes on its three pages is loaded as the same domain, with the catch-all of the
storage. A page may be inside a tag that highlights its syntax.
-/
namespace WebCitation

open Json

namespace Highlight

open Text

theorem isBlank_of_isSpace {c : Char} (h : isSpace c = true) : isBlank c = true := by
  simp only [isSpace, Bool.or_eq_true, beq_iff_eq] at h
  rcases h with ((rfl | rfl) | rfl) | rfl <;> decide

theorem isBlank_of_blank {w : List Char} (blank : Blank w) : ∀ c ∈ w, isBlank c = true :=
  fun c member => isBlank_of_isSpace (blank c member)

/-- Nothing but the outer tag is taken off, whatever tags stand inside. -/
theorem inside?_tagged {u v attributes : List Char} (before : Blank u) (unclosed : '>' ∉ attributes)
    (body : List Char) (after : Blank v) :
    inside? (u ++ opening ++ attributes ++ '>' :: body ++ closing ++ v) = some body := by
  have start : trimStart (u ++ (opening ++ (attributes ++ '>' :: (body ++ (closing ++ v))))) =
      opening ++ (attributes ++ '>' :: (body ++ (closing ++ v))) := by
    rw [trimStart_append (isBlank_of_blank before)]
    exact trimStart_cons (by decide) _
  have stop : trimEnd (body ++ (closing ++ v)) = body ++ closing := by
    rw [← List.append_assoc, trimEnd_append (isBlank_of_blank after)]
    have closed : body ++ closing = body ++ "</syntaxhighlight".toList ++ ['>'] := by
      rw [List.append_assoc]
      rfl
    rw [closed]
    exact trimEnd_concat (by decide) _
  simp only [List.append_assoc, List.cons_append]
  rw [inside?, start, dropPrefix?_append]
  simp only [Option.bind_eq_bind, Option.bind_some, cut?_append unclosed]
  rw [stop, dropSuffix?_append]

theorem not_tag_of_mem_starts {c : Char} (h : c ∈ starts) : isBlank c = false ∧ '<' ≠ c := by
  simp only [starts, List.mem_cons, List.not_mem_nil, or_false] at h
  rcases h with rfl | rfl | rfl | rfl | rfl | rfl <;> decide

theorem inside?_item {j : Json} {s : List Char} (h : WritesItem j s) : inside? s = none := by
  obtain ⟨before, h, _⟩ := h
  obtain ⟨c, t, rfl, start⟩ := h.cons
  obtain ⟨shown, other⟩ := not_tag_of_mem_starts start
  have unopened : ∀ t, dropPrefix? opening (c :: t) = none := fun t => if_neg other
  rw [inside?, List.append_assoc, trimStart_append (isBlank_of_blank before), List.cons_append, trimStart_cons shown,
    unopened]
  rfl

end Highlight

/-- The pages of a value: its text, with white space around it, or one such text inside one tag. -/
inductive PageOf (j : Json) (page : String) : Prop where
  | bare (h : WritesItem j page.toList)
  | tagged {u attributes s v : List Char} (before : Blank u) (unclosed : '>' ∉ attributes) (h : WritesItem j s)
      (after : Blank v)
      (content : page.toList = u ++ Highlight.opening ++ attributes ++ '>' :: s ++ Highlight.closing ++ v)

theorem PageOf.parse?_strip {levels : Nat} {j : Json} (plain : Plain levels j) (deep : levels < depthLimit)
    {page : String} (h : PageOf j page) : parse? (Highlight.strip page) = some j.ordered := by
  cases h with
  | bare h =>
    rw [Highlight.strip, Highlight.inside?_item h]
    exact parseWithin?_of_writes plain deep h
  | tagged before unclosed h after content =>
    rw [Highlight.strip, content, Highlight.inside?_tagged before unclosed _ after, Option.map_some, Option.getD_some,
      parse?, String.toList_ofList]
    exact parseWithin?_of_writes plain deep h

/-! Where pages are found. -/

/-- The newest revision that a query is answered with is a page. -/
def RevisionSource.Shows (source : RevisionSource) (q : RevisionQuery) (page : String) : Prop :=
  ∃ id older, source q = .ok (⟨id, some page⟩ :: older)

/-- The latest revision under a title is a page. -/
def RevisionSource.Serves (source : RevisionSource) (title page : String) : Prop :=
  ∃ id older, source (.latest title none) = .ok (⟨id, some page⟩ :: older)

namespace RevisionStore

theorem serves_save (s : RevisionStore) (title page : String) : (s.save title page).source.Serves title page := by
  refine ⟨s.nextId, [], ?_⟩
  simp [source, fetch, save, matchesQuery, RevisionQuery.latest]

theorem serves_save_of_ne {s : RevisionStore} {title other page : String} (h : s.source.Serves title page)
    (distinct : other ≠ title) (text : String) : (s.save other text).source.Serves title page := by
  obtain ⟨id, older, served⟩ := h
  refine ⟨id, older, ?_⟩
  rw [← served]
  simp [source, fetch, save, matchesQuery, RevisionQuery.latest, distinct]

def saveKinds (s : RevisionStore) (title page : RuleKind → String) (kinds : List RuleKind) : RevisionStore :=
  kinds.foldl (fun s kind => s.save (title kind) (page kind)) s

/-- A page that is saved once, or was there before, is the latest after all of them are saved. -/
theorem serves_saveKinds {title : RuleKind → String} (distinct : Function.Injective title)
    {page : RuleKind → String} {kind : RuleKind} {kinds : List RuleKind} {s : RevisionStore}
    (h : kind ∈ kinds ∨ s.source.Serves (title kind) (page kind)) :
    (s.saveKinds title page kinds).source.Serves (title kind) (page kind) := by
  induction kinds generalizing s with
  | nil => exact h.resolve_left List.not_mem_nil
  | cons other kinds ih =>
    refine ih (s := s.save (title other) (page other)) ?_
    by_cases same : other = kind
    · subst same
      exact .inr (s.serves_save (title other) (page other))
    · rcases h with member | served
      · exact .inl ((List.mem_cons.1 member).resolve_left (Ne.symm same))
      · exact .inr (serves_save_of_ne served (fun named => same (distinct named)) _)

end RevisionStore

/-! Loading. -/

/-- The rules of one kind as they are stored. -/
def Definition.Domain.stored (ds : Definition.Domain) : RuleKind → Json
  | .patterns => .array (ds.patterns.map Pattern.encode)
  | .templates => .array (ds.templates.map Template.encode)
  | .tests => .array (ds.tests.map Test.encode)

namespace RuleStorage

theorem title_injective (s : RuleStorage) (domain : String) : Function.Injective (s.title domain) := by
  intro kind other h
  rwa [title, title, String.append_right_inj, RuleKind.fileName_inj] at h

theorem definitionsOf_of_parse? {page : String} {elements : List Json}
    (h : parse? (Highlight.strip page) = some (.array elements)) (decode : Json → Option α) :
    definitionsOf decode page = .ok (elements.filterMap decode) := by
  unfold definitionsOf
  rw [h]

theorem definitionsOf_page {encode : α → Json} {decode : Json → Option α} {levels : Nat}
    (trips : RoundTrips levels encode decode) (deep : levels + 1 < depthLimit) {items : List α} {page : String}
    (h : PageOf (.array (items.map encode)) page) : definitionsOf decode page = .ok items := by
  have parsed := h.parse?_strip (trips.list.plain items) deep
  rw [ordered_array] at parsed
  rw [definitionsOf_of_parse? parsed]
  exact congrArg Except.ok (trips.filterMap items)

theorem fetch_of_shows {s : RuleStorage} {source : RevisionSource} {domain page : String} {kind : RuleKind}
    {start : Option Nat} (shown : source.Shows (.latest (s.title domain kind) start) page) (decode : Json → Option α) :
    s.fetch source decode domain kind start = definitionsOf decode page := by
  obtain ⟨id, older, answered⟩ := shown
  rw [fetch, answered]
  rfl

theorem fetch_of_serves {s : RuleStorage} {source : RevisionSource} {domain page : String} {kind : RuleKind}
    (served : source.Serves (s.title domain kind) page) (decode : Json → Option α) :
    s.fetch source decode domain kind none = definitionsOf decode page := fetch_of_shows served decode

theorem loadDefinitions_of_serves {s : RuleStorage} {source : RevisionSource} {domain : String}
    {ds : Definition.Domain} {page : RuleKind → String} (written : ∀ kind, PageOf (ds.stored kind) (page kind))
    (served : ∀ kind, source.Serves (s.title domain kind) (page kind)) :
    s.loadDefinitions source domain = .ok ds := by
  have patterns := definitionsOf_page Definition.Pattern.roundTrips (by decide) (written .patterns)
  have templates := definitionsOf_page Definition.Template.roundTrips (by decide) (written .templates)
  have tests := definitionsOf_page Definition.Test.roundTrips (by decide) (written .tests)
  rw [loadDefinitions, fetch_of_serves (served .patterns), fetch_of_serves (served .templates),
    fetch_of_serves (served .tests), patterns, templates, tests]
  rfl

theorem assemble_toDefinitions {s : RuleStorage} {p : Pattern} (compiled : Pattern.compile s.catchAll = .ok p)
    {name : String} {d : Domain} (loaded : d.Loaded name) :
    s.assemble name d.toDefinitions none = .ok { d with catchAll := p } := by
  rw [assemble, loaded.ofDefinitions_toDefinitions]
  simp only [bind, Except.bind, Domain.withCatchAll, compiled, Except.map]
  rfl

theorem load_of_serves {s : RuleStorage} {p : Pattern} (compiled : Pattern.compile s.catchAll = .ok p)
    {name : String} {d : Domain} (loaded : d.Loaded name) {page : RuleKind → String}
    (written : ∀ kind, PageOf (d.toDefinitions.stored kind) (page kind)) {source : RevisionSource}
    (served : ∀ kind, source.Serves (s.title name kind) (page kind)) :
    s.load source name none = .ok { d with catchAll := p } := by
  rw [load, loadDefinitions_of_serves written served]
  simp only [bind, Except.bind, assemble_toDefinitions compiled loaded]
  rfl

end RuleStorage

/-- Definitions under a valid name make a domain. Once its own definitions are saved, each kind on a page of its own
and in whatever order, it is loaded again with the catch-all that is configured. It is also loaded from any other
source that has those pages as the latest ones. -/
theorem stored_rules_are_loaded {settings : Settings} {p : Pattern}
    (compiled : Pattern.compile settings.catchAllPattern = .ok p) {name : String}
    (valid : DomainName.isName name.asciiLower = true) (ds : Definition.Domain) :
    ∃ d, Domain.ofDefinitions name ds = .ok d ∧
      ∀ page : RuleKind → String, (∀ kind, PageOf (d.toDefinitions.stored kind) (page kind)) →
        (∀ source : RevisionSource,
          (∀ kind, source.Serves ((RuleStorage.ofSettings settings).title name kind) (page kind)) →
          (RuleStorage.ofSettings settings).load source name none = .ok { d with catchAll := p }) ∧
        ∀ (s : RevisionStore) (kinds : List RuleKind), (∀ kind, kind ∈ kinds) →
          (RuleStorage.ofSettings settings).load
            (s.saveKinds ((RuleStorage.ofSettings settings).title name) page kinds).source name none =
              .ok { d with catchAll := p } := by
  obtain ⟨d, made⟩ := Domain.exists_ofDefinitions ds valid
  have loaded : d.Loaded name := Domain.loaded_of_ofDefinitions made
  refine ⟨d, made, fun page written => ⟨fun source served => ?_, fun s kinds every => ?_⟩⟩
  · exact RuleStorage.load_of_serves compiled loaded written served
  · refine RuleStorage.load_of_serves compiled loaded written fun kind => ?_
    exact RevisionStore.serves_saveKinds (RuleStorage.title_injective _ name) (.inl (every kind))

namespace MarkedPages

def belowC : Pattern := ⟨⟨"/c/*", [.char '/', .char 'c', .char '/', .run], by simp [Glob.parse]; rfl⟩, none⟩

def template : Template := ⟨⟨"i.j", some "</syntaxhighlight>", Keyed.empty⟩, "/c/1"⟩

def domain : Domain :=
  { Domain.ofName ⟨"i.j", by decide⟩ with
    own := ⟨[belowC], by decide⟩
    templates := ⟨[template], by decide⟩ }

def settings : Settings := Settings.standard.withCatchAllPattern "/c/*"

def page : RuleKind → String
  | .patterns => " [\x7b\"pattern\":\"/c/*\"\x7d]\n"
  | .templates =>
    "<syntaxhighlight lang=\"json\">\n[\x7b\"path\":\"/c/1\",\"label\":\"</syntaxhighlight>\",\"fields\":[]\x7d]\n" ++
      "</syntaxhighlight>\n"
  | .tests => "[ ]"

theorem written (kind : RuleKind) : PageOf (domain.toDefinitions.stored kind) (page kind) := by
  match kind with
  | .patterns =>
    have plain := Definition.Pattern.roundTrips.list.plain domain.toDefinitions.patterns
    have content : (page .patterns).toList = [' '] ++ (domain.toDefinitions.stored .patterns).write ++ ['\n'] := by
      decide
    exact .bare (content ▸ .mk (by decide) (writes_write plain) (by decide))
  | .templates =>
    have plain := Definition.Template.roundTrips.list.plain domain.toDefinitions.templates
    have content : (page .templates).toList = [] ++ Highlight.opening ++ " lang=\"json\"".toList ++ '>' ::
        (['\n'] ++ (domain.toDefinitions.stored .templates).write ++ ['\n']) ++ Highlight.closing ++ ['\n'] := by
      decide
    exact .tagged (by decide) (by decide) (.mk (by decide) (writes_write plain) (by decide)) (by decide) content
  | .tests => exact .bare (.mk blank_nil (.noItems (w := [' ']) (by decide)) blank_nil)

theorem loaded : domain.Loaded "I.J" := by
  have made : Template.ofDefinition "I.J" template.toDefinition = .ok template := rfl
  refine ⟨⟨fun t member => ?_, fun t member => ?_, fun t member => ?_⟩, rfl, rfl, rfl⟩
  · exact List.mem_singleton.1 member ▸ Template.sound_of_ofDefinition made
  · exact List.mem_singleton.1 member ▸ Template.filled_of_ofDefinition made
  · exact List.mem_singleton.1 member ▸ rfl

theorem rules_of_marked_pages :
    Pattern.compile settings.catchAllPattern = .ok belowC ∧
      (∀ kind, PageOf (domain.toDefinitions.stored kind) (page kind)) ∧
      (RuleStorage.ofSettings settings).load
        (RevisionStore.ofPages [("Web2Cit/data/j/i/tests.json", page .tests),
          ("Web2Cit/data/j/i/templates.json", page .templates),
          ("Web2Cit/data/j/i/patterns.json", page .patterns)]).source "I.J" none =
            .ok { domain with catchAll := belowC } := by
  have compiled : Pattern.compile settings.catchAllPattern = .ok belowC := belowC.compile_text
  have valid : DomainName.isName "I.J".asciiLower = true := by decide
  obtain ⟨d, made, loads⟩ := stored_rules_are_loaded compiled valid domain.toDefinitions
  cases made.symm.trans loaded.ofDefinitions_toDefinitions
  exact ⟨compiled, written, (loads page written).2 .empty [.tests, .templates, .patterns] fun kind => by
    cases kind <;> decide⟩

end MarkedPages
end WebCitation
