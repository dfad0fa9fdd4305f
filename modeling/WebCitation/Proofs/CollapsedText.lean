import WebCitation.Proofs.Pieces
import WebCitation.XPath.Selection

/-!
Texts with their white space collapsed. Trimming and squeezing leave the words of a text alone, and what is left is the
words with one space between any two. So a collapsed text is known from the words, and the words of two texts that are
put together are known from those of each, unless two of them meet.
-/
namespace WebCitation

namespace Text

/-! Words. The run that is being read goes on from character to character, so inductions generalise it. -/

theorem wordsFrom_append_cons {c : Char} (blank : isBlank c = true) (current s t : List Char) :
    wordsFrom current (s ++ c :: t) = wordsFrom current s ++ words t := by
  induction s generalizing current with
  | nil =>
    simp only [List.nil_append, wordsFrom, if_pos blank]
    split <;> rfl
  | cons d s ih =>
    simp only [List.cons_append, wordsFrom]
    split
    · split
      · exact ih []
      · rw [ih [], List.cons_append]
    · exact ih (d :: current)

theorem words_append_cons {c : Char} (blank : isBlank c = true) (s t : List Char) :
    words (s ++ c :: t) = words s ++ words t := wordsFrom_append_cons blank [] s t

theorem words_cons {c : Char} (blank : isBlank c = true) (s : List Char) : words (c :: s) = words s :=
  words_append_cons blank [] s

theorem wordsFrom_ne_nil {current : List Char} (begun : current ≠ []) (s : List Char) : wordsFrom current s ≠ [] := by
  induction s generalizing current with
  | nil => simp [wordsFrom, begun]
  | cons c s ih =>
    rw [wordsFrom]
    split
    · simp [begun]
    · exact ih (List.cons_ne_nil c current)

theorem words_ne_nil {c : Char} (shown : isBlank c = false) {s : List Char} (h : c ∈ s) : words s ≠ [] := by
  induction s with
  | nil => cases h
  | cons d s ih =>
    cases blank : isBlank d with
    | true =>
      rw [words_cons blank]
      refine ih ((List.mem_cons.1 h).resolve_left fun same => ?_)
      rw [same, blank] at shown
      cases shown
    | false =>
      rw [words, wordsFrom, if_neg (by simp [blank])]
      exact wordsFrom_ne_nil (List.cons_ne_nil d []) s

theorem modifyHead_nil_append (pieces : List (List Char)) : pieces.modifyHead ([] ++ ·) = pieces := by
  cases pieces <;> rfl

theorem wordsFrom_eq_filter (current s : List Char) :
    wordsFrom current s = ((s.splitOnP isBlank).modifyHead (current.reverse ++ ·)).filter (· ≠ []) := by
  induction s generalizing current with
  | nil =>
    rw [wordsFrom, List.splitOnP_nil, List.modifyHead_cons, List.append_nil]
    cases current <;> simp
  | cons c s ih =>
    rw [wordsFrom, List.splitOnP_cons_eq_if_modifyHead]
    split
    · rw [ih [], List.reverse_nil, modifyHead_nil_append]
      cases current <;> simp
    · rw [ih (c :: current), List.modifyHead_modifyHead]
      simp [Function.comp_def]

/-- The words of a text are what stands between one white space character and the next, where that is anything. -/
theorem words_eq_filter (s : List Char) : words s = (splitWhere isBlank s).filter (· ≠ []) := by
  rw [words, wordsFrom_eq_filter, splitWhere_eq_splitOnP, List.reverse_nil, modifyHead_nil_append]

/-! Steps of collapsing, and the words that they leave alone whatever stands before or after. -/

theorem wordsFrom_congr {s t : List Char} (same : ∀ current, wordsFrom current s = wordsFrom current t)
    (front current : List Char) : wordsFrom current (front ++ s) = wordsFrom current (front ++ t) := by
  induction front generalizing current with
  | nil => exact same current
  | cons c front ih =>
    simp only [List.cons_append, wordsFrom]
    split
    · rw [ih []]
    · exact ih (c :: current)

theorem words_trimStart_append (s t : List Char) : words (trimStart s ++ t) = words (s ++ t) := by
  induction s with
  | nil => rfl
  | cons c s ih =>
    cases blank : isBlank c with
    | true =>
      rw [trimStart, List.dropWhile_cons_of_pos blank, List.cons_append, words_cons blank]
      exact ih
    | false => rw [trimStart_cons blank]

theorem wordsFrom_of_allBlank {s : List Char} (blank : AllBlank s) (current : List Char) :
    wordsFrom current s = wordsFrom current [] := by
  induction s generalizing current with
  | nil => rfl
  | cons c s ih =>
    have rest : AllBlank s := fun d member => blank d (List.mem_cons_of_mem c member)
    simp only [wordsFrom, if_pos (blank c List.mem_cons_self), ih rest]
    cases current <;> rfl

theorem wordsFrom_trimEnd (current s : List Char) : wordsFrom current (trimEnd s) = wordsFrom current s := by
  induction s generalizing current with
  | nil => rfl
  | cons c s ih =>
    rw [trimEnd]
    split
    · rename_i empty
      have blank := trimEnd_eq_nil_iff.1 empty
      split
      · rename_i here
        exact (wordsFrom_of_allBlank (List.forall_mem_cons.2 ⟨here, blank⟩) current).symm
      · rename_i here
        simp only [wordsFrom, if_neg here, wordsFrom_of_allBlank blank]
    · rw [wordsFrom, wordsFrom]
      simp only [ih]

theorem words_trim (s : List Char) : words (trim s) = words s := by
  have start := words_trimStart_append s []
  rw [List.append_nil, List.append_nil] at start
  rw [trim, words, wordsFrom_trimEnd]
  exact start

theorem wordsFrom_squeeze (after : Bool) (current s t : List Char) (closed : after = true → current = []) :
    wordsFrom current (squeeze after s ++ t) = wordsFrom current (s ++ t) := by
  induction s generalizing after current with
  | nil => rfl
  | cons c s ih =>
    have space : isBlank ' ' = true := by decide
    have skip := ih true [] fun _ => rfl
    cases blank : isBlank c with
    | true =>
      cases after with
      | true =>
        rw [closed rfl]
        simp [squeeze, wordsFrom, blank, skip]
      | false => simp [squeeze, wordsFrom, blank, space, skip]
    | false =>
      have keep := ih false (c :: current) nofun
      simp [squeeze, wordsFrom, blank, keep]

theorem words_collapse_append (s t : List Char) : words (collapse s ++ t) = words (trim s ++ t) :=
  wordsFrom_squeeze false [] (trim s) t nofun

theorem words_append_collapse (s t : List Char) : words (s ++ collapse t) = words (s ++ trim t) := by
  refine wordsFrom_congr (fun current => ?_) s []
  have squeezed := wordsFrom_squeeze false current (trim t) [] nofun
  rwa [List.append_nil, List.append_nil] at squeezed

theorem words_collapse (s : List Char) : words (collapse s) = words s :=
  (words_append_collapse [] s).trans (words_trim s)

/-! Collapsed texts. -/

theorem reverse_append_squeeze {s : List Char} (last : ∀ c, s.getLast? = some c → isBlank c = false)
    (current : List Char) :
    current.reverse ++ squeeze current.isEmpty s = join [' '] (wordsFrom current s) := by
  induction s generalizing current with
  | nil => cases current <;> simp [squeeze, wordsFrom, join]
  | cons c s ih =>
    have later : ∀ d, s.getLast? = some d → isBlank d = false := by
      intro d found
      exact last d (by rw [List.getLast?_cons, found]; rfl)
    cases blank : isBlank c with
    | false =>
      have keep := ih later (c :: current)
      rw [List.reverse_cons, List.append_assoc] at keep
      simp only [squeeze, wordsFrom, blank]
      exact keep
    | true =>
      have skip := ih later []
      cases current with
      | nil =>
        simp only [squeeze, wordsFrom, blank]
        exact skip
      | cons d current =>
        -- The white space is not the end of the text, so a word comes after it.
        have more : words s ≠ [] := by
          cases end_of : s.getLast? with
          | none =>
            have first := last c (by rw [List.getLast?_cons, end_of]; rfl)
            rw [blank] at first
            cases first
          | some e => exact words_ne_nil (later e end_of) (List.mem_of_getLast? end_of)
        have joined : join [' '] ((d :: current).reverse :: words s) =
            (d :: current).reverse ++ ' ' :: join [' '] (words s) := join_cons more
        simp only [squeeze, wordsFrom, blank, List.isEmpty_cons]
        exact (congrArg (fun rest => (d :: current).reverse ++ ' ' :: rest) skip).trans joined.symm

theorem collapse_eq_join (s : List Char) : collapse s = join [' '] (words s) := by
  have spelled := reverse_append_squeeze (fun c => getLast?_trim (c := c) (s := s)) []
  have closed : squeeze false (trim s) = squeeze true (trim s) := by
    cases front : trim s with
    | nil => rfl
    | cons c rest =>
      have first : isBlank c = false := head?_trim (by rw [front]; rfl)
      simp [squeeze, first]
  rw [collapse, closed, ← words_trim s]
  exact spelled

theorem collapse_congr {s t : List Char} (same : words s = words t) : collapse s = collapse t := by
  rw [collapse_eq_join, collapse_eq_join, same]

theorem collapse_collapse (s : List Char) : collapse (collapse s) = collapse s := collapse_congr (words_collapse s)

/-- A space where white space stands between the words of two texts, one after the other. -/
def seam (s t : List Char) : List Char := if s.getLast?.any isBlank || t.head?.any isBlank then [' '] else []

theorem words_append_of_ends {s : List Char} (ends : s.getLast?.any isBlank = true) (t : List Char) :
    words (s ++ t) = words s ++ words t := by
  obtain ⟨c, last, blank⟩ := (Option.any_eq_true isBlank _).1 ends
  obtain ⟨front, rfl⟩ := List.getLast?_eq_some_iff.1 last
  rw [List.append_assoc, List.singleton_append, words_append_cons blank, words_append_cons blank]
  exact congrArg (· ++ words t) (List.append_nil _).symm

theorem words_append_of_begins {t : List Char} (begins : t.head?.any isBlank = true) (s : List Char) :
    words (s ++ t) = words s ++ words t := by
  obtain ⟨c, first, blank⟩ := (Option.any_eq_true isBlank _).1 begins
  obtain ⟨rest, rfl⟩ := List.head?_eq_some_iff.1 first
  rw [words_append_cons blank, words_cons blank]

theorem words_trim_append {s : List Char} (ends : s.getLast?.any isBlank = false) (t : List Char) :
    words (trim s ++ t) = words (s ++ t) := by
  have kept : trimEnd (trimStart s) = trimStart s := by
    rcases List.eq_nil_or_concat s with rfl | ⟨front, c, rfl⟩
    · rfl
    · have shown : isBlank c = false := by simpa using ends
      have whole : trimStart (front ++ [c]) = trimStart front ++ [c] := by
        simp only [trimStart, List.dropWhile_append, List.isEmpty_iff]
        split
        · rename_i empty
          simp [empty, shown]
        · rfl
      rw [List.concat_eq_append, whole, trimEnd_concat shown]
  rw [trim, kept, words_trimStart_append]

theorem words_append_trim {t : List Char} (begins : t.head?.any isBlank = false) (s : List Char) :
    words (s ++ trim t) = words (s ++ t) := by
  have kept : trimStart t = t := by
    cases t with
    | nil => rfl
    | cons c t => exact trimStart_cons (by simpa using begins) t
  rw [trim, kept]
  exact wordsFrom_congr (fun current => wordsFrom_trimEnd current t) s []

theorem words_append (s t : List Char) : words (s ++ t) = words (collapse s ++ seam s t ++ collapse t) := by
  rw [words_append_collapse, List.append_assoc, words_collapse_append, seam]
  split
  · rename_i apart
    have space : isBlank ' ' = true := by decide
    have halves : words (s ++ t) = words s ++ words t :=
      (Bool.or_eq_true_iff.1 apart).elim (words_append_of_ends · t) (words_append_of_begins · s)
    rw [halves, List.singleton_append, words_append_cons space, words_trim, words_trim]
  · rename_i meet
    obtain ⟨ends, begins⟩ := Bool.or_eq_false_iff.1 (Bool.eq_false_iff.2 meet)
    rw [List.nil_append, words_append_trim begins, words_trim_append ends]

end Text

namespace XPath

theorem selectedText_of_element {d : Document} {row : Nat} {name : Html.Name} {attributes : List Html.Attribute}
    {children : List Html.Node} (content : d.content? row = some (.element name attributes children)) :
    selectedText d (.tree row) = some (Html.renderedText children) := by
  simp only [selectedText, content]

theorem selectedText_of_not_element {d : Document} {n : Node} (plain : ∀ owner index, n ≠ .attribute owner index)
    (element : ∀ row, n = .tree row → d.isElement row = false) :
    selectedText d n = if (d.textOf n).collapsed = "" then none else some (d.textOf n).collapsed := by
  rcases n with row | ⟨owner, index⟩ | owner
  · have other := element row rfl
    rw [Document.isElement] at other
    simp only [selectedText]
    split
    · rename_i content
      rw [content] at other
      cases other
    · rfl
  · exact absurd rfl (plain owner index)
  · rfl

/-- What a node other than an attribute yields is collapsed, and it is empty for elements only. -/
theorem selectedText_collapsed {d : Document} {n : Node} {text : String} (h : selectedText d n = some text)
    (plain : ∀ owner index, n ≠ .attribute owner index) :
    (∃ s, text = String.ofList (Text.collapse s)) ∧ (text = "" → ∃ row, n = .tree row ∧ d.isElement row = true) := by
  by_cases element : ∃ row, n = .tree row ∧ d.isElement row = true
  · refine ⟨?_, fun _ => element⟩
    obtain ⟨row, rfl, shown⟩ := element
    rw [Document.isElement] at shown
    split at shown
    · rename_i content
      rw [selectedText_of_element content] at h
      cases h
      exact ⟨_, rfl⟩
    · cases shown
  · have leaf : ∀ row, n = .tree row → d.isElement row = false :=
      fun row same => Bool.eq_false_iff.2 fun shown => element ⟨row, same, shown⟩
    rw [selectedText_of_not_element plain leaf] at h
    split at h
    · cases h
    · rename_i filled
      cases h
      exact ⟨⟨_, rfl⟩, fun empty => absurd empty filled⟩

end XPath

/-- A collapsed text is the words of the text with single spaces between them, where words are what white space
separates. Collapsing again changes nothing, and two texts may be collapsed before they are put together, if a space
stays where white space is between them. So is every text that an expression selects but for those of attributes, and
only elements and attributes give empty texts. -/
theorem collapsed_texts_are_words_with_spaces :
    (∀ s : String, s.collapsed.toList = Text.join [' '] (Text.words s.toList)) ∧
    (∀ s : List Char, Text.words s = (Text.splitWhere Text.isBlank s).filter (· ≠ [])) ∧
    (∀ s : String, s.collapsed.collapsed = s.collapsed) ∧
    (∀ s t : String,
      (s ++ t).collapsed = (s.collapsed ++ String.ofList (Text.seam s.toList t.toList) ++ t.collapsed).collapsed) ∧
    ∀ (d : XPath.Document) (expression : String) (nodes : List XPath.Node),
      XPath.evaluate d expression = .ok (.nodes nodes) →
      XPath.select d expression = .ok (nodes.filterMap (XPath.selectedText d)) ∧
      ∀ n ∈ nodes, ∀ text, XPath.selectedText d n = some text →
        ((∀ owner index, n ≠ .attribute owner index) → text.toList = Text.join [' '] (Text.words text.toList)) ∧
        (text = "" → (∃ owner index, n = .attribute owner index) ∨ ∃ row, n = .tree row ∧ d.isElement row = true) := by
  refine ⟨?_, Text.words_eq_filter, ?_, ?_, ?_⟩
  · intro s
    rw [String.collapsed, String.toList_ofList, Text.collapse_eq_join]
  · intro s
    simp only [String.collapsed, String.toList_ofList, Text.collapse_collapse]
  · intro s t
    simp only [String.collapsed, String.toList_append, String.toList_ofList]
    exact congrArg String.ofList (Text.collapse_congr (Text.words_append s.toList t.toList))
  · intro d expression nodes evaluated
    constructor
    · rw [XPath.select, evaluated]
      rfl
    intro n _ text selected
    by_cases owned : ∃ owner index, n = .attribute owner index
    · refine ⟨fun other => ?_, fun _ => .inl owned⟩
      obtain ⟨owner, index, same⟩ := owned
      exact absurd same (other owner index)
    · have other : ∀ owner index, n ≠ .attribute owner index := fun owner index same => owned ⟨owner, index, same⟩
      obtain ⟨⟨s, rfl⟩, empty⟩ := XPath.selectedText_collapsed selected other
      refine ⟨fun _ => ?_, fun none => .inr (empty none)⟩
      rw [String.toList_ofList, Text.words_collapse]
      exact Text.collapse_eq_join s

namespace ElementsAndIds

open XPath (Expr Token)

def expression : String := "//*|//@id"

def page : XPath.Document :=
  .ofNodes [.element (.plain "p") [⟨.plain "id", " x "⟩] [.text " one\n two "], .element (.plain "hr") [] []]

def anywhere : Expr := .step .root .descendantOrSelf .any []

theorem parse?_expression :
    Expr.parse? expression =
      some (.operation .union (.step anywhere .child .wildcard []) (.step anywhere .attributes (.name "id") [])) := by
  have tokens : Token.ofText? expression.toList =
      some [.slash, .axis .descendantOrSelf, .test .any, .slash, .test .wildcard, .operator .union, .slash,
        .axis .descendantOrSelf, .test .any, .slash, .axis .attributes, .test (.name "id")] := rfl
  rw [Expr.parse?, tokens]
  rfl

theorem texts_of_elements_and_ids :
    XPath.evaluate page expression = .ok (.nodes [.tree 1, .attribute 1 0, .tree 3]) ∧
      XPath.select page expression = .ok ["one two", " x ", ""] ∧
      "one two".toList = Text.join [' '] (Text.words "one two".toList) ∧ page.isElement 3 = true ∧
      (" one\n" ++ "two ").collapsed = ("one" ++ " " ++ "two").collapsed := by
  obtain ⟨-, -, -, seams, selects⟩ := collapsed_texts_are_words_with_spaces
  have evaluated : XPath.evaluate page expression = .ok (.nodes [.tree 1, .attribute 1 0, .tree 3]) := by
    rw [XPath.evaluate, parse?_expression]
    rfl
  obtain ⟨selected, texts⟩ := selects page expression _ evaluated
  have paragraph := (texts (.tree 1) (by decide) "one two" rfl).1 nofun
  have rule : page.isElement 3 = true := by
    rcases (texts (.tree 3) (by decide) "" rfl).2 rfl with ⟨_, _, owned⟩ | ⟨row, same, element⟩
    · cases owned
    · cases same
      exact element
  exact ⟨evaluated, selected, paragraph, rule, seams " one\n" "two "⟩

end ElementsAndIds
end WebCitation
