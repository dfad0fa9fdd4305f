import Mathlib.Logic.Relation
import WebCitation.Proofs.CollapsedText

/-!
The text that is shown of an element. Each child adds a text of its own, so an edit is seen only by what it adds: hidden
elements and comments add nothing, and attributes are not read. A block adds the words of its children and keeps them
apart from all others, a line break only keeps apart, and any other element is as if its children stood in its place.
-/
namespace WebCitation.Html

theorem shownTextOf_append (before after : List Node) :
    shownTextOf (before ++ after) = shownTextOf before ++ shownTextOf after := by
  induction before with
  | nil => rfl
  | cons n before ih => rw [List.cons_append, shownTextOf, ih, shownTextOf, List.append_assoc]

theorem shownTextOf_around (before after : List Node) (n : Node) :
    shownTextOf (before ++ n :: after) = shownTextOf before ++ (n.shownText ++ shownTextOf after) := by
  rw [shownTextOf_append, shownTextOf]

/-! Displays, by the names in lower case. -/

namespace Name

variable {name : Name}

theorem display_of_hidden (hidden : name.stem.asciiLower ∈ hiddenElements) : name.display = .hidden :=
  if_pos (List.contains_iff_mem.2 hidden)

theorem display_of_lineBreak (lineBreak : name.stem.asciiLower = "br") : name.display = .lineBreak := by
  simp only [display, lineBreak]
  decide

theorem display_of_block (block : name.stem.asciiLower ∈ blockElements)
    (shown : name.stem.asciiLower ∉ hiddenElements) : name.display = .block := by
  have other : name.stem.asciiLower ≠ "br" := by
    intro same
    rw [same] at block
    revert block
    decide
  simp [display, shown, other, block]

theorem display_of_inLine (hidden : name.stem.asciiLower ∉ hiddenElements) (lineBreak : name.stem.asciiLower ≠ "br")
    (block : name.stem.asciiLower ∉ blockElements) : name.display = .inLine := by
  simp [display, hidden, lineBreak, block]

end Name

/-! Edits that nobody sees. -/

/-- Elements that are never shown, whatever they hold, comments and instructions. -/
inductive Node.Unshown : Node → Prop where
  | element {name : Name} (attributes : List Attribute) (children : List Node)
      (hidden : name.stem.asciiLower ∈ ["script", "style", "noscript", "template"]) :
      Unshown (.element name attributes children)
  | comment (content : String) : Unshown (.comment content)
  | instruction (target content : String) : Unshown (.instruction target content)

/-- One edit of the nodes below an element, at any depth. -/
inductive UnseenEdit : List Node → List Node → Prop where
  | insert {n : Node} (before after : List Node) (unshown : n.Unshown) :
      UnseenEdit (before ++ after) (before ++ n :: after)
  | delete {n : Node} (before after : List Node) (unshown : n.Unshown) :
      UnseenEdit (before ++ n :: after) (before ++ after)
  | replace {name : Name} (before after : List Node) (attributes attributes' : List Attribute)
      (children children' : List Node)
      (unread : name.stem.asciiLower ∈ ["script", "style", "noscript", "template", "br"]) :
      UnseenEdit (before ++ .element name attributes children :: after)
        (before ++ .element name attributes' children' :: after)
  | attributes {name : Name} (before after : List Node) (attributes attributes' : List Attribute)
      (children : List Node) :
      UnseenEdit (before ++ .element name attributes children :: after)
        (before ++ .element name attributes' children :: after)
  | inside {name : Name} {children children' : List Node} (before after : List Node) (attributes : List Attribute)
      (edit : UnseenEdit children children') :
      UnseenEdit (before ++ .element name attributes children :: after)
        (before ++ .element name attributes children' :: after)

theorem Node.Unshown.shownText {n : Node} (unshown : n.Unshown) : n.shownText = [] := by
  cases unshown with
  | element attributes children hidden => simp only [Node.shownText, Name.display_of_hidden hidden]
  | comment content => rfl
  | instruction target content => rfl

/-- What an element adds depends on its name and on what its children add. -/
theorem shownText_element_congr {name : Name} {children children' : List Node}
    (same : shownTextOf children = shownTextOf children') (attributes attributes' : List Attribute) :
    (Node.element name attributes children).shownText = (Node.element name attributes' children').shownText := by
  simp only [Node.shownText, same]

theorem shownText_of_unread {name : Name}
    (unread : name.stem.asciiLower ∈ ["script", "style", "noscript", "template", "br"])
    (attributes attributes' : List Attribute) (children children' : List Node) :
    (Node.element name attributes children).shownText = (Node.element name attributes' children').shownText := by
  by_cases lineBreak : name.stem.asciiLower = "br"
  · simp only [Node.shownText, Name.display_of_lineBreak lineBreak]
  · have hidden : name.stem.asciiLower ∈ hiddenElements := by
      simpa [hiddenElements, lineBreak] using unread
    simp only [Node.shownText, Name.display_of_hidden hidden]

theorem UnseenEdit.shownTextOf_eq {children edited : List Node} (edit : UnseenEdit children edited) :
    shownTextOf children = shownTextOf edited := by
  induction edit with
  | insert before after unshown =>
    rw [shownTextOf_around, unshown.shownText, shownTextOf_append, List.nil_append]
  | delete before after unshown =>
    rw [shownTextOf_around, unshown.shownText, shownTextOf_append, List.nil_append]
  | replace before after attributes attributes' children children' unread =>
    rw [shownTextOf_around, shownTextOf_around, shownText_of_unread unread attributes attributes' children children']
  | attributes before after attributes attributes' children =>
    rw [shownTextOf_around, shownTextOf_around, shownText_element_congr rfl attributes attributes']
  | inside before after attributes edit ih =>
    rw [shownTextOf_around, shownTextOf_around, shownText_element_congr ih attributes attributes]

/-- However many edits of hidden elements, line breaks, comments, instructions and attributes there are below an
element, and however deep, it shows the same text. -/
theorem hidden_content_is_not_shown {children edited : List Node}
    (edits : Relation.ReflTransGen UnseenEdit children edited) : renderedText children = renderedText edited := by
  have shown : shownTextOf children = shownTextOf edited := by
    induction edits with
    | refl => rfl
    | tail _ edit ih => exact ih.trans edit.shownTextOf_eq
  rw [renderedText, shown, renderedText]

namespace TrackedHeading

def heading (inner : List Node) : Node := .element (.plain "h1") [] inner

def lineBreak (inner : List Node) : Node := .element (.plain "br") [] inner

def script : Node := .element (.plain "SCRIPT") [] [.text "track()"]

def bold (attributes : List Attribute) : Node := .element (.plain "b") attributes [.text "c "]

def classes : List Attribute := [⟨.plain "class", "x"⟩]

def written : Node := heading [.text "A", lineBreak [], script, bold []]

def edited : Node := heading [.text "A", lineBreak [.text "?"], bold classes, .comment "end"]

theorem heading_without_script :
    Relation.ReflTransGen UnseenEdit [written] [edited] ∧ renderedText [written] = renderedText [edited] ∧
      renderedText [edited] = "A c" := by
  have filled : UnseenEdit [.text "A", lineBreak [], script, bold []]
      [.text "A", lineBreak [.text "?"], script, bold []] :=
    .replace [.text "A"] [script, bold []] [] [] [] [.text "?"] (by decide)
  have deleted : UnseenEdit [.text "A", lineBreak [.text "?"], script, bold []]
      [.text "A", lineBreak [.text "?"], bold []] :=
    .delete [.text "A", lineBreak [.text "?"]] [bold []] (.element [] [.text "track()"] (by decide))
  have classed : UnseenEdit [.text "A", lineBreak [.text "?"], bold []]
      [.text "A", lineBreak [.text "?"], bold classes] :=
    .attributes [.text "A", lineBreak [.text "?"]] [] [] classes [.text "c "]
  have commented : UnseenEdit [.text "A", lineBreak [.text "?"], bold classes]
      [.text "A", lineBreak [.text "?"], bold classes, .comment "end"] :=
    .insert [.text "A", lineBreak [.text "?"], bold classes] [] (.comment "end")
  have edits : Relation.ReflTransGen UnseenEdit [written] [edited] := by
    refine .head (.inside [] [] [] filled) ?_
    refine .head (.inside [] [] [] deleted) ?_
    refine .head (.inside [] [] [] classed) ?_
    exact .single (.inside [] [] [] commented)
  exact ⟨edits, hidden_content_is_not_shown edits, by decide⟩

end TrackedHeading

/-! Words of what is shown. -/

/-- The words of the text of an element with these children. -/
def wordsShown (children : List Node) : List (List Char) := Text.words (renderedText children).toList

theorem wordsShown_eq (children : List Node) : wordsShown children = Text.words (shownTextOf children) := by
  rw [wordsShown, renderedText, String.toList_ofList, Text.words_collapse]

theorem wordsShown_of_lineBreak {name : Name} (lineBreak : name.display = .lineBreak)
    (before after children : List Node) (attributes : List Attribute) :
    wordsShown (before ++ .element name attributes children :: after) = wordsShown before ++ wordsShown after := by
  have added : (Node.element name attributes children).shownText = [' '] := by
    simp only [Node.shownText, lineBreak]
  simp only [wordsShown_eq, shownTextOf_around, added, List.singleton_append]
  exact Text.words_append_cons (by decide) _ _

theorem wordsShown_of_block {name : Name} (block : name.display = .block) (before after children : List Node)
    (attributes : List Attribute) :
    wordsShown (before ++ .element name attributes children :: after) =
      wordsShown before ++ wordsShown children ++ wordsShown after := by
  have space : Text.isBlank ' ' = true := by decide
  have added : (Node.element name attributes children).shownText = ' ' :: (shownTextOf children ++ [' ']) := by
    simp only [Node.shownText, block, List.cons_append]
  simp only [wordsShown_eq, shownTextOf_around, added, List.cons_append, List.append_assoc, List.nil_append,
    Text.words_append_cons space]

theorem renderedText_of_inLine {name : Name} (inLine : name.display = .inLine) (before after children : List Node)
    (attributes : List Attribute) :
    renderedText (before ++ .element name attributes children :: after) =
      renderedText (before ++ children ++ after) := by
  have added : (Node.element name attributes children).shownText = shownTextOf children := by
    simp only [Node.shownText, inLine]
  rw [renderedText, renderedText, shownTextOf_around, added, shownTextOf_append, shownTextOf_append, List.append_assoc]

/-- Wherever an element stands among others, a block that is not hidden adds the words that it shows and joins them to
no others, a line break only separates words, and what is neither of them nor hidden shows its children in its place. -/
theorem blocks_separate_words (before after children : List Node) (name : Name) (attributes : List Attribute) :
    (name.stem.asciiLower ∈ blockElements → name.stem.asciiLower ∉ hiddenElements →
      wordsShown (before ++ .element name attributes children :: after) =
        wordsShown before ++ wordsShown children ++ wordsShown after) ∧
    (name.stem.asciiLower = "br" →
      wordsShown (before ++ .element name attributes children :: after) = wordsShown before ++ wordsShown after) ∧
    (name.stem.asciiLower ∉ blockElements → name.stem.asciiLower ≠ "br" → name.stem.asciiLower ∉ hiddenElements →
      renderedText (before ++ .element name attributes children :: after) =
        renderedText (before ++ children ++ after)) := by
  refine ⟨?_, ?_, ?_⟩
  · intro block shown
    exact wordsShown_of_block (Name.display_of_block block shown) before after children attributes
  · intro lineBreak
    exact wordsShown_of_lineBreak (Name.display_of_lineBreak lineBreak) before after children attributes
  · intro block lineBreak hidden
    exact renderedText_of_inLine (Name.display_of_inLine hidden lineBreak block) before after children attributes

namespace JoinedWords

def element (name : String) (children : List Node) : Node := .element (.plain name) [] children

theorem words_around_elements :
    wordsShown ([.text "a"] ++ element "DIV" [.text "b c"] :: [.text "d"]) = [['a'], ['b'], ['c'], ['d']] ∧
      wordsShown ([.text "a"] ++ element "br" [.text "b"] :: [.text "d"]) = [['a'], ['d']] ∧
      renderedText ([.text "a"] ++ element "b" [.text "b c"] :: [.text "d"]) = "ab cd" := by
  obtain ⟨block, -, -⟩ := blocks_separate_words [.text "a"] [.text "d"] [.text "b c"] (.plain "DIV") []
  obtain ⟨-, lineBreak, -⟩ := blocks_separate_words [.text "a"] [.text "d"] [.text "b"] (.plain "br") []
  obtain ⟨-, -, inLine⟩ := blocks_separate_words [.text "a"] [.text "d"] [.text "b c"] (.plain "b") []
  exact ⟨(block (by decide) (by decide)).trans (by decide), (lineBreak (by decide)).trans (by decide),
    (inLine (by decide) (by decide) (by decide)).trans (by decide)⟩

end JoinedWords
end WebCitation.Html
