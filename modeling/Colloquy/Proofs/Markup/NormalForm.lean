import Colloquy.Proofs.Markup.RoundTrip
import Mathlib.Data.List.Chain

namespace Colloquy.Markup

/-!
# Trees that were read are in normal form

Whatever a text holds, its tree is in normal form. Tags are read only with names
that are names, text is joined with the text before it, and neither an element
that falls back to text nor one that is closed brings two texts together. While a
tree is being read, all of this holds of the nodes outside of the open elements
and of the nodes in each of them.
-/

/-! ## Names -/

/-- A tag that starts an element has a name, and so have its attributes. -/
def Lexeme.isNamed : Lexeme → Bool
  | .text _ => true
  | .comment _ => true
  | .closing _ _ => true
  | .opening name attributes _ => isName name && attributes.all fun entry => isName entry.1
  | .standalone name attributes _ => isName name && attributes.all fun entry => isName entry.1

/-- What is read as an attribute has a name. -/
theorem isName_of_attribute?
    {text after : Text}
    {entry : Attribute}
    (found : attribute? text = some (entry, after)) :
    isName entry.1 = true := by
  simp only [attribute?] at found
  split at found
  · next named =>
      split at found
      · simp only [Option.map_eq_some_iff, Prod.mk.injEq, Prod.exists] at found
        obtain ⟨value, rest, _, entryIs, _⟩ := found
        subst entryIs
        exact named
      · simp at found
  · simp at found

/-- All attributes that are read have names. -/
theorem all_isName_of_attributes?
    {text : Text}
    {attributes : List Attribute}
    (found : attributes? text = some attributes) :
    attributes.all (fun entry => isName entry.1) = true := by
  fun_induction attributes? text generalizing attributes with
  | case1 =>
      obtain rfl : [] = attributes := by simpa using found
      rfl
  | case2 =>
      simp at found
  | case3 text more entry after read inductionHypothesis =>
      simp only [Option.map_eq_some_iff] at found
      obtain ⟨others, othersFound, rfl⟩ := found
      rw [List.all_cons, isName_of_attribute? read, inductionHypothesis othersFound]
      rfl

theorem isNamed_of_startTag?
    {inside source : Text}
    {lexeme : Lexeme}
    (found : startTag? inside source = some lexeme) :
    lexeme.isNamed = true := by
  simp only [startTag?] at found
  split at found
  · next named =>
      simp only [Option.map_eq_some_iff] at found
      obtain ⟨attributes, attributesFound, lexemeIs⟩ := found
      have attributesNamed := all_isName_of_attributes? attributesFound
      split at lexemeIs
      · subst lexemeIs
        rw [Lexeme.isNamed, named, attributesNamed]
        rfl
      · subst lexemeIs
        rw [Lexeme.isNamed, named, attributesNamed]
        rfl
  · simp at found

theorem isNamed_of_closingTag?
    {inside source : Text}
    {lexeme : Lexeme}
    (found : closingTag? inside source = some lexeme) :
    lexeme.isNamed = true := by
  simp only [closingTag?] at found
  split at found
  · simp only [Option.some.injEq] at found
    subst found
    rfl
  · simp at found

theorem isNamed_of_tag?
    {text after : Text}
    {lexeme : Lexeme}
    (found : tag? text = some (lexeme, after)) :
    lexeme.isNamed = true := by
  simp only [tag?, Option.bind_eq_some_iff, Prod.exists] at found
  obtain ⟨body, rest, _, read⟩ := found
  simp only [Option.map_eq_some_iff, Prod.mk.injEq] at read
  obtain ⟨tag, tagFound, rfl, _⟩ := read
  revert tagFound
  split
  · exact isNamed_of_closingTag?
  · exact isNamed_of_startTag?

/-- Whatever is read next is named. -/
theorem isNamed_nextLexeme
    (c : Char)
    (rest : Text) :
    (nextLexeme c rest).1.isNamed = true := by
  fun_cases nextLexeme c rest with
  | case1 => rfl
  | case2 => rfl
  | case3 => rfl
  | case4 _ _ lexeme after found => exact isNamed_of_tag? found
  | case5 => rfl

/-- Every lexeme of a text is named. -/
theorem isNamed_of_mem_lexemes
    {text : Text}
    {lexeme : Lexeme}
    (member : lexeme ∈ lexemes text) :
    lexeme.isNamed = true := by
  fun_induction lexemes text with
  | case1 =>
      simp at member
  | case2 c rest step inductionHypothesis =>
      rcases List.mem_cons.mp member with isFirst | isLater
      · rw [isFirst]
        exact isNamed_nextLexeme c rest
      · exact inductionHypothesis isLater

/-! ## Nodes in either order -/

/-- Two nodes are not both text. -/
def Apart (first second : Node) : Prop :=
  (first.isText && second.isText) = false

/--
Nodes are in normal form exactly if the first is, stands apart from the next, and the rest is.
-/
theorem areNormal_cons
    {node : Node}
    {rest : List Node} :
    areNormal (node :: rest) = true ↔
      node.isNormal = true ∧ (∀ next ∈ rest.head?, Apart node next) ∧ areNormal rest = true := by
  rw [areNormal, Bool.and_eq_true, Bool.and_eq_true, Bool.not_eq_true', and_assoc]
  cases rest with
  | nil =>
      simp
  | cons next later =>
      simp only [List.head?_cons, Option.mem_some_iff, forall_eq', Apart, Option.any_some]

/-- Nodes are normal and no two neighbours are text, whichever end comes first. -/
structure Tidy (nodes : List Node) : Prop where
  normal : ∀ node ∈ nodes, node.isNormal = true
  apart : nodes.IsChain Apart

/-- A node in normal form may stand before tidy nodes that it is apart from. -/
theorem tidy_cons
    {node : Node}
    {nodes : List Node}
    (normal : node.isNormal = true)
    (apart : ∀ next ∈ nodes.head?, Apart node next)
    (tidy : Tidy nodes) :
    Tidy (node :: nodes) where
  normal := List.forall_mem_cons.mpr ⟨normal, tidy.normal⟩
  apart := List.isChain_cons.mpr ⟨apart, tidy.apart⟩

theorem tidy_nil : Tidy [] where
  normal := by simp
  apart := .nil

/-- Tidiness does not depend on the direction. -/
theorem Tidy.reverse
    {nodes : List Node}
    (tidy : Tidy nodes) :
    Tidy nodes.reverse := by
  refine ⟨fun node member => tidy.normal node (List.mem_reverse.mp member), ?_⟩
  rw [List.isChain_reverse]
  refine tidy.apart.imp ?_
  intro first second apart
  rw [Apart, Bool.and_comm]
  exact apart

/-- Tidy nodes are in normal form. -/
theorem areNormal_of_tidy
    {nodes : List Node}
    (tidy : Tidy nodes) :
    areNormal nodes = true := by
  obtain ⟨normal, apart⟩ := tidy
  induction nodes with
  | nil =>
      rfl
  | cons node rest inductionHypothesis =>
      obtain ⟨nodeApart, restApart⟩ := List.isChain_cons.mp apart
      obtain ⟨nodeNormal, restNormal⟩ := List.forall_mem_cons.mp normal
      have separate : (node.isText && rest.head?.any Node.isText) = false := by
        cases rest with
        | nil =>
            simp
        | cons next later =>
            exact nodeApart next rfl
      rw [areNormal, nodeNormal, separate, inductionHypothesis restNormal restApart]
      rfl

/-! ## Adding nodes -/

namespace Tidy

variable {nodes : List Node}

/-- Text is joined to a text or begins one, so nodes stay tidy. -/
theorem pushText
    (tidy : Tidy nodes)
    (text : Text) :
    Tidy (pushText text nodes) := by
  unfold Markup.pushText
  split
  · exact tidy
  · next nonempty =>
      split
      · next last rest =>
          obtain ⟨restApart, restChain⟩ := List.isChain_cons.mp tidy.apart
          have restTidy : Tidy rest :=
            ⟨fun node member => tidy.normal node (List.mem_cons_of_mem _ member), restChain⟩
          have some : text ≠ [] := by
            simpa using nonempty
          exact tidy_cons (by simp [Node.isNormal, some]) restApart restTidy
      · next noText =>
          refine tidy_cons (by simpa [Node.isNormal] using nonempty) ?_ tidy
          intro next isNext
          cases next with
          | element name attributes children selfClosing =>
              rfl
          | text content =>
              obtain ⟨rest, shape⟩ := List.head?_eq_some_iff.mp isNext
              exact absurd shape (noText content rest)

/-- An element stands apart from any neighbour. -/
theorem pushElement
    (tidy : Tidy nodes)
    {node : Node}
    (normal : node.isNormal = true)
    (isElement : node.isText = false) :
    Tidy (node :: nodes) := by
  refine tidy_cons normal ?_ tidy
  intro next _
  rw [Apart, isElement]
  rfl

theorem pushNode
    (tidy : Tidy nodes)
    {node : Node}
    (normal : node.isNormal = true) :
    Tidy (pushNode node nodes) := by
  cases node with
  | text content =>
      exact tidy.pushText content
  | element name attributes children selfClosing =>
      exact tidy.pushElement normal rfl

/-- An element that is never closed leaves its tag as text and its children, all tidy. -/
theorem degrade
    (tidy : Tidy nodes)
    {element : OpenElement}
    (childrenNormal : ∀ child ∈ element.children, child.isNormal = true) :
    Tidy (element.degrade nodes) := by
  rw [OpenElement.degrade]
  generalize element.children = children at childrenNormal
  induction children with
  | nil =>
      exact tidy.pushText element.source
  | cons child rest inductionHypothesis =>
      obtain ⟨childNormal, restNormal⟩ := List.forall_mem_cons.mp childrenNormal
      exact (inductionHypothesis restNormal).pushNode childNormal

end Tidy

/-! ## Reading -/

/-- An open element is named, and its nodes so far are tidy. -/
structure OpenElement.IsTidy (element : OpenElement) : Prop where
  named : isName element.name = true
  attributesNamed : element.attributes.all (fun entry => isName entry.1) = true
  children : Tidy element.children

/-- Open elements that are never closed leave tidy nodes. -/
theorem tidy_foldr_degrade
    {openElements : List OpenElement}
    (allTidy : ∀ element ∈ openElements, element.IsTidy)
    {nodes : List Node}
    (tidy : Tidy nodes) :
    Tidy (openElements.foldr OpenElement.degrade nodes) := by
  induction openElements with
  | nil =>
      exact tidy
  | cons element rest inductionHypothesis =>
      obtain ⟨elementTidy, restTidy⟩ := List.forall_mem_cons.mp allTidy
      exact (inductionHypothesis restTidy).degrade elementTidy.children.normal

namespace Nesting

/-- All nodes that have been read are tidy. -/
structure IsTidy (nesting : Nesting) : Prop where
  openElements : ∀ element ∈ nesting.openElements, element.IsTidy
  roots : Tidy nesting.roots

namespace IsTidy

variable {nesting : Nesting}

/-- A change that keeps nodes tidy keeps what was read tidy. -/
theorem modifyInnermost
    (tidy : nesting.IsTidy)
    {change : List Node → List Node}
    (keeps : ∀ nodes, Tidy nodes → Tidy (change nodes)) :
    (nesting.modifyInnermost change).IsTidy := by
  obtain ⟨openElements, roots⟩ := nesting
  cases openElements with
  | nil =>
      exact ⟨tidy.openElements, keeps roots tidy.roots⟩
  | cons element outer =>
      obtain ⟨elementTidy, outerTidy⟩ := List.forall_mem_cons.mp tidy.openElements
      refine ⟨List.forall_mem_cons.mpr ⟨?_, outerTidy⟩, tidy.roots⟩
      exact ⟨elementTidy.named, elementTidy.attributesNamed, keeps _ elementTidy.children⟩

/-- Closing an element keeps what was read tidy. -/
theorem close
    (tidy : nesting.IsTidy)
    (name source : Text) :
    (nesting.close name source).IsTidy := by
  simp only [Nesting.close]
  split
  · exact tidy.modifyInnermost fun nodes nodesTidy => nodesTidy.pushText source
  · next element outer found =>
      have parts := List.takeWhile_append_dropWhile
        (p := (·.name != name)) (l := nesting.openElements)
      rw [found] at parts
      have allTidy := tidy.openElements
      rw [← parts, List.forall_mem_append, List.forall_mem_cons] at allTidy
      obtain ⟨innerTidy, elementTidy, outerTidy⟩ := allTidy
      have outside : IsTidy { nesting with openElements := outer } := ⟨outerTidy, tidy.roots⟩
      apply outside.modifyInnermost
      intro nodes nodesTidy
      refine nodesTidy.pushElement ?_ rfl
      have children := (tidy_foldr_degrade innerTidy elementTidy.children).reverse
      rw [Node.isNormal, elementTidy.named, elementTidy.attributesNamed,
        areNormal_of_tidy children]
      rfl

theorem read
    (tidy : nesting.IsTidy)
    {lexeme : Lexeme}
    (named : lexeme.isNamed = true) :
    (nesting.read lexeme).IsTidy := by
  cases lexeme with
  | text source =>
      exact tidy.modifyInnermost fun nodes nodesTidy => nodesTidy.pushText _
  | comment source =>
      exact tidy
  | opening name attributes source =>
      rw [Lexeme.isNamed, Bool.and_eq_true] at named
      refine ⟨List.forall_mem_cons.mpr ⟨?_, tidy.openElements⟩, tidy.roots⟩
      exact ⟨named.1, named.2, tidy_nil⟩
  | closing name source =>
      exact tidy.close name source
  | standalone name attributes source =>
      rw [Lexeme.isNamed] at named
      apply tidy.modifyInnermost
      intro nodes nodesTidy
      refine nodesTidy.pushElement ?_ rfl
      rw [Node.isNormal, named]
      rfl

/-- Reading lexemes keeps what was read tidy. -/
theorem foldl_read
    (tidy : nesting.IsTidy)
    {unread : List Lexeme}
    (named : ∀ lexeme ∈ unread, lexeme.isNamed = true) :
    (unread.foldl Nesting.read nesting).IsTidy := by
  induction unread generalizing nesting with
  | nil =>
      exact tidy
  | cons lexeme rest inductionHypothesis =>
      obtain ⟨lexemeNamed, restNamed⟩ := List.forall_mem_cons.mp named
      exact inductionHypothesis (tidy.read lexemeNamed) restNamed

end IsTidy

end Nesting

/-- The tree of a text is in normal form. -/
theorem areNormal_parse (text : Text) : areNormal (parse text) = true := by
  have nothing : Nesting.empty.IsTidy := ⟨by simp [Nesting.empty], tidy_nil⟩
  have named : ∀ lexeme ∈ lexemes text, lexeme.isNamed = true :=
    fun lexeme member => isNamed_of_mem_lexemes member
  have tidy := nothing.foldl_read named
  exact areNormal_of_tidy (tidy_foldr_degrade tidy.openElements tidy.roots).reverse

end Colloquy.Markup
