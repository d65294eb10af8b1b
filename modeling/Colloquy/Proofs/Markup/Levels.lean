import Colloquy.Evaluation.Part
import Colloquy.Proofs.Markup.NormalForm

namespace Colloquy.Markup

/-!
# Normal form at every level

The nodes of a tree stand in lists of siblings: the tree itself, and the children of
each of its elements. A tree is in normal form exactly if each of these lists is:
every node of it is proper on its own, and no two neighbours are text. So whatever a
text holds, its tree is in normal form at every level, and what each element means is
told by its name.
-/

mutual

/-- The lists of siblings in a node: its children, and the lists in them. -/
def Node.levels : Node → List (List Node)
  | .text _ => []
  | .element _ _ children _ => children :: innerLevels children

/-- The lists of siblings in nodes. -/
def innerLevels : List Node → List (List Node)
  | [] => []
  | node :: rest => node.levels ++ innerLevels rest

end

/-- All lists of siblings of a tree, the tree itself first. -/
def levels (nodes : List Node) : List (List Node) :=
  nodes :: innerLevels nodes

/--
A text is not empty; an element and its attributes have names, and it is self-closing
only if it is empty.
-/
def Node.IsProper : Node → Prop
  | .text content => content ≠ []
  | .element name attributes children selfClosing =>
      isName name = true ∧ (∀ entry ∈ attributes, isName entry.1 = true) ∧
        (selfClosing = true → children = [])

/-- Siblings are proper, and no two neighbours are text. -/
structure IsNormalLevel (siblings : List Node) : Prop where
  proper : ∀ node ∈ siblings, node.IsProper
  apart : siblings.IsChain Apart

theorem isNormalLevel_nil : IsNormalLevel [] where
  proper := by simp
  apart := .nil

/-- A level is normal exactly if its first node is proper, stands apart, and the rest is normal. -/
theorem isNormalLevel_cons
    {node : Node}
    {rest : List Node} :
    IsNormalLevel (node :: rest) ↔
      node.IsProper ∧ (∀ next ∈ rest.head?, Apart node next) ∧ IsNormalLevel rest := by
  constructor
  · rintro ⟨proper, apart⟩
    obtain ⟨nodeProper, restProper⟩ := List.forall_mem_cons.mp proper
    obtain ⟨nodeApart, restApart⟩ := List.isChain_cons.mp apart
    exact ⟨nodeProper, nodeApart, restProper, restApart⟩
  · rintro ⟨nodeProper, nodeApart, restProper, restApart⟩
    exact ⟨List.forall_mem_cons.mpr ⟨nodeProper, restProper⟩,
      List.isChain_cons.mpr ⟨nodeApart, restApart⟩⟩

mutual

/-- A node is in normal form exactly if it is proper and all levels in it are normal. -/
theorem Node.isNormal_iff_levels :
    (node : Node) →
    (node.isNormal = true ↔ node.IsProper ∧ ∀ siblings ∈ node.levels, IsNormalLevel siblings)
  | .text content => by
      simp [Node.isNormal, Node.IsProper, Node.levels]
  | .element name attributes children selfClosing => by
      have inside := areNormal_iff_levels children
      rw [levels] at inside
      simp only [Node.isNormal, Node.IsProper, Node.levels, Bool.and_eq_true, inside,
        List.all_eq_true, Bool.or_eq_true, Bool.not_eq_true', List.isEmpty_iff, and_assoc]
      cases selfClosing <;> simp

/-- A tree is in normal form exactly if all lists of siblings in it are. -/
theorem areNormal_iff_levels :
    (nodes : List Node) →
    (areNormal nodes = true ↔ ∀ siblings ∈ levels nodes, IsNormalLevel siblings)
  | [] => by
      simp [areNormal, levels, innerLevels, isNormalLevel_nil]
  | node :: rest => by
      have first := node.isNormal_iff_levels
      have later := areNormal_iff_levels rest
      rw [levels, List.forall_mem_cons] at later
      rw [levels, List.forall_mem_cons, innerLevels, List.forall_mem_append, areNormal_cons,
        isNormalLevel_cons, first, later]
      tauto

end

/-- A tag is told by its name exactly if it is spelt so. -/
theorem Tag.ofName?_eq_some_iff
    {name : Text}
    {tag : Tag} :
    Tag.ofName? name = some tag ↔ name = tag.spelling.toList := by
  constructor
  · intro isNamed
    have spelt := List.find?_some isNamed
    exact (beq_iff_eq.mp spelt).symm
  · rintro rfl
    cases tag <;> decide

theorem toNode_mem_of_mem_elementsOf
    {element : Element}
    {nodes : List Node}
    (isElement : element ∈ elementsOf nodes) :
    element.toNode ∈ nodes := by
  obtain ⟨node, isNode, isElement⟩ := List.mem_filterMap.mp isElement
  cases node with
  | text content =>
      simp [Node.element?] at isElement
  | element name attributes children selfClosing =>
      simp only [Node.element?, Option.some.injEq] at isElement
      rw [← isElement]
      exact isNode

/--
Whatever a text holds, at every level of its tree no text is empty and no two
neighbours are text. Every element and every attribute has a name that is a name, what
an element means is the tag that its name spells, and an element marked self-closing
has no children.
-/
theorem parse_isNormal_atEveryLevel
    (text : Text) :
    ∀ siblings ∈ levels (parse text),
      (∀ content, .text content ∈ siblings → content ≠ []) ∧
        siblings.IsChain Apart ∧
        ∀ element ∈ elementsOf siblings,
          isName element.name = true ∧
            (∀ entry ∈ element.attributes, isName entry.1 = true) ∧
            (∀ tag : Tag,
              Evaluation.Piece.tag? (⟨element, Nat.le_refl _⟩ : Evaluation.Piece element.weight) =
                  some tag ↔
                element.name = tag.spelling.toList) ∧
            (element.selfClosing = true → element.children = []) := by
  intro siblings isLevel
  obtain ⟨proper, apart⟩ := (areNormal_iff_levels _).mp (areNormal_parse text) siblings isLevel
  refine ⟨fun content isText => proper _ isText, apart, ?_⟩
  intro element isElement
  obtain ⟨named, attributesNamed, closed⟩ := proper _ (toNode_mem_of_mem_elementsOf isElement)
  exact ⟨named, attributesNamed, fun tag => Tag.ofName?_eq_some_iff, closed⟩

/-- A tag that is not closed and a comment leave one text inside of the element around them. -/
theorem parse_isNormal_atEveryLevel_tagSoup :
    let inside : List Node := [.text "x<i>yz".toList, .element "star".toList [] [] true]
    inside ∈ levels (parse "<b>x<i>y<!-- -->z<star/></b>".toList) ∧ inside.IsChain Apart ∧
      ∀ element ∈ elementsOf inside, element.selfClosing = true → element.children = [] := by
  intro inside
  have isRead : parse "<b>x<i>y<!-- -->z<star/></b>".toList =
      [.element "b".toList [] inside false] := by
    decide +kernel
  have isLevel : inside ∈ levels (parse "<b>x<i>y<!-- -->z<star/></b>".toList) := by
    rw [isRead, levels, innerLevels, Node.levels]
    simp
  obtain ⟨_, apart, elements⟩ := parse_isNormal_atEveryLevel _ inside isLevel
  exact ⟨isLevel, apart, fun element isElement => (elements element isElement).2.2.2⟩

end Colloquy.Markup
