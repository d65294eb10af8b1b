import Colloquy.Proofs.Markup.Marks
import Colloquy.Proofs.Markup.NormalForm

namespace Colloquy.Markup

/-!
# Joining texts

Nodes that were put together from parts may hold empty texts, and texts that stand
next to each other. Joining drops the former and makes one text of the latter, at
every level. It changes neither the markup of the nodes nor their tags, so the markup
of the nodes is read as the nodes with their texts joined.
-/

/-- Put a node before others, dropping empty text and joining it with text that follows. -/
def joinNode : Node → List Node → List Node
  | .text [], rest => rest
  | .text (c :: content), .text next :: rest => .text (c :: content ++ next) :: rest
  | node, rest => node :: rest

mutual

/-- A node in which texts are joined. -/
def Node.joined : Node → Node
  | .text content => .text content
  | .element name attributes children selfClosing =>
      .element name attributes (joinTexts children) selfClosing

/-- Nodes without empty texts, in which texts that follow one another are one. -/
def joinTexts : List Node → List Node
  | [] => []
  | node :: rest => joinNode node.joined (joinTexts rest)

end

/-! ## What stays the same -/

theorem escapeText_append
    (first second : Text) :
    escapeText (first ++ second) = escapeText first ++ escapeText second :=
  List.flatMap_append

/-- Joining texts changes nothing in what is written. -/
theorem renderNodes_joinNode
    (node : Node)
    (rest : List Node) :
    renderNodes (joinNode node rest) = node.render ++ renderNodes rest := by
  fun_cases joinNode node rest with
  | case1 => rfl
  | case2 c content next later =>
      simp only [renderNodes, Node.render, escapeText_append, List.append_assoc]
  | case3 => rfl

/-- Joining texts changes no tag. -/
theorem marksOf_joinNode
    (node : Node)
    (rest : List Node) :
    marksOf (joinNode node rest) = node.marks ++ marksOf rest := by
  fun_cases joinNode node rest with
  | case1 => rfl
  | case2 => rfl
  | case3 => rfl

mutual

/-- A node is written alike when the texts in it are joined. -/
theorem Node.render_joined :
    (node : Node) →
    node.joined.render = node.render
  | .text _ => rfl
  | .element name attributes children selfClosing => by
      simp only [Node.joined, Node.render, renderNodes_joinTexts children]

/-- Joining texts leaves the markup as it is. -/
theorem renderNodes_joinTexts :
    (nodes : List Node) →
    renderNodes (joinTexts nodes) = renderNodes nodes
  | [] => rfl
  | node :: rest => by
      rw [joinTexts, renderNodes_joinNode, node.render_joined, renderNodes_joinTexts rest,
        renderNodes]

end

mutual

/-- A node has the same tags when the texts in it are joined. -/
theorem Node.marks_joined :
    (node : Node) →
    node.joined.marks = node.marks
  | .text _ => rfl
  | .element name attributes children selfClosing => by
      simp only [Node.joined, Node.marks, marksOf_joinTexts children]

/-- Joining texts leaves the tags as they are. -/
theorem marksOf_joinTexts :
    (nodes : List Node) →
    marksOf (joinTexts nodes) = marksOf nodes
  | [] => rfl
  | node :: rest => by
      rw [joinTexts, marksOf_joinNode, node.marks_joined, marksOf_joinTexts rest, marksOf]

end

/-! ## Normal form -/

mutual

/-- The elements of a node are as in normal form, whatever its texts are like. -/
def Node.isWellTagged : Node → Bool
  | .text _ => true
  | .element name attributes children selfClosing =>
      isName name && attributes.all (fun entry => isName entry.1) &&
        (!selfClosing || children.isEmpty) && areWellTagged children

/-- The elements of nodes are as in normal form, whatever their texts are like. -/
def areWellTagged : List Node → Bool
  | [] => true
  | node :: rest => node.isWellTagged && areWellTagged rest

end

/-- A node that is joined to normal ones makes normal ones. -/
theorem areNormal_joinNode
    {node : Node}
    {rest : List Node}
    (normal : node.isText = true ∨ node.isNormal = true)
    (restNormal : areNormal rest = true) :
    areNormal (joinNode node rest) = true := by
  fun_cases joinNode node rest with
  | case1 =>
      exact restNormal
  | case2 c content next later =>
      obtain ⟨_, apart, laterNormal⟩ := areNormal_cons.mp restNormal
      exact areNormal_cons.mpr ⟨rfl, apart, laterNormal⟩
  | case3 node rest notEmpty notJoined =>
      cases node with
      | element name attributes children selfClosing =>
          have nodeNormal := normal.resolve_left Bool.false_ne_true
          exact areNormal_cons.mpr ⟨nodeNormal, fun _ _ => rfl, restNormal⟩
      | text content =>
          cases content with
          | nil =>
              exact absurd rfl notEmpty
          | cons c content =>
              refine areNormal_cons.mpr ⟨rfl, ?_, restNormal⟩
              intro next isNext
              cases next with
              | element name attributes children selfClosing =>
                  rfl
              | text next =>
                  obtain ⟨later, isRest⟩ := List.head?_eq_some_iff.mp isNext
                  exact absurd isRest (notJoined c content next later rfl)

mutual

/-- A node with good tags is in normal form when the texts in it are joined. -/
theorem Node.isNormal_joined :
    (node : Node) →
    node.isWellTagged = true →
    node.joined.isText = true ∨ node.joined.isNormal = true
  | .text _, _ => .inl rfl
  | .element name attributes children selfClosing, wellTagged => by
      simp only [Node.isWellTagged, Bool.and_eq_true] at wellTagged
      obtain ⟨⟨⟨named, attributesNamed⟩, closed⟩, inside⟩ := wellTagged
      have joinedClosed : (!selfClosing || (joinTexts children).isEmpty) = true := by
        cases selfClosing with
        | false =>
            rfl
        | true =>
            obtain rfl : children = [] := by simpa using closed
            rfl
      right
      rw [Node.joined, Node.isNormal, named, attributesNamed, joinedClosed,
        areNormal_joinTexts children inside]
      rfl

/-- Once their texts are joined, nodes whose elements are as in normal form are in normal form. -/
theorem areNormal_joinTexts :
    (nodes : List Node) →
    areWellTagged nodes = true →
    areNormal (joinTexts nodes) = true
  | [], _ => rfl
  | node :: rest, wellTagged => by
      simp only [areWellTagged, Bool.and_eq_true] at wellTagged
      exact areNormal_joinNode (node.isNormal_joined wellTagged.1)
        (areNormal_joinTexts rest wellTagged.2)

end

/-! ## Attribute values -/

/-- The values of a tag's attributes can be written. -/
def Mark.isWritable : Mark → Bool
  | .start _ attributes _ => attributes.all fun entry => Markup.isWritable entry.2
  | .stop _ => true

mutual

/-- A node is writable exactly if all its tags are. -/
theorem Node.isWritable_eq_all :
    (node : Node) →
    node.isWritable = node.marks.all Mark.isWritable
  | .text _ => rfl
  | .element name attributes children selfClosing => by
      rw [Node.isWritable, Node.marks, List.all_cons, List.all_append,
        areWritable_eq_all children]
      cases selfClosing <;> simp [Mark.isWritable]

/-- Whether the attribute values of nodes can be written is seen from their tags. -/
theorem areWritable_eq_all :
    (nodes : List Node) →
    areWritable nodes = (marksOf nodes).all Mark.isWritable
  | [] => rfl
  | node :: rest => by
      rw [areWritable, marksOf, List.all_append, node.isWritable_eq_all, areWritable_eq_all rest]

end

/--
The markup of nodes whose elements are as in normal form, and whose attribute values can
be written, is read as the nodes with their texts joined.
-/
theorem parse_renderNodes_eq_joinTexts
    {nodes : List Node}
    (wellTagged : areWellTagged nodes = true)
    (writable : areWritable nodes = true) :
    parse (renderNodes nodes) = joinTexts nodes := by
  have joinedNormal := areNormal_joinTexts nodes wellTagged
  have joinedWritable : areWritable (joinTexts nodes) = true := by
    rw [areWritable_eq_all, marksOf_joinTexts, ← areWritable_eq_all, writable]
  rw [← renderNodes_joinTexts, parse, foldl_read_renderNodes joinedNormal joinedWritable]
  exact List.reverse_reverse _

end Colloquy.Markup
