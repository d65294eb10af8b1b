import Colloquy.Evaluation.Template
import Colloquy.Proofs.Markup.Joining

namespace Colloquy

/-!
# Values bring no markup into a template

The template of a rule that is learned is written as markup in which the outermost
elements that ask to be evaluated are replaced by their values. Whatever the values
are, reading the markup gives the template back with a text for each of these
elements, so its elements are those of the template outside of them.
-/

/-! ## Elements that ask to be evaluated -/

namespace Markup

mutual

/-- The contents of the outermost elements in a node that ask to be evaluated, in order. -/
def Node.inquiries : Node → List (List Node)
  | .text _ => []
  | .element name _ children _ =>
      if Tag.ofName? name = some .eval then [children] else inquiriesIn children

/-- The contents of the outermost elements in nodes that ask to be evaluated, in order. -/
def inquiriesIn : List Node → List (List Node)
  | [] => []
  | node :: rest => node.inquiries ++ inquiriesIn rest

end

mutual

/-- A node with a text in the place of each inquiry, which holds the next of the values. -/
def Node.answer : Node → List Text → Node
  | .text content, _ => .text content
  | .element name attributes children selfClosing, values =>
      if Tag.ofName? name = some .eval then
        .text (values.headD [])
      else
        .element name attributes (answerNodes children values) selfClosing

/-- Nodes with a text in the place of each inquiry, which holds the next of the values. -/
def answerNodes : List Node → List Text → List Node
  | [], _ => []
  | node :: rest, values =>
      node.answer values :: answerNodes rest (values.drop node.inquiries.length)

end

mutual

/-- What is left of a node without the elements that ask to be evaluated. -/
def Node.lasting : Node → List Node
  | .text content => [.text content]
  | .element name attributes children selfClosing =>
      if Tag.ofName? name = some .eval then
        []
      else
        [.element name attributes (lastingNodes children) selfClosing]

/-- What is left of nodes without the elements that ask to be evaluated. -/
def lastingNodes : List Node → List Node
  | [] => []
  | node :: rest => node.lasting ++ lastingNodes rest

end

/-! ## Trees with answers -/

mutual

/-- No more values are used in a node than there are inquiries in it. -/
theorem Node.answer_append :
    (node : Node) →
    (values more : List Text) →
    values.length = node.inquiries.length →
    node.answer (values ++ more) = node.answer values
  | .text _, _, _, _ => rfl
  | .element name attributes children selfClosing, values, more, enough => by
      by_cases asks : Tag.ofName? name = some .eval
      · simp only [Node.inquiries, asks, ↓reduceIte, List.length_singleton] at enough
        obtain ⟨value, rfl⟩ := List.length_eq_one_iff.mp enough
        simp [Node.answer, asks]
      · simp only [Node.inquiries, asks, ↓reduceIte] at enough
        simp only [Node.answer, asks, ↓reduceIte, answerNodes_append children values more enough]

/-- No more values are used than there are inquiries. -/
theorem answerNodes_append :
    (nodes : List Node) →
    (values more : List Text) →
    values.length = (inquiriesIn nodes).length →
    answerNodes nodes (values ++ more) = answerNodes nodes values
  | [], _, _, _ => rfl
  | node :: rest, values, more, enough => by
      rw [inquiriesIn, List.length_append] at enough
      have isSplit := List.take_append_drop node.inquiries.length values
      have first : (values.take node.inquiries.length).length = node.inquiries.length := by
        rw [List.length_take]
        omega
      have later : (values.drop node.inquiries.length).length = (inquiriesIn rest).length := by
        rw [List.length_drop]
        omega
      rw [answerNodes, answerNodes, List.drop_append_of_le_length (by omega),
        answerNodes_append rest _ more later]
      congr 1
      rw [← isSplit, List.append_assoc, node.answer_append _ _ first, node.answer_append _ _ first]

end

mutual

/-- The tags of a node with answers are those outside of the elements that asked for them. -/
theorem Node.marks_answer :
    (node : Node) →
    (values : List Text) →
    (node.answer values).marks = marksOf node.lasting
  | .text _, _ => rfl
  | .element name attributes children selfClosing, values => by
      by_cases asks : Tag.ofName? name = some .eval
      · simp [Node.answer, Node.lasting, asks, Node.marks, marksOf]
      · simp [Node.answer, Node.lasting, asks, Node.marks, marksOf,
          marksOf_answerNodes children values]

/-- The tags of nodes with answers are those outside of the elements that asked for them. -/
theorem marksOf_answerNodes :
    (nodes : List Node) →
    (values : List Text) →
    marksOf (answerNodes nodes values) = marksOf (lastingNodes nodes)
  | [], _ => rfl
  | node :: rest, values => by
      rw [answerNodes, lastingNodes, marksOf, marksOf_append, node.marks_answer values,
        marksOf_answerNodes rest]

end

mutual

theorem Node.isWellTagged_answer :
    (node : Node) →
    (values : List Text) →
    node.isNormal = true →
    (node.answer values).isWellTagged = true
  | .text _, _, _ => rfl
  | .element name attributes children selfClosing, values, normal => by
      by_cases asks : Tag.ofName? name = some .eval
      · simp only [Node.answer, asks, ↓reduceIte, Node.isWellTagged]
      · simp only [Node.isNormal, Bool.and_eq_true] at normal
        obtain ⟨⟨⟨named, attributesNamed⟩, closed⟩, inside⟩ := normal
        have stillClosed : (!selfClosing || (answerNodes children values).isEmpty) = true := by
          cases children with
          | nil =>
              exact closed
          | cons child later =>
              simpa [answerNodes] using closed
        simp only [Node.answer, asks, ↓reduceIte, Node.isWellTagged, named, attributesNamed,
          stillClosed, areWellTagged_answerNodes children values inside, Bool.and_self]

/-- The elements of normal nodes are as in normal form whatever the answers are. -/
theorem areWellTagged_answerNodes :
    (nodes : List Node) →
    (values : List Text) →
    areNormal nodes = true →
    areWellTagged (answerNodes nodes values) = true
  | [], _, _ => rfl
  | node :: rest, values, normal => by
      obtain ⟨nodeNormal, _, restNormal⟩ := areNormal_cons.mp normal
      rw [answerNodes, areWellTagged, node.isWellTagged_answer values nodeNormal,
        areWellTagged_answerNodes rest _ restNormal]
      rfl

end

end Markup

/-! ## Templates that are learned -/

namespace Evaluation

open Markup

mutual

/-- A node in which the elements that ask to be evaluated are replaced by their values. -/
def settleNode
    (evaluate : List Node → Evaluation Text) :
    Node →
    Evaluation Node
  | .text content => return .text content
  | .element name attributes children selfClosing =>
      if Tag.ofName? name = some .eval then do
        let value ← evaluate children
        return .text value
      else if selfClosing then
        return .element name attributes children true
      else do
        let settled ← settleNodes evaluate children
        return .element name attributes settled false

/-- Nodes in which the elements that ask to be evaluated are replaced by their values. -/
def settleNodes
    (evaluate : List Node → Evaluation Text) :
    List Node →
    Evaluation (List Node)
  | [] => return []
  | node :: rest => do
      let first ← settleNode evaluate node
      let later ← settleNodes evaluate rest
      return first :: later

end

/-- The values of nodes, evaluated one after the other, and the turn after that. -/
def valuesOf
    (evaluate : List Node → Evaluation Text)
    (inquiries : List (List Node))
    (turn : Turn) :
    List Text × Turn :=
  inquiries.mapM evaluate turn

section

variable
  {limit : Nat}
  (evaluate : List Node → Evaluation Text)

/-- The values of more nodes follow those of the first ones, in the turn after them. -/
theorem valuesOf_append
    (first second : List (List Node))
    (turn : Turn) :
    valuesOf evaluate (first ++ second) turn =
      ((valuesOf evaluate first turn).1 ++
          (valuesOf evaluate second (valuesOf evaluate first turn).2).1,
        (valuesOf evaluate second (valuesOf evaluate first turn).2).2) := by
  rw [valuesOf, List.mapM_append]
  rfl

/-- There is a value for each inquiry. -/
theorem length_valuesOf
    (inquiries : List (List Node))
    (turn : Turn) :
    (valuesOf evaluate inquiries turn).1.length = inquiries.length := by
  induction inquiries generalizing turn with
  | nil =>
      rfl
  | cons inquiry rest inductionHypothesis =>
      rw [valuesOf, List.mapM_cons]
      exact congrArg (· + 1) (inductionHypothesis _)

mutual

/-- A node is written piece by piece as it is once it is settled. -/
theorem freezeNode_eq :
    (node : Node) →
    (within : node.weight < limit) →
    freezeNode (fun part => evaluate part.val) node within =
      Node.render <$> settleNode evaluate node
  | .text _, _ => rfl
  | .element name attributes children selfClosing, within => by
      by_cases asks : Tag.ofName? name = some .eval
      · simp [freezeNode, settleNode, asks]
      · cases selfClosing with
        | true =>
            simp [freezeNode, settleNode, asks, Node.render]
        | false =>
            simp [freezeNode, settleNode, asks, Node.render, freezeNodes_eq children]

/-- Nodes are written piece by piece as they are once they are settled. -/
theorem freezeNodes_eq :
    (nodes : List Node) →
    (within : nodesWeight nodes < limit) →
    freezeNodes (fun part => evaluate part.val) nodes within =
      renderNodes <$> settleNodes evaluate nodes
  | [], _ => rfl
  | node :: rest, within => by
      simp [freezeNodes, settleNodes, renderNodes, freezeNode_eq node, freezeNodes_eq rest]

end

mutual

/-- Settling a node evaluates the inquiries in it in order, and answers them with the values. -/
theorem settleNode_eq :
    (node : Node) →
    node.isNormal = true →
    (turn : Turn) →
    settleNode evaluate node turn =
      (node.answer (valuesOf evaluate node.inquiries turn).1,
        (valuesOf evaluate node.inquiries turn).2)
  | .text _, _, _ => rfl
  | .element name attributes children selfClosing, normal, turn => by
      by_cases asks : Tag.ofName? name = some .eval
      · have settled : settleNode evaluate (.element name attributes children selfClosing) turn =
            (.text (evaluate children turn).1, (evaluate children turn).2) := by
          rw [settleNode, if_pos asks]
          rfl
        simp only [settled, Node.inquiries, Node.answer, asks, ↓reduceIte]
        rfl
      · simp only [Node.isNormal, Bool.and_eq_true] at normal
        obtain ⟨⟨_, closed⟩, inside⟩ := normal
        simp only [Node.inquiries, Node.answer, asks, ↓reduceIte]
        cases selfClosing with
        | true =>
            obtain rfl : children = [] := by simpa using closed
            rw [settleNode, if_neg asks]
            rfl
        | false =>
            have settled := settleNodes_eq children inside turn
            rw [settleNode, if_neg asks]
            exact congrArg (fun outcome : List Node × Turn =>
              (Node.element name attributes outcome.1 false, outcome.2)) settled

/-- Settling nodes evaluates the inquiries in them in order, and answers them with the values. -/
theorem settleNodes_eq :
    (nodes : List Node) →
    areNormal nodes = true →
    (turn : Turn) →
    settleNodes evaluate nodes turn =
      (answerNodes nodes (valuesOf evaluate (inquiriesIn nodes) turn).1,
        (valuesOf evaluate (inquiriesIn nodes) turn).2)
  | [], _, _ => rfl
  | node :: rest, normal, turn => by
      obtain ⟨nodeNormal, _, restNormal⟩ := areNormal_cons.mp normal
      have first := settleNode_eq node nodeNormal turn
      have later := settleNodes_eq rest restNormal (valuesOf evaluate node.inquiries turn).2
      have enough := length_valuesOf evaluate node.inquiries turn
      have settled : settleNodes evaluate (node :: rest) turn =
          (node.answer (valuesOf evaluate node.inquiries turn).1 ::
              answerNodes rest (valuesOf evaluate (inquiriesIn rest)
                (valuesOf evaluate node.inquiries turn).2).1,
            (valuesOf evaluate (inquiriesIn rest)
              (valuesOf evaluate node.inquiries turn).2).2) := by
        rw [settleNodes]
        simp only [bind, StateT.bind, first, later]
        rfl
      rw [settled, inquiriesIn, valuesOf_append, answerNodes, node.answer_append _ _ enough,
        List.drop_left' enough]

end

end

/--
Whatever a template's inquiries evaluate to, what is written for it to be learned is read
as the template with a text in the place of each outermost element that asks to be
evaluated, which holds the value of its content, with empty texts dropped and neighbouring
texts joined. So the tags that are read are those of the template outside of these
elements, with the same attributes and in the same order.
-/
theorem parse_freeze
    {limit : Nat}
    (evaluate : List Node → Evaluation Text)
    (template : Part limit)
    (turn : Turn)
    (normal : areNormal template.val = true)
    (writable : areWritable (lastingNodes template.val) = true) :
    let frozen := freeze (fun part => evaluate part.val) template turn
    let values := valuesOf evaluate (inquiriesIn template.val) turn
    parse frozen.1 = joinTexts (answerNodes template.val values.1) ∧
      values.1.length = (inquiriesIn template.val).length ∧
      marksOf (parse frozen.1) = marksOf (lastingNodes template.val) ∧
      frozen.2 = values.2 := by
  intro frozen values
  have settled := settleNodes_eq evaluate template.val normal turn
  have written : frozen = (renderNodes <$> settleNodes evaluate template.val) turn :=
    congrFun (freezeNodes_eq evaluate template.val template.property) turn
  have isFrozen : frozen = (renderNodes (answerNodes template.val values.1), values.2) :=
    written.trans
      (congrArg (fun outcome : List Node × Turn => (renderNodes outcome.1, outcome.2)) settled)
  have wellTagged := areWellTagged_answerNodes template.val values.1 normal
  have marks := marksOf_answerNodes template.val values.1
  have answersWritable : areWritable (answerNodes template.val values.1) = true := by
    rw [areWritable_eq_all, marks, ← areWritable_eq_all, writable]
  have isRead : parse frozen.1 = joinTexts (answerNodes template.val values.1) := by
    rw [isFrozen]
    exact parse_renderNodes_eq_joinTexts wellTagged answersWritable
  refine ⟨isRead, length_valuesOf evaluate _ turn, ?_, congrArg Prod.snd isFrozen⟩
  rw [isRead, marksOf_joinTexts, marks]

/-- Text around a variable that is asked for, and the same variable left in place. -/
def colourTemplate : List Node :=
  [.text "I like ".toList,
    .element "eval".toList []
      [.element "get".toList [("name".toList, "colour".toList)] [] true] false,
    .text ", ".toList, .element "get".toList [("name".toList, "colour".toList)] [] true,
    .text " now".toList]

/-- A session in which the variable holds markup. -/
def colourTurn : Turn where
  interpreter := Interpreter.new (KnowledgeBase.empty [] Table.empty Table.empty) {} []
  session := (Session.new []).setVariable "colour".toList "<star/> & green".toList
  frame := Frame.root Bindings.empty

/-- Markup in a variable is read as the text around it. -/
theorem parse_freeze_colour :
    areNormal colourTemplate = true ∧ areWritable (lastingNodes colourTemplate) = true ∧
      parse (freeze (fun part => evaluateNodes (fun _ => pure []) part.val)
          (⟨colourTemplate, Nat.lt_succ_self _⟩ : Part (nodesWeight colourTemplate + 1))
          colourTurn).1 =
        [.text "I like <star/> & green, ".toList,
          .element "get".toList [("name".toList, "colour".toList)] [] true,
          .text " now".toList] := by
  have normal : areNormal colourTemplate = true := by decide +kernel
  have writable : areWritable (lastingNodes colourTemplate) = true := by decide +kernel
  refine ⟨normal, writable, (parse_freeze _ _ colourTurn normal writable).1.trans ?_⟩
  decide +kernel

end Evaluation

end Colloquy
