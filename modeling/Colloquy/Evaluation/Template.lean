import Colloquy.Evaluation.Element

namespace Colloquy.Evaluation

/-!
# Evaluating templates

Nodes are evaluated in order and their values joined. A template may have a text
answered by the rules, whose templates may do so in turn; how deep this goes is
bounded, and beyond the bound the answer is empty. Evaluation therefore ends:
each answer takes one from the depth that remains, and at one depth every part of
an element weighs less than the element.
-/

open Markup

/--
Evaluate nodes one after the other, given how lighter ones are evaluated and how the rules
answer an input.
-/
def evaluateEach
    (answer : Text → Evaluation Text) :
    (nodes : List Node) →
    PartEvaluator (nodesWeight nodes) →
    Evaluation Text
  | [], _ => return []
  | .text content :: rest, evaluate => do
      let later ← evaluateEach answer rest fun part =>
        evaluate ⟨part.val, Nat.lt_of_lt_of_le part.property (Nat.le_add_left _ _)⟩
      return content ++ later
  | .element name attributes children selfClosing :: rest, evaluate => do
      let value ← perform
        (fun part : Part (Element.weight ⟨name, attributes, children, selfClosing⟩) =>
          evaluate ⟨part.val, Nat.lt_of_lt_of_le part.property (Nat.le_add_right _ _)⟩)
        answer ⟨⟨name, attributes, children, selfClosing⟩, Nat.le_refl _⟩
      let later ← evaluateEach answer rest fun part =>
        evaluate ⟨part.val, Nat.lt_of_lt_of_le part.property (Nat.le_add_left _ _)⟩
      return value ++ later

/-- Evaluate nodes, given how the rules answer an input. -/
def evaluateNodes
    (answer : Text → Evaluation Text)
    (nodes : List Node) :
    Evaluation Text :=
  evaluateEach answer nodes fun part => evaluateNodes answer part.val
termination_by nodesWeight nodes
decreasing_by exact part.property

section

variable
  (answer : Text → Evaluation Text)

theorem evaluateNodes_eq (nodes : List Node) :
    evaluateNodes answer nodes =
      evaluateEach answer nodes fun part => evaluateNodes answer part.val := by
  rw [evaluateNodes]

theorem evaluateNodes_nil : evaluateNodes answer [] = return [] := by
  rw [evaluateNodes_eq, evaluateEach]

theorem evaluateNodes_text
    (content : Text)
    (rest : List Node) :
    evaluateNodes answer (.text content :: rest) = (do
      let later ← evaluateNodes answer rest
      return content ++ later) := by
  rw [evaluateNodes_eq, evaluateEach, evaluateNodes_eq answer rest]

/-- An element is performed with its parts evaluated by the same rules. -/
theorem evaluateNodes_element
    (name : Text)
    (attributes : List Attribute)
    (children : List Node)
    (selfClosing : Bool)
    (rest : List Node) :
    evaluateNodes answer (.element name attributes children selfClosing :: rest) = (do
      let value ← perform
        (fun part : Part (Element.weight ⟨name, attributes, children, selfClosing⟩) =>
          evaluateNodes answer part.val)
        answer ⟨⟨name, attributes, children, selfClosing⟩, Nat.le_refl _⟩
      let later ← evaluateNodes answer rest
      return value ++ later) := by
  rw [evaluateNodes_eq, evaluateEach, evaluateNodes_eq answer rest]

end

/-- Evaluate the text of a template and collapse its blanks. -/
def templateBy
    (evaluate : List Node → Evaluation Text)
    (template : Text) :
    Evaluation Text := do
  let nodes ← fetch template
  let text ← evaluate nodes.val
  return Text.collapse text

/-- Have an input answered by the rules, evaluating the template of the one selected. -/
def answerBy
    (evaluate : List Node → Evaluation Text)
    (input : Text) :
    Evaluation Text :=
  if (Text.collapse input).isEmpty then
    return []
  else do
    match ← select (Text.collapse input) with
    | none => return []
    | some selected =>
        inChildFrame selected.bindings (templateBy evaluate selected.category.template)

/-- Evaluate nodes with at most the given number of answers inside one another. -/
def evaluateWithin :
    (remaining : Nat) →
    List Node →
    Evaluation Text
  | 0, nodes => evaluateNodes (fun _ => return []) nodes
  | remaining + 1, nodes => evaluateNodes (answerBy (evaluateWithin remaining)) nodes

/-- How many answers inside one another the current frame leaves. -/
def remainingDepth (turn : Turn) : Nat :=
  turn.interpreter.settings.maxRecursionDepth - turn.frame.depth

/-- Evaluate nodes in the current frame. -/
def evaluate (nodes : List Node) : Evaluation Text :=
  fun turn => evaluateWithin (remainingDepth turn) nodes turn

/-- Evaluate the text of a template in the current frame. -/
def evaluateTemplate (template : Text) : Evaluation Text :=
  templateBy evaluate template

end Colloquy.Evaluation
