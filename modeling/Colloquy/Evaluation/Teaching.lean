import Colloquy.Evaluation.Part

namespace Colloquy.Evaluation

/-!
# Learning from templates

A template may hold categories to learn or unlearn. Their patterns are evaluated
when they are learned; their templates are kept as markup, but for the elements
that ask to be evaluated, whose values become text.
-/

open Markup

variable {limit : Nat}

mutual

/-- A node as markup; an element that asks to be evaluated is written as its value. -/
def freezeNode
    (evaluate : PartEvaluator limit) :
    (node : Node) →
    node.weight < limit →
    Evaluation Text
  | .text content, _ => return (Node.text content).render
  | .element name attributes children selfClosing, within =>
      if Tag.ofName? name = some .eval then do
        let value ← evaluate
          ⟨children, Nat.lt_trans (nodesWeight_lt_weight name attributes children _) within⟩
        return (Node.text value).render
      else do
        let inside ←
          if selfClosing then
            pure []
          else
            freezeNodes evaluate children
              (Nat.lt_trans (nodesWeight_lt_weight name attributes children _) within)
        return renderStart name attributes selfClosing ++ inside ++ renderEnd name selfClosing

/-- Nodes as markup, written one after the other. -/
def freezeNodes
    (evaluate : PartEvaluator limit) :
    (nodes : List Node) →
    nodesWeight nodes < limit →
    Evaluation Text
  | [], _ => return []
  | node :: rest, within => do
      let first ← freezeNode evaluate node
        (Nat.lt_of_le_of_lt (Nat.le_add_right _ _) within)
      let later ← freezeNodes evaluate rest
        (Nat.lt_of_le_of_lt (Nat.le_add_left _ _) within)
      return first ++ later

end

/-- A template as markup, with the values of the elements that ask to be evaluated. -/
def freeze
    (evaluate : PartEvaluator limit)
    (template : Part limit) :
    Evaluation Text :=
  freezeNodes evaluate template.val template.property

/-- What a part of a category evaluates to, if the category has it. -/
def categoryField?
    (evaluate : PartEvaluator limit)
    (category : Piece limit)
    (name : String) :
    Evaluation (Option Text) :=
  match category.child? name.toList with
  | none => return none
  | some field => do
      let text ← evaluate field.children
      return some (Text.collapse text)

/-- The category that an element describes. -/
def candidate
    (evaluate : PartEvaluator limit)
    (category : Piece limit) :
    Evaluation Category := do
  let pattern ← categoryField? evaluate category "pattern"
  let that ← categoryField? evaluate category "that"
  let topic ← categoryField? evaluate category "topic"
  let template ←
    match category.child? "template".toList with
    | none => pure []
    | some field => freeze evaluate field.children
  return {
    pattern := pattern.getD []
    that := that.bind Category.constraint?
    topic := topic.bind Category.constraint?
    template := template }

/-- Do something with each category that is described, one after the other. -/
def eachCandidate
    (evaluate : PartEvaluator limit)
    (use : Category → Evaluation Unit) :
    List (Piece limit) →
    Evaluation Unit
  | [] => return ()
  | category :: rest => do
      use (← candidate evaluate category)
      eachCandidate evaluate use rest

/-- Do something with each category that is described in an element. -/
def teach
    (evaluate : PartEvaluator limit)
    (use : Category → Evaluation Unit)
    (piece : Piece limit) :
    Evaluation Text := do
  eachCandidate evaluate use
    (piece.elements.filter fun child => child.val.name = "category".toList)
  return []

end Colloquy.Evaluation
