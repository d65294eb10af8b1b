import Colloquy.Proofs.Evaluation.Correspondence

namespace Colloquy.Evaluation

/-!
# Evaluations that call rules

A correspondence that all steps keep is kept by whole evaluations too: by nodes if
it is kept by the answers that they ask for, and by answers if it is kept by
selecting a rule and by evaluating the template of the rule one frame deeper.
-/

open Markup

/-- How inputs are answered where the given depth remains. -/
def answerWithin : Nat → Text → Evaluation Text
  | 0 => fun _ => return []
  | remaining + 1 => answerBy (evaluateWithin remaining)

/-- Within a depth, nodes are evaluated with the answers of that depth. -/
theorem evaluateWithin_eq
    (remaining : Nat)
    (nodes : List Node) :
    evaluateWithin remaining nodes = evaluateNodes (answerWithin remaining) nodes := by
  cases remaining with
  | zero =>
      rfl
  | succ remaining =>
      rfl

/-- What holds of nodes because it holds of the parts of their first element and of the rest. -/
theorem nodes_induction
    {motive : List Node → Prop}
    (nil : motive [])
    (text : ∀ content rest, motive rest → motive (.text content :: rest))
    (element : ∀ name attributes children selfClosing rest,
      (∀ part : Part (Element.weight ⟨name, attributes, children, selfClosing⟩),
        motive part.val) →
      motive rest →
      motive (.element name attributes children selfClosing :: rest)) :
    (nodes : List Node) →
    motive nodes
  | [] => nil
  | .text content :: rest => text content rest (nodes_induction nil text element rest)
  | .element name attributes children selfClosing :: rest =>
      element name attributes children selfClosing rest
        (fun part => nodes_induction nil text element part.val)
        (nodes_induction nil text element rest)
termination_by nodes => (nodesWeight nodes, nodes.length)
decreasing_by
  · rw [Prod.lex_def]
    simp only [nodesWeight, Node.weight, List.length_cons]
    omega
  · rw [Prod.lex_def]
    have lighter := part.property
    simp only [Element.weight] at lighter
    simp only [nodesWeight, Node.weight]
    omega
  · rw [Prod.lex_def]
    simp only [nodesWeight, Node.weight, List.length_cons]
    omega

namespace Correspondence

variable {ι : Type} (correspondence : Correspondence ι)

/-- Nodes correspond if the answers do that they ask for. -/
theorem evaluateNodes
    {approach : ι → Text → Evaluation Text}
    {answer : Text → Evaluation Text}
    (answers : ∀ input, correspondence.holds (fun i => approach i input) (answer input))
    {nodes : List Node}
    (admitted : correspondence.admits nodes) :
    correspondence.holds
      (fun i => evaluateNodes (approach i) nodes)
      (evaluateNodes answer nodes) := by
  induction nodes using nodes_induction with
  | nil =>
      simp only [evaluateNodes_nil]
      exact correspondence.value []
  | text content rest inductionHypothesis =>
      simp only [evaluateNodes_text]
      apply correspondence.returning
      exact inductionHypothesis (correspondence.admits_sublist (by simp) admitted)
  | element name attributes children selfClosing rest partHypothesis restHypothesis =>
      simp only [evaluateNodes_element]
      let element : Element := ⟨name, attributes, children, selfClosing⟩
      let piece : Piece element.weight := ⟨element, Nat.le_refl _⟩
      have fits : correspondence.Fits piece :=
        correspondence.admits_sublist (List.singleton_sublist.mpr List.mem_cons_self) admitted
      have onParts : correspondence.OnParts
          (fun i (part : Part element.weight) =>
            Evaluation.evaluateNodes (approach i) part.val)
          (fun part => Evaluation.evaluateNodes answer part.val) :=
        fun part partAdmitted => partHypothesis part partAdmitted
      apply correspondence.sequence (onParts.perform answers fits)
      intro value
      apply correspondence.returning
      exact restHypothesis (correspondence.admits_sublist (by simp) admitted)

section Calls

variable
  {approach : ι → List Node → Evaluation Text}
  {evaluate : List Node → Evaluation Text}

/-- A template corresponds if its nodes do. -/
theorem templateBy
    (template : Text)
    (evaluates : correspondence.holds
      (fun i => approach i (parse template))
      (evaluate (parse template))) :
    correspondence.holds
      (fun i => templateBy (approach i) template)
      (templateBy evaluate template) := by
  apply correspondence.sequence (correspondence.reading (.fetch template))
  intro nodes
  apply correspondence.returning
  rw [nodes.property]
  exact evaluates

/-- An answer corresponds if the selection and the template of the selected rule do. -/
theorem answerBy
    (input : Text)
    (selects : correspondence.holds
      (fun _ => select (Text.collapse input))
      (select (Text.collapse input)))
    (calls : ∀ selected : Selected,
      correspondence.holds
        (fun i => inChildFrame selected.bindings
          (Evaluation.templateBy (approach i) selected.category.template))
        (inChildFrame selected.bindings
          (Evaluation.templateBy evaluate selected.category.template))) :
    correspondence.holds
      (fun i => answerBy (approach i) input)
      (answerBy evaluate input) := by
  apply correspondence.either
  · exact correspondence.value []
  · apply correspondence.sequence selects
    rintro (_ | selected)
    · exact correspondence.value []
    · exact calls selected

end Calls

end Correspondence

end Colloquy.Evaluation
