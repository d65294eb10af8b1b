import Colloquy.Proofs.Evaluation.Calls

namespace Colloquy.Evaluation

/-!
# Evaluation ends

Evaluation calls itself: for the parts of an element, and, one frame deeper, for
the template of a rule that was selected. Here it is written as that plain
recursion, under supervision. Every call is measured by the depth that remains and
the weight of its nodes; a call that is not measured below its caller, or whose
frame is deeper than the settings allow, may do anything at all, and so may a
call for which no fuel is left. With enough fuel this supervised evaluation is
evaluation, whatever it would do otherwise. So no such call is ever made: the
measure of every call descends, no frame is too deep, and evaluation ends.
-/

open Markup

/-! ## Evaluation as plain recursion -/

/-- Have an input answered, unless the frame is as deep as the settings allow. -/
def answerInFrame
    (evaluate : List Node → Evaluation Text)
    (input : Text) :
    Evaluation Text :=
  fun turn =>
    if turn.interpreter.settings.maxRecursionDepth ≤ turn.frame.depth then
      ([], turn)
    else
      answerBy evaluate input turn

/-- Evaluate nodes in order, calling `evaluate` for parts of elements and for templates. -/
def evaluateCalling
    (evaluate : List Node → Evaluation Text) :
    List Node →
    Evaluation Text
  | [] => return []
  | .text content :: rest => do
      let later ← evaluateCalling evaluate rest
      return content ++ later
  | .element name attributes children selfClosing :: rest => do
      let value ← perform
        (fun part : Part (Element.weight ⟨name, attributes, children, selfClosing⟩) =>
          evaluate part.val)
        (answerInFrame evaluate) ⟨⟨name, attributes, children, selfClosing⟩, Nat.le_refl _⟩
      let later ← evaluateCalling evaluate rest
      return value ++ later

/-- The measure of a call: the depth that remains and the weight of the nodes. -/
def callMeasure
    (turn : Turn)
    (nodes : List Node) :
    Nat × Nat :=
  (remainingDepth turn, nodesWeight nodes)

/-- A call is in order: its frame is not too deep, and its measure is below its caller's. -/
structure CallInOrder
    (caller : Nat × Nat)
    (turn : Turn)
    (nodes : List Node) :
    Prop where
  depth : turn.frame.depth ≤ turn.interpreter.settings.maxRecursionDepth
  below : Prod.Lex (· < ·) (· < ·) (callMeasure turn nodes) caller

/-- Whether a call is in order can be decided. -/
instance
    (caller : Nat × Nat)
    (turn : Turn)
    (nodes : List Node) :
    Decidable (CallInOrder caller turn nodes) :=
  decidable_of_iff
    (turn.frame.depth ≤ turn.interpreter.settings.maxRecursionDepth ∧
      (remainingDepth turn < caller.1 ∨
        remainingDepth turn = caller.1 ∧ nodesWeight nodes < caller.2))
    ⟨fun ⟨depth, below⟩ => ⟨depth, Prod.lex_def.mpr below⟩,
      fun inOrder => ⟨inOrder.depth, Prod.lex_def.mp inOrder.below⟩⟩

/-- Evaluate by calls in order, and go beyond where a call is not or the fuel is used up. -/
def evaluateSupervised
    (beyond : List Node → Evaluation Text) :
    (fuel : Nat) →
    (caller : Nat × Nat) →
    List Node →
    Evaluation Text
  | 0, _, nodes => beyond nodes
  | fuel + 1, caller, nodes => fun turn =>
      if CallInOrder caller turn nodes then
        evaluateCalling (evaluateSupervised beyond fuel (callMeasure turn nodes)) nodes turn
      else
        beyond nodes turn

/-! ## Convergence -/

/-- How an evaluation is supervised. -/
structure Supervision where
  fuel : Nat
  beyond : List Node → Evaluation Text

/-- The frame has the given depth, and the settings allow the given one. -/
structure AtDepth
    (bound depth : Nat)
    (turn : Turn) :
    Prop where
  bound : turn.interpreter.settings.maxRecursionDepth = bound
  depth : turn.frame.depth = depth

/-- With enough fuel the supervised evaluation is the other one, which stays at the depth. -/
def Converges
    (bound depth : Nat)
    {α : Type}
    (supervised : Supervision → Evaluation α)
    (evaluation : Evaluation α) :
    Prop :=
  ∀ turn,
    AtDepth bound depth turn →
    (∃ enough, ∀ supervision : Supervision,
      enough ≤ supervision.fuel →
      supervised supervision turn = evaluation turn) ∧
    AtDepth bound depth (evaluation turn).2

namespace Converges

variable {bound depth : Nat}

/-- A step that calls nothing converges at once. -/
theorem of_frame
    {α : Type}
    {step : Evaluation α}
    (settings : ∀ turn, (step turn).2.interpreter.settings = turn.interpreter.settings)
    (frame : ∀ turn, (step turn).2.frame.depth = turn.frame.depth) :
    Converges bound depth (fun _ => step) step := by
  intro turn atDepth
  refine ⟨⟨0, fun _ _ => rfl⟩, ?_, ?_⟩
  · rw [settings, atDepth.bound]
  · rw [frame, atDepth.depth]

/-- Steps that converge may follow each other. -/
theorem sequence
    {α β : Type}
    {first : Supervision → Evaluation α}
    {first' : Evaluation α}
    {next : Supervision → α → Evaluation β}
    {next' : α → Evaluation β}
    (firstConverges : Converges bound depth first first')
    (nextConverges : ∀ value, Converges bound depth (fun i => next i value) (next' value)) :
    Converges bound depth (fun i => first i >>= next i) (first' >>= next') := by
  intro turn atDepth
  obtain ⟨⟨enoughFirst, sameFirst⟩, between⟩ := firstConverges turn atDepth
  obtain ⟨⟨enoughNext, sameNext⟩, after⟩ :=
    nextConverges (first' turn).1 (first' turn).2 between
  refine ⟨⟨max enoughFirst enoughNext, ?_⟩, after⟩
  intro supervision enough
  change next supervision (first supervision turn).1 (first supervision turn).2 =
    next' (first' turn).1 (first' turn).2
  rw [sameFirst supervision (Nat.le_trans (Nat.le_max_left _ _) enough)]
  exact sameNext supervision (Nat.le_trans (Nat.le_max_right _ _) enough)

/-- An evaluation one frame deeper converges if the evaluation in that frame does. -/
theorem inChildFrame
    {α : Type}
    {supervised : Supervision → Evaluation α}
    {evaluation : Evaluation α}
    (converges : Converges bound (depth + 1) supervised evaluation)
    (bindings : Bindings) :
    Converges bound depth
      (fun i => Evaluation.inChildFrame bindings (supervised i))
      (Evaluation.inChildFrame bindings evaluation) := by
  intro turn atDepth
  let inside : Turn := { turn with frame := turn.frame.child bindings }
  have insideAt : AtDepth bound (depth + 1) inside :=
    ⟨atDepth.bound, congrArg (· + 1) atDepth.depth⟩
  obtain ⟨⟨enough, same⟩, after⟩ := converges inside insideAt
  refine ⟨⟨enough, ?_⟩, after.bound, atDepth.depth⟩
  intro supervision isEnough
  simp only [Evaluation.inChildFrame]
  rw [same supervision isEnough]

/-- What agrees on the turns at the depth may be put in place. -/
theorem congr
    {α : Type}
    {supervised supervised' : Supervision → Evaluation α}
    {evaluation evaluation' : Evaluation α}
    (converges : Converges bound depth supervised evaluation)
    (sameSupervised : ∀ supervision turn, AtDepth bound depth turn →
      supervised' supervision turn = supervised supervision turn)
    (same : ∀ turn, AtDepth bound depth turn → evaluation' turn = evaluation turn) :
    Converges bound depth supervised' evaluation' := by
  intro turn atDepth
  obtain ⟨⟨enough, sameThere⟩, after⟩ := converges turn atDepth
  rw [same turn atDepth]
  refine ⟨⟨enough, ?_⟩, after⟩
  intro supervision isEnough
  rw [sameSupervised supervision turn atDepth, sameThere supervision isEnough]

end Converges

/-- Convergence at a depth is kept by all steps. -/
def convergence (bound depth : Nat) : Correspondence Supervision where
  holds := Converges bound depth
  admits _ := True
  value _ := Converges.of_frame (fun _ => rfl) fun _ => rfl
  sequence := Converges.sequence
  reading step := by
    cases step with
    | fetch | resolve | localValue | property | bound | recalled =>
        exact Converges.of_frame (fun _ => rfl) fun _ => rfl
  change _ _ step := by
    cases step with
    | setLocal | setVariable | editLists | editMaps | pick | learn | unlearn =>
        exact Converges.of_frame (fun _ => rfl) fun _ => rfl
  admits_sublist _ _ := trivial
  admits_children _ := trivial
  admits_value _ _ _ := trivial

/-! ## Calls converge -/

section Calls

variable
  {bound depth : Nat}
  {supervised : Supervision → List Node → Evaluation Text}

/-- A template converges if its nodes do. -/
theorem converges_templateBy
    {evaluate : List Node → Evaluation Text}
    (converges : ∀ nodes, Converges bound depth (fun i => supervised i nodes) (evaluate nodes))
    (template : Text) :
    Converges bound depth
      (fun i => templateBy (supervised i) template)
      (templateBy evaluate template) :=
  (convergence bound depth).templateBy template (converges (parse template))

/-- An answer converges if the evaluation one frame deeper does. -/
theorem converges_answerBy
    {evaluate : List Node → Evaluation Text}
    (converges : ∀ nodes,
      Converges bound (depth + 1) (fun i => supervised i nodes) (evaluate nodes))
    (input : Text) :
    Converges bound depth
      (fun i => answerBy (supervised i) input)
      (answerBy evaluate input) := by
  apply (convergence bound depth).answerBy
  · exact Converges.of_frame (fun _ => rfl) fun _ => rfl
  · intro selected
    exact (converges_templateBy converges selected.category.template).inChildFrame
      selected.bindings

/-- Nodes converge if the calls for lighter nodes and for answers do. -/
theorem converges_evaluateCalling
    {answer : Text → Evaluation Text}
    (answers : ∀ input,
      Converges bound depth (fun i => answerInFrame (supervised i) input) (answer input))
    {nodes : List Node}
    (lighter : ∀ part, nodesWeight part < nodesWeight nodes →
      Converges bound depth (fun i => supervised i part) (evaluateNodes answer part)) :
    Converges bound depth
      (fun i => evaluateCalling (supervised i) nodes)
      (evaluateNodes answer nodes) := by
  -- Within one call the nodes are evaluated in order; only their parts are called for.
  induction nodes with
  | nil =>
      rw [evaluateNodes_nil]
      exact (convergence bound depth).value []
  | cons node rest inductionHypothesis =>
      have later := inductionHypothesis fun part isLighter =>
        lighter part (Nat.lt_of_lt_of_le isLighter (Nat.le_add_left _ _))
      cases node with
      | text content =>
          rw [evaluateNodes_text]
          exact (convergence bound depth).returning later _
      | element name attributes children selfClosing =>
          rw [evaluateNodes_element]
          have onParts : (convergence bound depth).OnParts
              (fun i (part : Part (Element.weight ⟨name, attributes, children, selfClosing⟩)) =>
                supervised i part.val)
              (fun part => evaluateNodes answer part.val) := by
            intro part _
            apply lighter
            exact Nat.lt_of_lt_of_le part.property (Nat.le_add_right _ _)
          apply (convergence bound depth).sequence (onParts.perform answers trivial)
          intro value
          exact (convergence bound depth).returning later _

end Calls

/-- A call in order converges if what it evaluates does. -/
theorem Converges.of_call
    {bound depth remaining : Nat}
    (remains : depth + remaining = bound)
    {caller : Nat × Nat}
    {nodes : List Node}
    (below : Prod.Lex (· < ·) (· < ·) (remaining, nodesWeight nodes) caller)
    {evaluation : Evaluation Text}
    (converges : Converges bound depth
      (fun i => evaluateCalling
        (evaluateSupervised i.beyond i.fuel (remaining, nodesWeight nodes)) nodes)
      evaluation) :
    Converges bound depth
      (fun i => evaluateSupervised i.beyond i.fuel caller nodes)
      evaluation := by
  intro turn atDepth
  obtain ⟨⟨enough, same⟩, after⟩ := converges turn atDepth
  have measured : callMeasure turn nodes = (remaining, nodesWeight nodes) := by
    simp only [callMeasure, remainingDepth, atDepth.bound, atDepth.depth, ← remains,
      Nat.add_sub_cancel_left]
  have inOrder : CallInOrder caller turn nodes := by
    refine ⟨?_, ?_⟩
    · rw [atDepth.depth, atDepth.bound, ← remains]
      exact Nat.le_add_right _ _
    · rw [measured]
      exact below
  refine ⟨⟨enough + 1, ?_⟩, after⟩
  rintro ⟨fuel, beyond⟩ isEnough
  cases fuel with
  | zero =>
      exact absurd isEnough (Nat.not_succ_le_zero enough)
  | succ fuel =>
      simp only [evaluateSupervised]
      rw [if_pos inOrder, measured]
      exact same ⟨fuel, beyond⟩ (Nat.le_of_succ_le_succ isEnough)

/-- Calls converge if the answers do that they ask for. -/
theorem converges_of_answers
    {bound depth remaining : Nat}
    (remains : depth + remaining = bound)
    (answers : ∀ weight input,
      Converges bound depth
        (fun i => answerInFrame (evaluateSupervised i.beyond i.fuel (remaining, weight)) input)
        (answerWithin remaining input))
    {caller : Nat × Nat}
    (nodes : List Node)
    (below : Prod.Lex (· < ·) (· < ·) (remaining, nodesWeight nodes) caller) :
    Converges bound depth
      (fun i => evaluateSupervised i.beyond i.fuel caller nodes)
      (evaluateWithin remaining nodes) := by
  -- At one depth the calls for parts of elements descend in weight.
  induction weightIs : nodesWeight nodes using Nat.strongRecOn generalizing nodes caller with
  | ind weight inductionHypothesis =>
      rw [evaluateWithin_eq]
      apply Converges.of_call remains below
      apply converges_evaluateCalling (answers (nodesWeight nodes))
      intro part isLighter
      rw [← evaluateWithin_eq]
      rw [weightIs] at isLighter
      exact inductionHypothesis _ isLighter part (.right _ (weightIs ▸ isLighter)) rfl

/-- Calls below their caller converge where the given depth remains. -/
theorem converges_evaluateSupervised
    {bound depth remaining : Nat}
    (remains : depth + remaining = bound)
    {caller : Nat × Nat}
    (nodes : List Node)
    (below : Prod.Lex (· < ·) (· < ·) (remaining, nodesWeight nodes) caller) :
    Converges bound depth
      (fun i => evaluateSupervised i.beyond i.fuel caller nodes)
      (evaluateWithin remaining nodes) := by
  -- From one frame to the next the depth that remains descends, whatever template is called.
  induction remaining generalizing depth caller nodes with
  | zero =>
      apply converges_of_answers remains _ nodes below
      intro weight input
      apply ((convergence bound depth).value ([] : Text)).congr
      · intro supervision turn atDepth
        rw [answerInFrame, if_pos]
        · rfl
        · rw [atDepth.bound, atDepth.depth, ← remains]
          exact Nat.le_refl _
      · intro turn _
        rfl
  | succ remaining inductionHypothesis =>
      apply converges_of_answers remains _ nodes below
      intro weight input
      have deeper : depth + 1 + remaining = bound := by
        rw [← remains]
        omega
      have answers := converges_answerBy
        (fun template => inductionHypothesis deeper template (.left _ weight (Nat.lt_succ_self _)))
        input
      apply answers.congr
      · intro supervision turn atDepth
        rw [answerInFrame, if_neg]
        rw [atDepth.bound, atDepth.depth]
        omega
      · intro turn _
        rfl

/--
Evaluation of a template ends, whatever the rules are and whatever is learned on
the way: with enough fuel it is the supervised evaluation, which makes no call in a
frame that is too deep and none whose measure is not below its caller's. The text
of an attribute that is read again is shorter than its element is heavy.
-/
theorem evaluateTemplate_eq_supervised
    (template : Text)
    (turn : Turn)
    (within : turn.frame.depth ≤ turn.interpreter.settings.maxRecursionDepth) :
    (∃ enough, ∀ fuel, enough ≤ fuel → ∀ beyond : List Node → Evaluation Text,
      templateBy (evaluateSupervised beyond fuel (remainingDepth turn + 1, 0)) template turn =
        evaluateTemplate template turn) ∧
      ∀ (element : Element) (name value : Text),
        element.attributeValue? name = some value →
        nodesWeight (parse value) ≤ value.length ∧ value.length < element.weight := by
  refine ⟨?_, ?_⟩
  · have remains : turn.frame.depth + remainingDepth turn =
        turn.interpreter.settings.maxRecursionDepth := by
      exact Nat.add_sub_cancel' within
    have nodes (nodes : List Node) := converges_evaluateSupervised remains nodes
      (.left _ 0 (Nat.lt_succ_self (remainingDepth turn)))
    obtain ⟨⟨enough, same⟩, _⟩ := converges_templateBy nodes template turn ⟨rfl, rfl⟩
    exact ⟨enough, fun fuel isEnough beyond => same ⟨fuel, beyond⟩ isEnough⟩
  · intro element name value found
    exact ⟨nodesWeight_parse_le value, Element.length_lt_of_attributeValue? found⟩

/-- A turn with a rule that calls itself, in which two answers may stand inside one another. -/
def loopingTurn : Turn where
  interpreter :=
    .new
      (.ofCategories "loop".toList .empty .empty
        [.plain "LOOP".toList "again <srai>loop</srai>".toList])
      { maxRecursionDepth := 2 } []
  session := .new "loop".toList
  frame := .root ⟨[], [], []⟩

/-- A rule calls itself until the frame is too deep. -/
theorem evaluateTemplate_eq_supervised_loop :
    (evaluateTemplate "<srai>loop</srai>".toList loopingTurn).1 = "again again".toList ∧
      ∃ enough, ∀ fuel, enough ≤ fuel → ∀ beyond : List Node → Evaluation Text,
        templateBy (evaluateSupervised beyond fuel (3, 0)) "<srai>loop</srai>".toList loopingTurn =
          evaluateTemplate "<srai>loop</srai>".toList loopingTurn :=
  ⟨by decide +kernel, (evaluateTemplate_eq_supervised _ loopingTurn (by decide)).1⟩

end Colloquy.Evaluation
