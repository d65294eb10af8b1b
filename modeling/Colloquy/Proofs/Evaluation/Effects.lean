import Colloquy.Proofs.Evaluation.Calls
import Colloquy.Proofs.Markup.Reached

namespace Colloquy

/-!
# What evaluations do to a turn

An effect is a relation between turns before and after that contains every change
an evaluation may make, and chains of them. Whatever an evaluation does is then
within the effect. An effect may leave out the changes of some elements; it holds
for nodes that do not reach such elements, however rules are called from them.
-/

/-- The turns differ at most in what the interpreter remembers. -/
def Turn.Remembers (before after : Turn) : Prop :=
  ∃ selector variableCache templates,
    after = { before with
      interpreter := { before.interpreter with
        selector := selector
        variableCache := variableCache
        templates := templates } }

theorem Turn.Remembers.refl (turn : Turn) : turn.Remembers turn :=
  ⟨_, _, _, rfl⟩

/-- The turns differ at most in variables, lists, maps, locals and picks. -/
def Turn.Notes (before after : Turn) : Prop :=
  ∃ topic assigned lists maps locals picks,
    after = { before with
      session := { before.session with
        topic := topic
        assigned := assigned
        lists := lists
        maps := maps }
      frame := { before.frame with locals := locals }
      interpreter := { before.interpreter with picks := picks } }

namespace Evaluation

open Markup

/-- Steps that read the turn change what is remembered, if anything. -/
theorem Reading.remembers
    {α : Type}
    {step : Evaluation α}
    (reading : Reading step)
    (turn : Turn) :
    turn.Remembers (step turn).2 := by
  cases reading with
  | fetch text =>
      exact ⟨_, _, _, rfl⟩
  | resolve name =>
      exact ⟨_, _, _, rfl⟩
  | localValue name =>
      exact .refl turn
  | property name =>
      exact .refl turn
  | bound read =>
      exact .refl turn
  | recalled read =>
      exact .refl turn

/-- A change notes something, or else the session learns or unlearns. -/
theorem Change.notes_or_teaches
    {tag : Tag}
    {α : Type}
    {step : Evaluation α}
    (change : Change tag step)
    (turn : Turn) :
    turn.Notes (step turn).2 ∨
      ∃ candidate,
        (step turn).2 = (Evaluation.learn candidate turn).2 ∨
          (step turn).2 = (Evaluation.unlearn candidate turn).2 := by
  cases change with
  | setLocal | setVariable | pick =>
      exact Or.inl ⟨_, _, _, _, _, _, rfl⟩
  | editLists edit keepsOthers =>
      obtain ⟨lists, isAfter⟩ := keepsOthers turn.session
      exact Or.inl ⟨_, _, lists, _, _, _, congrArg (fun session => { turn with session }) isAfter⟩
  | editMaps edit keepsOthers =>
      obtain ⟨maps, isAfter⟩ := keepsOthers turn.session
      exact Or.inl ⟨_, _, _, maps, _, _, congrArg (fun session => { turn with session }) isAfter⟩
  | learn candidate =>
      exact Or.inr ⟨candidate, Or.inl rfl⟩
  | unlearn candidate =>
      exact Or.inr ⟨candidate, Or.inr rfl⟩

/-- Selecting a rule only remembers something. -/
theorem remembers_select
    (input : Text)
    (turn : Turn) :
    turn.Remembers (select input turn).2 :=
  ⟨_, _, _, rfl⟩

/-- A relation between turns that contains the changes of the elements it allows. -/
structure Effect where
  relates : Turn → Turn → Prop
  allows : Element → Prop
  remembers : ∀ {before after : Turn}, before.Remembers after → relates before after
  trans : ∀ {first second third : Turn},
    relates first second →
    relates second third →
    relates first third
  change : ∀ {α : Type} {step : Evaluation α} {element : Element} {tag : Tag},
    allows element →
    Tag.ofName? element.name = some tag →
    Change tag step →
    ∀ turn, relates turn (step turn).2

namespace Effect

variable (effect : Effect)

/-- The evaluation is within the effect. -/
def Covers
    {α : Type}
    (evaluation : Evaluation α) :
    Prop :=
  ∀ turn, effect.relates turn (evaluation turn).2

/-- Only elements that are allowed are reached from the nodes. -/
def Admits (nodes : List Node) : Prop :=
  ∀ element ∈ elementsReached nodes, effect.allows element

/-- What an effect covers is kept by all steps. -/
def correspondence : Correspondence Unit where
  holds _ evaluation := effect.Covers evaluation
  admits := effect.Admits
  value _ turn := effect.remembers (.refl turn)
  sequence first next turn := effect.trans (first turn) (next _ _)
  reading reading turn := effect.remembers (reading.remembers turn)
  change admitted isTag change :=
    effect.change (admitted _ (mem_elementsReached_self _)) isTag change
  admits_sublist isPart admitted element reached :=
    admitted element (elementsReached_subset (elementsWithin_subset isPart) reached)
  admits_children admitted element reached :=
    admitted element (elementsReached_children_subset _ reached)
  admits_value found marked admitted element reached :=
    admitted element (elementsReached_value_subset found marked reached)

/-- Nodes are within the effect if the answers are that they ask for. -/
theorem covers_evaluateNodes
    {answer : Text → Evaluation Text}
    (answers : ∀ input, effect.Covers (answer input))
    {nodes : List Node}
    (admitted : effect.Admits nodes) :
    effect.Covers (evaluateNodes answer nodes) := by
  change effect.correspondence.holds (fun _ => evaluateNodes answer nodes) _
  exact effect.correspondence.evaluateNodes answers admitted

/-- A template has only effects that its nodes have. -/
theorem covers_templateBy
    {evaluate : List Node → Evaluation Text}
    (template : Text)
    (evaluates : effect.Covers (evaluate (parse template))) :
    effect.Covers (templateBy evaluate template) := by
  change effect.correspondence.holds (fun _ => templateBy evaluate template) _
  exact effect.correspondence.templateBy template evaluates

/-- Answers are within the effect if the calls of rules are. -/
theorem covers_answerBy
    {evaluate : List Node → Evaluation Text}
    (calls : ∀ (bindings : Bindings) (template : Text),
      effect.Covers (inChildFrame bindings (templateBy evaluate template)))
    (input : Text) :
    effect.Covers (answerBy evaluate input) := by
  have selects : effect.Covers (select (Text.collapse input)) :=
    fun turn => effect.remembers (remembers_select _ turn)
  change effect.correspondence.holds (fun _ => answerBy evaluate input) _
  exact effect.correspondence.answerBy input selects
    fun selected => calls selected.bindings selected.category.template

/-! ## Effects that allow everything -/

/-- The effect allows all elements, and calls of rules do what the rules do. -/
structure Unrestricted : Prop where
  allows : ∀ element, effect.allows element
  calls : ∀ {α : Type} {inner : Evaluation α} (bindings : Bindings),
    effect.Covers inner →
    effect.Covers (inChildFrame bindings inner)

namespace Unrestricted

variable {effect} (unrestricted : effect.Unrestricted)
include unrestricted

/-- Effects that every step may have cover nodes at every depth. -/
theorem evaluateWithin
    (remaining : Nat)
    (nodes : List Node) :
    effect.Covers (evaluateWithin remaining nodes) := by
  have admitted (nodes : List Node) : effect.Admits nodes :=
    fun element _ => unrestricted.allows element
  induction remaining generalizing nodes with
  | zero =>
      apply effect.covers_evaluateNodes _ (admitted nodes)
      intro _ turn
      exact effect.remembers (.refl turn)
  | succ remaining inductionHypothesis =>
      apply effect.covers_evaluateNodes _ (admitted nodes)
      apply effect.covers_answerBy
      intro bindings template
      exact unrestricted.calls bindings
        (effect.covers_templateBy template (inductionHypothesis _))

theorem evaluate (nodes : List Node) : effect.Covers (evaluate nodes) :=
  fun turn => unrestricted.evaluateWithin (remainingDepth turn) nodes turn

/-- Effects that every step may have cover whole templates. -/
theorem evaluateTemplate (template : Text) : effect.Covers (evaluateTemplate template) :=
  effect.covers_templateBy template (unrestricted.evaluate _)

end Unrestricted

end Effect

end Evaluation

end Colloquy
