import Colloquy.Proofs.Evaluation.Calls
import Colloquy.Proofs.Scope
import Colloquy.Proofs.Selection.Agreement

namespace Colloquy

/-!
# Evaluating without memory

Two interpreters are alike if they differ at most in what they remember, and if
whatever they remember is right. Every step of an evaluation gives the same value
from turns that are alike and leaves turns that are alike, so whole evaluations do
so too.
-/

namespace Interpreter

/-- All that an interpreter remembers is right. -/
structure Sound (interpreter : Interpreter) : Prop where
  selector : interpreter.selector.Agrees
  variableCache : Cache.Agrees interpreter.variableCache VariableCache.valueFor

/-- An interpreter apart from what it remembers and how. -/
structure Core where
  maxRecursionDepth : Nat
  historyLimit : Nat
  learning : LearningLimits
  knowledge : KnowledgeBase
  picks : List Nat

/-- What an interpreter is apart from what it remembers and how. -/
def core (interpreter : Interpreter) : Core where
  maxRecursionDepth := interpreter.settings.maxRecursionDepth
  historyLimit := interpreter.settings.historyLimit
  learning := interpreter.settings.learning
  knowledge := interpreter.knowledge
  picks := interpreter.picks

/-- Interpreters differ at most in what they remember, and remember nothing wrong. -/
structure Alike (first second : Interpreter) : Prop where
  core : first.core = second.core
  first : first.Sound
  second : second.Sound

/-- Outcomes have the same value and session, and interpreters that are alike. -/
structure SameOutcome
    {α : Type}
    (first second : α × Session × Interpreter) :
    Prop where
  value : first.1 = second.1
  session : first.2.1 = second.2.1
  interpreter : first.2.2.Alike second.2.2

/-- The common parts of outcomes that are the same. -/
theorem SameOutcome.parts
    {α : Type}
    {first second : α × Session × Interpreter}
    (same : SameOutcome first second) :
    ∃ value session here there,
      first = (value, session, here) ∧ second = (value, session, there) ∧ here.Alike there := by
  refine ⟨first.1, first.2.1, first.2.2, second.2.2, rfl, ?_, same.interpreter⟩
  rw [same.value, same.session]

/-- A new interpreter remembers nothing wrong. -/
theorem sound_new
    (knowledge : KnowledgeBase)
    (settings : Settings)
    (picks : List Nat) :
    (new knowledge settings picks).Sound :=
  ⟨Selector.agrees_ofSettings settings, Cache.agrees_ofSettings _ _ _⟩

namespace Alike

variable {first second : Interpreter}

theorem knowledge (alike : first.Alike second) : first.knowledge = second.knowledge :=
  congrArg Core.knowledge alike.core

theorem picks (alike : first.Alike second) : first.picks = second.picks :=
  congrArg Core.picks alike.core

theorem learning
    (alike : first.Alike second) :
    first.settings.learning = second.settings.learning :=
  congrArg Core.learning alike.core

/-- Other knowledge makes no memory wrong. -/
theorem withKnowledge
    (alike : first.Alike second)
    (knowledge : KnowledgeBase) :
    Alike { first with knowledge } { second with knowledge } :=
  ⟨congrArg (fun core => { core with knowledge := knowledge }) alike.core,
    ⟨alike.first.selector, alike.first.variableCache⟩,
    ⟨alike.second.selector, alike.second.variableCache⟩⟩

/-- The next pick is the same. -/
theorem pick (alike : first.Alike second) :
    first.pick.1 = second.pick.1 ∧ first.pick.2.Alike second.pick.2 := by
  refine ⟨congrArg (·.headD 0) alike.picks, ?_, ?_, ?_⟩
  · exact congrArg (fun core => { core with picks := core.picks.tail }) alike.core
  · exact ⟨alike.first.selector, alike.first.variableCache⟩
  · exact ⟨alike.second.selector, alike.second.variableCache⟩

/-- An explanation is the one without memory. -/
theorem explain
    (alike : first.Alike second)
    (session : Session)
    (input : Text) :
    (first.explain session input).1 = (second.explain session input).1 ∧
      (first.explain session input).2.Alike (second.explain session input).2 := by
  have here := alike.first.selector.explain first.knowledge (contextOf session input)
  have there := alike.second.selector.explain second.knowledge (contextOf session input)
  refine ⟨?_, alike.core, ⟨here.agrees, alike.first.variableCache⟩,
    ⟨there.agrees, alike.second.variableCache⟩⟩
  calc
    (first.explain session input).1 = Colloquy.explanation first.knowledge _ := here.value
    _ = Colloquy.explanation second.knowledge _ := by rw [alike.knowledge]
    _ = (second.explain session input).1 := there.value.symm

/-- The selected rule is the one without memory. -/
theorem select
    (alike : first.Alike second)
    (session : Session)
    (input : Text) :
    (first.select session input).1 = (second.select session input).1 ∧
      (first.select session input).2.Alike (second.select session input).2 :=
  ⟨congrArg Explanation.selected (alike.explain session input).1,
    (alike.explain session input).2⟩

/-- Interpreters that are alike learn alike. -/
theorem learn
    (alike : first.Alike second)
    (candidate : Category)
    (session : Session) :
    SameOutcome (first.learn candidate session) (second.learn candidate session) := by
  simp only [Interpreter.learn, learnWithin, alike.knowledge, alike.learning]
  exact ⟨rfl, rfl, alike.withKnowledge _⟩

theorem unlearn
    (alike : first.Alike second)
    (candidate : Category)
    (session : Session) :
    SameOutcome (first.unlearn candidate session) (second.unlearn candidate session) := by
  simp only [Interpreter.unlearn, alike.knowledge]
  exact ⟨rfl, rfl, alike.withKnowledge _⟩

end Alike

end Interpreter

/-! ## Steps of an evaluation -/

/-- Turns differ at most in what their interpreters remember. -/
structure Turn.Alike (first second : Turn) : Prop where
  interpreter : first.interpreter.Alike second.interpreter
  session : first.session = second.session
  frame : first.frame = second.frame

namespace Evaluation

/-- From turns that are alike, evaluations give the same value and turns that are alike. -/
def Indistinct
    {α : Type}
    (first second : Evaluation α) :
    Prop :=
  ∀ turn other : Turn,
    turn.Alike other →
    (first turn).1 = (second other).1 ∧ (first turn).2.Alike (second other).2

namespace Indistinct

theorem value
    {α : Type}
    (value : α) :
    Indistinct (pure value) (pure value) :=
  fun _ _ alike => ⟨rfl, alike⟩

/-- Steps that are not told apart are followed by steps that are not told apart. -/
theorem sequence
    {α β : Type}
    {first second : Evaluation α}
    {next next' : α → Evaluation β}
    (same : Indistinct first second)
    (sameNext : ∀ value, Indistinct (next value) (next' value)) :
    Indistinct (first >>= next) (second >>= next') := by
  intro turn other alike
  obtain ⟨sameValue, between⟩ := same turn other alike
  change
    (next (first turn).1 (first turn).2).1 = (next' (second other).1 (second other).2).1 ∧
      (next (first turn).1 (first turn).2).2.Alike (next' (second other).1 (second other).2).2
  rw [← sameValue]
  exact sameNext (first turn).1 _ _ between

/-- A step that changes nothing and reads what turns that are alike have in common. -/
theorem of_read
    {α : Type}
    {read : Turn → α}
    (same : ∀ turn other : Turn, turn.Alike other → read turn = read other) :
    Indistinct (fun turn => (read turn, turn)) (fun turn => (read turn, turn)) :=
  fun turn other alike => ⟨same turn other alike, alike⟩

/-- Fetching a template gives the same nodes, whether they are remembered or not. -/
theorem fetch (text : Text) : Indistinct (fetch text) (fetch text) := by
  intro turn other alike
  refine ⟨Subtype.ext ?_, ?_, alike.session, alike.frame⟩
  · exact (turn.interpreter.templates.fetch_nodes text).trans
      (other.interpreter.templates.fetch_nodes text).symm
  · exact ⟨alike.interpreter.core,
      ⟨alike.interpreter.first.selector, alike.interpreter.first.variableCache⟩,
      ⟨alike.interpreter.second.selector, alike.interpreter.second.variableCache⟩⟩

/-- A variable has the same value, whether it is remembered or not. -/
theorem resolve (name : Text) : Indistinct (resolve name) (resolve name) := by
  intro turn other alike
  have here := VariableCache.resolve_value alike.interpreter.first.variableCache
    turn.frame turn.session turn.interpreter.knowledge name
  have there := VariableCache.resolve_value alike.interpreter.second.variableCache
    other.frame other.session other.interpreter.knowledge name
  refine ⟨?_, ?_, alike.session, alike.frame⟩
  · calc
      (Evaluation.resolve name turn).1 = resolveVariable turn.frame turn.session _ name := here
      _ = resolveVariable other.frame other.session _ name := by
        rw [alike.frame, alike.session, alike.interpreter.knowledge]
      _ = (Evaluation.resolve name other).1 := there.symm
  · exact ⟨alike.interpreter.core,
      ⟨alike.interpreter.first.selector,
        VariableCache.agrees_resolve alike.interpreter.first.variableCache _ _ _ _⟩,
      ⟨alike.interpreter.second.selector,
        VariableCache.agrees_resolve alike.interpreter.second.variableCache _ _ _ _⟩⟩

theorem modifySession (change : Session → Session) :
    Indistinct (modifySession change) (modifySession change) :=
  fun _ _ alike => ⟨rfl, alike.interpreter, congrArg change alike.session, alike.frame⟩

theorem setLocal (name value : Text) : Indistinct (setLocal name value) (setLocal name value) :=
  fun _ _ alike => ⟨rfl, alike.interpreter, alike.session,
    congrArg (fun frame => { frame with locals := frame.locals.insert name value }) alike.frame⟩

/-- Picks do not depend on what is remembered. -/
theorem pick (count : Nat) : Indistinct (pick count) (pick count) := by
  intro turn other alike
  obtain ⟨sameNumber, picked⟩ := alike.interpreter.pick
  exact ⟨congrArg (min · (count - 1)) sameNumber, picked, alike.session, alike.frame⟩

/-- Selecting a rule does not depend on what is remembered. -/
theorem select (input : Text) : Indistinct (select input) (select input) := by
  rintro ⟨interpreter, session, frame⟩ ⟨other, _, _⟩ ⟨alike, rfl, rfl⟩
  obtain ⟨sameRule, selected⟩ := alike.select session input
  exact ⟨sameRule, selected, rfl, rfl⟩

theorem learn (candidate : Category) : Indistinct (learn candidate) (learn candidate) := by
  rintro ⟨interpreter, session, frame⟩ ⟨other, _, _⟩ ⟨alike, rfl, rfl⟩
  have same := alike.learn candidate session
  exact ⟨rfl, same.interpreter, same.session, rfl⟩

theorem unlearn (candidate : Category) : Indistinct (unlearn candidate) (unlearn candidate) := by
  rintro ⟨interpreter, session, frame⟩ ⟨other, _, _⟩ ⟨alike, rfl, rfl⟩
  have same := alike.unlearn candidate session
  exact ⟨rfl, same.interpreter, same.session, rfl⟩

/-- What is not told apart is not told apart one frame deeper. -/
theorem inChildFrame
    {α : Type}
    {first second : Evaluation α}
    (same : Indistinct first second)
    (bindings : Bindings) :
    Indistinct (inChildFrame bindings first) (inChildFrame bindings second) := by
  rintro ⟨interpreter, session, frame⟩ ⟨other, _, _⟩ ⟨alike, rfl, rfl⟩
  have inside : Turn.Alike ⟨interpreter, session, frame.child bindings⟩
      ⟨other, session, frame.child bindings⟩ :=
    ⟨alike, rfl, rfl⟩
  obtain ⟨sameValue, after⟩ := same _ _ inside
  exact ⟨sameValue, after.interpreter, after.session, rfl⟩

end Indistinct

/-- What turns that are alike have in common is kept by all steps. -/
def indistinction : Correspondence Unit where
  holds first second := Indistinct (first ()) second
  admits _ := True
  value := Indistinct.value
  sequence := Indistinct.sequence
  reading step := by
    cases step with
    | fetch text =>
        exact .fetch text
    | resolve name =>
        exact .resolve name
    | localValue name =>
        apply Indistinct.of_read
        intro turn other alike
        rw [alike.frame]
    | property name =>
        apply Indistinct.of_read
        intro turn other alike
        rw [alike.interpreter.knowledge]
    | bound read =>
        apply Indistinct.of_read
        intro turn other alike
        rw [alike.frame]
    | recalled read =>
        apply Indistinct.of_read
        intro turn other alike
        rw [alike.session]
  change _ _ step := by
    cases step with
    | setLocal name value =>
        exact .setLocal name value
    | setVariable =>
        exact .modifySession _
    | editLists change =>
        exact .modifySession change
    | editMaps change =>
        exact .modifySession change
    | pick count =>
        exact .pick count
    | learn candidate =>
        exact .learn candidate
    | unlearn candidate =>
        exact .unlearn candidate
  admits_sublist _ _ := trivial
  admits_children _ := trivial
  admits_value _ _ _ := trivial

/-! ## Whole evaluations -/

/-- Nodes are evaluated alike if inputs are answered alike. -/
theorem indistinct_evaluateWithin
    {remaining : Nat}
    (answers : ∀ input,
      indistinction.holds (fun _ => answerWithin remaining input) (answerWithin remaining input))
    (nodes : List Markup.Node) :
    indistinction.holds (fun _ => evaluateWithin remaining nodes)
      (evaluateWithin remaining nodes) := by
  rw [evaluateWithin_eq]
  exact indistinction.evaluateNodes answers trivial

/-- Answers are not told apart, however deep they go. -/
theorem indistinct_answerWithin
    (remaining : Nat)
    (input : Text) :
    indistinction.holds (fun _ => answerWithin remaining input)
      (answerWithin remaining input) := by
  induction remaining generalizing input with
  | zero =>
      exact indistinction.value []
  | succ remaining inductionHypothesis =>
      have evaluates := indistinct_evaluateWithin inductionHypothesis
      apply indistinction.answerBy input (Indistinct.select _)
      intro selected
      have template := indistinction.templateBy selected.category.template (evaluates _)
      exact Indistinct.inChildFrame template selected.bindings

/-- Turns that are alike leave the same depth. -/
theorem remainingDepth_eq_of_alike
    {turn other : Turn}
    (alike : turn.Alike other) :
    remainingDepth turn = remainingDepth other := by
  have sameBound : turn.interpreter.settings.maxRecursionDepth =
      other.interpreter.settings.maxRecursionDepth :=
    congrArg Interpreter.Core.maxRecursionDepth alike.interpreter.core
  rw [remainingDepth, remainingDepth, sameBound, alike.frame]

/-- Templates are evaluated alike by interpreters that are alike. -/
theorem indistinct_evaluateTemplate (template : Text) :
    indistinction.holds (fun _ => evaluateTemplate template) (evaluateTemplate template) := by
  have evaluates (nodes : List Markup.Node) :
      indistinction.holds (fun _ => evaluate nodes) (evaluate nodes) := by
    intro turn other alike
    simp only [evaluate, remainingDepth_eq_of_alike alike]
    exact indistinct_evaluateWithin (indistinct_answerWithin _) nodes turn other alike
  exact indistinction.templateBy template (evaluates (Markup.parse template))

end Evaluation

end Colloquy
