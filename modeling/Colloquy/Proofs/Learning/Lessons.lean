import Colloquy.Proofs.Conversation.Passage
import Colloquy.Proofs.Evaluation.Effects

namespace Colloquy

/-!
# Lessons

The log and the statistics of a session and the knowledge base change together, when
a category is learned or unlearned. Whatever a session says or has evaluated, and
however rules are called on the way, what becomes of these three is what a list of
such lessons makes of them.
-/

/-- A category that is to be learned or unlearned. -/
inductive Lesson where
  | learn (candidate : Category)
  | unlearn (candidate : Category)

/-- What lessons change. -/
structure Ledger where
  log : List LearnedRule
  statistics : LearningStatistics
  knowledge : KnowledgeBase

/-- The part of a session and its knowledge base that lessons change. -/
def ledger (state : Session × KnowledgeBase) : Ledger :=
  ⟨state.1.learned, state.1.statistics, state.2⟩

namespace Lesson

/-- Give a lesson. -/
def give
    (limits : LearningLimits)
    (state : Session × KnowledgeBase) :
    Lesson →
    Session × KnowledgeBase
  | .learn candidate => (Colloquy.learn limits candidate state.1 state.2).2
  | .unlearn candidate => (Colloquy.unlearn candidate state.1 state.2).2

/-- Give lessons one after the other. -/
def giveAll
    (limits : LearningLimits)
    (state : Session × KnowledgeBase)
    (lessons : List Lesson) :
    Session × KnowledgeBase :=
  lessons.foldl (give limits) state

/-- Lessons are given one list after the other. -/
theorem giveAll_append
    (limits : LearningLimits)
    (state : Session × KnowledgeBase)
    (earlier later : List Lesson) :
    giveAll limits state (earlier ++ later) = giveAll limits (giveAll limits state earlier) later :=
  List.foldl_append

/-- A lesson does the same wherever the ledger is the same. -/
theorem ledger_give_congr
    {first second : Session × KnowledgeBase}
    (same : ledger first = ledger second)
    (limits : LearningLimits)
    (lesson : Lesson) :
    ledger (lesson.give limits first) = ledger (lesson.give limits second) := by
  obtain ⟨session, knowledge⟩ := first
  obtain ⟨session', knowledge'⟩ := second
  simp only [ledger, Ledger.mk.injEq] at same
  obtain ⟨sameLog, sameStatistics, rfl⟩ := same
  cases lesson with
  | learn candidate =>
      simp only [give, Colloquy.learn]
      split
      · simp only [ledger, sameLog, sameStatistics]
      · simp only [ledger, sameLog, sameStatistics]
  | unlearn candidate =>
      simp only [give, Colloquy.unlearn, ledger, sameLog, sameStatistics]

/-- Lessons depend on what is in the ledger only. -/
theorem ledger_giveAll_congr
    {first second : Session × KnowledgeBase}
    (same : ledger first = ledger second)
    (limits : LearningLimits)
    (lessons : List Lesson) :
    ledger (giveAll limits first lessons) = ledger (giveAll limits second lessons) := by
  induction lessons generalizing first second with
  | nil =>
      exact same
  | cons lesson rest inductionHypothesis =>
      exact inductionHypothesis (ledger_give_congr same limits lesson)

end Lesson

/-- The settings are kept, and the ledger is what lessons make of it. -/
structure Gives
    (lessons : List Lesson)
    (before after : Session × Interpreter) :
    Prop where
  settings : after.2.settings = before.2.settings
  ledger :
    ledger (after.1, after.2.knowledge) =
      ledger (Lesson.giveAll before.2.settings.learning (before.1, before.2.knowledge) lessons)

namespace Gives

variable
  {lessons lessons' : List Lesson}
  {first second third : Session × Interpreter}

/-- Lessons that are given one after the other make one list. -/
theorem trans
    (earlier : Gives lessons first second)
    (later : Gives lessons' second third) :
    Gives (lessons ++ lessons') first third := by
  refine ⟨later.settings.trans earlier.settings, ?_⟩
  rw [later.ledger, earlier.settings, Lesson.giveAll_append]
  exact Lesson.ledger_giveAll_congr earlier.ledger _ _

theorem log
    (gives : Gives lessons first second) :
    second.1.learned =
      (Lesson.giveAll first.2.settings.learning (first.1, first.2.knowledge) lessons).1.learned :=
  congrArg Ledger.log gives.ledger

theorem statistics
    (gives : Gives lessons first second) :
    second.1.statistics =
      (Lesson.giveAll first.2.settings.learning (first.1, first.2.knowledge)
        lessons).1.statistics :=
  congrArg Ledger.statistics gives.ledger

/-- The knowledge base after an evaluation is the one that its lessons give. -/
theorem knowledge
    (gives : Gives lessons first second) :
    second.2.knowledge =
      (Lesson.giveAll first.2.settings.learning (first.1, first.2.knowledge) lessons).2 :=
  congrArg Ledger.knowledge gives.ledger

end Gives

/-! ## Evaluating gives lessons -/

namespace Evaluation

/-- Every step that changes something gives lessons, if only none. -/
theorem Change.gives
    {tag : Markup.Tag}
    {α : Type}
    {step : Evaluation α}
    (change : Change tag step)
    (turn : Turn) :
    ∃ lessons,
      Gives lessons (turn.session, turn.interpreter)
        ((step turn).2.session, (step turn).2.interpreter) := by
  rcases change.notes_or_teaches turn with
    ⟨_, _, _, _, _, _, isAfter⟩ | ⟨candidate, isAfter | isAfter⟩
  · rw [isAfter]
    exact ⟨[], rfl, rfl⟩
  · rw [isAfter]
    exact ⟨[.learn candidate], rfl, rfl⟩
  · rw [isAfter]
    exact ⟨[.unlearn candidate], rfl, rfl⟩

/-- Nothing but lessons changes the ledger. -/
def teaching : Effect where
  relates before after :=
    ∃ lessons,
      Gives lessons (before.session, before.interpreter) (after.session, after.interpreter)
  allows _ := True
  remembers remembers := by
    obtain ⟨_, _, _, rfl⟩ := remembers
    exact ⟨[], rfl, rfl⟩
  trans earlier later := by
    obtain ⟨_, earlier⟩ := earlier
    obtain ⟨_, later⟩ := later
    exact ⟨_, earlier.trans later⟩
  change _ _ change := change.gives

theorem unrestricted_teaching : teaching.Unrestricted where
  allows _ := trivial
  calls bindings covers turn := covers { turn with frame := turn.frame.child bindings }

end Evaluation

namespace Interpreter

/-- Evaluating a template gives lessons and changes logs, rules and statistics in no other way. -/
theorem gives_evaluateIn
    (interpreter : Interpreter)
    (session : Session)
    (bindings : Bindings)
    (template : Text) :
    ∃ lessons,
      Gives lessons (session, interpreter)
        (interpreter.evaluateIn session bindings template).2 :=
  Evaluation.unrestricted_teaching.evaluateTemplate template
    ⟨interpreter, session, Frame.root bindings⟩

/-- Answering gives lessons and does nothing else to the ledger. -/
def teaching : Passage where
  relates before after := ∃ lessons, Gives lessons before after
  refl _ := ⟨[], rfl, rfl⟩
  trans earlier later := by
    obtain ⟨_, earlier⟩ := earlier
    obtain ⟨_, later⟩ := later
    exact ⟨_, earlier.trans later⟩
  request _ _ _ := ⟨[], rfl, rfl⟩
  response _ _ _ := ⟨[], rfl, rfl⟩
  select _ _ _ := ⟨[], rfl, rfl⟩
  evaluate _ := gives_evaluateIn _ _ _ _

end Interpreter

end Colloquy
