import Colloquy.Proofs.Evaluation.Effects

namespace Colloquy

/-!
# What evaluation leaves unchanged

Evaluation changes variables, lists, maps and rules. It changes neither what it
was called with nor what was said before, and of the knowledge base nothing but
the rules. Its locals change only by elements that set them in the same frame;
rules that are called set theirs in frames of their own.
-/

/-- The knowledge bases have the same name, variables and properties. -/
structure KnowledgeBase.SameScopes (before after : KnowledgeBase) : Prop where
  name : after.name = before.name
  globals : after.globals = before.globals
  properties : after.properties = before.properties

/-- The sessions have the same name, and the same was said and answered in them. -/
structure Session.SameHistories (before after : Session) : Prop where
  id : after.id = before.id
  historyLimit : after.historyLimit = before.historyLimit
  requests : after.requests = before.requests
  responses : after.responses = before.responses
  thats : after.thats = before.thats

/-- What no evaluation changes is the same. -/
structure Turn.Keeps (before after : Turn) : Prop where
  bindings : after.frame.bindings = before.frame.bindings
  depth : after.frame.depth = before.frame.depth
  knowledge : before.interpreter.knowledge.SameScopes after.interpreter.knowledge
  session : before.session.SameHistories after.session

namespace KnowledgeBase.SameScopes

variable {first second third : KnowledgeBase}

theorem refl (knowledge : KnowledgeBase) : knowledge.SameScopes knowledge :=
  ⟨rfl, rfl, rfl⟩

theorem trans
    (earlier : first.SameScopes second)
    (later : second.SameScopes third) :
    first.SameScopes third :=
  ⟨later.name.trans earlier.name, later.globals.trans earlier.globals,
    later.properties.trans earlier.properties⟩

theorem remove
    (knowledge : KnowledgeBase)
    (category : Category)
    (serial : Nat) :
    knowledge.SameScopes (knowledge.remove category serial).2 := by
  unfold KnowledgeBase.remove
  split
  · exact refl knowledge
  · exact ⟨rfl, rfl, rfl⟩

/-- Removing rules changes neither the name nor the variables. -/
theorem removeAll
    (knowledge : KnowledgeBase)
    (entries : List LearnedRule) :
    knowledge.SameScopes (entries.foldl
      (fun knowledge entry => (knowledge.remove entry.category entry.serial).2) knowledge) := by
  induction entries generalizing knowledge with
  | nil =>
      exact refl knowledge
  | cons entry rest inductionHypothesis =>
      exact (remove knowledge entry.category entry.serial).trans (inductionHypothesis _)

end KnowledgeBase.SameScopes

namespace Session.SameHistories

variable {first second third : Session}

theorem refl (session : Session) : session.SameHistories session :=
  ⟨rfl, rfl, rfl, rfl, rfl⟩

theorem trans
    (earlier : first.SameHistories second)
    (later : second.SameHistories third) :
    first.SameHistories third :=
  ⟨later.id.trans earlier.id, later.historyLimit.trans earlier.historyLimit,
    later.requests.trans earlier.requests, later.responses.trans earlier.responses,
    later.thats.trans earlier.thats⟩

end Session.SameHistories

/-- Learning changes neither histories nor variables. -/
theorem learn_keeps
    (limits : LearningLimits)
    (candidate : Category)
    (session : Session)
    (knowledge : KnowledgeBase) :
    session.SameHistories (learn limits candidate session knowledge).2.1 ∧
      knowledge.SameScopes (learn limits candidate session knowledge).2.2 := by
  unfold learn
  split <;> exact ⟨⟨rfl, rfl, rfl, rfl, rfl⟩, ⟨rfl, rfl, rfl⟩⟩

/-- Unlearning changes neither histories nor variables. -/
theorem unlearn_keeps
    (candidate : Category)
    (session : Session)
    (knowledge : KnowledgeBase) :
    session.SameHistories (unlearn candidate session knowledge).2.1 ∧
      knowledge.SameScopes (unlearn candidate session knowledge).2.2 := by
  have scopes := KnowledgeBase.SameScopes.removeAll knowledge
    (session.learned.filter fun entry => unlearns candidate entry.category)
  exact ⟨⟨rfl, rfl, rfl, rfl, rfl⟩, ⟨scopes.name, scopes.globals, scopes.properties⟩⟩

namespace Evaluation

open Markup

/-! ## What is kept -/

/-- A step that changes something keeps what belongs to its frame and the histories. -/
theorem Change.keeps
    {tag : Tag}
    {α : Type}
    {step : Evaluation α}
    (change : Change tag step)
    (turn : Turn) :
    turn.Keeps (step turn).2 := by
  rcases change.notes_or_teaches turn with
    ⟨_, _, _, _, _, _, isAfter⟩ | ⟨candidate, isAfter | isAfter⟩
  · rw [isAfter]
    exact ⟨rfl, rfl, .refl _, ⟨rfl, rfl, rfl, rfl, rfl⟩⟩
  · obtain ⟨histories, scopes⟩ := learn_keeps turn.interpreter.settings.learning candidate
      turn.session turn.interpreter.knowledge
    rw [isAfter]
    exact ⟨rfl, rfl, scopes, histories⟩
  · obtain ⟨histories, scopes⟩ := unlearn_keeps candidate turn.session turn.interpreter.knowledge
    rw [isAfter]
    exact ⟨rfl, rfl, scopes, histories⟩

/-- What all evaluations keep is kept. -/
def keeping : Effect where
  relates := Turn.Keeps
  allows _ := True
  remembers remembers := by
    obtain ⟨_, _, _, rfl⟩ := remembers
    exact ⟨rfl, rfl, .refl _, .refl _⟩
  trans earlier later :=
    ⟨later.bindings.trans earlier.bindings, later.depth.trans earlier.depth,
      earlier.knowledge.trans later.knowledge, earlier.session.trans later.session⟩
  change _ _ change := change.keeps

/-- After a call, the frame is the one from before. -/
theorem unrestricted_keeping : keeping.Unrestricted where
  allows _ := trivial
  calls bindings covers turn :=
    have inside := covers { turn with frame := turn.frame.child bindings }
    ⟨rfl, rfl, inside.knowledge, inside.session⟩

/-! ## Locals -/

/-- Elements that set nothing leave the locals as they are. -/
def keepingLocals : Effect where
  relates before after := after.frame.locals = before.frame.locals
  allows element := Tag.ofName? element.name ≠ some .set
  remembers remembers := by
    obtain ⟨_, _, _, rfl⟩ := remembers
    rfl
  trans earlier later := later.trans earlier
  change allowed isTag change turn := by
    cases change with
    | setLocal | setVariable =>
        exact absurd isTag allowed
    | editLists | editMaps | pick | learn | unlearn =>
        rfl

/-- However a rule is evaluated that is called, its frame is left behind. -/
theorem keepingLocals_answerWithin
    (remaining : Nat)
    (input : Text) :
    keepingLocals.Covers (answerWithin remaining input) := by
  cases remaining with
  | zero =>
      exact fun _ => rfl
  | succ remaining =>
      exact keepingLocals.covers_answerBy (fun _ _ _ => rfl) input

/--
Evaluation leaves the bindings and the depth of its frame, the name, the variables
and the properties of the knowledge base, and the name and the histories of the
session as they are. If no element that sets something is reached from the nodes,
it leaves the locals as they are too, whatever the rules do that are called.
-/
theorem evaluate_keeps
    (nodes : List Node)
    (turn : Turn) :
    turn.Keeps (evaluate nodes turn).2 ∧
      ((∀ element ∈ elementsReached nodes, Tag.ofName? element.name ≠ some .set) →
        (evaluate nodes turn).2.frame.locals = turn.frame.locals) := by
  refine ⟨unrestricted_keeping.evaluate nodes turn, ?_⟩
  intro nothingSet
  have answers := keepingLocals_answerWithin (remainingDepth turn)
  rw [evaluate, evaluateWithin_eq]
  exact keepingLocals.covers_evaluateNodes answers nothingSet turn

/-- A turn with a local, and a rule that sets a local of the same name. -/
def callingTurn : Turn where
  interpreter :=
    .new
      (.ofCategories "calls".toList .empty .empty
        [.plain "CALL".toList "<set var=\"x\">new</set>done".toList])
      {} []
  session := .new []
  frame := ⟨.ofPairs [("x".toList, "old".toList)], 0, ⟨[], [], []⟩⟩

/-- The local that a called rule sets is not the caller's. -/
theorem evaluate_keeps_call :
    (evaluate (parse "<srai>call</srai>".toList) callingTurn).1 = "done".toList ∧
      (evaluate (parse "<srai>call</srai>".toList) callingTurn).2.frame.locals =
        .ofPairs [("x".toList, "old".toList)] :=
  ⟨by decide +kernel, (evaluate_keeps _ callingTurn).2 (by decide +kernel)⟩

end Evaluation

end Colloquy
