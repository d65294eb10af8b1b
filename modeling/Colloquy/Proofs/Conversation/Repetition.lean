import Colloquy.Proofs.Conversation.Passage
import Colloquy.Proofs.Evaluation.Effects
import Colloquy.Proofs.Learning.Provenance
import Colloquy.Proofs.Selection.Exhaustive

namespace Colloquy

/-!
# Templates without effects

Six tags change more than what an interpreter remembers. If no element of theirs is
reached from a template nor from the templates of the rules, then evaluating the
template leaves everything else as it is, and gives the same text again. What is said
is answered without a change to anything but the histories.
-/

/-- The tag changes more than what an interpreter remembers. -/
def Markup.Tag.hasEffect : Tag → Bool
  | .set => true
  | .list => true
  | .map => true
  | .learn => true
  | .unlearn => true
  | .random => true
  | _ => false

/-- The element has a tag with an effect. -/
def Markup.Element.hasEffect (element : Element) : Bool :=
  (Tag.ofName? element.name).any Tag.hasEffect

/-- No element with an effect is reached from the template. -/
def Markup.EffectFree (template : Text) : Prop :=
  ∀ element ∈ elementsReached (parse template), element.hasEffect = false

/-- No element with an effect is reached from the templates of the rules. -/
def KnowledgeBase.EffectFree (knowledge : KnowledgeBase) : Prop :=
  ∀ rule ∈ knowledge.rules.rules, Markup.EffectFree rule.category.template

instance (template : Text) : Decidable (Markup.EffectFree template) :=
  inferInstanceAs <| Decidable <|
    ∀ element ∈ Markup.elementsReached (Markup.parse template), element.hasEffect = false

instance (knowledge : KnowledgeBase) : Decidable knowledge.EffectFree :=
  inferInstanceAs <| Decidable <|
    ∀ rule ∈ knowledge.rules.rules, Markup.EffectFree rule.category.template

/-- The sessions differ at most in what was said and answered. -/
def Session.Converses (before after : Session) : Prop :=
  ∃ requests responses thats,
    after = { before with
      requests := requests
      responses := responses
      thats := thats }

theorem Session.Converses.refl (session : Session) : session.Converses session :=
  ⟨_, _, _, rfl⟩

theorem Session.Converses.trans
    {first second third : Session}
    (earlier : first.Converses second)
    (later : second.Converses third) :
    first.Converses third := by
  obtain ⟨_, _, _, rfl⟩ := earlier
  obtain ⟨_, _, _, rfl⟩ := later
  exact ⟨_, _, _, rfl⟩

theorem Turn.Remembers.trans
    {first second third : Turn}
    (earlier : first.Remembers second)
    (later : second.Remembers third) :
    first.Remembers third := by
  obtain ⟨_, _, _, rfl⟩ := earlier
  obtain ⟨_, _, _, rfl⟩ := later
  exact ⟨_, _, _, rfl⟩

/-- What is only remembered leaves the knowledge base as it is. -/
theorem Turn.Remembers.knowledge
    {before after : Turn}
    (remembers : before.Remembers after) :
    after.interpreter.knowledge = before.interpreter.knowledge := by
  obtain ⟨_, _, _, rfl⟩ := remembers
  rfl

/-! ## Evaluating without effects -/

namespace Evaluation

open Markup

/-- Among rules without effects, no more changes than what is remembered. -/
def resting : Effect where
  relates before after := before.interpreter.knowledge.EffectFree → before.Remembers after
  allows element := element.hasEffect = false
  remembers remembers _ := remembers
  trans earlier later rulesFree := by
    have remembers := earlier rulesFree
    exact remembers.trans (later (remembers.knowledge ▸ rulesFree))
  change isFree isTag change := by
    -- Each change is made by a tag that has an effect, against what the element is.
    rw [Element.hasEffect, isTag, Option.any_some] at isFree
    cases change <;> cases isFree

/-- A call that changes no more than what is remembered leaves its frame behind. -/
theorem remembers_inChildFrame
    {α : Type}
    {inner : Evaluation α}
    {turn : Turn}
    (bindings : Bindings)
    (remembers :
      Turn.Remembers { turn with frame := turn.frame.child bindings }
        (inner { turn with frame := turn.frame.child bindings }).2) :
    turn.Remembers (inChildFrame bindings inner turn).2 := by
  obtain ⟨_, _, _, isAfter⟩ := remembers
  exact ⟨_, _, _, congrArg (fun after => { after with frame := turn.frame }) isAfter⟩

/-- The category that is selected is that of a rule. -/
theorem rule_of_select
    {input : Text}
    {turn after : Turn}
    {selected : Selected}
    (isSelected : select input turn = (some selected, after)) :
    ∃ rule ∈ turn.interpreter.knowledge.rules.rules, selected.category = rule.category :=
  Selector.rule_of_resolve (congrArg Prod.fst isSelected)

/-- Answers without effects only remember something. -/
theorem resting_answerWithin
    (remaining : Nat)
    (input : Text) :
    resting.Covers (answerWithin remaining input) := by
  induction remaining generalizing input with
  | zero =>
      exact fun turn _ => .refl turn
  | succ remaining inductionHypothesis =>
      intro turn rulesFree
      have selecting := remembers_select (Text.collapse input) turn
      simp only [answerWithin, answerBy]
      split
      · exact .refl turn
      · rcases selection : select (Text.collapse input) turn with ⟨_ | selected, after⟩
        · rw [selection] at selecting
          simp only [bind, StateT.bind, selection]
          exact selecting
        · rw [selection] at selecting
          simp only [bind, StateT.bind, selection]
          obtain ⟨rule, isRule, isCategory⟩ := rule_of_select selection
          have admitted : resting.Admits (parse selected.category.template) := by
            rw [isCategory]
            exact rulesFree rule isRule
          have calls : resting.Covers
              (templateBy (evaluateWithin remaining) selected.category.template) := by
            apply resting.covers_templateBy
            rw [evaluateWithin_eq]
            exact resting.covers_evaluateNodes inductionHypothesis admitted
          exact selecting.trans
            (remembers_inChildFrame selected.bindings (calls _ (selecting.knowledge ▸ rulesFree)))

/-- A template without effects changes no more than what is remembered. -/
theorem resting_evaluateTemplate
    {template : Text}
    (isFree : EffectFree template) :
    resting.Covers (evaluateTemplate template) := by
  apply resting.covers_templateBy
  intro turn
  rw [evaluate, evaluateWithin_eq]
  exact resting.covers_evaluateNodes (resting_answerWithin _) isFree turn

end Evaluation

/-! ## Asking without effects -/

namespace Interpreter

variable {interpreter : Interpreter}

/-- A template without effects changes neither the session nor anything but what is remembered. -/
theorem evaluateIn_of_effectFree
    (rulesFree : interpreter.knowledge.EffectFree)
    (session : Session)
    (bindings : Bindings)
    {template : Text}
    (isFree : Markup.EffectFree template) :
    (interpreter.evaluateIn session bindings template).2.1 = session ∧
      (interpreter.evaluateIn session bindings template).2.2.core = interpreter.core := by
  obtain ⟨_, _, _, isAfter⟩ :=
    Evaluation.resting_evaluateTemplate isFree ⟨interpreter, session, Frame.root bindings⟩ rulesFree
  exact ⟨congrArg Turn.session isAfter, congrArg (fun turn => turn.interpreter.core) isAfter⟩

/-- What is said changes no more than the histories and what is remembered. -/
def conversing : Passage where
  relates before after :=
    before.2.knowledge.EffectFree → before.1.Converses after.1 ∧ after.2.core = before.2.core
  refl state _ := ⟨.refl _, rfl⟩
  trans {first second _} earlier later rulesFree := by
    obtain ⟨converses, same⟩ := earlier rulesFree
    have sameKnowledge : second.2.knowledge = first.2.knowledge := congrArg Core.knowledge same
    obtain ⟨converses', same'⟩ := later (sameKnowledge ▸ rulesFree)
    exact ⟨converses.trans converses', same'.trans same⟩
  request _ _ _ _ := ⟨⟨_, _, _, rfl⟩, rfl⟩
  response _ _ _ _ := ⟨⟨_, _, _, rfl⟩, rfl⟩
  select _ _ _ _ := ⟨.refl _, rfl⟩
  evaluate {session interpreter selecting input selected} isSelected rulesFree := by
    have sameKnowledge : selecting.knowledge = interpreter.knowledge :=
      congrArg (fun outcome => outcome.2.knowledge) isSelected.symm
    obtain ⟨rule, isRule, isCategory⟩ := Selector.rule_of_resolve (congrArg Prod.fst isSelected)
    have isFree : Markup.EffectFree selected.category.template := by
      rw [isCategory]
      exact rulesFree rule (sameKnowledge ▸ isRule)
    obtain ⟨sameSession, sameCore⟩ :=
      evaluateIn_of_effectFree rulesFree session selected.bindings isFree
    rw [sameSession]
    exact ⟨.refl _, sameCore⟩

/-- Before and after a template without effects, interpreters are alike at any time. -/
theorem Sound.alike_evaluateIn
    (sound : interpreter.Sound)
    (rulesFree : interpreter.knowledge.EffectFree)
    (session : Session)
    (bindings : Bindings)
    {template : Text}
    (isFree : Markup.EffectFree template)
    (pauses : Pauses) :
    ((interpreter.evaluateIn session bindings template).2.2.await pauses).Alike interpreter := by
  have itself : interpreter.Alike interpreter := ⟨rfl, sound, sound⟩
  have soundAfter := (itself.evaluateIn session bindings template).interpreter.first
  exact ⟨(evaluateIn_of_effectFree rulesFree session bindings isFree).2, soundAfter.await pauses,
    sound⟩

end Interpreter

/-! ## Memory stays right -/

namespace Service

variable {ι : Type} [DecidableEq ι]

/-- Whatever happens, all that is remembered stays right. -/
theorem sound_happen
    {service : Service ι}
    (sound : service.interpreter.Sound)
    (event : Event ι) :
    (service.happen event).interpreter.Sound := by
  cases event with
  | ask operation =>
      have itself : service.Alike service := ⟨⟨rfl, sound, sound⟩, rfl⟩
      exact (itself.perform operation).2.interpreter.first
  | edit edit =>
      exact ⟨sound.selector, sound.variableCache⟩
  | clear who =>
      exact sound
  | wait pauses =>
      exact sound.await pauses

/-- Whatever happens, what an interpreter remembers is right. -/
theorem sound_after
    {service : Service ι}
    (sound : service.interpreter.Sound)
    (history : List (Event ι)) :
    (service.after history).interpreter.Sound := by
  induction history generalizing service with
  | nil =>
      exact sound
  | cons event rest inductionHypothesis =>
      exact inductionHypothesis (sound_happen sound event)

/--
Whatever happened before, if the rules have no effects, then templates without
effects leave the session, the knowledge base and the picks as they are, and give
the same text when they are evaluated again, whatever time passes in between; this
is so with a session and without one. What is said changes the histories of the
session and nothing else of these.
-/
theorem after_repeatsEffectFree
    (knowledge : KnowledgeBase)
    (settings : Settings)
    (picks : List Nat)
    (sessions : ι → Session)
    (history : List (Event ι))
    (session : Session) :
    let interpreter := ((new knowledge settings picks sessions).after history).interpreter
    interpreter.knowledge.EffectFree →
    (∀ bindings template,
        Markup.EffectFree template →
        let outcome := interpreter.evaluateIn session bindings template
        outcome.2.1 = session ∧
          outcome.2.2.knowledge = interpreter.knowledge ∧
          outcome.2.2.picks = interpreter.picks ∧
          ∀ pauses,
            ((outcome.2.2.await pauses).evaluateIn outcome.2.1 bindings template).1 =
              outcome.1) ∧
      (∀ bindings template,
        Markup.EffectFree template →
        let outcome := interpreter.evaluateAlone bindings template
        outcome.2.knowledge = interpreter.knowledge ∧
          outcome.2.picks = interpreter.picks ∧
          ∀ pauses,
            ((outcome.2.await pauses).evaluateAlone bindings template).1 = outcome.1) ∧
      ∀ utterance,
        let outcome := interpreter.respond session utterance
        session.Converses outcome.2.1 ∧
          outcome.2.2.knowledge = interpreter.knowledge ∧
          outcome.2.2.picks = interpreter.picks := by
  intro interpreter rulesFree
  have sound : interpreter.Sound := sound_after (Interpreter.sound_new _ _ _) history
  refine ⟨?_, ?_, ?_⟩
  · intro bindings template isFree outcome
    obtain ⟨sameSession, sameCore⟩ :=
      Interpreter.evaluateIn_of_effectFree rulesFree session bindings isFree
    refine ⟨sameSession, congrArg Interpreter.Core.knowledge sameCore,
      congrArg Interpreter.Core.picks sameCore, ?_⟩
    intro pauses
    have alike := sound.alike_evaluateIn rulesFree session bindings isFree pauses
    rw [show outcome.2.1 = session from sameSession]
    exact (alike.evaluateIn session bindings template).value
  · intro bindings template isFree outcome
    obtain ⟨_, sameCore⟩ := Interpreter.evaluateIn_of_effectFree rulesFree
      (interpreter.newSession Interpreter.passingSessionName) bindings isFree
    refine ⟨congrArg Interpreter.Core.knowledge sameCore,
      congrArg Interpreter.Core.picks sameCore, ?_⟩
    intro pauses
    have alike := sound.alike_evaluateIn rulesFree
      (interpreter.newSession Interpreter.passingSessionName) bindings isFree pauses
    exact (alike.evaluateAlone bindings template).1
  · intro utterance outcome
    obtain ⟨converses, sameCore⟩ :=
      Interpreter.conversing.respond interpreter session utterance rulesFree
    exact ⟨converses, congrArg Interpreter.Core.knowledge sameCore,
      congrArg Interpreter.Core.picks sameCore⟩

/-- A service that greets. -/
def hostService : Service Unit :=
  .new (.ofCategories "host".toList .empty .empty [.plain "HI".toList "Hello".toList]) {} [7]
    fun _ => .new "guest".toList

/-- A guest comes, and some time passes. -/
def visit : List (Event Unit) :=
  [.ask (.respond () "hi".toList), .wait ⟨[], [5], [], []⟩]

/-- A template that greets and takes a name from a variable. -/
def welcome : Text :=
  "<srai>hi</srai> <get name=\"<star/>\"/>".toList

/-- The guest that is welcomed next. -/
def guest : Session :=
  (Session.new "guest".toList).setVariable "who".toList "Ada".toList

/-- After a visit, the next guest is welcomed in the same words twice. -/
theorem after_repeatsEffectFree_welcome :
    let interpreter := (hostService.after visit).interpreter
    let outcome := interpreter.evaluateIn guest ⟨["who".toList], [], []⟩ welcome
    interpreter.knowledge.EffectFree ∧
      Markup.EffectFree welcome ∧
      outcome.1 = "Hello Ada".toList ∧
      outcome.2.1 = guest ∧
      ((outcome.2.2.await ⟨[], [], [9], []⟩).evaluateIn outcome.2.1 ⟨["who".toList], [], []⟩
        welcome).1 = outcome.1 := by
  intro interpreter outcome
  have atFirst : hostService.interpreter.knowledge.EffectFree := by decide +kernel
  have isFree : Markup.EffectFree welcome := by decide +kernel
  have isText : (interpreter.evaluateIn guest ⟨["who".toList], [], []⟩ welcome).1 =
      "Hello Ada".toList := by
    decide +kernel
  -- Answering the first guest is itself without effects, so the rules are the loaded ones.
  obtain ⟨_, _, responds⟩ :=
    after_repeatsEffectFree _ _ _ _ [] (hostService.sessions ()) atFirst
  have rulesFree : interpreter.knowledge.EffectFree :=
    (responds "hi".toList).2.1.symm ▸ atFirst
  obtain ⟨evaluates, _⟩ := after_repeatsEffectFree _ _ _ _ visit guest rulesFree
  obtain ⟨sameSession, _, _, again⟩ := evaluates ⟨["who".toList], [], []⟩ welcome isFree
  exact ⟨rulesFree, isFree, isText, sameSession, again _⟩

end Service

end Colloquy
