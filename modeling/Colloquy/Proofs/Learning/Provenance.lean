import Colloquy.Proofs.Conversation.Transparency
import Colloquy.Proofs.Learning.Rights

namespace Colloquy

/-!
# Where rules come from

Sessions share an interpreter, and its owner may edit the rules at any time. A rule
is foreign to a session if it was there at the beginning, or if it came by something
that was not the session's doing. The log of a session never tells the number of a
rule that is foreign to it, so whatever the session says or has evaluated leaves such
rules as they are and in their order.
-/

/-- What may happen to an interpreter and the sessions that share it. -/
inductive Event (ι : Type) where
  | ask (operation : Operation ι)
  | edit (edit : KnowledgeBase.Edit)
  | clear (who : ι)
  | wait (pauses : Interpreter.Pauses)

/-- The session that asks. -/
def Operation.asker? {ι : Type} : Operation ι → Option ι
  | .respond who _ => some who
  | .evaluate who _ _ => some who
  | .evaluateAlone _ _ => none
  | .explain who _ => some who
  | .learn who _ => some who
  | .unlearn who _ => some who
  | .reload _ => none
  | .clearCaches => none

/-- The session whose doing an event is. -/
def Event.asker? {ι : Type} : Event ι → Option ι
  | .ask operation => operation.asker?
  | .edit _ => none
  | .clear _ => none
  | .wait _ => none

namespace Service

variable {ι : Type}

/-- The rules of the knowledge base, in order. -/
def rules (service : Service ι) : List Rule :=
  service.interpreter.knowledge.rules.rules

/-- The serial number that the next rule will have. -/
def nextSerial (service : Service ι) : Nat :=
  service.interpreter.knowledge.nextSerial

/-! ## What an event does to numbers -/

/-- What came has new numbers, and in the logs it is what the asking session learned. -/
structure Advances
    (asker : Option ι)
    (before after : Service ι) :
    Prop where
  orderly : after.interpreter.knowledge.Orderly
  continues : before.interpreter.knowledge.Continues after.interpreter.knowledge
  log : ∀ who, ∀ entry ∈ (after.sessions who).learned,
    entry ∈ (before.sessions who).learned ∨
      asker = some who ∧ before.nextSerial ≤ entry.serial ∧ entry.serial < after.nextSerial

/-- The rules are in order, and all numbers in logs were given. -/
structure Numbered (service : Service ι) : Prop where
  orderly : service.interpreter.knowledge.Orderly
  below : ∀ who, ∀ entry ∈ (service.sessions who).learned, entry.serial < service.nextSerial

/-- The number was given, and the session's log does not tell it. -/
structure Apart
    (service : Service ι)
    (who : ι)
    (serial : Nat) :
    Prop where
  given : serial < service.nextSerial
  unlogged : ¬ (service.sessions who).Logs serial

namespace Advances

variable
  {asker : Option ι}
  {before after : Service ι}

/-- Numbers stay below the next one while a service advances. -/
theorem numbered
    (advances : Advances asker before after)
    (numbered : before.Numbered) :
    after.Numbered := by
  refine ⟨advances.orderly, ?_⟩
  intro who entry isEntry
  rcases advances.log who entry isEntry with isOld | ⟨_, _, isGiven⟩
  · exact Nat.lt_of_lt_of_le (numbered.below who entry isOld) advances.continues.nextSerial
  · exact isGiven

/-- A number that was given before does not come into a log. -/
theorem apart
    (advances : Advances asker before after)
    {who : ι}
    {serial : Nat}
    (apart : before.Apart who serial) :
    after.Apart who serial := by
  refine ⟨Nat.lt_of_lt_of_le apart.given advances.continues.nextSerial, ?_⟩
  rintro ⟨entry, isEntry, rfl⟩
  rcases advances.log who entry isEntry with isOld | ⟨_, isNew, _⟩
  · exact apart.unlogged ⟨entry, isOld, rfl⟩
  · exact absurd apart.given (Nat.not_lt.mpr isNew)

/-- A rule that another brings has a number above those in the log. -/
theorem apart_of_brought
    (advances : Advances asker before after)
    (numbered : before.Numbered)
    {who : ι}
    (byOther : asker ≠ some who)
    {rule : Rule}
    (isNew : rule ∉ before.rules)
    (isRule : rule ∈ after.rules) :
    after.Apart who rule.serial := by
  refine ⟨advances.orderly.below rule isRule, ?_⟩
  rintro ⟨entry, isEntry, same⟩
  rcases advances.log who entry isEntry with isOld | ⟨isAsker, _⟩
  · rcases advances.continues.rules rule isRule with wasRule | above
    · exact isNew wasRule
    · have below := numbered.below who entry isOld
      rw [same] at below
      exact absurd below (Nat.not_lt.mpr above)
  · exact byOther isAsker

/-- A service advances if logs only lose entries. -/
theorem of_log_sublist
    (orderly : after.interpreter.knowledge.Orderly)
    (continues : before.interpreter.knowledge.Continues after.interpreter.knowledge)
    (log : ∀ who, (after.sessions who).learned.Sublist (before.sessions who).learned) :
    Advances asker before after :=
  ⟨orderly, continues, fun who _ isEntry => Or.inl ((log who).subset isEntry)⟩

end Advances

variable [DecidableEq ι]

/-- What happens if a session keeps to its rights. -/
theorem advances_settle
    {α : Type}
    {service : Service ι}
    (orderly : service.interpreter.knowledge.Orderly)
    (who : ι)
    (reply : α → Reply)
    {outcome : α × Session × Interpreter}
    (keeps : service.interpreter.KeepsRights (service.sessions who) outcome.2) :
    Advances (some who) service (service.settle who reply outcome).2 := by
  have within := keeps.rights orderly
  refine ⟨within.orderly, within.continues, ?_⟩
  intro other entry isEntry
  simp only [settle, Function.update_apply] at isEntry
  split at isEntry
  · next isAsker =>
      subst isAsker
      rcases within.log.mem isEntry with isOld | gained
      · exact Or.inl isOld
      · exact Or.inr ⟨rfl, gained.isNew, gained.isGiven⟩
  · exact Or.inl isEntry

/-- Every operation advances the service. -/
theorem advances_perform
    {service : Service ι}
    (orderly : service.interpreter.knowledge.Orderly)
    (operation : Operation ι) :
    Advances operation.asker? service (service.perform operation).2 := by
  have same (who : ι) :
      (service.sessions who).learned.Sublist (service.sessions who).learned :=
    List.Sublist.refl _
  cases operation with
  | respond who utterance =>
      exact advances_settle orderly who _ (Interpreter.keepsRights_respond _ _ utterance)
  | evaluate who bindings template =>
      exact advances_settle orderly who _
        (Interpreter.keepsRights_evaluateIn _ _ bindings template)
  | evaluateAlone bindings template =>
      have within := (Interpreter.keepsRights_evaluateIn service.interpreter
        (service.interpreter.newSession Interpreter.passingSessionName) bindings
        template).rights orderly
      exact .of_log_sublist within.orderly within.continues same
  | explain who utterance =>
      exact .of_log_sublist orderly (.refl _) same
  | learn who candidate =>
      exact advances_settle orderly who _
        ⟨fun orderly => withinRights_learn orderly _ candidate _⟩
  | unlearn who candidate =>
      exact advances_settle orderly who _
        ⟨fun orderly => withinRights_unlearn orderly _ candidate _⟩
  | reload categories =>
      exact .of_log_sublist (orderly.edit (.reload categories))
        (.edit orderly (.reload categories)) same
  | clearCaches =>
      exact .of_log_sublist orderly (.refl _) same

/-! ## Histories -/

/-- Have something happen. -/
def happen
    (service : Service ι) :
    Event ι →
    Service ι
  | .ask operation =>
      (service.perform operation).2
  | .edit edit =>
      { service with interpreter.knowledge := service.interpreter.knowledge.edit edit }
  | .clear who =>
      { service with
        sessions := Function.update service.sessions who (service.sessions who).clear }
  | .wait pauses =>
      { service with interpreter := service.interpreter.await pauses }

/-- Have one thing happen after the other. -/
def after
    (service : Service ι)
    (history : List (Event ι)) :
    Service ι :=
  history.foldl happen service

/-- The rule was there at the beginning, or came by what is not the session's doing. -/
def Foreign
    (start : Service ι)
    (history : List (Event ι))
    (who : ι)
    (rule : Rule) :
    Prop :=
  rule ∈ start.rules ∨
    ∃ earlier event later,
      history = earlier ++ event :: later ∧
        event.asker? ≠ some who ∧
        rule ∉ (start.after earlier).rules ∧
        rule ∈ ((start.after earlier).happen event).rules

theorem advances_happen
    {service : Service ι}
    (orderly : service.interpreter.knowledge.Orderly)
    (event : Event ι) :
    Advances event.asker? service (service.happen event) := by
  cases event with
  | ask operation =>
      exact advances_perform orderly operation
  | edit edit =>
      exact .of_log_sublist (orderly.edit edit) (.edit orderly edit) fun _ => List.Sublist.refl _
  | clear who =>
      refine .of_log_sublist orderly (.refl _) ?_
      intro other
      simp only [happen, Function.update_apply]
      split
      · exact List.nil_sublist _
      · exact List.Sublist.refl _
  | wait pauses =>
      exact .of_log_sublist orderly (.refl _) fun _ => List.Sublist.refl _

/-- Whatever happened, numbers stay below the next one. -/
theorem Numbered.after
    {service : Service ι}
    (numbered : service.Numbered)
    (history : List (Event ι)) :
    (service.after history).Numbered := by
  induction history generalizing service with
  | nil =>
      exact numbered
  | cons event rest inductionHypothesis =>
      exact inductionHypothesis ((advances_happen numbered.orderly event).numbered numbered)

/-- However things go on, a number that was given before does not come into a log. -/
theorem Apart.after
    {service : Service ι}
    (numbered : service.Numbered)
    {who : ι}
    {serial : Nat}
    (apart : service.Apart who serial)
    (history : List (Event ι)) :
    (service.after history).Apart who serial := by
  induction history generalizing service with
  | nil =>
      exact apart
  | cons event rest inductionHypothesis =>
      have advances := advances_happen numbered.orderly event
      exact inductionHypothesis (advances.numbered numbered) (advances.apart apart)

/-- The log of a session does not tell the numbers of rules that are foreign to it. -/
theorem Foreign.apart
    {start : Service ι}
    {history : List (Event ι)}
    {who : ι}
    {rule : Rule}
    (foreign : start.Foreign history who rule)
    (orderly : start.interpreter.knowledge.Orderly)
    (nothingLearned : ∀ other, (start.sessions other).learned = []) :
    (start.after history).Apart who rule.serial := by
  have numbered : start.Numbered := ⟨orderly, by simp [nothingLearned]⟩
  rcases foreign with isOld | ⟨earlier, event, later, rfl, byOther, isNew, isRule⟩
  · have apart : start.Apart who rule.serial :=
      ⟨orderly.below rule isOld, by simp [Session.Logs, nothingLearned]⟩
    exact apart.after numbered history
  · have numberedThen := numbered.after earlier
    have advances := advances_happen numberedThen.orderly event
    have apart := advances.apart_of_brought numberedThen byOther isNew isRule
    rw [Service.after, List.foldl_append]
    exact apart.after (advances.numbered numberedThen) later

end Service

/--
Whatever a session says or has evaluated, the knowledge base keeps its name, its
variables and its properties. Rules are taken out only if the log of the session
told their serial numbers at the beginning; those that are added stand at the end,
are admitted, and have numbers that no rule had before, and so it is with what the
log gains. For a template that is evaluated for no session, the log is empty. Rules
that are foreign to the session are left as they are and in their order, however
the session came to where it is.
-/
theorem Interpreter.evaluation_withinRights
    (interpreter : Interpreter)
    (orderly : interpreter.knowledge.Orderly)
    (session : Session) :
    let Within (session : Session) (outcome : Session × Interpreter) : Prop :=
      WithinRights interpreter.settings.learning session interpreter.knowledge outcome.1
        outcome.2.knowledge
    (∀ bindings template,
        Within session (interpreter.evaluateIn session bindings template).2) ∧
      (∀ bindings template, ∃ passing,
        Within (interpreter.newSession passingSessionName)
          (passing, (interpreter.evaluateAlone bindings template).2)) ∧
      (∀ utterance,
        Within session (interpreter.respond session utterance).2) ∧
      ∀ {ι : Type} [DecidableEq ι] (start : Service ι) (history : List (Event ι)) (who : ι),
        start.interpreter.knowledge.Orderly →
        (∀ other, (start.sessions other).learned = []) →
        (start.after history).interpreter = interpreter →
        (start.after history).sessions who = session →
        ∀ part : List Rule,
          part.Sublist interpreter.knowledge.rules.rules →
          (∀ rule ∈ part, start.Foreign history who rule) →
          (∀ bindings template,
            part.Sublist
              (interpreter.evaluateIn session bindings template).2.2.knowledge.rules.rules) ∧
          ∀ utterance,
            part.Sublist (interpreter.respond session utterance).2.2.knowledge.rules.rules := by
  intro Within
  have evaluates (session : Session) (bindings : Bindings) (template : Text) :
      Within session (interpreter.evaluateIn session bindings template).2 :=
    (keepsRights_evaluateIn interpreter session bindings template).rights orderly
  have responds (utterance : Text) :
      Within session (interpreter.respond session utterance).2 :=
    (keepsRights_respond interpreter session utterance).rights orderly
  refine ⟨evaluates session, ?_, responds, ?_⟩
  · intro bindings template
    exact ⟨_, evaluates (interpreter.newSession passingSessionName) bindings template⟩
  · rintro ι _ start history who startOrderly nothingLearned rfl rfl part isPart foreign
    have unlogged (rule : Rule) (member : rule ∈ part) :
        ¬ ((start.after history).sessions who).Logs rule.serial :=
      ((foreign rule member).apart startOrderly nothingLearned).unlogged
    exact ⟨fun bindings template => (evaluates _ bindings template).rules.sublist isPart unlogged,
      fun utterance => (responds utterance).rules.sublist isPart unlogged⟩

/-- The greeters, with an interpreter of their own. -/
def greetingService : Service Bool :=
  .new Community.greeters.knowledge {} [] Community.greeters.sessions

/-- The first session learns the greeting, and then the second does. -/
def bothLearn : List (Event Bool) :=
  [.ask (.learn true Community.greeting), .ask (.learn false Community.greeting)]

/-- The second session cannot have the loaded greeting unlearned, nor that of the first. -/
theorem Interpreter.evaluation_withinRights_copies :
    let service := greetingService.after bothLearn
    let unlearning :=
      "<unlearn><category><pattern>HELLO</pattern><template>hi</template></category></unlearn>"
    service.rules.map (·.serial) = [0, 1, 2] ∧
      (service.rules.take 2).Sublist
        (service.interpreter.evaluateIn (service.sessions false) ⟨[], [], []⟩
          unlearning.toList).2.2.knowledge.rules.rules := by
  intro service unlearning
  have loaded : greetingService.interpreter.knowledge.Orderly :=
    (KnowledgeBase.Reachable.load _ _ _ _).orderly
  have nothingLearned (who : Bool) : (greetingService.sessions who).learned = [] := by
    cases who <;> rfl
  have orderly : service.interpreter.knowledge.Orderly := by
    have numbered : greetingService.Numbered := ⟨loaded, by simp [nothingLearned]⟩
    exact (numbered.after bothLearn).orderly
  obtain ⟨_, _, _, spares⟩ :=
    evaluation_withinRights service.interpreter orderly (service.sessions false)
  refine ⟨by decide +kernel, (spares greetingService bothLearn false loaded nothingLearned rfl rfl
    (service.rules.take 2) (List.take_sublist _ _) ?_).1 _ _⟩
  intro rule member
  have oneOfTwo : rule ∈ greetingService.rules ∨
      rule ∉ greetingService.rules ∧
        rule ∈ (greetingService.happen (.ask (.learn true Community.greeting))).rules := by
    revert rule
    decide +kernel
  rcases oneOfTwo with isLoaded | ⟨isNew, isLearned⟩
  · exact Or.inl isLoaded
  · exact Or.inr ⟨[], _, [.ask (.learn false Community.greeting)], rfl, by decide, isNew, isLearned⟩

end Colloquy
