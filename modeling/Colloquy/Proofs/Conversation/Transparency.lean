import Colloquy.Conversation
import Colloquy.Proofs.Evaluation.Memory
import Mathlib.Logic.Function.Basic

namespace Colloquy

/-!
# Caches never show

Any number of sessions share an interpreter and ask things of it, one after the
other, while time passes at will. However large the caches are, however long their
entries live and whatever times pass, the replies are the same, and so are the
sessions and the knowledge base that the script leaves.
-/

/-! ## Operations on interpreters that are alike -/

namespace Interpreter

/-- The times that pass before the coming looks at the clocks of the caches. -/
structure Pauses where
  variableCache : List Nat
  patternCache : List Nat
  verdictCache : List Nat
  templateCache : List Nat

/-- Let the given times pass before the coming looks at the clocks of the caches. -/
def await
    (interpreter : Interpreter)
    (pauses : Pauses) :
    Interpreter :=
  { interpreter with
    selector :=
      ⟨interpreter.selector.patterns.await pauses.patternCache,
        interpreter.selector.verdicts.await pauses.verdictCache⟩
    variableCache := Cache.await interpreter.variableCache pauses.variableCache
    templates :=
      ⟨interpreter.templates.cache.await pauses.templateCache, interpreter.templates.agrees⟩ }

/-- What is remembered stays right while time passes. -/
theorem Sound.await
    {interpreter : Interpreter}
    (sound : interpreter.Sound)
    (pauses : Pauses) :
    (interpreter.await pauses).Sound :=
  ⟨⟨sound.selector.patterns, sound.selector.verdicts⟩, sound.variableCache⟩

/-- What is remembered is right when rules are reloaded. -/
theorem Sound.reload
    {interpreter : Interpreter}
    (sound : interpreter.Sound)
    (categories : List Category) :
    (interpreter.reload categories).Sound :=
  ⟨sound.selector.invalidate _, sound.variableCache.invalidate _⟩

theorem sound_clearCaches (interpreter : Interpreter) : interpreter.clearCaches.Sound :=
  ⟨⟨Cache.agrees_clear _ _, Cache.agrees_clear _ _⟩, Cache.agrees_clear _ _⟩

namespace Alike

variable {first second : Interpreter}

/-- Interpreters that are alike stay so, whatever time passes for each. -/
theorem await
    (alike : first.Alike second)
    (pauses pauses' : Pauses) :
    (first.await pauses).Alike (second.await pauses') :=
  ⟨alike.core, alike.first.await pauses, alike.second.await pauses'⟩

theorem reload
    (alike : first.Alike second)
    (categories : List Category) :
    (first.reload categories).Alike (second.reload categories) :=
  ⟨congrArg (fun core => { core with knowledge := core.knowledge.reload categories }) alike.core,
    alike.first.reload categories, alike.second.reload categories⟩

theorem clearCaches (alike : first.Alike second) : first.clearCaches.Alike second.clearCaches :=
  ⟨alike.core, sound_clearCaches first, sound_clearCaches second⟩

/-- A template is evaluated alike. -/
theorem evaluateIn
    (alike : first.Alike second)
    (session : Session)
    (bindings : Bindings)
    (template : Text) :
    SameOutcome
      (first.evaluateIn session bindings template)
      (second.evaluateIn session bindings template) := by
  have start : Turn.Alike ⟨first, session, Frame.root bindings⟩
      ⟨second, session, Frame.root bindings⟩ :=
    ⟨alike, rfl, rfl⟩
  obtain ⟨sameText, after⟩ := Evaluation.indistinct_evaluateTemplate template _ _ start
  exact ⟨sameText, after.session, after.interpreter⟩

/-- A template without a session has the same value for interpreters that are alike. -/
theorem evaluateAlone
    (alike : first.Alike second)
    (bindings : Bindings)
    (template : Text) :
    (first.evaluateAlone bindings template).1 = (second.evaluateAlone bindings template).1 ∧
      (first.evaluateAlone bindings template).2.Alike
        (second.evaluateAlone bindings template).2 := by
  have samePassing : first.newSession passingSessionName = second.newSession passingSessionName :=
    congrArg (Session.withHistoryLimit passingSessionName)
      (congrArg Core.historyLimit alike.core)
  simp only [Interpreter.evaluateAlone, samePassing]
  have same := alike.evaluateIn (second.newSession passingSessionName) bindings template
  exact ⟨same.value, same.interpreter⟩

/-- A sentence is answered alike. -/
theorem answerSentence
    (alike : first.Alike second)
    (session : Session)
    (sentence : Text) :
    SameOutcome (first.answerSentence session sentence)
      (second.answerSentence session sentence) := by
  have selects := alike.select (session.pushRequest sentence) sentence
  simp only [Interpreter.answerSentence]
  generalize first.select (session.pushRequest sentence) sentence = here at selects
  generalize second.select (session.pushRequest sentence) sentence = there at selects
  obtain ⟨rule, here⟩ := here
  obtain ⟨_, there⟩ := there
  obtain ⟨rfl, selecting⟩ := selects
  cases rule with
  | none =>
      exact ⟨rfl, rfl, selecting⟩
  | some selected =>
      have same := selecting.evaluateIn (session.pushRequest sentence) selected.bindings
        selected.category.template
      exact ⟨congrArg some same.value, congrArg₂ Session.pushResponse same.session same.value,
        same.interpreter⟩

/-- Interpreters that are alike answer sentences alike. -/
theorem answerSentences
    (alike : first.Alike second)
    (session : Session)
    (sentences : List Text) :
    SameOutcome (first.answerSentences session sentences)
      (second.answerSentences session sentences) := by
  induction sentences generalizing first second session with
  | nil =>
      exact ⟨rfl, rfl, alike⟩
  | cons sentence rest inductionHypothesis =>
      obtain ⟨answer, after, here, there, isFirst, isSecond, answering⟩ :=
        (alike.answerSentence session sentence).parts
      have later := inductionHypothesis answering after
      simp only [Interpreter.answerSentences, isFirst, isSecond]
      exact ⟨congrArg (answer.toList ++ ·) later.value, later.session, later.interpreter⟩

/-- What is said is answered alike. -/
theorem respond
    (alike : first.Alike second)
    (session : Session)
    (utterance : Text) :
    SameOutcome (first.respond session utterance) (second.respond session utterance) := by
  simp only [Interpreter.respond]
  cases Text.sentences utterance with
  | nil =>
      exact ⟨rfl, rfl, alike⟩
  | cons sentence rest =>
      obtain ⟨answers, after, here, there, isFirst, isSecond, answering⟩ :=
        (alike.answerSentences session (sentence :: rest)).parts
      simp only [isFirst, isSecond]
      split
      · exact ⟨rfl, rfl, answering⟩
      · exact ⟨rfl, rfl, answering⟩

end Alike

end Interpreter

/-! ## Sessions that share an interpreter -/

/-- The sizes and lifetimes of the caches. -/
structure CacheChoice where
  variableCache : CacheSettings
  patternCache : CacheSettings
  verdictCache : CacheSettings
  templateCache : CacheSettings

/-- Settings with another choice of caches. -/
def Settings.withCaches
    (settings : Settings)
    (choice : CacheChoice) :
    Settings :=
  { settings with
    variableCache := choice.variableCache
    patternCache := choice.patternCache
    verdictCache := choice.verdictCache
    templateCache := choice.templateCache }

/-- An interpreter and the sessions that share it. -/
structure Service (ι : Type) where
  interpreter : Interpreter
  sessions : ι → Session

/-- What may be asked of an interpreter, by the session that asks. -/
inductive Operation (ι : Type) where
  | respond (who : ι) (utterance : Text)
  | evaluate (who : ι) (bindings : Bindings) (template : Text)
  | evaluateAlone (bindings : Bindings) (template : Text)
  | explain (who : ι) (utterance : Text)
  | learn (who : ι) (candidate : Category)
  | unlearn (who : ι) (candidate : Category)
  | reload (categories : List Category)
  | clearCaches

/-- What an operation gives back. -/
inductive Reply where
  | answer (answer : Except NoAnswer Text)
  | text (text : Text)
  | explanation (explanation : Explanation)
  | verdict (verdict : Except Admission.Refusal Unit)
  | count (count : Nat)
  | done

namespace Service

variable {ι : Type}

/-- A service that has been asked nothing yet. -/
def new
    (knowledge : KnowledgeBase)
    (settings : Settings)
    (picks : List Nat)
    (sessions : ι → Session) :
    Service ι :=
  ⟨Interpreter.new knowledge settings picks, sessions⟩

/-- Services differ at most in what their interpreters remember. -/
structure Alike (first second : Service ι) : Prop where
  interpreter : first.interpreter.Alike second.interpreter
  sessions : first.sessions = second.sessions

/-- Services that differ in their caches only are alike. -/
theorem alike_new
    (knowledge : KnowledgeBase)
    (settings : Settings)
    (caches caches' : CacheChoice)
    (picks : List Nat)
    (sessions : ι → Session) :
    Alike (new knowledge (settings.withCaches caches) picks sessions)
      (new knowledge (settings.withCaches caches') picks sessions) :=
  ⟨⟨rfl, Interpreter.sound_new _ _ _, Interpreter.sound_new _ _ _⟩, rfl⟩

variable [DecidableEq ι]

/-- Reply to the session that asked, and keep what it has become. -/
def settle
    {α : Type}
    (service : Service ι)
    (who : ι)
    (reply : α → Reply)
    (outcome : α × Session × Interpreter) :
    Reply × Service ι :=
  (reply outcome.1, ⟨outcome.2.2, Function.update service.sessions who outcome.2.1⟩)

/-- Do what is asked. -/
def perform
    (service : Service ι) :
    Operation ι →
    Reply × Service ι
  | .respond who utterance =>
      service.settle who .answer
        (service.interpreter.respond (service.sessions who) utterance)
  | .evaluate who bindings template =>
      service.settle who .text
        (service.interpreter.evaluateIn (service.sessions who) bindings template)
  | .evaluateAlone bindings template =>
      let (text, interpreter) := service.interpreter.evaluateAlone bindings template
      (.text text, { service with interpreter })
  | .explain who utterance =>
      let (explanation, interpreter) :=
        service.interpreter.explain (service.sessions who) utterance
      (.explanation explanation, { service with interpreter })
  | .learn who candidate =>
      service.settle who .verdict (service.interpreter.learn candidate (service.sessions who))
  | .unlearn who candidate =>
      service.settle who .count (service.interpreter.unlearn candidate (service.sessions who))
  | .reload categories =>
      (.done, { service with interpreter := service.interpreter.reload categories })
  | .clearCaches =>
      (.done, { service with interpreter := service.interpreter.clearCaches })

/-- Do what a script asks, one operation after the other, with the given times in between. -/
def run :
    (timing : Nat → Interpreter.Pauses) →
    (script : List (Operation ι)) →
    Service ι →
    List Reply × Service ι
  | _, [], service => ([], service)
  | timing, operation :: rest, service =>
      let waiting : Service ι :=
        { service with interpreter := service.interpreter.await (timing 0) }
      let (reply, service) := waiting.perform operation
      let (replies, service) := run (fun number => timing (number + 1)) rest service
      (reply :: replies, service)

namespace Alike

variable {first second : Service ι}

/-- Services that are alike reply alike and stay alike when outcomes are the same. -/
theorem settle
    {α : Type}
    (alike : first.Alike second)
    (who : ι)
    (reply : α → Reply)
    {outcome outcome' : α × Session × Interpreter}
    (same : Interpreter.SameOutcome outcome outcome') :
    (first.settle who reply outcome).1 = (second.settle who reply outcome').1 ∧
      (first.settle who reply outcome).2.Alike (second.settle who reply outcome').2 := by
  refine ⟨congrArg reply same.value, same.interpreter, ?_⟩
  simp only [Service.settle, alike.sessions, same.session]

/-- One operation gives the same reply and leaves services that are alike. -/
theorem perform
    (alike : first.Alike second)
    (operation : Operation ι) :
    (first.perform operation).1 = (second.perform operation).1 ∧
      (first.perform operation).2.Alike (second.perform operation).2 := by
  obtain ⟨here, sessions⟩ := first
  obtain ⟨there, _⟩ := second
  obtain ⟨interpreters, rfl⟩ := alike
  have together : Alike ⟨here, sessions⟩ ⟨there, sessions⟩ := ⟨interpreters, rfl⟩
  cases operation with
  | respond who utterance =>
      exact together.settle who .answer (interpreters.respond (sessions who) utterance)
  | evaluate who bindings template =>
      exact together.settle who .text
        (interpreters.evaluateIn (sessions who) bindings template)
  | evaluateAlone bindings template =>
      obtain ⟨sameText, after⟩ := interpreters.evaluateAlone bindings template
      exact ⟨congrArg Reply.text sameText, after, rfl⟩
  | explain who utterance =>
      obtain ⟨sameExplanation, after⟩ := interpreters.explain (sessions who) utterance
      exact ⟨congrArg Reply.explanation sameExplanation, after, rfl⟩
  | learn who candidate =>
      exact together.settle who .verdict (interpreters.learn candidate (sessions who))
  | unlearn who candidate =>
      exact together.settle who .count (interpreters.unlearn candidate (sessions who))
  | reload categories =>
      exact ⟨rfl, interpreters.reload categories, rfl⟩
  | clearCaches =>
      exact ⟨rfl, interpreters.clearCaches, rfl⟩

/-- A script gives the same replies and leaves services that are alike, whatever times pass. -/
theorem run
    (alike : first.Alike second)
    (timing timing' : Nat → Interpreter.Pauses)
    (script : List (Operation ι)) :
    (run timing script first).1 = (run timing' script second).1 ∧
      (run timing script first).2.Alike (run timing' script second).2 := by
  induction script generalizing timing timing' first second with
  | nil =>
      exact ⟨rfl, alike⟩
  | cons operation rest inductionHypothesis =>
      have waiting : Alike
          { first with interpreter := first.interpreter.await (timing 0) }
          { second with interpreter := second.interpreter.await (timing' 0) } :=
        ⟨alike.interpreter.await _ _, alike.sessions⟩
      obtain ⟨sameReply, after⟩ := waiting.perform operation
      obtain ⟨sameReplies, later⟩ := inductionHypothesis after
        (fun number => timing (number + 1)) (fun number => timing' (number + 1))
      exact ⟨congrArg₂ List.cons sameReply sameReplies, later⟩

end Alike

/--
However large the caches are, however long their entries live and whatever times pass, a script
gives the same replies and leaves the same sessions, the same knowledge base and the same picks.
-/
theorem run_eq_of_caches
    (knowledge : KnowledgeBase)
    (settings : Settings)
    (caches caches' : CacheChoice)
    (picks : List Nat)
    (sessions : ι → Session)
    (timing timing' : Nat → Interpreter.Pauses)
    (script : List (Operation ι)) :
    let outcome :=
      run timing script (new knowledge (settings.withCaches caches) picks sessions)
    let outcome' :=
      run timing' script (new knowledge (settings.withCaches caches') picks sessions)
    outcome.1 = outcome'.1 ∧
      outcome.2.sessions = outcome'.2.sessions ∧
      outcome.2.interpreter.knowledge = outcome'.2.interpreter.knowledge ∧
      outcome.2.interpreter.picks = outcome'.2.interpreter.picks := by
  obtain ⟨sameReplies, after⟩ :=
    (alike_new knowledge settings caches caches' picks sessions).run timing timing' script
  exact ⟨sameReplies, after.sessions, after.interpreter.knowledge, after.interpreter.picks⟩

end Service

end Colloquy
