import Colloquy.Proofs.Learning.Provenance
import Mathlib.Data.List.Induction

namespace Colloquy

/-!
# What sessions are taught

Whatever happens to a service, a session changes only if it asks for something or is
cleared, and what it asks for changes its log, its statistics and the knowledge base
by lessons only. So there is an account, event by event, of the categories that a
session was taught since it was made or last cleared.
-/

/-- The category that is taught by a lesson, if it is one that may be learned. -/
def Lesson.taught?
    (limits : LearningLimits) :
    Lesson →
    Option Category
  | .learn candidate =>
      match Admission.validate candidate limits with
      | .ok _ => some candidate
      | .error _ => none
  | .unlearn _ => none

/-- What a session asks for a lesson. -/
def Lesson.request
    {ι : Type}
    (who : ι) :
    Lesson →
    Operation ι
  | .learn candidate => .learn who candidate
  | .unlearn candidate => .unlearn who candidate

/-- The event brings or takes away rules in another way than by learning. -/
def Event.replacesRules {ι : Type} : Event ι → Bool
  | .ask (.reload _) => true
  | .edit _ => true
  | _ => false

namespace Service

variable {ι : Type}

/-- The session for which something is done: a lasting one, or one for a single template. -/
def sessionOf (service : Service ι) : Option ι → Session
  | some who => service.sessions who
  | none => service.interpreter.newSession Interpreter.passingSessionName

variable [DecidableEq ι]

/-- Lessons were given to the session of the asker, and no other session changed. -/
structure Teaches
    (asker : Option ι)
    (lessons : List Lesson)
    (session : Session)
    (before after : Service ι) :
    Prop where
  gives :
    Gives lessons (before.sessionOf asker, before.interpreter) (session, after.interpreter)
  sessions : ∀ who,
    after.sessions who = if asker = some who then session else before.sessions who

namespace Teaches

variable
  {asker : Option ι}
  {before after : Service ι}

/-- Where no session changes, lessons went to one that does not last. -/
theorem passing
    {lessons : List Lesson}
    {session : Session}
    (gives : Gives lessons (before.sessionOf none, before.interpreter) (session, after.interpreter))
    (same : after.sessions = before.sessions) :
    Teaches none lessons session before after := by
  refine ⟨gives, ?_⟩
  intro who
  rw [if_neg (by simp), same]

/-- Where nothing changes, no lesson is given. -/
theorem nothing
    (settings : after.interpreter.settings = before.interpreter.settings)
    (knowledge : after.interpreter.knowledge = before.interpreter.knowledge)
    (same : after.sessions = before.sessions) :
    Teaches asker [] (before.sessionOf asker) before after := by
  refine ⟨⟨settings, congrArg (Ledger.mk _ _) knowledge⟩, ?_⟩
  intro who
  rw [same]
  split
  · next isAsker =>
      rw [isAsker]
      rfl
  · rfl

/-- An outcome that gives lessons teaches them to the session it is settled for. -/
theorem settle
    {α : Type}
    (who : ι)
    (reply : α → Reply)
    {lessons : List Lesson}
    {outcome : α × Session × Interpreter}
    (gives : Gives lessons (before.sessions who, before.interpreter) outcome.2) :
    Teaches (some who) lessons outcome.2.1 before (before.settle who reply outcome).2 := by
  refine ⟨gives, ?_⟩
  intro other
  simp only [Service.settle, Function.update_apply, Option.some.injEq, eq_comm]

end Teaches

/-- What is asked gives lessons to the session that asks, unless the rules are reloaded. -/
theorem teaches_perform
    (service : Service ι)
    {operation : Operation ι}
    (noReload : (Event.ask operation).replacesRules = false) :
    ∃ lessons session,
      Teaches operation.asker? lessons session service (service.perform operation).2 := by
  cases operation with
  | respond who utterance =>
      obtain ⟨lessons, gives⟩ :=
        Interpreter.teaching.respond service.interpreter (service.sessions who) utterance
      exact ⟨lessons, _, .settle who _ gives⟩
  | evaluate who bindings template =>
      obtain ⟨lessons, gives⟩ :=
        service.interpreter.gives_evaluateIn (service.sessions who) bindings template
      exact ⟨lessons, _, .settle who _ gives⟩
  | evaluateAlone bindings template =>
      obtain ⟨lessons, gives⟩ :=
        service.interpreter.gives_evaluateIn (service.sessionOf none) bindings template
      exact ⟨lessons, _, .passing gives rfl⟩
  | explain who utterance =>
      exact ⟨[], _, .nothing rfl rfl rfl⟩
  | learn who candidate =>
      exact ⟨[.learn candidate], _, .settle who _ ⟨rfl, rfl⟩⟩
  | unlearn who candidate =>
      exact ⟨[.unlearn candidate], _, .settle who _ ⟨rfl, rfl⟩⟩
  | reload categories =>
      cases noReload
  | clearCaches =>
      exact ⟨[], _, .nothing rfl rfl rfl⟩

/--
Three things may happen: lessons are given, a session is cleared, or the rules are
replaced, which no session asks for and which changes none.
-/
theorem happen_cases
    (service : Service ι)
    (event : Event ι) :
    (∃ lessons session,
      Teaches event.asker? lessons session service (service.happen event)) ∨
      (∃ who, event = .clear who) ∨
      event.replacesRules = true ∧
        event.asker? = none ∧
        (service.happen event).interpreter.settings = service.interpreter.settings ∧
        (service.happen event).sessions = service.sessions := by
  cases event with
  | ask operation =>
      by_cases noReload : (Event.ask operation).replacesRules = false
      · exact Or.inl (service.teaches_perform noReload)
      · refine Or.inr (Or.inr ⟨eq_true_of_ne_false noReload, ?_⟩)
        cases operation with
        | reload categories =>
            exact ⟨rfl, rfl, rfl⟩
        | respond | evaluate | evaluateAlone | explain | learn | unlearn | clearCaches =>
            exact absurd rfl noReload
  | edit edit =>
      exact Or.inr (Or.inr ⟨rfl, rfl, rfl, rfl⟩)
  | clear who =>
      exact Or.inr (Or.inl ⟨who, rfl⟩)
  | wait pauses =>
      exact Or.inl ⟨[], _, .nothing rfl rfl rfl⟩

theorem settings_happen
    (service : Service ι)
    (event : Event ι) :
    (service.happen event).interpreter.settings = service.interpreter.settings := by
  rcases service.happen_cases event with ⟨_, _, teaches⟩ | ⟨who, rfl⟩ | ⟨_, _, same, _⟩
  · exact teaches.gives.settings
  · rfl
  · exact same

/-- Settings stay as they are, whatever happens. -/
theorem settings_after
    (service : Service ι)
    (history : List (Event ι)) :
    (service.after history).interpreter.settings = service.interpreter.settings := by
  induction history generalizing service with
  | nil =>
      rfl
  | cons event rest inductionHypothesis =>
      exact (inductionHypothesis _).trans (service.settings_happen event)

theorem after_concat
    (service : Service ι)
    (history : List (Event ι))
    (event : Event ι) :
    service.after (history ++ [event]) = (service.after history).happen event :=
  List.foldl_concat ..

/-- A session changes only if it asks or is cleared. -/
theorem sessions_happen_of_passed
    (service : Service ι)
    {event : Event ι}
    {who : ι}
    (notAsked : event.asker? ≠ some who)
    (notCleared : event ≠ .clear who) :
    (service.happen event).sessions who = service.sessions who := by
  rcases service.happen_cases event with ⟨_, _, teaches⟩ | ⟨other, rfl⟩ | ⟨_, _, _, same⟩
  · rw [teaches.sessions who, if_neg notAsked]
  · apply Function.update_of_ne
    rintro rfl
    exact notCleared rfl
  · rw [same]

/-! ## What a session was taught -/

/-- The session was taught the categories, in their order, since it was made or last cleared. -/
inductive Taught
    (start : Service ι)
    (who : ι) :
    List (Event ι) →
    List Category →
    Prop where
  | nothing :
      Taught start who [] []
  | asked
      {history : List (Event ι)}
      {event : Event ι}
      {taught : List Category}
      {lessons : List Lesson} :
      Taught start who history taught →
      event.asker? = some who →
      Gives lessons
        ((start.after history).sessions who, (start.after history).interpreter)
        (((start.after history).happen event).sessions who,
          ((start.after history).happen event).interpreter) →
      Taught start who (history ++ [event])
        (taught ++ lessons.filterMap (Lesson.taught? start.interpreter.settings.learning))
  | cleared
      {history : List (Event ι)}
      {taught : List Category} :
      Taught start who history taught →
      Taught start who (history ++ [.clear who]) []
  | passed
      {history : List (Event ι)}
      {event : Event ι}
      {taught : List Category} :
      Taught start who history taught →
      event.asker? ≠ some who →
      event ≠ .clear who →
      Taught start who (history ++ [event]) taught

/-- Whatever happens, there is an account of what a session was taught. -/
theorem exists_taught
    (start : Service ι)
    (who : ι)
    (history : List (Event ι)) :
    ∃ taught, Taught start who history taught := by
  induction history using List.reverseRecOn with
  | nil =>
      exact ⟨[], .nothing⟩
  | append_singleton history event inductionHypothesis =>
      obtain ⟨taught, soFar⟩ := inductionHypothesis
      by_cases isAsked : event.asker? = some who
      · rcases (start.after history).happen_cases event with
          ⟨lessons, session, teaches⟩ | ⟨other, rfl⟩ | ⟨_, notAsked, _⟩
        · have isSession := teaches.sessions who
          have gives := teaches.gives
          rw [if_pos isAsked] at isSession
          rw [isAsked, ← isSession] at gives
          exact ⟨_, soFar.asked isAsked gives⟩
        · cases isAsked
        · rw [notAsked] at isAsked
          cases isAsked
      · by_cases isCleared : event = .clear who
        · subst isCleared
          exact ⟨[], soFar.cleared⟩
        · exact ⟨taught, soFar.passed isAsked isCleared⟩

/-- A session that asks for lessons is taught what it may learn of them. -/
theorem Taught.requests
    {start : Service ι}
    {who : ι}
    {history : List (Event ι)}
    {taught : List Category}
    (soFar : Taught start who history taught)
    (lessons : List Lesson) :
    Taught start who (history ++ lessons.map fun lesson => .ask (lesson.request who))
      (taught ++ lessons.filterMap (Lesson.taught? start.interpreter.settings.learning)) := by
  induction lessons using List.reverseRecOn with
  | nil =>
      simpa using soFar
  | append_singleton earlier lesson inductionHypothesis =>
      rw [List.map_append, List.filterMap_append, ← List.append_assoc, ← List.append_assoc]
      refine inductionHypothesis.asked ?_ ?_
      · cases lesson <;> rfl
      · cases lesson with
        | learn candidate =>
            simp only [Lesson.request, happen, perform, settle, Function.update_self]
            exact ⟨rfl, rfl⟩
        | unlearn candidate =>
            simp only [Lesson.request, happen, perform, settle, Function.update_self]
            exact ⟨rfl, rfl⟩

end Service

end Colloquy
