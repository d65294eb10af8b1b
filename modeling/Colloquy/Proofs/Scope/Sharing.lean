import Colloquy.Proofs.Scope
import Mathlib.Logic.Function.Basic

namespace Colloquy

/-!
# One cache for many evaluations

Evaluations for any number of sessions and over any number of knowledge bases share
one cache of variables. Nothing is dropped from it when a variable, the topic or a
local name is written, when an evaluation calls for another one, or when another
knowledge base takes the place of one. Still the cache answers with what the scopes
say at the moment: the value in the innermost scope that has the name.
-/

/-- An evaluation at work: its frame, and the numbers of the session and knowledge base it sees. -/
structure Vantage where
  frame : Frame
  session : Nat
  knowledge : Nat

/-- Numbered evaluations, sessions and knowledge bases, and the cache that all of them share. -/
structure Commons where
  cache : VariableCache
  vantages : Nat → Vantage
  sessions : Nat → Session
  knowledgeBases : Nat → KnowledgeBase

/-- What may happen where a cache is shared. -/
inductive Happening where
  | resolve (evaluation : Nat) (name : Text)
  | assign (evaluation : Nat) (name value : Text)
  | setTopic (evaluation : Nat) (topic : Text)
  | setLocal (evaluation : Nat) (name value : Text)
  | removeLocal (evaluation : Nat) (name : Text)
  | start (evaluation session knowledge : Nat) (bindings : Bindings)
  | call (evaluation caller : Nat) (bindings : Bindings)
  | clearSession (session : Nat)
  | rebuild (knowledge : Nat) (replacement : KnowledgeBase)
  | invalidate (tag : Text)
  | clear
  | await (pauses : List Nat)

namespace Commons

/-- Nothing is remembered. -/
def new
    (settings : CacheSettings)
    (vantages : Nat → Vantage)
    (sessions : Nat → Session)
    (knowledgeBases : Nat → KnowledgeBase) :
    Commons where
  cache := VariableCache.ofSettings settings
  vantages := vantages
  sessions := sessions
  knowledgeBases := knowledgeBases

/-! ## What an evaluation sees -/

/-- The session that an evaluation sees. -/
def sessionOf
    (commons : Commons)
    (evaluation : Nat) :
    Session :=
  commons.sessions (commons.vantages evaluation).session

/-- The knowledge base that an evaluation sees. -/
def knowledgeOf
    (commons : Commons)
    (evaluation : Nat) :
    KnowledgeBase :=
  commons.knowledgeBases (commons.vantages evaluation).knowledge

/-- The scopes that an evaluation sees, the innermost first. -/
def scopes
    (commons : Commons)
    (evaluation : Nat) :
    List (Table Text) :=
  [(commons.vantages evaluation).frame.locals, (commons.sessionOf evaluation).assigned,
    (commons.knowledgeOf evaluation).globals, (commons.knowledgeOf evaluation).properties]

/-- The value of a name for an evaluation, by a walk through the scopes. -/
def walk
    (commons : Commons)
    (evaluation : Nat)
    (name : Text) :
    Text :=
  resolveVariable (commons.vantages evaluation).frame (commons.sessionOf evaluation)
    (commons.knowledgeOf evaluation) name

/-- The value of a name for an evaluation, by way of the cache. -/
def ask
    (commons : Commons)
    (evaluation : Nat)
    (name : Text) :
    Text × Commons :=
  let (value, cache) := commons.cache.resolve (commons.vantages evaluation).frame
    (commons.sessionOf evaluation) (commons.knowledgeOf evaluation) name
  (value, { commons with cache })

/-! ## What happens -/

/-- Change the session that an evaluation sees. -/
def changeSession
    (commons : Commons)
    (evaluation : Nat)
    (change : Session → Session) :
    Commons :=
  { commons with
    sessions := Function.update commons.sessions (commons.vantages evaluation).session
      (change (commons.sessionOf evaluation)) }

/-- Change the locals of an evaluation. -/
def changeLocals
    (commons : Commons)
    (evaluation : Nat)
    (change : Table Text → Table Text) :
    Commons :=
  let vantage := commons.vantages evaluation
  { commons with
    vantages := Function.update commons.vantages evaluation
      { vantage with frame.locals := change vantage.frame.locals } }

/-- What becomes of it when something happens. -/
def after
    (commons : Commons) :
    Happening →
    Commons
  | .resolve evaluation name => (commons.ask evaluation name).2
  | .assign evaluation name value => commons.changeSession evaluation (·.setVariable name value)
  | .setTopic evaluation topic => commons.changeSession evaluation (·.setTopic topic)
  | .setLocal evaluation name value => commons.changeLocals evaluation (·.insert name value)
  | .removeLocal evaluation name => commons.changeLocals evaluation (·.erase name)
  | .start evaluation session knowledge bindings =>
      { commons with
        vantages := Function.update commons.vantages evaluation
          ⟨Frame.root bindings, session, knowledge⟩ }
  | .call evaluation caller bindings =>
      let vantage := commons.vantages caller
      { commons with
        vantages := Function.update commons.vantages evaluation
          { vantage with frame := vantage.frame.child bindings } }
  | .clearSession session =>
      { commons with
        sessions := Function.update commons.sessions session (commons.sessions session).clear }
  | .rebuild knowledge replacement =>
      { commons with
        knowledgeBases := Function.update commons.knowledgeBases knowledge replacement }
  | .invalidate tag => { commons with cache := (Cache.invalidate commons.cache tag).2 }
  | .clear => { commons with cache := Cache.clear commons.cache }
  | .await pauses => { commons with cache := Cache.await commons.cache pauses }

/-- What becomes of it when one thing happens after the other. -/
def afterAll
    (commons : Commons)
    (happenings : List Happening) :
    Commons :=
  happenings.foldl after commons

/-! ## The cache is right at all times -/

/-- Everything remembered is the value that its name has in the scopes of its fingerprint. -/
def Remembers (commons : Commons) : Prop :=
  Cache.Agrees commons.cache VariableCache.valueFor

namespace Remembers

variable {commons : Commons}

theorem after
    (remembers : commons.Remembers)
    (happening : Happening) :
    (commons.after happening).Remembers := by
  cases happening with
  | resolve evaluation name =>
      exact VariableCache.agrees_resolve remembers _ _ _ name
  | invalidate tag =>
      exact Cache.Agrees.invalidate remembers tag
  | clear =>
      exact Cache.agrees_clear _ _
  -- All other things leave the cache as it is.
  | assign | setTopic | setLocal | removeLocal | start | call | clearSession | rebuild | await =>
      exact remembers

/-- What is remembered is right, whatever happened. -/
theorem afterAll
    (remembers : commons.Remembers)
    (happenings : List Happening) :
    (commons.afterAll happenings).Remembers := by
  induction happenings generalizing commons with
  | nil =>
      exact remembers
  | cons happening rest inductionHypothesis =>
      exact inductionHypothesis (remembers.after happening)

end Remembers

/-- The walk ends at the innermost scope that has the name. -/
theorem walk_eq_findSome?
    (commons : Commons)
    (evaluation : Nat)
    (name : Text) :
    commons.walk evaluation name =
      ((commons.scopes evaluation).findSome? (·.find? name)).getD [] := by
  simp only [walk, resolveVariable, scopes, Session.valueOf?, List.findSome?_cons,
    List.findSome?_nil]
  cases (commons.vantages evaluation).frame.locals.find? name with
  | some value =>
      rfl
  | none =>
      cases (commons.sessionOf evaluation).assigned.find? name with
      | some value =>
          rfl
      | none =>
          cases (commons.knowledgeOf evaluation).globals.find? name with
          | some value =>
              rfl
          | none =>
              cases (commons.knowledgeOf evaluation).properties.find? name <;> rfl

/--
Whatever the cache is like and whatever has happened where it is shared, it answers
every evaluation with what a walk through the scopes gives: the value in the innermost
scope that has the name, and nothing if none has it.
-/
theorem ask_afterAll_eq_walk
    (settings : CacheSettings)
    (vantages : Nat → Vantage)
    (sessions : Nat → Session)
    (knowledgeBases : Nat → KnowledgeBase)
    (happenings : List Happening)
    (evaluation : Nat)
    (name : Text) :
    let commons := (new settings vantages sessions knowledgeBases).afterAll happenings
    (commons.ask evaluation name).1 = commons.walk evaluation name ∧
      (commons.ask evaluation name).1 =
        ((commons.scopes evaluation).findSome? (·.find? name)).getD [] := by
  intro commons
  have nothing : (new settings vantages sessions knowledgeBases).Remembers :=
    Cache.agrees_ofSettings _ settings _
  have remembers : commons.Remembers := nothing.afterAll happenings
  have isWalk : (commons.ask evaluation name).1 = commons.walk evaluation name :=
    VariableCache.resolve_value remembers _ _ _ name
  exact ⟨isWalk, isWalk.trans (commons.walk_eq_findSome? evaluation name)⟩

end Commons

end Colloquy
