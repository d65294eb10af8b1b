import Colloquy.Learning.Learner
import Colloquy.Scope
import Colloquy.Selection
import Colloquy.TemplateCache

namespace Colloquy

/-!
# Interpreters

An interpreter answers from a knowledge base. Any number of sessions share it;
what they share besides the rules are the caches and the source of random picks.
-/

/-- A knowledge base with its settings, caches and random picks. -/
structure Interpreter where
  settings : Settings
  knowledge : KnowledgeBase
  selector : Selector
  variableCache : VariableCache
  templates : TemplateCache
  picks : List Nat

namespace Interpreter

/-- An interpreter that has answered nothing yet, with the picks it is to make. -/
def new
    (knowledge : KnowledgeBase)
    (settings : Settings)
    (picks : List Nat) :
    Interpreter where
  settings := settings
  knowledge := knowledge
  selector := Selector.ofSettings settings
  variableCache := VariableCache.ofSettings settings.variableCache
  templates := TemplateCache.ofSettings settings.templateCache
  picks := picks

/-- A new session with histories as long as the settings allow. -/
def newSession
    (interpreter : Interpreter)
    (id : Text) :
    Session :=
  Session.withHistoryLimit id interpreter.settings.historyLimit

/-- Make the next pick, which is zero once the picks have run out. -/
def pick (interpreter : Interpreter) : Nat × Interpreter :=
  (interpreter.picks.headD 0, { interpreter with picks := interpreter.picks.tail })

/-- The context in which an input is answered: the last answer and the topic. -/
def contextOf
    (session : Session)
    (input : Text) :
    Context :=
  ⟨input, session.lastResponse, session.topic⟩

/-- Select the rule that answers an input in a session. -/
def select
    (interpreter : Interpreter)
    (session : Session)
    (input : Text) :
    Option Selected × Interpreter :=
  let (selected, selector) :=
    interpreter.selector.resolve interpreter.knowledge (contextOf session input)
  (selected, { interpreter with selector })

/-- Say how a rule would be selected for an input in a session. -/
def explain
    (interpreter : Interpreter)
    (session : Session)
    (input : Text) :
    Explanation × Interpreter :=
  let (explanation, selector) :=
    interpreter.selector.explain interpreter.knowledge (contextOf session input)
  (explanation, { interpreter with selector })

/-- Have a session learn a category under the given limits. -/
def learnWithin
    (interpreter : Interpreter)
    (limits : LearningLimits)
    (candidate : Category)
    (session : Session) :
    Except Admission.Refusal Unit × Session × Interpreter :=
  let (verdict, session, knowledge) := Colloquy.learn limits candidate session interpreter.knowledge
  (verdict, session, { interpreter with knowledge })

/-- Have a session learn a category. -/
def learn
    (interpreter : Interpreter)
    (candidate : Category)
    (session : Session) :
    Except Admission.Refusal Unit × Session × Interpreter :=
  interpreter.learnWithin interpreter.settings.learning candidate session

/-- Have a session unlearn what it learned and the candidate describes. -/
def unlearn
    (interpreter : Interpreter)
    (candidate : Category)
    (session : Session) :
    Nat × Session × Interpreter :=
  let (count, session, knowledge) := Colloquy.unlearn candidate session interpreter.knowledge
  (count, session, { interpreter with knowledge })

/-- Replace all rules, and drop what was remembered about the old ones. -/
def reload
    (interpreter : Interpreter)
    (categories : List Category) :
    Interpreter :=
  let knowledge := interpreter.knowledge.reload categories
  { interpreter with
    knowledge := knowledge
    selector := (interpreter.selector.invalidate knowledge.name).2
    variableCache := (interpreter.variableCache.invalidate knowledge.name).2
    templates := interpreter.templates.clear }

/-- Drop all that was remembered. -/
def clearCaches (interpreter : Interpreter) : Interpreter :=
  { interpreter with
    selector := interpreter.selector.clear
    variableCache := interpreter.variableCache.clear
    templates := interpreter.templates.clear }

end Interpreter

end Colloquy
