import Colloquy.Interpreter

namespace Colloquy

/-!
# What an evaluation works on

Evaluating a template reads and changes the session it runs for, the interpreter
that runs it, and a frame of its own. A `Turn` is all three at one moment, and an
`Evaluation` is a step from one turn to the next that gives a value.
-/

/-- An interpreter and a session at work, with the frame of the current evaluation. -/
structure Turn where
  interpreter : Interpreter
  session : Session
  frame : Frame

/-- A step that may change the turn and gives a value. -/
abbrev Evaluation := StateM Turn

namespace Evaluation

/-- The text of a template as a tree. -/
def fetch (text : Text) : Evaluation { nodes : List Markup.Node // nodes = Markup.parse text } :=
  fun turn =>
    (⟨(turn.interpreter.templates.fetch text).1, turn.interpreter.templates.fetch_nodes text⟩,
      { turn with interpreter.templates := (turn.interpreter.templates.fetch text).2 })

/-- The value of a name in the scopes in sight. -/
def resolve (name : Text) : Evaluation Text :=
  fun turn =>
    let (value, variableCache) := turn.interpreter.variableCache.resolve turn.frame turn.session
      turn.interpreter.knowledge name
    (value, { turn with interpreter.variableCache := variableCache })

/-- The value of a local name, empty if it has none. -/
def localValue (name : Text) : Evaluation Text :=
  fun turn => ((turn.frame.locals.find? name).getD [], turn)

/-- Give a local name its value. -/
def setLocal
    (name value : Text) :
    Evaluation Unit :=
  fun turn => ((), { turn with frame.locals := turn.frame.locals.insert name value })

/-- A property of the knowledge base, empty if it has none of the name. -/
def property (name : Text) : Evaluation Text :=
  fun turn => ((turn.interpreter.knowledge.properties.find? name).getD [], turn)

/-- Read something off the bindings. -/
def bound (read : Bindings → α) : Evaluation α :=
  fun turn => (read turn.frame.bindings, turn)

/-- Read something off the session. -/
def recalled (read : Session → α) : Evaluation α :=
  fun turn => (read turn.session, turn)

/-- Change the session. -/
def modifySession (change : Session → Session) : Evaluation Unit :=
  fun turn => ((), { turn with session := change turn.session })

/-- Make a random pick among the given number of choices. -/
def pick (count : Nat) : Evaluation Nat :=
  fun turn =>
    let (number, interpreter) := turn.interpreter.pick
    (min number (count - 1), { turn with interpreter })

/-- Select the rule that answers an input. -/
def select (input : Text) : Evaluation (Option Selected) :=
  fun turn =>
    let (selected, interpreter) := turn.interpreter.select turn.session input
    (selected, { turn with interpreter })

/-- Learn a category if it may be learned. -/
def learn (candidate : Category) : Evaluation Unit :=
  fun turn =>
    let (_, session, interpreter) := turn.interpreter.learn candidate turn.session
    ((), { turn with session, interpreter })

/-- Unlearn what the session learned and the candidate describes. -/
def unlearn (candidate : Category) : Evaluation Unit :=
  fun turn =>
    let (_, session, interpreter) := turn.interpreter.unlearn candidate turn.session
    ((), { turn with session, interpreter })

/-- Evaluate one call deeper, with other bindings and no locals. -/
def inChildFrame
    (bindings : Bindings)
    (inner : Evaluation α) :
    Evaluation α :=
  fun turn =>
    let (value, after) := inner { turn with frame := turn.frame.child bindings }
    (value, { after with frame := turn.frame })

end Evaluation

end Colloquy
