import Colloquy.Evaluation.Template

namespace Colloquy

/-!
# Conversations

What is said is answered sentence by sentence. Every sentence is recorded before
it is answered; an answer is recorded for every sentence that a rule was selected
for. The answers that are not empty are joined.
-/

/-- Why there is no answer. -/
inductive NoAnswer where
  | emptyInput
  | noMatch (input : Text)
  deriving DecidableEq, Repr

/-- The reason in words. -/
def NoAnswer.message : NoAnswer → Text
  | .emptyInput => "input is empty".toList
  | .noMatch input => "no rule matched input '".toList ++ input ++ ['\'']

namespace Interpreter

/-- Evaluate a template for a session. -/
def evaluateIn
    (interpreter : Interpreter)
    (session : Session)
    (bindings : Bindings)
    (template : Text) :
    Text × Session × Interpreter :=
  let (text, turn) :=
    Evaluation.evaluateTemplate template ⟨interpreter, session, Frame.root bindings⟩
  (text, turn.session, turn.interpreter)

/-- The name of a session that lasts for one template only. -/
def passingSessionName : Text :=
  "template".toList

/-- Evaluate a template for no session in particular. -/
def evaluateAlone
    (interpreter : Interpreter)
    (bindings : Bindings)
    (template : Text) :
    Text × Interpreter :=
  let (text, _, interpreter) :=
    interpreter.evaluateIn (interpreter.newSession passingSessionName) bindings template
  (text, interpreter)

/-- Answer one sentence, or find that no rule does. -/
def answerSentence
    (interpreter : Interpreter)
    (session : Session)
    (sentence : Text) :
    Option Text × Session × Interpreter :=
  let session := session.pushRequest sentence
  match interpreter.select session sentence with
  | (none, interpreter) => (none, session, interpreter)
  | (some selected, interpreter) =>
      let (answer, session, interpreter) :=
        interpreter.evaluateIn session selected.bindings selected.category.template
      (some answer, session.pushResponse answer, interpreter)

/-- Answer sentences one after the other, giving the answers of those that have one. -/
def answerSentences
    (interpreter : Interpreter)
    (session : Session) :
    List Text →
    List Text × Session × Interpreter
  | [] => ([], session, interpreter)
  | sentence :: rest =>
      let (answer, session, interpreter) := interpreter.answerSentence session sentence
      let (answers, session, interpreter) := answerSentences interpreter session rest
      (answer.toList ++ answers, session, interpreter)

/-- Answer what is said in a session. -/
def respond
    (interpreter : Interpreter)
    (session : Session)
    (utterance : Text) :
    Except NoAnswer Text × Session × Interpreter :=
  match Text.sentences utterance with
  | [] => (.error .emptyInput, session, interpreter)
  | sentences =>
      let (answers, session, interpreter) := interpreter.answerSentences session sentences
      if answers.isEmpty then
        (.error (.noMatch (Text.collapse utterance)), session, interpreter)
      else
        (.ok (Text.unwords (answers.filter (!·.isEmpty))), session, interpreter)

end Interpreter

end Colloquy
