import Colloquy.Conversation

namespace Colloquy.Interpreter

/-!
# What answering passes through

Answering what is said is a chain of few kinds of steps: a sentence is recorded, a
rule is selected, its template is evaluated, and the answer is recorded. A relation
between a session with its interpreter before and after that contains these steps,
and chains of them, contains whole answers.
-/

section Sentence

variable
  {interpreter selecting : Interpreter}
  {session : Session}
  {sentence : Text}

/-- A sentence for which no rule is selected is recorded, and nothing else. -/
theorem answerSentence_of_none
    (selection : interpreter.select (session.pushRequest sentence) sentence = (none, selecting)) :
    interpreter.answerSentence session sentence =
      (none, session.pushRequest sentence, selecting) := by
  simp only [answerSentence, selection]

/-- A sentence for which a rule is selected is recorded, and then what its template gives. -/
theorem answerSentence_of_some
    {selected : Selected}
    (selection : interpreter.select (session.pushRequest sentence) sentence =
      (some selected, selecting)) :
    interpreter.answerSentence session sentence =
      let evaluated := selecting.evaluateIn (session.pushRequest sentence) selected.bindings
        selected.category.template
      (some evaluated.1, evaluated.2.1.pushResponse evaluated.1, evaluated.2.2) := by
  simp only [answerSentence, selection]

end Sentence

/-- A relation that contains the steps of which answers are made. -/
structure Passage where
  relates : Session × Interpreter → Session × Interpreter → Prop
  refl : ∀ state, relates state state
  trans : ∀ {first second third : Session × Interpreter},
    relates first second →
    relates second third →
    relates first third
  request : ∀ session interpreter sentence,
    relates (session, interpreter) (session.pushRequest sentence, interpreter)
  response : ∀ session interpreter answer,
    relates (session, interpreter) (session.pushResponse answer, interpreter)
  select : ∀ session interpreter input,
    relates (session, interpreter) (session, (interpreter.select session input).2)
  evaluate : ∀ {session : Session} {interpreter selecting : Interpreter} {input : Text}
      {selected : Selected},
    interpreter.select session input = (some selected, selecting) →
    relates (session, selecting)
      (selecting.evaluateIn session selected.bindings selected.category.template).2

namespace Passage

variable (passage : Passage)

theorem answerSentence
    (interpreter : Interpreter)
    (session : Session)
    (sentence : Text) :
    passage.relates (session, interpreter) (interpreter.answerSentence session sentence).2 := by
  have recorded := passage.request session interpreter sentence
  have selecting := passage.select (session.pushRequest sentence) interpreter sentence
  rcases selection : interpreter.select (session.pushRequest sentence) sentence with
    ⟨_ | selected, after⟩
  · rw [selection] at selecting
    rw [answerSentence_of_none selection]
    exact passage.trans recorded selecting
  · rw [selection] at selecting
    have evaluated := passage.evaluate selection
    rw [answerSentence_of_some selection]
    exact passage.trans (passage.trans recorded selecting)
      (passage.trans evaluated (passage.response _ _ _))

/-- A passage that every step keeps is kept by answering sentences. -/
theorem answerSentences
    (interpreter : Interpreter)
    (session : Session)
    (sentences : List Text) :
    passage.relates (session, interpreter)
      (interpreter.answerSentences session sentences).2 := by
  induction sentences generalizing session interpreter with
  | nil =>
      exact passage.refl _
  | cons sentence rest inductionHypothesis =>
      exact passage.trans (passage.answerSentence interpreter session sentence)
        (inductionHypothesis _ _)

/-- Answering what is said is contained in the relation. -/
theorem respond
    (interpreter : Interpreter)
    (session : Session)
    (utterance : Text) :
    passage.relates (session, interpreter) (interpreter.respond session utterance).2 := by
  have answering := passage.answerSentences interpreter session (Text.sentences utterance)
  unfold Interpreter.respond
  split
  · exact passage.refl _
  · dsimp only
    split <;> exact answering

end Passage

end Colloquy.Interpreter
