import Colloquy.Proofs.Conversation.Composition
import Colloquy.Proofs.Conversation.Passage
import Colloquy.Proofs.Utterance

namespace Colloquy

/-!
# Explaining what will be answered

An explanation is asked for what is said as a whole, while answering goes sentence
by sentence, after recording each. For what is said with a single sentence this
makes no difference: around the sentence nothing stands that is scanned, and a rule
is selected by the last answer and the topic, which recording does not change. So
the explanation names the rule that answers.
-/

/-- Selecting looks at the words of what is said only. -/
theorem Selector.explain_eq_of_scan
    (selector : Selector)
    (knowledge : KnowledgeBase)
    {input other : Text}
    (sameWords : Utterance.scan input = Utterance.scan other)
    (that topic : Text) :
    selector.explain knowledge ⟨input, that, topic⟩ =
      selector.explain knowledge ⟨other, that, topic⟩ := by
  simp only [Selector.explain, sameWords]

/-- A text with a single sentence has the words of the sentence. -/
theorem Utterance.scan_of_sentences_eq_singleton
    {text sentence : Text}
    (single : Text.sentences text = [sentence]) :
    scan text = scan sentence := by
  obtain ⟨before, after, rfl, silentBefore, silentAfter⟩ :=
    Text.exists_margins_of_sentences_eq_singleton single
  exact scan_margins silentBefore silentAfter sentence

namespace Interpreter

variable
  (interpreter : Interpreter)
  (session : Session)
  {utterance sentence : Text}

/-- A rule is selected as it is explained. -/
theorem select_eq_explain (input : Text) :
    interpreter.select session input =
      ((interpreter.explain session input).1.selected, (interpreter.explain session input).2) :=
  rfl

/-- What is explained for the whole is explained for its single sentence once it is recorded. -/
theorem explain_eq_explain_sentence
    (single : Text.sentences utterance = [sentence]) :
    interpreter.explain session utterance =
      interpreter.explain (session.pushRequest sentence) sentence := by
  have sameWords := Utterance.scan_of_sentences_eq_singleton single
  have sameExplanation := interpreter.selector.explain_eq_of_scan interpreter.knowledge sameWords
    session.lastResponse session.topic
  exact congrArg (fun explained => (explained.1, { interpreter with selector := explained.2 }))
    sameExplanation

/-- A single sentence is answered by the rule that is explained, if there is one. -/
theorem respond_of_single
    (single : Text.sentences utterance = [sentence]) :
    interpreter.respond session utterance =
      let answered := interpreter.answerSentence session sentence
      (replyTo utterance answered.1.toList, answered.2) := by
  rw [respond_of_spoken interpreter session (by simp [single]), single]
  simp only [answerSentences, List.append_nil]

/--
What is said with a single sentence has the words of the sentence. The rule that is
explained for it, with its bindings, is the one that is selected for the sentence
when it is answered. If there is none, there is no answer but that no rule matched;
if there is one, the answer is its template evaluated with its bindings.
-/
theorem explain_predictsResponse
    (single : Text.sentences utterance = [sentence]) :
    let explained := interpreter.explain session utterance
    let recorded := session.pushRequest sentence
    Utterance.scan utterance = Utterance.scan sentence ∧
      explained.1.selected = (interpreter.select recorded sentence).1 ∧
      (explained.1.selected = none ↔
        ∃ input, (interpreter.respond session utterance).1 = .error (.noMatch input)) ∧
      (explained.1.selected = none →
        interpreter.respond session utterance =
          (.error (.noMatch (Text.collapse utterance)), recorded, explained.2)) ∧
      ∀ selected, explained.1.selected = some selected →
        interpreter.respond session utterance =
          let evaluated :=
            explained.2.evaluateIn recorded selected.bindings selected.category.template
          (.ok evaluated.1, evaluated.2.1.pushResponse evaluated.1, evaluated.2.2) := by
  intro explained recorded
  have isExplained : explained = interpreter.explain recorded sentence :=
    explain_eq_explain_sentence interpreter session single
  have selects : interpreter.select recorded sentence = (explained.1.selected, explained.2) := by
    rw [isExplained, select_eq_explain]
  have unanswered (noRule : explained.1.selected = none) :
      interpreter.respond session utterance =
        (.error (.noMatch (Text.collapse utterance)), recorded, explained.2) := by
    rw [noRule] at selects
    rw [respond_of_single interpreter session single, answerSentence_of_none selects]
    rfl
  have answered (selected : Selected) (isRule : explained.1.selected = some selected) :
      interpreter.respond session utterance =
        let evaluated :=
          explained.2.evaluateIn recorded selected.bindings selected.category.template
        (.ok evaluated.1, evaluated.2.1.pushResponse evaluated.1, evaluated.2.2) := by
    rw [isRule] at selects
    rw [respond_of_single interpreter session single, answerSentence_of_some selects]
    exact congrArg (·, _) (replyTo_singleton utterance _)
  refine ⟨Utterance.scan_of_sentences_eq_singleton single, by rw [selects], ⟨?_, ?_⟩,
    unanswered, answered⟩
  · intro noRule
    exact ⟨_, congrArg Prod.fst (unanswered noRule)⟩
  · rintro ⟨input, noMatch⟩
    cases isSelected : explained.1.selected with
    | none =>
        rfl
    | some selected =>
        rw [answered selected isSelected] at noMatch
        contradiction

/-- An interpreter that greets by name. -/
def greeter : Interpreter :=
  .new
    (.ofCategories "greeter".toList .empty .empty
      [.plain "HELLO *".toList "Hi <star/>!".toList])
    {} []

/-- Terminators, blanks and brackets around the sentence are neither explained nor answered. -/
theorem explain_predictsResponse_greeting :
    Text.sentences "... hello Ada! (--)".toList = ["hello Ada!".toList] ∧
      (greeter.explain (.new []) "... hello Ada! (--)".toList).1.selected =
        (greeter.select ((Session.new []).pushRequest "hello Ada!".toList)
          "hello Ada!".toList).1 ∧
      (greeter.respond (.new []) "... hello Ada! (--)".toList).1 = .ok "Hi Ada!".toList := by
  have single : Text.sentences "... hello Ada! (--)".toList = ["hello Ada!".toList] := by
    decide +kernel
  exact ⟨single, (explain_predictsResponse greeter (.new []) single).2.1, by decide +kernel⟩

end Interpreter

end Colloquy
