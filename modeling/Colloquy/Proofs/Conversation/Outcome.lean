import Colloquy.Proofs.Conversation.Composition
import Colloquy.Proofs.Conversation.Passage
import Colloquy.Proofs.Evaluation.Unchanged
import Colloquy.Proofs.Utterance

namespace Colloquy

/-!
# How answering ends

Answering ends in one of three ways. What is silent, without a letter or numeral, is
no input and changes nothing. If no sentence is matched by a rule, the sentences are
recorded and nothing else is changed but what the interpreter remembers. Otherwise
every sentence is recorded, and an answer for each sentence that a rule matched.
-/

/-! ## Histories -/

namespace Ordinal

variable {α : Type} {limit : Nat}

/-- Add entries one after the other, each time keeping at most the last `limit` entries. -/
def pushAllBounded
    (limit : Nat)
    (entries added : List α) :
    List α :=
  added.foldl (fun kept entry => pushBounded limit entry kept) entries

/-- Pushing entries one list after the other is pushing them all. -/
theorem pushAllBounded_append
    (entries first second : List α) :
    pushAllBounded limit entries (first ++ second) =
      pushAllBounded limit (pushAllBounded limit entries first) second :=
  List.foldl_append

/-- Where there is room for all entries, none is dropped. -/
theorem pushAllBounded_of_length_le
    {entries added : List α}
    (room : entries.length + added.length ≤ limit) :
    pushAllBounded limit entries added = entries ++ added := by
  induction added generalizing entries with
  | nil =>
      exact (List.append_nil entries).symm
  | cons entry rest inductionHypothesis =>
      rw [List.length_cons] at room
      have kept : pushBounded limit entry entries = entries ++ [entry] := by
        have nothingDropped : (entries ++ [entry]).length - limit = 0 := by
          simp only [List.length_append, List.length_singleton]
          omega
        simp only [pushBounded, nothingDropped, List.drop_zero]
      have stillRoom : (entries ++ [entry]).length + rest.length ≤ limit := by
        simp only [List.length_append, List.length_singleton]
        omega
      change pushAllBounded limit (pushBounded limit entry entries) rest = _
      rw [kept, inductionHypothesis stillRoom, List.append_assoc, List.singleton_append]

end Ordinal

namespace Session

/-- Between the two moments, this was said and answered in the session. -/
structure Recorded
    (before : Session)
    (said answered : List Text)
    (after : Session) :
    Prop where
  historyLimit : after.historyLimit = before.historyLimit
  requests : after.requests = Ordinal.pushAllBounded before.historyLimit before.requests said
  responses : after.responses = Ordinal.pushAllBounded before.historyLimit before.responses answered
  thats : after.thats = Ordinal.pushAllBounded thatLimit before.thats answered

namespace Recorded

variable {first second third : Session} {said answered : List Text}

/-- What is recorded first is followed by what is recorded later. -/
theorem trans
    (earlier : first.Recorded said answered second)
    {saidLater answeredLater : List Text}
    (later : second.Recorded saidLater answeredLater third) :
    first.Recorded (said ++ saidLater) (answered ++ answeredLater) third := by
  obtain ⟨sameLimit, requests, responses, thats⟩ := earlier
  obtain ⟨laterLimit, laterRequests, laterResponses, laterThats⟩ := later
  rw [sameLimit] at laterLimit laterRequests laterResponses
  rw [requests] at laterRequests
  rw [responses] at laterResponses
  rw [thats] at laterThats
  refine ⟨laterLimit, ?_, ?_, ?_⟩
  · rw [laterRequests, Ordinal.pushAllBounded_append]
  · rw [laterResponses, Ordinal.pushAllBounded_append]
  · rw [laterThats, Ordinal.pushAllBounded_append]

/-- What keeps the histories records nothing. -/
theorem of_sameHistories
    (same : first.SameHistories second) :
    first.Recorded [] [] second :=
  ⟨same.historyLimit, same.requests, same.responses, same.thats⟩

theorem pushRequest
    (session : Session)
    (request : Text) :
    session.Recorded [request] [] (session.pushRequest request) :=
  ⟨rfl, rfl, rfl, rfl⟩

theorem pushResponse
    (session : Session)
    (response : Text) :
    session.Recorded [] [response] (session.pushResponse response) :=
  ⟨rfl, rfl, rfl, rfl⟩

end Recorded

end Session

namespace Interpreter

/-! ## Sentences that a rule matches -/

/-- The sentences for which a rule is selected when their turn comes. -/
def matchedSentences
    (interpreter : Interpreter)
    (session : Session) :
    List Text →
    List Text
  | [] => []
  | sentence :: rest =>
      let selection := interpreter.select (session.pushRequest sentence) sentence
      let answered := interpreter.answerSentence session sentence
      (if selection.1.isSome then [sentence] else []) ++
        matchedSentences answered.2.2 answered.2.1 rest

variable
  (interpreter : Interpreter)
  (session : Session)

/-- Evaluating a template records nothing. -/
theorem evaluateIn_sameHistories
    (bindings : Bindings)
    (template : Text) :
    session.SameHistories (interpreter.evaluateIn session bindings template).2.1 :=
  (Evaluation.unrestricted_keeping.evaluateTemplate template
    ⟨interpreter, session, Frame.root bindings⟩).session

/-- A sentence is recorded, and its answer if it has one. -/
theorem answerSentence_recorded (sentence : Text) :
    let answered := interpreter.answerSentence session sentence
    session.Recorded [sentence] answered.1.toList answered.2.1 := by
  have said := Session.Recorded.pushRequest session sentence
  rcases selection : interpreter.select (session.pushRequest sentence) sentence with
    ⟨_ | selected, selecting⟩
  · rw [answerSentence_of_none selection]
    exact said
  · rw [answerSentence_of_some selection]
    have evaluated := Session.Recorded.of_sameHistories
      (selecting.evaluateIn_sameHistories (session.pushRequest sentence) selected.bindings
        selected.category.template)
    exact (said.trans evaluated).trans (.pushResponse _ _)

/-- A sentence has an answer exactly if a rule is selected for it. -/
theorem isSome_answerSentence (sentence : Text) :
    (interpreter.answerSentence session sentence).1.isSome =
      (interpreter.select (session.pushRequest sentence) sentence).1.isSome := by
  rcases selection : interpreter.select (session.pushRequest sentence) sentence with
    ⟨_ | selected, selecting⟩
  · rw [answerSentence_of_none selection]
    rfl
  · rw [answerSentence_of_some selection]
    rfl

/-- Sentences are recorded in order, and so are the answers of those that have one. -/
theorem answerSentences_recorded (sentences : List Text) :
    let answered := interpreter.answerSentences session sentences
    session.Recorded sentences answered.1 answered.2.1 := by
  induction sentences generalizing interpreter session with
  | nil =>
      exact .of_sameHistories (.refl session)
  | cons sentence rest inductionHypothesis =>
      exact (answerSentence_recorded interpreter session sentence).trans (inductionHypothesis _ _)

/-- There is an answer for each sentence that a rule matches. -/
theorem length_answerSentences (sentences : List Text) :
    (interpreter.answerSentences session sentences).1.length =
      (interpreter.matchedSentences session sentences).length := by
  induction sentences generalizing interpreter session with
  | nil =>
      rfl
  | cons sentence rest inductionHypothesis =>
      have later := inductionHypothesis (interpreter.answerSentence session sentence).2.2
        (interpreter.answerSentence session sentence).2.1
      have here := isSome_answerSentence interpreter session sentence
      simp only [answerSentences, matchedSentences, List.length_append, later, ← here]
      cases (interpreter.answerSentence session sentence).1 <;> rfl

/-! ## Sentences that no rule matches -/

/-- A sentence without an answer is recorded, and nothing is learned from it. -/
theorem answerSentence_of_unanswered
    {sentence : Text}
    (unanswered : (interpreter.answerSentence session sentence).1 = none) :
    (interpreter.answerSentence session sentence).2.1 = session.pushRequest sentence ∧
      (interpreter.answerSentence session sentence).2.2.knowledge = interpreter.knowledge := by
  rcases selection : interpreter.select (session.pushRequest sentence) sentence with
    ⟨_ | selected, selecting⟩
  · have sameKnowledge : selecting.knowledge = interpreter.knowledge :=
      (congrArg (·.2.knowledge) selection).symm
    rw [answerSentence_of_none selection]
    exact ⟨rfl, sameKnowledge⟩
  · rw [answerSentence_of_some selection] at unanswered
    contradiction

/-- Sentences without an answer are recorded, and the rules stay as they are. -/
theorem answerSentences_of_unanswered
    {sentences : List Text}
    (unanswered : (interpreter.answerSentences session sentences).1 = []) :
    (interpreter.answerSentences session sentences).2.1 =
        { session with
          requests := Ordinal.pushAllBounded session.historyLimit session.requests sentences } ∧
      (interpreter.answerSentences session sentences).2.2.knowledge = interpreter.knowledge := by
  induction sentences generalizing interpreter session with
  | nil =>
      exact ⟨rfl, rfl⟩
  | cons sentence rest inductionHypothesis =>
      simp only [answerSentences, List.append_eq_nil_iff, Option.toList_eq_nil_iff] at unanswered ⊢
      obtain ⟨here, later⟩ := unanswered
      obtain ⟨isRecorded, sameKnowledge⟩ :=
        answerSentence_of_unanswered interpreter session here
      obtain ⟨areRecorded, laterKnowledge⟩ := inductionHypothesis _ _ later
      rw [areRecorded, laterKnowledge, isRecorded, sameKnowledge]
      exact ⟨rfl, rfl⟩

/-! ## The three endings -/

/-- What is silent is no input, and nothing happens. -/
theorem respond_of_silent
    {utterance : Text}
    (silent : utterance.Silent) :
    interpreter.respond session utterance = (.error .emptyInput, session, interpreter) := by
  simp only [respond, (Text.sentences_eq_nil_iff utterance).mpr silent]

/-- Unless what is said is silent, its sentences are answered and make the reply. -/
theorem respond_of_not_silent
    {utterance : Text}
    (speaks : ¬ utterance.Silent) :
    interpreter.respond session utterance =
      let answered := interpreter.answerSentences session (Text.sentences utterance)
      (replyTo utterance answered.1, answered.2) :=
  respond_of_spoken interpreter session (speaks ∘ (Text.sentences_eq_nil_iff utterance).mp)

/-- Sentences are never taken for silence. -/
theorem replyTo_ne_emptyInput
    (utterance : Text)
    (answers : List Text) :
    replyTo utterance answers ≠ .error .emptyInput := by
  cases answers <;> simp [replyTo]

/-- Sentences that no rule matched have no answers. -/
theorem eq_nil_of_replyTo_eq_noMatch
    {utterance input : Text}
    {answers : List Text}
    (noMatch : replyTo utterance answers = .error (.noMatch input)) :
    answers = [] := by
  cases answers with
  | nil =>
      rfl
  | cons answer rest =>
      contradiction

/-- What is said is no input exactly if it is silent. -/
theorem respond_eq_emptyInput_iff (utterance : Text) :
    (interpreter.respond session utterance).1 = .error .emptyInput ↔ utterance.Silent := by
  constructor
  · intro noInput
    by_contra speaks
    rw [respond_of_not_silent interpreter session speaks] at noInput
    exact replyTo_ne_emptyInput _ _ noInput
  · intro silent
    rw [respond_of_silent interpreter session silent]

/--
What is said is no input exactly if it has no letter and no numeral, which is to say
no words, and then neither the session nor the interpreter changes. If no rule
matches, the rules stay as they are, and to the session its sentences are added as
requests in order and nothing else. If there is an answer, at least one sentence was
matched by a rule, and as many answers are added to the histories.
-/
theorem respond_endings (utterance : Text) :
    let outcome := interpreter.respond session utterance
    let sentences := Text.sentences utterance
    (outcome.1 = .error .emptyInput ↔ ∀ c ∈ utterance, Text.isAlphanumeric c = false) ∧
      (outcome.1 = .error .emptyInput ↔ (Utterance.scan utterance).words = []) ∧
      (outcome.1 = .error .emptyInput → outcome.2 = (session, interpreter)) ∧
      (∀ input, outcome.1 = .error (.noMatch input) →
        outcome.2.2.knowledge = interpreter.knowledge ∧
          outcome.2.1 =
            { session with
              requests :=
                Ordinal.pushAllBounded session.historyLimit session.requests sentences }) ∧
      ∀ text, outcome.1 = .ok text →
        ∃ answers,
          answers.length = (interpreter.matchedSentences session sentences).length ∧
            1 ≤ answers.length ∧
            text = Text.unwords (answers.filter (!·.isEmpty)) ∧
            session.Recorded sentences answers outcome.2.1 ∧
            (session.responses.length + answers.length ≤ session.historyLimit →
              outcome.2.1.responses = session.responses ++ answers) := by
  intro outcome sentences
  have silence : outcome.1 = .error .emptyInput ↔ utterance.Silent :=
    respond_eq_emptyInput_iff interpreter session utterance
  refine ⟨silence, silence.trans (Utterance.words_scan_eq_nil_iff utterance).symm, ?_, ?_, ?_⟩
  · intro noInput
    exact congrArg Prod.snd (respond_of_silent interpreter session (silence.mp noInput))
  · intro input noMatch
    have speaks : ¬ utterance.Silent := by
      intro silent
      rw [silence.mpr silent] at noMatch
      simp at noMatch
    have isOutcome : outcome = _ := respond_of_not_silent interpreter session speaks
    rw [isOutcome] at noMatch ⊢
    exact (answerSentences_of_unanswered interpreter session
      (eq_nil_of_replyTo_eq_noMatch noMatch)).symm
  · intro text isText
    have speaks : ¬ utterance.Silent := by
      intro silent
      rw [silence.mpr silent] at isText
      simp at isText
    have isOutcome : outcome = _ := respond_of_not_silent interpreter session speaks
    rw [isOutcome] at isText ⊢
    obtain ⟨answered, isUnwords⟩ := replyTo_eq_ok_iff.mp isText
    have recorded := answerSentences_recorded interpreter session sentences
    refine ⟨_, length_answerSentences interpreter session sentences,
      List.length_pos_iff.mpr answered, isUnwords, recorded, ?_⟩
    intro room
    exact recorded.responses.trans (Ordinal.pushAllBounded_of_length_le room)

/-- Silence changes nothing, unmatched sentences are recorded, and two of three are answered. -/
theorem respond_endings_asker :
    (asker.respond (.new []) "?! --".toList).2 = (.new [], asker) ∧
      (asker.respond (.new []) "Hm! Well?".toList).2.1.requests =
        ["Hm!".toList, "Well?".toList] ∧
      ∃ answers,
        answers.length = 2 ∧
          (asker.respond (.new []) "Hi. Hm! Yes.".toList).2.1.responses = answers := by
  refine ⟨?_, ?_, ?_⟩
  · exact (respond_endings asker (.new []) _).2.2.1 (by decide +kernel)
  · obtain ⟨_, _, _, unmatched, _⟩ := respond_endings asker (.new []) "Hm! Well?".toList
    rw [(unmatched "Hm! Well?".toList (by decide +kernel)).2]
    decide +kernel
  · obtain ⟨two, isText⟩ :
        (asker.matchedSentences (.new []) (Text.sentences "Hi. Hm! Yes.".toList)).length = 2 ∧
          (asker.respond (.new []) "Hi. Hm! Yes.".toList).1 = .ok "Cats? Good.".toList :=
      ⟨by decide +kernel, by decide +kernel⟩
    obtain ⟨_, _, _, _, matched⟩ := respond_endings asker (.new []) "Hi. Hm! Yes.".toList
    obtain ⟨answers, sameLength, _, _, _, withRoom⟩ := matched _ isText
    rw [two] at sameLength
    refine ⟨answers, sameLength, ?_⟩
    rw [withRoom (by rw [sameLength]; decide)]
    rfl

end Interpreter

end Colloquy
