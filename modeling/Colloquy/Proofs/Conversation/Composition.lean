import Colloquy.Conversation
import Colloquy.Proofs.Text.Sentences

namespace Colloquy.Interpreter

/-!
# Saying sentences one by one

What is said with several sentences may as well be said sentence by sentence. The
same rules are selected and evaluated in the same order, so the session and all
of the interpreter end up the same, whatever the rules learn or remember on the
way, and the answers together make the answer to the whole.
-/

/-- Answer texts one after the other, each as something said by itself. -/
def respondEach
    (interpreter : Interpreter)
    (session : Session) :
    List Text →
    List (Except NoAnswer Text) × Session × Interpreter
  | [] => ([], session, interpreter)
  | text :: rest =>
      let (reply, session, interpreter) := interpreter.respond session text
      let (replies, session, interpreter) := respondEach interpreter session rest
      (reply :: replies, session, interpreter)

/-- The reply to something said, made of the answers to its sentences. -/
def replyTo
    (utterance : Text)
    (answers : List Text) :
    Except NoAnswer Text :=
  if answers.isEmpty then
    .error (.noMatch (Text.collapse utterance))
  else
    .ok (Text.unwords (answers.filter (!·.isEmpty)))

/-- What is said with sentences is answered sentence by sentence. -/
theorem respond_of_spoken
    (interpreter : Interpreter)
    (session : Session)
    {utterance : Text}
    (spoken : Text.sentences utterance ≠ []) :
    interpreter.respond session utterance =
      let outcome := interpreter.answerSentences session (Text.sentences utterance)
      (replyTo utterance outcome.1, outcome.2) := by
  unfold respond replyTo
  split
  · next silent =>
      exact absurd silent spoken
  · dsimp only
    split <;> rfl

/-- There is an answer as soon as one sentence has one. -/
theorem replyTo_eq_ok_iff
    {utterance : Text}
    {answers : List Text}
    {text : Text} :
    replyTo utterance answers = .ok text ↔
      answers ≠ [] ∧ text = Text.unwords (answers.filter (!·.isEmpty)) := by
  cases answers with
  | nil =>
      simp [replyTo]
  | cons answer rest =>
      constructor
      · intro isOk
        exact ⟨List.cons_ne_nil _ _, (Except.ok.inj isOk).symm⟩
      · rintro ⟨_, rfl⟩
        rfl

/-- A single answer is the reply, also if it is empty. -/
theorem replyTo_singleton (utterance answer : Text) : replyTo utterance [answer] = .ok answer := by
  cases answer <;> simp [replyTo, Text.unwords]

/-- A single answer is a reply by itself. -/
theorem toOption_replyTo
    (sentence : Text)
    (answer : Option Text) :
    (replyTo sentence answer.toList).toOption = answer := by
  cases answer with
  | none =>
      rfl
  | some text =>
      rw [Option.toList_some, replyTo_singleton]
      rfl

/-- Some reply gives a text exactly if a text is left when the others are dropped. -/
theorem filterMap_toOption_ne_nil_iff (replies : List (Except NoAnswer Text)) :
    replies.filterMap Except.toOption ≠ [] ↔ ∃ reply ∈ replies, ∃ text, reply = .ok text := by
  constructor
  · intro answers
    obtain ⟨text, member⟩ := List.exists_mem_of_ne_nil _ answers
    obtain ⟨reply, isReply, isText⟩ := List.mem_filterMap.mp member
    cases reply with
    | error reason =>
        simp [Except.toOption] at isText
    | ok answer =>
        exact ⟨_, isReply, answer, rfl⟩
  · rintro ⟨_, isReply, text, rfl⟩
    exact List.ne_nil_of_mem (List.mem_filterMap.mpr ⟨_, isReply, rfl⟩)

/-- Sentences said one by one are answered like the sentences of one text. -/
theorem answerSentences_eq_respondEach
    (interpreter : Interpreter)
    (session : Session)
    {sentences : List Text}
    (single : ∀ sentence ∈ sentences, Text.sentences sentence = [sentence]) :
    interpreter.answerSentences session sentences =
      let outcome := interpreter.respondEach session sentences
      (outcome.1.filterMap Except.toOption, outcome.2) := by
  induction sentences generalizing interpreter session with
  | nil =>
      rfl
  | cons sentence rest inductionHypothesis =>
      obtain ⟨isSingle, restSingle⟩ := List.forall_mem_cons.mp single
      have spoken : Text.sentences sentence ≠ [] := by simp [isSingle]
      simp only [answerSentences, respondEach, respond_of_spoken _ _ spoken, isSingle,
        inductionHypothesis _ _ restSingle, List.append_nil]
      rw [List.filterMap_cons, toOption_replyTo]
      cases (interpreter.answerSentence session sentence).1 <;> rfl

/--
Something said with at least one sentence leaves the same session and the same
interpreter, its rules, caches and picks included, as its sentences said one by
one. It has an answer exactly if one of them has, and then the answer is made of
theirs that are not empty, in order.
-/
theorem respond_eq_respondEach
    (interpreter : Interpreter)
    (session : Session)
    (utterance : Text)
    (spoken : Text.sentences utterance ≠ []) :
    let whole := interpreter.respond session utterance
    let each := interpreter.respondEach session (Text.sentences utterance)
    whole.2 = each.2 ∧
      ((∃ text, whole.1 = .ok text) ↔ ∃ reply ∈ each.1, ∃ text, reply = .ok text) ∧
      ∀ text, whole.1 = .ok text →
        text = Text.unwords ((each.1.filterMap Except.toOption).filter (!·.isEmpty)) := by
  intro whole each
  have answered : interpreter.answerSentences session (Text.sentences utterance) =
      (each.1.filterMap Except.toOption, each.2) :=
    answerSentences_eq_respondEach interpreter session fun _ => Text.sentences_of_mem_sentences
  have isWhole : whole = (replyTo utterance (each.1.filterMap Except.toOption), each.2) := by
    have isAnswered := respond_of_spoken interpreter session spoken
    rwa [answered] at isAnswered
  rw [isWhole]
  simp only [replyTo_eq_ok_iff, ← filterMap_toOption_ne_nil_iff]
  refine ⟨trivial, ⟨?_, ?_⟩, ?_⟩
  · rintro ⟨_, answers, _⟩
    exact answers
  · intro answers
    exact ⟨_, answers, rfl⟩
  · rintro _ ⟨_, isText⟩
    exact isText

/-- An interpreter that asks back and understands the answer to its question. -/
def asker : Interpreter :=
  .new
    (.ofCategories "asker".toList .empty .empty
      [.plain "HI".toList "Cats?".toList,
        (Category.plain "YES".toList "Good.".toList).withThat "CATS".toList])
    {} []

/-- The third sentence answers the question asked for the first, and the second is passed by. -/
theorem respond_eq_respondEach_asker :
    (asker.respond (.new []) "Hi. Hm! Yes.".toList).1 = .ok "Cats? Good.".toList ∧
      (asker.respond (.new []) "Hi. Hm! Yes.".toList).2 =
        (asker.respondEach (.new []) ["Hi.".toList, "Hm!".toList, "Yes.".toList]).2 := by
  have cut : Text.sentences "Hi. Hm! Yes.".toList =
      ["Hi.".toList, "Hm!".toList, "Yes.".toList] := by
    decide +kernel
  have spoken : Text.sentences "Hi. Hm! Yes.".toList ≠ [] := by
    rw [cut]
    exact List.cons_ne_nil _ _
  have same := (respond_eq_respondEach asker (.new []) _ spoken).1
  rw [cut] at same
  exact ⟨by decide +kernel, same⟩

end Colloquy.Interpreter
