import Colloquy.Proofs.Evaluation.Correspondence
import Colloquy.Proofs.Pattern.Cut
import Colloquy.Proofs.Utterance

namespace Colloquy

/-!
# What was captured is heard again

A wildcard takes words, but a template gets them as a text, and that text is scanned
once more if the template has it answered. Nothing is lost or added on the way, since
the words of an utterance are bare already. The rules therefore answer a capture as
they answer the very words that the wildcard took.
-/

/-! ## Spans that were captured -/

namespace Pattern

/-- The span lies within the words, and the token may take what stands there. -/
structure Token.TakesSpan
    (token : Token)
    (words : List Text)
    (span : Nat × Nat) :
    Prop where
  ordered : span.1 ≤ span.2
  within : span.2 ≤ words.length
  takes : token.Takes (words.extract span.1 span.2)

/-- What a token takes is a span of the words. -/
theorem Token.Takes.takesSpan
    {token : Token}
    {piece : List Text}
    (takes : token.Takes piece)
    (before after : List Text) :
    token.TakesSpan (before ++ (piece ++ after))
      (before.length, before.length + piece.length) where
  ordered := Nat.le_add_right _ _
  within := by simp
  takes := by simpa [List.extract] using takes

/-- The tokens that capture take the spans that are captured, one each and in order. -/
theorem IsCut.takeSpans
    {tokens : List Token}
    {words : List Text}
    {pieces : List (List Text)}
    (cut : IsCut tokens words pieces)
    (before : List Text) :
    List.Forall₂ (fun token span => token.TakesSpan (before ++ words) span)
      (tokens.filter Token.captures) (capturedSpans before.length tokens pieces) := by
  obtain ⟨taken, rfl⟩ := cut
  induction taken generalizing before with
  | nil =>
      exact .nil
  | @cons token piece _ pieces takes _ inductionHypothesis =>
      have here := takes.takesSpan before pieces.flatten
      have later := inductionHypothesis (before ++ piece)
      rw [List.length_append, List.append_assoc] at later
      cases token with
      | literal word =>
          exact later
      | wildcard kind =>
          exact .cons here later
      | group options =>
          exact .cons here later

/-- A capture of a match is a span that a token of the pattern took. -/
theorem exists_takesSpan_of_match?
    {pattern : Pattern}
    {utterance : Utterance}
    {found : Match}
    (matched : pattern.match? utterance = some found)
    {number : Nat}
    {span : Nat × Nat}
    (isCapture : Ordinal.nth? found.captures number = some span) :
    ∃ token,
      Ordinal.nth? (pattern.tokens.filter Token.captures) number = some token ∧
        token.TakesSpan utterance.upper span := by
  rw [match?_eq_firstCut] at matched
  obtain ⟨segments, first, rfl⟩ := Option.map_eq_some_iff.mp matched
  obtain ⟨pieces, cut, captures, -⟩ := isCut_of_firstCut first
  have spans := cut.takeSpans []
  cases number with
  | zero =>
      simp [Ordinal.nth?] at isCapture
  | succ index =>
      simp only [Ordinal.nth?, captures] at isCapture ⊢
      obtain ⟨within, rfl⟩ := List.getElem?_eq_some_iff.mp isCapture
      have within' : index < (pattern.tokens.filter Token.captures).length := by
        rwa [spans.length_eq]
      exact ⟨_, List.getElem?_eq_getElem within', spans.get within' within⟩

end Pattern

/-! ## Answers to words -/

/-- Select the rule that answers the words that are heard in a session. -/
def Interpreter.selectHeard
    (interpreter : Interpreter)
    (session : Session)
    (heard : Utterance) :
    Option Selected × Interpreter :=
  let knowledge := interpreter.knowledge
  let scene : Selector.Scene :=
    ⟨heard, ContextForms.ofThat session.lastResponse, ContextForms.ofTopic session.topic⟩
  let tally := (knowledge.rules.activate heard).rules.foldl
    (Selector.consider knowledge.name scene) ⟨interpreter.selector, 0, []⟩
  ((bestCandidate? tally.candidates).map fun best => ⟨best.rule.category, best.bindings⟩,
    { interpreter with selector := tally.selector })

/-- All that selection sees of an input is what is scanned from it. -/
theorem Interpreter.select_eq_selectHeard
    (interpreter : Interpreter)
    (session : Session)
    (input : Text) :
    interpreter.select session input =
      interpreter.selectHeard session (Utterance.scan input) :=
  rfl

namespace Evaluation

open Markup

/-- Select the rule that answers the words that are heard. -/
def selectHeard (heard : Utterance) : Evaluation (Option Selected) :=
  fun turn =>
    let (selected, interpreter) := turn.interpreter.selectHeard turn.session heard
    (selected, { turn with interpreter })

/-- Have words answered by the rules, evaluating the template of the one selected. -/
def answerHeard
    (evaluate : List Node → Evaluation Text)
    (heard : Utterance) :
    Evaluation Text :=
  if heard.isEmpty then
    return []
  else do
    match ← selectHeard heard with
    | none => return []
    | some selected =>
        inChildFrame selected.bindings (templateBy evaluate selected.category.template)

/-- A span of what was said is answered as the words of the span. -/
theorem answerBy_span
    (evaluate : List Node → Evaluation Text)
    (text : Text)
    (start stop : Nat) :
    answerBy evaluate ((Utterance.scan text).span start stop) =
      answerHeard evaluate ⟨(Utterance.scan text).words.extract start stop⟩ := by
  have collapsed : Text.collapse ((Utterance.scan text).span start stop) =
      (Utterance.scan text).span start stop := by
    rw [Text.collapse, Utterance.words_span, Utterance.span_eq_unwords]
  have sameEmpty : ((Utterance.scan text).span start stop).isEmpty =
      ((Utterance.scan text).words.extract start stop).isEmpty := by
    rw [← Utterance.words_span, Bool.eq_iff_iff, List.isEmpty_iff, List.isEmpty_iff]
    constructor
    · intro empty
      rw [empty]
      rfl
    · intro noWords
      rw [← collapsed, Text.collapse, noWords]
      rfl
  rw [answerBy, answerHeard, collapsed, sameEmpty, Utterance.isEmpty]
  refine if_congr Iff.rfl rfl ?_
  have sameSelection : select ((Utterance.scan text).span start stop) =
      selectHeard ⟨(Utterance.scan text).words.extract start stop⟩ := by
    funext turn
    rw [select, Interpreter.select_eq_selectHeard, Utterance.scan_span, selectHeard]
  exact congrArg (· >>= _) sameSelection

/-! ## Elements that have a capture answered -/

/-- An element that stands for a capture. -/
def starNode
    (attributes : List Attribute)
    (selfClosing : Bool) :
    Node :=
  .element "star".toList attributes [] selfClosing

/-- The number of the capture that a star asks for. -/
def starNumber (attributes : List Attribute) : Nat :=
  let index := (attributes.find? (·.1 == "index".toList)).map (Text.trim ·.2)
  (index.bind toCount?).getD 1

variable
  (answer : Text → Evaluation Text)

/-- A single element has the value that performing it gives. -/
theorem evaluateNodes_singleton
    (name : Text)
    (attributes : List Attribute)
    (children : List Node)
    (selfClosing : Bool) :
    evaluateNodes answer [.element name attributes children selfClosing] =
      perform (fun part => evaluateNodes answer part.val) answer
        ⟨⟨name, attributes, children, selfClosing⟩, Nat.le_refl _⟩ := by
  simp only [evaluateNodes_element, evaluateNodes_nil, pure_bind, List.append_nil, bind_pure]

/-- The short form has the first capture answered. -/
theorem evaluateNodes_sr
    (attributes : List Attribute)
    (children : List Node)
    (selfClosing : Bool)
    (turn : Turn) :
    evaluateNodes answer [.element "sr".toList attributes children selfClosing] turn =
      answer (Bindings.numbered turn.frame.bindings.star 1) turn := by
  rw [evaluateNodes_singleton]
  rfl

/-- A star has the value of the capture with its number. -/
theorem evaluateNodes_star
    {attributes : List Attribute}
    (plain : ∀ entry ∈ attributes.find? (·.1 == "index".toList), holdsMarkup entry.2 = false)
    (selfClosing : Bool)
    (turn : Turn) :
    evaluateNodes answer [starNode attributes selfClosing] turn =
      (Bindings.numbered turn.frame.bindings.star (starNumber attributes), turn) := by
  rw [starNode, evaluateNodes_singleton]
  let star : Piece (Element.weight ⟨"star".toList, attributes, [], selfClosing⟩) :=
    ⟨⟨"star".toList, attributes, [], selfClosing⟩, Nat.le_refl _⟩
  have isIndex : index (fun part => evaluateNodes answer part.val) star =
      pure (starNumber attributes) := by
    rw [index]
    cases found : attributes.find? (·.1 == "index".toList) with
    | none =>
        have absent : star.val.attributeValue? "index".toList = none :=
          congrArg (Option.map Prod.snd) found
        rw [attribute?_of_none _ absent rfl, starNumber, found]
        rfl
    | some entry =>
        have present : star.val.attributeValue? "index".toList = some entry.2 :=
          congrArg (Option.map Prod.snd) found
        rw [attribute?_of_value _ present, plain entry found, starNumber, found]
        rfl
  change captured (fun part => evaluateNodes answer part.val) star Bindings.star turn = _
  rw [captured, isIndex]
  rfl

/-- An element that asks for an answer has its content answered. -/
theorem evaluateNodes_srai
    (attributes : List Attribute)
    (children : List Node)
    (selfClosing : Bool)
    (turn : Turn) :
    evaluateNodes answer [.element "srai".toList attributes children selfClosing] turn =
      answer (evaluateNodes answer children turn).1 (evaluateNodes answer children turn).2 := by
  -- No child of this element stands for an attribute, so that all are its content.
  have content : children.filter (fun node => !standsForAttribute [] node) = children := by
    refine List.filter_eq_self.mpr ?_
    intro node _
    cases node <;> rfl
  rw [evaluateNodes_singleton]
  change (evaluateNodes answer (children.filter fun node => !standsForAttribute [] node) >>=
    answer) turn = _
  rw [content]
  rfl

/-- The node has the capture with the number answered. -/
inductive AnswersStar : Nat → Node → Prop where
  | srai
      {number : Nat}
      {attributes starAttributes : List Attribute}
      {selfClosing starSelfClosing : Bool}
      (plain : ∀ entry ∈ starAttributes.find? (·.1 == "index".toList),
        holdsMarkup entry.2 = false)
      (numbered : starNumber starAttributes = number) :
      AnswersStar number
        (.element "srai".toList attributes [starNode starAttributes starSelfClosing] selfClosing)
  | sr
      {attributes : List Attribute}
      {children : List Node}
      {selfClosing : Bool} :
      AnswersStar 1 (.element "sr".toList attributes children selfClosing)

/-- An element that has a capture answered has the value of the answer. -/
theorem AnswersStar.evaluateNodes
    {number : Nat}
    {node : Node}
    (answers : AnswersStar number node)
    (turn : Turn) :
    evaluateNodes answer [node] turn =
      answer (Bindings.numbered turn.frame.bindings.star number) turn := by
  cases answers with
  | srai plain numbered =>
      rw [evaluateNodes_srai, evaluateNodes_star answer plain, numbered]
  | sr =>
      exact evaluateNodes_sr answer _ _ _ turn

/--
What was captured is heard again as it was taken. A capture is a span of words that a
token of the pattern took, its text is scanned as the words of the span, as they were
said and in uppercase, and a template that has the capture answered has exactly these
words answered.
-/
theorem captured_isHeardAsTaken
    (source text : Text)
    {found : Pattern.Match}
    (matched : (Pattern.compile source).match? (Utterance.scan text) = some found)
    {number start stop : Nat}
    (isCapture : Ordinal.nth? found.captures number = some (start, stop)) :
    (∃ token,
        Ordinal.nth? ((Pattern.compile source).tokens.filter Pattern.Token.captures) number =
            some token ∧
          token.TakesSpan (Utterance.scan text).upper (start, stop)) ∧
      (∃ captured,
        Ordinal.nth? (found.captured (Utterance.scan text)) number = some captured ∧
          (Utterance.scan captured).words = (Utterance.scan text).words.extract start stop ∧
          (Utterance.scan captured).upper = (Utterance.scan text).upper.extract start stop) ∧
      ∀ evaluate turn,
        turn.frame.bindings.star = found.captured (Utterance.scan text) →
          ∀ node, AnswersStar number node →
            evaluateNodes (answerBy evaluate) [node] turn =
              answerHeard evaluate ⟨(Utterance.scan text).words.extract start stop⟩ turn := by
  have isCaptured : Ordinal.nth? (found.captured (Utterance.scan text)) number =
      some ((Utterance.scan text).span start stop) := by
    cases number with
    | zero =>
        simp [Ordinal.nth?] at isCapture
    | succ index =>
        rw [Ordinal.nth?] at isCapture
        rw [Ordinal.nth?, Pattern.Match.captured, List.getElem?_map, isCapture]
        rfl
  refine ⟨Pattern.exists_takesSpan_of_match? matched isCapture, ⟨_, isCaptured, ?_, ?_⟩, ?_⟩
  · rw [Utterance.scan_span]
  · rw [Utterance.scan_span, Utterance.upper, Utterance.upper, List.extract, List.extract,
      List.map_take, List.map_drop]
  · intro evaluate turn isStar node answers
    rw [answers.evaluateNodes, isStar, Bindings.numbered, isCaptured, Option.getD_some,
      answerBy_span]

/-- A curly apostrophe and the punctuation around words are gone before they are captured. -/
theorem captured_isHeardAsTaken_apostrophe :
    ∃ found,
      (Pattern.compile "MY * IS *".toList).match?
          (Utterance.scan "“My” friend’s name, is (Ada)!".toList) = some found ∧
        Ordinal.nth? found.captures 1 = some (1, 3) ∧
        (∃ captured,
          Ordinal.nth? (found.captured (Utterance.scan "“My” friend’s name, is (Ada)!".toList)) 1 =
              some captured ∧
            (Utterance.scan captured).words = ["friend's".toList, "name".toList] ∧
            (Utterance.scan captured).upper = ["FRIEND'S".toList, "NAME".toList]) ∧
        ∀ evaluate turn,
          turn.frame.bindings.star =
              found.captured (Utterance.scan "“My” friend’s name, is (Ada)!".toList) →
            evaluateNodes (answerBy evaluate)
                [.element "srai".toList [] [starNode [("index".toList, " 1 ".toList)] true] false]
                turn =
              answerHeard evaluate ⟨["friend's".toList, "name".toList]⟩ turn := by
  have words : (Utterance.scan "“My” friend’s name, is (Ada)!".toList).words.extract 1 3 =
      ["friend's".toList, "name".toList] := by
    decide +kernel
  have upper : (Utterance.scan "“My” friend’s name, is (Ada)!".toList).upper.extract 1 3 =
      ["FRIEND'S".toList, "NAME".toList] := by
    decide +kernel
  have matched : (Pattern.compile "MY * IS *".toList).match?
      (Utterance.scan "“My” friend’s name, is (Ada)!".toList) =
        some ⟨[(1, 3), (4, 5)], [5, 1, 1, 5, 1], 2⟩ := by
    decide +kernel
  have isCapture : Ordinal.nth? [(1, 3), (4, 5)] 1 = some (1, 3) := rfl
  obtain ⟨-, again, answered⟩ := captured_isHeardAsTaken _ _ matched isCapture
  rw [words, upper] at again
  rw [words] at answered
  exact ⟨_, matched, isCapture, again, fun evaluate turn isStar =>
    answered evaluate turn isStar _ (.srai (by decide) (by decide))⟩

end Evaluation

end Colloquy
