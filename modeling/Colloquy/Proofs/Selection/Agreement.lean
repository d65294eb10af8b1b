import Colloquy.Cache.Agreement
import Colloquy.Proofs.Utterance
import Colloquy.Selection

namespace Colloquy

/-!
# Selecting without memory

What a selector remembers never shows in its answers. Its caches agree with the
reading and the matching of patterns, so every selection is the one that matches
each activated rule anew. Verdicts are remembered under the words in uppercase,
which are all that matching looks at.
-/

/-- Match a pattern against words in uppercase. -/
def Pattern.matchWords?
    (pattern : Pattern)
    (words : List Text) :
    Option Pattern.Match :=
  (search pattern.tokens 0 words []).1.map fun segments =>
    ⟨capturesOf segments, weightsOf segments, pattern.wildcardCount⟩

/-- Matching looks at the words in uppercase only. -/
theorem Pattern.match?_eq_matchWords?
    (pattern : Pattern)
    (utterance : Utterance) :
    pattern.match? utterance = pattern.matchWords? utterance.upper :=
  rfl

/-! ## Candidates -/

/-- Match a pattern against a text. -/
def matchText? (pattern text : Text) : Option Matched :=
  ((Pattern.compile pattern).match? (Utterance.scan text)).map (⟨·, Utterance.scan text⟩)

/-- Match a pattern against the answer before, or else against its last sentence. -/
def matchThat? (that pattern : Text) : Option Matched :=
  (matchText? pattern that).or ((Text.sentences that).getLast?.bind (matchText? pattern))

/-- Meet a constraint that a rule may lack. -/
def meet?
    (matching : Text → Option Matched) :
    Option Text →
    Option (Option Matched)
  | none => some none
  | some pattern => (matching pattern).map some

/-- The last sentence of an answer, if it differs from the answer in its words. -/
def differingLast? (that : Text) : Option Text :=
  (Text.sentences that).getLast?.filter fun sentence =>
    (Utterance.scan sentence).upper ≠ (Utterance.scan that).upper

/-- The second form of the answer before is its last sentence if that differs. -/
theorem ofThat_eq (that : Text) :
    ContextForms.ofThat that =
      ⟨Utterance.scan that, (differingLast? that).map Utterance.scan⟩ := by
  simp only [ContextForms.ofThat, differingLast?]
  congr 1
  cases last : (Text.sentences that).getLast? with
  | none =>
      rfl
  | some sentence =>
      have spoken := Utterance.isEmpty_scan_of_mem_sentences (List.mem_of_getLast? last)
      simp [Option.filter, spoken, apply_ite (Option.map Utterance.scan)]

/-- A last sentence that does not differ in its words changes no match. -/
theorem matchThat?_eq_or_differingLast (that pattern : Text) :
    matchThat? that pattern =
      (matchText? pattern that).or ((differingLast? that).bind (matchText? pattern)) := by
  simp only [matchThat?, differingLast?]
  cases last : (Text.sentences that).getLast? with
  | none =>
      rfl
  | some sentence =>
      by_cases same : (Utterance.scan sentence).upper = (Utterance.scan that).upper
      · simp only [Option.filter, same]
        cases whole : matchText? pattern that with
        | some matched =>
            rfl
        -- The sentence has the words of the whole answer, which did not match.
        | none =>
            simp only [matchText?, Option.map_eq_none_iff, Pattern.match?_eq_matchWords?] at whole
            simp [matchText?, Pattern.match?_eq_matchWords?, same, whole]
      · simp [Option.filter, same]

/-- The candidate that a rule is in a context, if all its patterns match. -/
def candidate?
    (context : Context)
    (rule : Rule) :
    Option Candidate := do
  let input ← matchText? rule.category.pattern context.input
  let that ← meet? (matchThat? context.that) rule.category.that
  let topic ← meet? (matchText? · context.topic) rule.category.topic
  pure ⟨rule, input, that, topic⟩

theorem rule_of_candidate?
    {context : Context}
    {rule : Rule}
    {candidate : Candidate}
    (found : candidate? context rule = some candidate) :
    candidate.rule = rule := by
  simp only [candidate?, Option.bind_eq_bind, Option.bind_eq_some_iff, Option.pure_def,
    Option.some.injEq] at found
  obtain ⟨input, _, that, _, topic, _, rfl⟩ := found
  rfl

/-- A candidate's pattern matches the input. -/
theorem match?_of_candidate?
    {context : Context}
    {rule : Rule}
    {candidate : Candidate}
    (found : candidate? context rule = some candidate) :
    ((Pattern.compile rule.category.pattern).match? (Utterance.scan context.input)).isSome := by
  simp only [candidate?, Option.bind_eq_bind, Option.bind_eq_some_iff] at found
  obtain ⟨input, matched, _⟩ := found
  obtain ⟨found, isMatch, _⟩ := Option.map_eq_some_iff.mp matched
  exact Option.isSome_of_eq_some isMatch

/-- What a selection finds when it matches every activated rule anew. -/
def explanation
    (knowledge : KnowledgeBase)
    (context : Context) :
    Explanation :=
  let input := Utterance.scan context.input
  let activation := knowledge.rules.activate input
  let candidates := activation.rules.filterMap (candidate? context)
  { input := input.key
    selected := (bestCandidate? candidates).map fun best => ⟨best.rule.category, best.bindings⟩
    ranked := rankedCandidates candidates
    rulesTotal := knowledge.size
    rulesReached := activation.reached
    rulesGated := activation.gated
    patternMatches := activation.rules.countP fun rule =>
      (matchText? rule.category.pattern context.input).isSome
    eligible := candidates.length }

namespace Selector

/-! ## Agreement -/

/-- The verdict that belongs to a pattern and the key of an utterance. -/
def verdictOf (key : Text × Text) : Option Pattern.Match :=
  (Pattern.compile key.1).matchWords? (Text.words key.2)

/-- The verdict that belongs to the key of an utterance is the match of the utterance. -/
theorem verdictOf_key
    (pattern : Text)
    {utterance : Utterance}
    (areWords : ∀ word ∈ utterance.words, Text.IsWord word) :
    verdictOf (pattern, utterance.key) = (Pattern.compile pattern).match? utterance := by
  rw [verdictOf, Utterance.words_key areWords, Pattern.match?_eq_matchWords?]

/-- All that a selector remembers is right. -/
structure Agrees (selector : Selector) : Prop where
  patterns : selector.patterns.Agrees Pattern.compile
  verdicts : selector.verdicts.Agrees verdictOf

/-- An operation gives the value and leaves a selector that agrees. -/
structure Gives
    {α : Type}
    (outcome : α × Selector)
    (value : α) :
    Prop where
  value : outcome.1 = value
  agrees : outcome.2.Agrees

/-- A new selector has nothing to be wrong about. -/
theorem agrees_ofSettings (settings : Settings) : (ofSettings settings).Agrees :=
  ⟨Cache.agrees_ofSettings _ _ _, Cache.agrees_ofSettings _ _ _⟩

namespace Agrees

variable {selector : Selector}

theorem compile
    (agrees : selector.Agrees)
    (tag source : Text) :
    Gives (selector.compile tag source) (Pattern.compile source) :=
  ⟨agrees.patterns.lookupOrInsert_value source (some tag),
    agrees.patterns.lookupOrInsert source (some tag), agrees.verdicts⟩

/-- A verdict on an utterance is its match. -/
theorem verdict
    (agrees : selector.Agrees)
    (tag pattern : Text)
    {utterance : Utterance}
    (areWords : ∀ word ∈ utterance.words, Text.IsWord word) :
    Gives (selector.verdict tag pattern utterance)
      ((Pattern.compile pattern).match? utterance) := by
  have kept := agrees.verdicts.lookup (pattern, utterance.key)
  simp only [Selector.verdict]
  split
  · next found verdicts step =>
      rw [step] at kept
      refine ⟨?_, agrees.patterns, kept⟩
      -- The key gives the words in uppercase back, so the verdict is on this utterance.
      have remembered := agrees.verdicts.lookup_value (by rw [step])
      rw [remembered, verdictOf_key pattern areWords]
  · next verdicts step =>
      rw [step] at kept
      have moved : Agrees { selector with verdicts } := ⟨agrees.patterns, kept⟩
      have read := moved.compile tag pattern
      refine ⟨by rw [read.value], read.agrees.patterns, ?_⟩
      rw [read.value, ← verdictOf_key pattern areWords]
      exact read.agrees.verdicts.insert _ _

/-- A verdict on a text is the match of what is heard of it. -/
theorem verdict_scan
    (agrees : selector.Agrees)
    (tag pattern text : Text) :
    Gives (selector.verdict tag pattern (Utterance.scan text))
      ((Pattern.compile pattern).match? (Utterance.scan text)) :=
  agrees.verdict tag pattern fun _ => Utterance.isWord_of_mem_words_scan

/-- Matching a constraint tries its whole text first and then its last sentence. -/
theorem matchForms
    (agrees : selector.Agrees)
    (tag pattern whole : Text)
    (last : Option Text) :
    Gives
      (selector.matchForms tag pattern ⟨Utterance.scan whole, last.map Utterance.scan⟩)
      ((matchText? pattern whole).or (last.bind (matchText? pattern))) := by
  have first := agrees.verdict_scan tag pattern whole
  simp only [Selector.matchForms]
  split
  · next found after step =>
      rw [step] at first
      exact ⟨by simp [matchText?, ← first.value], first.agrees⟩
  · next after step =>
      rw [step] at first
      cases last with
      | none =>
          exact ⟨by simp [matchText?, ← first.value], first.agrees⟩
      | some sentence =>
          have second := first.agrees.verdict_scan tag pattern sentence
          refine ⟨?_, second.agrees⟩
          simp [matchText?, ← first.value, second.value]

/-- The answer before is matched as a whole, or else by its last sentence. -/
theorem matchForms_ofThat
    (agrees : selector.Agrees)
    (tag pattern that : Text) :
    Gives (selector.matchForms tag pattern (ContextForms.ofThat that))
      (matchThat? that pattern) := by
  rw [ofThat_eq, matchThat?_eq_or_differingLast]
  exact agrees.matchForms tag pattern that (differingLast? that)

theorem matchForms_ofTopic
    (agrees : selector.Agrees)
    (tag pattern topic : Text) :
    Gives (selector.matchForms tag pattern (ContextForms.ofTopic topic))
      (matchText? pattern topic) := by
  simpa [ContextForms.ofTopic] using agrees.matchForms tag pattern topic none

/-- Matching a constraint gives what its forms give. -/
theorem matchConstraint
    (agrees : selector.Agrees)
    (tag : Text)
    (constraint : Option Text)
    {forms : ContextForms}
    {matching : Text → Option Matched}
    (met : ∀ {selector : Selector}, selector.Agrees → ∀ pattern,
      Gives (selector.matchForms tag pattern forms) (matching pattern)) :
    Gives (selector.matchConstraint tag constraint forms) (meet? matching constraint) := by
  cases constraint with
  | none =>
      exact ⟨rfl, agrees⟩
  | some pattern =>
      have matched := met agrees pattern
      exact ⟨congrArg (Option.map some) matched.value, matched.agrees⟩

theorem invalidate
    (agrees : selector.Agrees)
    (tag : Text) :
    (selector.invalidate tag).2.Agrees :=
  ⟨agrees.patterns.invalidate tag, agrees.verdicts.invalidate tag⟩

end Agrees

/-! ## Selections -/

/-- The utterances of a context. -/
def Scene.ofContext (context : Context) : Scene :=
  ⟨Utterance.scan context.input, ContextForms.ofThat context.that,
    ContextForms.ofTopic context.topic⟩

/-- A tally after rules holds their candidates and counts the patterns that matched. -/
structure Tally.Follows
    (context : Context)
    (before : Tally)
    (rules : List Rule)
    (after : Tally) :
    Prop where
  agrees : after.selector.Agrees
  patternMatches : after.patternMatches = before.patternMatches +
    rules.countP fun rule => (matchText? rule.category.pattern context.input).isSome
  candidates : after.candidates = before.candidates ++ rules.filterMap (candidate? context)

/-- Considering a rule adds its candidate. -/
theorem Tally.follows_consider
    (tag : Text)
    (context : Context)
    {before : Tally}
    (agrees : before.selector.Agrees)
    (rule : Rule) :
    before.Follows context [rule] (consider tag (Scene.ofContext context) before rule) := by
  have input := agrees.verdict_scan tag rule.category.pattern context.input
  simp only [consider, Scene.ofContext]
  split
  · next selector step =>
      rw [step] at input
      have noMatch : matchText? rule.category.pattern context.input = none := by
        simp [matchText?, ← input.value]
      exact ⟨input.agrees, by simp [noMatch], by simp [candidate?, noMatch]⟩
  · next found selector step =>
      rw [step] at input
      have isMatch : matchText? rule.category.pattern context.input =
          some ⟨found, Utterance.scan context.input⟩ := by
        simp [matchText?, ← input.value]
      have that := input.agrees.matchConstraint tag rule.category.that
        fun agrees pattern => agrees.matchForms_ofThat tag pattern context.that
      split
      · next selector step =>
          rw [step] at that
          exact ⟨that.agrees, by simp [isMatch], by simp [candidate?, isMatch, ← that.value]⟩
      · next metThat selector step =>
          rw [step] at that
          have topic := that.agrees.matchConstraint tag rule.category.topic
            fun agrees pattern => agrees.matchForms_ofTopic tag pattern context.topic
          split
          · next selector step =>
              rw [step] at topic
              exact ⟨topic.agrees, by simp [isMatch],
                by simp [candidate?, isMatch, ← that.value, ← topic.value]⟩
          · next metTopic selector step =>
              rw [step] at topic
              exact ⟨topic.agrees, by simp [isMatch],
                by simp [candidate?, isMatch, ← that.value, ← topic.value]⟩

/-- Considering rules adds their candidates in order. -/
theorem Tally.follows_foldl_consider
    (tag : Text)
    (context : Context)
    {before : Tally}
    (agrees : before.selector.Agrees)
    (rules : List Rule) :
    before.Follows context rules
      (rules.foldl (consider tag (Scene.ofContext context)) before) := by
  induction rules generalizing before with
  | nil =>
      exact ⟨agrees, by simp, by simp⟩
  | cons rule rest inductionHypothesis =>
      have first := Tally.follows_consider tag context agrees rule
      have later := inductionHypothesis first.agrees
      refine ⟨later.agrees, ?_, ?_⟩
      · rw [List.foldl_cons, later.patternMatches, first.patternMatches]
        simp only [List.countP_cons, List.countP_nil]
        omega
      · rw [List.foldl_cons, later.candidates, first.candidates, List.append_assoc,
          ← List.filterMap_append, List.singleton_append]

/-- An explanation is the one without memory. -/
theorem Agrees.explain
    {selector : Selector}
    (agrees : selector.Agrees)
    (knowledge : KnowledgeBase)
    (context : Context) :
    Gives (selector.explain knowledge context) (explanation knowledge context) := by
  let rules := (knowledge.rules.activate (Utterance.scan context.input)).rules
  have tally : Tally.Follows context ⟨selector, 0, []⟩ rules _ :=
    Tally.follows_foldl_consider knowledge.name context agrees rules
  refine ⟨?_, tally.agrees⟩
  have candidates := tally.candidates
  have patternMatches := tally.patternMatches
  simp only [List.nil_append, Nat.zero_add] at candidates patternMatches
  simp only [Selector.explain, explanation]
  congr 1
  · exact congrArg (fun found => (bestCandidate? found).map _) candidates
  · exact congrArg rankedCandidates candidates
  · exact congrArg List.length candidates

/-- What is selected is the best of all candidates, matched anew. -/
theorem Agrees.resolve
    {selector : Selector}
    (agrees : selector.Agrees)
    (knowledge : KnowledgeBase)
    (context : Context) :
    Gives (selector.resolve knowledge context) (explanation knowledge context).selected :=
  have explained := agrees.explain knowledge context
  ⟨congrArg Explanation.selected explained.value, explained.agrees⟩

/-! ## Selectors in use -/

/-- A selector in use: made from settings and changed by its operations, at any times. -/
inductive Reachable : Selector → Prop where
  | create (settings : Settings) :
      Reachable (ofSettings settings)
  | resolve {selector : Selector} (knowledge : KnowledgeBase) (context : Context) :
      Reachable selector →
      Reachable (selector.resolve knowledge context).2
  | explain {selector : Selector} (knowledge : KnowledgeBase) (context : Context) :
      Reachable selector →
      Reachable (selector.explain knowledge context).2
  | compile {selector : Selector} (tag source : Text) :
      Reachable selector →
      Reachable (selector.compile tag source).2
  | verdict {selector : Selector} (tag pattern : Text) {utterance : Utterance} :
      (∀ word ∈ utterance.words, Text.IsWord word) →
      Reachable selector →
      Reachable (selector.verdict tag pattern utterance).2
  | invalidate {selector : Selector} (tag : Text) :
      Reachable selector →
      Reachable (selector.invalidate tag).2
  | clear {selector : Selector} :
      Reachable selector →
      Reachable selector.clear
  | await {selector : Selector} (patternPauses verdictPauses : List Nat) :
      Reachable selector →
      Reachable ⟨selector.patterns.await patternPauses, selector.verdicts.await verdictPauses⟩

/-- A selector in use agrees. -/
theorem Reachable.agrees
    {selector : Selector}
    (reachable : selector.Reachable) :
    selector.Agrees := by
  induction reachable with
  | create settings =>
      exact agrees_ofSettings settings
  | resolve knowledge context _ inductionHypothesis =>
      exact (inductionHypothesis.resolve knowledge context).agrees
  | explain knowledge context _ inductionHypothesis =>
      exact (inductionHypothesis.explain knowledge context).agrees
  | compile tag source _ inductionHypothesis =>
      exact (inductionHypothesis.compile tag source).agrees
  | verdict tag pattern areWords _ inductionHypothesis =>
      exact (inductionHypothesis.verdict tag pattern areWords).agrees
  | invalidate tag _ inductionHypothesis =>
      exact inductionHypothesis.invalidate tag
  | clear _ _ =>
      exact ⟨Cache.agrees_clear _ _, Cache.agrees_clear _ _⟩
  | await patternPauses verdictPauses _ inductionHypothesis =>
      exact ⟨inductionHypothesis.patterns, inductionHypothesis.verdicts⟩

end Selector

end Colloquy
