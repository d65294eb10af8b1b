import Colloquy.Bindings
import Colloquy.Cache
import Colloquy.Pattern.Search
import Colloquy.Rule.KnowledgeBase
import Colloquy.Text.Sentence

namespace Colloquy

/-!
# Selecting a rule

Of the rules whose patterns match what was said, the answer before and the topic,
the best one is selected. More constraints are better; then the weights of the
words decide, those of what was said first; then fewer wildcards; and last, the
rule that was added later. The constraint on the answer before may be met by its
last sentence.

Reading patterns and matching them is remembered in two caches, under the tag of
the knowledge base.
-/

/-- What a rule is selected for. -/
structure Context where
  input : Text
  that : Text
  topic : Text
  deriving DecidableEq, Repr

/-- The patterns read and the matches made so far. -/
structure Selector where
  patterns : Cache Text Pattern
  verdicts : Cache (Text × Text) (Option Pattern.Match)
  deriving DecidableEq, Repr

/-- A text as constraints see it: whole, and perhaps its last sentence. -/
structure ContextForms where
  whole : Utterance
  lastSentence : Option Utterance
  deriving DecidableEq, Repr

namespace ContextForms

/-- The forms of the answer before: a last sentence counts only if it has words and differs. -/
def ofThat (text : Text) : ContextForms :=
  let whole := Utterance.scan text
  let last := ((Text.sentences text).getLast?.map Utterance.scan).filter fun last =>
    !last.isEmpty && last.upper ≠ whole.upper
  ⟨whole, last⟩

/-- The only form of the topic. -/
def ofTopic (text : Text) : ContextForms :=
  ⟨Utterance.scan text, none⟩

end ContextForms

/-- A match together with the utterance that was matched. -/
structure Matched where
  found : Pattern.Match
  utterance : Utterance
  deriving DecidableEq, Repr

/-- What a match captured from its utterance. -/
def Matched.captured (matched : Matched) : List Text :=
  matched.found.captured matched.utterance

/-- A rule all of whose patterns match. -/
structure Candidate where
  rule : Rule
  input : Matched
  that : Option Matched
  topic : Option Matched
  deriving DecidableEq, Repr

namespace Candidate

/-- The weights of a constraint's match, of which a missing constraint has none. -/
def constraintWeights (matched : Option Matched) : List Nat :=
  (matched.map (·.found.weights)).getD []

/-- The number of wildcards of all patterns. -/
def wildcards (candidate : Candidate) : Nat :=
  candidate.input.found.wildcards +
    (candidate.that.map (·.found.wildcards)).getD 0 +
    (candidate.topic.map (·.found.wildcards)).getD 0

/-- How two candidates compare; the greater one is better. -/
def rank
    (first second : Candidate) :
    Ordering :=
  (compare first.rule.category.constraintCount second.rule.category.constraintCount).then <|
  (compare first.input.found.weights second.input.found.weights).then <|
  (compare (constraintWeights first.that) (constraintWeights second.that)).then <|
  (compare (constraintWeights first.topic) (constraintWeights second.topic)).then <|
  (compare second.wildcards first.wildcards).then <|
  compare first.rule.serial second.rule.serial

/-- What the candidate's templates may refer to. -/
def bindings (candidate : Candidate) : Bindings where
  star := candidate.input.captured
  thatstar := (candidate.that.map Matched.captured).getD []
  topicstar := (candidate.topic.map Matched.captured).getD []

end Candidate

/-- The best of the candidates, the last one of several that are equally good. -/
def bestCandidate? (candidates : List Candidate) : Option Candidate :=
  candidates.foldl
    (fun best candidate =>
      match best with
      | none => some candidate
      | some chosen => if chosen.rank candidate = .gt then some chosen else some candidate)
    none

/-- The candidates from best to worst. -/
def rankedCandidates (candidates : List Candidate) : List Candidate :=
  candidates.mergeSort fun first second => second.rank first ≠ .gt

/-- The selected category with what its patterns captured. -/
structure Selected where
  category : Category
  bindings : Bindings
  deriving DecidableEq, Repr

/-- Everything known about one selection. -/
structure Explanation where
  input : Text
  selected : Option Selected
  ranked : List Candidate
  rulesTotal : Nat
  rulesReached : Nat
  rulesGated : Nat
  patternMatches : Nat
  eligible : Nat
  deriving DecidableEq, Repr

namespace Selector

/-- Nothing has been read or matched. -/
def ofSettings (settings : Settings) : Selector where
  patterns := Cache.ofSettings "patterns".toList settings.patternCache
  verdicts := Cache.ofSettings "verdicts".toList settings.verdictCache

/-- Read a pattern. -/
def compile
    (selector : Selector)
    (tag source : Text) :
    Pattern × Selector :=
  let (pattern, patterns) :=
    selector.patterns.lookupOrInsert source (some tag) fun _ => Pattern.compile source
  (pattern, { selector with patterns })

/-- Match a pattern against an utterance. -/
def verdict
    (selector : Selector)
    (tag pattern : Text)
    (utterance : Utterance) :
    Option Pattern.Match × Selector :=
  let key := (pattern, utterance.key)
  match selector.verdicts.lookup key with
  | (some found, verdicts) => (found, { selector with verdicts })
  | (none, verdicts) =>
      let (compiled, selector) := { selector with verdicts }.compile tag pattern
      let found := compiled.match? utterance
      (found, { selector with verdicts := selector.verdicts.insert key found (some tag) })

/-- Match a constraint against the forms of its context, the whole one first. -/
def matchForms
    (selector : Selector)
    (tag pattern : Text)
    (forms : ContextForms) :
    Option Matched × Selector :=
  match selector.verdict tag pattern forms.whole with
  | (some found, selector) => (some ⟨found, forms.whole⟩, selector)
  | (none, selector) =>
      match forms.lastSentence with
      | none => (none, selector)
      | some last =>
          let (found, selector) := selector.verdict tag pattern last
          (found.map (⟨·, last⟩), selector)

/-- Match a constraint that a rule may lack; the answer is `none` if it is not met. -/
def matchConstraint
    (selector : Selector)
    (tag : Text)
    (pattern : Option Text)
    (forms : ContextForms) :
    Option (Option Matched) × Selector :=
  match pattern with
  | none => (some none, selector)
  | some pattern =>
      let (matched, selector) := selector.matchForms tag pattern forms
      (matched.map some, selector)

/-- The utterances that rules are matched against. -/
structure Scene where
  input : Utterance
  that : ContextForms
  topic : ContextForms
  deriving DecidableEq, Repr

/-- What matching one rule after the other has found so far. -/
structure Tally where
  selector : Selector
  patternMatches : Nat
  candidates : List Candidate
  deriving DecidableEq, Repr

/-- Match one more rule. -/
def consider
    (tag : Text)
    (scene : Scene)
    (tally : Tally)
    (rule : Rule) :
    Tally :=
  match tally.selector.verdict tag rule.category.pattern scene.input with
  | (none, selector) => { tally with selector }
  | (some input, selector) =>
      let patternMatches := tally.patternMatches + 1
      match selector.matchConstraint tag rule.category.that scene.that with
      | (none, selector) => { tally with selector, patternMatches }
      | (some that, selector) =>
          match selector.matchConstraint tag rule.category.topic scene.topic with
          | (none, selector) => { tally with selector, patternMatches }
          | (some topic, selector) =>
              let candidate := ⟨rule, ⟨input, scene.input⟩, that, topic⟩
              ⟨selector, patternMatches, tally.candidates ++ [candidate]⟩

/-- Select a rule, saying all that was found on the way. -/
def explain
    (selector : Selector)
    (knowledge : KnowledgeBase)
    (context : Context) :
    Explanation × Selector :=
  let scene : Scene :=
    ⟨Utterance.scan context.input, ContextForms.ofThat context.that,
      ContextForms.ofTopic context.topic⟩
  let activation := knowledge.rules.activate scene.input
  let tally := activation.rules.foldl (consider knowledge.name scene) ⟨selector, 0, []⟩
  let selected := (bestCandidate? tally.candidates).map fun best =>
    ⟨best.rule.category, best.bindings⟩
  ({ input := scene.input.key
     selected := selected
     ranked := rankedCandidates tally.candidates
     rulesTotal := knowledge.size
     rulesReached := activation.reached
     rulesGated := activation.gated
     patternMatches := tally.patternMatches
     eligible := tally.candidates.length },
    tally.selector)

/-- Select a rule. -/
def resolve
    (selector : Selector)
    (knowledge : KnowledgeBase)
    (context : Context) :
    Option Selected × Selector :=
  let (explanation, selector) := selector.explain knowledge context
  (explanation.selected, selector)

/-- Drop what was remembered under the given tag, saying how much it was. -/
def invalidate
    (selector : Selector)
    (tag : Text) :
    Nat × Selector :=
  let (patternCount, patterns) := selector.patterns.invalidate tag
  let (verdictCount, verdicts) := selector.verdicts.invalidate tag
  (patternCount + verdictCount, ⟨patterns, verdicts⟩)

/-- Drop all that was remembered. -/
def clear (selector : Selector) : Selector :=
  ⟨selector.patterns.clear, selector.verdicts.clear⟩

end Selector

end Colloquy
