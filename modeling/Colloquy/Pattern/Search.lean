import Colloquy.Pattern.Basic

namespace Colloquy.Pattern

/-!
# Matching

A pattern matches an utterance when the words can be cut into consecutive
segments, one for each token in order. The search goes through the cuts in a
fixed order, wildcards taking as few words as possible and groups their options
from left to right, and stops at the first one that works. Two things keep it
short. A branch is given up when fewer words are left than the tokens need, and
for each token the positions from which the rest of the pattern failed before
are remembered.
-/

/--
One token with the words it takes. The choice is the number of words of a
wildcard and the number of the option of a group, counted from zero.
-/
structure Segment where
  token : Token
  choice : Nat
  start : Nat
  stop : Nat
  deriving DecidableEq, Repr

/-- What a token may take of the words that are left: choices, each with its number of words. -/
def Token.choices
    (words : List Text) :
    Token →
    List (Nat × Nat)
  | .literal word => if words.head? = some word then [(0, 1)] else []
  | .wildcard kind =>
      (List.range' kind.least (kind.most words.length + 1 - kind.least)).map fun count =>
        (count, count)
  | .group options =>
      options.zipIdx.filterMap fun (option, index) =>
        if option.isPrefixOf words then some (index, option.length) else none

/-- For each token, the positions from which it and the tokens after it failed. -/
abbrev FailedPositions := List (List Nat)

/-- The answer of a search together with the failures known after it. -/
abbrev SearchResult := Option (List Segment) × FailedPositions

/-- Try choices in order until one succeeds. -/
def tryChoices
    (attempt : Nat × Nat → FailedPositions → SearchResult) :
    List (Nat × Nat) →
    FailedPositions →
    SearchResult
  | [], failed => (none, failed)
  | choice :: rest, failed =>
      match attempt choice failed with
      | (some segments, failed) => (some segments, failed)
      | (none, failed) => tryChoices attempt rest failed

/-- Put a segment before those that a search found. -/
def prepend
    (segment : Segment)
    (result : SearchResult) :
    SearchResult :=
  (result.1.map (segment :: ·), result.2)

/-- Find the first cut of the words from the given position on. -/
def search :
    List Token →
    Nat →
    List Text →
    FailedPositions →
    SearchResult
  | [], _, words, failed => (if words.isEmpty then some [] else none, failed)
  | token :: tokens, position, words, failed =>
      let here := failed.headD []
      let later := failed.tail
      if here.contains position then
        (none, failed)
      else if words.length < leastWords (token :: tokens) then
        (none, (position :: here) :: later)
      else
        let attempt (choice : Nat × Nat) (failed : FailedPositions) : SearchResult :=
          let stop := position + choice.2
          prepend ⟨token, choice.1, position, stop⟩
            (search tokens stop (words.drop choice.2) failed)
        match tryChoices attempt (token.choices words) later with
        | (some segments, later) => (some segments, here :: later)
        | (none, later) => (none, (position :: here) :: later)

/-- Where a pattern matched: the spans it captured and a weight for each word. -/
structure Match where
  captures : List (Nat × Nat)
  weights : List Nat
  wildcards : Nat
  deriving DecidableEq, Repr

/-- The spans of the segments that capture their words. -/
def capturesOf (segments : List Segment) : List (Nat × Nat) :=
  (segments.filter (·.token.captures)).map fun segment => (segment.start, segment.stop)

/-- The weight of each word of the segments. -/
def weightsOf (segments : List Segment) : List Nat :=
  segments.flatMap fun segment =>
    List.replicate (segment.stop - segment.start) segment.token.weight

/-- Match a pattern against an utterance. -/
def match?
    (pattern : Pattern)
    (utterance : Utterance) :
    Option Match :=
  (search pattern.tokens 0 utterance.upper []).1.map fun segments =>
    ⟨capturesOf segments, weightsOf segments, pattern.wildcardCount⟩

/-- The texts that a match captured from the utterance. -/
def Match.captured
    (found : Match)
    (utterance : Utterance) :
    List Text :=
  found.captures.map fun (start, stop) => utterance.span start stop

end Colloquy.Pattern
