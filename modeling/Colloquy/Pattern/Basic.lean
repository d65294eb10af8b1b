import Colloquy.Utterance

namespace Colloquy

/-!
# Patterns

A pattern is a sequence of tokens. A literal stands for its own word, a wildcard
for a number of words that its kind limits, and a group for the words of one of
its options. How much a token says about the words it takes is its weight.
-/

/-- The kinds of wildcards. -/
inductive Wildcard where
  | underscore
  | star
  | hash
  | dollar
  deriving DecidableEq, Repr

namespace Wildcard

/-- How a wildcard is written. -/
def symbol : Wildcard → Char
  | .underscore => '_'
  | .star => '*'
  | .hash => '#'
  | .dollar => '$'

/-- The wildcard that a word of a pattern writes. -/
def ofWord? : Text → Option Wildcard
  | ['_'] => some .underscore
  | ['*'] => some .star
  | ['#'] => some .hash
  | ['$'] => some .dollar
  | _ => none

/-- The weight of each word that a wildcard takes. -/
def weight : Wildcard → Nat
  | .dollar => 3
  | .underscore => 2
  | .star => 1
  | .hash => 0

/-- The fewest words that a wildcard takes. -/
def least : Wildcard → Nat
  | .hash => 0
  | _ => 1

/-- The most words that a wildcard takes of those that are left. -/
def most
    (remaining : Nat) :
    Wildcard →
    Nat
  | .dollar => min remaining 1
  | _ => remaining

end Wildcard

namespace Pattern

/-- One token of a pattern; the options of a group are sequences of words. -/
inductive Token where
  | literal (word : Text)
  | wildcard (kind : Wildcard)
  | group (options : List (List Text))
  deriving DecidableEq, Repr

namespace Token

/-- The weight of each word that a token takes. -/
def weight : Token → Nat
  | .literal _ => 5
  | .group _ => 4
  | .wildcard kind => kind.weight

/-- The fewest words that a token takes. -/
def least : Token → Nat
  | .literal _ => 1
  | .wildcard kind => kind.least
  | .group options => ((options.map List.length).min?).getD 0

/-- The token is a wildcard. -/
def isWildcard : Token → Bool
  | .wildcard _ => true
  | _ => false

/-- The token records the words it takes. -/
def captures : Token → Bool
  | .literal _ => false
  | _ => true

end Token

/-- The fewest words that tokens take together. -/
def leastWords : List Token → Nat
  | [] => 0
  | token :: rest => token.least + leastWords rest

/-! ## Reading patterns -/

/-- A word of a pattern as it is compared: bare and in uppercase. -/
def normalWord? (word : Text) : Option Text :=
  (Utterance.bareWord? word).map Text.upper

/-- The words of one option of a group. -/
def optionWords (option : Text) : List Text :=
  (Text.words option).filterMap normalWord?

/-- The options of a group that have words. -/
def optionsOf (inside : Text) : List (List Text) :=
  ((inside.splitOn '|').map optionWords).filter (!·.isEmpty)

/-- The group with the given inside, unless no option has a word. -/
def groupToken? (inside : Text) : Option Token :=
  let options := optionsOf inside
  if options.isEmpty then
    none
  else
    some (.group options)

/-- The token that a word of a pattern writes, unless the word is bare punctuation. -/
def wordToken? (word : Text) : Option Token :=
  match Wildcard.ofWord? word with
  | some kind => some (.wildcard kind)
  | none => (normalWord? word).map .literal

/-- The first word of a text that begins with the given character, and what follows it. -/
def splitWord
    (c : Char)
    (rest : Text) :
    Text × Text :=
  (c :: rest.takeWhile fun d => !Text.isBlank d, rest.dropWhile fun d => !Text.isBlank d)

/--
The token at the start of a text that begins with the given character, and what
follows it. A group reaches from its parenthesis to the next closing one; without
one the parenthesis belongs to a word.
-/
def nextToken
    (c : Char)
    (rest : Text) :
    Option Token × Text :=
  let group := if c = '(' then Text.breakAt? [')'] rest else none
  match group with
  | some (inside, after) => (groupToken? inside, after)
  | none =>
      let (word, after) := splitWord c rest
      (wordToken? word, after)

/-- What follows the mark is no longer than the text. -/
theorem breakAt?_length
    {mark text before after : Text}
    (found : Text.breakAt? mark text = some (before, after)) :
    after.length ≤ text.length := by
  fun_induction Text.breakAt? mark text generalizing before with
  | case1 => simp_all
  | case2 => simp at found
  | case3 c rest starts =>
      simp only [Option.some.injEq, Prod.mk.injEq] at found
      simp only [← found.2, List.length_drop]
      omega
  | case4 c rest _ inductionHypothesis =>
      simp only [Option.map_eq_some_iff, Prod.mk.injEq, Prod.exists] at found
      obtain ⟨inner, outer, innerFound, _, afterIs⟩ := found
      subst afterIs
      have shorter := inductionHypothesis innerFound
      simp only [List.length_cons]
      omega

/-- What follows a token is shorter than the text that begins with it. -/
theorem nextToken_length
    (c : Char)
    (rest : Text) :
    (nextToken c rest).2.length ≤ rest.length := by
  unfold nextToken
  dsimp only
  split
  · next inside after found =>
      split at found
      · exact breakAt?_length found
      · simp at found
  · exact (List.dropWhile_sublist _).length_le

/-- The tokens of a pattern's text. -/
def tokensOf (text : Text) : List Token :=
  match _trimmed : Text.trimStart text with
  | [] => []
  | c :: rest => (nextToken c rest).1.toList ++ tokensOf (nextToken c rest).2
termination_by text.length
decreasing_by
  have after := nextToken_length c rest
  have trimmed_length := (List.dropWhile_sublist (l := text) Text.isBlank).length_le
  unfold Text.trimStart at _trimmed
  rw [_trimmed, List.length_cons] at trimmed_length
  omega

end Pattern

/-- A pattern ready to be matched, with the text it was read from. -/
structure Pattern where
  source : Text
  tokens : List Pattern.Token
  deriving DecidableEq, Repr

namespace Pattern

/-- Read a pattern. -/
def compile (source : Text) : Pattern :=
  ⟨source, tokensOf source⟩

/-- The number of wildcards. -/
def wildcardCount (pattern : Pattern) : Nat :=
  pattern.tokens.countP Token.isWildcard

/-- The words with one of which an utterance has to begin, unless any may begin it. -/
def firstWords? (pattern : Pattern) : Option (List Text) :=
  match pattern.tokens with
  | .literal word :: _ => some [word]
  | .group options :: _ => some (options.filterMap List.head?)
  | _ => none

/-- The words that an utterance has to contain, ascending. -/
def requiredWords (pattern : Pattern) : List Text :=
  Ordered.ofList (pattern.tokens.filterMap fun
    | .literal word => some word
    | _ => none)

/-- For each group, the words of which an utterance has to contain one, ascending. -/
def alternativeWords (pattern : Pattern) : List (List Text) :=
  pattern.tokens.filterMap fun
    | .group options => some (Ordered.ofList options.flatten)
    | _ => none

end Pattern

end Colloquy
