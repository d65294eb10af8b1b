import Colloquy.Text.Case
import Colloquy.Ordered

namespace Colloquy

/-!
# Utterances

An utterance is what matching sees of a text: its words without the punctuation
around them. Words are compared in uppercase, while captures keep the words as
they were said.
-/

/-- The words of a text, without the punctuation around them. -/
structure Utterance where
  words : List Text
  deriving DecidableEq, Repr

namespace Utterance

/-- The character is punctuation at the edge of a word. -/
def isEdge (c : Char) : Bool :=
  !Text.isAlphanumeric c

/-- Curly apostrophes are written straight. -/
def straighten (word : Text) : Text :=
  word.map fun c => if c = '’' then '\'' else c

/-- A word without the punctuation around it, unless nothing else is there. -/
def bareWord? (word : Text) : Option Text :=
  let bare := Text.dropEndWhile isEdge (word.dropWhile isEdge)
  if bare.isEmpty then
    none
  else
    some (straighten bare)

/-- What matching sees of a text. -/
def scan (text : Text) : Utterance :=
  ⟨(Text.words text).filterMap bareWord?⟩

/-- The words in uppercase. -/
def upper (utterance : Utterance) : List Text :=
  utterance.words.map Text.upper

/-- The number of words. -/
def length (utterance : Utterance) : Nat :=
  utterance.words.length

/-- There is no word. -/
def isEmpty (utterance : Utterance) : Bool :=
  utterance.words.isEmpty

/-- The distinct words in uppercase, ascending. -/
def wordSet (utterance : Utterance) : List Text :=
  Ordered.ofList utterance.upper

/-- The text by which utterances that match alike are known. -/
def key (utterance : Utterance) : Text :=
  Text.unwords utterance.upper

/-- The first word in uppercase. -/
def firstWord? (utterance : Utterance) : Option Text :=
  utterance.upper.head?

/-- The words from `start` up to `stop`, as they were said. -/
def span
    (utterance : Utterance)
    (start stop : Nat) :
    Text :=
  Text.unwords ((utterance.words.take stop).drop start)

end Utterance

end Colloquy
