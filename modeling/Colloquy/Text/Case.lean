import Colloquy.Text.CaseMap
import Colloquy.Text.Cased
import Colloquy.Text.Numeric
import Colloquy.Text.Spacing

namespace Colloquy.Text

/-!
# Case of texts

Uppercase maps each character by itself. Lowercase does too, except that a
capital sigma at the end of a word becomes the final form of the small one. The
other transforms capitalise words or sentences and leave every gap as it is.
-/

/-- The uppercase form of a text. -/
def upper (text : Text) : Text :=
  text.flatMap upperChar

/-- The nearest character that is not looked through takes part in case. -/
def meetsCased (text : Text) : Bool :=
  (text.dropWhile isCaseIgnorable).head?.any isCased

/-- The lowercase form of a text that follows the given characters, nearest first. -/
def lowerAfter
    (before : Text) :
    Text →
    Text
  | [] => []
  | c :: rest =>
      let lowered :=
        if c = 'Σ' then
          [if meetsCased before && !meetsCased rest then 'ς' else 'σ']
        else
          lowerChar c
      lowered ++ lowerAfter (c :: before) rest

/-- The lowercase form of a text. -/
def lower (text : Text) : Text :=
  lowerAfter [] text

/-- Capitalise the first character and leave the others. -/
def capitalise : Text → Text
  | [] => []
  | c :: rest => upperChar c ++ rest

/-- Capitalise the first character and lowercase the others. -/
def capitaliseOnly : Text → Text
  | [] => []
  | c :: rest => upperChar c ++ lower rest

/-- Capitalise the first character of every word. -/
def capitaliseWords (text : Text) : Text :=
  (Spaced.ofText text).toTextWith capitalise

/-- Capitalise every word and lowercase the rest of it. -/
def titleCase (text : Text) : Text :=
  (Spaced.ofText text).toTextWith capitaliseOnly

/-- The character ends a sentence. -/
def isTerminator (c : Char) : Bool :=
  c = '.' || c = '!' || c = '?'

/--
Lowercase character by character, except that the first letter or numeral of
each sentence is capitalised. The flag says that a sentence is about to start.
-/
def sentenceCaseFrom :
    Bool →
    Text →
    Text
  | _, [] => []
  | atStart, c :: rest =>
      if atStart && isAlphanumeric c then
        upperChar c ++ sentenceCaseFrom false rest
      else
        lowerChar c ++ sentenceCaseFrom (atStart || isTerminator c) rest

/-- Lowercase a text and capitalise each sentence. -/
def sentenceCase (text : Text) : Text :=
  sentenceCaseFrom true text

/-- The form in which texts are compared: words in uppercase with single spaces. -/
def canonical (text : Text) : Text :=
  unwords ((words text).map upper)

/-- The character has a lowercase form other than itself. -/
def isCapital (c : Char) : Bool :=
  lowerChar c != [c]

/-- Lowercase the capital letters from `A` to `Z` and leave all else. -/
def lowerAscii (text : Text) : Text :=
  text.map Char.toLower

end Colloquy.Text
