import Colloquy.Text.Sentence

namespace Colloquy.Text

/-!
# Cutting, replacing and measuring texts

Positions count characters and are clamped to the text, so that no request is
refused.
-/

/-- The nearest position of the text to the requested one. -/
def clampPosition
    (text : Text)
    (position : Int) :
    Nat :=
  min position.toNat text.length

/-- The characters from `start` up to `stop`; a missing end is the text's own. -/
def substring
    (text : Text)
    (start stop : Option Int) :
    Text :=
  let first := (start.map (clampPosition text)).getD 0
  let last := (stop.map (clampPosition text)).getD text.length
  (text.drop first).take (last - first)

/-- Replace the occurrences of `search` that start after the next `skipped` characters. -/
def replaceAfter
    (search replacement : Text) :
    Nat →
    Text →
    Text
  | _, [] => []
  | skipped + 1, _ :: rest => replaceAfter search replacement skipped rest
  | 0, c :: rest =>
      if search.isPrefixOf (c :: rest) then
        replacement ++ replaceAfter search replacement (search.length - 1) rest
      else
        c :: replaceAfter search replacement 0 rest

/-- Replace every occurrence, from left to right; an empty search changes nothing. -/
def replace
    (text search replacement : Text) :
    Text :=
  if search.isEmpty then
    text
  else
    replaceAfter search replacement 0 text

/-- Count the occurrences of `search` that start after the next `skipped` characters. -/
def countAfter
    (search : Text) :
    Nat →
    Text →
    Nat
  | _, [] => 0
  | skipped + 1, _ :: rest => countAfter search skipped rest
  | 0, c :: rest =>
      if search.isPrefixOf (c :: rest) then
        1 + countAfter search (search.length - 1) rest
      else
        countAfter search 0 rest

/-- The number of occurrences that do not overlap; an empty search has none. -/
def countOccurrences
    (text search : Text) :
    Nat :=
  if search.isEmpty then
    0
  else
    countAfter search 0 text

/-- What the length of a text is counted in. -/
inductive Measure where
  | characters
  | words
  | sentences
  deriving DecidableEq, Repr

namespace Measure

/-- Read a measure from the beginning of its name; any other name gives the default. -/
def ofName
    (name : Option Text)
    (default : Measure) :
    Measure :=
  match name.map fun given => lowerAscii (trim given) with
  | none => default
  | some given =>
      if "char".toList.isPrefixOf given then
        .characters
      else if "word".toList.isPrefixOf given then
        .words
      else if "sentence".toList.isPrefixOf given then
        .sentences
      else
        default

end Measure

/-- The length of a text in the given measure. -/
def lengthIn
    (text : Text) :
    Measure →
    Nat
  | .characters => text.length
  | .words => (words text).length
  | .sentences => (sentences text).length

end Colloquy.Text
