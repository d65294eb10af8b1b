import Colloquy.Text.Basic

namespace Colloquy

/-!
# Spacing

A text alternates between gaps of blank characters and words without any. The
functions here take a text apart into its words, each with the gap before it,
and put words together again with single spaces.
-/

/-- A text taken apart: its words, each after its gap, and the gap at the end. -/
structure Spaced where
  pieces : List (Text × Text)
  trailing : Text
  deriving DecidableEq, Repr

namespace Spaced

/-- Put one more character in front. -/
def push
    (c : Char)
    (spaced : Spaced) :
    Spaced :=
  if Text.isBlank c then
    match spaced.pieces with
    | [] => { spaced with trailing := c :: spaced.trailing }
    | (gap, word) :: rest => { spaced with pieces := (c :: gap, word) :: rest }
  else
    match spaced.pieces with
    | ([], word) :: rest => { spaced with pieces := ([], c :: word) :: rest }
    | pieces => { spaced with pieces := ([], [c]) :: pieces }

/-- Take a text apart into gaps and words. -/
def ofText (text : Text) : Spaced :=
  text.foldr push ⟨[], []⟩

/-- Put gaps and words together again, changing every word on the way. -/
def toTextWith
    (change : Text → Text)
    (spaced : Spaced) :
    Text :=
  (spaced.pieces.flatMap fun (gap, word) => gap ++ change word) ++ spaced.trailing

end Spaced

namespace Text

/-- The words of a text, in order. -/
def words (text : Text) : List Text :=
  (Spaced.ofText text).pieces.map Prod.snd

/-- Words with single spaces between them. -/
def unwords (words : List Text) : Text :=
  [' '].intercalate words

/-- Gaps become single spaces, and those at the ends disappear. -/
def collapse (text : Text) : Text :=
  unwords (words text)

end Text

end Colloquy
