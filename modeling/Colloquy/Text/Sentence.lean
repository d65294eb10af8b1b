import Colloquy.Text.Case

namespace Colloquy.Text

/-!
# Sentences

A sentence is a run of characters without terminators together with the run of
terminators that follows. Terminators before the first sentence belong to none,
and a piece without any letter or numeral is no sentence.
-/

/-- A text taken apart at its terminators. -/
structure Terminated where
  leading : Text
  pieces : List Text
  deriving DecidableEq, Repr

namespace Terminated

/-- Put one more character in front. -/
def push
    (c : Char)
    (terminated : Terminated) :
    Terminated :=
  if isTerminator c then
    { terminated with leading := c :: terminated.leading }
  else
    match terminated.leading, terminated.pieces with
    | [], piece :: rest => ⟨[], (c :: piece) :: rest⟩
    | leading, pieces => ⟨[], (c :: leading) :: pieces⟩

/-- Take a text apart at its terminators. -/
def ofText (text : Text) : Terminated :=
  text.foldr push ⟨[], []⟩

end Terminated

/-- The sentences of a text, trimmed, each with its terminators. -/
def sentences (text : Text) : List Text :=
  ((Terminated.ofText text).pieces.map trim).filter (·.any isAlphanumeric)

end Colloquy.Text
