import Colloquy.Ordinal
import Colloquy.Text.Basic

namespace Colloquy

/-!
# Bindings

What the wildcards and groups of a rule took, which its template may refer to by
number.
-/

/-- The texts captured from what was said, the answer before and the topic. -/
structure Bindings where
  star : List Text
  thatstar : List Text
  topicstar : List Text
  deriving DecidableEq, Repr

namespace Bindings

/-- Nothing was captured. -/
def empty : Bindings :=
  ⟨[], [], []⟩

/-- The capture with the given number, or an empty text. -/
def numbered
    (captures : List Text)
    (number : Nat) :
    Text :=
  (Ordinal.nth? captures number).getD []

end Bindings

end Colloquy
