namespace Colloquy.Text

/-!
# Character ranges

Properties of characters are given as ascending lists of code ranges. Looking
up a code stops at the first range that begins after it. Unless a module says
otherwise, the tables follow version 17 of the Unicode standard.
-/

/-- The code lies in one of the ascending ranges. -/
def inRanges :
    List (Nat × Nat) →
    Nat →
    Bool
  | [], _ => false
  | (first, last) :: rest, code =>
      if code < first then
        false
      else if code ≤ last then
        true
      else
        inRanges rest code

end Colloquy.Text
