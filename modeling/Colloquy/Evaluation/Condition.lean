import Colloquy.Evaluation.Part
import Colloquy.Text.Case

namespace Colloquy.Evaluation

/-!
# Conditions and random choices

A condition compares the value of a variable with the value it asks for, either
its own or those of its items. The first item that asks for the right value is
chosen; the first item that asks for nothing is the fallback.
-/

open Markup

variable {limit : Nat}

/-- A value is the one asked for: a star asks for any but the empty one, and case is ignored. -/
def valueMatches
    (actual expected : Text) :
    Bool :=
  if Text.trim expected = ['*'] then
    !(Text.trim actual).isEmpty
  else
    Text.upper (Text.trim actual) = Text.upper (Text.trim expected)

/-- The value of the variable that an element names, if it names one. -/
def subject?
    (evaluate : PartEvaluator limit)
    (piece : Piece limit) :
    Evaluation (Option Text) := do
  match ← attribute? evaluate piece "var" with
  | some name => return some (← localValue name)
  | none =>
      match ← attribute? evaluate piece "name" with
      | some name => return some (← resolve name)
      | none => return none

/-- Choose among items for a subject, giving the content of the first that fits. -/
def chooseItem
    (evaluate : PartEvaluator limit)
    (subject : Option Text) :
    (fallback : Option (Piece limit)) →
    List (Piece limit) →
    Evaluation Text
  | none, [] => return []
  | some item, [] => content evaluate item
  | fallback, item :: rest => do
      let own ← subject? evaluate item
      match ← attribute? evaluate item "value" with
      | none => chooseItem evaluate subject (fallback.or (some item)) rest
      | some expected =>
          if (own.or subject).any (valueMatches · expected) then
            content evaluate item
          else
            chooseItem evaluate subject fallback rest

/-- Evaluate a condition. -/
def condition
    (evaluate : PartEvaluator limit)
    (piece : Piece limit) :
    Evaluation Text := do
  let subject ← subject? evaluate piece
  match ← attribute? evaluate piece "value" with
  | some expected =>
      if subject.any (valueMatches · expected) then
        content evaluate piece
      else
        return []
  | none => chooseItem evaluate subject none (piece.elementsTagged .li)

/-- Evaluate one of the items, picked at random. -/
def randomItem
    (evaluate : PartEvaluator limit)
    (piece : Piece limit) :
    Evaluation Text :=
  let items := piece.elementsTagged .li
  if items.isEmpty then
    return []
  else do
    let number ← pick items.length
    match items[number]? with
    | some item => content evaluate item
    | none => return []

end Colloquy.Evaluation
