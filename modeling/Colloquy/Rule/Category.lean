import Colloquy.Text.Case

namespace Colloquy

/-!
# Categories

A category is a rule as it is written: a pattern for what is said, perhaps
patterns for the answer given before and for the topic, and the template of the
answer.
-/

/-- A pattern with perhaps two constraints on its context, and a template. -/
structure Category where
  pattern : Text
  that : Option Text
  topic : Option Text
  template : Text
  deriving DecidableEq, Repr

namespace Category

/-- A category without constraints. -/
def plain
    (pattern template : Text) :
    Category :=
  ⟨pattern, none, none, template⟩

/-- A constraint, which a blank text is not. -/
def constraint? (text : Text) : Option Text :=
  if Text.allBlank text then
    none
  else
    some text

/-- Constrain the answer given before. -/
def withThat
    (category : Category)
    (that : Text) :
    Category :=
  { category with that := constraint? that }

/-- Constrain the topic. -/
def withTopic
    (category : Category)
    (topic : Text) :
    Category :=
  { category with topic := constraint? topic }

/-- The text by which categories with the same patterns are known. -/
def signature (category : Category) : Text :=
  Text.canonical category.pattern ++ " <that> ".toList ++
    (category.that.map Text.canonical).getD [] ++ " <topic> ".toList ++
    (category.topic.map Text.canonical).getD []

/-- The number of constraints. -/
def constraintCount (category : Category) : Nat :=
  category.that.toList.length + category.topic.toList.length

end Category

end Colloquy
