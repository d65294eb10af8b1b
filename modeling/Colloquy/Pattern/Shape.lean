import Colloquy.Text.Spacing

namespace Colloquy.Pattern

/-!
# Shapes of patterns

The coarse shape of a pattern, by which learned patterns are counted.
-/

/-- The coarse shape of a pattern. -/
inductive Shape where
  | literal
  | star
  | underscore
  | hash
  | dollar
  | group
  deriving DecidableEq, Repr

namespace Shape

/-- The name under which a shape is counted. -/
def key : Shape → Text
  | .literal => "literal".toList
  | .star => "single_wildcard".toList
  | .underscore => "underscore_wildcard".toList
  | .hash => "hash_wildcard".toList
  | .dollar => "dollar_wildcard".toList
  | .group => "alternation".toList

/-- The shape of a pattern, the first of those that its text shows. -/
def ofText (pattern : Text) : Shape :=
  let shows (symbol : Char) : Bool := (Text.words pattern).contains [symbol]
  if shows '*' then
    .star
  else if shows '_' then
    .underscore
  else if shows '#' then
    .hash
  else if shows '$' then
    .dollar
  else if pattern.contains '(' && pattern.contains '|' then
    .group
  else
    .literal

end Shape

end Colloquy.Pattern
