import Colloquy.Markup.Lexeme
import Colloquy.Ordered

namespace Colloquy.Markup

/-!
# Strict structure

Whereas reading a template repairs its nesting, the strict check refuses it: a
closing tag must close the innermost open element, and no element may stay open.
A template that passes is described by its depth, its number of elements and the
names it uses.
-/

/-- What the strict check says of a template that passes. -/
structure Structure where
  maxDepth : Nat
  elementCount : Nat
  tagNames : List Text
  deriving DecidableEq, Repr

/-- What is wrong with the nesting of a template. -/
inductive StructureFault where
  | crossed (found innermost : Text)
  | unopened (found : Text)
  | unclosed (innermost : Text)
  deriving DecidableEq, Repr

/-- A fault in words. -/
def StructureFault.message : StructureFault → Text
  | .crossed found innermost =>
      "found </".toList ++ found ++ "> while <".toList ++ innermost ++ "> is open".toList
  | .unopened found =>
      "found </".toList ++ found ++ "> with no open tag".toList
  | .unclosed innermost =>
      "<".toList ++ innermost ++ "> is never closed".toList

/-- Count an element at the given depth. -/
def Structure.count
    (seen : Structure)
    (name : Text)
    (depth : Nat) :
    Structure where
  maxDepth := max seen.maxDepth depth
  elementCount := seen.elementCount + 1
  tagNames := Ordered.insert name seen.tagNames

/-- Check lexemes inside the given open elements, innermost first. -/
def checkLexemes :
    List Text →
    Structure →
    List Lexeme →
    Except StructureFault Structure
  | [], seen, [] => .ok seen
  | name :: _, _, [] => .error (.unclosed name)
  | opened, seen, .text _ :: rest => checkLexemes opened seen rest
  | opened, seen, .comment _ :: rest => checkLexemes opened seen rest
  | opened, seen, .standalone name _ _ :: rest =>
      checkLexemes opened (seen.count name (opened.length + 1)) rest
  | opened, seen, .opening name _ _ :: rest =>
      checkLexemes (name :: opened) (seen.count name (opened.length + 1)) rest
  | [], _, .closing name _ :: _ => .error (.unopened name)
  | innermost :: outer, seen, .closing name _ :: rest =>
      if innermost = name then
        checkLexemes outer seen rest
      else
        .error (.crossed name innermost)

/-- Check the nesting of a template. -/
def checkStructure (text : Text) : Except StructureFault Structure :=
  checkLexemes [] ⟨0, 0, []⟩ (lexemes text)

end Colloquy.Markup
