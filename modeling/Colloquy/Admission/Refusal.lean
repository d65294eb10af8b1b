import Colloquy.Markup.Structure
import Colloquy.Text.Control

namespace Colloquy.Admission

/-!
# Refusals

Why a category is not learned. Each cause has a key under which it is counted and
a message that gives the offending values.
-/

/-- The patterns of a category. -/
inductive PatternField where
  | input
  | that
  | topic
  deriving DecidableEq, Repr

/-- How a pattern is called in messages. -/
def PatternField.spelling : PatternField → Text
  | .input => "input".toList
  | .that => "that".toList
  | .topic => "topic".toList

/-- The parts of a category. -/
inductive Part where
  | pattern
  | that
  | topic
  | template
  deriving DecidableEq, Repr

/-- How a part is called in messages. -/
def Part.spelling : Part → Text
  | .pattern => "pattern".toList
  | .that => "that".toList
  | .topic => "topic".toList
  | .template => "template".toList

/-- Why a category is not learned. -/
inductive Refusal where
  | emptyPattern
  | emptyTemplate
  | patternTooLong (field : PatternField) (max got : Nat)
  | patternTooShort (field : PatternField) (min got : Nat)
  | patternTooComplex (field : PatternField) (max got : Nat)
  | templateTooLong (max got : Nat)
  | tooManyWildcards (field : PatternField) (max got : Nat)
  | consecutiveWildcards (field : PatternField) (position : Nat)
  | unbalancedParentheses (field : PatternField)
  | unbalancedTags (fault : Markup.StructureFault)
  | invalidCharacters (field : PatternField) (characters : List Char)
  | dangerousContent (part : Part) (content : Text)
  | tooManySelfReferences (max got : Nat)
  | tooManyWildcardReferences (max got : Nat)
  | badGroup (field : PatternField) (inside : Text)
  | excessiveNesting (max got : Nat)
  | unknownTag (name : Text)
  deriving DecidableEq, Repr

namespace Refusal

/-- The key under which a cause is counted. -/
def reason : Refusal → Text
  | .emptyPattern => "empty_pattern".toList
  | .emptyTemplate => "empty_template".toList
  | .patternTooLong .. => "pattern_too_long".toList
  | .patternTooShort .. => "pattern_too_short".toList
  | .patternTooComplex .. => "pattern_too_complex".toList
  | .templateTooLong .. => "template_too_long".toList
  | .tooManyWildcards .. => "too_many_wildcards".toList
  | .consecutiveWildcards .. => "consecutive_wildcards".toList
  | .unbalancedParentheses .. => "unbalanced_parentheses".toList
  | .unbalancedTags .. => "unbalanced_tags".toList
  | .invalidCharacters .. => "invalid_characters".toList
  | .dangerousContent .. => "dangerous_content".toList
  | .tooManySelfReferences .. => "too_many_self_references".toList
  | .tooManyWildcardReferences .. => "too_many_wildcard_references".toList
  | .badGroup .. => "bad_alternation".toList
  | .excessiveNesting .. => "excessive_nesting".toList
  | .unknownTag .. => "unknown_tag".toList

/-- A bound and what was found instead, in words. -/
def bound
    (label : String)
    (limit got : Nat) :
    Text :=
  " (".toList ++ label.toList ++ ": ".toList ++ Text.ofNat limit ++ ", got: ".toList ++
    Text.ofNat got ++ ")".toList

/-- A refusal in words. -/
def message : Refusal → Text
  | .emptyPattern => "pattern cannot be empty".toList
  | .emptyTemplate => "template cannot be empty".toList
  | .patternTooLong field max got =>
      field.spelling ++ " pattern too long".toList ++ bound "max" max got
  | .patternTooShort field min got =>
      field.spelling ++ " pattern too short".toList ++ bound "min" min got
  | .patternTooComplex field max got =>
      field.spelling ++ " pattern too complex".toList ++ bound "max tokens" max got
  | .templateTooLong max got => "template too long".toList ++ bound "max" max got
  | .tooManyWildcards field max got =>
      field.spelling ++ " pattern has too many wildcards".toList ++ bound "max" max got
  | .consecutiveWildcards field position =>
      field.spelling ++ " pattern has consecutive wildcards at token ".toList ++
        Text.ofNat position
  | .unbalancedParentheses field =>
      field.spelling ++ " pattern has unbalanced parentheses".toList
  | .unbalancedTags fault => "template has unbalanced tags: ".toList ++ fault.message
  | .invalidCharacters field characters =>
      field.spelling ++ " pattern contains invalid characters: ".toList ++
        [' '].intercalate (characters.map Text.quoteChar)
  | .dangerousContent part content =>
      part.spelling ++ " contains dangerous content: ".toList ++ content
  | .tooManySelfReferences max got =>
      "template has too many self-references".toList ++ bound "max" max got
  | .tooManyWildcardReferences max got =>
      "template has too many wildcard references".toList ++ bound "max" max got
  | .badGroup field inside =>
      field.spelling ++ " pattern has a bad alternation group: (".toList ++ inside ++
        ")".toList
  | .excessiveNesting max got =>
      "template has excessive nesting".toList ++ bound "max depth" max got
  | .unknownTag name => "template uses an unknown tag: <".toList ++ name ++ ">".toList

end Refusal

end Colloquy.Admission
