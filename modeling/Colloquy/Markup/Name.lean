import Colloquy.Text.Numeric

namespace Colloquy.Markup

/-!
# Names of tags and attributes
-/

/-- The character may begin a name. -/
def isNameStart (c : Char) : Bool :=
  Text.isLetter c || c = '_'

/-- The character may continue a name. -/
def isNameChar (c : Char) : Bool :=
  Text.isAlphanumeric c || c = '_' || c = '-' || c = ':' || c = '.'

/-- The characters form the name of a tag or an attribute. -/
def isName : List Char → Bool
  | [] => false
  | c :: rest => isNameStart c && rest.all isNameChar

end Colloquy.Markup
