import Colloquy.Text.Basic
import Colloquy.Text.Numeral

namespace Colloquy.Markup

/-!
# Character entities

Markup characters are written in text as entities: a name or a number between an
ampersand and a semicolon. Decoding leaves whatever is no entity as it stands;
escaping writes the characters that markup keeps for itself.
-/

/-- The longest entity, in bytes from its ampersand to its semicolon. -/
def maxEntityLength : Nat :=
  10

/-- The character with the given code, unless the code is no character. -/
def charOfCode? (code : Nat) : Option Char :=
  if code.isValidChar then
    some (Char.ofNat code)
  else
    none

/-- The largest code that is read, whether or not it is a character's. -/
def maxCode : Nat :=
  0xFFFFFFFF

/-- The code after the number sign, in base ten or, after an `x`, sixteen. -/
def referenceCode? : Text → Option Nat
  | 'x' :: digits => Text.toNat? 16 maxCode digits
  | 'X' :: digits => Text.toNat? 16 maxCode digits
  | digits => Text.toNat? 10 maxCode digits

/-- The character that an entity's name or number stands for. -/
def entityChar? : Text → Option Char
  | ['l', 't'] => some '<'
  | ['g', 't'] => some '>'
  | ['a', 'm', 'p'] => some '&'
  | ['q', 'u', 'o', 't'] => some '"'
  | ['a', 'p', 'o', 's'] => some '\''
  | '#' :: number => (referenceCode? number).bind charOfCode?
  | _ => none

/--
The character of the entity whose ampersand stands right before the text, and
the number of characters up to and including its semicolon.
-/
def entityAt? (text : Text) : Option (Char × Nat) :=
  let name := text.takeWhile (· ≠ ';')
  if name.length < text.length && 1 + Text.byteLength name ≤ maxEntityLength then
    (entityChar? name).map fun c => (c, name.length + 1)
  else
    none

/-- Decode the entities that start after the next `skipped` characters. -/
def decodeAfter :
    Nat →
    Text →
    Text
  | _, [] => []
  | skipped + 1, _ :: rest => decodeAfter skipped rest
  | 0, c :: rest =>
      if c = '&' then
        match entityAt? rest with
        | some (decoded, length) => decoded :: decodeAfter length rest
        | none => '&' :: decodeAfter 0 rest
      else
        c :: decodeAfter 0 rest

/-- Decode every entity of a text. -/
def decodeEntities (text : Text) : Text :=
  decodeAfter 0 text

/-- Decoding never makes a text longer. -/
theorem decodeAfter_length
    (skipped : Nat)
    (text : Text) :
    (decodeAfter skipped text).length ≤ text.length := by
  fun_induction decodeAfter skipped text with
  | case1 => simp
  | case2 skipped c rest inductionHypothesis =>
      simp only [List.length_cons]
      omega
  | case3 rest decoded length found inductionHypothesis =>
      simp only [List.length_cons]
      omega
  | case4 rest missing inductionHypothesis =>
      simp only [List.length_cons]
      omega
  | case5 c rest plain inductionHypothesis =>
      simp only [List.length_cons]
      omega

/-- Decoding a text gives one that is at most as long. -/
theorem decodeEntities_length (text : Text) :
    (decodeEntities text).length ≤ text.length :=
  decodeAfter_length 0 text

/-- How a character is written; quotes need an entity only inside attributes. -/
def escapeChar
    (inAttribute : Bool)
    (c : Char) :
    Text :=
  if c = '&' then
    ['&', 'a', 'm', 'p', ';']
  else if c = '<' then
    ['&', 'l', 't', ';']
  else if c = '>' then
    ['&', 'g', 't', ';']
  else if inAttribute && c = '"' then
    ['&', 'q', 'u', 'o', 't', ';']
  else
    [c]

/-- Write a text so that it reads back as text. -/
def escapeText (text : Text) : Text :=
  text.flatMap (escapeChar false)

/-- Write a text so that it reads back as the value of an attribute. -/
def escapeAttribute (text : Text) : Text :=
  text.flatMap (escapeChar true)

end Colloquy.Markup
