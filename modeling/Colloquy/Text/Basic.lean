import Colloquy.Text.Blank

namespace Colloquy

/-!
# Texts

Everything a conversation is made of (utterances, patterns, templates, answers)
is a text, and every rule of this library is stated on characters. A text is
therefore kept as the list of its characters.
-/

/-- A text is the list of its characters. -/
abbrev Text := List Char

namespace Text

/-- The text holds blank characters only. -/
def allBlank (text : Text) : Bool :=
  text.all isBlank

/-- Drop the blank characters at the start. -/
def trimStart (text : Text) : Text :=
  text.dropWhile isBlank

/-- Drop the characters at the end that satisfy the test. -/
def dropEndWhile
    (test : Char → Bool)
    (text : Text) :
    Text :=
  (text.reverse.dropWhile test).reverse

/-- Keep only the characters at the end that satisfy the test. -/
def takeEndWhile
    (test : Char → Bool)
    (text : Text) :
    Text :=
  (text.reverse.takeWhile test).reverse

/-- Drop the blank characters at the end. -/
def trimEnd (text : Text) : Text :=
  dropEndWhile isBlank text

/-- Drop the blank characters at both ends. -/
def trim (text : Text) : Text :=
  trimEnd (trimStart text)

/-- The number of bytes of the text in UTF-8. -/
def byteLength : Text → Nat
  | [] => 0
  | c :: rest => c.utf8Size + byteLength rest

/-- What stands before and after the first occurrence of a mark. -/
def breakAt?
    (mark : Text) :
    Text →
    Option (Text × Text)
  | [] =>
      if mark.isEmpty then some ([], []) else none
  | c :: rest =>
      if mark.isPrefixOf (c :: rest) then
        some ([], (c :: rest).drop mark.length)
      else
        (breakAt? mark rest).map fun (before, after) => (c :: before, after)

/-- The decimal digits of a number. -/
def ofNat (n : Nat) : Text :=
  Nat.toDigits 10 n

end Text

end Colloquy
