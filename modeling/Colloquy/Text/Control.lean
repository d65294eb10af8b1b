import Colloquy.Text.Basic

namespace Colloquy.Text

/-!
# Control characters and quoted characters

Control characters are those of the Unicode general category Cc. A character is
quoted for messages between apostrophes, with an escape where it could not be
read otherwise.
-/

/-- The character is a control character. -/
def isControl (c : Char) : Bool :=
  c.toNat < 0x20 || (0x7F ≤ c.toNat && c.toNat ≤ 0x9F)

/-- A character as it stands between apostrophes. -/
def escapeQuoted (c : Char) : Text :=
  if c = '\x00' then
    ['\\', '0']
  else if c = '\t' then
    ['\\', 't']
  else if c = '\r' then
    ['\\', 'r']
  else if c = '\n' then
    ['\\', 'n']
  else if c = '\\' || c = '\'' then
    ['\\', c]
  else if isControl c then
    "\\u\x7b".toList ++ Nat.toDigits 16 c.toNat ++ ['\x7d']
  else
    [c]

/-- A character between apostrophes. -/
def quoteChar (c : Char) : Text :=
  ['\''] ++ escapeQuoted c ++ ['\'']

end Colloquy.Text
