import Colloquy.Text.Basic

namespace Colloquy.Text

/-!
# Numerals

Numbers are read from ASCII digits in a given base. A plus sign may stand in
front, and for signed numbers a minus sign; a number beyond the given bound is
refused.
-/

/-- The value of a digit, letters standing for ten and more in either case. -/
def digitValue (c : Char) : Option Nat :=
  if '0' ≤ c && c ≤ '9' then
    some (c.toNat - '0'.toNat)
  else if 'a' ≤ c && c ≤ 'z' then
    some (c.toNat - 'a'.toNat + 10)
  else if 'A' ≤ c && c ≤ 'Z' then
    some (c.toNat - 'A'.toNat + 10)
  else
    none

/-- The value of a digit of the given base. -/
def digitIn?
    (base : Nat)
    (c : Char) :
    Option Nat :=
  (digitValue c).filter (· < base)

/-- Read digits after those that gave the value so far. -/
def digitsFrom?
    (base : Nat) :
    Nat →
    Text →
    Option Nat
  | value, [] => some value
  | value, c :: rest =>
      (digitIn? base c).bind fun digit => digitsFrom? base (value * base + digit) rest

/-- Read a number from one or more digits. -/
def digits?
    (base : Nat)
    (text : Text) :
    Option Nat :=
  if text.isEmpty then
    none
  else
    digitsFrom? base 0 text

/-- Read a number of at most `bound`, perhaps after a plus sign. -/
def toNat?
    (base bound : Nat)
    (text : Text) :
    Option Nat :=
  let digits :=
    match text with
    | '+' :: rest => rest
    | _ => text
  (digits? base digits).filter (· ≤ bound)

/-- The largest number that an index or a count may have. -/
def maxCount : Nat :=
  0xFFFFFFFFFFFFFFFF

/-- The largest number that a signed numeral may give. -/
def maxInteger : Nat :=
  0x7FFFFFFFFFFFFFFF

/-- Read a decimal number from `-2^63` to `2^63 - 1`, perhaps after a sign. -/
def toInt? (text : Text) : Option Int :=
  match text with
  | '-' :: rest =>
      ((digits? 10 rest).filter (· ≤ maxInteger + 1)).map fun value => -(value : Int)
  | _ =>
      (toNat? 10 maxInteger text).map Int.ofNat

end Colloquy.Text
