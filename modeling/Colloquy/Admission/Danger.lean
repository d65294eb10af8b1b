import Colloquy.Text.WordBoundary
import Colloquy.Text.Basic

namespace Colloquy.Admission

/-!
# Dangerous content

Four kinds of content are never learned: script tags, links that run scripts,
links that carry data with a media type, and tags with an event handler. A
recogniser is given the character before a text and the text, and answers with
what follows the content that it recognises. Letters are recognised in either
case, together with the two other characters that fold to a Latin letter.
-/

/-- Given the character before a text and the text, what follows the recognised content. -/
abbrev Recogniser := Option Char → Text → Option Text

/-- The character folds to the given small Latin letter. -/
def foldsTo
    (letter c : Char) :
    Bool :=
  c = letter || c = letter.toUpper ||
    (letter = 's' && c = 'ſ') || (letter = 'k' && c = '\u212a')

/-- The character folds to a Latin letter. -/
def isLatin (c : Char) : Bool :=
  c.isAlpha || c = 'ſ' || c = '\u212a'

/-- The character may stand in the second part of a media type. -/
def isSubtypeChar (c : Char) : Bool :=
  isLatin c || c.isDigit || c = '.' || c = '+' || c = '-'

/-- What follows the given word, in either case. -/
def word? :
    Text →
    Text →
    Option Text
  | [], text => some text
  | _ :: _, [] => none
  | letter :: letters, c :: rest =>
      if foldsTo letter c then word? letters rest else none

/-- What follows the given character. -/
def char?
    (mark : Char) :
    Text →
    Option Text
  | [] => none
  | c :: rest => if c = mark then some rest else none

/-- What follows one or more characters that satisfy the test. -/
def oneOrMore?
    (test : Char → Bool) :
    Text →
    Option Text
  | [] => none
  | c :: rest => if test c then some (rest.dropWhile test) else none

/-- A word boundary stands before the text. -/
def atBoundary
    (before : Option Char)
    (text : Text) :
    Bool :=
  Text.isBoundary before text.head?

/-- The beginning of a script tag. -/
def scriptTag? : Recogniser := fun _ text =>
  (char? '<' text).bind fun rest => word? "script".toList (Text.trimStart rest)

/-- A link that runs a script. -/
def scriptLink? : Recogniser := fun before text =>
  if atBoundary before text then
    ((word? "java".toList text).or (word? "vb".toList text)).bind fun rest =>
      (word? "script".toList rest).bind fun rest => char? ':' (Text.trimStart rest)
  else
    none

/-- A link that carries data with a media type. -/
def dataLink? : Recogniser := fun before text =>
  if atBoundary before text then
    (word? "data".toList text).bind fun rest =>
      (char? ':' (Text.trimStart rest)).bind fun rest =>
        (oneOrMore? isLatin (Text.trimStart rest)).bind fun rest =>
          (char? '/' rest).bind (oneOrMore? isSubtypeChar)
  else
    none

/-- An event handler with its equals sign. -/
def handler? : Recogniser := fun before text =>
  (word? "on".toList text).bind fun rest =>
    (oneOrMore? isLatin rest).bind fun rest =>
      (char? '=' (Text.trimStart rest)).filter fun _ => atBoundary before text

/-- The last event handler before the end of a tag, after the given character. -/
def lastHandler? :
    Char →
    Text →
    Option Text
  | _, [] => none
  | before, c :: rest =>
      (if c = '>' then none else lastHandler? c rest).or (handler? (some before) (c :: rest))

/-- A tag with an event handler, up to the last one. -/
def handlerTag? : Recogniser := fun _ text =>
  (char? '<' text).bind (lastHandler? '<')

/-- The first content in a text that the recogniser accepts. -/
def firstContent?
    (recognise : Recogniser) :
    Option Char →
    Text →
    Option Text
  | _, [] => none
  | before, c :: rest =>
      match recognise before (c :: rest) with
      | some after => some ((c :: rest).take (rest.length + 1 - after.length))
      | none => firstContent? recognise (some c) rest

/-- The recognisers in the order in which they are tried. -/
def recognisers : List Recogniser :=
  [scriptTag?, scriptLink?, dataLink?, handlerTag?]

/-- The dangerous content of a text, by the first recogniser that finds any. -/
def dangerousContent? (text : Text) : Option Text :=
  recognisers.findSome? (firstContent? · none text)

end Colloquy.Admission
