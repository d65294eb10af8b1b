import Colloquy.Pronoun.Table
import Colloquy.Text.Case

namespace Colloquy.Pronoun

/-!
# Pronoun substitution

A text is taken apart into tokens, each a gap, leading punctuation, a core and
trailing punctuation. Only cores are looked up and replaced, and a replacement
takes the case of the core it stands for. Everything else is copied.
-/

/-- An apostrophe, straight or curly. -/
def isApostrophe (c : Char) : Bool :=
  c = '\'' || c = '’'

/-- The character may begin or end the span in which the core is found. -/
def isSpanChar (c : Char) : Bool :=
  Text.isAlphanumeric c || isApostrophe c

/-- One word of a text with the gap before it. -/
structure Token where
  space : Text
  lead : Text
  core : Text
  trail : Text
  deriving DecidableEq, Repr

namespace Token

/--
Take a word apart. The core is what remains of the span from the first to the
last span character once apostrophes at its ends are dropped; if nothing
remains, the span belongs to the trailing punctuation.
-/
def ofWord
    (space word : Text) :
    Token :=
  let outside (c : Char) : Bool := !isSpanChar c
  let lead := word.takeWhile outside
  let rest := word.dropWhile outside
  let span := Text.dropEndWhile outside rest
  let tail := Text.takeEndWhile outside rest
  let opened := span.dropWhile isApostrophe
  let core := Text.dropEndWhile isApostrophe opened
  if core.isEmpty then
    ⟨space, lead, [], span ++ tail⟩
  else
    ⟨space, lead ++ span.takeWhile isApostrophe, core,
      Text.takeEndWhile isApostrophe opened ++ tail⟩

/-- The spelling under which a core is looked up. -/
def key (token : Token) : Text :=
  (Text.lower token.core).map fun c => if c = '’' then '\'' else c

end Token

/-- The tokens of a text. -/
def tokens (spaced : Spaced) : List Token :=
  spaced.pieces.map fun (gap, word) => Token.ofWord gap word

/-- The replacement is "I" or begins with it as in "I'm". -/
def keepsCapital : Text → Bool
  | ['I'] => true
  | 'I' :: '\'' :: _ => true
  | _ => false

/-- The spellings of the first person singular, contractions included. -/
def firstPersonSingular : List String :=
  ["i", "i'm", "i've", "i'll", "i'd"]

/--
Give a replacement the case of the core it stands for. All capitals stay all
capitals. The word "I" is always a capital itself, so it makes its replacement a
capital only at the start of the text.
-/
def matchCase
    (first : Bool)
    (token : Token)
    (replacement : Text) :
    Text :=
  let letters := token.core.filter Text.isLetter
  if keepsCapital replacement then
    if letters.all Text.isCapital && token.core.length > 1 then
      Text.upper replacement
    else
      replacement
  else if letters.length > 1 && letters.all Text.isCapital then
    Text.upper replacement
  else
    let capital :=
      if listed firstPersonSingular token.key then
        first
      else
        letters.head?.any Text.isCapital
    if capital then
      Text.capitalise replacement
    else
      Text.lower replacement

/-- The replacement of a token's core, if it has one. -/
def replacement?
    (swap : Swap)
    (first : Bool)
    (previous next : Option Text)
    (token : Token) :
    Option Text :=
  (swap.contextual? first previous next token.key).or (swap.tabulated? token.key)

/-- Substitute in tokens that follow the given word. -/
def substituteTokens
    (swap : Swap) :
    Bool →
    Option Text →
    List Token →
    Text
  | _, _, [] => []
  | first, previous, token :: rest =>
      if token.core.isEmpty then
        token.space ++ token.lead ++ token.trail ++
          substituteTokens swap first (some token.key) rest
      else
        let next := rest.head?.map Token.key
        let core :=
          match replacement? swap first previous next token with
          | some replacement => matchCase first token replacement
          | none => token.core
        token.space ++ token.lead ++ core ++ token.trail ++
          substituteTokens swap false (some token.key) rest

/-- Swap the pronouns of a text. -/
def substitute
    (swap : Swap)
    (text : Text) :
    Text :=
  let spaced := Spaced.ofText text
  substituteTokens swap true none (tokens spaced) ++ spaced.trailing

end Colloquy.Pronoun
