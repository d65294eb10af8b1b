import Colloquy.Markup.Entity
import Colloquy.Markup.Name

namespace Colloquy.Markup

/-!
# Lexemes

A template is a sequence of lexemes: runs of text, comments, and opening, closing
and self-closing tags. Reading lexemes never fails: whatever is no complete tag
is text. Each lexeme carries the piece of the template it was read from, and the
pieces in order are the template.
-/

/-- An attribute's name and decoded value. -/
abbrev Attribute := Text × Text

/-- One lexical unit of a template, with its source. -/
inductive Lexeme where
  | text (source : Text)
  | comment (source : Text)
  | opening (name : Text) (attributes : List Attribute) (source : Text)
  | closing (name : Text) (source : Text)
  | standalone (name : Text) (attributes : List Attribute) (source : Text)
  deriving DecidableEq, Repr

/-- The piece of the template that a lexeme was read from. -/
def Lexeme.source : Lexeme → Text
  | .text source => source
  | .comment source => source
  | .opening _ _ source => source
  | .closing _ source => source
  | .standalone _ _ source => source

/-- The farthest that a character may start, in bytes, after its opening quote. -/
def maxQuotedLength : Nat :=
  512

/-- The character opens and closes quoted values. -/
def isQuote (c : Char) : Bool :=
  c = '"' || c = '\''

/-- Inside which quotes a character stands, and how many bytes after their opening. -/
abbrev Quotation := Option (Char × Nat)

/--
What stands before the `>` that ends a tag, and what stands after it. Quoted
values are passed over. A `<` outside of them, a line break inside of them and a
value that runs too far mean that there is no such end.
-/
def splitTag? :
    Quotation →
    Text →
    Option (Text × Text)
  | _, [] => none
  | some (quote, distance), c :: rest =>
      if c = quote then
        (splitTag? none rest).map fun (body, after) => (c :: body, after)
      else if c = '\n' || distance > maxQuotedLength then
        none
      else
        (splitTag? (some (quote, distance + c.utf8Size)) rest).map
          fun (body, after) => (c :: body, after)
  | none, c :: rest =>
      if isQuote c then
        (splitTag? (some (c, c.utf8Size)) rest).map fun (body, after) => (c :: body, after)
      else if c = '>' then
        some ([], rest)
      else if c = '<' then
        none
      else
        (splitTag? none rest).map fun (body, after) => (c :: body, after)

/-- The character ends an attribute's name. -/
def endsAttributeName (c : Char) : Bool :=
  c = '=' || Text.isBlank c

/-- Read a quoted value, giving it decoded together with what follows it. -/
def quotedValue? : Text → Option (Text × Text)
  | [] => none
  | quote :: rest =>
      if isQuote quote then
        match rest.dropWhile (· ≠ quote) with
        | [] => none
        | _ :: after => some (decodeEntities (rest.takeWhile (· ≠ quote)), after)
      else
        none

/-- Read one attribute at the start of a text, giving it with what follows it. -/
def attribute? (text : Text) : Option (Attribute × Text) :=
  let name := text.takeWhile fun c => !endsAttributeName c
  let rest := text.dropWhile fun c => !endsAttributeName c
  if isName name then
    match Text.trimStart rest with
    | '=' :: assigned =>
        (quotedValue? (Text.trimStart assigned)).map
          fun (value, after) => ((name, value), after)
    | _ => none
  else
    none

theorem length_dropWhile_le
    (test : Char → Bool)
    (text : Text) :
    (text.dropWhile test).length ≤ text.length :=
  (List.dropWhile_sublist test).length_le

theorem length_trimStart_le (text : Text) :
    (Text.trimStart text).length ≤ text.length :=
  length_dropWhile_le Text.isBlank text

theorem length_takeWhile_add_dropWhile
    (test : Char → Bool)
    (text : Text) :
    (text.takeWhile test).length + (text.dropWhile test).length = text.length := by
  rw [← List.length_append, List.takeWhile_append_dropWhile]

/-- A quoted value and what follows it are shorter than the text by the quotes. -/
theorem quotedValue?_length
    {text value after : Text}
    (found : quotedValue? text = some (value, after)) :
    value.length + after.length + 2 ≤ text.length := by
  cases text with
  | nil => simp [quotedValue?] at found
  | cons quote rest =>
      simp only [quotedValue?] at found
      split at found
      · split at found
        · simp at found
        · next closing tail dropped =>
            simp only [Option.some.injEq, Prod.mk.injEq] at found
            obtain ⟨valueIs, afterIs⟩ := found
            subst valueIs afterIs
            have decoded := decodeEntities_length (rest.takeWhile (· ≠ quote))
            have total := length_takeWhile_add_dropWhile (· ≠ quote) rest
            rw [dropped] at total
            simp only [List.length_cons] at total ⊢
            omega
      · simp at found

/-- An attribute and what follows it are shorter than the text. -/
theorem attribute?_length
    {text after : Text}
    {entry : Attribute}
    (found : attribute? text = some (entry, after)) :
    entry.1.length + entry.2.length + after.length + 3 ≤ text.length := by
  simp only [attribute?] at found
  split at found
  · split at found
    · next assigned trimmed =>
        simp only [Option.map_eq_some_iff, Prod.mk.injEq, Prod.exists] at found
        obtain ⟨value, rest, quoted, entryIs, afterIs⟩ := found
        subst entryIs afterIs
        have value_length := quotedValue?_length quoted
        have assigned_length := length_trimStart_le assigned
        have rest_length :=
          length_trimStart_le (text.dropWhile fun c => !endsAttributeName c)
        rw [trimmed] at rest_length
        have total := length_takeWhile_add_dropWhile (fun c => !endsAttributeName c) text
        simp only [List.length_cons] at rest_length ⊢
        omega
    · simp at found
  · simp at found

/-- Read a whole text as attributes with optional blank characters between them. -/
def attributes? (text : Text) : Option (List Attribute) :=
  if (Text.trimStart text).isEmpty then
    some []
  else
    match _found : attribute? (Text.trimStart text) with
    | none => none
    | some (entry, after) => (attributes? after).map (entry :: ·)
termination_by text.length
decreasing_by
  have shorter := attribute?_length _found
  have trimmed_length := length_trimStart_le text
  omega

/-- Read the inside of a closing tag, which begins after its slash. -/
def closingTag?
    (inside source : Text) :
    Option Lexeme :=
  let name := Text.trim inside
  if isName name then
    some (.closing name source)
  else
    none

/-- Drop a slash at the end, saying whether there was one. -/
def dropSlash (inside : Text) : Text × Bool :=
  match inside.reverse with
  | '/' :: rest => (rest.reverse, true)
  | _ => (inside, false)

/-- Read the inside of an opening or self-closing tag. -/
def startTag?
    (inside source : Text) :
    Option Lexeme :=
  let (body, selfClosing) := dropSlash (Text.trimEnd inside)
  let name := body.takeWhile fun c => !Text.isBlank c
  let rest := body.dropWhile fun c => !Text.isBlank c
  if isName name then
    (attributes? rest).map fun attributes =>
      if selfClosing then
        .standalone name attributes source
      else
        .opening name attributes source
  else
    none

/-- Read the tag whose `<` stands right before the text, giving it with what follows it. -/
def tag? (text : Text) : Option (Lexeme × Text) :=
  (splitTag? none text).bind fun (body, after) =>
    let source := '<' :: (body ++ ['>'])
    let lexeme? :=
      match body with
      | '/' :: inside => closingTag? inside source
      | _ => startTag? body source
    lexeme?.map fun lexeme => (lexeme, after)

/-- How a comment begins. -/
def commentStart : Text :=
  ['<', '!', '-', '-']

/-- How a comment ends. -/
def commentEnd : Text :=
  ['-', '-', '>']

/-- Read the lexeme at the start of a text that begins with the given character. -/
def nextLexeme
    (c : Char)
    (rest : Text) :
    Lexeme × Text :=
  if c ≠ '<' then
    (.text (c :: rest.takeWhile (· ≠ '<')), rest.dropWhile (· ≠ '<'))
  else if commentStart.isPrefixOf (c :: rest) then
    let inside := rest.drop 3
    match Text.breakAt? commentEnd inside with
    | some (body, after) => (.comment (commentStart ++ body ++ commentEnd), after)
    | none => (.text (c :: rest), [])
  else
    match tag? rest with
    | some (lexeme, after) => (lexeme, after)
    | none => (.text [c], rest)

/-- A tag's inside, its `>` and what follows are the text. -/
theorem splitTag?_append
    {quotation : Quotation}
    {text body after : Text}
    (found : splitTag? quotation text = some (body, after)) :
    body ++ '>' :: after = text := by
  fun_induction splitTag? quotation text generalizing body with
  | case1 => simp at found
  | case2 quote distance rest inductionHypothesis =>
      simp only [Option.map_eq_some_iff, Prod.mk.injEq, Prod.exists] at found
      obtain ⟨inner, outer, innerFound, bodyIs, afterIs⟩ := found
      subst bodyIs afterIs
      simp [inductionHypothesis innerFound]
  | case3 => simp at found
  | case4 quote distance c rest _ _ inductionHypothesis =>
      simp only [Option.map_eq_some_iff, Prod.mk.injEq, Prod.exists] at found
      obtain ⟨inner, outer, innerFound, bodyIs, afterIs⟩ := found
      subst bodyIs afterIs
      simp [inductionHypothesis innerFound]
  | case5 c rest _ inductionHypothesis =>
      simp only [Option.map_eq_some_iff, Prod.mk.injEq, Prod.exists] at found
      obtain ⟨inner, outer, innerFound, bodyIs, afterIs⟩ := found
      subst bodyIs afterIs
      simp [inductionHypothesis innerFound]
  | case6 rest =>
      simp only [Option.some.injEq, Prod.mk.injEq] at found
      obtain ⟨bodyIs, afterIs⟩ := found
      subst bodyIs afterIs
      rfl
  | case7 => simp at found
  | case8 c rest _ _ _ inductionHypothesis =>
      simp only [Option.map_eq_some_iff, Prod.mk.injEq, Prod.exists] at found
      obtain ⟨inner, outer, innerFound, bodyIs, afterIs⟩ := found
      subst bodyIs afterIs
      simp [inductionHypothesis innerFound]

/-- The source of a closing tag is what it was read from. -/
theorem closingTag?_source
    {inside source : Text}
    {lexeme : Lexeme}
    (found : closingTag? inside source = some lexeme) :
    lexeme.source = source := by
  simp only [closingTag?] at found
  split at found
  · simp only [Option.some.injEq] at found
    subst found
    rfl
  · simp at found

/-- The source of a start tag is what it was read from. -/
theorem startTag?_source
    {inside source : Text}
    {lexeme : Lexeme}
    (found : startTag? inside source = some lexeme) :
    lexeme.source = source := by
  simp only [startTag?] at found
  split at found
  · simp only [Option.map_eq_some_iff] at found
    obtain ⟨attributes, _, lexemeIs⟩ := found
    split at lexemeIs <;> subst lexemeIs <;> rfl
  · simp at found

/-- A tag's source begins with `<`, and with what follows it is the text. -/
theorem tag?_source
    {text after : Text}
    {lexeme : Lexeme}
    (found : tag? text = some (lexeme, after)) :
    lexeme.source ≠ [] ∧ lexeme.source ++ after = '<' :: text := by
  simp only [tag?, Option.bind_eq_some_iff, Prod.exists] at found
  obtain ⟨body, rest, split, read⟩ := found
  simp only [Option.map_eq_some_iff, Prod.mk.injEq] at read
  obtain ⟨tag, tagFound, tagIs, afterIs⟩ := read
  subst tagIs afterIs
  have sourceIs : tag.source = '<' :: (body ++ ['>']) := by
    revert tagFound
    split
    · exact closingTag?_source
    · exact startTag?_source
  constructor
  · simp [sourceIs]
  · simp [sourceIs, ← splitTag?_append split]

/-- What stands before a mark, the mark and what stands after it are the text. -/
theorem breakAt?_append
    {mark text before after : Text}
    (found : Text.breakAt? mark text = some (before, after)) :
    before ++ mark ++ after = text := by
  fun_induction Text.breakAt? mark text generalizing before with
  | case1 empty =>
      simp only [Option.some.injEq, Prod.mk.injEq] at found
      obtain ⟨beforeIs, afterIs⟩ := found
      subst beforeIs afterIs
      simpa using empty
  | case2 => simp at found
  | case3 c rest starts =>
      simp only [Option.some.injEq, Prod.mk.injEq] at found
      obtain ⟨beforeIs, afterIs⟩ := found
      subst beforeIs afterIs
      obtain ⟨tail, whole⟩ := List.isPrefixOf_iff_prefix.mp starts
      simp [← whole]
  | case4 c rest _ inductionHypothesis =>
      simp only [Option.map_eq_some_iff, Prod.mk.injEq, Prod.exists] at found
      obtain ⟨inner, outer, innerFound, beforeIs, afterIs⟩ := found
      subst beforeIs afterIs
      simpa using inductionHypothesis innerFound

/-- A lexeme's source is never empty, and with what follows it is the text. -/
theorem nextLexeme_source
    (c : Char)
    (rest : Text) :
    (nextLexeme c rest).1.source ≠ [] ∧
      (nextLexeme c rest).1.source ++ (nextLexeme c rest).2 = c :: rest := by
  fun_cases nextLexeme c rest with
  | case1 => simp [Lexeme.source]
  | case2 isOpen starts inside body after found =>
      obtain ⟨tail, whole⟩ := List.isPrefixOf_iff_prefix.mp starts
      constructor
      · simp [Lexeme.source, commentStart]
      · have insideIs := breakAt?_append found
        simp only [commentStart, List.cons_append, List.nil_append, List.cons.injEq] at whole
        obtain ⟨rfl, rfl⟩ := whole
        simp only [inside, List.drop_succ_cons, List.drop_zero] at insideIs
        simp [Lexeme.source, commentStart, ← insideIs]
  | case3 => simp [Lexeme.source]
  | case4 isOpen _ lexeme after found =>
      have opens : c = '<' := Decidable.not_not.mp isOpen
      rw [opens]
      exact tag?_source found
  | case5 => simp [Lexeme.source]

/-- The lexemes of a text, in order. -/
def lexemes : Text → List Lexeme
  | [] => []
  | c :: rest =>
      let step := nextLexeme c rest
      step.1 :: lexemes step.2
termination_by text => text.length
decreasing_by
  have tiles := nextLexeme_source c rest
  have lengths := congrArg List.length tiles.2
  have nonempty := List.length_pos_iff.mpr tiles.1
  simp only [List.length_append, List.length_cons] at lengths ⊢
  omega

end Colloquy.Markup
