import Colloquy.Markup.Node
import Colloquy.Proofs.Text.Words
import Mathlib.Data.List.Induction

namespace Colloquy.Markup

/-!
# Reading what was written

Escaped text decodes to the text and holds none of the characters that markup
keeps for itself, and names hold none of them either. So each text that is written
before a tag or at the end is read back as one lexeme, and so is each tag, with the
same name and attributes, unless a value in it breaks a line or runs too far.
-/

/-! ## Where a run of characters ends -/

/-- A text falls apart where the characters end that go on with its first part. -/
theorem span_append
    {goesOn : Char → Bool}
    {first : Text}
    (wholly : ∀ c ∈ first, goesOn c = true)
    (rest : Text)
    (stops : rest.head?.all fun c => !goesOn c) :
    (first ++ rest).takeWhile goesOn = first ∧ (first ++ rest).dropWhile goesOn = rest := by
  rw [List.takeWhile_append_of_pos wholly, List.dropWhile_append_of_pos wholly]
  cases rest with
  | nil =>
      simp
  | cons c later =>
      have stopsHere : goesOn c = false := by
        simpa using stops
      simp [stopsHere]

/-- A text is cut at the first mark. -/
theorem span_before
    {mark : Char}
    {first : Text}
    (without : mark ∉ first)
    (rest : Text)
    (stops : rest.head?.all (· = mark)) :
    (first ++ rest).takeWhile (· ≠ mark) = first ∧
      (first ++ rest).dropWhile (· ≠ mark) = rest := by
  apply span_append
  · intro c member
    simp only [decide_eq_true_eq]
    rintro rfl
    exact without member
  · simpa using stops

/-! ## Escaping -/

/-- The names of the entities that escaping writes. -/
def writtenEntities : List Text :=
  ["amp".toList, "lt".toList, "gt".toList, "quot".toList]

/-- How a character is written: as it is, or as an entity that stands for it. -/
inductive Escaped
    (inAttribute : Bool)
    (c : Char) :
    Text → Prop where
  | plain :
      c ≠ '&' →
      c ≠ '<' →
      (inAttribute = true → c ≠ '"') →
      Escaped inAttribute c [c]
  | entity (name : Text) :
      name ∈ writtenEntities →
      entityChar? name = some c →
      Escaped inAttribute c ('&' :: (name ++ [';']))

/-- Every character is written in one of the ways to escape it. -/
theorem escaped_escapeChar
    (inAttribute : Bool)
    (c : Char) :
    Escaped inAttribute c (escapeChar inAttribute c) := by
  by_cases isAmpersand : c = '&'
  · subst isAmpersand
    exact .entity "amp".toList (by decide) rfl
  by_cases isLess : c = '<'
  · subst isLess
    exact .entity "lt".toList (by decide) rfl
  by_cases isGreater : c = '>'
  · subst isGreater
    exact .entity "gt".toList (by decide) rfl
  by_cases isQuoted : inAttribute = true ∧ c = '"'
  · obtain ⟨rfl, rfl⟩ := isQuoted
    exact .entity "quot".toList (by decide) rfl
  · have written : escapeChar inAttribute c = [c] := by
      simp [escapeChar, isAmpersand, isLess, isGreater, isQuoted]
    rw [written]
    exact .plain isAmpersand isLess fun inside isQuote => isQuoted ⟨inside, isQuote⟩

theorem decodeAfter_append
    (skipped rest : Text) :
    decodeAfter skipped.length (skipped ++ rest) = decodeAfter 0 rest := by
  induction skipped with
  | nil =>
      rfl
  | cons c later inductionHypothesis =>
      simpa [decodeAfter] using inductionHypothesis

/-- A name with its semicolon is read as the character it stands for. -/
theorem entityAt?_append
    {name : Text}
    {c : Char}
    (written : name ∈ writtenEntities)
    (stands : entityChar? name = some c)
    (rest : Text) :
    entityAt? (name ++ ';' :: rest) = some (c, (name ++ [';']).length) := by
  have noSemicolon : ∀ name ∈ writtenEntities, ';' ∉ name := by
    decide
  have short : ∀ name ∈ writtenEntities, 1 + Text.byteLength name ≤ maxEntityLength := by
    decide
  obtain ⟨taken, _⟩ := span_before (noSemicolon name written) (';' :: rest) (by simp)
  simp only [entityAt?, taken]
  simp [stands, short name written]

namespace Escaped

variable {inAttribute : Bool} {c : Char} {written : Text}

/-- A written character is decoded as itself. -/
theorem decodeAfter
    (escaped : Escaped inAttribute c written)
    (rest : Text) :
    decodeAfter 0 (written ++ rest) = c :: decodeAfter 0 rest := by
  cases escaped with
  | plain notAmpersand _ _ =>
      rw [List.singleton_append, Markup.decodeAfter, if_neg notAmpersand]
  | entity name isWritten stands =>
      have skipped := decodeAfter_append (name ++ [';']) rest
      simp only [List.append_assoc, List.singleton_append] at skipped
      simp only [List.cons_append, List.append_assoc, List.nil_append, Markup.decodeAfter,
        if_true, entityAt?_append isWritten stands, skipped]

/-- A character that ends text or a value is written for itself only. -/
theorem plain_of_mem
    (escaped : Escaped inAttribute c written)
    {d : Char}
    (ends : d ∈ ['<', '"', '\n'])
    (member : d ∈ written) :
    d = c ∧ c ≠ '<' ∧ (inAttribute = true → c ≠ '"') := by
  cases escaped with
  | plain _ notLess notQuote =>
      exact ⟨List.mem_singleton.mp member, notLess, notQuote⟩
  | entity name isWritten _ =>
      have checked : ∀ name ∈ writtenEntities,
          ['<', '"', '\n'].all (fun d => !('&' :: (name ++ [';'])).contains d) = true := by
        decide
      have absent := List.all_eq_true.mp (checked name isWritten) d ends
      simp only [List.contains_eq_mem, member, decide_true, Bool.not_true,
        Bool.false_eq_true] at absent

end Escaped

/-- What is written for a text decodes to the text. -/
theorem decodeEntities_flatMap_escapeChar
    (inAttribute : Bool)
    (text : Text) :
    decodeEntities (text.flatMap (escapeChar inAttribute)) = text := by
  simp only [decodeEntities]
  induction text with
  | nil =>
      rfl
  | cons c rest inductionHypothesis =>
      rw [List.flatMap_cons, (escaped_escapeChar inAttribute c).decodeAfter,
        inductionHypothesis]

/-- A character that ends text or a value is written only where it stands and ends neither. -/
theorem plain_of_mem_flatMap_escapeChar
    {inAttribute : Bool}
    {text : Text}
    {d : Char}
    (ends : d ∈ ['<', '"', '\n'])
    (member : d ∈ text.flatMap (escapeChar inAttribute)) :
    d ∈ text ∧ d ≠ '<' ∧ (inAttribute = true → d ≠ '"') := by
  obtain ⟨c, inText, inWritten⟩ := List.mem_flatMap.mp member
  obtain ⟨rfl, plain⟩ := (escaped_escapeChar inAttribute c).plain_of_mem ends inWritten
  exact ⟨inText, plain⟩

/-- Escaped text holds no less-than sign. -/
theorem less_not_mem_escapeText (text : Text) : '<' ∉ escapeText text :=
  fun member => (plain_of_mem_flatMap_escapeChar (by simp) member).2.1 rfl

/-- An escaped value holds no quote. -/
theorem quote_not_mem_escapeAttribute (value : Text) : '"' ∉ escapeAttribute value :=
  fun member => (plain_of_mem_flatMap_escapeChar (by simp) member).2.2 rfl rfl

theorem escapeText_ne_nil
    {text : Text}
    (nonempty : text ≠ []) :
    escapeText text ≠ [] := by
  intro empty
  apply nonempty
  rw [← decodeEntities_flatMap_escapeChar false text]
  exact congrArg decodeEntities empty

/-! ## Names -/

/-- The characters that markup gives a meaning of their own. -/
def markupChars : List Char :=
  ['<', '>', '/', '=', '!', '"', '\'']

theorem isNameChar_of_mem
    {name : Text}
    (named : isName name = true)
    {c : Char}
    (member : c ∈ name) :
    isNameChar c = true := by
  cases name with
  | nil =>
      simp at member
  | cons first rest =>
      simp only [isName, Bool.and_eq_true, List.all_eq_true] at named
      rcases List.mem_cons.mp member with isFirst | isLater
      · rw [isFirst]
        have starts := named.1
        simp only [isNameStart, Bool.or_eq_true] at starts
        rcases starts with isLetter | isUnderscore
        · simp [isNameChar, Text.isAlphanumeric, isLetter]
        · simp [isNameChar, isUnderscore]
      · exact named.2 c isLater

/-- No character of a name has a meaning of its own. -/
theorem ne_of_isNameChar
    {c d : Char}
    (inName : isNameChar c = true)
    (isMarkup : d ∈ markupChars) :
    c ≠ d := by
  have checked : markupChars.all (fun d => !isNameChar d) = true := by
    decide +kernel
  rintro rfl
  have noName := List.all_eq_true.mp checked c isMarkup
  simp [inName] at noName

theorem isQuote_eq_false_of_isNameChar
    {c : Char}
    (inName : isNameChar c = true) :
    isQuote c = false := by
  have notDouble : c ≠ '"' := ne_of_isNameChar inName (by decide)
  have notSingle : c ≠ '\'' := ne_of_isNameChar inName (by decide)
  simp [isQuote, notDouble, notSingle]

theorem isBlank_eq_false_of_isNameChar
    {c : Char}
    (inName : isNameChar c = true) :
    Text.isBlank c = false := by
  cases blank : Text.isBlank c with
  | false =>
      rfl
  | true =>
      have notAlphanumeric := Text.isAlphanumeric_eq_false_of_isBlank blank
      simp only [isNameChar, notAlphanumeric, Bool.false_or, Bool.or_eq_true,
        decide_eq_true_eq] at inName
      rcases inName with ((rfl | rfl) | rfl) | rfl <;> revert blank <;> decide

/-! ## Attributes -/

/-- A value can be written: it breaks no line, and its escaped form is not too long. -/
def isWritable (value : Text) : Bool :=
  !value.contains '\n' && Text.byteLength (escapeAttribute value) ≤ maxQuotedLength

/--
A value is read back: it breaks no line, and the last character that is written for it
stands near enough to its quote.
-/
def isReadable (value : Text) : Bool :=
  !value.contains '\n' &&
    Text.byteLength (escapeAttribute value).dropLast < maxQuotedLength

/-- Without its last character a text is at least a byte shorter. -/
theorem byteLength_dropLast_le (text : Text) :
    Text.byteLength text.dropLast ≤ Text.byteLength text - 1 := by
  induction text with
  | nil =>
      exact Nat.le_refl 0
  | cons c later inductionHypothesis =>
      have positive := Char.utf8Size_pos c
      cases later with
      | nil =>
          simp [Text.byteLength]
      | cons next others =>
          have nextPositive := Char.utf8Size_pos next
          simp only [List.dropLast_cons_cons, Text.byteLength] at inductionHypothesis ⊢
          omega

/-- What can be written is read back. -/
theorem isReadable_of_isWritable
    {value : Text}
    (writable : isWritable value = true) :
    isReadable value = true := by
  have shorter := byteLength_dropLast_le (escapeAttribute value)
  have positive : 0 < maxQuotedLength := by
    decide
  simp only [isWritable, isReadable, Bool.and_eq_true, decide_eq_true_eq] at writable ⊢
  exact ⟨writable.1, by omega⟩

/-- The characters have no meaning where a tag is read. -/
def IsPlain (text : Text) : Prop :=
  ∀ c ∈ text, isQuote c = false ∧ c ≠ '>' ∧ c ≠ '<'

/-- A name neither quotes nor ends a tag. -/
theorem isPlain_of_isName
    {name : Text}
    (named : isName name = true) :
    IsPlain name := by
  intro c member
  have inName := isNameChar_of_mem named member
  exact ⟨isQuote_eq_false_of_isNameChar inName, ne_of_isNameChar inName (by decide),
    ne_of_isNameChar inName (by decide)⟩

/-- Reading a tag passes over characters without a meaning. -/
theorem splitTag?_plain
    {plain : Text}
    (isPlain : IsPlain plain)
    (rest : Text) :
    splitTag? none (plain ++ rest) =
      (splitTag? none rest).map fun (body, after) => (plain ++ body, after) := by
  induction plain with
  | nil =>
      simp
  | cons c later inductionHypothesis =>
      obtain ⟨noQuote, notGreater, notLess⟩ := isPlain c (by simp)
      have laterPlain := inductionHypothesis fun d member =>
        isPlain d (List.mem_cons_of_mem _ member)
      simp [splitTag?, noQuote, notGreater, notLess, laterPlain, Function.comp_def]

/-- No character of a text breaks the line or stands too far from the quote before it. -/
def StaysInside
    (distance : Nat)
    (inside : Text) :
    Prop :=
  '\n' ∉ inside ∧
    (inside ≠ [] → distance + Text.byteLength inside.dropLast ≤ maxQuotedLength)
  deriving Decidable

theorem staysInside_cons
    {distance : Nat}
    {c : Char}
    {later : Text} :
    StaysInside distance (c :: later) ↔
      (c ≠ '\n' ∧ distance ≤ maxQuotedLength) ∧ StaysInside (distance + c.utf8Size) later := by
  cases later with
  | nil =>
      simp [StaysInside, Text.byteLength, ne_comm]
  | cons next others =>
      simp only [StaysInside, List.mem_cons, not_or, ne_eq, reduceCtorEq, not_false_eq_true,
        forall_const, List.dropLast_cons_cons, Text.byteLength, eq_comm (a := '\n')]
      constructor
      · rintro ⟨⟨noBreak, noneLater⟩, near⟩
        exact ⟨⟨noBreak, by omega⟩, noneLater, by omega⟩
      · rintro ⟨⟨noBreak, _⟩, noneLater, near⟩
        exact ⟨⟨noBreak, noneLater⟩, by omega⟩

/-- Reading a tag passes over a quoted value that stays inside its quotes, and over no other. -/
theorem splitTag?_quoted
    {quote : Char}
    {inside : Text}
    (noQuote : quote ∉ inside)
    (distance : Nat)
    (rest : Text) :
    splitTag? (some (quote, distance)) (inside ++ quote :: rest) =
      if StaysInside distance inside then
        (splitTag? none rest).map fun (body, after) => (inside ++ quote :: body, after)
      else
        none := by
  induction inside generalizing distance with
  | nil =>
      simp [splitTag?, StaysInside]
  | cons c later inductionHypothesis =>
      simp only [List.mem_cons, not_or] at noQuote
      have laterRead := inductionHypothesis noQuote.2 (distance + c.utf8Size)
      by_cases goesOn : c ≠ '\n' ∧ distance ≤ maxQuotedLength
      · have inReach : ¬ distance > maxQuotedLength := Nat.not_lt.mpr goesOn.2
        by_cases laterStays : StaysInside (distance + c.utf8Size) later <;>
          simp [splitTag?, staysInside_cons, Ne.symm noQuote.1, goesOn, inReach, laterRead,
            laterStays, Function.comp_def]
      · have stops : c = '\n' ∨ distance > maxQuotedLength := by
          simpa only [Decidable.not_and_iff_or_not, Decidable.not_not, Nat.not_le] using goesOn
        simp [splitTag?, staysInside_cons, Ne.symm noQuote.1, goesOn, stops]

/-- A name is passed over when a tag is cut. -/
theorem splitTag?_name
    {name : Text}
    (named : isName name = true)
    (rest : Text) :
    splitTag? none (name ++ rest) =
      (splitTag? none rest).map fun (body, after) => (name ++ body, after) :=
  splitTag?_plain (isPlain_of_isName named) rest

/-- An escaped value stays inside its quotes exactly if it is readable. -/
theorem staysInside_escapeAttribute (value : Text) :
    StaysInside 1 (escapeAttribute value) ↔ isReadable value = true := by
  have sameBreaks : '\n' ∈ escapeAttribute value ↔ '\n' ∈ value := by
    constructor
    · intro member
      exact (plain_of_mem_flatMap_escapeChar (by simp) member).1
    · intro member
      exact List.mem_flatMap.mpr ⟨'\n', member, by decide⟩
  simp only [StaysInside, isReadable, sameBreaks, Bool.and_eq_true, Bool.not_eq_true',
    List.contains_eq_mem, decide_eq_false_iff_not, decide_eq_true_eq]
  apply and_congr_right
  intro _
  cases escapeAttribute value with
  | nil =>
      simp [Text.byteLength, maxQuotedLength]
  | cons c later =>
      simp only [ne_eq, reduceCtorEq, not_false_eq_true, forall_const]
      omega

/-- Reading a tag passes over an assigned value that is read back, and over no other. -/
theorem splitTag?_assigned
    (value rest : Text) :
    splitTag? none ('=' :: '"' :: (escapeAttribute value ++ '"' :: rest)) =
      if isReadable value then
        (splitTag? none rest).map fun (body, after) =>
          ('=' :: '"' :: (escapeAttribute value ++ '"' :: body), after)
      else
        none := by
  have size : '"'.utf8Size = 1 := by
    decide
  have quoted := splitTag?_quoted (quote_not_mem_escapeAttribute value) 1 rest
  simp only [staysInside_escapeAttribute] at quoted
  cases readable : isReadable value <;>
    simp [splitTag?, isQuote, size, quoted, readable, Function.comp_def]

theorem renderAttribute_append
    (entry : Attribute)
    (rest : Text) :
    renderAttribute entry ++ rest =
      ' ' :: (entry.1 ++ '=' :: '"' :: (escapeAttribute entry.2 ++ '"' :: rest)) := by
  simp [renderAttribute]

/-- A written attribute is passed over when a tag is cut, unless its value is not readable. -/
theorem splitTag?_renderAttribute
    {entry : Attribute}
    (named : isName entry.1 = true)
    (rest : Text) :
    splitTag? none (renderAttribute entry ++ rest) =
      if isReadable entry.2 then
        (splitTag? none rest).map fun (body, after) => (renderAttribute entry ++ body, after)
      else
        none := by
  have blankPassed (text : Text) : splitTag? none (' ' :: text) =
      (splitTag? none text).map fun (body, after) => (' ' :: body, after) := by
    simp [splitTag?, isQuote]
  simp only [renderAttribute_append, blankPassed, splitTag?_name named, splitTag?_assigned]
  cases isReadable entry.2 <;> simp [Function.comp_def]

/-- The values of all the attributes are read back. -/
def attributesReadable (attributes : List Attribute) : Bool :=
  attributes.all fun entry => isReadable entry.2

/-- Reading a tag passes over attributes whose values are read back, and over no others. -/
theorem splitTag?_renderAttributes
    {attributes : List Attribute}
    (named : ∀ entry ∈ attributes, isName entry.1 = true)
    (rest : Text) :
    splitTag? none (attributes.flatMap renderAttribute ++ rest) =
      if attributesReadable attributes then
        (splitTag? none rest).map fun (body, after) =>
          (attributes.flatMap renderAttribute ++ body, after)
      else
        none := by
  induction attributes with
  | nil =>
      simp [attributesReadable]
  | cons entry others inductionHypothesis =>
      have othersPassed := inductionHypothesis
        fun other member => named other (List.mem_cons_of_mem _ member)
      rw [List.flatMap_cons, List.append_assoc,
        splitTag?_renderAttribute (named entry (by simp)), othersPassed]
      have each : attributesReadable (entry :: others) =
          (isReadable entry.2 && attributesReadable others) := rfl
      rw [each]
      cases isReadable entry.2 <;> cases attributesReadable others <;> simp [Function.comp_def]

/-- A written value is read as itself. -/
theorem quotedValue?_written (value rest : Text) :
    quotedValue? ('"' :: (escapeAttribute value ++ '"' :: rest)) = some (value, rest) := by
  have decoded : decodeEntities (escapeAttribute value) = value :=
    decodeEntities_flatMap_escapeChar true value
  obtain ⟨taken, dropped⟩ := span_before (quote_not_mem_escapeAttribute value)
    ('"' :: rest) (by simp)
  simp only [quotedValue?, taken, dropped, decoded]
  rfl

/-- A written attribute is read as itself. -/
theorem attribute?_written
    {entry : Attribute}
    (named : isName entry.1 = true)
    (rest : Text) :
    attribute? (entry.1 ++ '=' :: '"' :: (escapeAttribute entry.2 ++ '"' :: rest)) =
      some (entry, rest) := by
  have goesOn : ∀ c ∈ entry.1, (!endsAttributeName c) = true := by
    intro c member
    have inName := isNameChar_of_mem named member
    have notEquals : c ≠ '=' := ne_of_isNameChar inName (by decide)
    simp [endsAttributeName, notEquals, isBlank_eq_false_of_isNameChar inName]
  obtain ⟨taken, dropped⟩ := span_append goesOn
    ('=' :: '"' :: (escapeAttribute entry.2 ++ '"' :: rest)) (by simp [endsAttributeName])
  have blankless (c : Char) (text : Text) (visible : Text.isBlank c = false) :
      Text.trimStart (c :: text) = c :: text := by
    simp [Text.trimStart, visible]
  simp only [attribute?, taken, dropped, named, if_true, blankless '=' _ (by decide),
    blankless '"' _ (by decide), quotedValue?_written, Option.map_some]

theorem trimStart_name
    {name : Text}
    (named : isName name = true)
    (rest : Text) :
    Text.trimStart (name ++ rest) = name ++ rest := by
  cases name with
  | nil =>
      simp [isName] at named
  | cons c later =>
      have visible := isBlank_eq_false_of_isNameChar (isNameChar_of_mem named (c := c) (by simp))
      simp [Text.trimStart, visible]

/-- Reading attributes goes on behind the first one. -/
theorem attributes?_of_attribute?
    {text after : Text}
    {entry : Attribute}
    (found : attribute? (Text.trimStart text) = some (entry, after)) :
    attributes? text = (attributes? after).map (entry :: ·) := by
  have more : ¬ (Text.trimStart text).isEmpty := by
    intro empty
    rw [List.isEmpty_iff.mp empty] at found
    simp [attribute?, isName] at found
  rw [attributes?, if_neg more]
  -- The match carries what it found, which cannot be rewritten under it.
  split
  · next missing =>
      rw [found] at missing
      exact absurd missing (Option.some_ne_none _)
  · next other rest isFound =>
      rw [found, Option.some.injEq, Prod.mk.injEq] at isFound
      obtain ⟨rfl, rfl⟩ := isFound
      rfl

/-- Attributes that were written are read back. -/
theorem attributes?_written
    {attributes : List Attribute}
    (named : ∀ entry ∈ attributes, isName entry.1 = true) :
    attributes? (attributes.flatMap renderAttribute) = some attributes := by
  induction attributes with
  | nil =>
      rw [attributes?]
      rfl
  | cons entry others inductionHypothesis =>
      have entryNamed := named entry (by simp)
      have othersRead := inductionHypothesis
        fun other member => named other (List.mem_cons_of_mem _ member)
      have trimmed : Text.trimStart ((entry :: others).flatMap renderAttribute) =
          entry.1 ++ '=' :: '"' ::
            (escapeAttribute entry.2 ++ '"' :: others.flatMap renderAttribute) := by
        rw [List.flatMap_cons, renderAttribute_append, Text.trimStart, List.dropWhile_cons_of_pos]
        · exact trimStart_name entryNamed _
        · decide
      have read := attribute?_written entryNamed (others.flatMap renderAttribute)
      rw [← trimmed] at read
      rw [attributes?_of_attribute? read, othersRead, Option.map_some]

/-! ## Tags -/

/-- The inside of an opening or self-closing tag. -/
def startInside
    (name : Text)
    (attributes : List Attribute)
    (selfClosing : Bool) :
    Text :=
  name ++ attributes.flatMap renderAttribute ++ (if selfClosing then ['/'] else [])

/-- The lexeme of an opening or self-closing tag that was written. -/
def startLexeme
    (name : Text)
    (attributes : List Attribute)
    (selfClosing : Bool) :
    Lexeme :=
  if selfClosing then
    .standalone name attributes (renderStart name attributes true)
  else
    .opening name attributes (renderStart name attributes false)

/-- A start tag is written between angle brackets. -/
theorem renderStart_eq
    (name : Text)
    (attributes : List Attribute)
    (selfClosing : Bool) :
    renderStart name attributes selfClosing =
      '<' :: (startInside name attributes selfClosing ++ ['>']) := by
  cases selfClosing <;> simp [renderStart, startInside]

/-- A text ends with a character that is neither blank nor a slash. -/
def EndsSolid (text : Text) : Prop :=
  ∃ front last, text = front ++ [last] ∧ Text.isBlank last = false ∧ last ≠ '/'

/-- A name with attributes ends with its last character or with a quote. -/
theorem endsSolid_written
    {name : Text}
    (named : isName name = true)
    (attributes : List Attribute) :
    EndsSolid (name ++ attributes.flatMap renderAttribute) := by
  cases attributes using List.reverseRecOn with
  | nil =>
      cases name using List.reverseRecOn with
      | nil =>
          simp [isName] at named
      | append_singleton front last =>
          have inName := isNameChar_of_mem named (c := last) (by simp)
          exact ⟨front, last, by simp, isBlank_eq_false_of_isNameChar inName,
            ne_of_isNameChar inName (by decide)⟩
  | append_singleton others entry =>
      refine ⟨name ++ others.flatMap renderAttribute ++ ' ' :: (entry.1 ++ '=' :: '"' ::
        escapeAttribute entry.2), '"', ?_, by decide, by decide⟩
      simp [renderAttribute]

theorem trimEnd_concat
    (front : Text)
    {last : Char}
    (visible : Text.isBlank last = false) :
    Text.trimEnd (front ++ [last]) = front ++ [last] := by
  simp [Text.trimEnd, Text.dropEndWhile, visible]

theorem trim_name
    {name : Text}
    (named : isName name = true) :
    Text.trim name = name := by
  obtain ⟨front, last, shape, visible, _⟩ := endsSolid_written named []
  simp only [List.flatMap_nil, List.append_nil] at shape
  have started := trimStart_name named []
  simp only [List.append_nil] at started
  rw [Text.trim, started, shape, trimEnd_concat front visible]

theorem dropSlash_concat
    (front : Text)
    {last : Char}
    (notSlash : last ≠ '/') :
    dropSlash (front ++ [last]) = (front ++ [last], false) := by
  simp only [dropSlash]
  split
  · next rest reversed =>
      simp only [List.reverse_append, List.reverse_singleton, List.singleton_append,
        List.cons.injEq] at reversed
      exact absurd reversed.1 notSlash
  · rfl

/-- A tag that was written is read without its slash. -/
theorem dropSlash_startInside
    {name : Text}
    (named : isName name = true)
    (attributes : List Attribute)
    (selfClosing : Bool) :
    dropSlash (Text.trimEnd (startInside name attributes selfClosing)) =
      (name ++ attributes.flatMap renderAttribute, selfClosing) := by
  cases selfClosing with
  | true =>
      rw [startInside, if_pos rfl, trimEnd_concat _ (by decide)]
      simp [dropSlash]
  | false =>
      obtain ⟨front, last, shape, visible, notSlash⟩ := endsSolid_written named attributes
      simp only [startInside, shape, Bool.false_eq_true, if_false, List.append_nil]
      rw [trimEnd_concat front visible, dropSlash_concat front notSlash]

/-- The inside of a tag that was written is read back. -/
theorem startTag?_written
    {name : Text}
    (named : isName name = true)
    {attributes : List Attribute}
    (attributesNamed : ∀ entry ∈ attributes, isName entry.1 = true)
    (selfClosing : Bool)
    (source : Text) :
    startTag? (startInside name attributes selfClosing) source =
      some (if selfClosing then
        .standalone name attributes source
      else
        .opening name attributes source) := by
  have stops : (attributes.flatMap renderAttribute).head?.all fun c => !!Text.isBlank c := by
    cases attributes with
    | nil =>
        rfl
    | cons entry others =>
        rw [List.flatMap_cons, renderAttribute_append]
        simp only [List.head?_cons, Option.all_some, Bool.not_not]
        decide
  have goesOn : ∀ c ∈ name, (!Text.isBlank c) = true := by
    intro c member
    simp [isBlank_eq_false_of_isNameChar (isNameChar_of_mem named member)]
  obtain ⟨taken, dropped⟩ := span_append goesOn _ stops
  simp only [startTag?, dropSlash_startInside named, taken, dropped, named, if_true,
    attributes?_written attributesNamed, Option.map_some]

/-- A written start tag is cut at its end, unless one of its values is not readable. -/
theorem splitTag?_startInside
    {name : Text}
    (named : isName name = true)
    {attributes : List Attribute}
    (attributesNamed : ∀ entry ∈ attributes, isName entry.1 = true)
    (selfClosing : Bool)
    (rest : Text) :
    splitTag? none (startInside name attributes selfClosing ++ '>' :: rest) =
      if attributesReadable attributes then
        some (startInside name attributes selfClosing, rest)
      else
        none := by
  have ended : splitTag? none ((if selfClosing then ['/'] else []) ++ '>' :: rest) =
      some (if selfClosing then ['/'] else [], rest) := by
    cases selfClosing <;> simp [splitTag?, isQuote]
  simp only [startInside, List.append_assoc, splitTag?_name named,
    splitTag?_renderAttributes attributesNamed, ended]
  cases attributesReadable attributes <;> simp

/-- The inside of a tag that was written begins like a name. -/
theorem exists_startInside_eq_cons
    {name : Text}
    (named : isName name = true)
    (attributes : List Attribute)
    (selfClosing : Bool) :
    ∃ c later, startInside name attributes selfClosing = c :: later ∧ c ≠ '/' ∧ c ≠ '!' := by
  cases name with
  | nil =>
      simp [isName] at named
  | cons c later =>
      have inName := isNameChar_of_mem named (c := c) (by simp)
      exact ⟨c, _, List.cons_append, ne_of_isNameChar inName (by decide),
        ne_of_isNameChar inName (by decide)⟩

/-- The tag after an opening bracket is the next lexeme, unless a comment begins there. -/
theorem nextLexeme_of_tag?
    {text after : Text}
    {lexeme : Lexeme}
    (noComment : text.head? ≠ some '!')
    (found : tag? text = some (lexeme, after)) :
    nextLexeme '<' text = (lexeme, after) := by
  have plain : commentStart.isPrefixOf ('<' :: text) = false := by
    cases text with
    | nil =>
        rfl
    | cons c rest =>
        have different : '!' ≠ c := by
          simpa using Ne.symm noComment
        simp [commentStart, List.isPrefixOf, different]
  simp [nextLexeme, plain, found]

/-- A tag is the first lexeme of a text that begins with it. -/
theorem lexemes_of_tag?
    {text after : Text}
    {lexeme : Lexeme}
    (noComment : text.head? ≠ some '!')
    (found : tag? text = some (lexeme, after)) :
    lexemes ('<' :: text) = lexeme :: lexemes after := by
  rw [lexemes]
  simp only [nextLexeme_of_tag? noComment found]

/-- An opening or self-closing tag that was written is read back. -/
theorem lexemes_renderStart
    {name : Text}
    (named : isName name = true)
    {attributes : List Attribute}
    (attributesNamed : ∀ entry ∈ attributes, isName entry.1 = true)
    (readable : attributesReadable attributes = true)
    (selfClosing : Bool)
    (rest : Text) :
    lexemes (renderStart name attributes selfClosing ++ rest) =
      startLexeme name attributes selfClosing :: lexemes rest := by
  -- The first character tells the tag from a closing tag and from a comment.
  obtain ⟨c, later, begins, notSlash, notBang⟩ :=
    exists_startInside_eq_cons named attributes selfClosing
  have split := splitTag?_startInside named attributesNamed selfClosing rest
  rw [if_pos readable] at split
  have read := startTag?_written named attributesNamed selfClosing
    (renderStart name attributes selfClosing)
  have tag : tag? (startInside name attributes selfClosing ++ '>' :: rest) =
      some (startLexeme name attributes selfClosing, rest) := by
    simp only [tag?, split, Option.bind_some, ← renderStart_eq]
    split
    · next inside isClosing =>
        rw [begins, List.cons.injEq] at isClosing
        exact absurd isClosing.1 notSlash
    · rw [read]
      cases selfClosing <;> rfl
  rw [renderStart_eq, List.cons_append, List.append_assoc, List.singleton_append]
  apply lexemes_of_tag? _ tag
  rw [begins]
  simpa using notBang

/-- A written closing tag is read as one. -/
theorem lexemes_renderEnd
    {name : Text}
    (named : isName name = true)
    (rest : Text) :
    lexemes (renderEnd name false ++ rest) =
      .closing name (renderEnd name false) :: lexemes rest := by
  have split : splitTag? none ('/' :: (name ++ '>' :: rest)) = some ('/' :: name, rest) := by
    simp [splitTag?, isQuote, splitTag?_name named]
  have tag : tag? ('/' :: (name ++ '>' :: rest)) =
      some (.closing name (renderEnd name false), rest) := by
    simp [tag?, split, closingTag?, trim_name named, named, renderEnd]
  have written : renderEnd name false ++ rest = '<' :: '/' :: (name ++ '>' :: rest) := by
    simp [renderEnd]
  rw [written]
  exact lexemes_of_tag? (by simp) tag

/-! ## Text -/

/-- Markup or nothing: what may follow a text without going on with it. -/
def beginsMarkup (text : Text) : Bool :=
  text.head?.all (· = '<')

/-- A text that was written is read back as one lexeme. -/
theorem lexemes_escapeText
    {content : Text}
    (nonempty : content ≠ [])
    {rest : Text}
    (ends : beginsMarkup rest = true) :
    lexemes (escapeText content ++ rest) = .text (escapeText content) :: lexemes rest := by
  have plain := less_not_mem_escapeText content
  cases written : escapeText content with
  | nil =>
      exact absurd written (escapeText_ne_nil nonempty)
  | cons c later =>
      rw [written, List.mem_cons, not_or] at plain
      obtain ⟨taken, dropped⟩ := span_before plain.2 rest ends
      have next : nextLexeme c (later ++ rest) = (.text (c :: later), rest) := by
        rw [nextLexeme, if_pos (Ne.symm plain.1), taken, dropped]
      rw [List.cons_append, lexemes]
      simp only [next]

end Colloquy.Markup
