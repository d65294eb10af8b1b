import Colloquy.Pronoun.Substitution
import Colloquy.Proofs.Text.Cutting
import Colloquy.Proofs.Text.Words

namespace Colloquy.Pronoun

/-!
# Tokens tile their text

The tokens of a text and the gap behind them are the text, cut between characters.
The same cuts are found by byte positions: those of the first and the last span
character of a word, and within the span the first occurrence of what is left once
apostrophes are dropped at both ends. Such an occurrence cannot come too early,
since it does not begin with an apostrophe, and only apostrophes stand before it.
-/

/-- What a token stands for in its text. -/
def Token.text (token : Token) : Text :=
  token.space ++ (token.lead ++ (token.core ++ token.trail))

/-! ## The parts of a word -/

/-- The character neither begins nor ends a span. -/
def isOutside (c : Char) : Bool :=
  !isSpanChar c

/-- What stands before the first span character of a word. -/
def before (word : Text) : Text :=
  word.takeWhile isOutside

/-- A word from its first to its last span character. -/
def span (word : Text) : Text :=
  Text.strip isOutside word

/-- What stands behind the last span character of a word. -/
def behind (word : Text) : Text :=
  Text.takeEndWhile isOutside (word.dropWhile isOutside)

/-- The apostrophes at the start of a span. -/
def opening (span : Text) : Text :=
  span.takeWhile isApostrophe

/-- The apostrophes at the end of a span that has something else. -/
def closing (span : Text) : Text :=
  Text.takeEndWhile isApostrophe (span.dropWhile isApostrophe)

/-- A word is its span with what stands before and behind it. -/
theorem before_span_behind (word : Text) : before word ++ (span word ++ behind word) = word := by
  rw [before, span, behind, Text.strip, Text.dropEndWhile_append_takeEndWhile,
    List.takeWhile_append_dropWhile]

theorem opening_strip_closing (span : Text) :
    opening span ++ (Text.strip isApostrophe span ++ closing span) = span := by
  rw [opening, closing, Text.strip, Text.dropEndWhile_append_takeEndWhile,
    List.takeWhile_append_dropWhile]

theorem ofWord_eq (space word : Text) :
    Token.ofWord space word =
      if (Text.strip isApostrophe (span word)).isEmpty then
        ⟨space, before word, [], span word ++ behind word⟩
      else
        ⟨space, before word ++ opening (span word), Text.strip isApostrophe (span word),
          closing (span word) ++ behind word⟩ :=
  rfl

/-- A token is the word it was made from, behind its gap. -/
theorem text_ofWord (space word : Text) : (Token.ofWord space word).text = space ++ word := by
  have isWord := before_span_behind word
  rw [ofWord_eq]
  split
  · simpa [Token.text] using isWord
  · rw [← opening_strip_closing (span word)] at isWord
    simpa [Token.text] using isWord

theorem isSpanChar_of_mem_behind (word : Text) :
    ∀ c ∈ behind word, isSpanChar c = false := by
  intro c member
  simpa [isOutside] using Text.of_mem_takeEndWhile member

/-- What is left of a span stands where it first occurs there. -/
theorem breakAt?_strip
    {span : Text}
    (nonempty : Text.strip isApostrophe span ≠ []) :
    Text.breakAt? (Text.strip isApostrophe span) span = some (opening span, closing span) := by
  obtain ⟨c, rest, isLeft⟩ := List.exists_cons_of_ne_nil nonempty
  have noneBefore : c ∉ opening span := by
    intro member
    have apostrophe := List.mem_takeWhile_imp member
    rw [Text.fails_of_strip_eq_cons isLeft] at apostrophe
    exact absurd apostrophe Bool.false_ne_true
  have found := Text.breakAt?_of_not_mem noneBefore rest (closing span)
  rwa [← isLeft, opening_strip_closing] at found

/-! ## Cuts by byte positions -/

/-- The byte position behind the last span character of a word, or the given one without any. -/
def spanEnd?
    (word : Text)
    (start : Nat) :
    Option Nat :=
  match Text.lastAt? isSpanChar word with
  | none => some start
  | some position => do
      let rest ← Text.slice? word position (Text.byteLength word)
      return max (position + (rest.head?.map Char.utf8Size).getD 1) start

/-- Take a word apart at byte positions, unless one of them lies inside a character. -/
def Token.locate?
    (space word : Text) :
    Option Token := do
  let start := (Text.firstAt? isSpanChar word).getD (Text.byteLength word)
  let stop ← spanEnd? word start
  let span ← Text.slice? word start stop
  let core := Text.strip isApostrophe span
  let skipped := ((Text.breakAt? core span).map fun (before, _) => Text.byteLength before).getD 0
  let offset := start + skipped
  let lead ← Text.slice? word 0 offset
  let trail ← Text.slice? word (offset + Text.byteLength core) (Text.byteLength word)
  return ⟨space, lead, core, trail⟩

/-- The span begins behind what stands before it. -/
theorem firstAt?_isSpanChar (word : Text) :
    (Text.firstAt? isSpanChar word).getD (Text.byteLength word) =
      Text.byteLength (before word) :=
  Text.getD_firstAt? isSpanChar word

/-- The span ends behind the last span character. -/
theorem spanEnd?_eq (word : Text) :
    spanEnd? word (Text.byteLength (before word)) =
      some (Text.byteLength (before word ++ span word)) := by
  rcases List.eq_nil_or_concat (span word) with isSpan | ⟨front, last, isSpan⟩
  · have outside : ∀ c ∈ word, isSpanChar c = false := by
      intro c member
      simpa [isOutside] using (Text.strip_eq_nil_iff isOutside word).mp isSpan c member
    rw [spanEnd?, Text.lastAt?_eq_none outside, isSpan, List.append_nil]
  · rw [List.concat_eq_append] at isSpan
    have spans : isSpanChar last = true := by
      simpa [isOutside] using Text.fails_of_strip_eq_append isSpan
    have isWord : (before word ++ front) ++ last :: behind word = word := by
      simpa [isSpan] using before_span_behind word
    have found := Text.lastAt?_append_cons (before word ++ front) spans
      (isSpanChar_of_mem_behind word)
    have sliced := Text.slice?_end (before word ++ front) (last :: behind word)
    rw [isWord] at found sliced
    have wide : Text.byteLength (before word ++ front) + last.utf8Size =
        Text.byteLength (before word ++ (front ++ [last])) := by
      simp only [Text.byteLength_append, Text.byteLength]
      omega
    have reaches : Text.byteLength (before word) ≤
        Text.byteLength (before word ++ (front ++ [last])) := by
      rw [Text.byteLength_append]
      exact Nat.le_add_right _ _
    simp [spanEnd?, found, sliced, isSpan, wide, Nat.max_eq_left reaches]

/-- The positions lie between characters, and the parts between them are those of the token. -/
theorem locate?_eq_ofWord (space word : Text) :
    Token.locate? space word = some (Token.ofWord space word) := by
  have isWord := before_span_behind word
  have isSpan : Text.slice? word (Text.byteLength (before word))
      (Text.byteLength (before word ++ span word)) = some (span word) := by
    have sliced := Text.slice?_append (before word) (span word) (behind word)
    rwa [isWord] at sliced
  simp only [Token.locate?, firstAt?_isSpanChar, spanEnd?_eq, Option.bind_eq_bind,
    Option.bind_some, isSpan, ofWord_eq]
  by_cases empty : Text.strip isApostrophe (span word) = []
  -- An empty core is found at the start of the span, all of which trails behind it.
  · have atStart : Text.breakAt? [] (span word) = some ([], span word) := by
      cases span word <;> simp [Text.breakAt?]
    have isLead := Text.slice?_start (before word) (span word ++ behind word)
    have isTrail := Text.slice?_end (before word) (span word ++ behind word)
    rw [isWord] at isLead isTrail
    simp [empty, atStart, Text.byteLength, isLead, isTrail]
  · have found := breakAt?_strip empty
    have parts : (before word ++ opening (span word)) ++
        (Text.strip isApostrophe (span word) ++ (closing (span word) ++ behind word)) = word := by
      rw [← opening_strip_closing (span word)] at isWord
      simpa using isWord
    have isLead := Text.slice?_start (before word ++ opening (span word))
      (Text.strip isApostrophe (span word) ++ (closing (span word) ++ behind word))
    have isTrail := Text.slice?_end
      ((before word ++ opening (span word)) ++ Text.strip isApostrophe (span word))
      (closing (span word) ++ behind word)
    rw [parts, Text.byteLength_append] at isLead
    rw [List.append_assoc _ (Text.strip _ _), parts, Text.byteLength_append _ (Text.strip _ _),
      Text.byteLength_append] at isTrail
    simp [empty, found, isLead, isTrail]

/-- The core stands before the span too, but the span is where it is looked for. -/
example : Token.ofWord [] "-'-'".toList = ⟨[], "-'".toList, "-".toList, "'".toList⟩ := by
  decide +kernel

/-! ## Tokens of texts -/

/-- Cutting a text into tokens at byte positions gives these tokens. -/
inductive Cuts : Text → List Token → Prop where
  | blank
      {text : Text}
      (noneVisible : Text.firstAt? (!Text.isBlank ·) text = none) :
      Cuts text []
  | word
      {text space rest word later : Text}
      {start : Nat}
      {token : Token}
      {tokens : List Token}
      (starts : Text.firstAt? (!Text.isBlank ·) text = some start)
      (isSpace : Text.slice? text 0 start = some space)
      (isRest : Text.slice? text start (Text.byteLength text) = some rest)
      (isWord : Text.slice? rest 0
        ((Text.firstAt? Text.isBlank rest).getD (Text.byteLength rest)) = some word)
      (isLater : Text.slice? rest
        ((Text.firstAt? Text.isBlank rest).getD (Text.byteLength rest)) (Text.byteLength rest) =
          some later)
      (isToken : Token.locate? space word = some token)
      (cuts : Cuts later tokens) :
      Cuts text (token :: tokens)

/-- The gap behind the tokens of a text by its byte position: all of it if there are none. -/
def trailing?
    (text : Text)
    (tokens : List Token) :
    Option Text :=
  if tokens.isEmpty then
    some text
  else
    Text.slice? text (Text.byteLength (Text.trimEnd text)) (Text.byteLength text)

/-- The tokens of a text are cut between characters. -/
theorem cuts_tokens (text : Text) : Cuts text (tokens (Spaced.ofText text)) := by
  induction text using Text.inductionOnWords with
  | blank text isBlank =>
      rw [Spaced.ofText_of_blank isBlank]
      exact .blank (Text.firstAt?_eq_none (by simpa using isBlank))
  | word gap word rest isGap isWord begins inductionHypothesis =>
      rw [Spaced.ofText_word isGap isWord begins]
      have starts : Text.firstAt? (!Text.isBlank ·) (gap ++ (word ++ rest)) =
          some (Text.byteLength gap) := by
        obtain ⟨c, others, rfl⟩ := List.exists_cons_of_ne_nil isWord.nonempty
        exact Text.firstAt?_append_cons (by simpa using isGap)
          (by simp [isWord.bare c List.mem_cons_self]) (others ++ rest)
      have stops := Text.getD_firstAt?_append isWord.bare begins
      refine .word starts (Text.slice?_start gap (word ++ rest))
        (Text.slice?_end gap (word ++ rest)) ?_ ?_ (locate?_eq_ofWord gap word)
        inductionHypothesis
      · rw [stops]
        exact Text.slice?_start word rest
      · rw [stops]
        exact Text.slice?_end word rest

/-- What follows the tokens is found behind them. -/
theorem trailing?_tokens (text : Text) :
    trailing? text (tokens (Spaced.ofText text)) = some (Spaced.ofText text).trailing := by
  by_cases silent : (Spaced.ofText text).pieces = []
  · have whole := Spaced.toTextWith_id_ofText text
    simp only [Spaced.toTextWith, silent, List.flatMap_nil, List.nil_append] at whole
    simp [trailing?, tokens, silent, whole]
  · obtain ⟨front, last, isText, visible, isBlank⟩ := Text.exists_eq_append_trailing silent
    have trimmed : Text.trimEnd text = front ++ [last] := by
      rw [isText]
      exact Text.dropEndWhile_append_cons front visible isBlank
    have sliced := Text.slice?_end (front ++ [last]) (Spaced.ofText text).trailing
    rw [List.append_assoc, List.singleton_append, ← isText, ← trimmed] at sliced
    simp [trailing?, tokens, silent, sliced]

/-- The texts of the tokens, and what follows them, are the text. -/
theorem flatMap_text_tokens (text : Text) :
    (tokens (Spaced.ofText text)).flatMap Token.text ++ (Spaced.ofText text).trailing = text := by
  have whole := Spaced.toTextWith_id_ofText text
  rw [Spaced.toTextWith] at whole
  simpa [tokens, List.flatMap_map, text_ofWord] using whole

/-! ## Replaced cores -/

/--
What stands in place of the core at a position among all tokens, if there is a core
and it has a replacement there. The core is the first one if those before it are empty.
-/
def replacementAt?
    (swap : Swap)
    (tokens : List Token)
    (position : Nat) :
    Option Text := do
  let token ← tokens[position]?
  let earlier := tokens.take position
  let first := earlier.all (·.core.isEmpty)
  if token.core.isEmpty then
    none
  else
    (replacement? swap first (earlier.getLast?.map Token.key)
      (tokens[position + 1]?.map Token.key) token).map (matchCase first token)

/-- A token with its core replaced, where there is a replacement. -/
def replacedAt
    (swap : Swap)
    (tokens : List Token)
    (position : Nat)
    (token : Token) :
    Token :=
  { token with core := (replacementAt? swap tokens position).getD token.core }

theorem replacementAt?_length
    (swap : Swap)
    (earlier : List Token)
    (token : Token)
    (later : List Token) :
    replacementAt? swap (earlier ++ token :: later) earlier.length =
      if token.core.isEmpty then
        none
      else
        (replacement? swap (earlier.all (·.core.isEmpty)) (earlier.getLast?.map Token.key)
          (later.head?.map Token.key) token).map
            (matchCase (earlier.all (·.core.isEmpty)) token) := by
  have next : (earlier ++ token :: later)[earlier.length + 1]? = later.head? := by
    simp [List.getElem?_append_right, List.head?_eq_getElem?]
  simp [replacementAt?, next]

/-- Substituting in tokens replaces the cores that have a replacement among all tokens. -/
theorem substituteTokens_eq
    (swap : Swap)
    (earlier later : List Token) :
    substituteTokens swap (earlier.all (·.core.isEmpty)) (earlier.getLast?.map Token.key) later =
      (later.mapIdx fun index =>
        replacedAt swap (earlier ++ later) (earlier.length + index)).flatMap Token.text := by
  induction later generalizing earlier with
  | nil =>
      rfl
  | cons token rest inductionHypothesis =>
      have behind := inductionHypothesis (earlier ++ [token])
      simp only [List.all_append, List.all_cons, List.all_nil, Bool.and_true, List.getLast?_append,
        List.getLast?_singleton, Option.some_or, Option.map_some, List.append_assoc,
        List.singleton_append, List.length_append, List.length_singleton, Nat.add_assoc,
        Nat.add_comm 1] at behind
      rw [List.mapIdx_cons, List.flatMap_cons, Nat.add_zero, ← behind, replacedAt,
        replacementAt?_length, substituteTokens]
      cases isEmpty : token.core.isEmpty with
      | true =>
          simp [Token.text, List.isEmpty_iff.mp isEmpty]
      | false =>
          cases isReplaced : replacement? swap (earlier.all (·.core.isEmpty))
            (earlier.getLast?.map Token.key) (rest.head?.map Token.key) token <;>
            simp [Token.text, isReplaced]

/-- If nothing is replaced, the tokens stay as they are. -/
theorem mapIdx_replacedAt_of_none
    {swap : Swap}
    {tokens : List Token}
    (noneReplaced : ∀ position, replacementAt? swap tokens position = none) :
    tokens.mapIdx (replacedAt swap tokens) = tokens := by
  apply List.ext_getElem?
  intro position
  rw [List.getElem?_mapIdx]
  cases tokens[position]? <;> simp [replacedAt, noneReplaced]

/--
The tokens of a text and the gap behind them are cut between characters and tile the
text. Substitution gives the text back with nothing changed but the cores, not empty,
that a rule for their neighbours or the table replaces; without any it gives the text.
-/
theorem substitute_touchesOnlyReplaced
    (swap : Swap)
    (text : Text) :
    let tiles := tokens (Spaced.ofText text)
    let gap := (Spaced.ofText text).trailing
    Cuts text tiles ∧
      trailing? text tiles = some gap ∧
      tiles.flatMap Token.text ++ gap = text ∧
      substitute swap text = (tiles.mapIdx (replacedAt swap tiles)).flatMap Token.text ++ gap ∧
      ((∀ position, replacementAt? swap tiles position = none) → substitute swap text = text) := by
  intro tiles gap
  have tiled : tiles.flatMap Token.text ++ gap = text := flatMap_text_tokens text
  have replaced : substitute swap text =
      (tiles.mapIdx (replacedAt swap tiles)).flatMap Token.text ++ gap := by
    have substituted := substituteTokens_eq swap [] tiles
    simp only [List.nil_append, List.length_nil, Nat.zero_add] at substituted
    exact congrArg (· ++ gap) substituted
  refine ⟨cuts_tokens text, trailing?_tokens text, tiled, replaced, ?_⟩
  intro noneReplaced
  rw [replaced, mapIdx_replacedAt_of_none noneReplaced, tiled]

end Colloquy.Pronoun
