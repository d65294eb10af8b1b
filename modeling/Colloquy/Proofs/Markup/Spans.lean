import Colloquy.Markup.Weight
import Colloquy.Proofs.Markup.Grammar

namespace Colloquy.Markup

/-!
# Lexemes tile their text

A template is read from byte position to byte position. Each step searches for marks,
cuts the template where they are found and says where the next step begins. A cut
inside a character would fail, and so would one behind the end. None does: every
position that is found lies between characters, since the searches give the lengths
of what stands before the marks. So the steps give the lexemes of the template, each
with the span it was read from, and the spans lie side by side from the start to the
end.
-/

/-- What is read from a template, with its source if that may have to stand as text. -/
inductive Found where
  | text (raw : Text)
  | comment
  | opening (name : Text) (attributes : List Attribute) (raw : Text)
  | closing (name : Text) (raw : Text)
  | standalone (name : Text) (attributes : List Attribute)
  deriving DecidableEq

/-- The source that is kept. -/
def Found.raw? : Found → Option Text
  | .text raw => some raw
  | .comment => none
  | .opening _ _ raw => some raw
  | .closing _ raw => some raw
  | .standalone _ _ => none

/-- What is read as a lexeme. -/
def Lexeme.found : Lexeme → Found
  | .text source => .text source
  | .comment _ => .comment
  | .opening name attributes source => .opening name attributes source
  | .closing name source => .closing name source
  | .standalone name attributes _ => .standalone name attributes

/-- What is kept of a lexeme is its source. -/
theorem Lexeme.eq_source_of_mem_raw?
    {lexeme : Lexeme}
    {raw : Text}
    (kept : raw ∈ lexeme.found.raw?) :
    raw = lexeme.source := by
  cases lexeme with
  | text | opening | closing =>
      exact (Option.mem_some.mp kept).symm
  | comment | standalone =>
      cases kept

/-! ## Attributes -/

/--
Read a quoted value, cutting at byte positions. If a cut fails there is no result at
all, which is not the same as the result that there is no value.
-/
def cutValue? : Text → Option (Option (Text × Text))
  | [] => some none
  | quote :: rest =>
      let text := quote :: rest
      if isQuote quote then do
        let inside ← Text.slice? text 1 (Text.byteLength text)
        match Text.firstAt? (· = quote) inside with
        | none => return none
        | some position =>
            let stop := position + 1
            let value ← Text.slice? text 1 stop
            let after ← Text.slice? text (stop + 1) (Text.byteLength text)
            return some (decodeEntities value, after)
      else
        some none

/-- Read one attribute, cutting at byte positions. -/
def cutAttribute? (text : Text) : Option (Option (Attribute × Text)) := do
  let stop := (Text.firstAt? endsAttributeName text).getD (Text.byteLength text)
  let name ← Text.slice? text 0 stop
  if isName name then
    let rest ← Text.slice? text stop (Text.byteLength text)
    match Text.trimStart rest with
    | '=' :: assigned =>
        let value? ← cutValue? (Text.trimStart assigned)
        return value?.map fun (value, after) => ((name, value), after)
    | _ => return none
  else
    return none

/-- Behind a quote stands what comes after one byte. -/
theorem slice?_quote
    {quote : Char}
    (quotes : isQuote quote = true)
    (rest : Text) :
    Text.slice? (quote :: rest) 1 (Text.byteLength (quote :: rest)) = some rest := by
  have cut := Text.slice?_end [quote] rest
  simpa [Text.byteLength, utf8Size_of_isQuote quotes] using cut

/-- A value that is closed is cut between its quotes. -/
theorem cutValue?_closed
    {quote : Char}
    (quotes : isQuote quote = true)
    {value : Text}
    (noneBefore : quote ∉ value)
    (after : Text) :
    cutValue? (quote :: (value ++ quote :: after)) =
      some (some (decodeEntities value, after)) := by
  have narrow := utf8Size_of_isQuote quotes
  have position : Text.firstAt? (· = quote) (value ++ quote :: after) =
      some (Text.byteLength value) := by
    apply Text.firstAt?_append_cons
    · intro c member
      simpa using ne_of_mem_of_not_mem member noneBefore
    · simp
  have isValue : Text.slice? (quote :: (value ++ quote :: after)) 1
      (Text.byteLength value + 1) = some value := by
    have cut := Text.slice?_append [quote] value (quote :: after)
    simpa [Text.byteLength, narrow, Nat.add_comm] using cut
  have isAfter : Text.slice? (quote :: (value ++ quote :: after)) (Text.byteLength value + 1 + 1)
      (Text.byteLength (quote :: (value ++ quote :: after))) = some after := by
    have cut := Text.slice?_end (quote :: (value ++ [quote])) after
    simpa [Text.byteLength, Text.byteLength_append, narrow, Nat.add_comm] using cut
  simp [cutValue?, quotes, slice?_quote quotes, position, isValue, isAfter]

/-- Cutting a value never fails and reads what reading does. -/
theorem cutValue?_eq (text : Text) : cutValue? text = some (quotedValue? text) := by
  cases text with
  | nil =>
      rfl
  | cons quote rest =>
      by_cases quotes : isQuote quote = true
      · by_cases closes : quote ∈ rest
        · obtain ⟨value, after, rfl, noneBefore⟩ := List.eq_append_cons_of_mem closes
          have read : quotedValue? (quote :: (value ++ quote :: after)) =
              some (decodeEntities value, after) :=
            quotedValue?_eq_some_iff.mpr ⟨quote, value, quotes, noneBefore, rfl, rfl⟩
          rw [cutValue?_closed quotes noneBefore, read]
        · have others : ∀ c ∈ rest, c ≠ quote := by
            intro c member
            exact ne_of_mem_of_not_mem member closes
          have absent : Text.firstAt? (· = quote) rest = none := by
            apply Text.firstAt?_eq_none
            simpa using others
          have dropped : rest.dropWhile (· ≠ quote) = [] := by
            apply List.dropWhile_eq_nil_iff.mpr
            simpa using others
          rw [quotedValue?, if_pos quotes, dropped]
          simp [cutValue?, quotes, slice?_quote quotes, absent]
      · simp [cutValue?, quotedValue?, quotes]

theorem cutAttribute?_eq (text : Text) : cutAttribute? text = some (attribute? text) := by
  simp only [cutAttribute?, attribute?, Text.getD_firstAt?, Text.slice?_takeWhile,
    Text.slice?_dropWhile, cutValue?_eq, Option.bind_eq_bind, Option.bind_some, Option.pure_def]
  split
  · generalize Text.trimStart (text.dropWhile fun c => !endsAttributeName c) = rest
    rcases rest with _ | ⟨c, assigned⟩
    · rfl
    · by_cases assigns : c = '='
      · subst assigns
        rfl
      · simp [assigns]
  · rfl

/-- Read attributes, cutting at byte positions. -/
def cutAttributes? (text : Text) : Option (Option (List Attribute)) :=
  if (Text.trimStart text).isEmpty then
    some (some [])
  else
    match _read : cutAttribute? (Text.trimStart text) with
    | none => none
    | some none => some none
    | some (some (entry, after)) => do
        let others? ← cutAttributes? after
        return others?.map (entry :: ·)
termination_by text.length
decreasing_by
  have found : attribute? (Text.trimStart text) = some (entry, after) :=
    Option.some.inj ((cutAttribute?_eq _).symm.trans _read)
  have shorter := attribute?_length found
  have trimmed_length := length_trimStart_le text
  omega

theorem cutAttributes?_eq (text : Text) : cutAttributes? text = some (attributes? text) := by
  -- The match carries what it read, so that all but one of its cases are refuted by hand.
  fun_induction attributes? text with
  | case1 text empty =>
      rw [cutAttributes?, if_pos empty]
  | case2 text more isNone =>
      rw [cutAttributes?, if_neg more]
      split
      · next read =>
          rw [cutAttribute?_eq] at read
          cases read
      · rfl
      · next read =>
          rw [cutAttribute?_eq, isNone] at read
          cases read
  | case3 text more entry after found inductionHypothesis =>
      rw [cutAttributes?, if_neg more]
      split
      · next read =>
          rw [cutAttribute?_eq] at read
          cases read
      · next read =>
          rw [cutAttribute?_eq, found] at read
          cases read
      · next read =>
          rw [cutAttribute?_eq, found] at read
          cases read
          rw [inductionHypothesis]
          rfl

/-! ## Tags -/

/--
The byte position of the `>` that ends a tag, in a text that begins at the given
position. An open quote comes with the position at which it stands.
-/
def tagEnd? :
    Option (Char × Nat) →
    Nat →
    Text →
    Option Nat
  | _, _, [] => none
  | some (quote, start), position, c :: rest =>
      if c = quote then
        tagEnd? none (position + c.utf8Size) rest
      else if c = '\n' || position - start > maxQuotedLength then
        none
      else
        tagEnd? (some (quote, start)) (position + c.utf8Size) rest
  | none, position, c :: rest =>
      if isQuote c then
        tagEnd? (some (c, position)) (position + c.utf8Size) rest
      else if c = '>' then
        some position
      else if c = '<' then
        none
      else
        tagEnd? none (position + c.utf8Size) rest

/-- Read the inside of an opening or self-closing tag, cutting at byte positions. -/
def cutStart?
    (inside raw : Text) :
    Option (Option Found) := do
  let (body, selfClosing) := dropSlash (Text.trimEnd inside)
  let stop := (Text.firstAt? Text.isBlank body).getD (Text.byteLength body)
  let name ← Text.slice? body 0 stop
  if isName name then
    let rest ← Text.slice? body stop (Text.byteLength body)
    let attributes? ← cutAttributes? rest
    return attributes?.map fun attributes =>
      if selfClosing then
        .standalone name attributes
      else
        .opening name attributes raw
  else
    return none

/-- Read the tag at the start of a text, cutting at byte positions, with its length in bytes. -/
def cutTag? (text : Text) : Option (Option (Found × Nat)) :=
  match tagEnd? none 1 text.tail with
  | none => some none
  | some stop => do
      let raw ← Text.slice? text 0 (stop + 1)
      let inner ← Text.slice? text 1 stop
      let found? ←
        match inner with
        | '/' :: inside => some ((closingTag? inside raw).map Lexeme.found)
        | _ => cutStart? inner raw
      return found?.map fun found => (found, stop + 1)

/-- The end of a tag is found behind the inside of the tag. -/
theorem tagEnd?_eq
    (text : Text)
    (opened : Option (Char × Nat))
    (position : Nat)
    (begun : ∀ quote ∈ opened, quote.2 ≤ position) :
    tagEnd? opened position text =
      (splitTag? (opened.map fun (quote, start) => (quote, position - start)) text).map
        fun (body, _) => position + Text.byteLength body := by
  -- A quote keeps its position while the distance from it grows with each character.
  induction text generalizing opened position with
  | nil =>
      cases opened <;> rfl
  | cons c rest inductionHypothesis =>
      cases opened with
      | none =>
          have inside := inductionHypothesis (some (c, position)) (position + c.utf8Size) (by simp)
          have outside := inductionHypothesis none (position + c.utf8Size) (by simp)
          simp only [Option.map_some, Option.map_none, Nat.add_sub_cancel_left] at inside outside
          simp only [tagEnd?, splitTag?, Option.map_none, inside, outside]
          split
          · simp [Text.byteLength, Function.comp_def, Nat.add_assoc]
          · split
            · simp [Text.byteLength]
            · split
              · rfl
              · simp [Text.byteLength, Function.comp_def, Nat.add_assoc]
      | some quote =>
          obtain ⟨quote, start⟩ := quote
          have before : start ≤ position := begun (quote, start) rfl
          have stillBefore : start ≤ position + c.utf8Size := Nat.le_add_right_of_le before
          have inside := inductionHypothesis (some (quote, start)) (position + c.utf8Size)
            (by simpa using stillBefore)
          have outside := inductionHypothesis none (position + c.utf8Size) (by simp)
          simp only [Option.map_some, Option.map_none, Nat.sub_add_comm before] at inside outside
          simp only [tagEnd?, splitTag?, Option.map_some, inside, outside]
          split
          · simp [Text.byteLength, Function.comp_def, Nat.add_assoc]
          · split
            · rfl
            · simp [Text.byteLength, Function.comp_def, Nat.add_assoc]

theorem cutStart?_eq (inside raw : Text) :
    cutStart? inside raw = some ((startTag? inside raw).map Lexeme.found) := by
  simp only [cutStart?, startTag?, Text.getD_firstAt?, Text.slice?_takeWhile,
    Text.slice?_dropWhile, cutAttributes?_eq, Option.bind_eq_bind, Option.bind_some,
    Option.pure_def]
  split
  · rw [Option.map_map]
    congr 2
    funext attributes
    rw [Function.comp_apply, apply_ite Lexeme.found]
    rfl
  · rfl

theorem byteLength_tag (body : Text) :
    Text.byteLength ('<' :: (body ++ ['>'])) = 1 + Text.byteLength body + 1 := by
  have narrow : '<'.utf8Size = 1 ∧ '>'.utf8Size = 1 := by
    decide
  simp [Text.byteLength, Text.byteLength_append, narrow, Nat.add_assoc]

/-- Measuring what was found gives the lengths of the sources. -/
theorem map_found_measured
    {source : Text}
    {lexeme? : Option Lexeme}
    (isSource : ∀ lexeme, lexeme? = some lexeme → lexeme.source = source)
    (after : Text) :
    (lexeme?.map Lexeme.found).map (fun found => (found, Text.byteLength source)) =
      (lexeme?.map fun lexeme => (lexeme, after)).map fun (lexeme, _) =>
        (lexeme.found, Text.byteLength lexeme.source) := by
  cases lexeme? with
  | none =>
      rfl
  | some lexeme =>
      simp [isSource lexeme rfl]

/-- Cutting a tag never fails and reads what reading does, to its last byte. -/
theorem cutTag?_eq (rest : Text) :
    cutTag? ('<' :: rest) =
      some ((tag? rest).map fun (lexeme, _) =>
        (lexeme.found, Text.byteLength lexeme.source)) := by
  have position := tagEnd?_eq rest none 1 (by simp)
  rw [Option.map_none] at position
  cases ended : splitTag? none rest with
  | none =>
      simp [cutTag?, tag?, position, ended]
  | some parts =>
      obtain ⟨body, after⟩ := parts
      have whole := splitTag?_append ended
      subst whole
      have isRaw : Text.slice? ('<' :: (body ++ '>' :: after)) 0 (1 + Text.byteLength body + 1) =
          some ('<' :: (body ++ ['>'])) := by
        have cut := Text.slice?_start ('<' :: (body ++ ['>'])) after
        rw [byteLength_tag] at cut
        simpa using cut
      have isInner : Text.slice? ('<' :: (body ++ '>' :: after)) 1 (1 + Text.byteLength body) =
          some body :=
        Text.slice?_append ['<'] body ('>' :: after)
      simp only [cutTag?, tag?, List.tail_cons, position, ended, Option.map_some, isRaw, isInner,
        cutStart?_eq, Option.bind_eq_bind, Option.bind_some, Option.pure_def]
      simp only [← byteLength_tag]
      rcases body with _ | ⟨c, inside⟩
      · exact congrArg some (map_found_measured (fun _ => startTag?_source) after)
      · by_cases closes : c = '/'
        · subst closes
          exact congrArg some (map_found_measured (fun _ => closingTag?_source) after)
        · simp only [List.cons.injEq, closes, false_and, imp_self, implies_true]
          exact congrArg some (map_found_measured (fun _ => startTag?_source) after)

/-! ## Lexemes -/

/-- Read what stands at the start of a text, cutting at byte positions, with its length in bytes. -/
def cutNext? : Text → Option (Option (Found × Nat))
  | [] => some none
  | c :: rest =>
      let text := c :: rest
      if c ≠ '<' then do
        let stop := (Text.firstAt? (· = '<') text).getD (Text.byteLength text)
        let raw ← Text.slice? text 0 stop
        return some (.text raw, stop)
      else if commentStart.isPrefixOf text then do
        let inside ← Text.slice? text 4 (Text.byteLength text)
        match Text.breakAt? commentEnd inside with
        | some (body, _) => return some (.comment, 4 + Text.byteLength body + 3)
        | none => return some (.text text, Text.byteLength text)
      else do
        match ← cutTag? text with
        | some step => return some step
        | none =>
            let raw ← Text.slice? text 0 1
            return some (.text raw, 1)

/-- The inside of a comment stands behind four bytes. -/
theorem slice?_comment
    {c : Char}
    {rest : Text}
    (starts : commentStart.isPrefixOf (c :: rest) = true) :
    Text.slice? (c :: rest) 4 (Text.byteLength (c :: rest)) = some (rest.drop 3) := by
  obtain ⟨inside, whole⟩ := List.isPrefixOf_iff_prefix.mp starts
  have cut := Text.slice?_end commentStart inside
  rw [whole] at cut
  have isRest : rest = '!' :: '-' :: '-' :: inside := (List.cons.inj whole).2.symm
  rw [isRest] at cut ⊢
  exact cut

/-- Cutting what comes next never fails and reads what reading does. -/
theorem cutNext?_eq
    (c : Char)
    (rest : Text) :
    cutNext? (c :: rest) =
      some (some ((nextLexeme c rest).1.found,
        Text.byteLength (nextLexeme c rest).1.source)) := by
  fun_cases nextLexeme c rest with
  | case1 isText =>
      have taken : (c :: rest).takeWhile (fun d => !decide (d = '<')) =
          c :: rest.takeWhile (· ≠ '<') := by
        simp [isText]
      have cut := Text.slice?_takeWhile (fun d => !decide (d = '<')) (c :: rest)
      rw [taken] at cut
      simp only [cutNext?, if_pos isText, Text.getD_firstAt?, taken, cut, Option.bind_eq_bind,
        Option.bind_some, Option.pure_def]
      rfl
  | case2 opens starts inside body after found =>
      simp only [cutNext?, if_neg opens, if_pos starts, slice?_comment starts, inside, found,
        Option.bind_eq_bind, Option.bind_some, Option.pure_def, Lexeme.found, Lexeme.source,
        Text.byteLength_append]
      rfl
  | case3 opens starts inside notFound =>
      simp only [cutNext?, if_neg opens, if_pos starts, slice?_comment starts, inside, notFound,
        Option.bind_eq_bind, Option.bind_some, Option.pure_def]
      rfl
  | case4 opens noComment lexeme after found =>
      have isOpen : c = '<' := Decidable.not_not.mp opens
      subst isOpen
      simp only [cutNext?, if_neg opens, if_neg noComment, cutTag?_eq, found, Option.bind_eq_bind,
        Option.bind_some, Option.pure_def, Option.map_some]
  | case5 opens noComment notFound =>
      have isOpen : c = '<' := Decidable.not_not.mp opens
      subst isOpen
      have cut : Text.slice? ('<' :: rest) 0 1 = some ['<'] := Text.slice?_start ['<'] rest
      simp only [cutNext?, if_neg opens, if_neg noComment, cutTag?_eq, notFound, cut,
        Option.bind_eq_bind, Option.bind_some, Option.pure_def, Option.map_none]
      rfl

/-! ## Tiles -/

/-- What was read between two byte positions of a template. -/
structure Tile where
  found : Found
  start : Nat
  stop : Nat
  deriving DecidableEq

/-- Read on from a byte position of a template, unless its end is reached. -/
def cutTile?
    (text : Text)
    (start : Nat) :
    Option (Option Tile) := do
  let rest ← Text.slice? text start (Text.byteLength text)
  let next? ← cutNext? rest
  return next?.map fun (found, length) => ⟨found, start, start + length⟩

/-- Reading on step by step, each from where the one before stopped, ends after these tiles. -/
inductive TiledFrom (text : Text) : Nat → List Tile → Prop where
  | done
      {start : Nat} :
      cutTile? text start = some none →
      TiledFrom text start []
  | step
      {start : Nat}
      {tile : Tile}
      {tiles : List Tile} :
      cutTile? text start = some (some tile) →
      TiledFrom text tile.stop tiles →
      TiledFrom text start (tile :: tiles)

/-- The lexemes side by side, from a byte position on. -/
def layOut : Nat → List Lexeme → List Tile
  | _, [] => []
  | start, lexeme :: rest =>
      let stop := start + Text.byteLength lexeme.source
      ⟨lexeme.found, start, stop⟩ :: layOut stop rest

/-- A tile is what was read as a lexeme, from a span between characters that is not empty. -/
structure Tile.Shows
    (text : Text)
    (lexeme : Lexeme)
    (tile : Tile) :
    Prop where
  found : tile.found = lexeme.found
  proper : tile.start < tile.stop
  span : Text.slice? text tile.start tile.stop = some lexeme.source
  raw : ∀ raw ∈ tile.found.raw?, Text.slice? text tile.start tile.stop = some raw

theorem cutTile?_end (text : Text) : cutTile? text (Text.byteLength text) = some none := by
  have nothing : Text.slice? text (Text.byteLength text) (Text.byteLength text) = some [] := by
    simpa using Text.slice?_end text []
  simp [cutTile?, nothing, cutNext?]

/-- From the end of a lexeme, the next one is cut. -/
theorem cutTile?_eq
    (before : Text)
    (c : Char)
    (rest : Text) :
    cutTile? (before ++ c :: rest) (Text.byteLength before) =
      some (some ⟨(nextLexeme c rest).1.found, Text.byteLength before,
        Text.byteLength before + Text.byteLength (nextLexeme c rest).1.source⟩) := by
  simp [cutTile?, Text.slice?_end, cutNext?_eq]

/-- At the second byte of a character no cut is made, and behind the character one is. -/
example :
    cutTile? "é< b".toList 0 = some (some ⟨.text ['é'], 0, 2⟩) ∧
      cutTile? "é< b".toList 1 = none ∧
      cutTile? "é< b".toList 2 = some (some ⟨.text ['<'], 2, 3⟩) := by
  decide +kernel

/-- Reading on behind what was read gives the lexemes of the rest. -/
theorem tiledFrom_layOut
    (before rest : Text) :
    TiledFrom (before ++ rest) (Text.byteLength before)
      (layOut (Text.byteLength before) (lexemes rest)) := by
  fun_induction lexemes rest generalizing before with
  | case1 =>
      rw [List.append_nil]
      exact .done (cutTile?_end before)
  | case2 c rest next inductionHypothesis =>
      have whole := (nextLexeme_source c rest).2
      have later := inductionHypothesis (before ++ next.1.source)
      rw [List.append_assoc, whole, Text.byteLength_append] at later
      exact .step (cutTile?_eq before c rest) later

/-- There is one way to tile a text. -/
theorem TiledFrom.unique
    {text : Text}
    {start : Nat}
    {tiles others : List Tile}
    (first : TiledFrom text start tiles)
    (second : TiledFrom text start others) :
    tiles = others := by
  induction first generalizing others with
  | done ends =>
      cases second with
      | done =>
          rfl
      | step reads =>
          rw [ends] at reads
          cases reads
  | step reads _ inductionHypothesis =>
      cases second with
      | done ends =>
          rw [reads] at ends
          cases ends
      | step readsToo later =>
          rw [reads] at readsToo
          cases readsToo
          rw [inductionHypothesis later]

/-- Every lexeme is made of something. -/
theorem source_ne_nil_of_mem_lexemes
    {text : Text}
    {lexeme : Lexeme}
    (member : lexeme ∈ lexemes text) :
    lexeme.source ≠ [] := by
  fun_induction lexemes text with
  | case1 =>
      cases member
  | case2 c rest next inductionHypothesis =>
      rcases List.mem_cons.mp member with rfl | isLater
      · exact (nextLexeme_source c rest).1
      · exact inductionHypothesis isLater

/-- Lexemes side by side are each shown where their source stands. -/
theorem shows_layOut
    (before : Text)
    {lexemes : List Lexeme}
    (nonempty : ∀ lexeme ∈ lexemes, lexeme.source ≠ []) :
    List.Forall₂ (Tile.Shows (before ++ lexemes.flatMap Lexeme.source)) lexemes
      (layOut (Text.byteLength before) lexemes) := by
  induction lexemes generalizing before with
  | nil =>
      exact .nil
  | cons lexeme rest inductionHypothesis =>
      obtain ⟨isProper, restProper⟩ := List.forall_mem_cons.mp nonempty
      have later := inductionHypothesis (before ++ lexeme.source) restProper
      have span := Text.slice?_append before lexeme.source (rest.flatMap Lexeme.source)
      rw [List.append_assoc, Text.byteLength_append] at later
      rw [Text.byteLength_append] at span
      refine .cons ⟨rfl, Nat.lt_add_of_pos_right (Text.byteLength_pos isProper), span, ?_⟩ later
      intro raw kept
      rw [Lexeme.eq_source_of_mem_raw? kept]
      exact span

/--
Reading a template by byte positions from its start makes no cut inside a character
and ends after finitely many steps, in one way only. The steps read the lexemes of the
template one by one, each from a span that is not empty and that is the source of the
lexeme, also where the source is kept. The spans side by side are the template.
-/
theorem lexemes_tileTemplate (text : Text) :
    ∃ tiles,
      (∀ others, TiledFrom text 0 others ↔ others = tiles) ∧
        List.Forall₂ (Tile.Shows text) (lexemes text) tiles ∧
        (lexemes text).flatMap Lexeme.source = text := by
  have tiled := tiledFrom_layOut [] text
  have nonempty : ∀ lexeme ∈ lexemes text, lexeme.source ≠ [] := by
    intro lexeme member
    exact source_ne_nil_of_mem_lexemes member
  have shown := shows_layOut [] nonempty
  rw [flatMap_source_lexemes] at shown
  refine ⟨layOut 0 (lexemes text), ?_, shown, flatMap_source_lexemes text⟩
  intro others
  constructor
  · intro alsoTiled
    exact alsoTiled.unique tiled
  · rintro rfl
    exact tiled

end Colloquy.Markup
