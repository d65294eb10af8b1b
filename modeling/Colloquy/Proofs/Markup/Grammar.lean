import Colloquy.Proofs.Markup.Sources
import Colloquy.Proofs.Markup.Writing
import Colloquy.Proofs.Text.Cutting

namespace Colloquy.Markup

/-!
# The grammar of tags

Tags are read in two passes. The first looks for the end of the tag and passes over
quoted values, and the second takes the inside apart into a name and assignments.
Each keeps track of quotes by itself. Both agree on where a value ends, since quotes
stand around values and nowhere else, and the first refuses the values that break a
line or run too far. Together they read exactly the tags of a grammar, each as what
the grammar makes of it, and a text begins with one such tag at most.
-/

/-- An assignment as it is written, with the blank characters that stand around its parts. -/
structure Assignment where
  gap : Text
  name : Text
  before : Text
  behind : Text
  quote : Char
  inside : Text
  gapBlank : ∀ c ∈ gap, Text.isBlank c = true
  named : isName name = true
  beforeBlank : ∀ c ∈ before, Text.isBlank c = true
  behindBlank : ∀ c ∈ behind, Text.isBlank c = true
  quotes : isQuote quote = true
  closes : quote ∉ inside

namespace Assignment

/-- The characters of an assignment. -/
def text (assignment : Assignment) : Text :=
  assignment.gap ++ (assignment.name ++ (assignment.before ++ '=' ::
    (assignment.behind ++ assignment.quote :: (assignment.inside ++ [assignment.quote]))))

/-- The attribute that is assigned. -/
def entry (assignment : Assignment) : Attribute :=
  (assignment.name, decodeEntities assignment.inside)

/-- The same assignment without a gap before it. -/
def bare (assignment : Assignment) : Assignment :=
  { assignment with
    gap := []
    gapBlank := List.forall_mem_nil _ }

/-- The value breaks no line, and each of its characters starts near enough to the quote. -/
structure Contained (assignment : Assignment) : Prop where
  oneLine : '\n' ∉ assignment.inside
  near : ∀ before c after, assignment.inside = before ++ c :: after →
    Text.byteLength (assignment.quote :: before) ≤ maxQuotedLength

end Assignment

/-- The characters of assignments, one after the other. -/
def written (assignments : List Assignment) : Text :=
  assignments.flatMap Assignment.text

/-- The first assignment stands apart from the name before it. -/
def StandApart (assignments : List Assignment) : Prop :=
  ∀ first ∈ assignments.head?, first.gap ≠ []

/-- A tag is spelled as the grammar says, and its parts are those that were spelled. -/
inductive Lexeme.Spelled : Lexeme → Prop where
  | closing
      {gap name gap' : Text}
      (isGap : ∀ c ∈ gap, Text.isBlank c = true)
      (named : isName name = true)
      (isGap' : ∀ c ∈ gap', Text.isBlank c = true) :
      Spelled (.closing name ('<' :: '/' :: (gap ++ (name ++ (gap' ++ ['>'])))))
  | opening
      {name gap : Text}
      {assignments : List Assignment}
      (named : isName name = true)
      (apart : StandApart assignments)
      (contained : ∀ assignment ∈ assignments, assignment.Contained)
      (isGap : ∀ c ∈ gap, Text.isBlank c = true) :
      Spelled (.opening name (assignments.map Assignment.entry)
        ('<' :: (name ++ (written assignments ++ (gap ++ ['>'])))))
  | standalone
      {name gap gap' : Text}
      {assignments : List Assignment}
      (named : isName name = true)
      (apart : StandApart assignments)
      (contained : ∀ assignment ∈ assignments, assignment.Contained)
      (isGap : ∀ c ∈ gap, Text.isBlank c = true)
      (isGap' : ∀ c ∈ gap', Text.isBlank c = true) :
      Spelled (.standalone name (assignments.map Assignment.entry)
        ('<' :: (name ++ (written assignments ++ (gap ++ '/' :: (gap' ++ ['>']))))))

/-! ## Finding the end -/

theorem exists_name_eq_cons
    {name : Text}
    (named : isName name = true) :
    ∃ c later, name = c :: later ∧ isNameChar c = true := by
  cases name with
  | nil =>
      simp [isName] at named
  | cons c later =>
      exact ⟨c, later, rfl, isNameChar_of_mem named List.mem_cons_self⟩

theorem isPlain_of_blank
    {gap : Text}
    (isGap : ∀ c ∈ gap, Text.isBlank c = true) :
    IsPlain gap := by
  have checked : markupChars.all (fun d => !Text.isBlank d) = true := by
    decide
  intro c member
  have different : ∀ d ∈ markupChars, c ≠ d := by
    rintro d isMarkup rfl
    have visible := List.all_eq_true.mp checked c isMarkup
    simp [isGap c member] at visible
  simp only [markupChars, List.forall_mem_cons] at different
  simp [isQuote, different]

theorem utf8Size_of_isQuote
    {quote : Char}
    (quotes : isQuote quote = true) :
    quote.utf8Size = 1 := by
  have eitherQuote : quote = '"' ∨ quote = '\'' := by
    simpa [isQuote] using quotes
  rcases eitherQuote with rfl | rfl
  · decide
  · decide

namespace Assignment

variable
  (assignment : Assignment)

/-- A value stands between double or single quotes. -/
theorem quote_eq : assignment.quote = '"' ∨ assignment.quote = '\'' := by
  simpa [isQuote] using assignment.quotes

theorem utf8Size_quote : assignment.quote.utf8Size = 1 :=
  utf8Size_of_isQuote assignment.quotes

theorem isBlank_quote : Text.isBlank assignment.quote = false := by
  rcases assignment.quote_eq with isDouble | isSingle
  · rw [isDouble]
    decide
  · rw [isSingle]
    decide

/-- The last character starts farthest from the quote. -/
theorem contained_iff :
    assignment.Contained ↔ StaysInside 1 assignment.inside := by
  constructor
  · rintro ⟨oneLine, near⟩
    refine ⟨oneLine, fun nonempty => ?_⟩
    have last := near _ _ [] (List.dropLast_append_getLast nonempty).symm
    rwa [Text.byteLength, assignment.utf8Size_quote] at last
  · rintro ⟨oneLine, near⟩
    refine ⟨oneLine, fun before c after isInside => ?_⟩
    have farthest := near (by simp [isInside])
    rw [isInside, List.dropLast_append_of_ne_nil (List.cons_ne_nil c after),
      Text.byteLength_append] at farthest
    rw [Text.byteLength, assignment.utf8Size_quote]
    omega

/-- What stands before the value. -/
def lead : Text :=
  assignment.gap ++ (assignment.name ++ (assignment.before ++ '=' :: assignment.behind))

/-- What stands before the quoted value neither quotes nor ends a tag. -/
theorem isPlain_lead : IsPlain assignment.lead := by
  simp only [IsPlain, lead, List.forall_mem_append, List.forall_mem_cons]
  exact ⟨isPlain_of_blank assignment.gapBlank, isPlain_of_isName assignment.named,
    isPlain_of_blank assignment.beforeBlank, by decide, isPlain_of_blank assignment.behindBlank⟩

theorem text_append (rest : Text) :
    assignment.text ++ rest =
      assignment.gap ++ (assignment.name ++ (assignment.before ++ '=' ::
        (assignment.behind ++ assignment.quote ::
          (assignment.inside ++ assignment.quote :: rest)))) := by
  simp [text]

theorem text_append_eq_lead (rest : Text) :
    assignment.text ++ rest =
      assignment.lead ++ assignment.quote :: (assignment.inside ++ assignment.quote :: rest) := by
  simp [text, lead]

/-- Finding the end passes over an assignment exactly if its value is contained. -/
theorem splitTag?_eq_some_iff
    {rest body after : Text} :
    splitTag? none (assignment.text ++ rest) = some (body, after) ↔
      assignment.Contained ∧
        ∃ inner, splitTag? none rest = some (inner, after) ∧ body = assignment.text ++ inner := by
  rw [contained_iff, text_append_eq_lead, splitTag?_plain assignment.isPlain_lead, splitTag?,
    if_pos assignment.quotes, assignment.utf8Size_quote, splitTag?_quoted assignment.closes]
  by_cases stays : StaysInside 1 assignment.inside
  · simp only [stays, if_true, Option.map_map, Option.map_eq_some_iff, Prod.exists,
      Function.comp_apply, Prod.mk.injEq, true_and]
    constructor
    · rintro ⟨inner, outer, found, rfl, rfl⟩
      exact ⟨inner, found, (assignment.text_append_eq_lead inner).symm⟩
    · rintro ⟨inner, found, rfl⟩
      exact ⟨inner, after, found, (assignment.text_append_eq_lead inner).symm, rfl⟩
  · simp [stays]

end Assignment

/-- A tag with written assignments is cut behind them exactly if their values keep to the bounds. -/
theorem splitTag?_written_eq_some_iff
    {assignments : List Assignment}
    {rest body after : Text} :
    splitTag? none (written assignments ++ rest) = some (body, after) ↔
      (∀ assignment ∈ assignments, assignment.Contained) ∧
        ∃ inner,
          splitTag? none rest = some (inner, after) ∧ body = written assignments ++ inner := by
  induction assignments generalizing body with
  | nil =>
      simp [written]
  | cons assignment others inductionHypothesis =>
      rw [written, List.flatMap_cons, List.append_assoc, ← written,
        assignment.splitTag?_eq_some_iff, List.forall_mem_cons, and_assoc]
      refine and_congr_right fun _ => ?_
      constructor
      · rintro ⟨inner, found, rfl⟩
        obtain ⟨contained, last, foundLast, rfl⟩ := inductionHypothesis.mp found
        exact ⟨contained, last, foundLast, (List.append_assoc _ _ _).symm⟩
      · rintro ⟨contained, last, foundLast, rfl⟩
        have found := inductionHypothesis.mpr ⟨contained, last, foundLast, rfl⟩
        exact ⟨_, found, List.append_assoc _ _ _⟩

/-- The end of a tag is found behind plain characters. -/
theorem splitTag?_plain_end
    {plain : Text}
    (isPlain : IsPlain plain)
    (after : Text) :
    splitTag? none (plain ++ '>' :: after) = some (plain, after) := by
  rw [splitTag?_plain isPlain]
  simp [splitTag?, isQuote]

/-- The end of a tag with assignments is found exactly if all values are contained. -/
theorem splitTag?_start_iff
    {name tail : Text}
    {assignments : List Assignment}
    (named : isName name = true)
    (isPlain : IsPlain tail)
    (after : Text) :
    splitTag? none (name ++ (written assignments ++ tail) ++ '>' :: after) =
        some (name ++ (written assignments ++ tail), after) ↔
      ∀ assignment ∈ assignments, assignment.Contained := by
  rw [List.append_assoc, List.append_assoc, splitTag?_name named]
  simp only [Option.map_eq_some_iff, Prod.exists, Prod.mk.injEq, splitTag?_written_eq_some_iff,
    splitTag?_plain_end isPlain]
  constructor
  · rintro ⟨body, _, ⟨contained, _⟩, _⟩
    exact contained
  · intro contained
    exact ⟨_, after, ⟨contained, tail, rfl, rfl⟩, rfl, rfl⟩

/-! ## Taking the inside apart -/

/-- A value that is read is what stands decoded between two equal quotes. -/
theorem quotedValue?_eq_some_iff
    {text value after : Text} :
    quotedValue? text = some (value, after) ↔
      ∃ quote inside,
        isQuote quote = true ∧
          quote ∉ inside ∧
          value = decodeEntities inside ∧
          text = quote :: (inside ++ quote :: after) := by
  constructor
  · intro found
    cases text with
    | nil =>
        simp [quotedValue?] at found
    | cons quote rest =>
        simp only [quotedValue?] at found
        split at found
        · next quotes =>
            split at found
            · simp at found
            · next closing tail dropped =>
                simp only [Option.some.injEq, Prod.mk.injEq] at found
                obtain ⟨rfl, rfl⟩ := found
                have isQuote : closing = quote := by
                  have begins := List.head?_dropWhile_not (· ≠ quote) rest
                  rw [dropped] at begins
                  simpa using begins
                refine ⟨quote, rest.takeWhile (· ≠ quote), quotes, ?_, rfl, ?_⟩
                · intro member
                  simpa using List.mem_takeWhile_imp member
                · nth_rewrite 1 [← List.takeWhile_append_dropWhile (p := (· ≠ quote)) (l := rest)]
                  rw [dropped, isQuote]
        · simp at found
  · rintro ⟨quote, inside, quotes, closes, rfl, rfl⟩
    obtain ⟨taken, dropped⟩ := span_before closes (quote :: after) (by simp)
    rw [quotedValue?, if_pos quotes, taken, dropped]

/-- A text is the blanks at its beginning and the rest. -/
theorem exists_trimStart (text : Text) :
    ∃ gap, (∀ c ∈ gap, Text.isBlank c = true) ∧ text = gap ++ Text.trimStart text :=
  ⟨text.takeWhile Text.isBlank, fun _ => List.mem_takeWhile_imp,
    List.takeWhile_append_dropWhile.symm⟩

/-- An assignment without a gap before it is read as its attribute. -/
theorem Assignment.attribute?_text
    (assignment : Assignment)
    (noGap : assignment.gap = [])
    (after : Text) :
    attribute? (assignment.text ++ after) = some (assignment.entry, after) := by
  have goesOn : ∀ c ∈ assignment.name, (!endsAttributeName c) = true := by
    intro c member
    have inName := isNameChar_of_mem assignment.named member
    have notEquals : c ≠ '=' := ne_of_isNameChar inName (by decide)
    simp [endsAttributeName, notEquals, isBlank_eq_false_of_isNameChar inName]
  have stops (later : Text) :
      (assignment.before ++ '=' :: later).head?.all fun c => !!endsAttributeName c := by
    cases isBefore : assignment.before with
    | nil =>
        simp [endsAttributeName]
    | cons c others =>
        have blank := assignment.beforeBlank c (by simp [isBefore])
        simp [endsAttributeName, blank]
  obtain ⟨taken, dropped⟩ := span_append goesOn _ (stops (assignment.behind ++
    assignment.quote :: (assignment.inside ++ assignment.quote :: after)))
  have atEquals (later : Text) :
      Text.trimStart (assignment.before ++ '=' :: later) = '=' :: later :=
    Text.trimStart_append assignment.beforeBlank (by decide) later
  have atQuote (later : Text) :
      Text.trimStart (assignment.behind ++ assignment.quote :: later) =
        assignment.quote :: later :=
    Text.trimStart_append assignment.behindBlank assignment.isBlank_quote later
  have isValue : quotedValue? (assignment.quote ::
      (assignment.inside ++ assignment.quote :: after)) =
      some (decodeEntities assignment.inside, after) :=
    quotedValue?_eq_some_iff.mpr ⟨_, _, assignment.quotes, assignment.closes, rfl, rfl⟩
  rw [assignment.text_append, noGap, List.nil_append]
  simp only [attribute?, taken, dropped, assignment.named, if_true, atEquals, atQuote, isValue,
    Option.map_some]
  rfl

/-- An attribute is read exactly where an assignment stands. -/
theorem attribute?_eq_some_iff
    {text after : Text}
    {entry : Attribute} :
    attribute? text = some (entry, after) ↔
      ∃ assignment : Assignment,
        assignment.gap = [] ∧ entry = assignment.entry ∧ text = assignment.text ++ after := by
  constructor
  · intro found
    simp only [attribute?] at found
    split at found
    · next named =>
        split at found
        · next assigned trimmed =>
            simp only [Option.map_eq_some_iff, Prod.exists, Prod.mk.injEq] at found
            obtain ⟨value, rest, isValue, rfl, rfl⟩ := found
            obtain ⟨quote, inside, quotes, closes, rfl, isAssigned⟩ :=
              quotedValue?_eq_some_iff.mp isValue
            obtain ⟨before, beforeBlank, isBefore⟩ :=
              exists_trimStart (text.dropWhile fun c => !endsAttributeName c)
            obtain ⟨behind, behindBlank, isBehind⟩ := exists_trimStart assigned
            refine ⟨⟨[], _, before, behind, quote, inside, List.forall_mem_nil _, named,
              beforeBlank, behindBlank, quotes, closes⟩, rfl, rfl, ?_⟩
            rw [trimmed, isBehind, isAssigned] at isBefore
            nth_rewrite 1 [← List.takeWhile_append_dropWhile (p := fun c => !endsAttributeName c)
              (l := text)]
            rw [isBefore]
            simp [Assignment.text]
        · simp at found
    · simp at found
  · rintro ⟨assignment, noGap, rfl, rfl⟩
    exact assignment.attribute?_text noGap after

/-- Written assignments are read as their entries. -/
theorem attributes?_written_append
    (assignments : List Assignment)
    {gap : Text}
    (isGap : ∀ c ∈ gap, Text.isBlank c = true) :
    attributes? (written assignments ++ gap) = some (assignments.map Assignment.entry) := by
  induction assignments with
  | nil =>
      rw [attributes?, if_pos]
      · rfl
      · exact List.isEmpty_iff.mpr (List.dropWhile_eq_nil_iff.mpr isGap)
  | cons assignment others inductionHypothesis =>
      have trimmed : Text.trimStart (written (assignment :: others) ++ gap) =
          assignment.bare.text ++ (written others ++ gap) := by
        rw [written, List.flatMap_cons, List.append_assoc, ← written, assignment.text_append,
          Text.trimStart, List.dropWhile_append_of_pos assignment.gapBlank, ← Text.trimStart,
          trimStart_name assignment.named, assignment.bare.text_append]
        rfl
      have found := assignment.bare.attribute?_text rfl (written others ++ gap)
      rw [← trimmed] at found
      rw [attributes?_of_attribute? found, inductionHypothesis]
      rfl

/-- Attributes are read exactly from assignments, and perhaps a gap behind them. -/
theorem attributes?_eq_some_iff
    {text : Text}
    {attributes : List Attribute} :
    attributes? text = some attributes ↔
      ∃ assignments gap,
        (∀ c ∈ gap, Text.isBlank c = true) ∧
          attributes = assignments.map Assignment.entry ∧
          text = written assignments ++ gap := by
  constructor
  · intro found
    fun_induction attributes? text generalizing attributes with
    | case1 text empty =>
        obtain rfl : [] = attributes := Option.some.inj found
        exact ⟨[], text, List.dropWhile_eq_nil_iff.mp (List.isEmpty_iff.mp empty), rfl, rfl⟩
    | case2 =>
        simp at found
    | case3 text _ entry after isEntry inductionHypothesis =>
        obtain ⟨others, areOthers, rfl⟩ := Option.map_eq_some_iff.mp found
        obtain ⟨assignments, gap, isGap, rfl, rfl⟩ := inductionHypothesis areOthers
        obtain ⟨assignment, noGap, rfl, isText⟩ := attribute?_eq_some_iff.mp isEntry
        obtain ⟨lead, leadBlank, isLead⟩ := exists_trimStart text
        refine ⟨{ assignment with gap := lead, gapBlank := leadBlank } :: assignments, gap, isGap,
          rfl, ?_⟩
        rw [isLead, isText]
        simp [written, Assignment.text, noGap]
  · rintro ⟨assignments, gap, isGap, rfl, rfl⟩
    exact attributes?_written_append assignments isGap

/-! ## Tags -/

/-- Assignments that stand apart begin with a blank. -/
theorem isBlank_head?_written
    {assignments : List Assignment}
    (apart : StandApart assignments)
    {gap : Text}
    (isGap : ∀ c ∈ gap, Text.isBlank c = true) :
    ∀ c ∈ (written assignments ++ gap).head?, Text.isBlank c = true := by
  cases assignments with
  | nil =>
      intro c begins
      exact isGap c (List.mem_of_mem_head? begins)
  | cons first others =>
      obtain ⟨d, later, isLead⟩ := List.exists_cons_of_ne_nil (apart first rfl)
      have blank := first.gapBlank d (by simp [isLead])
      simpa [written, Assignment.text, isLead] using blank

/-- Assignments stand apart if a blank comes first. -/
theorem standApart_of_isBlank_head?
    {assignments : List Assignment}
    {gap : Text}
    (begins : ∀ c ∈ (written assignments ++ gap).head?, Text.isBlank c = true) :
    StandApart assignments := by
  cases assignments with
  | nil =>
      rintro first ⟨⟩
  | cons assignment others =>
      rintro first ⟨⟩ noGap
      obtain ⟨c, later, isName, inName⟩ := exists_name_eq_cons assignment.named
      have blank := begins c (by simp [written, Assignment.text, noGap, isName])
      rw [isBlank_eq_false_of_isNameChar inName] at blank
      exact Bool.false_ne_true blank

/-- A name is taken off with what follows the first blank character behind it. -/
theorem span_name
    {name rest : Text}
    (named : isName name = true)
    (begins : ∀ c ∈ rest.head?, Text.isBlank c = true) :
    (name ++ rest).takeWhile (fun c => !Text.isBlank c) = name ∧
      (name ++ rest).dropWhile (fun c => !Text.isBlank c) = rest := by
  apply span_append
  · intro c member
    simp [isBlank_eq_false_of_isNameChar (isNameChar_of_mem named member)]
  · cases rest with
    | nil =>
        rfl
    | cons c later =>
        simp [begins c rfl]

/-- A name with assignments ends with its last character or with a quote. -/
theorem endsSolid_start
    {name : Text}
    (named : isName name = true)
    (assignments : List Assignment) :
    EndsSolid (name ++ written assignments) := by
  cases assignments using List.reverseRecOn with
  | nil =>
      exact endsSolid_written named []
  | append_singleton others last =>
      refine ⟨name ++ (written others ++ (last.lead ++ last.quote :: last.inside)), last.quote,
        ?_, last.isBlank_quote, ?_⟩
      · simp [written, Assignment.text, Assignment.lead]
      · rcases last.quote_eq with isDouble | isSingle
        · simp [isDouble]
        · simp [isSingle]

/-- The blanks behind the last visible character are trimmed. -/
theorem trimEnd_append_blank
    (front : Text)
    {last : Char}
    (visible : Text.isBlank last = false)
    {gap : Text}
    (isGap : ∀ c ∈ gap, Text.isBlank c = true) :
    Text.trimEnd (front ++ last :: gap) = front ++ [last] :=
  Text.dropEndWhile_append_cons front visible isGap

theorem exists_trimEnd (text : Text) :
    ∃ gap, (∀ c ∈ gap, Text.isBlank c = true) ∧ text = Text.trimEnd text ++ gap :=
  ⟨Text.takeEndWhile Text.isBlank text, fun _ => Text.of_mem_takeEndWhile,
    (Text.dropEndWhile_append_takeEndWhile Text.isBlank text).symm⟩

/-- A slash at the end is what makes a tag self-closing. -/
theorem eq_append_of_dropSlash
    {text body : Text}
    {selfClosing : Bool}
    (found : dropSlash text = (body, selfClosing)) :
    text = body ++ (if selfClosing then ['/'] else []) := by
  unfold dropSlash at found
  split at found
  · next rest reversed =>
      obtain ⟨rfl, rfl⟩ := Prod.mk.inj found
      rw [← List.reverse_reverse text, reversed]
      simp
  · obtain ⟨rfl, rfl⟩ := Prod.mk.inj found
    simp

/-- What may stand behind the assignments of a tag, and whether the tag closes itself. -/
inductive IsTail : Bool → Text → Prop where
  | opening
      {gap : Text}
      (isGap : ∀ c ∈ gap, Text.isBlank c = true) :
      IsTail false gap
  | standalone
      {gap gap' : Text}
      (isGap : ∀ c ∈ gap, Text.isBlank c = true)
      (isGap' : ∀ c ∈ gap', Text.isBlank c = true) :
      IsTail true (gap ++ '/' :: gap')

theorem IsTail.isPlain
    {selfClosing : Bool}
    {tail : Text}
    (isTail : IsTail selfClosing tail) :
    IsPlain tail := by
  cases isTail with
  | opening isGap =>
      exact isPlain_of_blank isGap
  | standalone isGap isGap' =>
      simp only [IsPlain, List.forall_mem_append, List.forall_mem_cons]
      exact ⟨isPlain_of_blank isGap, by decide, isPlain_of_blank isGap'⟩

/-- The tail of a tag is dropped, but perhaps for blank characters before its slash. -/
theorem IsTail.exists_dropSlash
    {selfClosing : Bool}
    {tail : Text}
    (isTail : IsTail selfClosing tail)
    {name : Text}
    (named : isName name = true)
    (assignments : List Assignment) :
    ∃ gap,
      (∀ c ∈ gap, Text.isBlank c = true) ∧
        dropSlash (Text.trimEnd (name ++ (written assignments ++ tail))) =
          (name ++ (written assignments ++ gap), selfClosing) := by
  cases isTail with
  | opening isGap =>
      obtain ⟨front, last, isFront, visible, notSlash⟩ := endsSolid_start named assignments
      refine ⟨[], List.forall_mem_nil _, ?_⟩
      rw [List.append_nil, ← List.append_assoc, isFront, List.append_assoc, List.singleton_append,
        trimEnd_append_blank front visible isGap, dropSlash_concat front notSlash]
  | @standalone gap gap' isGap isGap' =>
      refine ⟨gap, isGap, ?_⟩
      rw [← List.append_assoc, ← List.append_assoc,
        trimEnd_append_blank _ (by decide) isGap']
      simp [dropSlash]

/-- The lexeme of a tag that starts an element. -/
def Lexeme.start
    (selfClosing : Bool)
    (name : Text)
    (attributes : List Attribute)
    (source : Text) :
    Lexeme :=
  if selfClosing then
    .standalone name attributes source
  else
    .opening name attributes source

/-- The inside of a tag is read exactly if it is a name with assignments and a tail. -/
theorem startTag?_eq_some_iff
    {inside source : Text}
    {lexeme : Lexeme} :
    startTag? inside source = some lexeme ↔
      ∃ name assignments selfClosing tail,
        isName name = true ∧
          StandApart assignments ∧
          IsTail selfClosing tail ∧
          inside = name ++ (written assignments ++ tail) ∧
          lexeme = .start selfClosing name (assignments.map Assignment.entry) source := by
  constructor
  · intro found
    cases isBody : dropSlash (Text.trimEnd inside) with
    | mk body selfClosing =>
        simp only [startTag?, isBody] at found
        split at found
        · next named =>
            obtain ⟨attributes, areAttributes, rfl⟩ := Option.map_eq_some_iff.mp found
            obtain ⟨assignments, gap, isGap, rfl, isRest⟩ :=
              attributes?_eq_some_iff.mp areAttributes
            obtain ⟨trail, isTrail, isInside⟩ := exists_trimEnd inside
            have begins : ∀ c ∈ (written assignments ++ gap).head?, Text.isBlank c = true := by
              intro c isFirst
              have stops := List.head?_dropWhile_not (fun c => !Text.isBlank c) body
              rw [isRest, Option.mem_def.mp isFirst] at stops
              simpa using stops
            refine ⟨_, assignments, selfClosing,
              gap ++ ((if selfClosing then ['/'] else []) ++ trail), named,
              standApart_of_isBlank_head? begins, ?_, ?_, rfl⟩
            · cases selfClosing with
              | false =>
                  exact .opening (List.forall_mem_append.mpr ⟨isGap, isTrail⟩)
              | true =>
                  exact .standalone isGap isTrail
            · rw [isInside, eq_append_of_dropSlash isBody, ← List.append_assoc (written _),
                ← isRest, ← List.append_assoc, List.takeWhile_append_dropWhile, List.append_assoc]
        · simp at found
  · rintro ⟨name, assignments, selfClosing, tail, named, apart, isTail, rfl, rfl⟩
    obtain ⟨gap, isGap, isBody⟩ := isTail.exists_dropSlash named assignments
    obtain ⟨isName, isRest⟩ := span_name named (isBlank_head?_written apart isGap)
    simp only [startTag?, isBody, isName, isRest, named, if_true,
      attributes?_written_append assignments isGap, Option.map_some]
    rfl

/-- The tag of a name with assignments and a tail is spelled as the grammar says. -/
theorem IsTail.spelled
    {selfClosing : Bool}
    {tail : Text}
    (isTail : IsTail selfClosing tail)
    {name : Text}
    {assignments : List Assignment}
    (named : isName name = true)
    (apart : StandApart assignments)
    (contained : ∀ assignment ∈ assignments, assignment.Contained) :
    (Lexeme.start selfClosing name (assignments.map Assignment.entry)
      ('<' :: (name ++ (written assignments ++ tail) ++ ['>']))).Spelled := by
  cases isTail with
  | opening isGap =>
      simpa [Lexeme.start] using Lexeme.Spelled.opening named apart contained isGap
  | standalone isGap isGap' =>
      simpa [Lexeme.start] using Lexeme.Spelled.standalone named apart contained isGap isGap'

/-- A closing tag is a name with blanks around it. -/
theorem closingTag?_eq_some_iff
    {inside source : Text}
    {lexeme : Lexeme} :
    closingTag? inside source = some lexeme ↔
      ∃ gap name gap',
        (∀ c ∈ gap, Text.isBlank c = true) ∧
          isName name = true ∧
          (∀ c ∈ gap', Text.isBlank c = true) ∧
          inside = gap ++ (name ++ gap') ∧
          lexeme = .closing name source := by
  constructor
  · intro found
    simp only [closingTag?] at found
    split at found
    · next named =>
        obtain rfl := Option.some.inj found
        obtain ⟨gap, isGap, isInside⟩ := exists_trimStart inside
        obtain ⟨gap', isGap', isTrimmed⟩ := exists_trimEnd (Text.trimStart inside)
        refine ⟨gap, _, gap', isGap, named, isGap', ?_, rfl⟩
        rw [Text.trim, ← isTrimmed, ← isInside]
    · simp at found
  · rintro ⟨gap, name, gap', isGap, named, isGap', rfl, rfl⟩
    have trimmed : Text.trim (gap ++ (name ++ gap')) = name := by
      obtain ⟨front, last, isFront, visible, -⟩ := endsSolid_written named []
      rw [List.flatMap_nil, List.append_nil] at isFront
      rw [Text.trim, Text.trimStart, List.dropWhile_append_of_pos isGap, ← Text.trimStart,
        trimStart_name named, isFront, List.append_assoc, List.singleton_append,
        trimEnd_append_blank front visible isGap']
    simp only [closingTag?, trimmed, named, if_true]

/-- A start tag that is spelled right is read with its name and entries. -/
theorem tag?_start
    {name tail : Text}
    {assignments : List Assignment}
    {selfClosing : Bool}
    (named : isName name = true)
    (apart : StandApart assignments)
    (contained : ∀ assignment ∈ assignments, assignment.Contained)
    (isTail : IsTail selfClosing tail)
    (after : Text) :
    tag? (name ++ (written assignments ++ tail) ++ '>' :: after) =
      some (.start selfClosing name (assignments.map Assignment.entry)
        ('<' :: (name ++ (written assignments ++ tail) ++ ['>'])), after) := by
  have isEnd := (splitTag?_start_iff named isTail.isPlain after).mpr contained
  have isStart (source : Text) :
      startTag? (name ++ (written assignments ++ tail)) source =
        some (.start selfClosing name (assignments.map Assignment.entry) source) :=
    startTag?_eq_some_iff.mpr
      ⟨name, assignments, selfClosing, tail, named, apart, isTail, rfl, rfl⟩
  obtain ⟨c, later, isName, inName⟩ := exists_name_eq_cons named
  simp only [tag?, isEnd, Option.bind_some]
  split
  · next inside isInside =>
      rw [isName] at isInside
      exact absurd (List.cons.inj isInside).1 (ne_of_isNameChar inName (by decide))
  · rw [isStart, Option.map_some]

/-- Reading a tag reads exactly what the grammar spells. -/
theorem tag?_eq_some_iff
    {text after : Text}
    {lexeme : Lexeme} :
    tag? text = some (lexeme, after) ↔
      lexeme.Spelled ∧ lexeme.source ++ after = '<' :: text := by
  constructor
  · intro found
    refine ⟨?_, (tag?_source found).2⟩
    simp only [tag?, Option.bind_eq_some_iff, Prod.exists, Option.map_eq_some_iff,
      Prod.mk.injEq] at found
    obtain ⟨body, rest, isEnd, tag, isTag, rfl, rfl⟩ := found
    split at isTag
    · next inside =>
        obtain ⟨gap, name, gap', isGap, named, isGap', rfl, rfl⟩ :=
          closingTag?_eq_some_iff.mp isTag
        simpa using Lexeme.Spelled.closing isGap named isGap'
    · obtain ⟨name, assignments, selfClosing, tail, named, apart, isTail, rfl, rfl⟩ :=
        startTag?_eq_some_iff.mp isTag
      -- The end was found behind what was taken apart, so that no value in it runs too far.
      rw [← splitTag?_append isEnd] at isEnd
      exact isTail.spelled named apart ((splitTag?_start_iff named isTail.isPlain _).mp isEnd)
  · rintro ⟨spelled, isText⟩
    cases spelled with
    | @closing gap name gap' isGap named isGap' =>
        obtain rfl : text = '/' :: (gap ++ (name ++ gap')) ++ '>' :: after := by
          simpa [Lexeme.source] using isText.symm
        have isPlain : IsPlain ('/' :: (gap ++ (name ++ gap'))) := by
          simp only [IsPlain, List.forall_mem_append, List.forall_mem_cons]
          exact ⟨by decide, isPlain_of_blank isGap, isPlain_of_isName named,
            isPlain_of_blank isGap'⟩
        have isClosing (source : Text) :
            closingTag? (gap ++ (name ++ gap')) source = some (.closing name source) :=
          closingTag?_eq_some_iff.mpr ⟨gap, name, gap', isGap, named, isGap', rfl, rfl⟩
        simp only [tag?, splitTag?_plain_end isPlain, Option.bind_some, isClosing,
          Option.map_some]
        simp
    | @opening name gap assignments named apart contained isGap =>
        obtain rfl : text = name ++ (written assignments ++ gap) ++ '>' :: after := by
          simpa [Lexeme.source] using isText.symm
        rw [tag?_start named apart contained (.opening isGap)]
        simp [Lexeme.start]
    | @standalone name gap gap' assignments named apart contained isGap isGap' =>
        obtain rfl :
            text = name ++ (written assignments ++ (gap ++ '/' :: gap')) ++ '>' :: after := by
          simpa [Lexeme.source] using isText.symm
        rw [tag?_start named apart contained (.standalone isGap isGap')]
        simp [Lexeme.start]

/-- What is spelled as a tag is one. -/
theorem Lexeme.Spelled.isTag
    {lexeme : Lexeme}
    (spelled : lexeme.Spelled) :
    lexeme.isTag = true := by
  cases spelled <;> rfl

/-- No tag begins as a comment does. -/
theorem Lexeme.Spelled.head?_ne
    {lexeme : Lexeme}
    {text after : Text}
    (spelled : lexeme.Spelled)
    (isText : lexeme.source ++ after = '<' :: text) :
    text.head? ≠ some '!' := by
  have noName {name : Text} (named : isName name = true) (rest : Text) :
      (name ++ rest).head? ≠ some '!' := by
    obtain ⟨c, later, rfl, inName⟩ := exists_name_eq_cons named
    simpa using ne_of_isNameChar inName (by decide)
  cases spelled with
  | closing _ _ _ =>
      rw [← (List.cons.inj isText).2]
      simp
  | opening named _ _ _ =>
      simp only [source, List.cons_append, List.cons.injEq, true_and, List.append_assoc] at isText
      rw [← isText]
      exact noName named _
  | standalone named _ _ _ _ =>
      simp only [source, List.cons_append, List.cons.injEq, true_and, List.append_assoc] at isText
      rw [← isText]
      exact noName named _

/-- A lexeme that is a tag is read as one. -/
theorem tag?_of_nextLexeme
    {text after : Text}
    {lexeme : Lexeme}
    (found : nextLexeme '<' text = (lexeme, after))
    (isTag : lexeme.isTag = true) :
    tag? text = some (lexeme, after) := by
  simp only [nextLexeme, ne_eq, not_true, if_false] at found
  split at found
  · split at found
    · obtain ⟨rfl, -⟩ := Prod.mk.inj found
      simp [Lexeme.isTag] at isTag
    · obtain ⟨rfl, -⟩ := Prod.mk.inj found
      simp [Lexeme.isTag] at isTag
  · split at found
    · next isFound =>
        rw [isFound, found]
    · obtain ⟨rfl, -⟩ := Prod.mk.inj found
      simp [Lexeme.isTag] at isTag

/--
A tag is read from a text exactly if the text begins with it as the grammar spells it, and it is
read as what was spelled, with what follows it. A text begins with one such tag at most.
-/
theorem nextLexeme_acceptsGrammar (text : Text) :
    (∀ lexeme after,
      (nextLexeme '<' text = (lexeme, after) ∧ lexeme.isTag = true ↔
        lexeme.Spelled ∧ lexeme.source ++ after = '<' :: text)) ∧
      ∀ first second : Lexeme,
        first.Spelled →
        second.Spelled →
        first.source <+: '<' :: text →
        second.source <+: '<' :: text →
          first = second := by
  have isNext {lexeme : Lexeme} {after : Text} (spelled : lexeme.Spelled)
      (isText : lexeme.source ++ after = '<' :: text) :
      nextLexeme '<' text = (lexeme, after) :=
    nextLexeme_of_tag? (spelled.head?_ne isText) (tag?_eq_some_iff.mpr ⟨spelled, isText⟩)
  constructor
  · intro lexeme after
    constructor
    · rintro ⟨found, isTag⟩
      exact tag?_eq_some_iff.mp (tag?_of_nextLexeme found isTag)
    · rintro ⟨spelled, isText⟩
      exact ⟨isNext spelled isText, spelled.isTag⟩
  · rintro first second spelled spelled' ⟨after, isText⟩ ⟨after', isText'⟩
    have same := (isNext spelled isText).symm.trans (isNext spelled' isText')
    exact congrArg Prod.fst same

example :
    nextLexeme '<' "get name = 'a>b'c=\"&lt;'\" / >x".toList =
      (.standalone "get".toList [("name".toList, "a>b".toList), ("c".toList, "<'".toList)]
        "<get name = 'a>b'c=\"&lt;'\" / >".toList, ['x']) := by
  decide +kernel

end Colloquy.Markup
