import Colloquy.Markup.Weight
import Mathlib.Data.List.Infix

namespace Colloquy.Markup

/-!
# Where attribute values are written

The value of an attribute is written in its tag right behind a quote, as it is or
with entities. A tag ends with its `>`.
-/

/-- The value is written in the text behind a quote, perhaps with entities. -/
def Quoted
    (text value : Text) :
    Prop :=
  ∃ before quote raw after,
    text = before ++ quote :: (raw ++ after) ∧ isQuote quote = true ∧ value = decodeEntities raw

/-- What is quoted in a part is quoted in the whole. -/
theorem Quoted.of_isInfix
    {text whole value : Text}
    (quoted : Quoted text value)
    (isPart : text <:+: whole) :
    Quoted whole value := by
  obtain ⟨before, quote, raw, after, rfl, isQuote, isValue⟩ := quoted
  obtain ⟨earlier, later, rfl⟩ := isPart
  exact ⟨earlier ++ before, quote, raw, after ++ later, by simp, isQuote, isValue⟩

/-! ## Attributes -/

theorem trimStart_isSuffix (text : Text) :
    Text.trimStart text <:+ text :=
  List.dropWhile_suffix _

/-- A value that is read stands between quotes. -/
theorem quoted_of_quotedValue?
    {text value after : Text}
    (found : quotedValue? text = some (value, after)) :
    Quoted text value ∧ after <:+ text := by
  cases text with
  | nil =>
      simp [quotedValue?] at found
  | cons quote rest =>
      simp only [quotedValue?] at found
      split at found
      · next isQuote =>
          split at found
          · simp at found
          · next closing tail dropped =>
              simp only [Option.some.injEq, Prod.mk.injEq] at found
              obtain ⟨rfl, rfl⟩ := found
              have whole : rest = rest.takeWhile (· ≠ quote) ++ closing :: tail := by
                rw [← dropped, List.takeWhile_append_dropWhile]
              refine ⟨⟨[], quote, rest.takeWhile (· ≠ quote), closing :: tail, ?_, isQuote, rfl⟩, ?_⟩
              · rw [← whole, List.nil_append]
              · refine ⟨quote :: (rest.takeWhile (· ≠ quote) ++ [closing]), ?_⟩
                rw [List.cons_append, List.append_assoc, List.singleton_append, ← whole]
      · simp at found

/-- The value of an attribute that is read stands between quotes. -/
theorem quoted_of_attribute?
    {text after : Text}
    {entry : Attribute}
    (found : attribute? text = some (entry, after)) :
    Quoted text entry.2 ∧ after <:+ text := by
  simp only [attribute?] at found
  split at found
  · split at found
    · next assigned trimmed =>
        simp only [Option.map_eq_some_iff, Prod.mk.injEq, Prod.exists] at found
        obtain ⟨value, rest, read, rfl, rfl⟩ := found
        obtain ⟨quoted, isRest⟩ := quoted_of_quotedValue? read
        have inText : Text.trimStart assigned <:+ text := by
          refine (trimStart_isSuffix assigned).trans ?_
          refine (List.suffix_cons '=' assigned).trans ?_
          rw [← trimmed]
          exact (trimStart_isSuffix _).trans (List.dropWhile_suffix _)
        exact ⟨quoted.of_isInfix inText.isInfix, isRest.trans inText⟩
    · simp at found
  · simp at found

/-- The values of all attributes that are read stand between quotes. -/
theorem quoted_of_attributes?
    {text : Text}
    {attributes : List Attribute}
    (found : attributes? text = some attributes) :
    ∀ entry ∈ attributes, Quoted text entry.2 := by
  fun_induction attributes? text generalizing attributes with
  | case1 =>
      obtain rfl : [] = attributes := by simpa using found
      simp
  | case2 =>
      simp at found
  | case3 text more entry after read inductionHypothesis =>
      simp only [Option.map_eq_some_iff] at found
      obtain ⟨others, othersFound, rfl⟩ := found
      obtain ⟨quoted, isAfter⟩ := quoted_of_attribute? read
      have inText := trimStart_isSuffix text
      rw [List.forall_mem_cons]
      refine ⟨quoted.of_isInfix inText.isInfix, ?_⟩
      intro other member
      exact (inductionHypothesis othersFound other member).of_isInfix
        (isAfter.trans inText).isInfix

/-! ## Tags -/

/-- The attributes of a tag that starts an element. -/
def Lexeme.attributes : Lexeme → List Attribute
  | .opening _ attributes _ => attributes
  | .standalone _ attributes _ => attributes
  | _ => []

/-- The lexeme is a tag. -/
def Lexeme.isTag : Lexeme → Bool
  | .opening _ _ _ => true
  | .closing _ _ => true
  | .standalone _ _ _ => true
  | _ => false

/-- The values of a lexeme are quoted in its source, which ends as a tag if it is one. -/
structure Lexeme.Written (lexeme : Lexeme) : Prop where
  values : ∀ entry ∈ lexeme.attributes, Quoted lexeme.source entry.2
  ends : lexeme.isTag = true → lexeme.source.getLast? = some '>'

/-- What is no tag has no values to be quoted. -/
theorem Lexeme.written_of_isTag_eq_false
    {lexeme : Lexeme}
    (noTag : lexeme.isTag = false) :
    lexeme.Written := by
  refine ⟨?_, by simp [noTag]⟩
  cases lexeme with
  | text source =>
      simp [Lexeme.attributes]
  | comment source =>
      simp [Lexeme.attributes]
  | closing name source =>
      simp [Lexeme.isTag] at noTag
  | opening name attributes source =>
      simp [Lexeme.isTag] at noTag
  | standalone name attributes source =>
      simp [Lexeme.isTag] at noTag

/-- Taking a slash from the end leaves a beginning. -/
theorem dropSlash_isPrefix (inside : Text) :
    (dropSlash inside).1 <+: inside := by
  unfold dropSlash
  split
  · next rest reversed =>
      refine ⟨['/'], ?_⟩
      rw [← List.reverse_reverse inside, reversed, List.reverse_cons]
  · exact List.prefix_refl inside

theorem trimEnd_isPrefix (text : Text) :
    Text.trimEnd text <+: text := by
  have dropped : text.reverse.dropWhile Text.isBlank <:+ text.reverse := List.dropWhile_suffix _
  simpa [Text.trimEnd, Text.dropEndWhile] using List.reverse_prefix.mpr dropped

theorem attributes_of_closingTag?
    {inside source : Text}
    {lexeme : Lexeme}
    (found : closingTag? inside source = some lexeme) :
    lexeme.attributes = [] := by
  simp only [closingTag?] at found
  split at found
  · simp only [Option.some.injEq] at found
    subst found
    rfl
  · simp at found

/-- The values of a start tag's attributes stand between quotes in the tag. -/
theorem attributes_of_startTag?
    {inside source : Text}
    {lexeme : Lexeme}
    (found : startTag? inside source = some lexeme) :
    ∀ entry ∈ lexeme.attributes, Quoted inside entry.2 := by
  simp only [startTag?] at found
  split at found
  · simp only [Option.map_eq_some_iff] at found
    obtain ⟨attributes, read, lexemeIs⟩ := found
    have inInside : (dropSlash (Text.trimEnd inside)).1.dropWhile (fun c => !Text.isBlank c) <:+:
        inside := by
      refine (List.dropWhile_suffix _).isInfix.trans ?_
      exact ((dropSlash_isPrefix _).trans (trimEnd_isPrefix inside)).isInfix
    have quoted := quoted_of_attributes? read
    intro entry member
    have isEntry : entry ∈ attributes := by
      split at lexemeIs <;> (subst lexemeIs; exact member)
    exact (quoted entry isEntry).of_isInfix inInside
  · simp at found

/-- A tag that is read has its values quoted in its source, which ends as a tag. -/
theorem written_of_tag?
    {text after : Text}
    {lexeme : Lexeme}
    (found : tag? text = some (lexeme, after)) :
    lexeme.Written := by
  simp only [tag?, Option.bind_eq_some_iff, Prod.exists] at found
  obtain ⟨body, rest, _, read⟩ := found
  simp only [Option.map_eq_some_iff, Prod.mk.injEq] at read
  obtain ⟨tag, tagFound, rfl, _⟩ := read
  have inSource : body <:+: '<' :: (body ++ ['>']) := ⟨['<'], ['>'], by simp⟩
  split at tagFound
  · refine ⟨?_, fun _ => ?_⟩
    · simp [attributes_of_closingTag? tagFound]
    · rw [closingTag?_source tagFound]
      simp [List.getLast?_cons]
  · have sourceIs := startTag?_source tagFound
    refine ⟨?_, fun _ => ?_⟩
    · intro entry member
      rw [sourceIs]
      exact (attributes_of_startTag? tagFound entry member).of_isInfix inSource
    · rw [sourceIs]
      simp [List.getLast?_cons]

theorem written_nextLexeme
    (c : Char)
    (rest : Text) :
    (nextLexeme c rest).1.Written := by
  fun_cases nextLexeme c rest with
  | case1 => exact Lexeme.written_of_isTag_eq_false rfl
  | case2 => exact Lexeme.written_of_isTag_eq_false rfl
  | case3 => exact Lexeme.written_of_isTag_eq_false rfl
  | case4 _ _ lexeme after found => exact written_of_tag? found
  | case5 => exact Lexeme.written_of_isTag_eq_false rfl

/-- Every lexeme of a text has its values quoted in its source. -/
theorem written_of_mem_lexemes
    {text : Text}
    {lexeme : Lexeme}
    (member : lexeme ∈ lexemes text) :
    lexeme.Written := by
  fun_induction lexemes text with
  | case1 =>
      simp at member
  | case2 c rest step inductionHypothesis =>
      rcases List.mem_cons.mp member with isFirst | isLater
      · rw [isFirst]
        exact written_nextLexeme c rest
      · exact inductionHypothesis isLater

end Colloquy.Markup
