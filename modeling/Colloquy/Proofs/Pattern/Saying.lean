import Colloquy.Proofs.Pattern.Cut
import Colloquy.Proofs.Pattern.Layout
import Colloquy.Proofs.Text.Sentences

namespace Colloquy.Pattern

/-!
# Patterns can be said

For every pattern there is a text that it matches. A word stands for itself, a group
for its first option with words, and any word will do for a wildcard. What is said has
words unless everything in the pattern vanishes, and it is no longer than the pattern.
-/

/-- What can be said for an item. -/
def Item.said : Item → Text
  | .word characters _ => if (Wildcard.ofWord? characters).isSome then ['A'] else characters
  | .group inside =>
      ((inside.splitOn '|').find? fun part => !(optionWords part).isEmpty).getD []

/-- What can be said for items. -/
def said (items : List Item) : Text :=
  Text.unwords (items.map Item.said)

/-- What is said for an item is no longer than the item. -/
theorem Item.length_said_le (item : Item) :
    item.said.length ≤ item.characters.length := by
  cases item with
  | word characters behindGroup =>
      rw [Item.said, Item.characters]
      split
      · next isWildcard =>
          cases characters with
          | nil =>
              simp [Wildcard.ofWord?] at isWildcard
          | cons c rest =>
              simp
      · exact Nat.le_refl _
  | group inside =>
      rw [Item.said, Item.characters]
      cases found : (inside.splitOn '|').find? fun part => !(optionWords part).isEmpty with
      | none =>
          exact Nat.zero_le _
      | some part =>
          exact (Text.isInfix_of_mem_splitOn (List.mem_of_find?_eq_some found)).length_le

/-- A word is one between blanks. -/
def Item.IsWritten : Item → Prop
  | .word characters _ => Text.IsWord characters
  | .group _ => True

variable
  {behind : Bool}
  {text : Text}
  {items : List Item}

/-- What a text is laid out as is written. -/
theorem Laid.isWritten
    (laid : Laid behind text items) :
    ∀ item ∈ items, item.IsWritten := by
  induction laid with
  | blank _ =>
      exact List.forall_mem_nil _
  | word _ isWord _ _ _ inductionHypothesis =>
      exact List.forall_mem_cons.mpr ⟨isWord, inductionHypothesis⟩
  | group _ _ _ inductionHypothesis =>
      exact List.forall_mem_cons.mpr ⟨trivial, inductionHypothesis⟩

theorem optionWords_of_isWord
    {word : Text}
    (isWord : Text.IsWord word) :
    optionWords word = (normalWord? word).toList := by
  rw [optionWords, Text.words_of_isWord isWord, List.filterMap_cons]
  cases normalWord? word <;> rfl

/-- Any wildcard may take a single word. -/
theorem takes_singleton
    (kind : Wildcard)
    (word : Text) :
    (Token.wildcard kind).Takes [word] := by
  cases kind with
  | dollar =>
      exact ⟨word, rfl⟩
  | hash =>
      trivial
  | star =>
      exact List.cons_ne_nil word []
  | underscore =>
      exact List.cons_ne_nil word []

/-- The words are none without a token, and otherwise some that it may take. -/
def Answers : Option Token → List Text → Prop
  | none, words => words = []
  | some token, words => token.Takes words ∧ words ≠ []

/-- What is said for an item answers its token. -/
theorem Item.answers_said
    {item : Item}
    (isWritten : item.IsWritten) :
    Answers item.token? (optionWords item.said) := by
  cases item with
  | word characters behindGroup =>
      simp only [Item.token?, wordToken?, Item.said]
      cases wildcard : Wildcard.ofWord? characters with
      | some kind =>
          have oneWord : optionWords ['A'] = [['A']] := by
            decide +kernel
          simp only [Option.isSome_some, if_true, oneWord]
          exact ⟨takes_singleton kind ['A'], List.cons_ne_nil _ _⟩
      | none =>
          simp only [Option.isSome_none, Bool.false_eq_true, if_false,
            optionWords_of_isWord isWritten]
          cases normalWord? characters with
          | none =>
              rfl
          | some word =>
              exact ⟨rfl, List.cons_ne_nil _ _⟩
  | group inside =>
      simp only [Item.token?, groupToken?, Item.said]
      cases found : (inside.splitOn '|').find? fun part => !(optionWords part).isEmpty with
      | none =>
          have noneLeft : optionsOf inside = [] := by
            rw [optionsOf, List.filter_eq_nil_iff, List.forall_mem_map]
            exact List.find?_eq_none.mp found
          rw [noneLeft]
          rfl
      | some part =>
          have spoken := List.find?_some found
          have isOption : optionWords part ∈ optionsOf inside :=
            List.mem_filter.mpr ⟨List.mem_map_of_mem (List.mem_of_find?_eq_some found), spoken⟩
          rw [if_neg (by simpa using List.ne_nil_of_mem isOption)]
          exact ⟨isOption, by simpa using spoken⟩

theorem optionWords_unwords (texts : List Text) :
    optionWords (Text.unwords texts) = texts.flatMap optionWords := by
  rw [← upper_scan, Utterance.upper, Utterance.words_scan_unwords, List.map_flatMap]
  exact congrArg (texts.flatMap ·) (funext upper_scan)

theorem optionWords_said (items : List Item) :
    optionWords (said items) = items.flatMap fun item => optionWords item.said := by
  rw [said, optionWords_unwords, List.flatMap_map]

/-- What is said for items is cut into what is said for each. -/
theorem exists_isCut_said
    (areWritten : ∀ item ∈ items, item.IsWritten) :
    ∃ pieces, IsCut (items.filterMap Item.token?) (optionWords (said items)) pieces := by
  rw [optionWords_said]
  induction items with
  | nil =>
      exact ⟨[], .nil, rfl⟩
  | cons item rest inductionHypothesis =>
      obtain ⟨isWritten, restWritten⟩ := List.forall_mem_cons.mp areWritten
      obtain ⟨pieces, taken, joined⟩ := inductionHypothesis restWritten
      have answers := item.answers_said isWritten
      rw [List.flatMap_cons, List.filterMap_cons, ← joined]
      cases isToken : item.token? with
      | none =>
          rw [isToken] at answers
          exact ⟨pieces, taken, by rw [answers, List.nil_append]⟩
      | some token =>
          rw [isToken] at answers
          exact ⟨_ :: pieces, .cons answers.1 taken, rfl⟩

/-- What is said for items has words, unless all of them vanish. -/
theorem optionWords_said_ne_nil
    (areWritten : ∀ item ∈ items, item.IsWritten)
    {item : Item}
    (member : item ∈ items)
    (isToken : item.token? ≠ none) :
    optionWords (said items) ≠ [] := by
  intro nothing
  rw [optionWords_said, List.flatMap_eq_nil_iff] at nothing
  obtain ⟨token, isToken⟩ := Option.ne_none_iff_exists'.mp isToken
  have answers := item.answers_said (areWritten item member)
  rw [isToken] at answers
  exact answers.2 (nothing item member)

/--
What is said for a text, each item with a space before it, is longer than the text by
one at most, and not longer if the text begins with a blank character.
-/
theorem Laid.length_flatMap_said_le
    (laid : Laid behind text items) :
    ((items.map Item.said).flatMap (' ' :: ·)).length ≤ text.length + 1 ∧
      ((∀ c ∈ text.head?, Text.isBlank c = true) →
        ((items.map Item.said).flatMap (' ' :: ·)).length ≤ text.length) := by
  induction laid with
  | blank _ =>
      simp
  | @word behind gap word rest items isGap isWord ends _ _ inductionHypothesis =>
      have first := Item.length_said_le (.word word (behind && gap.isEmpty))
      have later := inductionHypothesis.2 ends
      simp only [List.map_cons, List.flatMap_cons, List.length_append, List.length_cons,
        Item.characters] at first ⊢
      refine ⟨by omega, ?_⟩
      intro begins
      -- A word is visible, so that the blank character stands in the gap before it.
      have gapNonempty : gap ≠ [] := by
        rintro rfl
        obtain ⟨c, others, rfl⟩ := List.exists_cons_of_ne_nil isWord.nonempty
        have blank := begins c rfl
        rw [isWord.bare c List.mem_cons_self] at blank
        exact Bool.false_ne_true blank
      have gapPositive := List.length_pos_iff.mpr gapNonempty
      omega
  | @group behind gap inside rest items isGap _ _ inductionHypothesis =>
      have first := Item.length_said_le (.group inside)
      have later := inductionHypothesis.1
      simp only [List.map_cons, List.flatMap_cons, List.length_append, List.length_cons,
        Item.characters] at first ⊢
      exact ⟨by omega, fun _ => by omega⟩

/-- What is said is no longer than the text. -/
theorem Laid.length_said_le
    (laid : Laid behind text items) :
    (said items).length ≤ text.length := by
  have bound := laid.length_flatMap_said_le.1
  rw [said, Text.length_unwords]
  omega

/-! ## Blank ends -/

theorem Laid.append_blank
    {gap : Text}
    (isGap : ∀ c ∈ gap, Text.isBlank c = true)
    (laid : Laid behind text items) :
    Laid behind (text ++ gap) items := by
  induction laid with
  | blank isBlank =>
      exact .blank (List.forall_mem_append.mpr ⟨isBlank, isGap⟩)
  | @word _ _ word rest _ isGapBefore isWord ends noGroup _ inductionHypothesis =>
      rw [List.append_assoc, List.append_assoc]
      refine .word isGapBefore isWord ?_ ?_ inductionHypothesis
      · cases rest with
        | nil =>
            exact fun c isHead => isGap c (List.mem_of_head? isHead)
        | cons d later =>
            exact ends
      · intro opening closed
        rw [← List.append_assoc, List.mem_append] at closed
        rcases closed with inText | inGap
        · exact noGroup opening inText
        · exact absurd (isGap _ inGap) (by decide)
  | group isGapBefore closes _ inductionHypothesis =>
      rw [List.append_assoc, List.cons_append, List.append_assoc, List.cons_append]
      exact .group isGapBefore closes inductionHypothesis

/-- Blanks around a pattern do not matter. -/
theorem tokensOf_trim (text : Text) : tokensOf (Text.trim text) = tokensOf text := by
  obtain ⟨before, after, isText, blankBefore, blankAfter⟩ := Text.exists_margins_trim text
  obtain ⟨items, laid⟩ := exists_laid (Text.trim text) false
  conv_rhs => rw [isText]
  rw [tokensOf_blank_append blankBefore, laid.tokensOf_eq,
    (laid.append_blank blankAfter).tokensOf_eq]

/-- Items have no tokens exactly if all of them vanish. -/
theorem Laid.tokensOf_ne_nil_iff
    (laid : Laid behind text items) :
    tokensOf text ≠ [] ↔ ∃ item ∈ items, item.vanishes = false := by
  simp only [laid.tokensOf_eq, ne_eq, List.filterMap_eq_nil_iff, Item.token?_eq_none_iff, not_forall,
    Bool.not_eq_true, exists_prop]

end Colloquy.Pattern
