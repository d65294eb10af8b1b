import Colloquy.Pattern.Basic
import Colloquy.Proofs.Utterance

namespace Colloquy.Pattern

/-!
# How patterns are written

A pattern is written with words and groups. A word reaches up to a blank
character, and a group from its parenthesis to the next closing one, so that a
word may stand right behind a group. The tokens of a pattern are those of its
words and groups. Words and groups without a letter or numeral have none, unless
they are wildcards.

The words that stand apart are among the words between blanks, and two of them
that follow each other are neighbours there. A word right behind a group is not.
-/

/-- A word or a group, as it is written. -/
inductive Item where
  | word (characters : Text) (behindGroup : Bool)
  | group (inside : Text)
  deriving DecidableEq, Repr

namespace Item

/-- The characters of a word, or inside of a group. -/
def characters : Item → Text
  | .word characters _ => characters
  | .group inside => inside

/-- The token that is written, if it is one. -/
def token? : Item → Option Token
  | .word characters _ => wordToken? characters
  | .group inside => groupToken? inside

/-- The item is a wildcard. -/
def isWildcard : Item → Bool
  | .word characters _ => (Wildcard.ofWord? characters).isSome
  | .group _ => false

/-- The item is a word that stands right behind a group. -/
def isBehindGroup : Item → Bool
  | .word _ behindGroup => behindGroup
  | .group _ => false

/-- The characters of a word that stands apart. -/
def apart? : Item → Option Text
  | .word characters false => some characters
  | _ => none

/-- The item is no wildcard and has no letter and no numeral. -/
def vanishes (item : Item) : Bool :=
  !item.isWildcard && item.characters.all fun c => !Text.isAlphanumeric c

end Item

/--
A text is written with items. The flag tells whether it stands right behind a
group. A parenthesis that is never closed belongs to a word.
-/
inductive Laid : Bool → Text → List Item → Prop where
  | blank
      {behind : Bool}
      {gap : Text}
      (isGap : ∀ c ∈ gap, Text.isBlank c = true) :
      Laid behind gap []
  | word
      {behind : Bool}
      {gap word rest : Text}
      {items : List Item}
      (isGap : ∀ c ∈ gap, Text.isBlank c = true)
      (isWord : Text.IsWord word)
      (ends : ∀ c ∈ rest.head?, Text.isBlank c = true)
      (noGroup : word.head? = some '(' → ')' ∉ word ++ rest) :
      Laid false rest items →
      Laid behind (gap ++ (word ++ rest)) (.word word (behind && gap.isEmpty) :: items)
  | group
      {behind : Bool}
      {gap inside rest : Text}
      {items : List Item}
      (isGap : ∀ c ∈ gap, Text.isBlank c = true)
      (closes : ')' ∉ inside) :
      Laid true rest items →
      Laid behind (gap ++ ('(' :: (inside ++ ')' :: rest))) (.group inside :: items)

/-! ## Tokens of items -/

theorem breakAt?_eq_none
    {text : Text}
    (unclosed : ')' ∉ text) :
    Text.breakAt? [')'] text = none := by
  induction text with
  | nil =>
      rfl
  | cons c others inductionHypothesis =>
      simp only [List.mem_cons, not_or] at unclosed
      simp [Text.breakAt?, unclosed.1, inductionHypothesis unclosed.2]

/-- A group reaches to the next closing parenthesis. -/
theorem nextToken_group
    {inside : Text}
    (closes : ')' ∉ inside)
    (rest : Text) :
    nextToken '(' (inside ++ ')' :: rest) = (groupToken? inside, rest) := by
  have found : Text.breakAt? [')'] (inside ++ ')' :: rest) = some (inside, rest) :=
    Text.breakAt?_of_not_mem closes [] rest
  simp [nextToken, found]

/-- A word reaches to the next blank. -/
theorem nextToken_word
    {c : Char}
    {others rest : Text}
    (isWord : Text.IsWord (c :: others))
    (ends : ∀ d ∈ rest.head?, Text.isBlank d = true)
    (noGroup : c = '(' → ')' ∉ others ++ rest) :
    nextToken c (others ++ rest) = (wordToken? (c :: others), rest) := by
  have noBreak : (if c = '(' then Text.breakAt? [')'] (others ++ rest) else none) = none := by
    split
    · next opening =>
        exact breakAt?_eq_none (noGroup opening)
    · rfl
  have bare : ∀ d ∈ others, (!Text.isBlank d) = true := by
    intro d member
    simp [isWord.bare d (List.mem_cons_of_mem c member)]
  have stops : rest.takeWhile (fun d => !Text.isBlank d) = [] ∧
      rest.dropWhile (fun d => !Text.isBlank d) = rest := by
    cases rest with
    | nil =>
        exact ⟨rfl, rfl⟩
    | cons d later =>
        simp [ends d rfl]
  simp only [nextToken, noBreak, splitWord, List.takeWhile_append_of_pos bare,
    List.dropWhile_append_of_pos bare, stops, List.append_nil]

theorem tokensOf_of_trimStart_eq_nil
    {text : Text}
    (trimmed : Text.trimStart text = []) :
    tokensOf text = [] := by
  rw [tokensOf]
  split
  · rfl
  · next begins =>
      simp [trimmed] at begins

theorem tokensOf_of_trimStart
    {text : Text}
    {c : Char}
    {rest : Text}
    (trimmed : Text.trimStart text = c :: rest) :
    tokensOf text = (nextToken c rest).1.toList ++ tokensOf (nextToken c rest).2 := by
  rw [tokensOf]
  split
  · next empty =>
      simp [empty] at trimmed
  · next first others begins =>
      rw [trimmed] at begins
      injection begins with sameFirst sameOthers
      rw [sameFirst, sameOthers]

theorem tokensOf_blank
    {gap : Text}
    (isGap : ∀ c ∈ gap, Text.isBlank c = true) :
    tokensOf gap = [] :=
  tokensOf_of_trimStart_eq_nil (List.dropWhile_eq_nil_iff.mpr isGap)

/-- Tokens are read from the first visible character on. -/
theorem tokensOf_blank_append
    {gap : Text}
    (isGap : ∀ c ∈ gap, Text.isBlank c = true)
    (text : Text) :
    tokensOf (gap ++ text) = tokensOf text := by
  have sameStart : Text.trimStart (gap ++ text) = Text.trimStart text :=
    List.dropWhile_append_of_pos isGap
  cases begins : Text.trimStart text with
  | nil =>
      rw [tokensOf_of_trimStart_eq_nil begins, tokensOf_of_trimStart_eq_nil (sameStart.trans begins)]
  | cons c rest =>
      rw [tokensOf_of_trimStart begins, tokensOf_of_trimStart (sameStart.trans begins)]

/-- Where a text begins with a word, its tokens begin with that of the word. -/
theorem tokensOf_word
    {gap word rest : Text}
    (isGap : ∀ c ∈ gap, Text.isBlank c = true)
    (isWord : Text.IsWord word)
    (ends : ∀ c ∈ rest.head?, Text.isBlank c = true)
    (noGroup : word.head? = some '(' → ')' ∉ word ++ rest) :
    tokensOf (gap ++ (word ++ rest)) = (wordToken? word).toList ++ tokensOf rest := by
  cases word with
  | nil =>
      exact absurd rfl isWord.nonempty
  | cons c others =>
      have visible := isWord.bare c List.mem_cons_self
      have noBreak : c = '(' → ')' ∉ others ++ rest := by
        intro opening inside
        exact noGroup (by simp [opening]) (List.mem_cons_of_mem c inside)
      rw [List.cons_append, tokensOf_of_trimStart (Text.trimStart_append isGap visible _),
        nextToken_word isWord ends noBreak]

/-- Where a text begins with a group, its tokens begin with that of the group. -/
theorem tokensOf_group
    {gap inside : Text}
    (isGap : ∀ c ∈ gap, Text.isBlank c = true)
    (closes : ')' ∉ inside)
    (rest : Text) :
    tokensOf (gap ++ ('(' :: (inside ++ ')' :: rest))) =
      (groupToken? inside).toList ++ tokensOf rest := by
  have visible : Text.isBlank '(' = false := by
    decide
  rw [tokensOf_of_trimStart (Text.trimStart_append isGap visible _), nextToken_group closes]

/-- The tokens of a pattern are those of the items it is written with. -/
theorem Laid.tokensOf_eq
    {behind : Bool}
    {text : Text}
    {items : List Item}
    (laid : Laid behind text items) :
    tokensOf text = items.filterMap Item.token? := by
  induction laid with
  | @blank behind gap isGap =>
      exact tokensOf_blank isGap
  | @word behind gap word rest items isGap isWord ends noGroup _ inductionHypothesis =>
      rw [tokensOf_word isGap isWord ends noGroup, inductionHypothesis, List.filterMap_cons]
      simp only [Item.token?]
      cases wordToken? word <;> rfl
  | @group behind gap inside rest items isGap closes _ inductionHypothesis =>
      rw [tokensOf_group isGap closes, inductionHypothesis, List.filterMap_cons]
      simp only [Item.token?]
      cases groupToken? inside <;> rfl

/-- Every text is written with items. -/
theorem exists_laid
    (text : Text)
    (behind : Bool) :
    ∃ items, Laid behind text items := by
  fun_induction tokensOf text generalizing behind with
  | case1 text empty =>
      exact ⟨[], .blank (List.dropWhile_eq_nil_iff.mp empty)⟩
  | case2 text c rest trimmed inductionHypothesis =>
      have apart : text = text.takeWhile Text.isBlank ++ c :: rest := by
        rw [← trimmed, Text.trimStart, List.takeWhile_append_dropWhile]
      have isGap : ∀ d ∈ text.takeWhile Text.isBlank, Text.isBlank d = true :=
        fun _ => List.mem_takeWhile_imp
      have visible : Text.isBlank c = false := by
        have begins := List.head?_dropWhile_not Text.isBlank text
        rw [← Text.trimStart, trimmed] at begins
        exact begins
      by_cases isGroup : c = '(' ∧ ')' ∈ rest
      · obtain ⟨rfl, closed⟩ := isGroup
        obtain ⟨inside, after, rfl, closes⟩ := List.eq_append_cons_of_mem closed
        rw [nextToken_group closes] at inductionHypothesis
        obtain ⟨items, laid⟩ := inductionHypothesis true
        rw [apart]
        exact ⟨_, .group isGap closes laid⟩
      · obtain ⟨others, after, restIs, bare, ends⟩ := Text.exists_eq_visible_append rest
        have isWord : Text.IsWord (c :: others) :=
          ⟨List.cons_ne_nil c others, List.forall_mem_cons.mpr ⟨visible, bare⟩⟩
        have noGroup : c = '(' → ')' ∉ others ++ after := by
          intro opening closed
          exact isGroup ⟨opening, restIs ▸ closed⟩
        rw [restIs, nextToken_word isWord ends noGroup] at inductionHypothesis
        obtain ⟨items, laid⟩ := inductionHypothesis false
        rw [apart, restIs, ← List.cons_append]
        refine ⟨_, .word isGap isWord ends ?_ laid⟩
        intro opening closed
        obtain rfl : c = '(' := by simpa using opening
        rcases List.mem_cons.mp closed with isFirst | isLater
        · simp at isFirst
        · exact noGroup rfl isLater

/-! ## Items without a token -/

/-- A word is lost exactly if it has no letter and no numeral. -/
theorem normalWord?_eq_none_iff (word : Text) :
    normalWord? word = none ↔ ∀ c ∈ word, Text.isAlphanumeric c = false := by
  rw [normalWord?, Option.map_eq_none_iff, Utterance.bareWord?_eq_none_iff]

/-- The words of an option are those of its text, as they are compared. -/
theorem upper_scan (option : Text) :
    (Utterance.scan option).upper = optionWords option := by
  simp only [Utterance.upper, Utterance.scan, optionWords, List.map_filterMap]
  rfl

/-- An option has no words exactly if it has no letter and no numeral. -/
theorem optionWords_eq_nil_iff (option : Text) :
    optionWords option = [] ↔ ∀ c ∈ option, Text.isAlphanumeric c = false := by
  rw [← Utterance.words_scan_eq_nil_iff, ← upper_scan, Utterance.upper, List.map_eq_nil_iff]

/-- A group is lost exactly if there is no letter and no numeral in it. -/
theorem groupToken?_eq_none_iff (inside : Text) :
    groupToken? inside = none ↔ ∀ c ∈ inside, Text.isAlphanumeric c = false := by
  have noneLeft : groupToken? inside = none ↔
      ∀ option ∈ inside.splitOn '|', optionWords option = [] := by
    simp [groupToken?, optionsOf]
  simp only [noneLeft, optionWords_eq_nil_iff]
  have separator : Text.isAlphanumeric '|' = false := by
    decide
  constructor
  · intro parts c member
    by_cases isSeparator : c = '|'
    · rw [isSeparator, separator]
    · obtain ⟨part, isPart, inPart⟩ := (Text.mem_splitOn isSeparator inside).mp member
      exact parts part isPart c inPart
  · intro all part isPart c inPart
    by_cases isSeparator : c = '|'
    · rw [isSeparator, separator]
    · exact all c ((Text.mem_splitOn isSeparator inside).mpr ⟨part, isPart, inPart⟩)

/-- An item has no token exactly if it vanishes. -/
theorem Item.token?_eq_none_iff (item : Item) :
    item.token? = none ↔ item.vanishes = true := by
  cases item with
  | word characters behindGroup =>
      cases wildcard : Wildcard.ofWord? characters with
      | none =>
          simp [token?, wordToken?, vanishes, isWildcard, Item.characters, wildcard,
            normalWord?_eq_none_iff]
      | some kind =>
          simp [token?, wordToken?, vanishes, isWildcard, wildcard]
  | group inside =>
      simp [token?, vanishes, isWildcard, Item.characters, groupToken?_eq_none_iff]

/-- An item is a wildcard exactly if its token is one. -/
theorem Item.isWildcard_iff (item : Item) :
    item.isWildcard = true ↔ ∃ kind, item.token? = some (.wildcard kind) := by
  cases item with
  | word characters behindGroup =>
      cases wildcard : Wildcard.ofWord? characters with
      | none =>
          simp [token?, wordToken?, isWildcard, wildcard]
      | some kind =>
          simp [token?, wordToken?, isWildcard, wildcard]
  | group inside =>
      simp only [isWildcard, token?, groupToken?]
      split <;> simp

/-! ## Words that stand apart -/

/-- What stands right behind a group keeps its words, but for one that goes on from the group. -/
theorem ownWords_group_isSuffix
    (gap inside rest : Text)
    (behind : Bool) :
    (Spaced.ofText rest).ownWords true <:+
      (Spaced.ofText (gap ++ '(' :: (inside ++ ')' :: rest))).ownWords behind := by
  have joined : gap ++ '(' :: (inside ++ ')' :: rest) =
      (gap ++ '(' :: (inside ++ [')'])) ++ rest := by
    simp
  rw [joined]
  exact Spaced.ownWords_append_isSuffix _ rest behind

variable
  {behind : Bool}
  {text : Text}
  {items : List Item}

/-- The words that stand apart are words between blanks. -/
theorem Laid.apart_sublist
    (laid : Laid behind text items) :
    (items.filterMap Item.apart?).Sublist ((Spaced.ofText text).ownWords behind) := by
  induction laid with
  | blank isGap =>
      exact List.nil_sublist _
  | @word behind gap word rest items isGap isWord ends _ _ inductionHypothesis =>
      rw [Spaced.ownWords_of_pieces (Spaced.pieces_ofText_word isGap isWord ends)]
      cases behind && gap.isEmpty with
      | true =>
          exact inductionHypothesis
      | false =>
          exact inductionHypothesis.cons_cons word
  | @group behind gap inside rest items isGap closes _ inductionHypothesis =>
      exact inductionHypothesis.trans (ownWords_group_isSuffix gap inside rest behind).sublist

theorem Laid.exists_words_eq_cons
    {word : Text}
    {behindGroup : Bool}
    (laid : Laid false text (.word word behindGroup :: items)) :
    ∃ others, Text.words text = word :: others := by
  cases laid with
  | @word _ gap _ rest _ isGap isWord ends _ _ =>
      rw [Text.words, Spaced.pieces_ofText_word isGap isWord ends]
      exact ⟨_, rfl⟩

/-- Words that follow each other, the first of them apart, are neighbours between blanks. -/
theorem Laid.neighbours_isInfix
    (laid : Laid behind text items)
    {before after : List Item}
    {first second : Text}
    {behindGroup : Bool}
    (follow : items = before ++ .word first false :: .word second behindGroup :: after) :
    [first, second] <:+: (Spaced.ofText text).ownWords behind := by
  induction laid generalizing before with
  | blank isGap =>
      simp at follow
  | @word behind gap word rest items isGap isWord ends _ laid inductionHypothesis =>
      rw [Spaced.ownWords_of_pieces (Spaced.pieces_ofText_word isGap isWord ends)]
      cases before with
      | nil =>
          obtain ⟨isFirst, isSecond⟩ := List.cons.inj follow
          obtain ⟨rfl, apart⟩ := Item.word.inj isFirst
          subst isSecond
          obtain ⟨others, wordsAre⟩ := laid.exists_words_eq_cons
          rw [apart, ← Text.words, wordsAre]
          exact (List.prefix_append [word, second] others).isInfix
      | cons item others =>
          obtain ⟨-, later⟩ := List.cons.inj follow
          exact (inductionHypothesis later).trans (List.suffix_append _ _).isInfix
  | @group behind gap inside rest items isGap closes _ inductionHypothesis =>
      cases before with
      | nil =>
          simp at follow
      | cons item others =>
          obtain ⟨-, later⟩ := List.cons.inj follow
          exact (inductionHypothesis later).trans
            (ownWords_group_isSuffix gap inside rest behind).isInfix

end Colloquy.Pattern
