import Colloquy.Text.Case
import Mathlib.Data.List.TakeWhile

namespace Colloquy

/-!
# Words and blanks

A word is not empty and holds no blank character. Taking a text apart gives
words, putting words together with single spaces and taking the result apart
gives them back, and a word in uppercase is a word again. What stands before a
text changes at most the first of its words, and none if a blank character parts
the two.
-/

namespace Text

/-- The text is a word: not empty, and without blank characters. -/
structure IsWord (word : Text) : Prop where
  nonempty : word ≠ []
  bare : ∀ c ∈ word, isBlank c = false

end Text

/-! ## Taking texts apart -/

namespace Spaced

/-- Every piece is a word after a gap. -/
def Words (spaced : Spaced) : Prop :=
  ∀ piece ∈ spaced.pieces, Text.IsWord piece.2

/-- Characters are added to words and gaps. -/
theorem Words.push
    {spaced : Spaced}
    (words : spaced.Words)
    (c : Char) :
    (spaced.push c).Words := by
  unfold Spaced.push
  split
  · split
    · exact words
    · next gap word rest pieces =>
        simp only [Words, pieces, List.forall_mem_cons] at words ⊢
        exact words
  · next visible =>
      have bare : Text.isBlank c = false := by simpa using visible
      split
      · next word rest pieces =>
          simp only [Words, pieces, List.forall_mem_cons] at words ⊢
          refine ⟨⟨by simp, ?_⟩, words.2⟩
          simpa [bare] using words.1.bare
      · simp only [Words, List.forall_mem_cons] at words ⊢
        exact ⟨⟨by simp, by simpa using bare⟩, words⟩

/-- A text is taken apart into words. -/
theorem words_ofText (text : Text) : (ofText text).Words := by
  induction text with
  | nil =>
      intro piece member
      simp [ofText] at member
  | cons c rest inductionHypothesis =>
      exact inductionHypothesis.push c

/-- The characters of the words are the characters that are not blank. -/
theorem flatten_pieces_ofText (text : Text) :
    ((ofText text).pieces.map Prod.snd).flatten =
      text.filter fun c => !Text.isBlank c := by
  induction text with
  | nil =>
      rfl
  | cons c rest inductionHypothesis =>
      rw [List.filter_cons, ← inductionHypothesis]
      change ((push c (ofText rest)).pieces.map Prod.snd).flatten = _
      unfold push
      cases Text.isBlank c with
      | true =>
          simp only [↓reduceIte]
          split <;> simp_all
      | false =>
          simp only [Bool.false_eq_true, ↓reduceIte]
          split <;> simp_all

theorem toTextWith_id_push
    (c : Char)
    (spaced : Spaced) :
    (push c spaced).toTextWith id = c :: spaced.toTextWith id := by
  obtain ⟨pieces, trailing⟩ := spaced
  unfold push
  split
  · split <;> simp_all [toTextWith]
  · split <;> simp_all [toTextWith]

/-- Gaps and words put together again are the text. -/
theorem toTextWith_id_ofText (text : Text) : (ofText text).toTextWith id = text := by
  induction text with
  | nil =>
      rfl
  | cons c rest inductionHypothesis =>
      exact (toTextWith_id_push c (ofText rest)).trans (congrArg (c :: ·) inductionHypothesis)

/-- The next piece, if there is one, stands after a gap. -/
def Apart (spaced : Spaced) : Prop :=
  ∀ piece ∈ spaced.pieces.head?, piece.1 ≠ []

/-- A word before a gap becomes a piece of its own. -/
theorem foldr_push_word
    {word : Text}
    (isWord : Text.IsWord word)
    {spaced : Spaced}
    (apart : spaced.Apart) :
    word.foldr push spaced = ⟨([], word) :: spaced.pieces, spaced.trailing⟩ := by
  obtain ⟨nonempty, bare⟩ := isWord
  induction word with
  | nil =>
      exact absurd rfl nonempty
  | cons c rest inductionHypothesis =>
      have visible : Text.isBlank c = false := bare c (by simp)
      cases rest with
      | nil =>
          simp only [List.foldr_cons, List.foldr_nil, push, visible,
            Bool.false_eq_true, ↓reduceIte]
          split
          · next word rest pieces =>
              exact absurd rfl (apart ([], word) (by simp [pieces]))
          · rfl
      | cons next others =>
          rw [List.foldr_cons, inductionHypothesis (by simp)
            (fun d member => bare d (List.mem_cons_of_mem c member))]
          simp [push, visible]

/-- Blank characters before a piece widen its gap. -/
theorem foldr_push_gap
    {gap : Text}
    (blank : ∀ c ∈ gap, Text.isBlank c = true)
    (inner word : Text)
    (rest : List (Text × Text))
    (trailing : Text) :
    gap.foldr push ⟨(inner, word) :: rest, trailing⟩ =
      ⟨(gap ++ inner, word) :: rest, trailing⟩ := by
  induction gap with
  | nil =>
      rfl
  | cons c others inductionHypothesis =>
      rw [List.foldr_cons, inductionHypothesis fun d member =>
        blank d (List.mem_cons_of_mem c member)]
      simp [push, blank c List.mem_cons_self]

/-- A blank text is a gap behind no word. -/
theorem ofText_of_blank
    {text : Text}
    (blank : ∀ c ∈ text, Text.isBlank c = true) :
    ofText text = ⟨[], text⟩ := by
  induction text with
  | nil =>
      rfl
  | cons c rest inductionHypothesis =>
      obtain ⟨cBlank, restBlank⟩ := List.forall_mem_cons.mp blank
      have later : rest.foldr push ⟨[], []⟩ = ⟨[], rest⟩ := inductionHypothesis restBlank
      simp [ofText, later, push, cBlank]

/-- What begins with a blank character, if with any, comes apart after a gap. -/
theorem apart_ofText
    {text : Text}
    (begins : ∀ c ∈ text.head?, Text.isBlank c = true) :
    (ofText text).Apart := by
  cases text with
  | nil =>
      simp [Apart, ofText]
  | cons c rest =>
      have blank : Text.isBlank c = true := begins c rfl
      change (push c (ofText rest)).Apart
      unfold push
      rw [if_pos blank]
      split
      · next pieces =>
          simp [Apart, pieces]
      · simp [Apart]

/-- What stands apart keeps its words, and what is put before it adds its own. -/
theorem pieces_foldr_push
    {spaced : Spaced}
    (apart : spaced.Apart)
    (text : Text) :
    ∃ later,
      (text.foldr push spaced).pieces = (ofText text).pieces ++ later ∧
        later.map Prod.snd = spaced.pieces.map Prod.snd ∧
        ∀ piece ∈ later.head?, piece.1 ≠ [] := by
  induction text with
  | nil =>
      exact ⟨spaced.pieces, rfl, rfl, apart⟩
  | cons c rest inductionHypothesis =>
      obtain ⟨later, pieces, sameWords, laterApart⟩ := inductionHypothesis
      have isText : ofText (c :: rest) = push c (ofText rest) := rfl
      rw [List.foldr_cons, isText]
      cases blank : Text.isBlank c with
      | true =>
          rcases isPieces : (ofText rest).pieces with _ | ⟨⟨gap, word⟩, others⟩
          -- Without a word before it, the gap of what stands apart is widened.
          · rw [isPieces, List.nil_append] at pieces
            rcases later with _ | ⟨⟨gap, word⟩, others⟩
            · exact ⟨[], by simp [push, blank, pieces, isPieces], sameWords, by simp⟩
            · exact ⟨(c :: gap, word) :: others, by simp [push, blank, pieces, isPieces],
                sameWords, by simp⟩
          · rw [isPieces] at pieces
            exact ⟨later, by simp [push, blank, pieces, isPieces], sameWords, laterApart⟩
      | false =>
          refine ⟨later, ?_, sameWords, laterApart⟩
          rcases isPieces : (ofText rest).pieces with _ | ⟨⟨gap, word⟩, others⟩
          · rw [isPieces, List.nil_append] at pieces
            rcases later with _ | ⟨⟨_ | ⟨d, gap⟩, word⟩, others⟩
            · simp [push, blank, pieces, isPieces]
            · exact absurd rfl (laterApart _ rfl)
            · simp [push, blank, pieces, isPieces]
          · rw [isPieces] at pieces
            cases gap <;> simp [push, blank, pieces, isPieces]

/-- A word between a gap and a blank character, or the end, comes first. -/
theorem ofText_word
    {gap word rest : Text}
    (blank : ∀ c ∈ gap, Text.isBlank c = true)
    (isWord : Text.IsWord word)
    (begins : ∀ c ∈ rest.head?, Text.isBlank c = true) :
    ofText (gap ++ (word ++ rest)) =
      ⟨(gap, word) :: (ofText rest).pieces, (ofText rest).trailing⟩ := by
  rw [ofText, List.foldr_append, List.foldr_append]
  change gap.foldr push (word.foldr push (ofText rest)) = _
  rw [foldr_push_word isWord (apart_ofText begins), foldr_push_gap blank, List.append_nil]

/-- A word behind a gap is the first piece. -/
theorem pieces_ofText_word
    {gap word rest : Text}
    (blank : ∀ c ∈ gap, Text.isBlank c = true)
    (isWord : Text.IsWord word)
    (begins : ∀ c ∈ rest.head?, Text.isBlank c = true) :
    (ofText (gap ++ (word ++ rest))).pieces = (gap, word) :: (ofText rest).pieces := by
  rw [ofText_word blank isWord begins]

/--
The words of a text that may stand right behind another one. Then its first word
belongs to what stands before it, unless there is a gap.
-/
def ownWords :
    Bool →
    Spaced →
    List Text
  | true, ⟨([], _) :: rest, _⟩ => rest.map Prod.snd
  | _, spaced => spaced.pieces.map Prod.snd

theorem ownWords_of_pieces
    {spaced : Spaced}
    {gap word : Text}
    {rest : List (Text × Text)}
    (pieces : spaced.pieces = (gap, word) :: rest)
    (behind : Bool) :
    spaced.ownWords behind =
      (if behind && gap.isEmpty then [] else [word]) ++ rest.map Prod.snd := by
  obtain ⟨_, trailing⟩ := spaced
  subst pieces
  cases behind with
  | false =>
      rfl
  | true =>
      cases gap <;> rfl

theorem ownWords_true_isSuffix
    (spaced : Spaced)
    (behind : Bool) :
    spaced.ownWords true <:+ spaced.ownWords behind := by
  obtain ⟨pieces, trailing⟩ := spaced
  cases pieces with
  | nil =>
      cases behind <;> exact List.suffix_refl _
  | cons piece rest =>
      rw [ownWords_of_pieces rfl true, ownWords_of_pieces rfl behind]
      cases behind with
      | true =>
          exact List.suffix_refl _
      | false =>
          split
          · exact List.suffix_append _ _
          · exact List.suffix_refl _

theorem ownWords_push_isSuffix
    (spaced : Spaced)
    (c : Char) :
    spaced.ownWords true <:+ (spaced.push c).ownWords true := by
  obtain ⟨pieces, trailing⟩ := spaced
  unfold push
  split
  -- A blank character parts the first word from what stands before it.
  · cases pieces with
    | nil =>
        exact List.suffix_refl _
    | cons piece rest =>
        exact ownWords_true_isSuffix _ false
  · cases pieces with
    | nil =>
        exact List.suffix_refl _
    | cons piece rest =>
        obtain ⟨gap, word⟩ := piece
        cases gap <;> exact List.suffix_refl _

/-- What stands before a text takes at most its first word away. -/
theorem ownWords_append_isSuffix
    (before text : Text)
    (behind : Bool) :
    (ofText text).ownWords true <:+ (ofText (before ++ text)).ownWords behind := by
  refine List.IsSuffix.trans ?_ (ownWords_true_isSuffix _ behind)
  induction before with
  | nil =>
      exact List.suffix_refl _
  | cons c rest inductionHypothesis =>
      exact inductionHypothesis.trans (ownWords_push_isSuffix _ c)

end Spaced

namespace Text

/-- What begins with a visible character is left when blanks before it are dropped. -/
theorem trimStart_append
    {gap : Text}
    (isGap : ∀ c ∈ gap, isBlank c = true)
    {c : Char}
    (visible : isBlank c = false)
    (rest : Text) :
    trimStart (gap ++ c :: rest) = c :: rest := by
  rw [trimStart, List.dropWhile_append_of_pos isGap]
  simp [visible]

/-- The words of a text are words. -/
theorem isWord_of_mem_words
    {text word : Text}
    (member : word ∈ words text) :
    IsWord word := by
  obtain ⟨piece, isPiece, rfl⟩ := List.mem_map.mp member
  exact Spaced.words_ofText text piece isPiece

/-- The words of a text hold its characters that are not blank, in order. -/
theorem flatten_words (text : Text) :
    (words text).flatten = text.filter fun c => !isBlank c :=
  Spaced.flatten_pieces_ofText text

/-- The characters of words stand in the text. -/
theorem mem_of_mem_words
    {text word : Text}
    {c : Char}
    (isWord : word ∈ words text)
    (member : c ∈ word) :
    c ∈ text := by
  have inWords : c ∈ (words text).flatten := List.mem_flatten.mpr ⟨word, isWord, member⟩
  rw [flatten_words] at inWords
  exact (List.mem_filter.mp inWords).1

/-- Every visible character stands in a word. -/
theorem exists_mem_words
    {text : Text}
    {c : Char}
    (visible : isBlank c = false)
    (member : c ∈ text) :
    ∃ word ∈ words text, c ∈ word := by
  have inWords : c ∈ (words text).flatten := by
    rw [flatten_words]
    exact List.mem_filter.mpr ⟨member, by simp [visible]⟩
  exact List.mem_flatten.mp inWords

theorem words_eq_nil_of_allBlank
    {text : Text}
    (blank : allBlank text = true) :
    words text = [] := by
  rw [words, Spaced.ofText_of_blank (List.all_eq_true.mp blank), List.map_nil]

/-- A text has no words exactly if it is blank. -/
theorem words_eq_nil_iff (text : Text) :
    words text = [] ↔ allBlank text = true := by
  constructor
  · intro noWords
    refine List.all_eq_true.mpr fun c member => ?_
    cases blank : isBlank c with
    | true =>
        rfl
    | false =>
        obtain ⟨word, isWord, -⟩ := exists_mem_words blank member
        rw [noWords] at isWord
        exact absurd isWord List.not_mem_nil
  · exact words_eq_nil_of_allBlank

/-- Where a text begins with a blank character, if with any, words end before it. -/
theorem words_append
    (before : Text)
    {after : Text}
    (begins : ∀ c ∈ after.head?, isBlank c = true) :
    words (before ++ after) = words before ++ words after := by
  obtain ⟨later, pieces, sameWords, _⟩ :=
    Spaced.pieces_foldr_push (Spaced.apart_ofText begins) before
  rw [words, Spaced.ofText, List.foldr_append]
  change (before.foldr Spaced.push (Spaced.ofText after)).pieces.map Prod.snd = _
  rw [pieces, List.map_append, sameWords]
  rfl

/-- A blank character before a text belongs to none of its words. -/
theorem words_cons_of_isBlank
    {c : Char}
    (blank : isBlank c = true)
    (text : Text) :
    words (c :: text) = words text := by
  change (Spaced.push c (Spaced.ofText text)).pieces.map Prod.snd = _
  unfold Spaced.push
  rw [if_pos blank, words]
  split
  · next pieces =>
      rw [pieces]
  · next pieces =>
      rw [pieces]
      rfl

/-- Where a text ends with a blank character, if with any, words begin behind it. -/
theorem words_append_of_getLast?
    {before : Text}
    (ends : ∀ c ∈ before.getLast?, isBlank c = true)
    (after : Text) :
    words (before ++ after) = words before ++ words after := by
  rcases List.eq_nil_or_concat before with rfl | ⟨inner, last, isConcat⟩
  · rfl
  · rw [List.concat_eq_append] at isConcat
    subst isConcat
    have blank : isBlank last = true := ends last (by simp)
    have begins (rest : Text) : ∀ c ∈ (last :: rest).head?, isBlank c = true := by
      simpa using blank
    rw [List.append_assoc, List.singleton_append, words_append inner (begins after),
      words_append inner (begins []), words_cons_of_isBlank blank, words_cons_of_isBlank blank]
    exact (congrArg (· ++ words after) (List.append_nil _)).symm

/-- A text is what is visible up to its first blank character and the rest. -/
theorem exists_eq_visible_append (text : Text) :
    ∃ visible rest,
      text = visible ++ rest ∧
        (∀ c ∈ visible, isBlank c = false) ∧
        ∀ c ∈ rest.head?, isBlank c = true := by
  refine ⟨text.takeWhile (!isBlank ·), text.dropWhile (!isBlank ·), ?_, ?_, ?_⟩
  · exact List.takeWhile_append_dropWhile.symm
  · intro c member
    simpa using List.mem_takeWhile_imp member
  · intro c isHead
    have stops := List.head?_dropWhile_not (!isBlank ·) text
    rw [Option.mem_def] at isHead
    simpa [isHead] using stops

/-- A text is blank, or a gap, a word and a text that is blank or begins with a gap. -/
theorem blank_or_exists_word (text : Text) :
    (∀ c ∈ text, isBlank c = true) ∨
      ∃ gap word rest,
        text = gap ++ (word ++ rest) ∧
          (∀ c ∈ gap, isBlank c = true) ∧
          IsWord word ∧
          ∀ c ∈ rest.head?, isBlank c = true := by
  obtain ⟨word, rest, isTrimmed, visible, begins⟩ := exists_eq_visible_append (trimStart text)
  have isText : text = text.takeWhile isBlank ++ (word ++ rest) := by
    rw [← isTrimmed, trimStart, List.takeWhile_append_dropWhile]
  have starts := List.head?_dropWhile_not isBlank text
  rw [← trimStart, isTrimmed] at starts
  have blankGap : ∀ c ∈ text.takeWhile isBlank, isBlank c = true :=
    fun _ => List.mem_takeWhile_imp
  cases word with
  | nil =>
      left
      cases rest with
      | nil =>
          rw [isText]
          simpa using blankGap
      | cons c others =>
          have blank : isBlank c = true := begins c rfl
          simp [blank] at starts
  | cons c others =>
      exact .inr ⟨_, c :: others, rest, isText, blankGap,
        ⟨List.cons_ne_nil c others, visible⟩, begins⟩

/-- What holds of blank texts, and stays so with a gap and a word in front, holds of all texts. -/
@[elab_as_elim]
theorem inductionOnWords
    {motive : Text → Prop}
    (blank : ∀ text, (∀ c ∈ text, isBlank c = true) → motive text)
    (word : ∀ gap word rest,
      (∀ c ∈ gap, isBlank c = true) →
        IsWord word →
        (∀ c ∈ rest.head?, isBlank c = true) →
        motive rest →
        motive (gap ++ (word ++ rest)))
    (text : Text) :
    motive text := by
  rcases blank_or_exists_word text with isBlank | ⟨gap, first, rest, isText, isGap, isWord, begins⟩
  · exact blank text isBlank
  · have shorter : rest.length < text.length := by
      have wide := List.length_pos_iff.mpr isWord.nonempty
      simp only [isText, List.length_append]
      omega
    rw [isText]
    exact word gap first rest isGap isWord begins (inductionOnWords blank word rest)
termination_by text.length

/-- The gap at the end of a text with words reaches to the last visible character. -/
theorem exists_eq_append_trailing
    {text : Text}
    (spoken : (Spaced.ofText text).pieces ≠ []) :
    ∃ front last,
      text = front ++ last :: (Spaced.ofText text).trailing ∧
        isBlank last = false ∧
        ∀ c ∈ (Spaced.ofText text).trailing, isBlank c = true := by
  induction text using inductionOnWords with
  | blank text isBlank =>
      exact absurd (by rw [Spaced.ofText_of_blank isBlank]) spoken
  | word gap word rest isGap isWord begins inductionHypothesis =>
      rw [Spaced.ofText_word isGap isWord begins]
      by_cases silent : (Spaced.ofText rest).pieces = []
      · have noWords : words rest = [] := by
          rw [words, silent, List.map_nil]
        have isBlank := List.all_eq_true.mp ((words_eq_nil_iff rest).mp noWords)
        have isLast := List.dropLast_concat_getLast isWord.nonempty
        rw [Spaced.ofText_of_blank isBlank]
        refine ⟨gap ++ word.dropLast, word.getLast isWord.nonempty, ?_,
          isWord.bare _ (List.getLast_mem isWord.nonempty), isBlank⟩
        conv => lhs; rw [← isLast]
        simp
      · obtain ⟨front, last, isRest, visible, isBlank⟩ := inductionHypothesis silent
        refine ⟨gap ++ (word ++ front), last, ?_, visible, isBlank⟩
        conv => lhs; rw [isRest]
        simp

/-- A text is what reaches to its last blank character and what is visible behind it. -/
theorem exists_eq_append_visible (text : Text) :
    ∃ before visible,
      text = before ++ visible ∧
        (∀ c ∈ before.getLast?, isBlank c = true) ∧
        ∀ c ∈ visible, isBlank c = false := by
  obtain ⟨visible, rest, isReverse, isVisible, begins⟩ := exists_eq_visible_append text.reverse
  refine ⟨rest.reverse, visible.reverse, ?_, ?_, ?_⟩
  · rw [← List.reverse_append, ← isReverse, List.reverse_reverse]
  · rwa [List.getLast?_reverse]
  · simpa using isVisible

@[simp]
theorem unwords_singleton (word : Text) : unwords [word] = word := by
  simp [unwords, List.intercalate]

theorem unwords_cons_cons
    (first second : Text)
    (rest : List Text) :
    unwords (first :: second :: rest) = first ++ ' ' :: unwords (second :: rest) := by
  simp [unwords, List.intercalate]

/-- There is a space before each text but the first. -/
theorem length_unwords (texts : List Text) :
    (unwords texts).length = (texts.flatMap (' ' :: ·)).length - 1 := by
  induction texts with
  | nil =>
      rfl
  | cons first rest inductionHypothesis =>
      cases rest with
      | nil =>
          simp
      | cons second others =>
          rw [unwords_cons_cons, List.length_append, List.length_cons, inductionHypothesis]
          simp only [List.flatMap_cons, List.length_append, List.length_cons]
          omega

/-- Words with single spaces between them come apart at the spaces. -/
theorem ofText_unwords
    (word : Text)
    (rest : List Text)
    (areWords : ∀ other ∈ word :: rest, IsWord other) :
    Spaced.ofText (unwords (word :: rest)) =
      ⟨([], word) :: rest.map fun other => ([' '], other), []⟩ := by
  induction rest generalizing word with
  | nil =>
      have apart : (⟨[], []⟩ : Spaced).Apart := by
        simp [Spaced.Apart]
      rw [unwords_singleton, Spaced.ofText,
        Spaced.foldr_push_word (areWords word (by simp)) apart]
      rfl
  | cons next others inductionHypothesis =>
      have later := inductionHypothesis next
        (fun other member => areWords other (List.mem_cons_of_mem word member))
      have spelled : unwords (word :: next :: others) =
          word ++ ' ' :: unwords (next :: others) := by
        simp [unwords, List.intercalate, List.intersperse]
      have gap : Spaced.push ' ' (Spaced.ofText (unwords (next :: others))) =
          ⟨(next :: others).map fun other => ([' '], other), []⟩ := by
        have blank : isBlank ' ' = true := by decide
        simp [later, Spaced.push, blank]
      rw [spelled, Spaced.ofText, List.foldr_append, List.foldr_cons]
      change word.foldr Spaced.push
        (Spaced.push ' ' (Spaced.ofText (unwords (next :: others)))) = _
      rw [gap, Spaced.foldr_push_word (areWords word (by simp)) (by simp [Spaced.Apart])]

/-- Words that are put together with single spaces are found again. -/
theorem words_unwords
    {list : List Text}
    (areWords : ∀ word ∈ list, IsWord word) :
    words (unwords list) = list := by
  cases list with
  | nil =>
      rfl
  | cons word rest =>
      rw [words, ofText_unwords word rest areWords]
      simp [Function.comp_def]

/-- A word is the only word of its text. -/
theorem words_of_isWord
    {word : Text}
    (isWord : IsWord word) :
    words word = [word] := by
  have found : words (unwords [word]) = [word] := words_unwords (by simpa using isWord)
  rwa [unwords_singleton] at found

end Text

/-! ## Tables of characters -/

namespace Text

theorem exists_range_of_inRanges
    {ranges : List (Nat × Nat)}
    {code : Nat}
    (inside : inRanges ranges code = true) :
    ∃ range ∈ ranges, range.1 ≤ code ∧ code ≤ range.2 := by
  induction ranges with
  | nil =>
      simp [inRanges] at inside
  | cons first rest inductionHypothesis =>
      obtain ⟨lowest, highest⟩ := first
      simp only [inRanges] at inside
      split at inside
      · simp at inside
      · next reached =>
          split at inside
          · next within =>
              exact ⟨(lowest, highest), by simp, Nat.le_of_not_lt reached, within⟩
          · obtain ⟨range, member, bounds⟩ := inductionHypothesis inside
            exact ⟨range, List.mem_cons_of_mem _ member, bounds⟩

/-- The codes of the blank characters. -/
def blankCodes : List Nat :=
  blankRanges.flatMap fun range => List.range' range.1 (range.2 + 1 - range.1)

/-- A blank character is one of few. -/
theorem toNat_mem_blankCodes
    {c : Char}
    (blank : isBlank c = true) :
    c.toNat ∈ blankCodes := by
  obtain ⟨range, member, bounds⟩ := exists_range_of_inRanges blank
  refine List.mem_flatMap.mpr ⟨range, member, ?_⟩
  rw [List.mem_range'_1]
  omega

/-- No blank character is a letter or numeral. -/
theorem isAlphanumeric_eq_false_of_isBlank
    {c : Char}
    (blank : isBlank c = true) :
    isAlphanumeric c = false := by
  have checked : ∀ code ∈ blankCodes,
      (inRanges letterRanges code || inRanges numericRanges code) = false := by
    decide +kernel
  exact checked c.toNat (toNat_mem_blankCodes blank)

/-- The text has no letter and no numeral. -/
def Silent (text : Text) : Prop :=
  ∀ c ∈ text, isAlphanumeric c = false

theorem silent_of_blank
    {text : Text}
    (blank : ∀ c ∈ text, isBlank c = true) :
    Silent text :=
  fun c member => isAlphanumeric_eq_false_of_isBlank (blank c member)

theorem Silent.append
    {first second : Text}
    (silentFirst : Silent first)
    (silentSecond : Silent second) :
    Silent (first ++ second) :=
  List.forall_mem_append.mpr ⟨silentFirst, silentSecond⟩

theorem silent_flatten
    {pieces : List Text}
    (silent : ∀ piece ∈ pieces, Silent piece) :
    Silent pieces.flatten := by
  intro c member
  obtain ⟨piece, isPiece, inside⟩ := List.mem_flatten.mp member
  exact silent piece isPiece c inside

/-- The image of a code along runs is the code or the image of a run that covers it. -/
theorem mapAlong_eq_or
    (runs : List CaseRun)
    (code : Nat) :
    mapAlong runs code = code ∨
      ∃ run ∈ runs, run.covers code = true ∧ mapAlong runs code = run.image code := by
  induction runs with
  | nil =>
      exact Or.inl rfl
  | cons run rest inductionHypothesis =>
      simp only [mapAlong]
      split
      · exact Or.inl rfl
      · split
        · next covered =>
            exact Or.inr ⟨run, by simp, covered, rfl⟩
        · rcases inductionHypothesis with fixed | ⟨other, member, covered, mapped⟩
          · exact Or.inl fixed
          · exact Or.inr ⟨other, List.mem_cons_of_mem _ member, covered, mapped⟩

theorem mem_of_expansionOf?
    {expansions : List (Nat × List Nat)}
    {code : Nat}
    {codes : List Nat}
    (found : expansionOf? expansions code = some codes) :
    (code, codes) ∈ expansions := by
  induction expansions with
  | nil =>
      simp [expansionOf?] at found
  | cons first rest inductionHypothesis =>
      obtain ⟨key, image⟩ := first
      simp only [expansionOf?] at found
      split at found
      · simp at found
      · split at found
        · next same =>
            simp only [Option.some.injEq] at found
            subst same found
            simp
        · exact List.mem_cons_of_mem _ (inductionHypothesis found)

/-- The images of the runs and of the expansions are not blank, and no expansion is empty. -/
structure AvoidsBlanks
    (runs : List CaseRun)
    (expansions : List (Nat × List Nat)) :
    Prop where
  images : ∀ run ∈ runs, ∀ code ∈ blankCodes,
    code < run.target ∨ run.target + (run.last - run.first) < code
  expanded : ∀ expansion ∈ expansions,
    expansion.2 ≠ [] ∧ ∀ code ∈ expansion.2, code ∉ blankCodes

/-- A character with a code that is no blank code is not blank. -/
theorem isBlank_ofNat_eq_false
    {code : Nat}
    (visible : code ∉ blankCodes) :
    isBlank (Char.ofNat code) = false := by
  cases blank : isBlank (Char.ofNat code) with
  | false =>
      rfl
  | true =>
      have member := toNat_mem_blankCodes blank
      by_cases valid : code.isValidChar
      · have isCode : (Char.ofNat code).toNat = code := congrArg Char.toNat (dif_pos valid)
        rw [isCode] at member
        exact absurd member visible
      · have isZero : (Char.ofNat code).toNat = 0 := congrArg Char.toNat (dif_neg valid)
        rw [isZero] at member
        exact absurd member (by decide)

/-- A code whose image along the runs is blank is blank itself. -/
theorem AvoidsBlanks.mapAlong_not_mem
    {runs : List CaseRun}
    {expansions : List (Nat × List Nat)}
    (avoids : AvoidsBlanks runs expansions)
    {code : Nat}
    (visible : code ∉ blankCodes) :
    mapAlong runs code ∉ blankCodes := by
  intro blank
  rcases mapAlong_eq_or runs code with fixed | ⟨run, member, covered, mapped⟩
  · rw [fixed] at blank
    exact visible blank
  · have outside := avoids.images run member _ blank
    simp only [CaseRun.covers, Bool.and_eq_true, decide_eq_true_eq] at covered
    rw [mapped, CaseRun.image] at outside
    omega

/-- The tables of the uppercase mapping avoid blanks. -/
theorem avoidsBlanks_upper : AvoidsBlanks upperRuns upperExpansions :=
  ⟨by decide +kernel, by decide +kernel⟩

theorem toNat_not_mem_blankCodes
    {c : Char}
    (visible : isBlank c = false) :
    c.toNat ∉ blankCodes := by
  intro member
  have checked : ∀ code ∈ blankCodes, inRanges blankRanges code = true := by
    decide +kernel
  have blank : isBlank c = true := checked c.toNat member
  simp [visible] at blank

/-- The form that the tables of a case mapping give a character. -/
def caseImage
    (runs : List CaseRun)
    (expansions : List (Nat × List Nat))
    (c : Char) :
    Text :=
  match expansionOf? expansions c.toNat with
  | some codes => codes.map Char.ofNat
  | none => [Char.ofNat (mapAlong runs c.toNat)]

/-- The form of a character that is not blank is a word. -/
theorem AvoidsBlanks.isWord_caseImage
    {runs : List CaseRun}
    {expansions : List (Nat × List Nat)}
    (avoids : AvoidsBlanks runs expansions)
    {c : Char}
    (visible : isBlank c = false) :
    IsWord (caseImage runs expansions c) := by
  have code := toNat_not_mem_blankCodes visible
  unfold caseImage
  split
  · next codes found =>
      obtain ⟨nonempty, avoided⟩ := avoids.expanded _ (mem_of_expansionOf? found)
      refine ⟨by simpa using nonempty, ?_⟩
      intro image member
      obtain ⟨imageCode, isCode, rfl⟩ := List.mem_map.mp member
      exact isBlank_ofNat_eq_false (avoided imageCode isCode)
  · refine ⟨by simp, ?_⟩
    intro image member
    rw [List.mem_singleton.mp member]
    exact isBlank_ofNat_eq_false (avoids.mapAlong_not_mem code)

theorem isWord_upperChar
    {c : Char}
    (visible : isBlank c = false) :
    IsWord (upperChar c) :=
  avoidsBlanks_upper.isWord_caseImage visible

/-- Uppercase of a word is a word. -/
theorem IsWord.upper
    {word : Text}
    (isWord : IsWord word) :
    IsWord (Text.upper word) := by
  obtain ⟨nonempty, bare⟩ := isWord
  constructor
  · cases word with
    | nil =>
        exact absurd rfl nonempty
    | cons c rest =>
        have first := isWord_upperChar (bare c (by simp))
        simp [Text.upper, first.nonempty]
  · intro image member
    obtain ⟨c, isChar, isImage⟩ := List.mem_flatMap.mp member
    exact (isWord_upperChar (bare c isChar)).bare image isImage

end Text

end Colloquy
