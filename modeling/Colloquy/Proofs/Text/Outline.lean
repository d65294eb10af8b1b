import Colloquy.Proofs.Text.Uppercase

namespace Colloquy.Text

/-!
# What changes of case keep

The outline of a text shows its blank characters and a mark in place of each word.
Case is changed character by character, however the form of a character depends on
those around it: a blank character stays, and any other becomes one or more characters
that are not blank. So a change of case keeps the outline.
-/

/-! ## Characters that stand for others -/

/-- What may stand for a character: itself if it is blank, and otherwise a word. -/
structure StandsFor
    (c : Char)
    (image : Text) :
    Prop where
  blank : isBlank c = true → image = [c]
  visible : isBlank c = false → IsWord image

theorem standsFor_self (c : Char) : StandsFor c [c] :=
  ⟨fun _ => rfl, fun visible => ⟨List.cons_ne_nil c [], by simpa using visible⟩⟩

theorem standsFor_single
    {c d : Char}
    (visible : isBlank c = false)
    (visible' : isBlank d = false) :
    StandsFor c [d] :=
  ⟨by simp [visible], fun _ => ⟨List.cons_ne_nil d [], by simpa using visible'⟩⟩

/-- Uppercase stands for the character. -/
theorem standsFor_upperChar (c : Char) : StandsFor c (upperChar c) :=
  ⟨upperChar_of_isBlank, isWord_upperChar⟩

theorem avoidsBlanks_lower : AvoidsBlanks lowerRuns lowerExpansions :=
  ⟨by decide +kernel, by decide +kernel⟩

/-- A blank has no lowercase form but itself. -/
theorem lowerChar_of_isBlank
    {c : Char}
    (blank : isBlank c = true) :
    lowerChar c = [c] := by
  have checked : ∀ code ∈ blankCodes,
      expansionOf? lowerExpansions code = none ∧ mapAlong lowerRuns code = code := by
    decide +kernel
  obtain ⟨single, fixed⟩ := checked c.toNat (toNat_mem_blankCodes blank)
  simp [lowerChar, single, fixed]

theorem standsFor_lowerChar (c : Char) : StandsFor c (lowerChar c) :=
  ⟨lowerChar_of_isBlank, avoidsBlanks_lower.isWord_caseImage⟩

/-- Each character of the first text has what may stand for it in its place in the second. -/
inductive Recased : Text → Text → Prop where
  | nil :
      Recased [] []
  | cons
      {c : Char}
      {image rest rest' : Text} :
      StandsFor c image →
      Recased rest rest' →
      Recased (c :: rest) (image ++ rest')

namespace Recased

theorem refl (text : Text) : Recased text text := by
  induction text with
  | nil =>
      exact .nil
  | cons c rest inductionHypothesis =>
      exact .cons (standsFor_self c) inductionHypothesis

/-- Texts are recased part by part. -/
theorem append
    {first first' second second' : Text}
    (before : Recased first first')
    (after : Recased second second') :
    Recased (first ++ second) (first' ++ second') := by
  induction before with
  | nil =>
      exact after
  | cons standsFor _ inductionHypothesis =>
      rw [List.cons_append, List.append_assoc]
      exact .cons standsFor inductionHypothesis

end Recased

/-! ## Outlines -/

/-- The outline of a text, which may begin inside of a word: `none` stands for a word. -/
def outlineFrom :
    (insideWord : Bool) →
    Text →
    List (Option Char)
  | _, [] => []
  | insideWord, c :: rest =>
      if isBlank c then
        some c :: outlineFrom false rest
      else if insideWord then
        outlineFrom true rest
      else
        none :: outlineFrom true rest

/-- A text with one mark in place of each run of characters that are not blank. -/
def outline (text : Text) : List (Option Char) :=
  outlineFrom false text

/-- A gap is kept in the outline as it is. -/
theorem outlineFrom_gap
    {gap : Text}
    (isGap : ∀ c ∈ gap, isBlank c = true)
    (rest : Text) :
    outlineFrom false (gap ++ rest) = gap.map some ++ outlineFrom false rest := by
  induction gap with
  | nil =>
      rfl
  | cons c others inductionHypothesis =>
      obtain ⟨blank, othersBlank⟩ := List.forall_mem_cons.mp isGap
      simp [outlineFrom, blank, inductionHypothesis othersBlank]

/-- Inside of a word, characters that are not blank leave no mark. -/
theorem outlineFrom_visible
    {visible : Text}
    (bare : ∀ c ∈ visible, isBlank c = false)
    (rest : Text) :
    outlineFrom true (visible ++ rest) = outlineFrom true rest := by
  induction visible with
  | nil =>
      rfl
  | cons c others inductionHypothesis =>
      obtain ⟨cBare, othersBare⟩ := List.forall_mem_cons.mp bare
      simp [outlineFrom, cBare, inductionHypothesis othersBare]

/-- Characters of one word leave one mark where the word begins. -/
theorem outlineFrom_word
    {word : Text}
    (isWord : IsWord word)
    (insideWord : Bool)
    (rest : Text) :
    outlineFrom insideWord (word ++ rest) =
      (if insideWord then [] else [none]) ++ outlineFrom true rest := by
  obtain ⟨c, others, rfl⟩ := List.exists_cons_of_ne_nil isWord.nonempty
  obtain ⟨cBare, othersBare⟩ := List.forall_mem_cons.mp isWord.bare
  cases insideWord <;> simp [outlineFrom, cBare, outlineFrom_visible othersBare]

/-- Where a text begins with a blank character, if with any, no word goes on. -/
theorem outlineFrom_of_head?
    {text : Text}
    (begins : ∀ c ∈ text.head?, isBlank c = true)
    (insideWord : Bool) :
    outlineFrom insideWord text = outline text := by
  cases text with
  | nil =>
      rfl
  | cons c rest =>
      have blank : isBlank c = true := begins c rfl
      simp [outline, outlineFrom, blank]

/-- A gap is kept, and the word behind it becomes a mark. -/
theorem outline_gap_word
    {gap word rest : Text}
    (isGap : ∀ c ∈ gap, isBlank c = true)
    (isWord : IsWord word)
    (begins : ∀ c ∈ rest.head?, isBlank c = true) :
    outline (gap ++ (word ++ rest)) = gap.map some ++ none :: outline rest := by
  rw [outline, outlineFrom_gap isGap, outlineFrom_word isWord, outlineFrom_of_head? begins]
  rfl

/-- There are as many marks as words. -/
theorem count_none_outline (text : Text) :
    (outline text).count none = (words text).length := by
  have unmarked (gap : Text) : (gap.map some).count none = 0 := by
    simp [List.count_eq_zero]
  induction text using inductionOnWords with
  | blank text isBlank =>
      have shown := outlineFrom_gap isBlank []
      rw [List.append_nil] at shown
      rw [outline, shown, words_eq_nil_of_allBlank (List.all_eq_true.mpr isBlank)]
      simpa [outlineFrom] using unmarked text
  | word gap word rest isGap isWord begins inductionHypothesis =>
      rw [outline_gap_word isGap isWord begins, words, Spaced.ofText_word isGap isWord begins,
        List.count_append, unmarked, List.count_cons_self, inductionHypothesis]
      simp [words]

/-- Texts that are recased have the same outline. -/
theorem Recased.outlineFrom_eq
    {text text' : Text}
    (recased : Recased text text')
    (insideWord : Bool) :
    outlineFrom insideWord text' = outlineFrom insideWord text := by
  induction recased generalizing insideWord with
  | nil =>
      rfl
  | @cons c image rest rest' standsFor _ inductionHypothesis =>
      cases blank : isBlank c with
      | true =>
          rw [standsFor.blank blank, List.singleton_append]
          simp [outlineFrom, blank, inductionHypothesis]
      | false =>
          rw [outlineFrom_word (standsFor.visible blank)]
          cases insideWord <;> simp [outlineFrom, blank, inductionHypothesis]

/-! ## Changes of case -/

/-- Uppercase recases a text. -/
theorem recased_upper (text : Text) : Recased text (upper text) := by
  induction text with
  | nil =>
      exact .nil
  | cons c rest inductionHypothesis =>
      rw [upper_cons]
      exact .cons (standsFor_upperChar c) inductionHypothesis

theorem recased_lowerAfter
    (before text : Text) :
    Recased text (lowerAfter before text) := by
  induction text generalizing before with
  | nil =>
      exact .nil
  | cons c rest inductionHypothesis =>
      refine .cons ?_ (inductionHypothesis (c :: before))
      -- A sigma has two forms, and neither is blank.
      split
      · next isSigma =>
          subst isSigma
          split
          · exact standsFor_single (by decide) (by decide)
          · exact standsFor_single (by decide) (by decide)
      · exact standsFor_lowerChar c

/-- Lowercase recases a text. -/
theorem recased_lower (text : Text) : Recased text (lower text) :=
  recased_lowerAfter [] text

theorem recased_capitalise (word : Text) : Recased word (capitalise word) := by
  cases word with
  | nil =>
      exact .nil
  | cons c rest =>
      exact .cons (standsFor_upperChar c) (.refl rest)

theorem recased_capitaliseOnly (word : Text) : Recased word (capitaliseOnly word) := by
  cases word with
  | nil =>
      exact .nil
  | cons c rest =>
      exact .cons (standsFor_upperChar c) (recased_lower rest)

/-- Sentence case recases a text. -/
theorem recased_sentenceCaseFrom
    (atStart : Bool)
    (text : Text) :
    Recased text (sentenceCaseFrom atStart text) := by
  induction text generalizing atStart with
  | nil =>
      exact .nil
  | cons c rest inductionHypothesis =>
      rw [sentenceCaseFrom]
      split
      · exact .cons (standsFor_upperChar c) (inductionHypothesis false)
      · exact .cons (standsFor_lowerChar c) (inductionHypothesis _)

/-- If each word is changed in its case only, so is a text that is changed word by word. -/
theorem recased_toTextWith
    {change : Text → Text}
    (changes : ∀ word, Recased word (change word))
    (text : Text) :
    Recased text ((Spaced.ofText text).toTextWith change) := by
  have eachPiece (pieces : List (Text × Text)) :
      Recased (pieces.flatMap fun piece => piece.1 ++ piece.2)
        (pieces.flatMap fun piece => piece.1 ++ change piece.2) := by
    induction pieces with
    | nil =>
        exact .nil
    | cons piece rest inductionHypothesis =>
        exact .append (.append (.refl piece.1) (changes piece.2)) inductionHypothesis
  have whole :
      Recased ((Spaced.ofText text).toTextWith id) ((Spaced.ofText text).toTextWith change) :=
    (eachPiece (Spaced.ofText text).pieces).append (.refl (Spaced.ofText text).trailing)
  rwa [Spaced.toTextWith_id_ofText] at whole

/-- The change leaves the gaps of a text and the number of its words as they are. -/
def KeepsOutline (change : Text → Text) : Prop :=
  ∀ text, outline (change text) = outline text ∧ (words (change text)).length = (words text).length

/-- What recases every text keeps outlines. -/
theorem keepsOutline_of_recased
    {change : Text → Text}
    (changes : ∀ text, Recased text (change text)) :
    KeepsOutline change := by
  intro text
  have same : outline (change text) = outline text := (changes text).outlineFrom_eq false
  refine ⟨same, ?_⟩
  rw [← count_none_outline, same, count_none_outline]

/-- All five changes of case leave the gaps of a text and the number of its words as they are. -/
theorem changesOfCase_keepOutline :
    KeepsOutline upper ∧
      KeepsOutline lower ∧
      KeepsOutline titleCase ∧
      KeepsOutline capitaliseWords ∧
      KeepsOutline sentenceCase :=
  ⟨keepsOutline_of_recased recased_upper,
    keepsOutline_of_recased recased_lower,
    keepsOutline_of_recased (recased_toTextWith recased_capitaliseOnly),
    keepsOutline_of_recased (recased_toTextWith recased_capitalise),
    keepsOutline_of_recased (recased_sentenceCaseFrom true)⟩

/-- Each of the two words gets longer. -/
example : outline (upper " ﬁ\tß".toList) = [some ' ', none, some '\t', none] := by
  decide +kernel

end Colloquy.Text
