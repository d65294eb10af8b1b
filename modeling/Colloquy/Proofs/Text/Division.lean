import Colloquy.Proofs.Text.Uppercase
import Mathlib.Data.List.Forall2

namespace Colloquy

/-!
# Where texts are divided

A mark that stands in none of the parts before it divides a text in one way only.
Texts are alike if they have the same words but for case. Parentheses and bars
divide texts that are alike into as many parts, which are alike in turn.
-/

/-- What stands before and after the first place where something holds is determined. -/
theorem append_cons_inj_of_first
    {α : Type}
    (holds : α → Prop)
    {before before' after after' : List α}
    {here here' : α}
    (noneBefore : ∀ other ∈ before, ¬ holds other)
    (noneBefore' : ∀ other ∈ before', ¬ holds other)
    (holdsHere : holds here)
    (holdsHere' : holds here')
    (same : before ++ here :: after = before' ++ here' :: after') :
    before = before' ∧ here = here' ∧ after = after' := by
  induction before generalizing before' with
  | nil =>
      cases before' with
      | nil =>
          exact ⟨rfl, List.cons.inj same⟩
      | cons first' rest' =>
          obtain ⟨rfl, -⟩ := List.cons.inj same
          exact absurd holdsHere (noneBefore' here List.mem_cons_self)
  | cons first rest inductionHypothesis =>
      cases before' with
      | nil =>
          obtain ⟨rfl, -⟩ := List.cons.inj same
          exact absurd holdsHere' (noneBefore first List.mem_cons_self)
      | cons first' rest' =>
          obtain ⟨rfl, sameRest⟩ := List.cons.inj same
          obtain ⟨rfl, sameHere, sameAfter⟩ := inductionHypothesis
            (fun other member => noneBefore other (List.mem_cons_of_mem _ member))
            (fun other member => noneBefore' other (List.mem_cons_of_mem _ member)) sameRest
          exact ⟨rfl, sameHere, sameAfter⟩

namespace Text

/-- A mark that stands in neither beginning divides a text in one way. -/
theorem append_cons_inj_of_not_mem
    {c : Char}
    {before before' after after' : Text}
    (noneBefore : c ∉ before)
    (noneBefore' : c ∉ before')
    (same : before ++ c :: after = before' ++ c :: after') :
    before = before' ∧ after = after' := by
  obtain ⟨sameBefore, -, sameAfter⟩ := append_cons_inj_of_first (· = c)
    (fun _ member isMark => noneBefore (isMark ▸ member))
    (fun _ member isMark => noneBefore' (isMark ▸ member)) rfl rfl same
  exact ⟨sameBefore, sameAfter⟩

/-! ## Words around a mark -/

/-- A mark that is not blank stands in a word with what is visible before and after it. -/
theorem exists_words_append_cons
    {c : Char}
    (visible : isBlank c = false)
    (before after : Text) :
    ∃ earlier start stop later,
      words (before ++ c :: after) = earlier ++ (start ++ c :: stop) :: later ∧
        words before = earlier ++ words start ∧
        words after = words stop ++ later ∧
        (c ∉ before → (∀ word ∈ earlier, c ∉ word) ∧ c ∉ start) := by
  obtain ⟨earlier, start, rfl, ends, startVisible⟩ := exists_eq_append_visible before
  obtain ⟨stop, later, rfl, stopVisible, begins⟩ := exists_eq_visible_append after
  have isWord : IsWord (start ++ c :: stop) := by
    refine ⟨by simp, List.forall_mem_append.mpr ⟨startVisible, ?_⟩⟩
    exact List.forall_mem_cons.mpr ⟨visible, stopVisible⟩
  have joined : earlier ++ start ++ c :: (stop ++ later) =
      earlier ++ ((start ++ c :: stop) ++ later) := by
    simp
  refine ⟨words earlier, start, stop, words later, ?_, ?_, ?_, ?_⟩
  · rw [joined, words_append_of_getLast? ends, words_append _ begins, words_of_isWord isWord]
    rfl
  · exact words_append_of_getLast? ends start
  · exact words_append stop begins
  · intro noneBefore
    simp only [List.mem_append, not_or] at noneBefore
    exact ⟨fun word isEarlier member => noneBefore.1 (mem_of_mem_words isEarlier member),
      noneBefore.2⟩

/-- The words before and after the first place of a mark are determined by all words together. -/
theorem words_eq_of_words_append_cons
    {c : Char}
    (visible : isBlank c = false)
    {before before' after after' : Text}
    (noneBefore : c ∉ before)
    (noneBefore' : c ∉ before')
    (same : words (before ++ c :: after) = words (before' ++ c :: after')) :
    words before = words before' ∧ words after = words after' := by
  obtain ⟨earlier, start, stop, later, isWhole, isBefore, isAfter, avoids⟩ :=
    exists_words_append_cons visible before after
  obtain ⟨earlier', start', stop', later', isWhole', isBefore', isAfter', avoids'⟩ :=
    exists_words_append_cons visible before' after'
  rw [isWhole, isWhole'] at same
  obtain ⟨rfl, sameWord, rfl⟩ := append_cons_inj_of_first (c ∈ ·)
    (avoids noneBefore).1 (avoids' noneBefore').1 (by simp) (by simp) same
  obtain ⟨rfl, rfl⟩ :=
    append_cons_inj_of_not_mem (avoids noneBefore).2 (avoids' noneBefore').2 sameWord
  exact ⟨isBefore.trans isBefore'.symm, isAfter.trans isAfter'.symm⟩

/-! ## Texts that are alike -/

/-- The texts have the same words, but for case. -/
def Alike (first second : Text) : Prop :=
  (words first).map upper = (words second).map upper

/-- Uppercase is taken word by word. -/
theorem upper_unwords (list : List Text) :
    upper (unwords list) = unwords (list.map upper) := by
  induction list with
  | nil =>
      rfl
  | cons first rest inductionHypothesis =>
      cases rest with
      | nil =>
          simp
      | cons second others =>
          rw [unwords_cons_cons, upper_append, upper_cons, inductionHypothesis,
            upperChar_of_isBlank (by decide)]
          exact (unwords_cons_cons _ _ _).symm

/-- The form in which texts are compared is the collapsed text in uppercase. -/
theorem canonical_eq_upper_collapse (text : Text) :
    canonical text = upper (collapse text) := by
  rw [canonical, collapse, upper_unwords]

theorem t_not_mem_canonical (text : Text) : 't' ∉ canonical text := by
  rw [canonical_eq_upper_collapse]
  exact t_not_mem_upper _

/-- Texts have the same canonical form exactly if they are alike. -/
theorem canonical_eq_iff
    {first second : Text} :
    canonical first = canonical second ↔ Alike first second := by
  have areWords (text : Text) : ∀ word ∈ (words text).map upper, IsWord word := by
    rw [List.forall_mem_map]
    exact fun word member => (isWord_of_mem_words member).upper
  constructor
  · intro same
    have sameWords := congrArg words same
    rwa [canonical, canonical, words_unwords (areWords first), words_unwords (areWords second)]
      at sameWords
  · intro alike
    rw [canonical, canonical, alike]

/-- The marks that divide a pattern into groups and groups into options. -/
def dividers : List Char :=
  ['(', ')', '|']

variable
  {c : Char}

theorem isAlphanumeric_of_mem_dividers
    (divides : c ∈ dividers) :
    isAlphanumeric c = false := by
  have checked : dividers.all (!isAlphanumeric ·) = true := by
    decide +kernel
  simpa using List.all_eq_true.mp checked c divides

theorem isBlank_of_mem_dividers
    (divides : c ∈ dividers) :
    isBlank c = false := by
  have checked : dividers.all (!isBlank ·) = true := by
    decide
  simpa using List.all_eq_true.mp checked c divides

theorem mem_steadyChars_of_mem_dividers
    (divides : c ∈ dividers) :
    c ∈ steadyChars := by
  have contained : dividers ⊆ steadyChars := by
    simp [dividers, steadyChars]
  exact contained divides

/-- A divider stands in the uppercase form exactly if it stands in the text. -/
theorem mem_upper_iff
    (divides : c ∈ dividers)
    (text : Text) :
    c ∈ upper text ↔ c ∈ text := by
  constructor
  · exact mem_of_mem_upper (mem_steadyChars_of_mem_dividers divides)
  · intro member
    refine List.mem_flatMap.mpr ⟨c, member, ?_⟩
    rw [upperChar_of_isAlphanumeric_eq_false (isAlphanumeric_of_mem_dividers divides)]
    exact List.mem_singleton_self c

namespace Alike

variable
  {first second : Text}

/-- Texts that are alike have the same words in uppercase. -/
theorem words_upper_eq
    (alike : Alike first second) :
    words (upper first) = words (upper second) := by
  rw [words_upper, words_upper, alike]

theorem allBlank_eq
    (alike : Alike first second) :
    allBlank first = allBlank second := by
  rw [Bool.eq_iff_iff, ← words_eq_nil_iff, ← words_eq_nil_iff, ← List.map_eq_nil_iff, alike,
    List.map_eq_nil_iff]

/-- A divider of one of two texts that are alike stands in the other. -/
theorem mem_of_mem
    (alike : Alike first second)
    (divides : c ∈ dividers)
    (member : c ∈ first) :
    c ∈ second := by
  obtain ⟨word, isWord, inWord⟩ :=
    exists_mem_words (isBlank_of_mem_dividers divides) ((mem_upper_iff divides first).mpr member)
  rw [alike.words_upper_eq] at isWord
  exact (mem_upper_iff divides second).mp (mem_of_mem_words isWord inWord)

/-- Texts that are alike fall into parts that are alike. -/
theorem divide
    {before before' after after' : Text}
    (divides : c ∈ dividers)
    (noneBefore : c ∉ before)
    (noneBefore' : c ∉ before')
    (alike : Alike (before ++ c :: after) (before' ++ c :: after')) :
    Alike before before' ∧ Alike after after' := by
  have fixed : upperChar c = [c] :=
    upperChar_of_isAlphanumeric_eq_false (isAlphanumeric_of_mem_dividers divides)
  have same := alike.words_upper_eq
  simp only [upper_append, upper_cons, fixed, List.singleton_append] at same
  obtain ⟨sameBefore, sameAfter⟩ := words_eq_of_words_append_cons (isBlank_of_mem_dividers divides)
    (mt (mem_upper_iff divides _).mp noneBefore) (mt (mem_upper_iff divides _).mp noneBefore') same
  rw [words_upper, words_upper] at sameBefore sameAfter
  exact ⟨sameBefore, sameAfter⟩

end Alike

/-! ## Parts between separators -/

/-- Texts that are alike have the same number of parts, and those are alike in turn. -/
theorem Alike.forall₂_splitOn
    {first second : Text}
    (divides : c ∈ dividers)
    (alike : Alike first second) :
    List.Forall₂ Alike (first.splitOn c) (second.splitOn c) := by
  by_cases divided : c ∈ first
  · obtain ⟨before, after, isFirst, noneBefore⟩ := List.eq_append_cons_of_mem divided
    obtain ⟨before', after', isSecond, noneBefore'⟩ :=
      List.eq_append_cons_of_mem (alike.mem_of_mem divides divided)
    have shorter : after.length < first.length := by
      simp only [isFirst, List.length_append, List.length_cons]
      omega
    rw [isFirst, isSecond] at alike ⊢
    obtain ⟨alikeBefore, alikeAfter⟩ := alike.divide divides noneBefore noneBefore'
    rw [List.splitOn_append_cons_self_of_not_mem noneBefore,
      List.splitOn_append_cons_self_of_not_mem noneBefore']
    exact .cons alikeBefore (alikeAfter.forall₂_splitOn divides)
  · have undivided : c ∉ second := mt (Alike.mem_of_mem (Eq.symm alike) divides) divided
    rw [List.splitOn_eq_singleton divided, List.splitOn_eq_singleton undivided]
    exact .cons alike .nil
termination_by first.length

end Text

end Colloquy
