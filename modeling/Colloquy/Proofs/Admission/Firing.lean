import Colloquy.Proofs.Admission.Admitted
import Colloquy.Proofs.Pattern.Saying

namespace Colloquy

/-!
# Admitted categories that can answer

Admission asks that a pattern is not blank. This leaves patterns of bare punctuation,
in which everything vanishes: they have no tokens and match nothing with words. All
other admitted categories can answer, and to a text within the limit of patterns.
-/

/-- The text has words, and the pattern matches them. -/
def Category.FiresOn
    (category : Category)
    (text : Text) :
    Prop :=
  (Utterance.scan text).words ≠ [] ∧
    ((Pattern.compile category.pattern).match? (Utterance.scan text)).isSome

/-- Without tokens nothing with words is matched. -/
theorem Category.FiresOn.tokens_ne_nil
    {category : Category}
    {text : Text}
    (fires : category.FiresOn text) :
    (Pattern.compile category.pattern).tokens ≠ [] := by
  obtain ⟨hasWords, matched⟩ := fires
  intro noTokens
  have cut : (Pattern.firstCut [] 0 (Utterance.scan text).upper).isSome := by
    rwa [Pattern.match?_eq_firstCut, noTokens, Option.isSome_map] at matched
  rw [Pattern.firstCut, if_neg (by simpa [Utterance.upper] using hasWords)] at cut
  exact Bool.false_ne_true cut

namespace Admission

open Pattern

/-- A pattern with tokens matches something with words that is no longer. -/
theorem exists_firesOn
    {category : Category}
    (hasTokens : tokensOf category.pattern ≠ []) :
    ∃ text, text.length ≤ (Text.trim category.pattern).length ∧ category.FiresOn text := by
  obtain ⟨items, laid⟩ := exists_laid (Text.trim category.pattern) false
  have areWritten := laid.isWritten
  obtain ⟨pieces, cut⟩ := exists_isCut_said areWritten
  rw [← laid.tokensOf_eq, tokensOf_trim, ← upper_scan] at cut
  rw [← tokensOf_trim, laid.tokensOf_ne_nil_iff] at hasTokens
  obtain ⟨item, member, remains⟩ := hasTokens
  refine ⟨said items, laid.length_said_le, ?_, ?_⟩
  · intro noWords
    refine optionWords_said_ne_nil areWritten member ?_ ?_
    · simp [Item.token?_eq_none_iff, remains]
    · rw [← upper_scan, Utterance.upper, noWords]
      rfl
  · rw [match?_eq_firstCut, Option.isSome_map]
    exact cut.firstCut_isSome 0

/--
The pattern of an admitted category matches a text with words exactly if something in
it does not vanish. There is such a text within the limit of patterns then.
-/
theorem validate_firesOn_iff
    {category : Category}
    {limits : LearningLimits}
    (admitted : validate category limits = .ok ()) :
    ((∃ text, category.FiresOn text) ↔
        ∃ items, Laid false category.pattern items ∧ ∃ item ∈ items, item.vanishes = false) ∧
      ((∃ text, category.FiresOn text) →
        ∃ text, text.length ≤ limits.maxPatternLength ∧ category.FiresOn text) := by
  have fits := (fits_of_validate admitted).1 category.pattern List.mem_cons_self
  refine ⟨⟨?_, ?_⟩, ?_⟩
  · rintro ⟨text, fires⟩
    obtain ⟨items, laid⟩ := exists_laid category.pattern false
    exact ⟨items, laid, laid.tokensOf_ne_nil_iff.mp fires.tokens_ne_nil⟩
  · rintro ⟨items, laid, remains⟩
    obtain ⟨text, -, fires⟩ := exists_firesOn (laid.tokensOf_ne_nil_iff.mpr remains)
    exact ⟨text, fires⟩
  · rintro ⟨text, fires⟩
    obtain ⟨short, isShort, shortFires⟩ := exists_firesOn fires.tokens_ne_nil
    exact ⟨short, isShort.trans fits.length, shortFires⟩

/-- Bare punctuation aside, a group with an option of words and a wildcard behind it are left. -/
theorem validate_firesOn_iff_remains :
    let category := Category.plain "? (!|A B)*".toList "x".toList
    validate category {} = .ok () ∧
      ∃ text, text.length ≤ ({} : LearningLimits).maxPatternLength ∧ category.FiresOn text := by
  intro category
  have admitted : validate category {} = .ok () := by
    decide +kernel
  have laid : Laid false category.pattern
      [.word ['?'] false, .group "!|A B".toList, .word ['*'] true] := by
    refine @Laid.word false [] ['?'] " (!|A B)*".toList _ (List.forall_mem_nil _) ?_ ?_ ?_ <|
      @Laid.group false [' '] "!|A B".toList ['*'] _ ?_ (by decide) <|
        @Laid.word true [] ['*'] [] _ (List.forall_mem_nil _) ?_ ?_ ?_ <|
          .blank (List.forall_mem_nil _)
    · exact ⟨by decide, List.forall_mem_singleton.mpr (by decide)⟩
    · rintro c ⟨⟩
      decide
    · decide
    · exact List.forall_mem_singleton.mpr (by decide)
    · exact ⟨by decide, List.forall_mem_singleton.mpr (by decide)⟩
    · rintro c ⟨⟩
    · decide
  obtain ⟨fires, short⟩ := validate_firesOn_iff admitted
  refine ⟨admitted, short (fires.mpr ⟨_, laid, .word ['*'] true, ?_, by decide +kernel⟩)⟩
  simp

/-- A question mark alone is admitted, and nothing with words is answered by it. -/
theorem validate_firesOn_questionMark :
    let category := Category.plain "?".toList "x".toList
    validate category {} = .ok () ∧ ∀ text, ¬ category.FiresOn text := by
  intro category
  refine ⟨by decide +kernel, ?_⟩
  intro text fires
  exact fires.tokens_ne_nil (by decide +kernel)

end Admission

end Colloquy
