import Colloquy.Admission.Danger

namespace Colloquy.Admission

/-!
# Dangerous content is found wherever it stands

A recogniser looks at the character before a text only to tell whether a word
goes on, and what follows the content does not matter to it. So a text that is
written somewhere in a larger one, with no word going on before it, holds only
dangerous content that the larger text holds as well.
-/

/-- The text holds no dangerous content. -/
def Harmless (text : Text) : Prop :=
  dangerousContent? text = none

/-- The text is written in the whole as it is, and no word goes on into it. -/
def StandsIn
    (whole text : Text) :
    Prop :=
  ∃ before after,
    whole = before ++ text ++ after ∧ before.getLast?.any Text.isWordChar = false

/-! ## Scanning -/

theorem getLast?_cons_or
    (first : Char)
    (others : Text)
    (before : Option Char) :
    (first :: others).getLast?.or before = others.getLast?.or (some first) := by
  rw [List.getLast?_cons]
  cases others.getLast? <;> rfl

/-- Nothing is found exactly if nothing is recognised at any place. -/
theorem firstContent?_eq_none_iff
    (recognise : Recogniser)
    (before : Option Char)
    (text : Text) :
    firstContent? recognise before text = none ↔
      ∀ skipped c rest, text = skipped ++ c :: rest →
        recognise (skipped.getLast?.or before) (c :: rest) = none := by
  induction text generalizing before with
  | nil =>
      simp [firstContent?]
  | cons first others inductionHypothesis =>
      have split : firstContent? recognise before (first :: others) = none ↔
          recognise before (first :: others) = none ∧
            firstContent? recognise (some first) others = none := by
        rw [firstContent?]
        cases recognise before (first :: others) <;> simp
      rw [split, inductionHypothesis]
      constructor
      · rintro ⟨here, later⟩ skipped c rest isText
        cases skipped with
        | nil =>
            rw [List.nil_append] at isText
            rw [← isText]
            exact here
        | cons d more =>
            obtain ⟨rfl, isLater⟩ := List.cons.inj isText
            rw [getLast?_cons_or]
            exact later more c rest isLater
      · intro nowhere
        refine ⟨nowhere [] first others rfl, ?_⟩
        intro skipped c rest isLater
        rw [← getLast?_cons_or first skipped before]
        exact nowhere (first :: skipped) c rest (congrArg (first :: ·) isLater)

/--
What is recognised is recognised again if more follows and if a word goes on before the text
as it did.
-/
def Persists (recognise : Recogniser) : Prop :=
  ∀ (before other : Option Char) (text more : Text),
    before.any Text.isWordChar = other.any Text.isWordChar →
    (recognise before text).isSome = true →
    (recognise other (text ++ more)).isSome = true

/-- If nothing is found in the whole, nothing is found in a text that stands in it. -/
theorem Persists.firstContent?_eq_none
    {recognise : Recogniser}
    (persists : Persists recognise)
    {whole text : Text}
    (stands : StandsIn whole text)
    (nothing : firstContent? recognise none whole = none) :
    firstContent? recognise none text = none := by
  obtain ⟨before, after, rfl, noWord⟩ := stands
  rw [firstContent?_eq_none_iff] at nothing ⊢
  rintro skipped c rest rfl
  have inWhole := nothing (before ++ skipped) c (rest ++ after) (by simp)
  have sameWord : (skipped.getLast?.or none).any Text.isWordChar =
      ((before ++ skipped).getLast?.or none).any Text.isWordChar := by
    rw [Option.or_none, Option.or_none, List.getLast?_append]
    cases skipped.getLast? with
    | none =>
        exact noWord.symm
    | some d =>
        rfl
  cases found : recognise (skipped.getLast?.or none) (c :: rest) with
  | none =>
      rfl
  | some _ =>
      have again := persists _ _ _ after sameWord (Option.isSome_of_eq_some found)
      rw [List.cons_append, inWhole] at again
      simp at again

/-! ## Parts of recognisers -/

/-- A word that is read is read with more behind it too. -/
theorem word?_append
    {letters text after : Text}
    (found : word? letters text = some after)
    (more : Text) :
    word? letters (text ++ more) = some (after ++ more) := by
  fun_induction word? letters text with
  | case1 text =>
      obtain rfl : text = after := Option.some.inj found
      rfl
  | case2 =>
      simp at found
  | case3 letter letters c rest folds inductionHypothesis =>
      rw [List.cons_append, word?, if_pos folds]
      exact inductionHypothesis found
  | case4 =>
      simp at found

theorem char?_append
    {mark : Char}
    {text after : Text}
    (found : char? mark text = some after)
    (more : Text) :
    char? mark (text ++ more) = some (after ++ more) := by
  cases text with
  | nil =>
      simp [char?] at found
  | cons c rest =>
      simp only [List.cons_append, char?] at found ⊢
      split at found
      · next isMark =>
          obtain rfl : rest = after := Option.some.inj found
          rw [if_pos isMark]
      · simp at found

theorem dropWhile_append_of_ne_nil
    {test : Char → Bool}
    {text : Text}
    (stops : text.dropWhile test ≠ [])
    (more : Text) :
    (text ++ more).dropWhile test = text.dropWhile test ++ more := by
  rw [List.dropWhile_append, if_neg (by simpa using stops)]

/-- Where something is found, the text is not at its end. -/
theorem ne_nil_of_found
    {find? : Text → Option Text}
    (failsAtEnd : find? [] = none)
    {text after : Text}
    (found : find? text = some after) :
    text ≠ [] := by
  rintro rfl
  rw [failsAtEnd] at found
  contradiction

/-- If something is found after blank characters, what follows does not add to the blanks. -/
theorem trimStart_append_of_found
    {find? : Text → Option Text}
    (failsAtEnd : find? [] = none)
    {text after : Text}
    (found : find? (Text.trimStart text) = some after)
    (more : Text) :
    Text.trimStart (text ++ more) = Text.trimStart text ++ more :=
  dropWhile_append_of_ne_nil (ne_nil_of_found failsAtEnd found) more

/-- What was read before a character that ends it is read with more behind it too. -/
theorem oneOrMore?_append
    {test : Char → Bool}
    {text after : Text}
    (found : oneOrMore? test text = some after)
    (goesOn : after ≠ [])
    (more : Text) :
    oneOrMore? test (text ++ more) = some (after ++ more) := by
  cases text with
  | nil =>
      simp [oneOrMore?] at found
  | cons c rest =>
      simp only [List.cons_append, oneOrMore?] at found ⊢
      split at found
      · next passes =>
          obtain rfl : rest.dropWhile test = after := Option.some.inj found
          rw [if_pos passes, dropWhile_append_of_ne_nil goesOn]
      · simp at found

/-- At least one character is read with more behind it too. -/
theorem isSome_oneOrMore?_append
    {test : Char → Bool}
    {text : Text}
    (found : (oneOrMore? test text).isSome = true)
    (more : Text) :
    (oneOrMore? test (text ++ more)).isSome = true := by
  cases text with
  | nil =>
      simp [oneOrMore?] at found
  | cons c rest =>
      simp only [List.cons_append, oneOrMore?] at found ⊢
      split at found
      · next passes =>
          simp [passes]
      · simp at found

/-- Whether a word begins here depends on the characters next to here only. -/
theorem atBoundary_append
    {before other : Option Char}
    (sameWord : before.any Text.isWordChar = other.any Text.isWordChar)
    {text : Text}
    (nonempty : text ≠ [])
    (more : Text) :
    atBoundary other (text ++ more) = atBoundary before text := by
  cases text with
  | nil =>
      exact absurd rfl nonempty
  | cons c rest =>
      simp [atBoundary, Text.isBoundary, sameWord]

/-! ## The four recognisers -/

/-- A script tag stays one with more behind it. -/
theorem persists_scriptTag? : Persists scriptTag? := by
  intro before other text more _ found
  simp only [Option.isSome_iff_exists, scriptTag?, Option.bind_eq_some_iff] at found ⊢
  obtain ⟨after, rest, opened, named⟩ := found
  refine ⟨after ++ more, rest ++ more, char?_append opened more, ?_⟩
  rw [trimStart_append_of_found rfl named, word?_append named]

/-- A text that begins with one scheme does not begin with the other, however it goes on. -/
theorem word?_java_eq_none
    {text after : Text}
    (found : word? "vb".toList text = some after)
    (more : Text) :
    word? "java".toList (text ++ more) = none := by
  cases text with
  | nil =>
      exact absurd rfl (ne_nil_of_found rfl found)
  | cons c rest =>
      have isV : foldsTo 'v' c = true := by
        cases folds : foldsTo 'v' c with
        | true =>
            rfl
        | false =>
            change (if foldsTo 'v' c = true then _ else none) = some after at found
            simp [folds] at found
      have notJ : foldsTo 'j' c = false := by
        simp only [foldsTo, Bool.or_eq_true, decide_eq_true_eq, Bool.and_eq_true, Char.reduceEq,
          false_and, or_false] at isV
        rcases isV with rfl | rfl
        · decide
        · decide
      change (if foldsTo 'j' c = true then _ else none) = none
      simp [notJ]

/-- The scheme of a link that runs a script is found again. -/
theorem scheme_append
    {text after : Text}
    (found : (word? "java".toList text).or (word? "vb".toList text) = some after)
    (more : Text) :
    text ≠ [] ∧
      (word? "java".toList (text ++ more)).or (word? "vb".toList (text ++ more)) =
        some (after ++ more) := by
  cases java : word? "java".toList text with
  | some rest =>
      rw [java, Option.some_or, Option.some.injEq] at found
      subst found
      rw [word?_append java, Option.some_or]
      exact ⟨ne_nil_of_found rfl java, rfl⟩
  | none =>
      rw [java, Option.none_or] at found
      rw [word?_java_eq_none found, Option.none_or, word?_append found]
      exact ⟨ne_nil_of_found rfl found, rfl⟩

theorem persists_scriptLink? : Persists scriptLink? := by
  intro before other text more sameWord found
  unfold scriptLink? at found ⊢
  split at found
  · next boundary =>
      simp only [Option.isSome_iff_exists, Option.bind_eq_some_iff] at found
      obtain ⟨after, rest, scheme, scripted, script, marked⟩ := found
      obtain ⟨nonempty, schemeAgain⟩ := scheme_append scheme more
      rw [atBoundary_append sameWord nonempty, if_pos boundary, schemeAgain, Option.bind_some,
        word?_append script, Option.bind_some, trimStart_append_of_found rfl marked,
        char?_append marked]
      rfl
  · simp at found

theorem persists_dataLink? : Persists dataLink? := by
  intro before other text more sameWord found
  unfold dataLink? at found ⊢
  split at found
  · next boundary =>
      simp only [Option.isSome_iff_exists, Option.bind_eq_some_iff] at found
      obtain ⟨after, rest, data, typed, colon, subtyped, latin, slashed, slash, subtype⟩ := found
      rw [atBoundary_append sameWord (ne_nil_of_found rfl data), if_pos boundary,
        word?_append data, Option.bind_some, trimStart_append_of_found rfl colon,
        char?_append colon, Option.bind_some, trimStart_append_of_found rfl latin,
        oneOrMore?_append latin (ne_nil_of_found rfl slash), Option.bind_some,
        char?_append slash, Option.bind_some]
      exact isSome_oneOrMore?_append (Option.isSome_of_eq_some subtype) more
  · simp at found

theorem persists_handler? : Persists handler? := by
  intro before other text more sameWord found
  simp only [handler?, Option.isSome_iff_exists, Option.bind_eq_some_iff, Option.filter_eq_some_iff]
    at found
  obtain ⟨after, rest, on, named, latin, assigned, boundary⟩ := found
  have goesOn : named ≠ [] := by
    rintro rfl
    exact ne_nil_of_found rfl assigned rfl
  rw [handler?, atBoundary_append sameWord (ne_nil_of_found rfl on), word?_append on,
    Option.bind_some, oneOrMore?_append latin goesOn, Option.bind_some,
    trimStart_append_of_found rfl assigned, char?_append assigned, Option.filter_some,
    if_pos boundary]
  rfl

theorem isSome_lastHandler?_append
    {before : Char}
    {text : Text}
    (found : (lastHandler? before text).isSome = true)
    (more : Text) :
    (lastHandler? before (text ++ more)).isSome = true := by
  induction text generalizing before with
  | nil =>
      simp [lastHandler?] at found
  | cons c rest inductionHypothesis =>
      simp only [List.cons_append, lastHandler?, Option.isSome_or, Bool.or_eq_true] at found ⊢
      rcases found with later | here
      · left
        split at later
        · simp at later
        · next inTag =>
            rw [if_neg inTag]
            exact inductionHypothesis later
      · right
        exact persists_handler? _ _ _ more rfl here

/-- A tag with a handler stays one with more behind it. -/
theorem persists_handlerTag? : Persists handlerTag? := by
  intro before other text more _ found
  unfold handlerTag? at found ⊢
  cases opened : char? '<' text with
  | none =>
      simp [opened] at found
  | some rest =>
      rw [opened, Option.bind_some] at found
      rw [char?_append opened more, Option.bind_some]
      exact isSome_lastHandler?_append found more

/-- What stands in a harmless text is harmless. -/
theorem Harmless.of_standsIn
    {whole text : Text}
    (harmless : Harmless whole)
    (stands : StandsIn whole text) :
    Harmless text := by
  have persists : ∀ recognise ∈ recognisers, Persists recognise := by
    simp only [recognisers, List.forall_mem_cons, List.not_mem_nil, false_imp_iff, implies_true,
      and_true]
    exact ⟨persists_scriptTag?, persists_scriptLink?, persists_dataLink?, persists_handlerTag?⟩
  rw [Harmless, dangerousContent?, List.findSome?_eq_none_iff] at harmless ⊢
  intro recognise member
  exact (persists recognise member).firstContent?_eq_none stands (harmless recognise member)

end Colloquy.Admission
