import Colloquy.Proofs.Text.Words

namespace Colloquy.Text

/-!
# What uppercase keeps

Uppercase changes letters only, and what it makes of a letter begins with a letter.
So blanks, punctuation and parentheses stay where they are, and a text may be taken
apart into words before it is put into uppercase or after. No small letter `t` is
left. What becomes of a letter may end with a mark that is no letter itself.
-/

/-! ## Tables -/

/-- The codes in ranges, as the bits of a number. -/
def codeBits : List (Nat × Nat) → Nat
  | [] => 0
  | range :: rest =>
      (((1 <<< (range.2 + 1 - range.1)) - 1) ||| (codeBits rest >>> range.1)) <<< range.1

/-- The bits of ranges are the codes in them. -/
theorem testBit_codeBits
    (ranges : List (Nat × Nat))
    (code : Nat) :
    (codeBits ranges).testBit code = inRanges ranges code := by
  induction ranges with
  | nil =>
      simp [codeBits, inRanges]
  | cons range rest inductionHypothesis =>
      rw [codeBits, inRanges, Nat.testBit_shiftLeft, Nat.testBit_or, Nat.one_shiftLeft,
        Nat.testBit_two_pow_sub_one, Nat.testBit_shiftRight]
      by_cases below : code < range.1
      · simp [below, Nat.not_le.mpr below]
      · have above : range.1 ≤ code := Nat.not_lt.mp below
        rw [Nat.add_sub_cancel' above, inductionHypothesis, if_neg below]
        by_cases inside : code ≤ range.2
        · have near : code - range.1 < range.2 + 1 - range.1 := by
            omega
          simp [above, inside, near]
        · have far : ¬ code - range.1 < range.2 + 1 - range.1 := by
            omega
          simp [above, inside, far]

/-- As many codes as a run covers, in its steps. -/
def CaseRun.codesFrom
    (run : CaseRun)
    (start : Nat) :
    List Nat :=
  List.range' start ((run.last - run.first) / run.step + 1) run.step

theorem CaseRun.mem_codesFrom
    {run : CaseRun}
    {code : Nat}
    (covered : run.covers code = true)
    (start : Nat) :
    start + (code - run.first) ∈ run.codesFrom start := by
  simp only [covers, Bool.and_eq_true, decide_eq_true_eq, beq_iff_eq] at covered
  obtain ⟨⟨above, below⟩, inStep⟩ := covered
  rw [codesFrom, List.mem_range']
  refine ⟨(code - run.first) / run.step, ?_, ?_⟩
  · exact Nat.lt_succ_of_le (Nat.div_le_div_right (by omega))
  · rw [Nat.mul_div_cancel' (Nat.dvd_of_mod_eq_zero inStep)]

/-- Characters that are made of no other: those that divide patterns, an apostrophe and a letter. -/
def steadyChars : List Char :=
  ['(', ')', '|', '’', 't']

/-- The tables of a case mapping take letters to letters, and to no steady character. -/
structure KeepsLetters
    (runs : List CaseRun)
    (expansions : List (Nat × List Nat)) :
    Prop where
  codes : ∀ range ∈ letterRanges, range.2 < 0xD800 ∨ 0xDFFF < range.1 ∧ range.2 < 0x110000
  sources : runs.all (fun run =>
    (run.codesFrom run.first).all (codeBits letterRanges).testBit) = true
  images : runs.all (fun run =>
    (run.codesFrom run.target).all (codeBits letterRanges).testBit) = true
  steady : ∀ run ∈ runs, ∀ code ∈ steadyChars.map Char.toNat,
    code < run.target ∨ run.target + (run.last - run.first) < code
  expanded : expansions.all (fun expansion =>
    (codeBits letterRanges).testBit expansion.1 &&
      expansion.2.head?.any (codeBits letterRanges).testBit &&
      steadyChars.all (fun d => !(expansion.2.map Char.ofNat).contains d)) = true

/-- Uppercase of a letter is a letter. -/
theorem keepsLetters_upper : KeepsLetters upperRuns upperExpansions :=
  ⟨by decide +kernel, by decide +kernel, by decide +kernel, by decide +kernel, by decide +kernel⟩

/-- Every code that a run covers is a letter. -/
theorem isLetter_of_covers
    {run : CaseRun}
    (member : run ∈ upperRuns)
    {code : Nat}
    (covered : run.covers code = true) :
    inRanges letterRanges code = true := by
  have each := List.all_eq_true.mp keepsLetters_upper.sources run member
  have isSource := CaseRun.mem_codesFrom covered run.first
  simp only [CaseRun.covers, Bool.and_eq_true, decide_eq_true_eq] at covered
  rw [Nat.add_sub_cancel' covered.1.1] at isSource
  rw [← testBit_codeBits]
  exact List.all_eq_true.mp each code isSource

/-- Every code that a run maps to is a letter. -/
theorem isLetter_image
    {run : CaseRun}
    (member : run ∈ upperRuns)
    {code : Nat}
    (covered : run.covers code = true) :
    inRanges letterRanges (run.image code) = true := by
  have each := List.all_eq_true.mp keepsLetters_upper.images run member
  rw [← testBit_codeBits]
  exact List.all_eq_true.mp each _ (CaseRun.mem_codesFrom covered run.target)

theorem toNat_ofNat_of_letter
    {code : Nat}
    (letter : inRanges letterRanges code = true) :
    (Char.ofNat code).toNat = code := by
  obtain ⟨range, member, bounds⟩ := exists_range_of_inRanges letter
  have valid : code.isValidChar := by
    have outside := keepsLetters_upper.codes range member
    simp only [Nat.isValidChar]
    omega
  exact congrArg Char.toNat (dif_pos valid)

theorem isLetter_ofNat
    {code : Nat}
    (letter : inRanges letterRanges code = true) :
    isLetter (Char.ofNat code) = true := by
  rw [isLetter, toNat_ofNat_of_letter letter, letter]

/-! ## Characters -/

/-- What uppercase changes does not become a steady character. -/
theorem ofNat_image_not_mem_steadyChars
    {run : CaseRun}
    (member : run ∈ upperRuns)
    {code : Nat}
    (covered : run.covers code = true) :
    Char.ofNat (run.image code) ∉ steadyChars := by
  intro steady
  have outside := keepsLetters_upper.steady run member _ (List.mem_map_of_mem steady)
  rw [toNat_ofNat_of_letter (isLetter_image member covered), CaseRun.image] at outside
  simp only [CaseRun.covers, Bool.and_eq_true, decide_eq_true_eq] at covered
  omega

/-- Uppercase leaves a character as it is, or makes of a letter what begins with one. -/
theorem upperChar_cases (c : Char) :
    upperChar c = [c] ∨
      isLetter c = true ∧
        (∃ first rest, upperChar c = first :: rest ∧ isLetter first = true) ∧
        ∀ d ∈ steadyChars, d ∉ upperChar c := by
  unfold upperChar
  split
  · next codes found =>
      have here :=
        List.all_eq_true.mp keepsLetters_upper.expanded _ (mem_of_expansionOf? found)
      simp only [Bool.and_eq_true, List.all_eq_true, Bool.not_eq_true', List.contains_eq_mem,
        decide_eq_false_iff_not] at here
      obtain ⟨⟨fromLetter, toLetter⟩, steady⟩ := here
      refine .inr ⟨(testBit_codeBits _ _).symm.trans fromLetter, ?_, steady⟩
      cases codes with
      | nil =>
          simp at toLetter
      | cons first others =>
          exact ⟨_, _, rfl, isLetter_ofNat ((testBit_codeBits _ _).symm.trans toLetter)⟩
  · rcases mapAlong_eq_or upperRuns c.toNat with fixed | ⟨run, member, covered, mapped⟩
    · left
      rw [fixed, Char.ofNat_toNat]
    · right
      rw [mapped]
      refine ⟨isLetter_of_covers member covered,
        ⟨_, _, rfl, isLetter_ofNat (isLetter_image member covered)⟩, ?_⟩
      intro d steady isImage
      rw [List.mem_singleton.mp isImage] at steady
      exact ofNat_image_not_mem_steadyChars member covered steady

theorem isLetter_eq_false
    {c : Char}
    (edge : isAlphanumeric c = false) :
    isLetter c = false := by
  simp only [isAlphanumeric, Bool.or_eq_false_iff] at edge
  exact edge.1

/-- What is no letter and no numeral stays as it is. -/
theorem upperChar_of_isAlphanumeric_eq_false
    {c : Char}
    (edge : isAlphanumeric c = false) :
    upperChar c = [c] := by
  rcases upperChar_cases c with fixed | ⟨letter, -, -⟩
  · exact fixed
  · rw [isLetter_eq_false edge] at letter
    exact absurd letter Bool.false_ne_true

/-- What a letter or numeral becomes begins with one. -/
theorem exists_upperChar_eq_cons
    {c : Char}
    (alphanumeric : isAlphanumeric c = true) :
    ∃ first rest, upperChar c = first :: rest ∧ isAlphanumeric first = true := by
  rcases upperChar_cases c with fixed | ⟨-, ⟨first, rest, isImage, letter⟩, -⟩
  · exact ⟨c, [], fixed, alphanumeric⟩
  · exact ⟨first, rest, isImage, by simp [isAlphanumeric, letter]⟩

theorem upperChar_ne_nil (c : Char) : upperChar c ≠ [] := by
  rcases upperChar_cases c with fixed | ⟨-, ⟨first, rest, isImage, -⟩, -⟩
  · simp [fixed]
  · simp [isImage]

/-- A blank has no uppercase form but itself. -/
theorem upperChar_of_isBlank
    {c : Char}
    (blank : isBlank c = true) :
    upperChar c = [c] :=
  upperChar_of_isAlphanumeric_eq_false (isAlphanumeric_eq_false_of_isBlank blank)

/-- A steady character is the uppercase form of itself only. -/
theorem eq_of_mem_upperChar
    {c d : Char}
    (steady : d ∈ steadyChars)
    (member : d ∈ upperChar c) :
    d = c := by
  rcases upperChar_cases c with fixed | ⟨-, -, avoids⟩
  · rw [fixed] at member
    exact List.mem_singleton.mp member
  · exact absurd member (avoids d steady)

/-! ## Texts -/

theorem upper_append
    (first second : Text) :
    upper (first ++ second) = upper first ++ upper second :=
  List.flatMap_append

theorem upper_cons
    (c : Char)
    (rest : Text) :
    upper (c :: rest) = upperChar c ++ upper rest :=
  List.flatMap_cons

/-- Uppercase leaves a text without letters and numerals. -/
theorem upper_of_silent
    {text : Text}
    (silent : Silent text) :
    upper text = text := by
  induction text with
  | nil =>
      rfl
  | cons c rest inductionHypothesis =>
      obtain ⟨edge, restSilent⟩ := List.forall_mem_cons.mp silent
      rw [upper_cons, upperChar_of_isAlphanumeric_eq_false edge, inductionHypothesis restSilent]
      rfl

theorem upper_eq_nil_iff (text : Text) :
    upper text = [] ↔ text = [] := by
  constructor
  · intro empty
    cases text with
    | nil =>
        rfl
    | cons c rest =>
        rw [upper_cons, List.append_eq_nil_iff] at empty
        exact absurd empty.1 (upperChar_ne_nil c)
  · rintro rfl
    rfl

/-- Uppercase is silent exactly if the text is. -/
theorem silent_upper_iff (text : Text) :
    Silent (upper text) ↔ Silent text := by
  constructor
  · intro silent c member
    cases alphanumeric : isAlphanumeric c with
    | false =>
        rfl
    | true =>
        obtain ⟨first, others, isImage, begins⟩ := exists_upperChar_eq_cons alphanumeric
        have inImage : first ∈ upper text :=
          List.mem_flatMap.mpr ⟨c, member, by simp [isImage]⟩
        rw [← begins, silent first inImage]
  · intro silent
    rwa [upper_of_silent silent]

/-- Texts with the same uppercase are both silent or neither. -/
theorem silent_iff_of_upper_eq
    {first second : Text}
    (same : upper first = upper second) :
    Silent first ↔ Silent second := by
  rw [← silent_upper_iff, same, silent_upper_iff]

/-- A steady character of the uppercase form stands in the text. -/
theorem mem_of_mem_upper
    {d : Char}
    (steady : d ∈ steadyChars)
    {text : Text}
    (member : d ∈ upper text) :
    d ∈ text := by
  obtain ⟨c, inText, isImage⟩ := List.mem_flatMap.mp member
  rwa [eq_of_mem_upperChar steady isImage]

/-- A steady character that begins the uppercase form begins the text. -/
theorem head?_of_head?_upper
    {d : Char}
    (steady : d ∈ steadyChars)
    {text : Text}
    (begins : (upper text).head? = some d) :
    text.head? = some d := by
  cases text with
  | nil =>
      exact begins
  | cons c rest =>
      obtain ⟨first, others, isImage⟩ := List.exists_cons_of_ne_nil (upperChar_ne_nil c)
      rw [upper_cons, isImage] at begins
      obtain rfl : first = d := Option.some.inj begins
      rw [eq_of_mem_upperChar steady (isImage ▸ List.mem_cons_self)]
      rfl

/-- No small letter `t` is left. -/
theorem t_not_mem_upper (text : Text) : 't' ∉ upper text := by
  intro member
  obtain ⟨c, -, isImage⟩ := List.mem_flatMap.mp member
  obtain rfl := eq_of_mem_upperChar (by decide) isImage
  revert isImage
  decide +kernel

/-- A text that begins with a blank character, if with any, still does in uppercase. -/
theorem head?_upper_isBlank
    {text : Text}
    (begins : ∀ c ∈ text.head?, isBlank c = true) :
    ∀ c ∈ (upper text).head?, isBlank c = true := by
  cases text with
  | nil =>
      exact begins
  | cons c rest =>
      have blank : isBlank c = true := begins c rfl
      rw [upper_cons, upperChar_of_isBlank blank]
      exact begins

/-- The words of a text in uppercase are its words, each in uppercase. -/
theorem words_upper (text : Text) :
    words (upper text) = (words text).map upper := by
  obtain ⟨visible, rest, isText, bare, begins⟩ := exists_eq_visible_append text
  cases visible with
  | nil =>
      cases rest with
      | nil =>
          rw [isText]
          rfl
      | cons c later =>
          have blank : isBlank c = true := begins c rfl
          have shorter : later.length < text.length := by simp [isText]
          rw [isText, List.nil_append, upper_cons, upperChar_of_isBlank blank,
            List.singleton_append, words_cons_of_isBlank blank, words_cons_of_isBlank blank,
            words_upper later]
  | cons c others =>
      have isWord : IsWord (c :: others) := ⟨List.cons_ne_nil c others, bare⟩
      have shorter : rest.length < text.length := by
        simp only [isText, List.length_append, List.length_cons]
        omega
      rw [isText, upper_append, words_append _ (head?_upper_isBlank begins),
        words_append _ begins, words_of_isWord isWord, words_of_isWord isWord.upper,
        words_upper rest, List.map_append]
      rfl
termination_by text.length

end Colloquy.Text
