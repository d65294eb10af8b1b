import Colloquy.Text.Basic
import Mathlib.Data.List.TakeWhile

namespace Colloquy.Text

/-!
# Where texts are cut

Positions in a text may be counted in bytes, and then not every position lies
between two characters. A cut at a position inside a character fails. What is found
by searching, from the start or from the end, always lies between characters.
-/

/-! ## Cuts at byte positions -/

theorem byteLength_append
    (first second : Text) :
    byteLength (first ++ second) = byteLength first + byteLength second := by
  induction first with
  | nil =>
      simp [byteLength]
  | cons c rest inductionHypothesis =>
      simp [byteLength, inductionHypothesis, Nat.add_assoc]

theorem byteLength_pos
    {text : Text}
    (nonempty : text ≠ []) :
    0 < byteLength text := by
  obtain ⟨c, rest, rfl⟩ := List.exists_cons_of_ne_nil nonempty
  exact Nat.add_pos_left c.utf8Size_pos _

/-- What stands before and behind a byte position, unless it lies inside a character. -/
def cutAt?
    (position : Nat) :
    Text →
    Option (Text × Text)
  | [] =>
      if position = 0 then some ([], []) else none
  | c :: rest =>
      if position = 0 then
        some ([], c :: rest)
      else if c.utf8Size ≤ position then
        (cutAt? (position - c.utf8Size) rest).map fun (before, after) => (c :: before, after)
      else
        none

/-- The part of a text between two byte positions, unless one of them lies inside a character. -/
def slice?
    (text : Text)
    (start stop : Nat) :
    Option Text := do
  let (before, _) ← cutAt? stop text
  let (_, part) ← cutAt? start before
  return part

/-- A cut behind a beginning gives the beginning and the rest. -/
theorem cutAt?_byteLength (before after : Text) :
    cutAt? (byteLength before) (before ++ after) = some (before, after) := by
  induction before with
  | nil =>
      cases after <;> simp [cutAt?, byteLength]
  | cons c rest inductionHypothesis =>
      have wide : c.utf8Size ≠ 0 := Nat.ne_of_gt c.utf8Size_pos
      simp [cutAt?, byteLength, wide, inductionHypothesis]

/-- The part between what stands before it and what stands behind it. -/
theorem slice?_append (before part after : Text) :
    slice? (before ++ (part ++ after)) (byteLength before) (byteLength (before ++ part)) =
      some part := by
  rw [← List.append_assoc, slice?, cutAt?_byteLength]
  simp [cutAt?_byteLength]

/-- A slice from the start to the end of a beginning is the beginning. -/
theorem slice?_start (part after : Text) :
    slice? (part ++ after) 0 (byteLength part) = some part :=
  slice?_append [] part after

/-- A slice from the end of a beginning is the rest. -/
theorem slice?_end (before part : Text) :
    slice? (before ++ part) (byteLength before) (byteLength (before ++ part)) = some part := by
  simpa using slice?_append before part []

theorem slice?_takeWhile
    (test : Char → Bool)
    (text : Text) :
    slice? text 0 (byteLength (text.takeWhile test)) = some (text.takeWhile test) := by
  have cut := slice?_start (text.takeWhile test) (text.dropWhile test)
  rwa [List.takeWhile_append_dropWhile] at cut

theorem slice?_dropWhile
    (test : Char → Bool)
    (text : Text) :
    slice? text (byteLength (text.takeWhile test)) (byteLength text) =
      some (text.dropWhile test) := by
  have cut := slice?_end (text.takeWhile test) (text.dropWhile test)
  rwa [List.takeWhile_append_dropWhile] at cut

/-! ## Searches -/

/-- The byte position of the first character that satisfies the test. -/
def firstAt? (test : Char → Bool) : Text → Option Nat
  | [] => none
  | c :: rest => if test c then some 0 else (firstAt? test rest).map (c.utf8Size + ·)

/-- The byte position of the last character that satisfies the test. -/
def lastAt? (test : Char → Bool) : Text → Option Nat
  | [] => none
  | c :: rest =>
      match lastAt? test rest with
      | some position => some (c.utf8Size + position)
      | none => if test c then some 0 else none

variable
  {test : Char → Bool}

theorem firstAt?_eq_none
    {text : Text}
    (fails : ∀ c ∈ text, test c = false) :
    firstAt? test text = none := by
  induction text with
  | nil =>
      rfl
  | cons c rest inductionHypothesis =>
      obtain ⟨cFails, restFails⟩ := List.forall_mem_cons.mp fails
      simp [firstAt?, cFails, inductionHypothesis restFails]

/-- The first character that passes is found behind those that fail. -/
theorem firstAt?_append_cons
    {before : Text}
    (fails : ∀ c ∈ before, test c = false)
    {c : Char}
    (passes : test c = true)
    (after : Text) :
    firstAt? test (before ++ c :: after) = some (byteLength before) := by
  induction before with
  | nil =>
      simp [firstAt?, passes, byteLength]
  | cons first rest inductionHypothesis =>
      obtain ⟨firstFails, restFails⟩ := List.forall_mem_cons.mp fails
      simp [firstAt?, firstFails, inductionHypothesis restFails, byteLength]

/-- The position at which the test passes first, or the end. -/
theorem getD_firstAt?_append
    {before after : Text}
    (fails : ∀ c ∈ before, test c = false)
    (passes : ∀ c ∈ after.head?, test c = true) :
    (firstAt? test (before ++ after)).getD (byteLength (before ++ after)) = byteLength before := by
  cases after with
  | nil =>
      rw [List.append_nil, firstAt?_eq_none fails, Option.getD_none]
  | cons c rest =>
      rw [firstAt?_append_cons fails (passes c rfl), Option.getD_some]

/-- The place of the first character that passes, or else the end, ends those that fail. -/
theorem getD_firstAt?
    (test : Char → Bool)
    (text : Text) :
    (firstAt? test text).getD (byteLength text) =
      byteLength (text.takeWhile fun c => !test c) := by
  have fails : ∀ c ∈ text.takeWhile (fun c => !test c), test c = false := by
    intro c member
    simpa using List.mem_takeWhile_imp member
  have passes : ∀ c ∈ (text.dropWhile fun c => !test c).head?, test c = true := by
    intro c isHead
    have stops := List.head?_dropWhile_not (fun c => !test c) text
    rw [Option.mem_def] at isHead
    simpa [isHead] using stops
  have found := getD_firstAt?_append fails passes
  rwa [List.takeWhile_append_dropWhile] at found

theorem lastAt?_eq_none
    {text : Text}
    (fails : ∀ c ∈ text, test c = false) :
    lastAt? test text = none := by
  induction text with
  | nil =>
      rfl
  | cons c rest inductionHypothesis =>
      obtain ⟨cFails, restFails⟩ := List.forall_mem_cons.mp fails
      simp [lastAt?, cFails, inductionHypothesis restFails]

/-- The last character that passes is found before those that fail. -/
theorem lastAt?_append_cons
    (before : Text)
    {c : Char}
    (passes : test c = true)
    {after : Text}
    (fails : ∀ d ∈ after, test d = false) :
    lastAt? test (before ++ c :: after) = some (byteLength before) := by
  induction before with
  | nil =>
      simp [lastAt?, passes, lastAt?_eq_none fails, byteLength]
  | cons first rest inductionHypothesis =>
      simp [lastAt?, inductionHypothesis, byteLength]

/-- A mark whose first character stands nowhere before it is found. -/
theorem breakAt?_of_not_mem
    {c : Char}
    {before : Text}
    (noneBefore : c ∉ before)
    (mark after : Text) :
    breakAt? (c :: mark) (before ++ (c :: mark ++ after)) = some (before, after) := by
  induction before with
  | nil =>
      simp [breakAt?]
  | cons first rest inductionHypothesis =>
      simp only [List.mem_cons, not_or] at noneBefore
      simp only [List.cons_append] at inductionHypothesis ⊢
      simp [breakAt?, noneBefore.1, inductionHypothesis noneBefore.2]

/-! ## Ends -/

/-- A text is what is left of it and what was dropped at the end. -/
theorem dropEndWhile_append_takeEndWhile (test : Char → Bool) (text : Text) :
    dropEndWhile test text ++ takeEndWhile test text = text := by
  rw [dropEndWhile, takeEndWhile, ← List.reverse_append, List.takeWhile_append_dropWhile,
    List.reverse_reverse]

theorem of_mem_takeEndWhile
    {text : Text}
    {c : Char}
    (member : c ∈ takeEndWhile test text) :
    test c = true :=
  List.mem_takeWhile_imp (List.mem_reverse.mp member)

/-- Dropping characters at the end stops at the last one that fails the test. -/
theorem dropEndWhile_append_cons
    (front : Text)
    {last : Char}
    (fails : test last = false)
    {tail : Text}
    (passes : ∀ c ∈ tail, test c = true) :
    dropEndWhile test (front ++ last :: tail) = front ++ [last] := by
  have passesReversed : ∀ c ∈ tail.reverse, test c = true := by
    simpa using passes
  simp [dropEndWhile, List.dropWhile_append_of_pos passesReversed, fails]

/-- A text without the characters at both ends that satisfy the test. -/
def strip
    (test : Char → Bool)
    (text : Text) :
    Text :=
  dropEndWhile test (text.dropWhile test)

/-- A text is what is left of it with what was dropped on both sides. -/
theorem exists_eq_append_strip (test : Char → Bool) (text : Text) :
    ∃ before after,
      text = before ++ (strip test text ++ after) ∧
        (∀ c ∈ before, test c = true) ∧
        ∀ c ∈ after, test c = true := by
  refine ⟨text.takeWhile test, takeEndWhile test (text.dropWhile test), ?_,
    fun _ => List.mem_takeWhile_imp, fun _ => of_mem_takeEndWhile⟩
  rw [strip, dropEndWhile_append_takeEndWhile, List.takeWhile_append_dropWhile]

theorem mem_of_mem_strip
    {text : Text}
    {c : Char}
    (member : c ∈ strip test text) :
    c ∈ text := by
  obtain ⟨before, after, isText, -⟩ := exists_eq_append_strip test text
  rw [isText]
  exact List.mem_append_right before (List.mem_append_left after member)

/-- Nothing is left exactly if all characters satisfy the test. -/
theorem strip_eq_nil_iff (test : Char → Bool) (text : Text) :
    strip test text = [] ↔ ∀ c ∈ text, test c = true := by
  constructor
  · intro empty
    obtain ⟨before, after, isText, passesBefore, passesAfter⟩ := exists_eq_append_strip test text
    rw [empty, List.nil_append] at isText
    rw [isText]
    exact List.forall_mem_append.mpr ⟨passesBefore, passesAfter⟩
  · intro passes
    rw [strip, List.dropWhile_eq_nil_iff.mpr passes]
    rfl

/-- What is left begins with a character that fails the test. -/
theorem fails_of_strip_eq_cons
    {text : Text}
    {c : Char}
    {rest : Text}
    (isLeft : strip test text = c :: rest) :
    test c = false := by
  have whole := dropEndWhile_append_takeEndWhile test (text.dropWhile test)
  rw [← strip, isLeft] at whole
  have starts := List.head?_dropWhile_not test text
  rw [← whole] at starts
  simpa using starts

/-- What is left ends with a character that fails the test. -/
theorem fails_of_strip_eq_append
    {text : Text}
    {front : Text}
    {last : Char}
    (isLeft : strip test text = front ++ [last]) :
    test last = false := by
  rw [strip, dropEndWhile, List.reverse_eq_iff, List.reverse_append] at isLeft
  have ends := List.head?_dropWhile_not test (text.dropWhile test).reverse
  simpa [isLeft] using ends

/-- Nothing is dropped from a text whose first and last characters fail the test. -/
theorem strip_eq_self
    {first last : Char}
    {rest front : Text}
    (same : first :: rest = front ++ [last])
    (firstFails : test first = false)
    (lastFails : test last = false) :
    strip test (first :: rest) = first :: rest := by
  rw [strip, List.dropWhile_cons_of_neg (by simp [firstFails]), same]
  exact dropEndWhile_append_cons front lastFails (List.forall_mem_nil _)

/-! ## Parts between separators -/

section Parts

variable
  {separator : Char}

/-- What is no separator stands in one of the parts that separators join. -/
theorem mem_intercalate
    {c : Char}
    (different : c ≠ separator)
    (parts : List Text) :
    c ∈ [separator].intercalate parts ↔ ∃ part ∈ parts, c ∈ part := by
  induction parts with
  | nil =>
      simp
  | cons first rest inductionHypothesis =>
      by_cases isLast : rest = []
      · simp [isLast]
      · rw [List.intercalate_cons_of_ne_nil isLast]
        simp [inductionHypothesis, different]

/-- A part stands in what separators join. -/
theorem isInfix_intercalate
    {part : Text}
    {parts : List Text}
    (isPart : part ∈ parts) :
    part <:+: [separator].intercalate parts := by
  induction parts with
  | nil =>
      simp at isPart
  | cons first rest inductionHypothesis =>
      by_cases isLast : rest = []
      · simp_all
      · rw [List.intercalate_cons_of_ne_nil isLast, List.append_assoc]
        rcases List.mem_cons.mp isPart with rfl | isLater
        · exact (List.prefix_append part _).isInfix
        · exact (inductionHypothesis isLater).trans
            (List.suffix_append_of_suffix (List.suffix_append _ _)).isInfix

/-- What is no separator stands in one of the parts between them. -/
theorem mem_splitOn
    {c : Char}
    (different : c ≠ separator)
    (text : Text) :
    c ∈ text ↔ ∃ part ∈ text.splitOn separator, c ∈ part := by
  rw [← mem_intercalate different, List.intercalate_splitOn]

/-- A part between separators stands in the text. -/
theorem isInfix_of_mem_splitOn
    {text part : Text}
    (isPart : part ∈ text.splitOn separator) :
    part <:+: text := by
  have inParts : part <:+: [separator].intercalate (text.splitOn separator) :=
    isInfix_intercalate isPart
  rwa [List.intercalate_splitOn] at inParts

/-- A separator stands in none of the parts. -/
theorem not_mem_of_mem_splitOn
    {text part : Text}
    (isPart : part ∈ text.splitOn separator) :
    separator ∉ part := by
  by_cases divided : separator ∈ text
  · obtain ⟨before, after, isText, noneBefore⟩ := List.eq_append_cons_of_mem divided
    have shorter : after.length < text.length := by
      simp only [isText, List.length_append, List.length_cons]
      omega
    rw [isText, List.splitOn_append_cons_self_of_not_mem noneBefore, List.mem_cons] at isPart
    rcases isPart with rfl | isLater
    · exact noneBefore
    · exact not_mem_of_mem_splitOn isLater
  · rw [List.splitOn_eq_singleton divided, List.mem_singleton] at isPart
    rwa [isPart]
termination_by text.length

end Parts

end Colloquy.Text
