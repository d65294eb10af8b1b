import Colloquy.Proofs.Admission.Groups
import Mathlib.Data.List.Infix

namespace Colloquy.Admission

/-!
# The grammar of groups

Groups are checked twice. Parentheses are counted first, and then the groups are
taken one after the other. Together the two accept exactly the texts that are
written with characters other than parentheses and with groups of two or more
options. Parentheses are unbalanced exactly if counting says so: once they are
balanced, every group that is opened is closed.
-/

open Pattern

/-- The text may stand as an option: it is not blank, and nothing in it ends an option. -/
structure IsOption (option : Text) : Prop where
  notBlank : Text.allBlank option = false
  bare : Bare option
  whole : '|' ∉ option

/-- A text is written with characters other than parentheses and with groups of options. -/
inductive WithGroups : Text → Prop where
  | nothing :
      WithGroups []
  | character
      {c : Char}
      {rest : Text}
      (notOpening : c ≠ '(')
      (notClosing : c ≠ ')') :
      WithGroups rest →
      WithGroups (c :: rest)
  | group
      {options : List Text}
      {rest : Text}
      (several : 2 ≤ options.length)
      (areOptions : ∀ option ∈ options, IsOption option) :
      WithGroups rest →
      WithGroups ('(' :: (['|'].intercalate options ++ ')' :: rest))

/-! ## Options of a group -/

/-- The inside of a group is two or more options with bars between them. -/
theorem isGroupInside_iff (inside : Text) :
    isGroupInside inside = true ∧ ')' ∉ inside ↔
      ∃ options,
        2 ≤ options.length ∧
          (∀ option ∈ options, IsOption option) ∧
          inside = ['|'].intercalate options := by
  constructor
  · rintro ⟨isInside, noneClosed⟩
    simp only [isGroupInside, Bool.and_eq_true, Bool.not_eq_true', decide_eq_true_eq] at isInside
    obtain ⟨⟨noneOpened, several⟩, noneBlank⟩ := isInside
    refine ⟨inside.splitOn '|', several, ?_, ?_⟩
    · intro option isPart
      refine ⟨?_, ⟨?_, ?_⟩, Text.not_mem_of_mem_splitOn isPart⟩
      · simpa using List.any_eq_false.mp noneBlank option isPart
      · intro opening
        have inInside := (Text.isInfix_of_mem_splitOn isPart).subset opening
        simp [inInside] at noneOpened
      · intro closing
        exact noneClosed ((Text.isInfix_of_mem_splitOn isPart).subset closing)
    · rw [List.intercalate_splitOn]
  · rintro ⟨options, several, areOptions, rfl⟩
    have nonempty : options ≠ [] := by
      rintro rfl
      simp at several
    have parts : (['|'].intercalate options).splitOn '|' = options :=
      List.splitOn_intercalate '|' (fun option member => (areOptions option member).whole) nonempty
    have bare : Bare (['|'].intercalate options) := by
      refine ⟨fun opening => ?_, fun closing => ?_⟩
      · obtain ⟨option, isPart, inOption⟩ := (Text.mem_intercalate (by decide) options).mp opening
        exact (areOptions option isPart).bare.opening inOption
      · obtain ⟨option, isPart, inOption⟩ := (Text.mem_intercalate (by decide) options).mp closing
        exact (areOptions option isPart).bare.closing inOption
    have noneBlank : options.any Text.allBlank = false := by
      rw [List.any_eq_false]
      intro option member
      simp [(areOptions option member).notBlank]
    refine ⟨?_, bare.closing⟩
    simp [isGroupInside, parts, bare.opening, several, noneBlank]

/-! ## Texts with groups -/

/-- Text without a parenthesis may stand before groups. -/
theorem withGroups_append
    {before rest : Text}
    (bare : Bare before)
    (withGroups : WithGroups rest) :
    WithGroups (before ++ rest) := by
  obtain ⟨noneOpened, noneClosed⟩ := bare
  induction before with
  | nil =>
      exact withGroups
  | cons c others inductionHypothesis =>
      simp only [List.mem_cons, not_or] at noneOpened noneClosed
      exact .character (Ne.symm noneOpened.1) (Ne.symm noneClosed.1)
        (inductionHypothesis noneOpened.2 noneClosed.2)

/-- A character other than a parenthesis stands before the first group or after all of them. -/
theorem exists_grouped_cons
    {c : Char}
    {rest : Text}
    {groups : List Group}
    (notOpening : c ≠ '(')
    (notClosing : c ≠ ')')
    (grouped : Grouped rest groups) :
    ∃ others,
      Grouped (c :: rest) others ∧
        others.map Group.inside = groups.map Group.inside := by
  have bareCons {text : Text} (bare : Bare text) : Bare (c :: text) :=
    ⟨by simp [Ne.symm notOpening, bare.opening], by simp [Ne.symm notClosing, bare.closing]⟩
  cases grouped with
  | plain bare =>
      exact ⟨[], .plain (bareCons bare), rfl⟩
  | group bareBefore bareInside later =>
      exact ⟨_, .group (bareCons bareBefore) bareInside later, rfl⟩

/-- A text is written with groups of options exactly if its parentheses make such groups. -/
theorem withGroups_iff (text : Text) :
    WithGroups text ↔
      ∃ groups, Grouped text groups ∧ ∀ group ∈ groups, isGroupInside group.inside = true := by
  constructor
  · intro withGroups
    induction withGroups with
    | nothing =>
        exact ⟨[], .plain (by decide), by simp⟩
    | character notOpening notClosing _ inductionHypothesis =>
        obtain ⟨groups, grouped, areGroups⟩ := inductionHypothesis
        obtain ⟨others, othersGrouped, sameInsides⟩ :=
          exists_grouped_cons notOpening notClosing grouped
        refine ⟨others, othersGrouped, ?_⟩
        rwa [← List.forall_mem_map (P := (isGroupInside · = true)), sameInsides,
          List.forall_mem_map]
    | @group options rest several areOptions _ inductionHypothesis =>
        obtain ⟨groups, grouped, areGroups⟩ := inductionHypothesis
        obtain ⟨isInside, noneClosed⟩ :=
          (isGroupInside_iff (['|'].intercalate options)).mpr ⟨options, several, areOptions, rfl⟩
        have bareInside : Bare (['|'].intercalate options) :=
          ⟨(isGroupInside_spec isInside).1, noneClosed⟩
        refine ⟨_, @Grouped.group [] _ _ _ (by decide) bareInside grouped, ?_⟩
        exact List.forall_mem_cons.mpr ⟨isInside, areGroups⟩
  · rintro ⟨groups, grouped, areGroups⟩
    induction grouped with
    | @plain text bare =>
        rw [← List.append_nil text]
        exact withGroups_append bare .nothing
    | group bareBefore bareInside _ inductionHypothesis =>
        obtain ⟨isInside, laterInside⟩ := List.forall_mem_cons.mp areGroups
        obtain ⟨options, several, areOptions, rfl⟩ :=
          (isGroupInside_iff _).mp ⟨isInside, bareInside.closing⟩
        exact withGroups_append bareBefore
          (.group several areOptions (inductionHypothesis laterInside))

/-! ## Counting parentheses -/

theorem openGroups?_of_grouped
    {text : Text}
    {groups : List Group}
    (grouped : Grouped text groups) :
    openGroups? 0 text = some 0 := by
  induction grouped with
  | @plain text bare =>
      rw [← List.append_nil text, openGroups?_append bare.opening bare.closing, openGroups?]
  | group bareBefore bareInside _ inductionHypothesis =>
      rw [openGroups?_group bareBefore bareInside, inductionHypothesis]

theorem exists_prefix_cons_iff
    {holds : Text → Prop}
    (c : Char)
    (rest : Text) :
    (∃ before, before <+: c :: rest ∧ holds before) ↔
      holds [] ∨ ∃ before, before <+: rest ∧ holds (c :: before) := by
  simp only [List.prefix_cons_iff, or_and_right, exists_or, ↓existsAndEq, true_and]

/-- Counting fails exactly where more is closed than was open. -/
theorem openGroups?_eq_none_iff
    (depth : Nat)
    (text : Text) :
    openGroups? depth text = none ↔
      ∃ before, before <+: text ∧ depth + before.count '(' < before.count ')' := by
  fun_induction openGroups? depth text with
  | case1 depth =>
      simp
  | case2 depth rest inductionHypothesis =>
      rw [inductionHypothesis, exists_prefix_cons_iff]
      simp [Nat.add_right_comm, Nat.add_assoc]
  | case3 rest =>
      rw [exists_prefix_cons_iff]
      simp only [true_iff]
      exact .inr ⟨[], List.nil_prefix, by decide⟩
  | case4 rest _ outer inductionHypothesis =>
      rw [inductionHypothesis, exists_prefix_cons_iff]
      simp [Nat.add_right_comm]
  | case5 depth c rest notOpening notClosing inductionHypothesis =>
      rw [inductionHypothesis, exists_prefix_cons_iff]
      simp [List.count_cons_of_ne notOpening, List.count_cons_of_ne notClosing]

/-- What is opened is closed or still open. -/
theorem count_of_openGroups?
    {depth left : Nat}
    {text : Text}
    (counted : openGroups? depth text = some left) :
    left + text.count ')' = depth + text.count '(' := by
  fun_induction openGroups? depth text with
  | case1 depth =>
      simpa using counted.symm
  | case2 depth rest inductionHypothesis =>
      have later := inductionHypothesis counted
      simp only [List.count_cons_self, List.count_cons_of_ne (by decide : '(' ≠ ')')]
      omega
  | case3 rest =>
      simp at counted
  | case4 rest _ outer inductionHypothesis =>
      have later := inductionHypothesis counted
      simp only [List.count_cons_self, List.count_cons_of_ne (by decide : ')' ≠ '(')]
      omega
  | case5 depth c rest notOpening notClosing inductionHypothesis =>
      have later := inductionHypothesis counted
      rwa [List.count_cons_of_ne notOpening, List.count_cons_of_ne notClosing]

/-- Parentheses are unbalanced if some part from the start, or the whole, lacks one kind. -/
theorem openGroups?_ne_some_zero_iff (text : Text) :
    openGroups? 0 text ≠ some 0 ↔
      (∃ before, before <+: text ∧ before.count '(' < before.count ')') ∨
        text.count '(' ≠ text.count ')' := by
  have fails := openGroups?_eq_none_iff 0 text
  simp only [Nat.zero_add] at fails
  rw [← fails]
  cases counted : openGroups? 0 text with
  | none =>
      simp
  | some left =>
      have total := count_of_openGroups? counted
      simp only [ne_eq, Option.some.injEq, reduceCtorEq, false_or]
      omega

/-! ## One group after the other -/

/-- The number of parentheses that are open, inside of a group or outside of all. -/
def depthWithin : Option Text → Nat
  | none => 0
  | some inside => inside.count '(' + 1

/--
While parentheses are balanced no group is left open. Each character keeps the number of
open parentheses in step with the group that is read.
-/
theorem checkGroupsFrom_ne_unbalanced
    (field : PatternField)
    {reading : Option Text}
    {text : Text}
    (balanced : openGroups? (depthWithin reading) text = some 0) :
    checkGroupsFrom field reading text ≠ .error (.unbalancedParentheses field) := by
  fun_induction checkGroupsFrom field reading text with
  | case1 =>
      simp
  | case2 inside =>
      simp [openGroups?, depthWithin] at balanced
  | case3 c rest inductionHypothesis =>
      apply inductionHypothesis
      split
      · next opening =>
          simpa [opening, openGroups?, depthWithin] using balanced
      · next notOpening =>
          by_cases closing : c = ')'
          · simp [closing, openGroups?, depthWithin] at balanced
          · simpa [notOpening, closing, openGroups?, depthWithin] using balanced
  | case4 inside rest isInside inductionHypothesis =>
      -- The inside of a group opens nothing, so closing it closes all that was open.
      have noneOpened : inside.count '(' = 0 := by
        simpa [List.count_eq_zero] using (isGroupInside_spec isInside).1
      apply inductionHypothesis
      simpa [openGroups?, depthWithin, noneOpened] using balanced
  | case5 inside rest notInside =>
      simp
  | case6 inside c rest notClosing inductionHypothesis =>
      apply inductionHypothesis
      by_cases opening : c = '('
      · simpa [opening, openGroups?, depthWithin] using balanced
      · simpa [opening, notClosing, openGroups?, depthWithin] using balanced

/-- Counting comes first, and only what it lets through is taken group by group. -/
theorem checkGroups_eq
    (field : PatternField)
    (pattern : Text) :
    checkGroups field pattern =
      if openGroups? 0 pattern = some 0 then
        checkGroupsFrom field none pattern
      else
        .error (.unbalancedParentheses field) := by
  unfold checkGroups require
  by_cases balanced : openGroups? 0 pattern = some 0 <;> simp [balanced, bind, Except.bind]

/--
A pattern passes exactly if it is written with groups of two or more options, none of them
blank and none with a parenthesis or a bar. Its parentheses are unbalanced exactly if some part
from the start closes more than it opens or the whole does not close as much as it opens, and
a group that is left open is never met once they are counted.
-/
theorem checkGroups_acceptsGrammar
    (field : PatternField)
    (pattern : Text) :
    (checkGroups field pattern = .ok () ↔ WithGroups pattern) ∧
      (checkGroups field pattern = .error (.unbalancedParentheses field) ↔
        (∃ before, before <+: pattern ∧ before.count '(' < before.count ')') ∨
          pattern.count '(' ≠ pattern.count ')') ∧
      ¬ (openGroups? 0 pattern = some 0 ∧
        checkGroupsFrom field none pattern = .error (.unbalancedParentheses field)) := by
  have neverOpen (balanced : openGroups? 0 pattern = some 0) :
      checkGroupsFrom field none pattern ≠ .error (.unbalancedParentheses field) :=
    checkGroupsFrom_ne_unbalanced field balanced
  refine ⟨?_, ?_, fun met => neverOpen met.1 met.2⟩
  · rw [withGroups_iff, checkGroups_eq]
    constructor
    · intro passes
      split at passes
      · next balanced =>
          obtain ⟨groups, grouped⟩ := exists_grouped balanced passes
          exact ⟨groups, grouped, (checkGroupsFrom_eq_ok_iff grouped field).mp passes⟩
      · simp at passes
    · rintro ⟨groups, grouped, areGroups⟩
      rw [if_pos (openGroups?_of_grouped grouped)]
      exact (checkGroupsFrom_eq_ok_iff grouped field).mpr areGroups
  · rw [← openGroups?_ne_some_zero_iff, checkGroups_eq]
    split
    · next balanced =>
        simp [balanced, neverOpen balanced]
    · next unbalanced =>
        simp [unbalanced]

/-- Closed before it is opened, opened twice, and with nothing to choose from. -/
example :
    checkGroups .input "HI) (THERE".toList = .error (.unbalancedParentheses .input) ∧
      checkGroups .input "((A|B)|C)".toList = .error (.badGroup .input "(A|B".toList) ∧
      checkGroups .input "(HI| )".toList = .error (.badGroup .input "HI| ".toList) := by
  decide +kernel

end Colloquy.Admission
