import Colloquy.Proofs.Admission.Admitted
import Colloquy.Proofs.Pattern.Grouping

namespace Colloquy.Admission

/-!
# Groups of admitted patterns

Admission looks for groups wherever there is a parenthesis and takes every option
that is not blank. Matching sees a group only where a token begins, and only the
options with a letter or numeral. An admitted pattern is read with all its groups
and options exactly if nothing of either kind is overlooked.
-/

open Pattern

/-- Checking goes from one group to the next. -/
theorem checkGroupsFrom_inside
    {inside : Text}
    (noneClosed : ')' ∉ inside)
    (field : PatternField)
    (read rest : Text) :
    checkGroupsFrom field (some read) (inside ++ ')' :: rest) =
      if isGroupInside (read.reverse ++ inside) then
        checkGroupsFrom field none rest
      else
        .error (.badGroup field (read.reverse ++ inside)) := by
  induction inside generalizing read with
  | nil =>
      simp [checkGroupsFrom]
  | cons c others inductionHypothesis =>
      simp only [List.mem_cons, not_or] at noneClosed
      rw [List.cons_append, checkGroupsFrom, if_neg (Ne.symm noneClosed.1),
        inductionHypothesis noneClosed.2]
      simp

/-- The groups of a text are checked one after the other. -/
theorem checkGroupsFrom_group
    {before inside : Text}
    (noneOpened : '(' ∉ before)
    (noneClosed : ')' ∉ inside)
    (field : PatternField)
    (rest : Text) :
    checkGroupsFrom field none (before ++ '(' :: (inside ++ ')' :: rest)) =
      if isGroupInside inside then
        checkGroupsFrom field none rest
      else
        .error (.badGroup field inside) := by
  rw [checkGroupsFrom_append noneOpened, checkGroupsFrom, if_pos rfl,
    checkGroupsFrom_inside noneClosed]
  rfl

/-- A group is never left open. -/
theorem checkGroupsFrom_unclosed
    {inside : Text}
    (unclosed : ')' ∉ inside)
    (field : PatternField)
    (read : Text) :
    checkGroupsFrom field (some read) inside ≠ .ok () := by
  induction inside generalizing read with
  | nil =>
      simp [checkGroupsFrom]
  | cons c others inductionHypothesis =>
      simp only [List.mem_cons, not_or] at unclosed
      rw [checkGroupsFrom, if_neg (Ne.symm unclosed.1)]
      exact inductionHypothesis unclosed.2 _

/-- A parenthesis is not closed before one is opened. -/
theorem not_mem_of_openGroups?
    {before after : Text}
    {depth : Nat}
    (noneOpened : '(' ∉ before)
    (balanced : openGroups? 0 (before ++ after) = some depth) :
    ')' ∉ before := by
  intro closed
  obtain ⟨earlier, later, rfl, noneClosed⟩ := List.eq_append_cons_of_mem closed
  have noneEarlier : '(' ∉ earlier := by
    intro opening
    exact noneOpened (by simp [opening])
  rw [List.append_assoc, openGroups?_append noneEarlier noneClosed] at balanced
  simp [openGroups?] at balanced

/-- A group that is closed changes nothing of the number of those that are open. -/
theorem openGroups?_group
    {before inside : Text}
    (bareBefore : Bare before)
    (bareInside : Bare inside)
    (depth : Nat)
    (rest : Text) :
    openGroups? depth (before ++ '(' :: (inside ++ ')' :: rest)) = openGroups? depth rest := by
  have opens : openGroups? depth ('(' :: (inside ++ ')' :: rest)) =
      openGroups? (depth + 1) (inside ++ ')' :: rest) := by
    simp [openGroups?]
  rw [openGroups?_append bareBefore.opening bareBefore.closing, opens,
    openGroups?_append bareInside.opening bareInside.closing]
  rfl

/-- What passes as the inside of a group has two or more options and opens no group. -/
theorem isGroupInside_spec
    {inside : Text}
    (isInside : isGroupInside inside = true) :
    '(' ∉ inside ∧ 2 ≤ (inside.splitOn '|').length := by
  simp only [isGroupInside, Bool.and_eq_true, decide_eq_true_eq] at isInside
  exact ⟨by simpa using isInside.1.1, isInside.1.2⟩

/-- The parentheses of a text that passes make groups. -/
theorem exists_grouped
    {field : PatternField}
    {text : Text}
    (balanced : openGroups? 0 text = some 0)
    (passes : checkGroupsFrom field none text = .ok ()) :
    ∃ groups, Grouped text groups := by
  by_cases opened : '(' ∈ text
  · obtain ⟨before, after, rfl, noneOpened⟩ := List.eq_append_cons_of_mem opened
    have noneClosed := not_mem_of_openGroups? noneOpened balanced
    have closed : ')' ∈ after := by
      by_contra unclosed
      rw [checkGroupsFrom_append noneOpened, checkGroupsFrom, if_pos rfl] at passes
      exact checkGroupsFrom_unclosed unclosed field [] passes
    obtain ⟨inside, rest, rfl, insideUnclosed⟩ := List.eq_append_cons_of_mem closed
    rw [checkGroupsFrom_group noneOpened insideUnclosed] at passes
    split at passes
    · next isInside =>
        have insideUnopened := (isGroupInside_spec isInside).1
        have restBalanced : openGroups? 0 rest = some 0 := by
          rwa [openGroups?_group ⟨noneOpened, noneClosed⟩ ⟨insideUnopened, insideUnclosed⟩]
            at balanced
        obtain ⟨groups, grouped⟩ := exists_grouped restBalanced passes
        exact ⟨_, .group ⟨noneOpened, noneClosed⟩ ⟨insideUnopened, insideUnclosed⟩ grouped⟩
    · simp at passes
  · have noneClosed : ')' ∉ text := by
      rw [← List.append_nil text] at balanced
      exact not_mem_of_openGroups? opened balanced
    exact ⟨[], .plain ⟨opened, noneClosed⟩⟩
termination_by text.length

/-- A text passes exactly if each of its groups does. -/
theorem checkGroupsFrom_eq_ok_iff
    {text : Text}
    {groups : List Group}
    (grouped : Grouped text groups)
    (field : PatternField) :
    checkGroupsFrom field none text = .ok () ↔
      ∀ group ∈ groups, isGroupInside group.inside = true := by
  induction grouped with
  | @plain text bare =>
      have passes := checkGroupsFrom_append bare.opening field []
      rw [List.append_nil, checkGroupsFrom] at passes
      simp [passes]
  | group bareBefore bareInside _ inductionHypothesis =>
      rw [checkGroupsFrom_group bareBefore.opening bareInside.closing, List.forall_mem_cons]
      split
      · next isInside =>
          simp [isInside, inductionHypothesis]
      · next isNot =>
          simp [isNot]

/--
The parentheses of an admitted pattern make groups. Matching sees each of them with
all its options, and so with two or more, exactly if each stands where a token begins
and every option has a letter or a numeral.
-/
theorem validate_readsGroups_iff
    {category : Category}
    {limits : LearningLimits}
    (admitted : validate category limits = .ok ()) :
    ∀ pattern ∈ category.patterns,
      (∃ groups, Grouped pattern groups) ∧
        ∀ groups, Grouped pattern groups →
          (List.Forall₂ Group.IsReadAs groups (groupOptions (compile pattern).tokens) ↔
            ∀ group ∈ groups, group.BeginsToken ∧ group.Speaks) := by
  intro pattern member
  have fits := (fits_of_validate admitted).1 pattern member
  obtain ⟨field, passes⟩ := fits.groups
  refine ⟨exists_grouped fits.balanced passes, ?_⟩
  intro groups grouped
  have areGroups := (checkGroupsFrom_eq_ok_iff grouped field).mp passes
  refine grouped.forall₂_isReadAs_iff ?_
  intro group isGroup
  exact (isGroupInside_spec (areGroups group isGroup)).2

/-- Groups with blank characters, a group or nothing before them are read. -/
theorem validate_readsGroups_iff_apart :
    let category := Category.plain "(A|B C)(D|E) F (G!|?H)".toList "x".toList
    let groups : List Group :=
      [⟨[], "A|B C".toList⟩, ⟨[], "D|E".toList⟩, ⟨" F ".toList, "G!|?H".toList⟩]
    validate category {} = .ok () ∧
      Grouped category.pattern groups ∧
      List.Forall₂ Group.IsReadAs groups (groupOptions (compile category.pattern).tokens) := by
  intro category groups
  have admitted : validate category {} = .ok () := by
    decide +kernel
  have grouped : Grouped category.pattern groups :=
    @Grouped.group [] "A|B C".toList "(D|E) F (G!|?H)".toList _ (by decide) (by decide) <|
      @Grouped.group [] "D|E".toList " F (G!|?H)".toList _ (by decide) (by decide) <|
        @Grouped.group " F ".toList "G!|?H".toList [] _ (by decide) (by decide) <|
          .plain (by decide)
  have read := (validate_readsGroups_iff admitted category.pattern List.mem_cons_self).2
  refine ⟨admitted, grouped, (read groups grouped).mpr ?_⟩
  decide +kernel

/-- An option of bare punctuation is lost, and so is a group in the middle of a word. -/
theorem validate_readsGroups_lost :
    (validate (.plain "(A|?)".toList "x".toList) {} = .ok () ∧
        Grouped "(A|?)".toList [⟨[], "A|?".toList⟩] ∧
        ¬ List.Forall₂ Group.IsReadAs [⟨[], "A|?".toList⟩]
          (groupOptions (compile "(A|?)".toList).tokens)) ∧
      (validate (.plain "A(B|C)".toList "x".toList) {} = .ok () ∧
        Grouped "A(B|C)".toList [⟨"A".toList, "B|C".toList⟩] ∧
        groupOptions (compile "A(B|C)".toList).tokens = []) := by
  have oneOption : groupOptions (compile "(A|?)".toList).tokens = [[["A".toList]]] := by
    decide +kernel
  refine ⟨⟨by decide +kernel, ?_, ?_⟩, by decide +kernel, ?_, by decide +kernel⟩
  · exact @Grouped.group [] "A|?".toList [] [] (by decide) (by decide) (.plain (by decide))
  · rw [oneOption, List.forall₂_cons]
    rintro ⟨⟨-, several⟩, -⟩
    exact absurd several (by decide)
  · exact @Grouped.group "A".toList "B|C".toList [] [] (by decide) (by decide) (.plain (by decide))

end Colloquy.Admission
