import Colloquy.Proofs.Pattern.Layout
import Mathlib.Data.List.Forall2

namespace Colloquy.Pattern

/-!
# Groups as they are written

The parentheses of a text make groups if they come in pairs with none inside of
another. Reading sees a group only where a token begins, that is behind a blank
character or another group. Anywhere else the parenthesis belongs to a word, and
the group is lost with it. Of a group that is seen, the options without a letter
or numeral are lost.
-/

/-- What stands between two parentheses, and what stands before them since the last group. -/
structure Group where
  before : Text
  inside : Text
  deriving DecidableEq, Repr

namespace Group

/-- The options as they are written. -/
def parts (group : Group) : List Text :=
  group.inside.splitOn '|'

/-- The group stands where a token begins. -/
def BeginsToken (group : Group) : Prop :=
  ∀ c ∈ group.before.getLast?, Text.isBlank c = true

/-- Every option has a letter or a numeral. -/
def Speaks (group : Group) : Prop :=
  ∀ part ∈ group.parts, ∃ c ∈ part, Text.isAlphanumeric c = true

-- The characters of a text are few, those of the type are many.
instance (group : Group) : Decidable group.BeginsToken :=
  decidable_of_iff (group.before.getLast?.all Text.isBlank = true) (by simp [BeginsToken, Option.all_eq_true])

instance (group : Group) : Decidable group.Speaks :=
  decidable_of_iff (group.parts.all (List.any · Text.isAlphanumeric) = true) (by simp [Speaks])

/-- The options stand for the parts of the group, and there is a choice between them. -/
structure IsReadAs
    (group : Group)
    (options : List (List Text)) :
    Prop where
  all : options.length = group.parts.length
  several : 2 ≤ options.length

end Group

/-- There is no parenthesis in the text. -/
structure Bare (text : Text) : Prop where
  opening : '(' ∉ text
  closing : ')' ∉ text

instance (text : Text) : Decidable (Bare text) :=
  decidable_of_iff ('(' ∉ text ∧ ')' ∉ text)
    ⟨fun neither => ⟨neither.1, neither.2⟩, fun bare => ⟨bare.opening, bare.closing⟩⟩

/-- The parentheses of a text make these groups. -/
inductive Grouped : Text → List Group → Prop where
  | plain
      {text : Text}
      (bare : Bare text) :
      Grouped text []
  | group
      {before inside rest : Text}
      {groups : List Group}
      (bareBefore : Bare before)
      (bareInside : Bare inside) :
      Grouped rest groups →
      Grouped (before ++ '(' :: (inside ++ ')' :: rest)) (⟨before, inside⟩ :: groups)

/-- The options of a group token. -/
def Token.options? : Token → Option (List (List Text))
  | .group options => some options
  | _ => none

/-- The options of the groups among tokens. -/
def groupOptions (tokens : List Token) : List (List (List Text)) :=
  tokens.filterMap Token.options?

@[simp]
theorem groupOptions_append (before after : List Token) :
    groupOptions (before ++ after) = groupOptions before ++ groupOptions after :=
  List.filterMap_append

@[simp]
theorem groupOptions_wordToken? (word : Text) :
    groupOptions (wordToken? word).toList = [] := by
  unfold wordToken?
  cases Wildcard.ofWord? word with
  | some kind =>
      rfl
  | none =>
      cases normalWord? word <;> rfl

/-! ## The token of a group -/

theorem groupOptions_groupToken? (group : Group) :
    groupOptions (groupToken? group.inside).toList =
      if (optionsOf group.inside).isEmpty then [] else [optionsOf group.inside] := by
  rw [groupToken?]
  split <;> rfl

/-- No option is lost exactly if every one has a letter or a numeral. -/
theorem Group.length_options_eq_iff (group : Group) :
    (optionsOf group.inside).length = group.parts.length ↔ group.Speaks := by
  have sameLength : (group.parts.map optionWords).length = group.parts.length :=
    List.length_map _
  rw [← sameLength, optionsOf, ← Group.parts, List.length_filter_eq_length_iff,
    List.forall_mem_map, Group.Speaks]
  refine forall₂_congr fun part _ => ?_
  rw [Bool.not_eq_true', List.isEmpty_eq_false_iff, ne_eq, optionWords_eq_nil_iff]
  simp

/-- Several options are read as they are written exactly if none is lost. -/
theorem Group.isReadAs_options_iff
    {group : Group}
    (several : 2 ≤ group.parts.length) :
    group.IsReadAs (optionsOf group.inside) ↔ group.Speaks := by
  rw [← group.length_options_eq_iff]
  refine ⟨fun read => read.all, fun all => ⟨all, ?_⟩⟩
  rwa [all]

/-! ## Where groups are seen -/

/-- Without a parenthesis, what is read before a blank character does not depend on the rest. -/
theorem tokensOf_append
    {before : Text}
    (noGroup : '(' ∉ before)
    (ends : ∀ c ∈ before.getLast?, Text.isBlank c = true)
    (after : Text) :
    tokensOf (before ++ after) = tokensOf before ++ tokensOf after := by
  obtain ⟨items, laid⟩ := exists_laid before false
  generalize false = behind at laid
  induction laid with
  | blank isGap =>
      rw [tokensOf_blank_append isGap, tokensOf_blank isGap, List.nil_append]
  | @word _ gap word rest items isGap isWord begins _ _ inductionHypothesis =>
      have noOpening : word.head? ≠ some '(' := by
        intro opening
        exact noGroup (by simp [List.mem_of_head? opening])
      have noneInRest : '(' ∉ rest := by
        intro opening
        exact noGroup (by simp [opening])
      -- The text ends with a blank character, and so not with the word.
      have restNonempty : rest ≠ [] := by
        rintro rfl
        have isLast := List.getLast?_eq_some_getLast isWord.nonempty
        have blank := ends (word.getLast isWord.nonempty) (by simp [isLast])
        rw [isWord.bare _ (List.getLast_mem isWord.nonempty)] at blank
        exact Bool.false_ne_true blank
      have restEnds : ∀ c ∈ rest.getLast?, Text.isBlank c = true := by
        rwa [← List.append_assoc, List.getLast?_append_of_ne_nil _ restNonempty] at ends
      have stillBegins : ∀ c ∈ (rest ++ after).head?, Text.isBlank c = true := by
        rwa [List.head?_append_of_ne_nil _ restNonempty]
      rw [List.append_assoc, List.append_assoc,
        tokensOf_word isGap isWord stillBegins (absurd · noOpening),
        tokensOf_word isGap isWord begins (absurd · noOpening),
        inductionHypothesis noneInRest restEnds, List.append_assoc]
  | group isGap closes _ _ =>
      simp at noGroup

/-- There are no more groups to read than parentheses. -/
theorem length_groupOptions_le (text : Text) :
    (groupOptions (tokensOf text)).length ≤ text.count '(' := by
  obtain ⟨items, laid⟩ := exists_laid text false
  generalize false = behind at laid
  induction laid with
  | blank isGap =>
      rw [tokensOf_blank isGap]
      exact Nat.zero_le _
  | word isGap isWord ends noGroup _ inductionHypothesis =>
      rw [tokensOf_word isGap isWord ends noGroup, groupOptions_append, groupOptions_wordToken?]
      simp only [List.nil_append, List.count_append]
      omega
  | @group _ gap inside rest _ isGap closes _ inductionHypothesis =>
      have atMostOne : (groupOptions (groupToken? inside).toList).length ≤ 1 := by
        refine (List.length_filterMap_le _ _).trans ?_
        cases groupToken? inside <;> simp
      rw [tokensOf_group isGap closes, groupOptions_append]
      simp only [List.length_append, List.count_append, List.count_cons_self]
      simp only [List.count_cons]
      omega

theorem groupOptions_eq_nil
    {text : Text}
    (noGroup : '(' ∉ text) :
    groupOptions (tokensOf text) = [] := by
  have bound := length_groupOptions_le text
  rw [List.count_eq_zero.mpr noGroup] at bound
  exact List.length_eq_zero_iff.mp (Nat.le_zero.mp bound)

/-- A group is seen where a token begins. -/
theorem groupOptions_of_beginsToken
    {group : Group}
    (bareBefore : Bare group.before)
    (bareInside : Bare group.inside)
    (begins : group.BeginsToken)
    (rest : Text) :
    groupOptions (tokensOf (group.before ++ '(' :: (group.inside ++ ')' :: rest))) =
      (if (optionsOf group.inside).isEmpty then [] else [optionsOf group.inside]) ++
        groupOptions (tokensOf rest) := by
  have atStart : tokensOf ('(' :: (group.inside ++ ')' :: rest)) =
      (groupToken? group.inside).toList ++ tokensOf rest :=
    tokensOf_group (List.forall_mem_nil _) bareInside.closing rest
  rw [tokensOf_append bareBefore.opening begins, atStart, groupOptions_append, groupOptions_append,
    groupOptions_eq_nil bareBefore.opening, List.nil_append, groupOptions_groupToken?]

/-- Where no token begins, the parenthesis belongs to a word, and the group is lost. -/
theorem length_groupOptions_of_not_beginsToken
    {group : Group}
    (bareBefore : Bare group.before)
    (midWord : ¬ group.BeginsToken)
    (after : Text) :
    (groupOptions (tokensOf (group.before ++ '(' :: after))).length ≤ after.count '(' := by
  obtain ⟨before, inside⟩ := group
  obtain ⟨earlier, start, rfl, earlierEnds, visible⟩ := Text.exists_eq_append_visible before
  -- The word goes on behind the parenthesis, up to the next blank character.
  obtain ⟨others, rest, rfl, othersVisible, ends⟩ := Text.exists_eq_visible_append after
  have startNonempty : start ≠ [] := by
    rintro rfl
    exact midWord (by simpa [Group.BeginsToken] using earlierEnds)
  have isWord : Text.IsWord (start ++ '(' :: others) := by
    refine ⟨by simp, List.forall_mem_append.mpr ⟨visible, ?_⟩⟩
    exact List.forall_mem_cons.mpr ⟨by decide, othersVisible⟩
  have noOpening : (start ++ '(' :: others).head? ≠ some '(' := by
    rw [List.head?_append_of_ne_nil _ startNonempty]
    intro opening
    exact bareBefore.opening (by simp [List.mem_of_head? opening])
  have asWord : tokensOf (start ++ '(' :: (others ++ rest)) =
      (wordToken? (start ++ '(' :: others)).toList ++ tokensOf rest := by
    have read := tokensOf_word (List.forall_mem_nil _) isWord ends (absurd · noOpening)
    simpa using read
  have noneEarlier : '(' ∉ earlier := by
    intro opening
    exact bareBefore.opening (by simp [opening])
  rw [List.append_assoc, tokensOf_append noneEarlier earlierEnds, asWord,
    groupOptions_append, groupOptions_append, groupOptions_eq_nil noneEarlier,
    groupOptions_wordToken?, List.nil_append, List.nil_append, List.count_append]
  exact (length_groupOptions_le rest).trans (Nat.le_add_left _ _)

/-! ## All groups of a text -/

variable
  {text : Text}
  {groups : List Group}

/-- Each group has one opening parenthesis. -/
theorem Grouped.count_opening
    (grouped : Grouped text groups) :
    text.count '(' = groups.length := by
  induction grouped with
  | plain bare =>
      exact List.count_eq_zero.mpr bare.opening
  | group bareBefore bareInside _ inductionHypothesis =>
      simp [List.count_eq_zero.mpr bareBefore.opening, List.count_eq_zero.mpr bareInside.opening,
        inductionHypothesis]

/-- With fewer options than groups, some group is lost. -/
theorem not_forall₂_isReadAs
    {group : Group}
    {options : List (List (List Text))}
    (few : options.length ≤ groups.length) :
    ¬ List.Forall₂ Group.IsReadAs (group :: groups) options := by
  intro read
  have sameLength := read.length_eq
  rw [List.length_cons] at sameLength
  omega

/--
Each group is read with all its options exactly if each stands where a token begins
and has no option to lose.
-/
theorem Grouped.forall₂_isReadAs_iff
    (grouped : Grouped text groups)
    (several : ∀ group ∈ groups, 2 ≤ group.parts.length) :
    List.Forall₂ Group.IsReadAs groups (groupOptions (tokensOf text)) ↔
      ∀ group ∈ groups, group.BeginsToken ∧ group.Speaks := by
  induction grouped with
  | plain bare =>
      simp [groupOptions_eq_nil bare.opening]
  | @group before inside rest groups bareBefore bareInside grouped inductionHypothesis =>
      obtain ⟨severalHere, severalLater⟩ := List.forall_mem_cons.mp several
      have fewLater := length_groupOptions_le rest
      rw [grouped.count_opening] at fewLater
      rw [List.forall_mem_cons]
      by_cases begins : Group.BeginsToken ⟨before, inside⟩
      · rw [groupOptions_of_beginsToken bareBefore bareInside begins rest]
        split
        · next allLost =>
            refine iff_of_false (not_forall₂_isReadAs fewLater) ?_
            rintro ⟨⟨-, speaks⟩, -⟩
            have noneLost := (Group.length_options_eq_iff _).mpr speaks
            rw [List.isEmpty_iff.mp allLost, List.length_nil] at noneLost
            omega
        · rw [List.singleton_append, List.forall₂_cons, inductionHypothesis severalLater,
            Group.isReadAs_options_iff severalHere]
          simp [begins]
      · refine iff_of_false (not_forall₂_isReadAs ?_) (fun all => begins all.1.1)
        have few := length_groupOptions_of_not_beginsToken bareBefore begins
          (inside ++ ')' :: rest)
        simpa [List.count_eq_zero.mpr bareInside.opening, grouped.count_opening] using few

end Colloquy.Pattern
