import Colloquy.Proofs.Admission.Admitted
import Colloquy.Proofs.Pattern.Layout

namespace Colloquy

/-!
# Wildcards of admitted patterns

Admission counts the wildcards among the words between blanks and refuses two
that are neighbours there. Matching sees wildcards that are not among these
words: those that stand right behind a group. And it does not see words and
groups without a letter or numeral, so that wildcards meet over them. This is all
that admission overlooks.
-/

namespace Pattern

/-- Two wildcards are next to each other. -/
def HasNeighbours (tokens : List Token) : Prop :=
  ∃ before first second after, tokens = before ++ .wildcard first :: .wildcard second :: after

/-- The wildcards that stand apart. -/
def wildcardsApart (items : List Item) : Nat :=
  items.countP fun item => item.isWildcard && !item.isBehindGroup

/-- The wildcards that stand right behind a group. -/
def wildcardsBehindGroups (items : List Item) : Nat :=
  items.countP fun item => item.isWildcard && item.isBehindGroup

/-- Two wildcards have only items between them that vanish. -/
structure Meet
    (items : List Item)
    (first : Item)
    (between : List Item)
    (second : Item) :
    Prop where
  follow : ∃ before after, items = before ++ first :: (between ++ second :: after)
  first : first.isWildcard = true
  second : second.isWildcard = true
  vanish : ∀ item ∈ between, item.vanishes = true

/-- Wildcards meet that are not neighbours among the words between blanks. -/
def MeetUnseen (items : List Item) : Prop :=
  ∃ first between second,
    Meet items first between second ∧ (first.isBehindGroup = true ∨ between ≠ [])

section Laid

variable
  {text : Text}
  {items : List Item}
  (laid : Laid false text items)

include laid

/-- Wildcards are counted where they stand apart and right behind groups. -/
theorem Laid.wildcardCount_compile :
    (compile text).wildcardCount = wildcardsApart items + wildcardsBehindGroups items := by
  have isWildcard (item : Item) :
      (item.token?.map Token.isWildcard).getD false = item.isWildcard := by
    rw [Bool.eq_iff_iff, item.isWildcard_iff]
    cases item.token? with
    | none =>
        simp
    | some token =>
        cases token <;> simp [Token.isWildcard]
  rw [wildcardCount, compile, laid.tokensOf_eq, List.countP_filterMap]
  simp only [isWildcard]
  rw [List.countP_eq_countP_filter_add _ _ fun item => !item.isBehindGroup, List.countP_filter,
    List.countP_filter]
  simp [wildcardsApart, wildcardsBehindGroups]

/-- The wildcards that stand apart are wildcards among the words between blanks. -/
theorem Laid.wildcardsApart_le :
    wildcardsApart items ≤ (Text.words text).countP Admission.isWildcardWord := by
  have counted : wildcardsApart items =
      (items.filterMap Item.apart?).countP Admission.isWildcardWord := by
    rw [List.countP_filterMap, wildcardsApart]
    refine List.countP_congr ?_
    intro item _
    cases item with
    | word characters behindGroup =>
        cases behindGroup <;>
          simp [Item.apart?, Item.isWildcard, Item.isBehindGroup, Admission.isWildcardWord]
    | group inside =>
        simp [Item.apart?, Item.isWildcard]
  rw [counted]
  exact laid.apart_sublist.countP_le

/-- Tokens are wildcards next to each other exactly if wildcards meet in the layout. -/
theorem Laid.hasNeighbours_iff :
    HasNeighbours (compile text).tokens ↔
      ∃ first between second, Meet items first between second := by
  rw [compile, HasNeighbours, laid.tokensOf_eq]
  constructor
  · rintro ⟨before, first, second, after, split⟩
    obtain ⟨earlier, fromFirst, rfl, -, isFirst⟩ := List.filterMap_eq_append_iff.mp split
    obtain ⟨skipped, firstItem, fromSecond, rfl, _, firstToken, isSecond⟩ :=
      List.filterMap_eq_cons_iff.mp isFirst
    obtain ⟨between, secondItem, later, rfl, vanish, secondToken, -⟩ :=
      List.filterMap_eq_cons_iff.mp isSecond
    refine ⟨firstItem, between, secondItem, ⟨earlier ++ skipped, later, ?_⟩, ?_, ?_, ?_⟩
    · simp
    · exact firstItem.isWildcard_iff.mpr ⟨first, firstToken⟩
    · exact secondItem.isWildcard_iff.mpr ⟨second, secondToken⟩
    · intro item member
      exact item.token?_eq_none_iff.mp (vanish item member)
  · rintro ⟨firstItem, between, secondItem, ⟨before, after, rfl⟩, isFirst, isSecond, vanish⟩
    obtain ⟨first, firstToken⟩ := firstItem.isWildcard_iff.mp isFirst
    obtain ⟨second, secondToken⟩ := secondItem.isWildcard_iff.mp isSecond
    have nothing : between.filterMap Item.token? = [] := by
      rw [List.filterMap_eq_nil_iff]
      intro item member
      exact item.token?_eq_none_iff.mpr (vanish item member)
    refine ⟨before.filterMap Item.token?, first, second, after.filterMap Item.token?, ?_⟩
    simp [firstToken, secondToken, nothing]

end Laid

end Pattern

namespace Admission

open Pattern

theorem adjacentWildcards?_tail
    {word : Text}
    {words : List Text}
    (noneAdjacent : adjacentWildcards? (word :: words) = none) :
    adjacentWildcards? words = none := by
  cases words with
  | nil =>
      rfl
  | cons next rest =>
      rw [adjacentWildcards?] at noneAdjacent
      split at noneAdjacent
      · simp at noneAdjacent
      · simpa using noneAdjacent

/-- If no wildcards are found next to each other, no two neighbours are wildcards. -/
theorem not_isInfix_of_adjacentWildcards?
    {words : List Text}
    (noneAdjacent : adjacentWildcards? words = none)
    {first second : Text}
    (isFirst : isWildcardWord first = true)
    (isSecond : isWildcardWord second = true) :
    ¬ [first, second] <:+: words := by
  rintro ⟨before, after, rfl⟩
  induction before with
  | nil =>
      simp [adjacentWildcards?, isFirst, isSecond] at noneAdjacent
  | cons word others inductionHypothesis =>
      exact inductionHypothesis (adjacentWildcards?_tail noneAdjacent)

/-- Where no wildcards are neighbours among the words, those that meet do so unseen. -/
theorem meetUnseen_iff
    {text : Text}
    {items : List Item}
    (laid : Laid false text items)
    (noneAdjacent : adjacentWildcards? (Text.words text) = none) :
    MeetUnseen items ↔ ∃ first between second, Meet items first between second := by
  constructor
  · rintro ⟨first, between, second, meet, -⟩
    exact ⟨first, between, second, meet⟩
  · rintro ⟨first, between, second, meet⟩
    refine ⟨first, between, second, meet, ?_⟩
    by_contra seen
    simp only [not_or, ne_eq, Decidable.not_not, Bool.not_eq_true] at seen
    obtain ⟨isApart, rfl⟩ := seen
    obtain ⟨⟨before, after, follow⟩, isFirst, isSecond, _⟩ := meet
    -- Both are words, so that the words between blanks have them side by side.
    cases first with
    | group inside =>
        simp [Item.isWildcard] at isFirst
    | word firstWord behindGroup =>
        cases second with
        | group inside =>
            simp [Item.isWildcard] at isSecond
        | word secondWord secondBehind =>
            obtain rfl : behindGroup = false := isApart
            exact not_isInfix_of_adjacentWildcards? noneAdjacent isFirst isSecond
              (laid.neighbours_isInfix follow)

/--
The wildcards that matching sees in an admitted category are within the limit, with
no two next to each other, exactly if those right behind groups find room beside the
others and no wildcards meet unseen.
-/
theorem validate_boundsWildcards_iff
    {category : Category}
    {limits : LearningLimits}
    (admitted : validate category limits = .ok ()) :
    (∀ pattern ∈ category.patterns,
        (compile pattern).wildcardCount ≤ limits.maxWildcards ∧
          ¬ HasNeighbours (compile pattern).tokens) ↔
      ∀ pattern ∈ category.patterns, ∀ items, Laid false pattern items →
        wildcardsBehindGroups items ≤ limits.maxWildcards - wildcardsApart items ∧
          ¬ MeetUnseen items := by
  obtain ⟨fit, _⟩ := fits_of_validate admitted
  refine forall₂_congr fun pattern member => ?_
  have fits := fit pattern member
  have bounded {items : List Item} (laid : Laid false pattern items) :
      ((compile pattern).wildcardCount ≤ limits.maxWildcards ↔
          wildcardsBehindGroups items ≤ limits.maxWildcards - wildcardsApart items) ∧
        (HasNeighbours (compile pattern).tokens ↔ MeetUnseen items) := by
    have apart := Nat.le_trans laid.wildcardsApart_le fits.wildcards
    rw [laid.wildcardCount_compile, laid.hasNeighbours_iff, meetUnseen_iff laid fits.apart]
    exact ⟨by omega, Iff.rfl⟩
  constructor
  · rintro ⟨few, separate⟩ items laid
    obtain ⟨count, meet⟩ := bounded laid
    exact ⟨count.mp few, fun unseen => separate (meet.mpr unseen)⟩
  · intro written
    obtain ⟨items, laid⟩ := exists_laid pattern false
    obtain ⟨count, meet⟩ := bounded laid
    obtain ⟨room, noneMeet⟩ := written items laid
    exact ⟨count.mpr room, fun neighbours => noneMeet (meet.mp neighbours)⟩

/-- A wildcard right behind a group may use up the limit. -/
theorem validate_boundsWildcards_iff_room :
    let category := Category.plain "* (A|B)* C".toList "x".toList
    let limits : LearningLimits := { maxWildcards := 2 }
    validate category limits = .ok () ∧
      ∀ items, Laid false category.pattern items →
        wildcardsBehindGroups items ≤ 2 - wildcardsApart items ∧ ¬ MeetUnseen items := by
  intro category limits
  have admitted : validate category limits = .ok () := by
    decide +kernel
  refine ⟨admitted, ?_⟩
  refine (validate_boundsWildcards_iff admitted).mp ?_ category.pattern List.mem_cons_self
  intro pattern member
  obtain rfl : pattern = "* (A|B)* C".toList := by
    simpa [category, Category.patterns, Category.plain] using member
  refine ⟨by decide +kernel, ?_⟩
  have tokens : (compile "* (A|B)* C".toList).tokens =
      [.wildcard .star, .group [["A".toList], ["B".toList]], .wildcard .star,
        .literal "C".toList] := by
    decide +kernel
  rw [tokens]
  rintro ⟨before, first, second, after, split⟩
  simp [List.cons_eq_append_iff] at split

/-- A wildcard between a group and a wildcard is neither counted nor found to be a neighbour. -/
theorem validate_boundsWildcards_behindGroup :
    let pattern := "(A|B)* *".toList
    let limits : LearningLimits := { maxWildcards := 1 }
    validate (.plain pattern "x".toList) limits = .ok () ∧
      limits.maxWildcards < (compile pattern).wildcardCount ∧
      HasNeighbours (compile pattern).tokens := by
  intro pattern limits
  refine ⟨by decide +kernel, by decide +kernel, ?_⟩
  refine ⟨[.group [["A".toList], ["B".toList]]], .star, .star, [], ?_⟩
  decide +kernel

end Admission

end Colloquy
