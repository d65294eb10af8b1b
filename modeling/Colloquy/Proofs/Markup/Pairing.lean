import Colloquy.Markup.Lexeme
import Mathlib.Data.List.Basic

namespace Colloquy.Markup

/-!
# Pairs of tags

Each closing tag is paired with the latest opening tag of its name that is still
open, if there is one; the tags that were opened after it and are still open are
given up for good. The rule leaves no choice, and one pass over the lexemes that
remembers which tags are still open follows it.
-/

/-- The name of the element that a lexeme opens. -/
def Lexeme.opened? : Lexeme → Option Text
  | .opening name _ _ => some name
  | _ => none

/-- The name of the element that a lexeme closes. -/
def Lexeme.closed? : Lexeme → Option Text
  | .closing name _ => some name
  | _ => none

/-- The name of the element that is opened at a position. -/
def openedAt?
    (lexemes : List Lexeme)
    (position : Nat) :
    Option Text :=
  lexemes[position]?.bind Lexeme.opened?

/-- The name of the element that is closed at a position. -/
def closedAt?
    (lexemes : List Lexeme)
    (position : Nat) :
    Option Text :=
  lexemes[position]?.bind Lexeme.closed?

/-- A tag that opens closes nothing. -/
theorem closedAt?_eq_none_of_openedAt?
    {lexemes : List Lexeme}
    {position : Nat}
    (opens : (openedAt? lexemes position).isSome) :
    closedAt? lexemes position = none := by
  rw [openedAt?] at opens
  rw [closedAt?]
  cases present : lexemes[position]? with
  | none =>
      rfl
  | some lexeme =>
      rw [present] at opens
      cases lexeme with
      | opening =>
          rfl
      | text | comment | closing | standalone =>
          contradiction

theorem openedAt?_of_closing
    {lexemes : List Lexeme}
    {position : Nat}
    {name source : Text}
    (present : lexemes[position]? = some (.closing name source)) :
    openedAt? lexemes position = none := by
  rw [openedAt?, present]
  rfl

theorem closedAt?_of_closing
    {lexemes : List Lexeme}
    {position : Nat}
    {name source : Text}
    (present : lexemes[position]? = some (.closing name source)) :
    closedAt? lexemes position = some name := by
  rw [closedAt?, present]
  rfl

/-- Where the opening tag stands that a closing tag at some position is paired with. -/
abbrev Pairing := Nat → Option Nat

/--
An opening tag is still open before a later position if no closing tag between
them is paired with it or with an opening tag before it.
-/
def Pairing.LeavesOpen
    (pairing : Pairing)
    (lexemes : List Lexeme)
    (start stop : Nat) :
    Prop :=
  (openedAt? lexemes start).isSome ∧
    start < stop ∧
    ∀ between, start < between → between < stop → ∀ other ∈ pairing between, start < other

/-- The opening tag is the latest of those that are still open and have the closing tag's name. -/
structure Pairing.IsPartner
    (pairing : Pairing)
    (lexemes : List Lexeme)
    (start stop : Nat) :
    Prop where
  leftOpen : pairing.LeavesOpen lexemes start stop
  closes : (closedAt? lexemes stop).isSome
  named : openedAt? lexemes start = closedAt? lexemes stop
  latest : ∀ other, pairing.LeavesOpen lexemes other stop →
    openedAt? lexemes other = closedAt? lexemes stop → other ≤ start

/-- Closing tags are paired with their partners. -/
def IsPairing
    (lexemes : List Lexeme)
    (pairing : Pairing) :
    Prop :=
  ∀ start stop, pairing stop = some start ↔ pairing.IsPartner lexemes start stop

/-- The latest of the given opening tags with the name of the closing tag at a position. -/
def partnerAmong?
    (lexemes : List Lexeme)
    (starts : List Nat)
    (stop : Nat) :
    Option Nat :=
  (closedAt? lexemes stop).bind fun name =>
    starts.find? fun start => openedAt? lexemes start = some name

/-- Where the opening tags stand that are still open before a position, the latest first. -/
def stillOpen (lexemes : List Lexeme) : Nat → List Nat
  | 0 => []
  | position + 1 =>
      let starts := stillOpen lexemes position
      let partner := partnerAmong? lexemes starts position
      let left := starts.filter fun start => partner.all (start < ·)
      if (openedAt? lexemes position).isSome then position :: left else left

/-- The pairing of the tags among some lexemes. -/
def partner? (lexemes : List Lexeme) : Pairing :=
  fun stop => partnerAmong? lexemes (stillOpen lexemes stop) stop

/-- What is open behind a tag is what it opens, or what was open and is not closed by it. -/
theorem leavesOpen_succ_iff
    {pairing : Pairing}
    {lexemes : List Lexeme}
    {start position : Nat} :
    pairing.LeavesOpen lexemes start (position + 1) ↔
      start = position ∧ (openedAt? lexemes position).isSome ∨
        pairing.LeavesOpen lexemes start position ∧
          ∀ partner ∈ pairing position, start < partner := by
  constructor
  · rintro ⟨opens, before, since⟩
    rcases Nat.lt_succ_iff_lt_or_eq.mp before with earlier | rfl
    · right
      refine ⟨⟨opens, earlier, ?_⟩, since position earlier (Nat.lt_succ_self position)⟩
      intro between after isBefore
      exact since between after (Nat.lt_succ_of_lt isBefore)
    · exact Or.inl ⟨rfl, opens⟩
  · rintro (⟨rfl, opens⟩ | ⟨⟨opens, earlier, since⟩, now⟩)
    · refine ⟨opens, Nat.lt_succ_self start, ?_⟩
      intro between after isBefore
      omega
    · refine ⟨opens, Nat.lt_succ_of_lt earlier, ?_⟩
      intro between after isBefore
      rcases Nat.lt_succ_iff_lt_or_eq.mp isBefore with isEarlier | rfl
      · exact since between after isEarlier
      · exact now

/-- The tags that are still open follow the rule for open tags. -/
theorem mem_stillOpen_succ
    {lexemes : List Lexeme}
    {start position : Nat} :
    start ∈ stillOpen lexemes (position + 1) ↔
      start = position ∧ (openedAt? lexemes position).isSome ∨
        start ∈ stillOpen lexemes position ∧
          ∀ partner ∈ partner? lexemes position, start < partner := by
  simp only [stillOpen, partner?]
  cases partnerAmong? lexemes (stillOpen lexemes position) position <;>
    cases (openedAt? lexemes position).isSome <;>
      simp

/-- The tags that are still open are those that the pairing leaves open. -/
theorem mem_stillOpen_iff
    {lexemes : List Lexeme}
    {start position : Nat} :
    start ∈ stillOpen lexemes position ↔
      (partner? lexemes).LeavesOpen lexemes start position := by
  induction position with
  | zero =>
      simp [stillOpen, Pairing.LeavesOpen]
  | succ position inductionHypothesis =>
      rw [mem_stillOpen_succ, leavesOpen_succ_iff, inductionHypothesis]

/-- Tags that are still open are listed from the innermost on. -/
theorem descending_stillOpen
    (lexemes : List Lexeme)
    (position : Nat) :
    (stillOpen lexemes position).Pairwise (· > ·) := by
  induction position with
  | zero =>
      exact List.Pairwise.nil
  | succ position inductionHypothesis =>
      rw [stillOpen]
      split
      · refine List.pairwise_cons.mpr ⟨?_, inductionHypothesis.sublist List.filter_sublist⟩
        intro start member
        exact (mem_stillOpen_iff.mp (List.mem_filter.mp member).1).2.1
      · exact inductionHypothesis.sublist List.filter_sublist

/-- What is found first in a descending list is the greatest. -/
theorem le_of_find?_descending
    {starts : List Nat}
    (descending : starts.Pairwise (· > ·))
    {named : Nat → Bool}
    {partner other : Nat}
    (found : starts.find? named = some partner)
    (member : other ∈ starts)
    (isNamed : named other = true) :
    other ≤ partner := by
  obtain ⟨_, later, earlier, rfl, notNamed⟩ := List.find?_eq_some_iff_append.mp found
  rcases List.mem_append.mp member with isLater | isHere
  · exact absurd isNamed (by simpa using notNamed other isLater)
  · rcases List.mem_cons.mp isHere with rfl | isEarlier
    · exact Nat.le_refl other
    · obtain ⟨_, below, _⟩ := List.pairwise_append.mp descending
      exact Nat.le_of_lt ((List.pairwise_cons.mp below).1 other isEarlier)

/-- Closing the innermost open tag of the name is a pairing by the rule. -/
theorem isPairing_partner? (lexemes : List Lexeme) :
    IsPairing lexemes (partner? lexemes) := by
  intro start stop
  have descending := descending_stillOpen lexemes stop
  constructor
  · intro paired
    obtain ⟨name, closes, found⟩ := Option.bind_eq_some_iff.mp paired
    have isNamed : openedAt? lexemes start = some name := by
      simpa using List.find?_some found
    refine ⟨mem_stillOpen_iff.mp (List.mem_of_find?_eq_some found), ?_, ?_, ?_⟩
    · rw [closes]
      rfl
    · rw [isNamed, closes]
    · intro other leftOpen otherNamed
      exact le_of_find?_descending descending found (mem_stillOpen_iff.mpr leftOpen)
        (by simpa [closes] using otherNamed)
  · intro partner
    obtain ⟨name, closes⟩ := Option.isSome_iff_exists.mp partner.closes
    have isNamed := partner.named
    rw [closes] at isNamed
    have member := mem_stillOpen_iff.mpr partner.leftOpen
    obtain ⟨found, isFound⟩ : ∃ found,
        (stillOpen lexemes stop).find? (fun start => openedAt? lexemes start = some name) =
          some found := by
      rw [← Option.isSome_iff_exists, List.find?_isSome]
      exact ⟨start, member, by simpa using isNamed⟩
    -- Each of the two is the latest, so neither is later than the other.
    have notLater := le_of_find?_descending descending isFound member (by simpa using isNamed)
    have foundNamed : openedAt? lexemes found = some name := by
      simpa using List.find?_some isFound
    have notEarlier := partner.latest found
      (mem_stillOpen_iff.mp (List.mem_of_find?_eq_some isFound)) (foundNamed.trans closes.symm)
    rw [Nat.le_antisymm notLater notEarlier]
    exact Option.bind_eq_some_iff.mpr ⟨name, closes, isFound⟩

/-- A partner depends only on what is left open. -/
theorem Pairing.IsPartner.congr
    {lexemes : List Lexeme}
    {first second : Pairing}
    {start stop : Nat}
    (sameOpen : ∀ other, first.LeavesOpen lexemes other stop ↔ second.LeavesOpen lexemes other stop)
    (partner : first.IsPartner lexemes start stop) :
    second.IsPartner lexemes start stop := by
  refine ⟨(sameOpen start).mp partner.leftOpen, partner.closes, partner.named, ?_⟩
  intro other leftOpen
  exact partner.latest other ((sameOpen other).mpr leftOpen)

/-- The rule leaves no choice: lexemes have one pairing. -/
theorem IsPairing.unique
    {lexemes : List Lexeme}
    {first second : Pairing}
    (isFirst : IsPairing lexemes first)
    (isSecond : IsPairing lexemes second) :
    first = second := by
  funext stop
  induction stop using Nat.strongRecOn with
  | ind stop inductionHypothesis =>
      have sameOpen (start : Nat) :
          first.LeavesOpen lexemes start stop ↔ second.LeavesOpen lexemes start stop := by
        refine and_congr_right fun _ => and_congr_right fun _ => ?_
        refine forall_congr' fun between => forall₂_congr fun _ isBefore => ?_
        rw [inductionHypothesis between isBefore]
      apply Option.ext
      intro start
      rw [isFirst, isSecond]
      exact ⟨.congr sameOpen, .congr fun other => (sameOpen other).symm⟩

/-! ## What is paired -/

/-- The tag at a position belongs to a pair. -/
def isPaired
    (lexemes : List Lexeme)
    (pairing : Pairing)
    (position : Nat) :
    Bool :=
  (pairing position).isSome ||
    (List.range lexemes.length).any fun stop => pairing stop = some position

section Paired

variable
  {lexemes : List Lexeme}
  {pairing : Pairing}
  (isPairing : IsPairing lexemes pairing)
  {start stop position : Nat}

include isPairing

/-- The partner of a tag is paired. -/
theorem isPaired_of_partner
    (paired : pairing stop = some start) :
    isPaired lexemes pairing start = true := by
  have closes := ((isPairing start stop).mp paired).closes
  have inside : stop < lexemes.length := by
    by_contra outside
    rw [closedAt?, List.getElem?_eq_none (Nat.le_of_not_lt outside)] at closes
    contradiction
  rw [isPaired, Bool.or_eq_true, List.any_eq_true]
  exact Or.inr ⟨stop, List.mem_range.mpr inside, by simpa using paired⟩

/-- An opening tag is paired only if some closing tag is paired with it. -/
theorem isPaired_eq_false_of_opened
    (opens : (openedAt? lexemes position).isSome)
    (unpaired : ∀ stop < lexemes.length, pairing stop ≠ some position) :
    isPaired lexemes pairing position = false := by
  have notStop : pairing position = none := by
    by_contra paired
    obtain ⟨partner, isPartner⟩ := Option.ne_none_iff_exists'.mp paired
    have closes := ((isPairing partner position).mp isPartner).closes
    rw [closedAt?_eq_none_of_openedAt? opens] at closes
    contradiction
  simpa [isPaired, notStop] using unpaired

/-- A closing tag is paired only if it has a partner. -/
theorem isPaired_eq_isSome
    (opensNothing : openedAt? lexemes position = none) :
    isPaired lexemes pairing position = (pairing position).isSome := by
  have notStart (stop : Nat) : pairing stop ≠ some position := by
    intro paired
    have opens := ((isPairing position stop).mp paired).leftOpen.1
    rw [opensNothing] at opens
    contradiction
  simp [isPaired, notStart]

/-- As long as an opening tag is open, no closing tag was paired with it. -/
theorem ne_of_leavesOpen
    (leftOpen : pairing.LeavesOpen lexemes start position)
    (earlier : stop < position) :
    pairing stop ≠ some start := by
  intro paired
  have after := ((isPairing start stop).mp paired).leftOpen.2.1
  exact Nat.lt_irrefl start (leftOpen.2.2 stop after earlier start paired)

/-- An opening tag that is passed over by a pair is unpaired for good. -/
theorem isPaired_eq_false_of_passed
    {partner : Nat}
    (leftOpen : pairing.LeavesOpen lexemes start position)
    (paired : pairing position = some partner)
    (passed : partner < start) :
    isPaired lexemes pairing start = false := by
  refine isPaired_eq_false_of_opened isPairing leftOpen.1 fun stop _ pairedLater => ?_
  rcases Nat.lt_trichotomy stop position with earlier | rfl | later
  · exact ne_of_leavesOpen isPairing leftOpen earlier pairedLater
  · rw [paired, Option.some.injEq] at pairedLater
    exact Nat.ne_of_lt passed pairedLater
  · have stillOpen := ((isPairing start stop).mp pairedLater).leftOpen
    exact Nat.lt_asymm passed (stillOpen.2.2 position leftOpen.2.1 later partner paired)

/-- An opening tag that is open at the end is unpaired. -/
theorem isPaired_eq_false_of_leavesOpen_length
    (leftOpen : pairing.LeavesOpen lexemes start lexemes.length) :
    isPaired lexemes pairing start = false :=
  isPaired_eq_false_of_opened isPairing leftOpen.1 fun _ => ne_of_leavesOpen isPairing leftOpen

end Paired

/-! ## What stays open after a lexeme -/

section StillOpen

variable
  {lexemes : List Lexeme}
  {position : Nat}

theorem partner?_eq_none_of_closedAt?
    (closesNothing : closedAt? lexemes position = none) :
    partner? lexemes position = none := by
  rw [partner?, partnerAmong?, closesNothing]
  rfl

/-- Where nothing is opened or closed, the same tags stay open. -/
theorem stillOpen_succ_of_unpaired
    (unpaired : partner? lexemes position = none)
    (opensNothing : openedAt? lexemes position = none) :
    stillOpen lexemes (position + 1) = stillOpen lexemes position := by
  rw [partner?] at unpaired
  simp [stillOpen, unpaired, opensNothing]

/-- A tag that opens is the innermost one that is open. -/
theorem stillOpen_succ_of_opened
    (opens : (openedAt? lexemes position).isSome) :
    stillOpen lexemes (position + 1) = position :: stillOpen lexemes position := by
  have unpaired := partner?_eq_none_of_closedAt? (closedAt?_eq_none_of_openedAt? opens)
  rw [partner?] at unpaired
  simp [stillOpen, unpaired, opens]

/-- A pair gives up all tags inside of it that are still open. -/
theorem stillOpen_succ_of_paired
    {inner outer : List Nat}
    {partner : Nat}
    (paired : partner? lexemes position = some partner)
    (opensNothing : openedAt? lexemes position = none)
    (shape : stillOpen lexemes position = inner ++ partner :: outer) :
    stillOpen lexemes (position + 1) = outer := by
  have descending := descending_stillOpen lexemes position
  rw [shape] at descending
  obtain ⟨_, fromPartner, across⟩ := List.pairwise_append.mp descending
  have innerGone : inner.filter (· < partner) = [] := by
    rw [List.filter_eq_nil_iff]
    intro start member
    simpa using Nat.le_of_lt (across start member partner List.mem_cons_self)
  have outerKept : outer.filter (· < partner) = outer := by
    rw [List.filter_eq_self]
    intro start member
    simpa using (List.pairwise_cons.mp fromPartner).1 start member
  rw [partner?] at paired
  simp only [stillOpen, paired, opensNothing, Option.all_some]
  rw [shape, List.filter_append, List.filter_cons_of_neg (by simp), innerGone, outerKept]
  rfl

/-- The tags that a pair gives up are unpaired for good. -/
theorem isPaired_eq_false_of_inside
    {inner outer : List Nat}
    {partner : Nat}
    (paired : partner? lexemes position = some partner)
    (shape : stillOpen lexemes position = inner ++ partner :: outer) :
    ∀ start ∈ inner, isPaired lexemes (partner? lexemes) start = false := by
  intro start member
  have descending := descending_stillOpen lexemes position
  rw [shape] at descending
  have passed := (List.pairwise_append.mp descending).2.2 start member partner List.mem_cons_self
  have isOpen : start ∈ stillOpen lexemes position := by
    rw [shape]
    exact List.mem_append_left _ member
  exact isPaired_eq_false_of_passed (isPairing_partner? lexemes) (mem_stillOpen_iff.mp isOpen)
    paired passed

end StillOpen

end Colloquy.Markup
