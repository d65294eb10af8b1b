import Colloquy.Proofs.Rule.Removal
import Colloquy.Proofs.Selection.Ranking

namespace Colloquy

/-!
# What a change of the rules changes in selection

A category that is added is selected exactly if it is eligible and stands at
least as high as what was selected before: its rule is newer than all others, so
that a standing level is enough. Otherwise the selection is the one before.
Removing a rule that was not selected does not change the selection.
-/

/-- The standing is as high as the other, or higher. -/
def Standing.Reaches (standing other : Standing) : Prop :=
  other = standing ∨ other.Below standing

/-- The greatest of the candidates, unless there is none. -/
def IsChampion (candidates : List Candidate) : Option Candidate → Prop
  | none => candidates = []
  | some best => IsGreatest candidates best

/-- The candidate that a category is in a context as soon as it is added. -/
def newcomer?
    (knowledge : KnowledgeBase)
    (context : Context)
    (category : Category) :
    Option Candidate :=
  candidate? context (Rule.ofCategory category knowledge.nextSerial)

/-- There was no champion, or the newcomer stands as high as the champion, or higher. -/
def Candidate.Prevails (newcomer : Candidate) : Option Candidate → Prop
  | none => True
  | some best => newcomer.standing.Reaches best.standing

/-! ## Champions -/

/-- A greatest candidate is the best. -/
theorem IsGreatest.bestCandidate?_eq
    {candidates : List Candidate}
    {best : Candidate}
    (greatest : IsGreatest candidates best) :
    bestCandidate? candidates = some best := by
  cases found : bestCandidate? candidates with
  | none =>
      rw [bestCandidate?_eq_none_iff] at found
      exact absurd greatest.member (by simp [found])
  | some chosen =>
      obtain ⟨isCandidate, above⟩ := bestCandidate?_spec found
      by_contra different
      have isBelow := greatest.above chosen isCandidate fun same => different (by rw [same])
      have notAbove := above best greatest.member
      rw [Std.OrientedCmp.gt_of_lt isBelow] at notAbove
      contradiction

theorem IsGreatest.of_subset
    {candidates fewer : List Candidate}
    {best : Candidate}
    (greatest : IsGreatest candidates best)
    (subset : fewer ⊆ candidates)
    (member : best ∈ fewer) :
    IsGreatest fewer best :=
  ⟨member, fun other isOther => greatest.above other (subset isOther)⟩

theorem IsChampion.bestCandidate?_eq
    {candidates : List Candidate}
    {best? : Option Candidate}
    (champion : IsChampion candidates best?) :
    bestCandidate? candidates = best? := by
  cases best? with
  | none =>
      exact (bestCandidate?_eq_none_iff candidates).mpr champion
  | some best =>
      exact IsGreatest.bestCandidate?_eq champion

/-- The best candidate of a knowledge base is above all others. -/
theorem KnowledgeBase.Orderly.isChampion
    {knowledge : KnowledgeBase}
    (orderly : knowledge.Orderly)
    (context : Context) :
    IsChampion (eligible knowledge context) (bestCandidate? (eligible knowledge context)) := by
  cases found : bestCandidate? (eligible knowledge context) with
  | none =>
      exact (bestCandidate?_eq_none_iff _).mp found
  | some best =>
      obtain ⟨member, above⟩ := bestCandidate?_spec found
      refine ⟨member, ?_⟩
      intro other isEligible different
      rcases Ordering.isLE_iff_eq_lt_or_eq_eq.mp (above other isEligible) with isBelow | isEqual
      · exact isBelow
      · exact absurd (eq_of_rank_eq orderly isEligible member isEqual) different

/-! ## The candidates after a change -/

/-- The eligible candidates are those of the rules that match. -/
theorem mem_eligible_iff
    {knowledge : KnowledgeBase}
    {context : Context}
    {candidate : Candidate} :
    candidate ∈ eligible knowledge context ↔
      candidate.rule ∈ knowledge.rules.rules ∧
        candidate? context candidate.rule = some candidate := by
  rw [eligible, List.mem_filterMap]
  constructor
  · rintro ⟨rule, isRule, found⟩
    rw [rule_of_candidate? found]
    exact ⟨isRule, found⟩
  · rintro ⟨isRule, found⟩
    exact ⟨candidate.rule, isRule, found⟩

/-- A rule that is added adds at most one eligible candidate. -/
theorem eligible_add
    (knowledge : KnowledgeBase)
    (context : Context)
    (category : Category) :
    eligible (knowledge.add category).2 context =
      eligible knowledge context ++ (newcomer? knowledge context category).toList := by
  have added : (knowledge.add category).2.rules.rules =
      knowledge.rules.rules ++ [Rule.ofCategory category knowledge.nextSerial] :=
    RuleSet.rules_push _ _ _
  rw [eligible, added, List.filterMap_append, ← eligible, newcomer?]
  cases found : candidate? context (Rule.ofCategory category knowledge.nextSerial) <;>
    simp [found]

/-- Removing rules adds no candidate. -/
theorem KnowledgeBase.Orderly.eligible_remove_subset
    {knowledge : KnowledgeBase}
    (orderly : knowledge.Orderly)
    (context : Context)
    (category : Category)
    (serial : Nat) :
    eligible (knowledge.remove category serial).2 context ⊆ eligible knowledge context := by
  intro candidate member
  obtain ⟨isRule, found⟩ := mem_eligible_iff.mp member
  rw [orderly.rules_remove] at isRule
  exact mem_eligible_iff.mpr ⟨(List.mem_filter.mp isRule).1, found⟩

/-- A newer rule is not below an older one exactly if it stands as high or higher. -/
theorem Candidate.rank_ne_gt_iff
    {older newer : Candidate}
    (later : older.rule.serial < newer.rule.serial) :
    older.rank newer ≠ .gt ↔ newer.standing.Reaches older.standing := by
  have untied : older.rank newer ≠ .eq :=
    fun equal => Nat.ne_of_lt later (serial_eq_of_rank_eq equal)
  have isBelow : older.rank newer ≠ .gt ↔ older.rank newer = .lt := by
    cases outcome : older.rank newer <;> simp_all
  rw [isBelow, rank_eq_lt_iff, Outranks, Standing.Reaches, or_comm]
  simp [later]

/-- Another rule of the category of a candidate is a candidate that stands level. -/
theorem KnowledgeBase.Orderly.exists_newcomer
    {knowledge : KnowledgeBase}
    (orderly : knowledge.Orderly)
    {context : Context}
    {candidate : Candidate}
    (member : candidate ∈ eligible knowledge context) :
    ∃ newcomer,
      newcomer? knowledge context candidate.rule.category = some newcomer ∧
        newcomer.standing = candidate.standing := by
  obtain ⟨isRule, found⟩ := mem_eligible_iff.mp member
  refine ⟨candidate.renumber fun _ => knowledge.nextSerial, ?_, rfl⟩
  have again : Rule.ofCategory candidate.rule.category knowledge.nextSerial =
      candidate.rule.renumber fun _ => knowledge.nextSerial := by
    rw [orderly.indexed.rules _ isRule]
    rfl
  rw [newcomer?, again, candidate?_renumber, found, Option.map_some]

/-! ## The best candidate after a change -/

namespace KnowledgeBase.Orderly

variable
  {knowledge : KnowledgeBase}
  (orderly : knowledge.Orderly)
  {context : Context}
  {category : Category}

include orderly

/-- A category that is added is newer than every candidate before. -/
theorem serial_lt_of_newcomer
    {candidate newcomer : Candidate}
    (member : candidate ∈ eligible knowledge context)
    (isNewcomer : newcomer? knowledge context category = some newcomer) :
    candidate.rule.serial < newcomer.rule.serial := by
  rw [rule_of_candidate? isNewcomer]
  exact orderly.below _ (mem_eligible_iff.mp member).1

/-- A newcomer that prevails is selected. -/
theorem bestCandidate?_add_of_prevails
    {newcomer : Candidate}
    (isNewcomer : newcomer? knowledge context category = some newcomer)
    (prevails : newcomer.Prevails (bestCandidate? (eligible knowledge context))) :
    bestCandidate? (eligible (knowledge.add category).2 context) = some newcomer := by
  rw [eligible_add, isNewcomer, Option.toList_some, bestCandidate?_concat]
  cases found : bestCandidate? (eligible knowledge context) with
  | none =>
      rfl
  | some best =>
      rw [found] at prevails
      have later := orderly.serial_lt_of_newcomer (bestCandidate?_spec found).1 isNewcomer
      rw [Option.elim_some, if_neg ((Candidate.rank_ne_gt_iff later).mpr prevails)]

/-- If no newcomer prevails, the selection stays. -/
theorem bestCandidate?_add_of_not_prevails
    (yields : ∀ newcomer ∈ newcomer? knowledge context category,
      ¬ newcomer.Prevails (bestCandidate? (eligible knowledge context))) :
    bestCandidate? (eligible (knowledge.add category).2 context) =
      bestCandidate? (eligible knowledge context) := by
  rw [eligible_add]
  cases isNewcomer : newcomer? knowledge context category with
  | none =>
      rw [Option.toList_none, List.append_nil]
  | some newcomer =>
      have notPrevails := yields newcomer isNewcomer
      rw [Option.toList_some, bestCandidate?_concat]
      cases found : bestCandidate? (eligible knowledge context) with
      | none =>
          rw [found] at notPrevails
          exact absurd trivial notPrevails
      | some best =>
          rw [found] at notPrevails
          have later := orderly.serial_lt_of_newcomer (bestCandidate?_spec found).1 isNewcomer
          have isAbove := (Candidate.rank_ne_gt_iff later).not.mpr notPrevails
          rw [Option.elim_some, if_pos (Decidable.not_not.mp isAbove)]

/-- Removing another rule than that of the best candidate leaves the best candidate. -/
theorem bestCandidate?_remove
    {serial : Nat}
    (another : ∀ best ∈ bestCandidate? (eligible knowledge context),
      best.rule.isKnownBy category.signature serial = false) :
    bestCandidate? (eligible (knowledge.remove category serial).2 context) =
      bestCandidate? (eligible knowledge context) := by
  have champion := orderly.isChampion context
  have subset := orderly.eligible_remove_subset context category serial
  cases found : bestCandidate? (eligible knowledge context) with
  | none =>
      rw [found] at champion
      rw [bestCandidate?_eq_none_iff]
      exact List.subset_nil.mp (champion ▸ subset)
  | some best =>
      rw [found] at champion
      obtain ⟨isRule, isCandidate⟩ := mem_eligible_iff.mp champion.member
      have isLeft : best.rule ∈ (knowledge.remove category serial).2.rules.rules := by
        rw [orderly.rules_remove, List.mem_filter, another best found]
        exact ⟨isRule, rfl⟩
      have stillEligible := mem_eligible_iff.mpr ⟨isLeft, isCandidate⟩
      exact (champion.of_subset subset stillEligible).bestCandidate?_eq

end KnowledgeBase.Orderly

/-- A selector in use selects the best candidate. -/
theorem Selector.Reachable.resolve_eq_bestCandidate?
    {selector : Selector}
    (inUse : selector.Reachable)
    {knowledge : KnowledgeBase}
    (loaded : knowledge.Reachable)
    (context : Context) :
    (selector.resolve knowledge context).1 =
      (bestCandidate? (eligible knowledge context)).map Candidate.selected :=
  inUse.resolve_eq_selection loaded.orderly.indexed context

/--
Let a selector in use select the champion of a knowledge base. After a category
was added, any selector in use selects the category exactly if it is eligible and
prevails against the champion, and then with its own bindings; otherwise it
selects the champion as before. It does so, too, after another rule than the
champion's was removed.
-/
theorem resolve_changesOnlyByWinning
    {before after : Selector}
    {knowledge : KnowledgeBase}
    (inUse : before.Reachable)
    (stillInUse : after.Reachable)
    (loaded : knowledge.Reachable)
    (context : Context) :
    ∃ best?,
      IsChampion (eligible knowledge context) best? ∧
        (before.resolve knowledge context).1 = best?.map Candidate.selected ∧
        (∀ category,
          let wins := ∃ newcomer ∈ newcomer? knowledge context category, newcomer.Prevails best?
          let result := (after.resolve (knowledge.add category).2 context).1
          ((∃ bindings, result = some ⟨category, bindings⟩) ↔ wins) ∧
            (∀ newcomer ∈ newcomer? knowledge context category,
              newcomer.Prevails best? → result = some newcomer.selected) ∧
            (¬ wins → result = (before.resolve knowledge context).1)) ∧
        ∀ category serial,
          (∀ best ∈ best?, best.rule.isKnownBy category.signature serial = false) →
            (after.resolve (knowledge.remove category serial).2 context).1 =
              (before.resolve knowledge context).1 := by
  have orderly := loaded.orderly
  have selects := inUse.resolve_eq_bestCandidate? loaded context
  refine ⟨bestCandidate? (eligible knowledge context), orderly.isChampion context, selects, ?_, ?_⟩
  · intro category wins result
    have selectsAfter : result = _ :=
      stillInUse.resolve_eq_bestCandidate? (.add category loaded) context
    have taken (newcomer : Candidate)
        (isNewcomer : newcomer ∈ newcomer? knowledge context category)
        (prevails : newcomer.Prevails (bestCandidate? (eligible knowledge context))) :
        result = some newcomer.selected := by
      rw [selectsAfter, orderly.bestCandidate?_add_of_prevails isNewcomer prevails]
      rfl
    have kept (yields : ¬ wins) : result = (before.resolve knowledge context).1 := by
      rw [selectsAfter, orderly.bestCandidate?_add_of_not_prevails, selects]
      intro newcomer isNewcomer prevails
      exact yields ⟨newcomer, isNewcomer, prevails⟩
    refine ⟨⟨?_, ?_⟩, taken, kept⟩
    · rintro ⟨bindings, isCategory⟩
      by_contra yields
      -- What was selected before would be of the same category and stand level.
      rw [kept yields, selects] at isCategory
      obtain ⟨best, found, isSelected⟩ := Option.map_eq_some_iff.mp isCategory
      have sameCategory : best.rule.category = category := congrArg Selected.category isSelected
      obtain ⟨newcomer, isNewcomer, level⟩ :=
        orderly.exists_newcomer (bestCandidate?_spec found).1
      rw [sameCategory] at isNewcomer
      refine yields ⟨newcomer, isNewcomer, ?_⟩
      rw [found]
      exact Or.inl level.symm
    · rintro ⟨newcomer, isNewcomer, prevails⟩
      refine ⟨newcomer.bindings, ?_⟩
      rw [taken newcomer isNewcomer prevails, Candidate.selected,
        rule_of_candidate? isNewcomer]
      rfl
  · intro category serial another
    rw [stillInUse.resolve_eq_bestCandidate? (.remove category serial loaded) context,
      orderly.bestCandidate?_remove another, selects]

/-- One more copy is level with the copy that was selected, which removing the oldest one keeps. -/
theorem resolve_changesOnlyByWinning_rivals :
    let selector := Selector.ofSettings {}
    let greeted : Context := ⟨"Hello there!".toList, [], []⟩
    let copy := Category.plain "HELLO *".toList "Hello!".toList
    let oldest := Category.plain "HELLO *".toList "Hi.".toList
    (∃ newcomer ∈ newcomer? rivals greeted copy,
        newcomer.Prevails (bestCandidate? (eligible rivals greeted))) ∧
      (rivals.remove oldest 0).1 = true ∧
      (selector.resolve (rivals.remove oldest 0).2 greeted).1 =
        (selector.resolve rivals greeted).1 := by
  intro selector greeted copy oldest
  obtain ⟨best?, champion, _, added, removed⟩ :=
    resolve_changesOnlyByWinning (.create {}) (.create {}) (.load _ _ _ _ : rivals.Reachable) greeted
  obtain rfl := champion.bestCandidate?_eq
  refine ⟨(added copy).1.mp ⟨⟨["there".toList], [], []⟩, ?_⟩, ?_, removed oldest 0 ?_⟩
  · decide +kernel
  · decide +kernel
  · decide +kernel

end Colloquy
