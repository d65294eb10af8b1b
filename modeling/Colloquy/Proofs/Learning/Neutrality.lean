import Colloquy.Proofs.Learning.Ownership
import Colloquy.Proofs.Selection.Renumbering
import Mathlib.Order.Monotone.Basic

namespace Colloquy

/-!
# Unlearning undoes learning

A session learns a category and unlearns it later. In between, other sessions
learn and unlearn. The outcome is compared with a run in which the session did
neither. Rules that came later have serial numbers that are greater by one, but
the categories, their order, the logs and all that is selected are the same.
The logs may tell rules that are no longer there, and two of them may tell the same
rule, as the log of a session and that of its copy do.
-/

/-- The session that learns or unlearns in an act. -/
def Act.learner? {ι : Type} : Act ι → Option ι
  | .learn who _ _ => some who
  | .unlearn who _ => some who
  | _ => none

/-! ## Making room for a serial number -/

/-- The numbers from a serial number on are moved up, so that it is free. -/
def makeRoom
    (serial number : Nat) :
    Nat :=
  if number < serial then number else number + 1

theorem makeRoom_of_lt
    {serial number : Nat}
    (less : number < serial) :
    makeRoom serial number = number :=
  if_pos less

theorem makeRoom_of_le
    {serial number : Nat}
    (atLeast : serial ≤ number) :
    makeRoom serial number = number + 1 :=
  if_neg (Nat.not_lt.mpr atLeast)

/-- Making room keeps the order of numbers. -/
theorem strictMono_makeRoom (serial : Nat) :
    StrictMono (makeRoom serial) := by
  intro first second less
  unfold makeRoom
  split <;> split <;> omega

/-- The log entry under another serial number. -/
def LearnedRule.renumber
    (number : Nat → Nat)
    (entry : LearnedRule) :
    LearnedRule :=
  { entry with serial := number entry.serial }

/-- A category describes itself. -/
theorem unlearns_self (category : Category) :
    unlearns category category = true := by
  have agrees (constraint : Option Text) : constraintAgrees constraint constraint = true := by
    cases constraint <;> simp [constraintAgrees]
  simp [unlearns, agrees]

namespace Community

variable {ι : Type}

/-! ## Two runs side by side -/

/-- One community is the other besides a rule that a session learned on top of its log. -/
structure Besides
    (who : ι)
    (log : List LearnedRule)
    (extra : LearnedRule)
    (alone besides : Community ι) :
    Prop where
  nextSerial : besides.nextSerial = alone.nextSerial + 1
  numbered : extra.serial ≤ alone.nextSerial
  rules : besides.rules.filter (fun rule => rule.serial ≠ extra.serial) =
    alone.rules.map (Rule.renumber (makeRoom extra.serial))
  learned : ∀ rule ∈ besides.rules,
    rule.serial = extra.serial →
    rule.category = extra.category
  idle : alone.log who = log
  own : besides.log who = log ++ [extra]
  others : ∀ other, other ≠ who →
    besides.log other = (alone.log other).map (LearnedRule.renumber (makeRoom extra.serial))

namespace Besides

variable
  {who : ι}
  {log : List LearnedRule}
  {extra : LearnedRule}
  {alone besides : Community ι}

theorem rests
    (related : Besides who log extra alone besides)
    {alone' besides' : Community ι}
    (restsAlone : Rests alone alone')
    (restsBesides : Rests besides besides') :
    Besides who log extra alone' besides' := by
  have sameAlone : alone'.rules = alone.rules := congrArg RuleSet.rules restsAlone.ruleSet
  have sameBesides : besides'.rules = besides.rules := congrArg RuleSet.rules restsBesides.ruleSet
  refine ⟨?_, ?_, ?_, ?_, ?_, ?_, ?_⟩
  · rw [restsAlone.nextSerial, restsBesides.nextSerial, related.nextSerial]
  · rw [restsAlone.nextSerial]
    exact related.numbered
  · rw [sameAlone, sameBesides, related.rules]
  · rw [sameBesides]
    exact related.learned
  · rw [restsAlone.log, related.idle]
  · rw [restsBesides.log, related.own]
  · intro other different
    rw [restsAlone.log, restsBesides.log, related.others other different]

/-- What another session's log tells is moved like all numbers. -/
theorem tells_renumber
    (related : Besides who log extra alone besides)
    {other : ι}
    (different : other ≠ who)
    (candidate : Category)
    (rule : Rule) :
    besides.tells other candidate (rule.renumber (makeRoom extra.serial)) =
      alone.tells other candidate rule := by
  have injective := (strictMono_makeRoom extra.serial).injective
  have sameKnown (entry : LearnedRule) :
      (rule.renumber (makeRoom extra.serial)).isKnownBy entry.category.signature
          (makeRoom extra.serial entry.serial) =
        rule.isKnownBy entry.category.signature entry.serial :=
    congrArg (decide (rule.category.signature = entry.category.signature) && ·)
      (decide_eq_decide.mpr injective.eq_iff)
  rw [Community.tells, related.others other different, List.filter_map, List.any_map,
    Community.tells]
  exact congrArg (List.any _) (funext sameKnown)

variable [DecidableEq ι]

/-- A rule that comes later has the next number in both runs. -/
theorem adds
    (related : Besides who log extra alone besides)
    {other : ι}
    (different : other ≠ who)
    {category : Category}
    {alone' besides' : Community ι}
    (addsAlone : Adds category (some other) alone alone')
    (addsBesides : Adds category (some other) besides besides') :
    Besides who log extra alone' besides' := by
  have moved := makeRoom_of_le related.numbered
  have notLearner : ¬ some other = some who := by
    simpa using different
  have later : (Rule.ofCategory category besides.nextSerial).serial ≠ extra.serial := by
    rw [related.nextSerial]
    exact Nat.ne_of_gt (Nat.lt_succ_of_le related.numbered)
  refine ⟨?_, ?_, ?_, ?_, ?_, ?_, ?_⟩
  · rw [addsBesides.nextSerial, addsAlone.nextSerial, related.nextSerial]
  · rw [addsAlone.nextSerial]
    exact Nat.le_succ_of_le related.numbered
  · rw [addsBesides.rules, addsAlone.rules, List.filter_append, List.map_append, related.rules,
      List.filter_cons_of_pos (by simpa using later), related.nextSerial, ← moved]
    rfl
  · intro rule isRule same
    rcases addsBesides.mem_rules.mp isRule with isOld | rfl
    · exact related.learned rule isOld same
    · exact absurd same later
  · rw [addsAlone.log, if_neg notLearner, List.append_nil, related.idle]
  · rw [addsBesides.log, if_neg notLearner, List.append_nil, related.own]
  · intro session isOther
    rw [addsBesides.log, addsAlone.log, related.others session isOther, List.map_append]
    split
    · rw [related.nextSerial, ← moved]
      rfl
    · rfl

/-- Another session unlearns the same in both runs. -/
theorem unlearn
    (related : Besides who log extra alone besides)
    (orderlyAlone : alone.knowledge.Orderly)
    (orderlyBesides : besides.knowledge.Orderly)
    {other : ι}
    (different : other ≠ who)
    (candidate : Category) :
    Besides who log extra (alone.step (.unlearn other candidate))
      (besides.step (.unlearn other candidate)) := by
  have dropsAlone := drops_unlearn orderlyAlone other candidate
  have dropsBesides := drops_unlearn orderlyBesides other candidate
  refine ⟨?_, ?_, ?_, ?_, ?_, ?_, ?_⟩
  · rw [dropsAlone.nextSerial, dropsBesides.nextSerial, related.nextSerial]
  · rw [dropsAlone.nextSerial]
    exact related.numbered
  · rw [rules_unlearn orderlyAlone, rules_unlearn orderlyBesides, List.filter_comm, related.rules,
      List.filter_map]
    congr 1
    apply List.filter_congr
    intro rule _
    simp only [Function.comp_apply, related.tells_renumber different]
  · intro rule isLeft same
    exact related.learned rule (dropsBesides.rules.subset isLeft) same
  · rw [log_unlearn, if_neg different.symm, related.idle]
  · rw [log_unlearn, if_neg different.symm, related.own]
  · intro session isOther
    rw [log_unlearn, log_unlearn, related.others other different, related.others session isOther,
      List.filter_map]
    split <;> rfl

/-- What another session does keeps the runs side by side. -/
theorem step
    (related : Besides who log extra alone besides)
    (orderlyAlone : alone.knowledge.Orderly)
    (orderlyBesides : besides.knowledge.Orderly)
    {other : ι}
    (different : other ≠ who)
    {act : Act ι}
    (byOther : act.learner? = some other) :
    Besides who log extra (alone.step act) (besides.step act) := by
  cases act with
  | learn learner limits candidate =>
      obtain rfl : learner = other := Option.some.inj byOther
      cases verdict : Admission.validate candidate limits with
      | error refusal =>
          exact related.rests (rests_learn alone learner verdict)
            (rests_learn besides learner verdict)
      | ok _ =>
          exact related.adds different (adds_learn alone learner verdict)
            (adds_learn besides learner verdict)
  | unlearn learner candidate =>
      obtain rfl : learner = other := Option.some.inj byOther
      exact related.unlearn orderlyAlone orderlyBesides different candidate
  | add category =>
      simp [Act.learner?] at byOther
  | extend categories =>
      simp [Act.learner?] at byOther
  | reload categories =>
      simp [Act.learner?] at byOther
  | clear session =>
      simp [Act.learner?] at byOther

/-- Whatever others do, the runs stay side by side. -/
theorem run
    (related : Besides who log extra alone besides)
    (numberedAlone : alone.Numbered)
    (numberedBesides : besides.Numbered)
    {acts : List (Act ι)}
    (byOthers : ∀ act ∈ acts, ∃ other, other ≠ who ∧ act.learner? = some other) :
    Besides who log extra (alone.run acts) (besides.run acts) := by
  induction acts generalizing alone besides with
  | nil =>
      exact related
  | cons act rest inductionHypothesis =>
      obtain ⟨other, different, byOther⟩ := byOthers act List.mem_cons_self
      have stepped :=
        related.step numberedAlone.orderly numberedBesides.orderly different byOther
      exact inductionHypothesis stepped (numberedAlone.step act) (numberedBesides.step act)
        fun later member => byOthers later (List.mem_cons_of_mem act member)

omit [DecidableEq ι] in
/-- A category that describes nothing else in the log describes the rule that came on top. -/
theorem unlearn_own
    (related : Besides who log extra alone besides)
    (unknown : ∀ entry ∈ log, unlearns extra.category entry.category = false) :
    (besides.log who).filter (fun entry => unlearns extra.category entry.category) = [extra] ∧
      (besides.log who).filter (fun entry => !unlearns extra.category entry.category) = log := by
  rw [related.own, List.filter_append, List.filter_append]
  have noneDescribed :
      log.filter (fun entry => unlearns extra.category entry.category) = [] := by
    apply List.filter_eq_nil_iff.mpr
    intro entry member
    simp [unknown entry member]
  have allLeft :
      log.filter (fun entry => !unlearns extra.category entry.category) = log := by
    apply List.filter_eq_self.mpr
    intro entry member
    simp [unknown entry member]
  rw [noneDescribed, allLeft]
  simp [unlearns_self]

end Besides

variable [DecidableEq ι]

/-- When the rule was just learned, no number has to be moved. -/
theorem Numbered.besides_learn
    {before : Community ι}
    (numbered : before.Numbered)
    (who : ι)
    {limits : LearningLimits}
    {category : Category}
    (admitted : Admission.validate category limits = .ok ()) :
    Besides who (before.log who) ⟨category, before.nextSerial⟩ before
      (before.step (.learn who limits category)) := by
  have adds := adds_learn before who admitted
  have rulesBelow : ∀ rule ∈ before.rules, rule.serial < before.nextSerial :=
    numbered.orderly.below
  refine ⟨adds.nextSerial, Nat.le_refl _, ?_, ?_, rfl, ?_, ?_⟩
  · have unmoved : ∀ rule ∈ before.rules,
        rule.renumber (makeRoom before.nextSerial) = rule := by
      intro rule isOld
      rw [Rule.renumber, makeRoom_of_lt (rulesBelow rule isOld)]
    have allOld : before.rules.filter (fun rule => rule.serial ≠ before.nextSerial) =
        before.rules := by
      apply List.filter_eq_self.mpr
      intro rule isOld
      simpa using Nat.ne_of_lt (rulesBelow rule isOld)
    rw [adds.rules, List.filter_append, allOld, List.map_congr_left unmoved, List.map_id']
    simp [Rule.ofCategory]
  · intro rule isRule same
    rcases adds.mem_rules.mp isRule with isOld | rfl
    · exact absurd same (Nat.ne_of_lt (rulesBelow rule isOld))
    · rfl
  · simp [adds.log]
  · intro other different
    have unmoved : ∀ entry ∈ before.log other,
        entry.renumber (makeRoom before.nextSerial) = entry := by
      intro entry isOld
      rw [LearnedRule.renumber, makeRoom_of_lt (numbered.below other entry isOld)]
    rw [adds.log, List.map_congr_left unmoved, List.map_id']
    simp [different.symm]

/-- What the session unlearns in the end is the rule that it learned on top. -/
theorem Besides.rules_unlearn_own
    {who : ι}
    {log : List LearnedRule}
    {extra : LearnedRule}
    {alone besides : Community ι}
    (related : Besides who log extra alone besides)
    (orderly : besides.knowledge.Orderly)
    (unknown : ∀ entry ∈ log, unlearns extra.category entry.category = false) :
    (besides.step (.unlearn who extra.category)).rules =
      alone.rules.map (Rule.renumber (makeRoom extra.serial)) := by
  rw [rules_unlearn orderly, ← related.rules]
  apply List.filter_congr
  intro rule isRule
  rw [tells, (related.unlearn_own unknown).1, List.any_cons, List.any_nil, Bool.or_false]
  by_cases same : rule.serial = extra.serial
  · simp [Rule.isKnownBy, same, related.learned rule isRule same]
  · simp [Rule.isKnownBy, same]

/--
The rules are in order and the logs tell only serial numbers that were given, which every
run keeps (`Numbered.run`). A session learns a category that is admitted and that describes
nothing in its log, others learn and unlearn, and the session unlearns the category. Then
one rule was taken out, and the categories, all logs' categories and all that is selected
are those of the run in which the session neither learned nor unlearned.
-/
theorem unlearn_undoes_learn
    (before : Community ι)
    (orderly : before.knowledge.Orderly)
    (below : ∀ session, ∀ entry ∈ before.log session, entry.serial < before.nextSerial)
    (who : ι)
    (limits : LearningLimits)
    (category : Category)
    (admitted : Admission.validate category limits = .ok ())
    (unknown : ∀ entry ∈ before.log who, unlearns category entry.category = false)
    (others : List (Act ι))
    (byOthers : ∀ act ∈ others, ∃ other, other ≠ who ∧ act.learner? = some other) :
    let alone := before.run others
    let learned := before.run (.learn who limits category :: others)
    let after := learned.step (.unlearn who category)
    (unlearn category (learned.sessions who) learned.knowledge).1 = 1 ∧
      after.rules.map (·.category) = alone.rules.map (·.category) ∧
      (∀ session,
        (after.log session).map (·.category) = (alone.log session).map (·.category)) ∧
      ∀ first second : Selector, first.Reachable → second.Reachable → ∀ context,
        (first.resolve after.knowledge context).1 =
          (second.resolve alone.knowledge context).1 := by
  intro alone learned after
  have numbered : before.Numbered := ⟨orderly, below⟩
  have numberedAlone : alone.Numbered := numbered.run others
  have numberedLearned : learned.Numbered := numbered.run _
  have numberedAfter : after.Numbered := numberedLearned.step _
  have related : Besides who (before.log who) ⟨category, before.nextSerial⟩ alone learned :=
    (numbered.besides_learn who admitted).run numbered (numbered.step _) byOthers
  obtain ⟨unlearned, left⟩ := related.unlearn_own unknown
  have rulesAfter : after.rules =
      alone.rules.map (Rule.renumber (makeRoom before.nextSerial)) :=
    related.rules_unlearn_own numberedLearned.orderly unknown
  refine ⟨congrArg List.length unlearned, ?_, ?_, ?_⟩
  · rw [rulesAfter, List.map_map]
    rfl
  · intro session
    rw [log_unlearn, left]
    split
    · next isUnlearner =>
        rw [isUnlearner, related.idle]
    · next different =>
        rw [related.others session different, List.map_map]
        rfl
  · intro first second firstInUse secondInUse context
    rw [firstInUse.resolve_eq_selection numberedAfter.orderly.indexed,
      secondInUse.resolve_eq_selection numberedAlone.orderly.indexed]
    change selection context after.rules = selection context alone.rules
    rw [rulesAfter, selection_map_renumber (strictMono_makeRoom _)]

/-- The second session learned the greeting and was copied, so that two logs tell one rule. -/
def copiedGreeters : Community (Fin 3) where
  knowledge := (greeters.run [.learn false {} greeting]).knowledge
  sessions who := (greeters.run [.learn false {} greeting]).sessions (who = 0)

/-- The copy swaps the greeting while the first session learns and unlearns an equal one. -/
theorem unlearn_undoes_learn_greeting :
    let others := [.unlearn 2 greeting, .learn 2 {} greeting]
    let alone := copiedGreeters.run others
    let learned := copiedGreeters.run (.learn 0 {} greeting :: others)
    let after := learned.step (.unlearn 0 greeting)
    (copiedGreeters.log 1).map (·.serial) = [1] ∧
      (copiedGreeters.log 2).map (·.serial) = [1] ∧
      alone.rules.map (·.serial) = [0, 2] ∧
      after.rules.map (·.serial) = [0, 3] ∧
      after.rules.map (·.category) = alone.rules.map (·.category) ∧
      ∀ context,
        ((Selector.ofSettings {}).resolve after.knowledge context).1 =
          ((Selector.ofSettings {}).resolve alone.knowledge context).1 := by
  intro others alone learned after
  have orderly : copiedGreeters.knowledge.Orderly :=
    ((owned_of_nothingLearned (KnowledgeBase.Reachable.load _ _ _ _).orderly
      (fun who => by cases who <;> rfl)).run [.learn false {} greeting]).orderly
  obtain ⟨_, categories, _, selected⟩ :=
    unlearn_undoes_learn copiedGreeters orderly (by decide +kernel) 0 {} greeting
      (by decide +kernel) (by decide +kernel) others (by simp [others, Act.learner?])
  exact ⟨by decide +kernel, by decide +kernel, by decide +kernel, by decide +kernel, categories,
    selected _ _ (.create _) (.create _)⟩

end Community

end Colloquy
