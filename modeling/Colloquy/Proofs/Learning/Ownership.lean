import Colloquy.Learning.Learner
import Colloquy.Proofs.Rule.Removal
import Mathlib.Data.List.Basic
import Mathlib.Data.List.Pairwise
import Mathlib.Logic.Function.Basic

namespace Colloquy

/-!
# Who owns a learned rule

Any number of sessions share a knowledge base. They learn and unlearn, forget
what they remember, and meanwhile rules are loaded and reloaded. What a session
learned is told by the serial numbers in its log. No two entries of any logs have
the same one, and a rule with such a number is the one that was learned. So
unlearning takes out rules of the session itself and nothing else, and until the
next reload every learned rule stays as long as it is in a log.
-/

/-- Sessions that share a knowledge base. -/
structure Community (ι : Type) where
  knowledge : KnowledgeBase
  sessions : ι → Session

/-- What may happen to the rules and logs of a community. -/
inductive Act (ι : Type) where
  | learn (who : ι) (limits : LearningLimits) (candidate : Category)
  | unlearn (who : ι) (candidate : Category)
  | add (category : Category)
  | extend (categories : List Category)
  | reload (categories : List Category)
  | clear (who : ι)

/-- The act replaces all rules. -/
def Act.isReload {ι : Type} : Act ι → Bool
  | .reload _ => true
  | _ => false

namespace Community

variable {ι : Type}

/-- What a session has learned and not unlearned. -/
def log
    (community : Community ι)
    (who : ι) :
    List LearnedRule :=
  (community.sessions who).learned

/-- The rules of the knowledge base, in order. -/
def rules (community : Community ι) : List Rule :=
  community.knowledge.rules.rules

/-- The serial number that the next rule will have. -/
def nextSerial (community : Community ι) : Nat :=
  community.knowledge.nextSerial

/-- The serial numbers of what a session learned and a candidate describes. -/
def serialsDescribed
    (community : Community ι)
    (who : ι)
    (candidate : Category) :
    List Nat :=
  ((community.log who).filter fun entry => unlearns candidate entry.category).map (·.serial)

/-- The rule of a log entry is there, with its category and its serial number. -/
def Holds
    (community : Community ι)
    (entry : LearnedRule) :
    Prop :=
  ∃ rule ∈ community.rules, rule.category = entry.category ∧ rule.serial = entry.serial

/-! ## Ownership -/

/-- No two entries of any logs have the same serial number. -/
structure SerialsDistinct (community : Community ι) : Prop where
  within : ∀ who,
    (community.log who).Pairwise fun first second => first.serial ≠ second.serial
  between : ∀ who other, who ≠ other →
    ∀ entry ∈ community.log who, ∀ foreign ∈ community.log other, entry.serial ≠ foreign.serial

/-- The rules are in order, and no log tells a serial number that is still to be given. -/
structure Numbered (community : Community ι) : Prop where
  orderly : community.knowledge.Orderly
  below : ∀ who, ∀ entry ∈ community.log who, entry.serial < community.nextSerial

/-- Serial numbers tell which rules were learned, and by which session. -/
structure Owned (community : Community ι) : Prop extends Numbered community where
  serials : community.SerialsDistinct
  own : ∀ who, ∀ entry ∈ community.log who, ∀ rule ∈ community.rules,
    rule.serial = entry.serial →
    rule.category = entry.category

/-- In one log, entries with the same serial number are the same. -/
theorem SerialsDistinct.eq_of_serial_eq
    {community : Community ι}
    (distinct : community.SerialsDistinct)
    {who : ι}
    {first second : LearnedRule}
    (isFirst : first ∈ community.log who)
    (isSecond : second ∈ community.log who)
    (same : first.serial = second.serial) :
    first = second := by
  by_contra different
  have symmetric :
      Std.Symm fun first second : LearnedRule => first.serial ≠ second.serial :=
    ⟨fun _ _ => Ne.symm⟩
  exact (distinct.within who).forall isFirst isSecond different same

/-! ## What an act takes away -/

/-- Nothing was added, and what is left is in its order. -/
structure Drops (before after : Community ι) : Prop where
  indexed : after.knowledge.rules.Indexed
  nextSerial : after.nextSerial = before.nextSerial
  rules : after.rules.Sublist before.rules
  log : ∀ who, (after.log who).Sublist (before.log who)

/-- The rules that logs still tell were spared. -/
def Spares (before after : Community ι) : Prop :=
  ∀ who, ∀ entry ∈ after.log who, ∀ rule ∈ before.rules,
    rule.serial = entry.serial →
    rule ∈ after.rules

/-- Rules, numbers and logs are what they were. -/
structure Rests (before after : Community ι) : Prop where
  ruleSet : after.knowledge.rules = before.knowledge.rules
  nextSerial : after.nextSerial = before.nextSerial
  log : ∀ who, after.log who = before.log who

/-- If only logs lose something, all rules are spared. -/
theorem drops_and_spares_of_rules_eq
    {before after : Community ι}
    (orderly : before.knowledge.Orderly)
    (ruleSet : after.knowledge.rules = before.knowledge.rules)
    (nextSerial : after.nextSerial = before.nextSerial)
    (log : ∀ who, (after.log who).Sublist (before.log who)) :
    Drops before after ∧ Spares before after := by
  have sameRules : after.rules = before.rules := congrArg RuleSet.rules ruleSet
  refine ⟨⟨?_, nextSerial, ?_, log⟩, ?_⟩
  · rw [ruleSet]
    exact orderly.indexed
  · rw [sameRules]
  · intro who entry _ rule isRule _
    rw [sameRules]
    exact isRule

/-- With empty logs there is nothing to own. -/
theorem owned_of_nothingLearned
    {community : Community ι}
    (orderly : community.knowledge.Orderly)
    (nothingLearned : ∀ who, community.log who = []) :
    community.Owned := by
  refine ⟨⟨orderly, ?_⟩, ⟨?_, ?_⟩, ?_⟩
  all_goals simp [nothingLearned]

/-- What is left is numbered if all was. -/
theorem Numbered.drops
    {before after : Community ι}
    (numbered : before.Numbered)
    (drops : Drops before after) :
    after.Numbered := by
  refine ⟨⟨drops.indexed, numbered.orderly.ascending.sublist drops.rules, ?_⟩, ?_⟩
  · intro rule member
    change rule.serial < after.nextSerial
    rw [drops.nextSerial]
    exact numbered.orderly.below rule (drops.rules.subset member)
  · intro who entry member
    rw [drops.nextSerial]
    exact numbered.below who entry ((drops.log who).subset member)

/-- What is left is owned if all was. -/
theorem Owned.drops
    {before after : Community ι}
    (owned : before.Owned)
    (drops : Drops before after) :
    after.Owned := by
  have fromLog {who : ι} {entry : LearnedRule} (member : entry ∈ after.log who) :
      entry ∈ before.log who :=
    (drops.log who).subset member
  refine ⟨owned.toNumbered.drops drops, ⟨?_, ?_⟩, ?_⟩
  · intro who
    exact (owned.serials.within who).sublist (drops.log who)
  · intro who other different entry isEntry foreign isForeign
    exact owned.serials.between who other different entry (fromLog isEntry) foreign
      (fromLog isForeign)
  · intro who entry member rule isRule same
    exact owned.own who entry (fromLog member) rule (drops.rules.subset isRule) same

variable [DecidableEq ι]

/-! ## What an act adds -/

/-- A rule was added with the next serial number, and perhaps a session learned it. -/
structure Adds
    (category : Category)
    (learner : Option ι)
    (before after : Community ι) :
    Prop where
  ruleSet : after.knowledge.rules = before.knowledge.rules.push category before.nextSerial
  nextSerial : after.nextSerial = before.nextSerial + 1
  log : ∀ who, after.log who =
    before.log who ++ if learner = some who then [⟨category, before.nextSerial⟩] else []

section Adds

variable
  {category : Category}
  {learner : Option ι}
  {before after : Community ι}

/-- A log entry is an old one, or the one of the rule that was added. -/
theorem Adds.mem_log
    (adds : Adds category learner before after)
    {who : ι}
    {entry : LearnedRule}
    (member : entry ∈ after.log who) :
    entry ∈ before.log who ∨
      entry = ⟨category, before.nextSerial⟩ ∧ learner = some who := by
  rw [adds.log, List.mem_append] at member
  rcases member with isOld | isNew
  · exact Or.inl isOld
  · split at isNew
    · next learned =>
        exact Or.inr ⟨List.mem_singleton.mp isNew, learned⟩
    · simp at isNew

theorem Adds.rules
    (adds : Adds category learner before after) :
    after.rules = before.rules ++ [Rule.ofCategory category before.nextSerial] := by
  rw [Community.rules, adds.ruleSet, RuleSet.rules_push]
  rfl

/-- A rule is an old one or the one that was added. -/
theorem Adds.mem_rules
    (adds : Adds category learner before after)
    {rule : Rule} :
    rule ∈ after.rules ↔
      rule ∈ before.rules ∨ rule = Rule.ofCategory category before.nextSerial := by
  rw [adds.rules, List.mem_append, List.mem_singleton]

/-- A rule that is added takes the number that was still to be given. -/
theorem Numbered.adds
    (numbered : before.Numbered)
    (adds : Adds category learner before after) :
    after.Numbered := by
  have orderly := numbered.orderly.add category
  refine ⟨⟨?_, ?_, ?_⟩, ?_⟩
  · rw [adds.ruleSet]
    exact orderly.indexed
  · rw [adds.ruleSet]
    exact orderly.ascending
  · intro rule member
    rw [adds.ruleSet] at member
    change rule.serial < after.nextSerial
    rw [adds.nextSerial]
    exact orderly.below rule member
  · intro who entry member
    rw [adds.nextSerial]
    rcases adds.mem_log member with old | ⟨rfl, _⟩
    · exact Nat.lt_succ_of_lt (numbered.below who entry old)
    · exact Nat.lt_succ_self _

/-- A rule that is added belongs to the session that learned it, if one did. -/
theorem Owned.adds
    (owned : before.Owned)
    (adds : Adds category learner before after) :
    after.Owned := by
  have oldBelow := owned.below
  refine ⟨owned.toNumbered.adds adds, ⟨?_, ?_⟩, ?_⟩
  · intro who
    rw [adds.log, List.pairwise_append]
    refine ⟨owned.serials.within who, ?_, ?_⟩
    · split <;> simp
    · intro entry isOld new isNew
      split at isNew
      · rw [List.mem_singleton.mp isNew]
        exact Nat.ne_of_lt (oldBelow who entry isOld)
      · simp at isNew
  · intro who other different entry isEntry foreign isForeign
    rcases adds.mem_log isEntry with old | ⟨rfl, isLearner⟩
    · rcases adds.mem_log isForeign with oldForeign | ⟨rfl, _⟩
      · exact owned.serials.between who other different entry old foreign oldForeign
      · exact Nat.ne_of_lt (oldBelow who entry old)
    · rcases adds.mem_log isForeign with oldForeign | ⟨_, isOther⟩
      · exact Nat.ne_of_gt (oldBelow other foreign oldForeign)
      · rw [isLearner, Option.some.injEq] at isOther
        exact absurd isOther different
  -- The new rule and the new entry have a number that neither rules nor logs had before.
  · intro who entry member rule isRule same
    rcases adds.mem_log member with old | ⟨rfl, _⟩
    · rcases adds.mem_rules.mp isRule with oldRule | rfl
      · exact owned.own who entry old rule oldRule same
      · exact absurd same (Nat.ne_of_gt (oldBelow who entry old))
    · rcases adds.mem_rules.mp isRule with oldRule | rfl
      · exact absurd same (Nat.ne_of_lt (owned.orderly.below rule oldRule))
      · rfl

end Adds

/-! ## Acts -/

/-- One act. -/
def step
    (community : Community ι) :
    Act ι →
    Community ι
  | .learn who limits candidate =>
      let outcome := learn limits candidate (community.sessions who) community.knowledge
      ⟨outcome.2.2, Function.update community.sessions who outcome.2.1⟩
  | .unlearn who candidate =>
      let outcome := unlearn candidate (community.sessions who) community.knowledge
      ⟨outcome.2.2, Function.update community.sessions who outcome.2.1⟩
  | .add category =>
      { community with knowledge := (community.knowledge.add category).2 }
  | .extend categories =>
      { community with knowledge := community.knowledge.extend categories }
  | .reload categories =>
      { community with knowledge := community.knowledge.reload categories }
  | .clear who =>
      { community with
        sessions := Function.update community.sessions who (community.sessions who).clear }

/-- One act after the other. -/
def run
    (community : Community ι)
    (acts : List (Act ι)) :
    Community ι :=
  acts.foldl step community

/-- Changing a session changes its own log only. -/
theorem log_update
    (knowledge : KnowledgeBase)
    (sessions : ι → Session)
    (who other : ι)
    (session : Session) :
    log ⟨knowledge, Function.update sessions who session⟩ other =
      if other = who then session.learned else (sessions other).learned := by
  simp only [log, Function.update_apply]
  split <;> rfl

theorem adds_add
    (community : Community ι)
    (category : Category) :
    Adds category none community (community.step (.add category)) where
  ruleSet := rfl
  nextSerial := rfl
  log who := by simp [step, Community.log]

/-- A candidate that is admitted is added as a new rule, which the session learned. -/
theorem adds_learn
    (community : Community ι)
    (who : ι)
    {limits : LearningLimits}
    {candidate : Category}
    (admitted : Admission.validate candidate limits = .ok ()) :
    Adds candidate (some who) community (community.step (.learn who limits candidate)) := by
  simp only [step, learn, admitted]
  refine ⟨rfl, rfl, ?_⟩
  intro other
  rw [log_update]
  by_cases isLearner : other = who
  · subst isLearner
    simp [Community.log, KnowledgeBase.add, nextSerial]
  · have notLearner : ¬ some who = some other := by
      simpa using Ne.symm isLearner
    simp [isLearner, notLearner, Community.log]

/-- A candidate that is refused changes neither rules nor logs. -/
theorem rests_learn
    (community : Community ι)
    (who : ι)
    {limits : LearningLimits}
    {candidate : Category}
    {refusal : Admission.Refusal}
    (refused : Admission.validate candidate limits = .error refusal) :
    Rests community (community.step (.learn who limits candidate)) := by
  simp only [step, learn, refused]
  refine ⟨rfl, rfl, ?_⟩
  intro other
  rw [log_update]
  split
  · next isLearner =>
      subst isLearner
      rfl
  · rfl

/-- A candidate is learned as a new rule, or else rules and logs stay as they are. -/
theorem adds_or_spares_learn
    {community : Community ι}
    (orderly : community.knowledge.Orderly)
    (who : ι)
    (limits : LearningLimits)
    (candidate : Category) :
    let after := community.step (.learn who limits candidate)
    Adds candidate (some who) community after ∨
      Drops community after ∧ Spares community after := by
  cases verdict : Admission.validate candidate limits with
  | error refusal =>
      right
      have rests := rests_learn community who verdict
      refine drops_and_spares_of_rules_eq orderly rests.ruleSet rests.nextSerial ?_
      intro other
      rw [rests.log]
  | ok _ =>
      left
      exact adds_learn community who verdict

/-- Clearing a session takes its log and spares all rules. -/
theorem drops_and_spares_clear
    {community : Community ι}
    (orderly : community.knowledge.Orderly)
    (who : ι) :
    Drops community (community.step (.clear who)) ∧
      Spares community (community.step (.clear who)) := by
  refine drops_and_spares_of_rules_eq orderly rfl rfl ?_
  intro other
  simp only [step, log_update]
  split
  · exact List.nil_sublist _
  · exact List.Sublist.refl _

/-! ## Unlearning -/

/-- Removing what a log tells takes out the rules with the signatures and numbers told. -/
theorem removeAll_spec
    {knowledge : KnowledgeBase}
    (orderly : knowledge.Orderly)
    (entries : List LearnedRule) :
    let shrunk := entries.foldl
      (fun knowledge entry => (knowledge.remove entry.category entry.serial).2) knowledge
    shrunk.Orderly ∧ shrunk.nextSerial = knowledge.nextSerial ∧
      shrunk.rules.rules = knowledge.rules.rules.filter fun rule =>
        entries.all fun entry => !rule.isKnownBy entry.category.signature entry.serial := by
  induction entries generalizing knowledge with
  | nil =>
      exact ⟨orderly, rfl, (List.filter_eq_self.mpr fun _ _ => rfl).symm⟩
  | cons entry rest inductionHypothesis =>
      obtain ⟨stillOrderly, sameSerial, left⟩ :=
        inductionHypothesis (orderly.remove entry.category entry.serial)
      refine ⟨stillOrderly, ?_, ?_⟩
      · rw [List.foldl_cons, sameSerial, KnowledgeBase.nextSerial_remove]
      · rw [List.foldl_cons, left, orderly.rules_remove, List.filter_filter]
        simp only [List.all_cons, Bool.and_comm]

/-- Unlearning takes what the candidate describes from the session's own log. -/
theorem log_unlearn
    (community : Community ι)
    (who : ι)
    (candidate : Category)
    (other : ι) :
    (community.step (.unlearn who candidate)).log other =
      if other = who then
        (community.log who).filter fun entry => !unlearns candidate entry.category
      else
        community.log other := by
  simp only [step, unlearn, log_update]
  rfl

/-- A session's log tells the rule under a category that the candidate describes. -/
def tells
    (community : Community ι)
    (who : ι)
    (candidate : Category)
    (rule : Rule) :
    Bool :=
  ((community.log who).filter fun entry => unlearns candidate entry.category).any
    fun entry => rule.isKnownBy entry.category.signature entry.serial

/-- Unlearning takes out the rules that the session's log tells. -/
theorem rules_unlearn
    {community : Community ι}
    (orderly : community.knowledge.Orderly)
    (who : ι)
    (candidate : Category) :
    (community.step (.unlearn who candidate)).rules =
      community.rules.filter fun rule => !community.tells who candidate rule := by
  obtain ⟨_, _, left⟩ := removeAll_spec orderly
    ((community.log who).filter fun entry => unlearns candidate entry.category)
  refine Eq.trans left (List.filter_congr ?_)
  intro rule _
  rw [tells, List.not_any_eq_all_not]

/-- Unlearning adds nothing and gives no serial number. -/
theorem drops_unlearn
    {community : Community ι}
    (orderly : community.knowledge.Orderly)
    (who : ι)
    (candidate : Category) :
    Drops community (community.step (.unlearn who candidate)) := by
  obtain ⟨stillOrderly, sameSerial, _⟩ := removeAll_spec orderly
    ((community.log who).filter fun entry => unlearns candidate entry.category)
  refine ⟨stillOrderly.indexed, sameSerial, ?_, ?_⟩
  · rw [rules_unlearn orderly]
    exact List.filter_sublist
  · intro other
    rw [log_unlearn]
    split
    · next isUnlearner =>
        rw [isUnlearner]
        exact List.filter_sublist
    · exact List.Sublist.refl _

namespace Owned

variable {community : Community ι}

/-- If rules are owned, the serial numbers alone say which rules a log tells. -/
theorem rules_unlearn
    (owned : community.Owned)
    (who : ι)
    (candidate : Category) :
    (community.step (.unlearn who candidate)).rules =
      community.rules.filter fun rule =>
        rule.serial ∉ community.serialsDescribed who candidate := by
  rw [Community.rules_unlearn owned.orderly]
  apply List.filter_congr
  intro rule isRule
  rw [Bool.eq_iff_iff]
  simp only [tells, Bool.not_eq_true', List.any_eq_false, decide_eq_true_eq, serialsDescribed,
    List.mem_map, not_exists, not_and]
  constructor
  · intro unknown entry isDescribed same
    -- The entry tells the rule's number, so it tells its category and signature too.
    have inLog := (List.mem_filter.mp isDescribed).1
    have sameCategory := owned.own who entry inLog rule isRule same.symm
    have notKnown := unknown entry isDescribed
    simp [Rule.isKnownBy, sameCategory, same] at notKnown
  · intro differs entry isDescribed
    have different : ¬ rule.serial = entry.serial := fun same => differs entry isDescribed same.symm
    simp [Rule.isKnownBy, different]

/-- What stays in a log was not described by the candidate, or is another session's. -/
theorem spares_unlearn
    (owned : community.Owned)
    (who : ι)
    (candidate : Category) :
    Spares community (community.step (.unlearn who candidate)) := by
  intro other entry isLeft rule isRule same
  rw [owned.rules_unlearn, List.mem_filter]
  refine ⟨isRule, ?_⟩
  simp only [decide_eq_true_eq, serialsDescribed, List.mem_map, not_exists, not_and]
  intro described isDescribed sameSerial
  obtain ⟨inLog, isMeant⟩ := List.mem_filter.mp isDescribed
  rw [log_unlearn] at isLeft
  split at isLeft
  · obtain ⟨stays, isNotMeant⟩ := List.mem_filter.mp isLeft
    have isEntry := owned.serials.eq_of_serial_eq inLog stays (sameSerial.trans same)
    simp [← isEntry, isMeant] at isNotMeant
  · next different =>
      exact owned.serials.between other who different entry isLeft described inLog
        (same.symm.trans sameSerial.symm)

end Owned

/-! ## Runs -/

theorem run_append
    (community : Community ι)
    (earlier later : List (Act ι)) :
    community.run (earlier ++ later) = (community.run earlier).run later :=
  List.foldl_append

/-- What each addition keeps is kept by many. -/
theorem step_extend
    {property : Community ι → Prop}
    (step_add : ∀ community category,
      property community →
      property (community.step (.add category)))
    (categories : List Category)
    {community : Community ι}
    (holds : property community) :
    property (community.step (.extend categories)) := by
  induction categories generalizing community with
  | nil =>
      exact holds
  | cons category rest inductionHypothesis =>
      exact inductionHypothesis (step_add community category holds)

/-- What additions and losses keep is kept by every act. -/
theorem step_of_adds_of_drops
    {property : Community ι → Prop}
    (orderly : ∀ {community}, property community → community.knowledge.Orderly)
    (adds : ∀ {before after category learner},
      property before →
      Adds category learner before after →
      property after)
    (drops : ∀ {before after}, property before → Drops before after → property after)
    {community : Community ι}
    (holds : property community)
    (act : Act ι) :
    property (community.step act) := by
  have step_add (community : Community ι) (category : Category) (holds : property community) :
      property (community.step (.add category)) :=
    adds holds (adds_add community category)
  cases act with
  | learn who limits candidate =>
      rcases adds_or_spares_learn (orderly holds) who limits candidate with added | ⟨dropped, _⟩
      · exact adds holds added
      · exact drops holds dropped
  | unlearn who candidate =>
      exact drops holds (drops_unlearn (orderly holds) who candidate)
  | add category =>
      exact step_add community category holds
  | extend categories =>
      exact step_extend step_add categories holds
  | reload categories =>
      -- Reloading is dropping all rules and then loading others.
      let emptied : Community ι :=
        { community with knowledge := { community.knowledge with rules := RuleSet.empty } }
      have dropped : Drops community emptied :=
        ⟨RuleSet.indexed_empty, rfl, List.nil_sublist _, fun _ => List.Sublist.refl _⟩
      exact step_extend step_add categories (drops holds dropped)
  | clear who =>
      exact drops holds (drops_and_spares_clear (orderly holds) who).1

/-- What every act keeps is kept by a run. -/
theorem run_of_step
    {property : Community ι → Prop}
    (step : ∀ {community}, property community → ∀ act, property (community.step act))
    {community : Community ι}
    (holds : property community)
    (acts : List (Act ι)) :
    property (community.run acts) := by
  induction acts generalizing community with
  | nil =>
      exact holds
  | cons act rest inductionHypothesis =>
      exact inductionHypothesis (step holds act)

theorem Numbered.step
    {community : Community ι}
    (numbered : community.Numbered)
    (act : Act ι) :
    (community.step act).Numbered :=
  step_of_adds_of_drops Numbered.orderly Numbered.adds Numbered.drops numbered act

/-- No act gives a serial number twice or logs one that was not given. -/
theorem Numbered.run
    {community : Community ι}
    (numbered : community.Numbered)
    (acts : List (Act ι)) :
    (community.run acts).Numbered :=
  run_of_step Numbered.step numbered acts

theorem Owned.step
    {community : Community ι}
    (owned : community.Owned)
    (act : Act ι) :
    (community.step act).Owned :=
  step_of_adds_of_drops (fun owned => owned.orderly) Owned.adds Owned.drops owned act

/-- Ownership is kept by every run. -/
theorem Owned.run
    {community : Community ι}
    (owned : community.Owned)
    (acts : List (Act ι)) :
    (community.run acts).Owned :=
  run_of_step Owned.step owned acts

/-! ## Since the last reload -/

/-- What the logs gained since an earlier moment has its rules. -/
structure Since (origin now : Community ι) : Prop where
  nextSerial : origin.nextSerial ≤ now.nextSerial
  log : ∀ who, ∀ entry ∈ now.log who,
    entry ∈ origin.log who ∨ origin.nextSerial ≤ entry.serial
  holds : ∀ who, ∀ entry ∈ now.log who,
    origin.nextSerial ≤ entry.serial →
    now.Holds entry

namespace Since

variable {origin before after : Community ι}

omit [DecidableEq ι] in
theorem refl
    (owned : origin.Owned) :
    Since origin origin where
  nextSerial := Nat.le_refl _
  log _ _ member := Or.inl member
  holds who entry member isNew := absurd (owned.below who entry member) (Nat.not_lt.mpr isNew)

theorem adds
    (since : Since origin before)
    {category : Category}
    {learner : Option ι}
    (adds : Adds category learner before after) :
    Since origin after := by
  refine ⟨?_, ?_, ?_⟩
  · rw [adds.nextSerial]
    exact Nat.le_succ_of_le since.nextSerial
  · intro who entry member
    rcases adds.mem_log member with old | ⟨rfl, _⟩
    · exact since.log who entry old
    · exact Or.inr since.nextSerial
  · intro who entry member isNew
    rcases adds.mem_log member with old | ⟨rfl, _⟩
    · obtain ⟨rule, isRule, told⟩ := since.holds who entry old isNew
      exact ⟨rule, adds.mem_rules.mpr (Or.inl isRule), told⟩
    · exact ⟨_, adds.mem_rules.mpr (Or.inr rfl), rfl, rfl⟩

omit [DecidableEq ι] in
/-- What is spared keeps its rules. -/
theorem drops
    (since : Since origin before)
    (drops : Drops before after)
    (spares : Spares before after) :
    Since origin after := by
  refine ⟨?_, ?_, ?_⟩
  · rw [drops.nextSerial]
    exact since.nextSerial
  · intro who entry member
    exact since.log who entry ((drops.log who).subset member)
  · intro who entry member isNew
    obtain ⟨rule, isRule, sameCategory, sameSerial⟩ :=
      since.holds who entry ((drops.log who).subset member) isNew
    exact ⟨rule, spares who entry member rule isRule sameSerial, sameCategory, sameSerial⟩

/-- An act that is no reload keeps what was gained. -/
theorem step
    (since : Since origin before)
    (owned : before.Owned)
    {act : Act ι}
    (noReload : act.isReload = false) :
    Since origin (before.step act) := by
  have step_add (community : Community ι) (category : Category) (since : Since origin community) :
      Since origin (community.step (.add category)) :=
    since.adds (adds_add community category)
  cases act with
  | learn who limits candidate =>
      rcases adds_or_spares_learn owned.orderly who limits candidate with adds | ⟨drops, spares⟩
      · exact since.adds adds
      · exact since.drops drops spares
  | unlearn who candidate =>
      exact since.drops (drops_unlearn owned.orderly who candidate)
        (owned.spares_unlearn who candidate)
  | add category =>
      exact step_add before category since
  | extend categories =>
      exact step_extend step_add categories since
  | reload categories =>
      simp [Act.isReload] at noReload
  | clear who =>
      obtain ⟨drops, spares⟩ := drops_and_spares_clear owned.orderly who
      exact since.drops drops spares

/-- Without a reload, what was gained is kept. -/
theorem run
    (since : Since origin before)
    (owned : before.Owned)
    {acts : List (Act ι)}
    (noReload : ∀ act ∈ acts, act.isReload = false) :
    Since origin (before.run acts) := by
  induction acts generalizing before with
  | nil =>
      exact since
  | cons act rest inductionHypothesis =>
      have stepped := since.step owned (noReload act List.mem_cons_self)
      exact inductionHypothesis stepped (owned.step act)
        fun later member => noReload later (List.mem_cons_of_mem act member)

end Since

/--
In every run that starts with empty logs, no two log entries have the same serial
number; unlearning takes out exactly the rules whose numbers stand in the session's
own log under a category that the candidate describes, and leaves all other rules
as they are and in their order; and what logs gained since the last reload still
has its rules.
-/
theorem run_ownsLearnedRules
    (start : Community ι)
    (loaded : start.knowledge.Reachable)
    (nothingLearned : ∀ who, start.log who = [])
    (acts : List (Act ι)) :
    (start.run acts).SerialsDistinct ∧
      (∀ who candidate,
        ((start.run acts).step (.unlearn who candidate)).rules =
          (start.run acts).rules.filter fun rule =>
            rule.serial ∉ (start.run acts).serialsDescribed who candidate) ∧
      ∀ earlier later,
        acts = earlier ++ later →
        (∀ act ∈ later, act.isReload = false) →
        ∀ who, ∀ entry ∈ (start.run acts).log who,
          entry ∉ (start.run earlier).log who →
          (start.run acts).Holds entry := by
  have startOwned : start.Owned := owned_of_nothingLearned loaded.orderly nothingLearned
  refine ⟨(startOwned.run acts).serials, (startOwned.run acts).rules_unlearn, ?_⟩
  rintro earlier later rfl noReload who entry isEntry isGained
  have midOwned := startOwned.run earlier
  have since : Since (start.run earlier) (start.run (earlier ++ later)) := by
    rw [run_append]
    exact (Since.refl midOwned).run midOwned noReload
  rcases since.log who entry isEntry with isOld | isNew
  · exact absurd isOld isGained
  · exact since.holds who entry isEntry isNew

/-- A greeting that is loaded and that two sessions may learn as well. -/
def greeting : Category :=
  .plain "HELLO".toList "hi".toList

/-- Two sessions and a knowledge base that greets. -/
def greeters : Community Bool where
  knowledge := .ofCategories "greeters".toList .empty .empty [greeting]
  sessions who := .new (if who then "first".toList else "second".toList)

/-- Of three equal rules, unlearning takes out the one that the session learned. -/
theorem run_ownsLearnedRules_copies :
    let acts := [.learn true {} greeting, .learn false {} greeting]
    (greeters.run acts).SerialsDistinct ∧
      ((greeters.run acts).step (.unlearn true greeting)).rules.map (·.serial) = [0, 2] := by
  intro acts
  obtain ⟨distinct, unlearned, _⟩ :=
    run_ownsLearnedRules greeters (.load _ _ _ _) (fun who => by cases who <;> rfl) acts
  refine ⟨distinct, ?_⟩
  rw [unlearned true greeting]
  decide +kernel

end Community

end Colloquy
