import Colloquy.Proofs.Rule.Activation
import Colloquy.Proofs.Selection.Agreement
import Mathlib.Data.List.Induction

namespace Colloquy

/-!
# Selection finds the greatest candidate

Candidates are ordered by their rank, in which only candidates of one rule are
equal. The rule that is selected is that of the greatest among all candidates of
the knowledge base: neither the indexes, nor the required words, nor what the
selector remembers takes part in the answer.
-/

/-! ## The order of candidates -/

namespace Candidate

/-- Ranks are transitive and reverse when their sides are exchanged. -/
instance : Std.TransCmp rank :=
  inferInstanceAs <| Std.TransCmp <|
    compareLex (compareOn fun candidate : Candidate => candidate.rule.category.constraintCount) <|
    compareLex (compareOn fun candidate => candidate.input.found.weights) <|
    compareLex (compareOn fun candidate => constraintWeights candidate.that) <|
    compareLex (compareOn fun candidate => constraintWeights candidate.topic) <|
    compareLex (fun first second => compareOn wildcards second first) <|
    compareOn fun candidate => candidate.rule.serial

/-- Candidates of the same rank are of the same rule. -/
theorem serial_eq_of_rank_eq
    {first second : Candidate}
    (equal : first.rank second = .eq) :
    first.rule.serial = second.rule.serial := by
  simp only [rank, Ordering.then_eq_eq] at equal
  exact Nat.compare_eq_eq.mp equal.2.2.2.2.2

end Candidate

/-- The best of more candidates is the best so far or the last one. -/
theorem bestCandidate?_concat
    (candidates : List Candidate)
    (candidate : Candidate) :
    bestCandidate? (candidates ++ [candidate]) =
      some ((bestCandidate? candidates).elim candidate fun chosen =>
        if chosen.rank candidate = .gt then chosen else candidate) := by
  cases chosen : bestCandidate? candidates with
  | none =>
      simp only [bestCandidate?] at chosen
      simp [bestCandidate?, List.foldl_append, chosen]
  | some champion =>
      simp only [bestCandidate?] at chosen
      simp only [bestCandidate?, List.foldl_append, chosen, List.foldl_cons, List.foldl_nil,
        Option.elim_some]
      split <;> rfl

theorem bestCandidate?_eq_none_iff (candidates : List Candidate) :
    bestCandidate? candidates = none ↔ candidates = [] := by
  cases candidates using List.reverseRecOn with
  | nil =>
      simp [bestCandidate?]
  | append_singleton earlier candidate =>
      simp [bestCandidate?_concat]

/-- The best candidate is one of them and no other is above it. -/
theorem bestCandidate?_spec
    {candidates : List Candidate}
    {best : Candidate}
    (found : bestCandidate? candidates = some best) :
    best ∈ candidates ∧ ∀ other ∈ candidates, (other.rank best).isLE := by
  induction candidates using List.reverseRecOn generalizing best with
  | nil =>
      simp [bestCandidate?] at found
  | append_singleton earlier candidate inductionHypothesis =>
      rw [bestCandidate?_concat, Option.some.injEq] at found
      cases chosen : bestCandidate? earlier with
      | none =>
          rw [bestCandidate?_eq_none_iff] at chosen
          subst chosen found
          simp [bestCandidate?, Std.ReflCmp.compare_self]
      | some champion =>
          obtain ⟨isEarlier, aboveEarlier⟩ := inductionHypothesis chosen
          rw [chosen, Option.elim_some] at found
          split at found
          · next better =>
              subst found
              refine ⟨List.mem_append_left _ isEarlier, ?_⟩
              intro other member
              rcases List.mem_append.mp member with isOld | isNew
              · exact aboveEarlier other isOld
              · rw [List.mem_singleton.mp isNew, Std.OrientedCmp.lt_of_gt better]
                rfl
          · next notBetter =>
              subst found
              have above : (champion.rank candidate).isLE := by
                rwa [← Ordering.isLE_iff_ne_gt] at notBetter
              refine ⟨by simp, ?_⟩
              intro other member
              rcases List.mem_append.mp member with isOld | isNew
              · exact Std.TransCmp.isLE_trans (aboveEarlier other isOld) above
              · rw [List.mem_singleton.mp isNew]
                exact Std.ReflCmp.isLE_rfl

/-! ## Candidates come from rules -/

/-- Matching one more rule finds at most a candidate of this rule. -/
theorem Selector.mem_candidates_consider
    {tag : Text}
    {scene : Scene}
    {tally : Tally}
    {rule : Rule}
    {candidate : Candidate}
    (member : candidate ∈ (consider tag scene tally rule).candidates) :
    candidate ∈ tally.candidates ∨ candidate.rule = rule := by
  unfold consider at member
  split at member
  · exact Or.inl member
  · split at member
    · exact Or.inl member
    · split at member
      · exact Or.inl member
      · rcases List.mem_append.mp member with isOld | isNew
        · exact Or.inl isOld
        · rw [List.mem_singleton.mp isNew]
          exact Or.inr rfl

/-- The candidates found are of the rules that were matched. -/
theorem Selector.mem_candidates_foldl_consider
    {tag : Text}
    {scene : Scene}
    {tally : Tally}
    {rules : List Rule}
    {candidate : Candidate}
    (member : candidate ∈ (rules.foldl (consider tag scene) tally).candidates) :
    candidate ∈ tally.candidates ∨ candidate.rule ∈ rules := by
  induction rules generalizing tally with
  | nil =>
      exact Or.inl member
  | cons rule rest inductionHypothesis =>
      rcases inductionHypothesis member with isEarlier | isLater
      · exact (mem_candidates_consider isEarlier).imp_right fun same => by simp [same]
      · exact Or.inr (List.mem_cons_of_mem rule isLater)

/-- Whatever a selector remembers, it selects one of the rules. -/
theorem Selector.rule_of_resolve
    {selector : Selector}
    {knowledge : KnowledgeBase}
    {context : Context}
    {selected : Selected}
    (isSelected : (selector.resolve knowledge context).1 = some selected) :
    ∃ rule ∈ knowledge.rules.rules, selected.category = rule.category := by
  obtain ⟨best, found, rfl⟩ := Option.map_eq_some_iff.mp isSelected
  obtain ⟨isCandidate, _⟩ := bestCandidate?_spec found
  rcases mem_candidates_foldl_consider isCandidate with isNone | isRule
  · simp at isNone
  · exact ⟨best.rule, RuleSet.mem_rules_of_mem_activate isRule, rfl⟩

/-! ## All candidates of a knowledge base -/

/-- The candidates of all rules, each of which is matched anew. -/
def eligible
    (knowledge : KnowledgeBase)
    (context : Context) :
    List Candidate :=
  knowledge.rules.rules.filterMap (candidate? context)

/-- A candidate is above all others. -/
structure IsGreatest
    (candidates : List Candidate)
    (best : Candidate) :
    Prop where
  member : best ∈ candidates
  above : ∀ other ∈ candidates, other ≠ best → other.rank best = .lt

/-- The selection is that of the greatest candidate, and none only if there is none. -/
def SelectsGreatest (candidates : List Candidate) : Option Selected → Prop
  | none => candidates = []
  | some selected =>
      ∃ best, IsGreatest candidates best ∧ selected = ⟨best.rule.category, best.bindings⟩

/-- The activated rules have the candidates that all rules have. -/
theorem mem_activated_iff_mem_eligible
    {knowledge : KnowledgeBase}
    (indexed : knowledge.rules.Indexed)
    (context : Context)
    (candidate : Candidate) :
    candidate ∈ (knowledge.rules.activate (Utterance.scan context.input)).rules.filterMap
        (candidate? context) ↔
      candidate ∈ eligible knowledge context := by
  simp only [eligible, List.mem_filterMap]
  constructor
  · rintro ⟨rule, activated, found⟩
    exact ⟨rule, RuleSet.mem_rules_of_mem_activate activated, found⟩
  · rintro ⟨rule, isRule, found⟩
    exact ⟨rule, indexed.mem_activate isRule (match?_of_candidate? found), found⟩

/-- Candidates of equal rank are the same. -/
theorem eq_of_rank_eq
    {knowledge : KnowledgeBase}
    (orderly : knowledge.Orderly)
    {context : Context}
    {first second : Candidate}
    (isFirst : first ∈ eligible knowledge context)
    (isSecond : second ∈ eligible knowledge context)
    (equal : first.rank second = .eq) :
    first = second := by
  obtain ⟨firstRule, isFirstRule, foundFirst⟩ := List.mem_filterMap.mp isFirst
  obtain ⟨secondRule, isSecondRule, foundSecond⟩ := List.mem_filterMap.mp isSecond
  have sameSerial := Candidate.serial_eq_of_rank_eq equal
  rw [rule_of_candidate? foundFirst, rule_of_candidate? foundSecond] at sameSerial
  have sameRule := orderly.eq_of_serial_eq isFirstRule isSecondRule sameSerial
  rw [sameRule, foundSecond, Option.some.injEq] at foundFirst
  exact foundFirst.symm

/--
A selector in use selects the greatest of all candidates of a knowledge base in
use, whatever was asked before, was dropped or has expired.
-/
theorem resolve_selectsGreatest
    {selector : Selector}
    {knowledge : KnowledgeBase}
    (inUse : selector.Reachable)
    (loaded : knowledge.Reachable)
    (context : Context) :
    SelectsGreatest (eligible knowledge context) (selector.resolve knowledge context).1 := by
  have orderly := loaded.orderly
  have sameMembers := mem_activated_iff_mem_eligible orderly.indexed context
  rw [(inUse.agrees.resolve knowledge context).value]
  simp only [explanation]
  cases chosen : bestCandidate? _ with
  | none =>
      rw [bestCandidate?_eq_none_iff] at chosen
      refine List.eq_nil_iff_forall_not_mem.mpr ?_
      intro candidate member
      rw [← sameMembers, chosen] at member
      exact absurd member List.not_mem_nil
  | some best =>
      obtain ⟨member, above⟩ := bestCandidate?_spec chosen
      refine ⟨best, ⟨(sameMembers best).mp member, ?_⟩, rfl⟩
      intro other isEligible different
      -- Being no better leaves a tie, which distinct serial numbers rule out.
      have notAbove := above other ((sameMembers other).mpr isEligible)
      rcases Ordering.isLE_iff_eq_lt_or_eq_eq.mp notAbove with isBelow | isEqual
      · exact isBelow
      · exact absurd (eq_of_rank_eq orderly isEligible ((sameMembers best).mp member) isEqual)
          different

/-- Two rules for one greeting, of which one asks for an answer before. -/
def greetings : KnowledgeBase :=
  .ofCategories "greetings".toList .empty .empty
    [(Category.plain "HELLO *".toList "Bob.".toList).withThat "WHO ARE YOU".toList,
      Category.plain "HELLO THERE".toList "Hi.".toList]

/-- A selector with room for one verdict that lives for a millisecond, used once before. -/
def forgetfulSelector : Selector :=
  let settings : Settings := { verdictCache := ⟨1, some 1⟩ }
  let used := ((Selector.ofSettings settings).resolve greetings ⟨"hello".toList, [], []⟩).2
  ⟨used.patterns.await [], used.verdicts.await [0, 1000000, 5]⟩

/-- A constraint met by the last sentence is better than a pattern of plain words. -/
theorem resolve_selectsGreatest_lastSentence :
    (forgetfulSelector.resolve greetings
        ⟨"Hello there!".toList, "Hi. Who are you?".toList, []⟩).1 =
      some ⟨(Category.plain "HELLO *".toList "Bob.".toList).withThat "WHO ARE YOU".toList,
        ⟨["there".toList], [], []⟩⟩ ∧
      SelectsGreatest (eligible greetings ⟨"Hello there!".toList, "Hi. Who are you?".toList, []⟩)
        (forgetfulSelector.resolve greetings
          ⟨"Hello there!".toList, "Hi. Who are you?".toList, []⟩).1 :=
  ⟨by decide +kernel,
    resolve_selectsGreatest
      (.await [] [0, 1000000, 5] (.resolve greetings ⟨"hello".toList, [], []⟩ (.create _)))
      (.load _ _ _ _) _⟩

end Colloquy
