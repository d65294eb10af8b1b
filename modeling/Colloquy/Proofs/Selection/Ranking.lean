import Colloquy.Proofs.Selection.Renumbering

namespace Colloquy

/-!
# Ranking

Where a candidate stands among others is told by five measures, of which the
first that differs decides. Among candidates that stand alike, the one whose rule
was added later is better. Rules have different serial numbers, so no two
candidates of a knowledge base are equally good, and it does not matter that the
best candidate is found by one pass over all of them and the ranking by sorting.
-/

/-- The measures by which candidates are compared, before their age. -/
structure Standing where
  constraints : Nat
  input : List Nat
  that : List Nat
  topic : List Nat
  wildcards : Nat
  deriving DecidableEq, Repr

/--
The first measure that differs is better in the higher standing: it has more
constraints, greater weights, or fewer wildcards.
-/
inductive Standing.Below (lower higher : Standing) : Prop where
  | constraints :
      lower.constraints < higher.constraints →
      Below lower higher
  | input :
      lower.constraints = higher.constraints →
      List.Lex (· < ·) lower.input higher.input →
      Below lower higher
  | that :
      lower.constraints = higher.constraints →
      lower.input = higher.input →
      List.Lex (· < ·) lower.that higher.that →
      Below lower higher
  | topic :
      lower.constraints = higher.constraints →
      lower.input = higher.input →
      lower.that = higher.that →
      List.Lex (· < ·) lower.topic higher.topic →
      Below lower higher
  | wildcards :
      lower.constraints = higher.constraints →
      lower.input = higher.input →
      lower.that = higher.that →
      lower.topic = higher.topic →
      higher.wildcards < lower.wildcards →
      Below lower higher

namespace Candidate

/-- Where the candidate stands. -/
def standing (candidate : Candidate) : Standing where
  constraints := candidate.rule.category.constraintCount
  input := candidate.input.found.weights
  that := constraintWeights candidate.that
  topic := constraintWeights candidate.topic
  wildcards := candidate.wildcards

/-- The candidate stands above the other, or it stands level and its rule was added later. -/
def Outranks (better worse : Candidate) : Prop :=
  worse.standing.Below better.standing ∨
    worse.standing = better.standing ∧ worse.rule.serial < better.rule.serial

/-- What is selected with the candidate. -/
def selected (candidate : Candidate) : Selected :=
  ⟨candidate.rule.category, candidate.bindings⟩

end Candidate

/-! ## Comparing -/

/-- Weights are compared word by word. -/
theorem compare_weights_eq_lt_iff (first second : List Nat) :
    compare first second = .lt ↔ List.Lex (· < ·) first second := by
  induction first generalizing second with
  | nil =>
      cases second with
      | nil =>
          simp
      | cons weight rest =>
          exact ⟨fun _ => .nil, fun _ => List.compare_nil_cons⟩
  | cons weight rest inductionHypothesis =>
      cases second with
      | nil =>
          simp
      | cons other others =>
          rw [List.compare_cons_cons, Ordering.then_eq_lt, Nat.compare_eq_lt, Nat.compare_eq_eq,
            inductionHypothesis, List.cons_lex_cons_iff]

theorem Standing.below_iff (lower higher : Standing) :
    lower.Below higher ↔
      lower.constraints < higher.constraints ∨ lower.constraints = higher.constraints ∧
        (List.Lex (· < ·) lower.input higher.input ∨ lower.input = higher.input ∧
          (List.Lex (· < ·) lower.that higher.that ∨ lower.that = higher.that ∧
            (List.Lex (· < ·) lower.topic higher.topic ∨ lower.topic = higher.topic ∧
              higher.wildcards < lower.wildcards))) := by
  constructor
  · intro below
    cases below with
    | constraints fewer =>
        exact .inl fewer
    | input constraints lighter =>
        exact .inr ⟨constraints, .inl lighter⟩
    | that constraints input lighter =>
        exact .inr ⟨constraints, .inr ⟨input, .inl lighter⟩⟩
    | topic constraints input that lighter =>
        exact .inr ⟨constraints, .inr ⟨input, .inr ⟨that, .inl lighter⟩⟩⟩
    | wildcards constraints input that topic fewer =>
        exact .inr ⟨constraints, .inr ⟨input, .inr ⟨that, .inr ⟨topic, fewer⟩⟩⟩⟩
  · rintro (fewer | ⟨constraints, lighter | ⟨input, lighter | ⟨that, lighter | ⟨topic, fewer⟩⟩⟩⟩)
    · exact .constraints fewer
    · exact .input constraints lighter
    · exact .that constraints input lighter
    · exact .topic constraints input that lighter
    · exact .wildcards constraints input that topic fewer

namespace Candidate

/-- The rank is below exactly if the other candidate outranks. -/
theorem rank_eq_lt_iff (worse better : Candidate) :
    worse.rank better = .lt ↔ better.Outranks worse := by
  simp only [rank, Ordering.then_eq_lt, Nat.compare_eq_lt, compare_weights_eq_lt_iff,
    Std.LawfulEqOrd.compare_eq_iff_eq, Outranks, Standing.below_iff, standing,
    Standing.mk.injEq]
  tauto

/-- What outranks is not at most what it outranks. -/
theorem not_isLE_of_outranks
    {better worse : Candidate}
    (outranks : better.Outranks worse) :
    ¬ (better.rank worse).isLE := by
  rw [Std.OrientedCmp.gt_of_lt ((rank_eq_lt_iff worse better).mpr outranks)]
  decide

end Candidate

/-! ## Lists without ties -/

/-- No two of the candidates are equally good. -/
def Untied (candidates : List Candidate) : Prop :=
  candidates.Pairwise fun first second => first.rank second ≠ .eq

/-- The candidates of a knowledge base are in the order of their rules. -/
theorem KnowledgeBase.Orderly.ascending_eligible
    {knowledge : KnowledgeBase}
    (orderly : knowledge.Orderly)
    (context : Context) :
    (eligible knowledge context).Pairwise fun first second =>
      first.rule.serial < second.rule.serial := by
  refine orderly.ascending.filterMap _ ?_
  intro firstRule secondRule less first isFirst second isSecond
  rwa [rule_of_candidate? isFirst, rule_of_candidate? isSecond]

/-- Candidates of different rules are not equally good. -/
theorem KnowledgeBase.Orderly.untied_eligible
    {knowledge : KnowledgeBase}
    (orderly : knowledge.Orderly)
    (context : Context) :
    Untied (eligible knowledge context) := by
  refine (orderly.ascending_eligible context).imp ?_
  intro first second less equal
  exact Nat.ne_of_lt less (Candidate.serial_eq_of_rank_eq equal)

theorem rankedCandidates_perm (candidates : List Candidate) :
    (rankedCandidates candidates).Perm candidates :=
  List.mergeSort_perm _ _

/-- No candidate in the ranking is above one that stands before it. -/
theorem pairwise_rankedCandidates (candidates : List Candidate) :
    (rankedCandidates candidates).Pairwise fun better worse => (worse.rank better).isLE := by
  unfold rankedCandidates
  refine (List.pairwise_mergeSort ?_ ?_ candidates).imp ?_
  · intro first second third lower higher
    simp only [decide_eq_true_eq, ← Ordering.isLE_iff_ne_gt] at lower higher ⊢
    exact Std.TransCmp.isLE_trans higher lower
  · intro first second
    simp only [Bool.or_eq_true, decide_eq_true_eq, or_iff_not_imp_left, Decidable.not_not]
    intro above
    simp [Std.OrientedCmp.lt_of_gt above]
  · intro better worse notAbove
    simpa [Ordering.isLE_iff_ne_gt] using notAbove

namespace Untied

variable {candidates : List Candidate}

/-- Without ties, every candidate in the ranking outranks those behind it. -/
theorem pairwise_outranks
    (untied : Untied candidates) :
    (rankedCandidates candidates).Pairwise Candidate.Outranks := by
  have differs : Untied (rankedCandidates candidates) := by
    refine ((rankedCandidates_perm candidates).pairwise_iff ?_).mpr untied
    intro first second different same
    exact different (Std.OrientedCmp.eq_symm same)
  refine (pairwise_rankedCandidates candidates).imp₂ ?_ differs
  intro better worse notAbove different
  rw [← Candidate.rank_eq_lt_iff]
  rcases Ordering.isLE_iff_eq_lt_or_eq_eq.mp notAbove with isBelow | isEqual
  · exact isBelow
  · exact absurd (Std.OrientedCmp.eq_symm isEqual) different

/-- Without ties, the best candidate is the first of the ranking. -/
theorem bestCandidate?_eq_head?
    (untied : Untied candidates) :
    bestCandidate? candidates = (rankedCandidates candidates).head? := by
  have isRanked := rankedCandidates_perm candidates
  have outranks := untied.pairwise_outranks
  cases ranking : rankedCandidates candidates with
  | nil =>
      rw [ranking] at isRanked
      rw [List.head?_nil, bestCandidate?_eq_none_iff]
      exact isRanked.symm.eq_nil
  | cons top others =>
      rw [ranking] at isRanked outranks
      cases found : bestCandidate? candidates with
      | none =>
          rw [bestCandidate?_eq_none_iff] at found
          simp [found] at isRanked
      | some best =>
          obtain ⟨member, above⟩ := bestCandidate?_spec found
          rcases List.mem_cons.mp (isRanked.symm.subset member) with isTop | isOther
          · rw [isTop, List.head?_cons]
          · have isBelow := (List.pairwise_cons.mp outranks).1 best isOther
            exact absurd (above top (isRanked.subset (by simp)))
              (Candidate.not_isLE_of_outranks isBelow)

end Untied

/-! ## Explanations -/

namespace RuleSet

theorem length_rules_activate_le
    (set : RuleSet)
    (utterance : Utterance) :
    (set.activate utterance).rules.length ≤ (set.activate utterance).reached :=
  List.length_filter_le _ _

theorem reached_sub_gated
    (set : RuleSet)
    (utterance : Utterance) :
    (set.activate utterance).reached - (set.activate utterance).gated =
      (set.activate utterance).rules.length :=
  Nat.sub_sub_self (set.length_rules_activate_le utterance)

end RuleSet

/-- Candidates are of rules whose pattern matches. -/
theorem length_candidates_le
    (context : Context)
    (rules : List Rule) :
    (rules.filterMap (candidate? context)).length ≤
      rules.countP fun rule => (matchText? rule.category.pattern context.input).isSome := by
  rw [List.length_filterMap_eq_countP]
  refine List.countP_mono_left ?_
  intro rule _ isCandidate
  obtain ⟨candidate, found⟩ := Option.isSome_iff_exists.mp isCandidate
  rw [matchText?, Option.isSome_map]
  exact match?_of_candidate? found

/--
No two candidates of a knowledge base are equally good. A selector in use lists
them all, each rule once and each before those that it outranks; it selects the
first of the list, which is what any selector in use selects; and its counts say
how many rules were left after each step.
-/
theorem explain_ranksStrictly
    {selector other : Selector}
    {knowledge : KnowledgeBase}
    (inUse : selector.Reachable)
    (otherInUse : other.Reachable)
    (loaded : knowledge.Reachable)
    (context : Context) :
    let explained := (selector.explain knowledge context).1
    (eligible knowledge context).Pairwise (fun first second => first.rank second ≠ .eq) ∧
      explained.ranked.Perm (eligible knowledge context) ∧
      (explained.ranked.map (·.rule)).Nodup ∧
      explained.ranked.Pairwise Candidate.Outranks ∧
      explained.selected = explained.ranked.head?.map Candidate.selected ∧
      explained.selected = (other.resolve knowledge context).1 ∧
      explained.eligible = explained.ranked.length ∧
      explained.ranked.length ≤ explained.patternMatches ∧
      explained.patternMatches ≤ explained.rulesReached - explained.rulesGated ∧
      explained.rulesGated ≤ explained.rulesReached ∧
      explained.rulesReached - explained.rulesGated ≤ explained.rulesTotal := by
  have orderly := loaded.orderly
  have untied := orderly.untied_eligible context
  have isRanked := rankedCandidates_perm (eligible knowledge context)
  have distinctRules : ((eligible knowledge context).map (·.rule)).Nodup := by
    refine List.pairwise_map.mpr ((orderly.ascending_eligible context).imp ?_)
    intro first second less same
    exact Nat.ne_of_lt less (congrArg Rule.serial same)
  let utterance := Utterance.scan context.input
  have matched := length_candidates_le context (knowledge.rules.activate utterance).rules
  rw [filterMap_activate_eq_eligible orderly.indexed] at matched
  have admitted : (knowledge.rules.activate utterance).rules.length ≤ knowledge.size := by
    rw [orderly.indexed.rules_activate]
    exact List.length_filter_le _ _
  rw [(inUse.agrees.explain knowledge context).value,
    (otherInUse.agrees.resolve knowledge context).value]
  simp only [explanation, filterMap_activate_eq_eligible orderly.indexed,
    RuleSet.reached_sub_gated]
  refine ⟨untied, isRanked, ?_, untied.pairwise_outranks, ?_, trivial, isRanked.length_eq.symm, ?_,
    List.countP_le_length, Nat.sub_le _ _, admitted⟩
  · exact (isRanked.map _).nodup_iff.mpr distinctRules
  · rw [untied.bestCandidate?_eq_head?]
    rfl
  · rw [isRanked.length_eq]
    exact matched

/-- Four greetings, of which one is a copy and one asks for a topic. -/
def rivals : KnowledgeBase :=
  .ofCategories "rivals".toList .empty .empty
    [Category.plain "HELLO *".toList "Hi.".toList,
      Category.plain "* THERE".toList "Where?".toList,
      (Category.plain "HELLO THERE".toList "Meow.".toList).withTopic "CATS".toList,
      Category.plain "HELLO *".toList "Hi again.".toList]

/-- Of three candidates the copy that was added later comes first. -/
theorem explain_ranksStrictly_rivals :
    let explained :=
      ((Selector.ofSettings {}).explain rivals ⟨"Hello there!".toList, [], []⟩).1
    explained.patternMatches = 4 ∧
      explained.ranked.length = 3 ∧
      explained.ranked.Pairwise Candidate.Outranks ∧
      explained.ranked.head?.map Candidate.selected =
        some ⟨Category.plain "HELLO *".toList "Hi again.".toList, ⟨["there".toList], [], []⟩⟩ := by
  intro explained
  obtain ⟨_, _, _, descending, first, _, count, _⟩ :=
    explain_ranksStrictly (.create {}) (.create {}) (.load _ _ _ _ : rivals.Reachable)
      ⟨"Hello there!".toList, [], []⟩
  have three : explained.eligible = 3 := by decide +kernel
  have later : explained.selected =
      some ⟨Category.plain "HELLO *".toList "Hi again.".toList, ⟨["there".toList], [], []⟩⟩ := by
    decide +kernel
  exact ⟨by decide +kernel, count.symm.trans three, descending, first.symm.trans later⟩

end Colloquy
