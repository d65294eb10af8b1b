import Colloquy.Proofs.Rule.Index

namespace Colloquy

/-!
# Removing rules

A rule is removed by its signature and its serial number. Serial numbers ascend,
so at most one rule has both, and removing it leaves all other rules as they are
and in their order.
-/

/-- Among ascending serial numbers, erasing a position drops the one rule with its number. -/
theorem eraseIdx_eq_filter_serial
    {rules : List Rule}
    (ascending : rules.Pairwise fun first second => first.serial < second.serial)
    {position : Nat}
    {rule : Rule}
    (found : rules[position]? = some rule) :
    rules.eraseIdx position = rules.filter fun other => other.serial ≠ rule.serial := by
  induction rules generalizing position with
  | nil =>
      simp at found
  | cons first rest inductionHypothesis =>
      obtain ⟨aboveFirst, restAscends⟩ := List.pairwise_cons.mp ascending
      cases position with
      | zero =>
          obtain rfl : first = rule := by simpa using found
          have others : rest.filter (fun other => other.serial ≠ first.serial) = rest := by
            apply List.filter_eq_self.mpr
            intro other member
            simpa using Nat.ne_of_gt (aboveFirst other member)
          simpa using others.symm
      | succ position =>
          have foundLater : rest[position]? = some rule := by simpa using found
          have different : first.serial ≠ rule.serial :=
            Nat.ne_of_lt (aboveFirst rule (List.mem_of_getElem? foundLater))
          rw [List.eraseIdx_cons_succ, inductionHypothesis restAscends foundLater,
            List.filter_cons_of_pos (by simpa using different)]

/-- The rule is the one that the signature and the serial number tell. -/
def Rule.isKnownBy
    (rule : Rule)
    (signature : Text)
    (serial : Nat) :
    Bool :=
  rule.category.signature = signature && rule.serial = serial

namespace RuleSet.Indexed

variable {set : RuleSet}

/-- A position that is found holds the rule with the signature and the serial number. -/
theorem isKnownBy_of_position?
    (indexed : set.Indexed)
    {signature : Text}
    {serial position : Nat}
    (found : set.position? signature serial = some position) :
    ∃ rule, set.rules[position]? = some rule ∧ rule.isKnownBy signature serial = true := by
  unfold RuleSet.position? at found
  have listed := List.mem_of_find?_eq_some found
  rw [indexed.bySignature, mem_positionsWhere] at listed
  obtain ⟨rule, present, signed⟩ := listed
  have numbered := List.find?_some found
  simp only [present, Option.any_some] at numbered
  refine ⟨rule, present, ?_⟩
  rw [Rule.isKnownBy, signed, numbered]
  rfl

/-- If no position is found, no rule has the signature and the serial number. -/
theorem not_isKnownBy_of_position?
    (indexed : set.Indexed)
    {signature : Text}
    {serial : Nat}
    (missing : set.position? signature serial = none)
    {rule : Rule}
    (member : rule ∈ set.rules) :
    rule.isKnownBy signature serial = false := by
  obtain ⟨position, present⟩ := List.mem_iff_getElem?.mp member
  apply Bool.eq_false_iff.mpr
  intro known
  simp only [Rule.isKnownBy, Bool.and_eq_true, decide_eq_true_eq] at known
  unfold RuleSet.position? at missing
  rw [List.find?_eq_none, indexed.bySignature] at missing
  have listed : position ∈
      positionsWhere (fun rule => rule.category.signature = signature) set.rules :=
    mem_positionsWhere.mpr ⟨rule, present, by simpa using known.1⟩
  exact missing position listed (by simp [present, known.2])

end RuleSet.Indexed

namespace KnowledgeBase.Orderly

variable {knowledge : KnowledgeBase}

/-- Removing takes out the rule that is known by the signature and the serial number. -/
theorem rules_remove
    (orderly : knowledge.Orderly)
    (category : Category)
    (serial : Nat) :
    (knowledge.remove category serial).2.rules.rules =
      knowledge.rules.rules.filter fun rule => !rule.isKnownBy category.signature serial := by
  unfold KnowledgeBase.remove
  split
  · next missing =>
      symm
      apply List.filter_eq_self.mpr
      intro rule member
      simp [orderly.indexed.not_isKnownBy_of_position? missing member]
  · next position found =>
      obtain ⟨rule, present, known⟩ := orderly.indexed.isKnownBy_of_position? found
      simp only [Rule.isKnownBy, Bool.and_eq_true, decide_eq_true_eq] at known
      have erased : (RuleSet.ofEntries (knowledge.rules.entries.eraseIdx position)).rules =
          knowledge.rules.rules.eraseIdx position := by
        rw [RuleSet.rules_ofEntries, List.eraseIdx_eq_take_drop_succ, List.map_append,
          List.map_take, List.map_drop, orderly.indexed.map_entries,
          ← List.eraseIdx_eq_take_drop_succ]
      rw [erased, eraseIdx_eq_filter_serial orderly.ascending present]
      apply List.filter_congr
      intro other member
      -- The serial number alone tells the rule, and then the signature agrees.
      by_cases same : other.serial = rule.serial
      · have isRule := orderly.eq_of_serial_eq member (List.mem_of_getElem? present) same
        simp [Rule.isKnownBy, isRule, known]
      · simp [Rule.isKnownBy, same, ← known.2]

end KnowledgeBase.Orderly

/-- Removing a rule gives no serial number. -/
theorem KnowledgeBase.nextSerial_remove
    (knowledge : KnowledgeBase)
    (category : Category)
    (serial : Nat) :
    (knowledge.remove category serial).2.nextSerial = knowledge.nextSerial := by
  unfold KnowledgeBase.remove
  split <;> rfl

end Colloquy
