import Colloquy.Proofs.Rule.Representation
import Colloquy.Proofs.Text.Division

namespace Colloquy

/-!
# What a signature tells

A signature joins three patterns with words in small letters between them. The
patterns are in uppercase, where no small letter is left, so the signature tells
each of the three. A rule is therefore removed by its own patterns, but for case and
spacing, and its own serial number, and nothing else is.
-/

namespace Category

/-- The patterns are the same but for case and spacing, an absent one being empty. -/
structure SamePatterns (first second : Category) : Prop where
  pattern : Text.canonical first.pattern = Text.canonical second.pattern
  that : Text.canonical (first.that.getD []) = Text.canonical (second.that.getD [])
  topic : Text.canonical (first.topic.getD []) = Text.canonical (second.topic.getD [])

theorem getD_map_canonical (constraint : Option Text) :
    (constraint.map Text.canonical).getD [] = Text.canonical (constraint.getD []) := by
  cases constraint <;> rfl

/-- The signature is cut at the first small letter of each separator. -/
theorem signature_eq (category : Category) :
    category.signature =
      (Text.canonical category.pattern ++ " <".toList) ++ 't' ::
        ("hat> ".toList ++ ((Text.canonical (category.that.getD []) ++ " <".toList) ++ 't' ::
          ("opic> ".toList ++ Text.canonical (category.topic.getD [])))) := by
  rw [signature, getD_map_canonical, getD_map_canonical]
  simp

/-- A signature tells the patterns. -/
theorem signature_eq_iff
    {first second : Category} :
    first.signature = second.signature ↔ first.SamePatterns second := by
  have noMark (text : Text) : 't' ∉ Text.canonical text ++ " <".toList := by
    simp [Text.t_not_mem_canonical]
  constructor
  · intro same
    rw [signature_eq, signature_eq] at same
    obtain ⟨samePattern, sameRest⟩ :=
      Text.append_cons_inj_of_not_mem (noMark _) (noMark _) same
    obtain ⟨sameThat, sameTopic⟩ := Text.append_cons_inj_of_not_mem (noMark _) (noMark _)
      (List.append_cancel_left sameRest)
    exact ⟨List.append_cancel_right samePattern, List.append_cancel_right sameThat,
      List.append_cancel_left sameTopic⟩
  · rintro ⟨samePattern, sameThat, sameTopic⟩
    rw [signature_eq, signature_eq, samePattern, sameThat, sameTopic]

end Category

/-- A signature and a serial number tell a rule with the same patterns. -/
theorem Rule.isKnownBy_signature_iff
    {rule : Rule}
    {category : Category}
    {serial : Nat} :
    rule.isKnownBy category.signature serial = true ↔
      rule.serial = serial ∧ rule.category.SamePatterns category := by
  rw [← Category.signature_eq_iff]
  simp [Rule.isKnownBy, and_comm]

namespace KnowledgeBase

/-- A knowledge base with the given rules, each with its serial number. -/
def withRules
    (knowledge : KnowledgeBase)
    (rules : List Rule) :
    KnowledgeBase :=
  { knowledge with
    rules := RuleSet.ofEntries (rules.map fun rule => (rule.category, rule.serial)) }

/-- Removing finds no rule and changes nothing, or takes one out from between the others. -/
theorem Orderly.remove_cases
    {knowledge : KnowledgeBase}
    (orderly : knowledge.Orderly)
    (category : Category)
    (serial : Nat) :
    knowledge.remove category serial = (false, knowledge) ∧
        (∀ rule ∈ knowledge.rules.rules, rule.isKnownBy category.signature serial = false) ∨
      ∃ before rule after,
        knowledge.rules.rules = before ++ rule :: after ∧
          rule.isKnownBy category.signature serial = true ∧
          knowledge.remove category serial = (true, knowledge.withRules (before ++ after)) := by
  unfold KnowledgeBase.remove
  split
  · next missing =>
      exact .inl ⟨rfl, fun _ => orderly.indexed.not_isKnownBy_of_position? missing⟩
  · next position found =>
      obtain ⟨rule, present, known⟩ := orderly.indexed.isKnownBy_of_position? found
      obtain ⟨inside, rfl⟩ := List.getElem?_eq_some_iff.mp present
      refine .inr ⟨knowledge.rules.rules.take position, _,
        knowledge.rules.rules.drop (position + 1), ?_, known, ?_⟩
      · rw [List.getElem_cons_drop, List.take_append_drop]
      · rw [withRules, RuleSet.entries, List.eraseIdx_eq_take_drop_succ, List.map_append,
          List.map_take, List.map_drop]

/-- The rules are those that were given, if they were among the old ones. -/
theorem Orderly.rules_withRules
    {knowledge : KnowledgeBase}
    (orderly : knowledge.Orderly)
    {rules : List Rule}
    (among : rules ⊆ knowledge.rules.rules) :
    (knowledge.withRules rules).rules.rules = rules := by
  have rebuilt : ∀ rule ∈ rules, Rule.ofCategory rule.category rule.serial = rule :=
    fun rule member => (orderly.indexed.rules rule (among member)).symm
  rw [withRules, RuleSet.rules_ofEntries, List.map_map]
  exact (List.map_inj_left.mpr rebuilt).trans (List.map_id _)

/--
However a knowledge base was edited since it was loaded, and whatever was counted, a rule is
removed exactly if there is one with the serial number and with the patterns of the category,
but for case and spacing. It is taken out from between the other rules, which all stay as they
are and in their order. Otherwise nothing changes.
-/
theorem editAll_removesExactly
    (name : Text)
    (globals properties : Table Text)
    (categories : List Category)
    (edits : List Edit)
    (learned rejected unlearned : Nat)
    (category : Category)
    (serial : Nat) :
    let knowledge : KnowledgeBase :=
      { (ofCategories name globals properties categories).editAll edits with
        learned := learned
        rejected := rejected
        unlearned := unlearned }
    let rules := knowledge.rules.rules
    let removal := knowledge.remove category serial
    (removal.1 = true ↔
        ∃ rule ∈ rules, rule.serial = serial ∧ rule.category.SamePatterns category) ∧
      (removal.1 = true →
        ∃ before rule after,
          rules = before ++ rule :: after ∧
            rule.serial = serial ∧
            rule.category.SamePatterns category ∧
            (∀ other ∈ before ++ after, other.serial ≠ serial) ∧
            removal.2 = knowledge.withRules (before ++ after) ∧
            removal.2.rules.rules = before ++ after) ∧
      (removal.1 = false → removal.2 = knowledge) := by
  intro knowledge rules removal
  have edited := ((Reachable.load name globals properties categories).editAll edits).orderly
  have orderly : knowledge.Orderly := ⟨edited.indexed, edited.ascending, edited.below⟩
  rcases orderly.remove_cases category serial with
    ⟨isRemoval, noneKnown⟩ | ⟨before, rule, after, isRules, known, isRemoval⟩
  · have nothing : removal = (false, knowledge) := isRemoval
    rw [nothing]
    refine ⟨⟨fun found => absurd found Bool.false_ne_true, ?_⟩,
      fun found => absurd found Bool.false_ne_true, fun _ => rfl⟩
    rintro ⟨rule, member, isKnown⟩
    rw [← Rule.isKnownBy_signature_iff, noneKnown rule member] at isKnown
    exact absurd isKnown Bool.false_ne_true
  · have taken : removal = (true, knowledge.withRules (before ++ after)) := isRemoval
    have sameRule := Rule.isKnownBy_signature_iff.mp known
    have member : rule ∈ rules := by
      simp [rules, isRules]
    have among : before ++ after ⊆ rules := by
      simp only [rules, isRules]
      exact (List.sublist_cons_self rule after).append_left before |>.subset
    -- Serial numbers ascend, so those around the rule are smaller or greater.
    have others : ∀ other ∈ before ++ after, other.serial ≠ serial := by
      have ascending := orderly.ascending
      rw [isRules, List.pairwise_append, List.pairwise_cons] at ascending
      obtain ⟨-, ⟨below, -⟩, above⟩ := ascending
      rw [← sameRule.1]
      intro other isOther
      rcases List.mem_append.mp isOther with isBefore | isAfter
      · exact Nat.ne_of_lt (above other isBefore rule List.mem_cons_self)
      · exact Nat.ne_of_gt (below other isAfter)
    rw [taken]
    exact ⟨⟨fun _ => ⟨rule, member, sameRule⟩, fun _ => rfl⟩,
      fun _ => ⟨before, rule, after, isRules, sameRule.1, sameRule.2, others, rfl,
        orderly.rules_withRules among⟩,
      fun missing => absurd missing.symm Bool.false_ne_true⟩

end KnowledgeBase

end Colloquy
