import Colloquy.Admission.Validation
import Colloquy.Proofs.Text.Words

namespace Colloquy

/-!
# What admission says

A category is admitted if every check passes, so that each check says something
about an admitted category. Blank constraints are not checked, but have no words
either.
-/

/-- The pattern of a category and those of its context. -/
def Category.patterns (category : Category) : List Text :=
  category.pattern :: (category.that.toList ++ category.topic.toList)

namespace Admission

@[simp]
theorem require_eq_ok_iff
    {condition : Bool}
    {refusal : Refusal} :
    require condition refusal = .ok () ↔ condition = true := by
  cases condition <;> simp [require]

/-- Two checks pass one after the other exactly if both pass. -/
@[simp]
theorem andThen_eq_ok_iff
    {first : Verdict}
    {next : Unit → Verdict} :
    (first >>= next) = .ok () ↔ first = .ok () ∧ next () = .ok () := by
  cases first <;> simp [bind, Except.bind]

/-- A text passes exactly if nothing dangerous is found in it. -/
theorem checkDanger_eq_ok_iff
    {part : Part}
    {text : Text} :
    checkDanger part text = .ok () ↔ dangerousContent? text = none := by
  unfold checkDanger
  split
  · next found =>
      simp [found]
  · next missing =>
      simp [missing]

/-- Words pass exactly if no two wildcards stand next to each other. -/
theorem checkAdjacency_eq_ok_iff
    {field : PatternField}
    {words : List Text} :
    checkAdjacency field words = .ok () ↔ adjacentWildcards? words = none := by
  unfold checkAdjacency
  split
  · next found =>
      simp [found]
  · next missing =>
      simp [missing]

/-! ## Patterns -/

/-- Groups are checked from the first opening parenthesis on. -/
theorem checkGroupsFrom_append
    {before : Text}
    (noneOpened : '(' ∉ before)
    (field : PatternField)
    (after : Text) :
    checkGroupsFrom field none (before ++ after) = checkGroupsFrom field none after := by
  induction before with
  | nil =>
      rfl
  | cons c rest inductionHypothesis =>
      simp only [List.mem_cons, not_or] at noneOpened
      rw [List.cons_append, checkGroupsFrom, if_neg (Ne.symm noneOpened.1),
        inductionHypothesis noneOpened.2]

/-- What has no parentheses neither opens nor closes a group. -/
theorem openGroups?_append
    {before : Text}
    (noneOpened : '(' ∉ before)
    (noneClosed : ')' ∉ before)
    (depth : Nat)
    (after : Text) :
    openGroups? depth (before ++ after) = openGroups? depth after := by
  induction before with
  | nil =>
      rfl
  | cons c rest inductionHypothesis =>
      simp only [List.mem_cons, not_or] at noneOpened noneClosed
      rw [← inductionHypothesis noneOpened.2 noneClosed.2]
      simp [openGroups?, Ne.symm noneOpened.1, Ne.symm noneClosed.1]

/-- The checks on a pattern. -/
structure PatternFits
    (limits : LearningLimits)
    (pattern : Text) :
    Prop where
  length : (Text.trim pattern).length ≤ limits.maxPatternLength
  wildcards : (Text.words pattern).countP isWildcardWord ≤ limits.maxWildcards
  apart : adjacentWildcards? (Text.words pattern) = none
  balanced : openGroups? 0 pattern = some 0
  groups : ∃ field, checkGroupsFrom field none pattern = .ok ()

/-- A pattern that passes its checks keeps to the limits. -/
theorem patternFits_of_checks
    {field : PatternField}
    {pattern : Text}
    {limits : LearningLimits}
    (isShort : checkLength field pattern limits = .ok ())
    (passes : checkPattern field pattern limits = .ok ()) :
    PatternFits limits pattern := by
  simp only [checkLength, andThen_eq_ok_iff, require_eq_ok_iff, decide_eq_true_eq] at isShort
  simp only [checkPattern, checkGroups, andThen_eq_ok_iff, require_eq_ok_iff, decide_eq_true_eq,
    checkAdjacency_eq_ok_iff] at passes
  obtain ⟨_, wildcards, apart, ⟨balanced, groups⟩, _⟩ := passes
  exact ⟨isShort.1, wildcards, apart, balanced, field, groups⟩

/-- A blank text has no words and no parentheses. -/
theorem patternFits_of_allBlank
    {pattern : Text}
    (blank : Text.allBlank pattern = true)
    (limits : LearningLimits) :
    PatternFits limits pattern := by
  have isBlank : ∀ c ∈ pattern, Text.isBlank c = true := List.all_eq_true.mp blank
  have noWords := Text.words_eq_nil_of_allBlank blank
  have noneOpened : '(' ∉ pattern := fun opening => absurd (isBlank _ opening) (by decide)
  have noneClosed : ')' ∉ pattern := fun closing => absurd (isBlank _ closing) (by decide)
  have nothing : Text.trimStart pattern = [] := List.dropWhile_eq_nil_iff.mpr isBlank
  constructor
  · rw [Text.trim, nothing]
    exact Nat.zero_le _
  · simp [noWords]
  · simp [noWords, adjacentWildcards?]
  · simpa [openGroups?] using openGroups?_append noneOpened noneClosed 0 []
  · refine ⟨.input, ?_⟩
    simpa [checkGroupsFrom] using checkGroupsFrom_append noneOpened .input []

/-- A constraint that passes its checks keeps to the limits of a pattern. -/
theorem patternFits_of_checkConstraint
    {field : PatternField}
    {constraint : Option Text}
    {limits : LearningLimits}
    (passes : checkConstraint field constraint limits = .ok ()) :
    ∀ pattern ∈ constraint, PatternFits limits pattern := by
  rintro pattern rfl
  cases blank : Text.allBlank pattern with
  | true =>
      exact patternFits_of_allBlank blank limits
  | false =>
      simp only [checkConstraint, Option.filter_some, blank, Bool.not_false, ↓reduceIte,
        andThen_eq_ok_iff] at passes
      exact patternFits_of_checks passes.1 passes.2

/-- The checks on a template. -/
structure TemplateFits
    (limits : LearningLimits)
    (template : Text) :
    Prop where
  harmless : dangerousContent? template = none
  length : template.length ≤ limits.maxTemplateLength
  balanced : ∃ shape, Markup.checkStructure template = .ok shape
  selfReferences :
    countTags Markup.Tag.isSelfReference (Markup.parse template) ≤ limits.maxSelfReferences

/-- A template that passes is well nested and refers to itself no more often than allowed. -/
theorem balanced_of_checkTemplate
    {template : Text}
    {limits : LearningLimits}
    (passes : checkTemplate template limits = .ok ()) :
    (∃ shape, Markup.checkStructure template = .ok shape) ∧
      countTags Markup.Tag.isSelfReference (Markup.parse template) ≤ limits.maxSelfReferences := by
  unfold checkTemplate at passes
  cases balanced : Markup.checkStructure template with
  | error fault =>
      rw [balanced] at passes
      contradiction
  | ok shape =>
      rw [balanced] at passes
      have afterStructure := andThen_eq_ok_iff.mp passes
      simp only [andThen_eq_ok_iff, require_eq_ok_iff, decide_eq_true_eq] at afterStructure
      exact ⟨⟨shape, rfl⟩, afterStructure.2.2.1⟩

/-- An admitted category has patterns and a template that fit. -/
theorem fits_of_validate
    {category : Category}
    {limits : LearningLimits}
    (admitted : validate category limits = .ok ()) :
    (∀ pattern ∈ category.patterns, PatternFits limits pattern) ∧
      TemplateFits limits category.template := by
  simp only [validate, andThen_eq_ok_iff, require_eq_ok_iff, decide_eq_true_eq,
    checkDanger_eq_ok_iff] at admitted
  obtain ⟨_, _, _, _, _, harmless, isShort, length, input, that, topic, template⟩ := admitted
  constructor
  · intro pattern member
    simp only [Category.patterns, List.mem_cons, List.mem_append, Option.mem_toList] at member
    rcases member with rfl | isThat | isTopic
    · exact patternFits_of_checks isShort input
    · exact patternFits_of_checkConstraint that pattern isThat
    · exact patternFits_of_checkConstraint topic pattern isTopic
  · obtain ⟨balanced, selfReferences⟩ := balanced_of_checkTemplate template
    exact ⟨harmless, length, balanced, selfReferences⟩

end Admission

end Colloquy
