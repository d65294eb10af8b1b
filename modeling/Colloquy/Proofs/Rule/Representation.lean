import Colloquy.Proofs.Rule.Removal
import Mathlib.Data.List.Infix
import Mathlib.Data.List.Nodup

namespace Colloquy

/-!
# How rules are kept

Rules are added one by one and removed by building the rule set anew. However a
knowledge base was edited, its rule set is the one that its own entries make: the
same rules, each listed once where its pattern says and nowhere else. A serial
number that was given once is never given again, even if its rule is gone.
-/

/-! ## Where a rule is listed -/

/-- The token may take the word before any other. -/
def Pattern.Token.beginsWith
    (token : Token)
    (word : Text) :
    Bool :=
  match token with
  | .literal own => own = word
  | .wildcard _ => false
  | .group options => options.any fun option => option.head? = some word

/-- The pattern is empty or starts with a wildcard. -/
def Pattern.isOpen (pattern : Pattern) : Bool :=
  pattern.tokens.head?.all Token.isWildcard

/-- The word is a first word of the pattern's first token. -/
def Pattern.beginsWith
    (pattern : Pattern)
    (word : Text) :
    Bool :=
  pattern.tokens.head?.any (·.beginsWith word)

/-- The pattern of the rule's category, ready to be matched. -/
def Rule.pattern (rule : Rule) : Pattern :=
  Pattern.compile rule.category.pattern

theorem Pattern.isNone_firstWords? (pattern : Pattern) :
    pattern.firstWords?.isNone = pattern.isOpen := by
  unfold firstWords? isOpen
  rcases pattern.tokens with _ | ⟨_ | _ | _, _⟩ <;> rfl

/-- The first words of a pattern are those that it may begin with. -/
theorem Pattern.contains_firstWords?
    (pattern : Pattern)
    (word : Text) :
    (pattern.firstWords?.getD []).contains word = pattern.beginsWith word := by
  unfold firstWords? beginsWith
  rcases pattern.tokens with _ | ⟨own | kind | options, rest⟩
  · rfl
  · simp [Token.beginsWith, eq_comm]
  · rfl
  · rw [Bool.eq_iff_iff]
    simp [Token.beginsWith]

/-- A position is listed once if the rule there passes, and otherwise never. -/
theorem count_positionsWhere
    (test : Rule → Bool)
    (rules : List Rule)
    (position : Nat) :
    (positionsWhere test rules).count position = ((rules[position]?).any test).toNat := by
  have once := (ascending_positionsWhere test rules).imp Nat.ne_of_lt
  cases passes : (rules[position]?).any test with
  | false =>
      rw [Bool.toNat_false, List.count_eq_zero, mem_positionsWhere]
      rintro ⟨rule, present, isTrue⟩
      simp [present, isTrue] at passes
  | true =>
      obtain ⟨rule, present, isTrue⟩ := Option.any_eq_true _ _ |>.mp passes
      exact List.count_eq_one_of_mem once (mem_positionsWhere.mpr ⟨rule, present, isTrue⟩)

namespace RuleSet

/-- Each position is listed once where its rule belongs, and nowhere else. -/
structure Listed (set : RuleSet) : Prop where
  alwaysOn : ∀ position,
    set.alwaysOn.count position = ((set.rules[position]?).any (·.pattern.isOpen)).toNat
  byFirstWord : ∀ word position,
    ((set.byFirstWord.find? word).getD []).count position =
      ((set.rules[position]?).any (·.pattern.beginsWith word)).toNat
  bySignature : ∀ signature position,
    ((set.bySignature.find? signature).getD []).count position =
      ((set.rules[position]?).any (·.category.signature = signature)).toNat

/-- Each rule of an indexed set is listed where its pattern says. -/
theorem Indexed.listed
    {set : RuleSet}
    (indexed : set.Indexed) :
    set.Listed := by
  refine ⟨?_, ?_, ?_⟩
  · intro position
    rw [indexed.alwaysOn, count_positionsWhere]
    simp only [Rule.firstWords?, Pattern.isNone_firstWords?, Rule.pattern]
  · intro word position
    rw [indexed.byFirstWord, count_positionsWhere]
    simp only [Rule.firstWords?, Pattern.contains_firstWords?, Rule.pattern]
  · intro signature position
    rw [indexed.bySignature, count_positionsWhere]

/-! ## Rule sets that their entries make -/

theorem entries_push
    (set : RuleSet)
    (category : Category)
    (serial : Nat) :
    (set.push category serial).entries = set.entries ++ [(category, serial)] := by
  rw [entries, rules_push, List.map_append]
  rfl

/-- The entries of the set that entries make are the entries. -/
theorem entries_ofEntries (entries : List (Category × Nat)) :
    (ofEntries entries).entries = entries := by
  rw [RuleSet.entries, rules_ofEntries, List.map_map]
  exact List.map_id' entries

theorem ofEntries_concat
    (entries : List (Category × Nat))
    (category : Category)
    (serial : Nat) :
    ofEntries (entries ++ [(category, serial)]) = (ofEntries entries).push category serial := by
  rw [ofEntries, List.foldl_append]
  rfl

/-- The rule set is the one that its own entries make. -/
def Rebuilds (set : RuleSet) : Prop :=
  ofEntries set.entries = set

theorem rebuilds_empty : empty.Rebuilds :=
  rfl

theorem rebuilds_ofEntries (entries : List (Category × Nat)) : (ofEntries entries).Rebuilds := by
  rw [Rebuilds, entries_ofEntries]

/-- A set that its entries make stays one when a category is added. -/
theorem Rebuilds.push
    {set : RuleSet}
    (rebuilds : set.Rebuilds)
    (category : Category)
    (serial : Nat) :
    (set.push category serial).Rebuilds := by
  rw [Rebuilds, entries_push, ofEntries_concat, rebuilds]

end RuleSet

namespace KnowledgeBase

/-- Adding categories makes the rule set of the old entries and the new ones behind them. -/
theorem rules_extend
    {knowledge : KnowledgeBase}
    (rebuilds : knowledge.rules.Rebuilds)
    (categories : List Category) :
    (knowledge.extend categories).rules =
      RuleSet.ofEntries (knowledge.rules.entries ++ categories.zipIdx knowledge.nextSerial) := by
  induction categories generalizing knowledge with
  | nil =>
      rw [List.zipIdx_nil, List.append_nil, rebuilds]
      rfl
  | cons category rest inductionHypothesis =>
      have added : (knowledge.add category).2.rules.Rebuilds :=
        rebuilds.push category knowledge.nextSerial
      calc
        (knowledge.extend (category :: rest)).rules =
            ((knowledge.add category).2.extend rest).rules := rfl
        _ = RuleSet.ofEntries ((knowledge.rules.push category knowledge.nextSerial).entries ++
            rest.zipIdx (knowledge.nextSerial + 1)) := inductionHypothesis added
        _ = _ := by rw [RuleSet.entries_push, List.append_assoc]; rfl

/-- Adding categories keeps the set one that its entries make. -/
theorem rebuilds_extend
    {knowledge : KnowledgeBase}
    (rebuilds : knowledge.rules.Rebuilds)
    (categories : List Category) :
    (knowledge.extend categories).rules.Rebuilds := by
  rw [rules_extend rebuilds]
  exact RuleSet.rebuilds_ofEntries _

/-- Every rule set that can be reached is the one that its own entries make. -/
theorem Reachable.rebuilds
    {knowledge : KnowledgeBase}
    (reachable : knowledge.Reachable) :
    knowledge.rules.Rebuilds := by
  induction reachable with
  | load name globals properties categories =>
      exact rebuilds_extend RuleSet.rebuilds_empty categories
  | add category _ inductionHypothesis =>
      exact inductionHypothesis.push category _
  | extend categories _ inductionHypothesis =>
      exact rebuilds_extend inductionHypothesis categories
  | @remove knowledge category serial _ inductionHypothesis =>
      unfold KnowledgeBase.remove
      split
      · exact inductionHypothesis
      · exact RuleSet.rebuilds_ofEntries _
  | reload categories _ _ =>
      exact rebuilds_extend RuleSet.rebuilds_empty categories

/-! ## Edits -/

/-- What may be done to the rules of a knowledge base. -/
inductive Edit where
  | add (category : Category)
  | extend (categories : List Category)
  | remove (category : Category) (serial : Nat)
  | reload (categories : List Category)

/-- Do one edit. -/
def edit
    (knowledge : KnowledgeBase) :
    Edit →
    KnowledgeBase
  | .add category => (knowledge.add category).2
  | .extend categories => knowledge.extend categories
  | .remove category serial => (knowledge.remove category serial).2
  | .reload categories => knowledge.reload categories

/-- Do edits one after the other. -/
def editAll
    (knowledge : KnowledgeBase)
    (edits : List Edit) :
    KnowledgeBase :=
  edits.foldl edit knowledge

/-- Edits are among the ways to reach a knowledge base. -/
theorem Reachable.editAll
    {knowledge : KnowledgeBase}
    (reachable : knowledge.Reachable)
    (edits : List Edit) :
    (knowledge.editAll edits).Reachable := by
  induction edits generalizing knowledge with
  | nil =>
      exact reachable
  | cons edit rest inductionHypothesis =>
      apply inductionHypothesis
      cases edit with
      | add category =>
          exact .add category reachable
      | extend categories =>
          exact .extend categories reachable
      | remove category serial =>
          exact .remove category serial reachable
      | reload categories =>
          exact .reload categories reachable

/-- Edits keep a knowledge base orderly. -/
theorem Orderly.edit
    {knowledge : KnowledgeBase}
    (orderly : knowledge.Orderly)
    (edit : Edit) :
    (knowledge.edit edit).Orderly := by
  cases edit with
  | add category =>
      exact orderly.add category
  | extend categories =>
      exact orderly.extend categories
  | remove category serial =>
      exact orderly.remove category serial
  | reload categories =>
      exact (clear knowledge).extend categories

/-- Rules that came later have numbers that were not given before. -/
structure Continues (before after : KnowledgeBase) : Prop where
  nextSerial : before.nextSerial ≤ after.nextSerial
  rules : ∀ rule ∈ after.rules.rules,
    rule ∈ before.rules.rules ∨ before.nextSerial ≤ rule.serial

namespace Continues

variable {first second third : KnowledgeBase}

theorem refl (knowledge : KnowledgeBase) : knowledge.Continues knowledge :=
  ⟨Nat.le_refl _, fun _ => Or.inl⟩

theorem trans
    (earlier : first.Continues second)
    (later : second.Continues third) :
    first.Continues third := by
  refine ⟨Nat.le_trans earlier.nextSerial later.nextSerial, ?_⟩
  intro rule isRule
  rcases later.rules rule isRule with isOld | isNew
  · exact earlier.rules rule isOld
  · exact Or.inr (Nat.le_trans earlier.nextSerial isNew)

/-- A rule that is added has a number above all that were given. -/
theorem add
    (knowledge : KnowledgeBase)
    (category : Category) :
    knowledge.Continues (knowledge.add category).2 := by
  refine ⟨Nat.le_succ _, ?_⟩
  intro rule isRule
  rcases List.mem_append.mp isRule with isOld | isNew
  · exact Or.inl isOld
  · rw [List.mem_singleton.mp isNew]
    exact Or.inr (Nat.le_refl _)

theorem extend
    (knowledge : KnowledgeBase)
    (categories : List Category) :
    knowledge.Continues (knowledge.extend categories) := by
  induction categories generalizing knowledge with
  | nil =>
      exact refl knowledge
  | cons category rest inductionHypothesis =>
      exact (add knowledge category).trans (inductionHypothesis _)

/-- An edit continues the knowledge base. -/
theorem edit
    {knowledge : KnowledgeBase}
    (orderly : knowledge.Orderly)
    (edit : Edit) :
    knowledge.Continues (knowledge.edit edit) := by
  cases edit with
  | add category =>
      exact add knowledge category
  | extend categories =>
      exact extend knowledge categories
  | remove category serial =>
      refine ⟨Nat.le_of_eq (knowledge.nextSerial_remove category serial).symm, ?_⟩
      intro rule isRule
      have isLeft := orderly.rules_remove category serial ▸ isRule
      exact Or.inl (List.mem_filter.mp isLeft).1
  | reload categories =>
      -- The old rules are gone, and the numbers go on from where they were.
      have emptied : knowledge.Continues { knowledge with rules := RuleSet.empty } :=
        ⟨Nat.le_refl _, by simp [RuleSet.empty]⟩
      exact emptied.trans (extend _ categories)

/-- Edits continue the knowledge base. -/
theorem editAll
    {knowledge : KnowledgeBase}
    (reachable : knowledge.Reachable)
    (edits : List Edit) :
    knowledge.Continues (knowledge.editAll edits) := by
  induction edits generalizing knowledge with
  | nil =>
      exact refl knowledge
  | cons first rest inductionHypothesis =>
      exact (edit reachable.orderly first).trans
        (inductionHypothesis (reachable.editAll [first]))

end Continues

/--
However a knowledge base was edited since it was loaded, its rules are those that
their categories make, in the order of their serial numbers, which are all below
the next one; each rule is listed once where its pattern says and nowhere else;
and the whole rule set is the one that its own entries make. After further edits,
each rule was there before or has a number above all numbers that any rule ever
had until then. Adding categories together is adding them one by one. A rule holds
its category together with all that is kept beside it, so that there is one of each
at every position by construction.
-/
theorem editAll_keepsRepresentation
    (name : Text)
    (globals properties : Table Text)
    (categories : List Category)
    (edits : List Edit) :
    let start := ofCategories name globals properties categories
    let knowledge := start.editAll edits
    let set := knowledge.rules
    set.rules = set.entries.map (fun entry => Rule.ofCategory entry.1 entry.2) ∧
      set.rules.Pairwise (fun first second => first.serial < second.serial) ∧
      (∀ rule ∈ set.rules, rule.serial < knowledge.nextSerial) ∧
      set.Listed ∧
      RuleSet.ofEntries set.entries = set ∧
      (∀ later, ∀ rule ∈ (knowledge.editAll later).rules.rules,
        rule ∈ set.rules ∨
          ∀ past, past <+: edits → ∀ old ∈ (start.editAll past).rules.rules,
            old.serial < rule.serial) ∧
      ∀ more,
        knowledge.edit (.extend more) = knowledge.editAll (more.map .add) ∧
          (knowledge.edit (.extend more)).rules =
            RuleSet.ofEntries (set.entries ++ more.zipIdx knowledge.nextSerial) := by
  intro start knowledge set
  have loaded : start.Reachable := .load name globals properties categories
  have reachable : knowledge.Reachable := loaded.editAll edits
  have orderly := reachable.orderly
  refine ⟨orderly.indexed.map_entries.symm, orderly.ascending, orderly.below,
    orderly.indexed.listed, reachable.rebuilds, ?_, ?_⟩
  · intro later rule isRule
    rcases (Continues.editAll reachable later).rules rule isRule with isOld | isNew
    · exact Or.inl isOld
    · right
      rintro past ⟨rest, rfl⟩ old isOld
      have reachedPast := loaded.editAll past
      have numbers : (start.editAll past).nextSerial ≤ knowledge.nextSerial := by
        have continues := Continues.editAll reachedPast rest
        rw [editAll, editAll, ← List.foldl_append] at continues
        exact continues.nextSerial
      exact Nat.lt_of_lt_of_le (reachedPast.orderly.below old isOld)
        (Nat.le_trans numbers isNew)
  · intro more
    refine ⟨?_, rules_extend reachable.rebuilds more⟩
    rw [editAll, List.foldl_map]
    rfl

/-- A greeting with two options that begin with the same word. -/
def doubleGreeting : Category :=
  .plain "(HI|HI THERE) *".toList "hello".toList

/-- Added again, the greeting has a new number and is listed once under its first word. -/
theorem editAll_keepsRepresentation_again :
    let knowledge := (ofCategories [] .empty .empty [doubleGreeting]).editAll
      [.remove doubleGreeting 0, .add doubleGreeting]
    knowledge.rules.rules.map (·.serial) = [1] ∧
      ((knowledge.rules.byFirstWord.find? "HI".toList).getD []).count 0 = 1 := by
  intro knowledge
  obtain ⟨_, _, _, listed, _⟩ := editAll_keepsRepresentation [] .empty .empty [doubleGreeting]
    [.remove doubleGreeting 0, .add doubleGreeting]
  have begins : ((knowledge.rules.rules[0]?).any (·.pattern.beginsWith "HI".toList)).toNat = 1 := by
    decide +kernel
  exact ⟨by decide +kernel, (listed.byFirstWord "HI".toList 0).trans begins⟩

end KnowledgeBase

end Colloquy
