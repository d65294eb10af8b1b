import Colloquy.Proofs.Finite
import Colloquy.Rule.KnowledgeBase
import Mathlib.Data.List.Basic
import Mathlib.Data.List.Induction

namespace Colloquy

/-!
# Indexes of rule sets

The three indexes of a rule set list exactly the positions that they are for:
those of the rules that any word may begin, those of the rules that a given word
may begin, and those of the rules with a given signature. Adding a rule keeps
this, and every knowledge base is made of additions.
-/

/-- The words with one of which an utterance has to begin, unless any may begin it. -/
def Rule.firstWords? (rule : Rule) : Option (List Text) :=
  (Pattern.compile rule.category.pattern).firstWords?

/-- The positions of the rules that pass a test, ascending. -/
def positionsWhere
    (test : Rule → Bool)
    (rules : List Rule) :
    List Nat :=
  (List.range rules.length).filter fun position => (rules[position]?).any test

/-- A position is listed exactly if a rule stands there that passes. -/
theorem mem_positionsWhere
    {test : Rule → Bool}
    {rules : List Rule}
    {position : Nat} :
    position ∈ positionsWhere test rules ↔
      ∃ rule, rules[position]? = some rule ∧ test rule = true := by
  simp only [positionsWhere, List.mem_filter, List.mem_range, Option.any_eq_true_iff_get]
  constructor
  · rintro ⟨within, present, passes⟩
    exact ⟨_, Option.eq_some_of_isSome present, passes⟩
  · rintro ⟨rule, found, passes⟩
    have within : position < rules.length := by
      obtain ⟨within, _⟩ := List.getElem?_eq_some_iff.mp found
      exact within
    exact ⟨within, by simp [found], by simpa [found] using passes⟩

/-- A rule at the end is listed at the end if it passes. -/
theorem positionsWhere_concat
    (test : Rule → Bool)
    (rules : List Rule)
    (rule : Rule) :
    positionsWhere test (rules ++ [rule]) =
      positionsWhere test rules ++ if test rule then [rules.length] else [] := by
  have earlier :
      (List.range rules.length).filter
          (fun position => ((rules ++ [rule])[position]?).any test) =
        positionsWhere test rules := by
    refine List.filter_congr ?_
    intro position member
    rw [List.getElem?_append_left (List.mem_range.mp member)]
  rw [positionsWhere, List.length_append, List.length_singleton, List.range_succ,
    List.filter_append, earlier]
  cases passes : test rule <;> simp [passes]

theorem lt_length_of_mem_positionsWhere
    {test : Rule → Bool}
    {rules : List Rule}
    {position : Nat}
    (member : position ∈ positionsWhere test rules) :
    position < rules.length :=
  List.mem_range.mp (List.mem_filter.mp member).1

theorem ascending_positionsWhere
    (test : Rule → Bool)
    (rules : List Rule) :
    (positionsWhere test rules).Pairwise fun first second => first < second :=
  List.pairwise_lt_range.filter _

/-- The rules at the positions of those that pass a test are those that pass it. -/
theorem filterMap_positionsWhere
    (test : Rule → Bool)
    (rules : List Rule) :
    (positionsWhere test rules).filterMap (rules[·]?) = rules.filter test := by
  induction rules using List.reverseRecOn with
  | nil =>
      rfl
  | append_singleton earlier rule inductionHypothesis =>
      have unchanged :
          (positionsWhere test earlier).filterMap ((earlier ++ [rule])[·]?) =
            earlier.filter test := by
        rw [← inductionHypothesis]
        refine List.filterMap_congr ?_
        intro position member
        exact List.getElem?_append_left (lt_length_of_mem_positionsWhere member)
      rw [positionsWhere_concat, List.filterMap_append, unchanged, List.filter_append]
      cases passes : test rule <;> simp [passes]

/-- The positions that one or the other of two tests passes, where no rule passes both. -/
theorem positionsWhere_append_perm
    {first second : Rule → Bool}
    (exclusive : ∀ rule, first rule = true → second rule = false)
    (rules : List Rule) :
    (positionsWhere first rules ++ positionsWhere second rules).Perm
      (positionsWhere (fun rule => first rule || second rule) rules) := by
  have parts := List.filter_append_perm (fun position => (rules[position]?).any first)
    (positionsWhere (fun rule => first rule || second rule) rules)
  refine List.Perm.trans (List.Perm.of_eq ?_) parts
  simp only [positionsWhere, List.filter_filter]
  congr 1
  · refine List.filter_congr ?_
    intro position _
    cases rules[position]? with
    | none =>
        rfl
    | some rule =>
        cases isFirst : first rule <;> simp [isFirst]
  · refine List.filter_congr ?_
    intro position _
    cases rules[position]? with
    | none =>
        rfl
    | some rule =>
        cases isFirst : first rule with
        | false =>
            simp [isFirst]
        | true =>
            simp [isFirst, exclusive rule isFirst]

theorem mem_eraseRepsBy_loop
    {word : Text}
    (last : Text)
    (rest kept : List Text) :
    word ∈ List.eraseRepsBy.loop (· == ·) last rest kept ↔ word ∈ kept ∨ word ∈ last :: rest := by
  induction rest generalizing last kept with
  | nil =>
      simp [List.eraseRepsBy.loop, or_comm]
  | cons next rest inductionHypothesis =>
      rw [List.eraseRepsBy.loop]
      split
      · next same =>
          obtain rfl : last = next := by simpa using same
          simp [inductionHypothesis]
      · rw [inductionHypothesis]
        simp only [List.mem_cons]
        grind

/-- Dropping neighbouring repetitions drops no word. -/
theorem mem_eraseReps
    {words : List Text}
    {word : Text} :
    word ∈ words.eraseReps ↔ word ∈ words := by
  cases words with
  | nil =>
      rfl
  | cons first rest =>
      exact (mem_eraseRepsBy_loop first rest []).trans (by simp)

namespace RuleSet

/-- Listing a position under words adds it once to each of them, unless it was the last one. -/
theorem find?_foldl_listUnder
    (position : Nat)
    (words : List Text)
    (index : Table (List Nat))
    (word : Text) :
    ((words.foldl (listUnder position) index).find? word).getD [] =
      if word ∈ words ∧ ((index.find? word).getD []).getLast? ≠ some position then
        (index.find? word).getD [] ++ [position]
      else
        (index.find? word).getD [] := by
  induction words generalizing index with
  | nil =>
      simp
  | cons first rest inductionHypothesis =>
      rw [List.foldl_cons, inductionHypothesis]
      -- A word that comes twice is listed by its first occurrence and passed by at the second.
      by_cases isFirst : word = first
      · subst isFirst
        have listed : ((listUnder position index word).find? word).getD [] =
            if ((index.find? word).getD []).getLast? = some position then
              (index.find? word).getD []
            else
              (index.find? word).getD [] ++ [position] := by
          rw [listUnder, Table.find?_update_self]
          rfl
        rw [listed]
        by_cases last : ((index.find? word).getD []).getLast? = some position
        · simp [last]
        · simp [last]
      · have unchanged : (listUnder position index first).find? word = index.find? word :=
          Table.find?_update_of_ne index isFirst [] _
        rw [unchanged]
        simp [isFirst]

/-- The rules are what their categories make them, and the indexes list their positions. -/
structure Indexed (set : RuleSet) : Prop where
  rules : ∀ rule ∈ set.rules, rule = Rule.ofCategory rule.category rule.serial
  alwaysOn : set.alwaysOn = positionsWhere (·.firstWords?.isNone) set.rules
  byFirstWord : ∀ word,
    (set.byFirstWord.find? word).getD [] =
      positionsWhere (fun rule => (rule.firstWords?.getD []).contains word) set.rules
  bySignature : ∀ signature,
    (set.bySignature.find? signature).getD [] =
      positionsWhere (fun rule => rule.category.signature = signature) set.rules

/-- A category that is added makes the last rule. -/
theorem rules_push
    (set : RuleSet)
    (category : Category)
    (serial : Nat) :
    (set.push category serial).rules = set.rules ++ [Rule.ofCategory category serial] := by
  rfl

theorem indexed_empty : empty.Indexed where
  rules := by simp [empty]
  alwaysOn := rfl
  byFirstWord := fun _ => rfl
  bySignature := fun _ => rfl

namespace Indexed

variable {set : RuleSet}

/-- The position of a new rule is not yet listed under any word. -/
theorem getLast?_ne_size
    (indexed : set.Indexed)
    (word : Text) :
    ((set.byFirstWord.find? word).getD []).getLast? ≠ some set.size := by
  intro last
  rw [indexed.byFirstWord] at last
  have member := List.mem_of_getLast? last
  exact Nat.lt_irrefl _ (lt_length_of_mem_positionsWhere member)

/-- Adding a category keeps the indexes. -/
theorem push
    (indexed : set.Indexed)
    (category : Category)
    (serial : Nat) :
    (set.push category serial).Indexed := by
  have first : (Rule.ofCategory category serial).firstWords? =
      (Pattern.compile category.pattern).firstWords? := rfl
  refine ⟨?_, ?_, ?_, ?_⟩
  · intro rule member
    rw [rules_push] at member
    rcases List.mem_append.mp member with isOld | isNew
    · exact indexed.rules rule isOld
    · rw [List.mem_singleton.mp isNew]
      rfl
  · rw [rules_push, positionsWhere_concat, ← indexed.alwaysOn, first]
    unfold RuleSet.push
    cases (Pattern.compile category.pattern).firstWords? with
    | none =>
        rfl
    | some words =>
        simp
  · intro word
    rw [rules_push, positionsWhere_concat, ← indexed.byFirstWord, first]
    unfold RuleSet.push
    cases (Pattern.compile category.pattern).firstWords? with
    | none =>
        simp
    | some words =>
        simp only [find?_foldl_listUnder, mem_eraseReps, Option.getD_some]
        -- All listed positions are below the new one, so none of the words lists it yet.
        have unlisted : ((set.byFirstWord.find? word).getD []).getLast? ≠
            some set.rules.length := indexed.getLast?_ne_size word
        by_cases isWord : word ∈ words
        · simp [isWord, unlisted, RuleSet.size]
        · simp [isWord]
  · intro signature
    rw [rules_push, positionsWhere_concat, ← indexed.bySignature]
    have listed : (set.push category serial).bySignature =
        set.bySignature.update category.signature [] (· ++ [set.size]) := rfl
    rw [listed]
    have named : (Rule.ofCategory category serial).category = category := rfl
    by_cases same : signature = category.signature
    · subst same
      simp [Table.find?_update_self, named, RuleSet.size]
    · have other : ¬ category.signature = signature := fun isSame => same isSame.symm
      simp [Table.find?_update_of_ne _ same, named, other]

end Indexed

/-- Categories that are added one after the other are indexed and stand at the end. -/
theorem indexed_foldl_push
    (entries : List (Category × Nat))
    {set : RuleSet}
    (indexed : set.Indexed) :
    (entries.foldl (fun set entry => set.push entry.1 entry.2) set).Indexed ∧
      (entries.foldl (fun set entry => set.push entry.1 entry.2) set).rules =
        set.rules ++ entries.map fun entry => Rule.ofCategory entry.1 entry.2 := by
  induction entries generalizing set with
  | nil =>
      simpa using indexed
  | cons entry rest inductionHypothesis =>
      obtain ⟨stillIndexed, rulesAre⟩ :=
        inductionHypothesis (indexed.push entry.1 entry.2)
      refine ⟨stillIndexed, ?_⟩
      rw [List.foldl_cons, rulesAre, rules_push]
      simp

theorem indexed_ofEntries (entries : List (Category × Nat)) :
    (ofEntries entries).Indexed :=
  (indexed_foldl_push entries indexed_empty).1

/-- The rules of entries are those that their categories make, in order. -/
theorem rules_ofEntries (entries : List (Category × Nat)) :
    (ofEntries entries).rules =
      entries.map fun entry => Rule.ofCategory entry.1 entry.2 :=
  (indexed_foldl_push entries indexed_empty).2

/-- The entries of indexed rules make the same rules. -/
theorem Indexed.map_entries
    {set : RuleSet}
    (indexed : set.Indexed) :
    (set.entries.map fun entry => Rule.ofCategory entry.1 entry.2) = set.rules := by
  rw [entries, List.map_map]
  conv => rhs; rw [← List.map_id set.rules]
  refine List.map_congr_left ?_
  intro rule member
  exact (indexed.rules rule member).symm

end RuleSet

namespace KnowledgeBase

/-- The knowledge bases that loading, adding, removing and reloading lead to. -/
inductive Reachable : KnowledgeBase → Prop where
  | load
      (name : Text)
      (globals properties : Table Text)
      (categories : List Category) :
      Reachable (ofCategories name globals properties categories)
  | add
      {knowledge : KnowledgeBase}
      (category : Category) :
      Reachable knowledge →
      Reachable (knowledge.add category).2
  | extend
      {knowledge : KnowledgeBase}
      (categories : List Category) :
      Reachable knowledge →
      Reachable (knowledge.extend categories)
  | remove
      {knowledge : KnowledgeBase}
      (category : Category)
      (serial : Nat) :
      Reachable knowledge →
      Reachable (knowledge.remove category serial).2
  | reload
      {knowledge : KnowledgeBase}
      (categories : List Category) :
      Reachable knowledge →
      Reachable (knowledge.reload categories)

/-- The rules are indexed, and their serial numbers ascend up to the next one. -/
structure Orderly (knowledge : KnowledgeBase) : Prop where
  indexed : knowledge.rules.Indexed
  ascending : knowledge.rules.rules.Pairwise fun first second => first.serial < second.serial
  below : ∀ rule ∈ knowledge.rules.rules, rule.serial < knowledge.nextSerial

namespace Orderly

variable {knowledge : KnowledgeBase}

theorem clear (knowledge : KnowledgeBase) :
    Orderly { knowledge with rules := RuleSet.empty } where
  indexed := RuleSet.indexed_empty
  ascending := List.Pairwise.nil
  below := by simp [RuleSet.empty]

/-- Adding a category keeps a knowledge base orderly. -/
theorem add
    (orderly : knowledge.Orderly)
    (category : Category) :
    (knowledge.add category).2.Orderly := by
  refine ⟨orderly.indexed.push category knowledge.nextSerial, ?_, ?_⟩
  · change (knowledge.rules.rules ++ [_]).Pairwise _
    rw [List.pairwise_append]
    refine ⟨orderly.ascending, List.pairwise_singleton _ _, ?_⟩
    intro rule isOld new isNew
    rw [List.mem_singleton.mp isNew]
    exact orderly.below rule isOld
  · intro rule member
    rcases List.mem_append.mp member with isOld | isNew
    · exact Nat.lt_succ_of_lt (orderly.below rule isOld)
    · rw [List.mem_singleton.mp isNew]
      exact Nat.lt_succ_self _

theorem extend
    (orderly : knowledge.Orderly)
    (categories : List Category) :
    (knowledge.extend categories).Orderly := by
  unfold KnowledgeBase.extend
  induction categories generalizing knowledge with
  | nil =>
      exact orderly
  | cons category rest inductionHypothesis =>
      exact inductionHypothesis (orderly.add category)

/-- Removing a rule keeps a knowledge base orderly. -/
theorem remove
    (orderly : knowledge.Orderly)
    (category : Category)
    (serial : Nat) :
    (knowledge.remove category serial).2.Orderly := by
  unfold KnowledgeBase.remove
  split
  · exact orderly
  · next position found =>
      have kept : (RuleSet.ofEntries (knowledge.rules.entries.eraseIdx position)).rules.Sublist
          knowledge.rules.rules := by
        rw [RuleSet.rules_ofEntries]
        conv => rhs; rw [← orderly.indexed.map_entries]
        exact (List.eraseIdx_sublist _ _).map _
      exact ⟨RuleSet.indexed_ofEntries _, orderly.ascending.sublist kept,
        fun rule member => orderly.below rule (kept.subset member)⟩

end Orderly

/-- Every knowledge base that can be reached is in order. -/
theorem Reachable.orderly
    {knowledge : KnowledgeBase}
    (reachable : knowledge.Reachable) :
    knowledge.Orderly := by
  induction reachable with
  | load name globals properties categories =>
      exact (Orderly.clear (empty name globals properties)).extend categories
  | add category _ inductionHypothesis =>
      exact inductionHypothesis.add category
  | extend categories _ inductionHypothesis =>
      exact inductionHypothesis.extend categories
  | remove category serial _ inductionHypothesis =>
      exact inductionHypothesis.remove category serial
  | reload categories _ _ =>
      exact (Orderly.clear _).extend categories

/-- In order, rules with the same serial number are the same. -/
theorem Orderly.eq_of_serial_eq
    {knowledge : KnowledgeBase}
    (orderly : knowledge.Orderly)
    {first second : Rule}
    (firstMember : first ∈ knowledge.rules.rules)
    (secondMember : second ∈ knowledge.rules.rules)
    (same : first.serial = second.serial) :
    first = second := by
  have forward : knowledge.rules.rules.Pairwise fun first second =>
      first.serial = second.serial → first = second :=
    orderly.ascending.imp fun less alike => absurd alike (Nat.ne_of_lt less)
  have backward : knowledge.rules.rules.Pairwise fun first second =>
      second.serial = first.serial → second = first :=
    orderly.ascending.imp fun less alike => absurd alike.symm (Nat.ne_of_lt less)
  exact forward.forall_of_forall_of_flip (fun _ _ _ => rfl) backward
    firstMember secondMember same

end KnowledgeBase

end Colloquy
