import Colloquy.Ordered
import Colloquy.Table

namespace Colloquy

/-!
# Finite sets and tables

What the ascending lists behind sets and tables hold. Making a set of a list
forgets the order and how often a member comes, and leaves an ascending list as
it is.
-/

namespace Ordered

variable {α : Type} [DecidableEq α] [LT α] [DecidableLT α]

/-- Inserting adds one member. -/
theorem mem_insert
    {member other : α}
    {members : List α} :
    other ∈ insert member members ↔ other = member ∨ other ∈ members := by
  induction members with
  | nil =>
      simp [insert]
  | cons first rest inductionHypothesis =>
      unfold insert
      split
      · next same =>
          subst same
          simp
      · split
        · exact List.mem_cons
        · simp only [List.mem_cons, inductionHypothesis]
          constructor
          · rintro (isFirst | isMember | inRest)
            · exact Or.inr (Or.inl isFirst)
            · exact Or.inl isMember
            · exact Or.inr (Or.inr inRest)
          · rintro (isMember | isFirst | inRest)
            · exact Or.inr (Or.inl isMember)
            · exact Or.inl isFirst
            · exact Or.inr (Or.inr inRest)

/-- A set has the members of the list that it was made of. -/
theorem mem_ofList
    {member : α}
    {members : List α} :
    member ∈ ofList members ↔ member ∈ members := by
  induction members with
  | nil =>
      rfl
  | cons first rest inductionHypothesis =>
      change member ∈ insert first (ofList rest) ↔ _
      rw [mem_insert, inductionHypothesis, List.mem_cons]

section Order

variable
  [Std.Asymm fun first second : α => first < second]
  [Std.Trichotomous fun first second : α => first < second]
  [Trans
    (fun first second : α => first < second)
    (fun first second : α => first < second)
    (fun first second : α => first < second)]

/-- The order of insertions does not matter. -/
theorem insert_left_comm
    (first second : α)
    (members : List α) :
    insert first (insert second members) = insert second (insert first members) := by
  have asymmetric : ∀ a b : α, a < b → ¬ b < a := fun a b => Std.Asymm.asymm a b
  have trichotomous : ∀ a b : α, ¬ a < b → ¬ b < a → a = b := Std.Trichotomous.trichotomous
  have transitive : ∀ a b c : α, a < b → b < c → a < c := fun _ _ _ => Trans.trans
  induction members with
  | nil =>
      grind [insert]
  | cons head rest inductionHypothesis =>
      grind [insert]

/-- A set does not depend on the order in which its members were added. -/
theorem ofList_eq_of_perm
    {first second : List α}
    (same : first.Perm second) :
    ofList first = ofList second :=
  same.foldr_eq' (fun one _ other _ members => insert_left_comm other one members) []

omit
  [Std.Trichotomous fun first second : α => first < second]
  [Trans
    (fun first second : α => first < second)
    (fun first second : α => first < second)
    (fun first second : α => first < second)] in
/-- An ascending list is the set of its members. -/
theorem ofList_eq_self
    {members : List α}
    (ascending : members.Pairwise fun first second => first < second) :
    ofList members = members := by
  induction members with
  | nil =>
      rfl
  | cons first rest inductionHypothesis =>
      obtain ⟨belowRest, restAscends⟩ := List.pairwise_cons.mp ascending
      change insert first (ofList rest) = first :: rest
      rw [inductionHypothesis restAscends]
      cases rest with
      | nil =>
          rfl
      | cons second others =>
          have less := belowRest second List.mem_cons_self
          have different : first ≠ second := by
            rintro rfl
            exact Std.Asymm.asymm first first less less
          rw [insert, if_neg different, if_pos less]

end Order

end Ordered

namespace Table

variable {α : Type}

theorem find?_insert_self
    (table : Table α)
    (name : Text)
    (value : α) :
    (table.insert name value).find? name = some value := by
  obtain ⟨entries, ascending⟩ := table
  simp only [find?, insert]
  clear ascending
  induction entries with
  | nil =>
      simp [insertEntry]
  | cons first rest inductionHypothesis =>
      unfold insertEntry
      split
      · simp
      · next different =>
          split
          · simp
          · have other : ¬ first.1 = name := fun same => different same.symm
            simpa [other] using inductionHypothesis

/-- Inserting a name leaves all others as they were. -/
theorem find?_insert_of_ne
    (table : Table α)
    {name other : Text}
    (different : other ≠ name)
    (value : α) :
    (table.insert name value).find? other = table.find? other := by
  obtain ⟨entries, ascending⟩ := table
  have unlike : ¬ name = other := fun same => different same.symm
  simp only [find?, insert]
  clear ascending
  induction entries with
  | nil =>
      simp [insertEntry, unlike]
  | cons first rest inductionHypothesis =>
      unfold insertEntry
      split
      · next same =>
          have notFirst : ¬ first.1 = other := fun isFirst => unlike (same.trans isFirst)
          simp [unlike, notFirst]
      · split
        · simp [unlike]
        · by_cases isFirst : first.1 = other
          · simp [isFirst]
          · simpa [isFirst] using inductionHypothesis

theorem find?_update_self
    (table : Table α)
    (name : Text)
    (default : α)
    (change : α → α) :
    (table.update name default change).find? name =
      some (change ((table.find? name).getD default)) :=
  table.find?_insert_self name _

/-- Changing the value of a name leaves all others as they were. -/
theorem find?_update_of_ne
    (table : Table α)
    {name other : Text}
    (different : other ≠ name)
    (default : α)
    (change : α → α) :
    (table.update name default change).find? other = table.find? other :=
  table.find?_insert_of_ne different _

end Table

end Colloquy
