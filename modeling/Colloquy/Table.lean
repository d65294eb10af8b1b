import Colloquy.Text.Basic

namespace Colloquy

/-!
# Tables

A table gives a value to each of finitely many names. It is kept as the list of
its entries in ascending order of their names, so that tables with the same
entries are equal.
-/

/-- The names of the entries ascend, so none of them comes twice. -/
def NamesAscend {α : Type} (entries : List (Text × α)) : Prop :=
  entries.Pairwise fun first second => first.1 < second.1

/-- Names with their values, ascending by name. -/
structure Table (α : Type) where
  entries : List (Text × α)
  ascending : NamesAscend entries
  deriving DecidableEq, Repr

namespace Table

variable {α : Type}

/-- No name has a value. -/
def empty : Table α :=
  ⟨[], List.Pairwise.nil⟩

/-- The value of a name. -/
def find?
    (table : Table α)
    (name : Text) :
    Option α :=
  (table.entries.find? (·.1 == name)).map Prod.snd

/-- Give a name its value among ascending entries. -/
def insertEntry
    (name : Text)
    (value : α) :
    List (Text × α) →
    List (Text × α)
  | [] => [(name, value)]
  | first :: rest =>
      if name = first.1 then
        (name, value) :: rest
      else if name < first.1 then
        (name, value) :: first :: rest
      else
        first :: insertEntry name value rest

/-- An entry is the one that was given its value, or was there before. -/
theorem mem_insertEntry
    {name : Text}
    {value : α}
    {entries : List (Text × α)}
    {entry : Text × α}
    (member : entry ∈ insertEntry name value entries) :
    entry = (name, value) ∨ entry ∈ entries := by
  induction entries with
  | nil => exact Or.inl (List.mem_singleton.mp member)
  | cons first rest inductionHypothesis =>
      unfold insertEntry at member
      split at member
      · exact (List.mem_cons.mp member).imp_right (List.mem_cons_of_mem first)
      · split at member
        · exact List.mem_cons.mp member
        · rcases List.mem_cons.mp member with isFirst | isLater
          · exact Or.inr (isFirst ▸ List.mem_cons_self)
          · exact (inductionHypothesis isLater).imp_right (List.mem_cons_of_mem first)

/-- Giving a name its value keeps the names ascending. -/
theorem namesAscend_insertEntry
    (name : Text)
    (value : α)
    {entries : List (Text × α)}
    (ascending : NamesAscend entries) :
    NamesAscend (insertEntry name value entries) := by
  induction entries with
  | nil => exact List.pairwise_singleton _ _
  | cons first rest inductionHypothesis =>
      obtain ⟨aboveFirst, restAscends⟩ := List.pairwise_cons.mp ascending
      unfold insertEntry
      split
      · next same =>
          refine List.pairwise_cons.mpr ⟨?_, restAscends⟩
          intro later member
          exact same ▸ aboveFirst later member
      · next different =>
          split
          · next below =>
              refine List.pairwise_cons.mpr ⟨?_, ascending⟩
              intro later member
              rcases List.mem_cons.mp member with isFirst | isLater
              · exact isFirst ▸ below
              · exact List.lt_trans below (aboveFirst later isLater)
          · next notBelow =>
              have above : first.1 < name := by
                apply Decidable.byContradiction
                intro notAbove
                apply different
                exact List.le_antisymm (List.not_lt.mp notAbove) (List.not_lt.mp notBelow)
              refine List.pairwise_cons.mpr ⟨?_, inductionHypothesis restAscends⟩
              intro later member
              rcases mem_insertEntry member with isNew | isOld
              · exact isNew ▸ above
              · exact aboveFirst later isOld

/-- Give a name its value. -/
def insert
    (table : Table α)
    (name : Text)
    (value : α) :
    Table α :=
  ⟨insertEntry name value table.entries, namesAscend_insertEntry name value table.ascending⟩

/-- Take a name and its value away. -/
def erase
    (table : Table α)
    (name : Text) :
    Table α :=
  ⟨table.entries.filter (·.1 != name), List.Pairwise.filter _ table.ascending⟩

/-- Change the value of a name, which is `default` where there is none. -/
def update
    (table : Table α)
    (name : Text)
    (default : α)
    (change : α → α) :
    Table α :=
  table.insert name (change ((table.find? name).getD default))

/-- The table to which pairs were added in order. -/
def ofPairs (pairs : List (Text × α)) : Table α :=
  pairs.foldl (fun table (name, value) => table.insert name value) empty

/-- The names, ascending. -/
def names (table : Table α) : List Text :=
  table.entries.map Prod.fst

/-- The values, by ascending name. -/
def values (table : Table α) : List α :=
  table.entries.map Prod.snd

end Table

end Colloquy
