namespace Colloquy.Ordinal

/-!
# Ordinals

Templates count from one: the first entry has number one, and no entry has
number zero.
-/

variable {α : Type}

/-- The entry with the given number, counted from one. -/
def nth?
    (entries : List α) :
    Nat →
    Option α
  | 0 => none
  | before + 1 => entries[before]?

/-- The entry with the given number, counted from one at the end. -/
def nthRecent?
    (entries : List α)
    (number : Nat) :
    Option α :=
  nth? entries.reverse number

/-- Replace the entry with the given number, if there is one. -/
def set?
    (entries : List α)
    (number : Nat)
    (entry : α) :
    Option (List α) :=
  match nth? entries number with
  | some _ => some (entries.set (number - 1) entry)
  | none => none

/-- Take out the entry with the given number, if there is one. -/
def remove?
    (entries : List α)
    (number : Nat) :
    Option (α × List α) :=
  (nth? entries number).map fun entry => (entry, entries.eraseIdx (number - 1))

/-- Add an entry at the end and keep at most the last `limit` entries. -/
def pushBounded
    (limit : Nat)
    (entry : α)
    (entries : List α) :
    List α :=
  let longer := entries ++ [entry]
  longer.drop (longer.length - limit)

end Colloquy.Ordinal
