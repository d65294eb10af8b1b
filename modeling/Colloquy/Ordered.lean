namespace Colloquy.Ordered

/-!
# Ordered sets

A finite set is kept as the ascending list of its members, each once. Two such
lists with the same members are the same list.
-/

variable {α : Type} [DecidableEq α] [LT α] [DecidableLT α]

/-- Add a member to an ascending list, unless it is there. -/
def insert
    (member : α) :
    List α →
    List α
  | [] => [member]
  | first :: rest =>
      if member = first then
        first :: rest
      else if member < first then
        member :: first :: rest
      else
        first :: insert member rest

/-- The distinct members of a list, ascending. -/
def ofList (members : List α) : List α :=
  members.foldr insert []

end Colloquy.Ordered
