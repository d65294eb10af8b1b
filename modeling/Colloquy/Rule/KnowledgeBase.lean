import Colloquy.Rule.RuleSet

namespace Colloquy

/-!
# Knowledge bases

A knowledge base has a name, rules, variables that every conversation sees, and
properties of the speaker. Serial numbers are given in order and never twice,
whatever is removed or reloaded. They and the counts are natural numbers: 64 bits
hold them just as well, since no run makes 2^64 steps.
-/

/-- Named rules with shared variables and properties, and counts of what was learned. -/
structure KnowledgeBase where
  name : Text
  rules : RuleSet
  nextSerial : Nat
  globals : Table Text
  properties : Table Text
  learned : Nat
  rejected : Nat
  unlearned : Nat
  deriving DecidableEq, Repr

namespace KnowledgeBase

/-- A knowledge base without rules. -/
def empty
    (name : Text)
    (globals properties : Table Text) :
    KnowledgeBase where
  name := name
  rules := RuleSet.empty
  nextSerial := 0
  globals := globals
  properties := properties
  learned := 0
  rejected := 0
  unlearned := 0

/-- The number of rules. -/
def size (knowledge : KnowledgeBase) : Nat :=
  knowledge.rules.size

/-- Add a category, giving its serial number. -/
def add
    (knowledge : KnowledgeBase)
    (category : Category) :
    Nat × KnowledgeBase :=
  let serial := knowledge.nextSerial
  (serial, { knowledge with
    rules := knowledge.rules.push category serial
    nextSerial := serial + 1 })

/-- Add categories in order. -/
def extend
    (knowledge : KnowledgeBase)
    (categories : List Category) :
    KnowledgeBase :=
  categories.foldl (fun knowledge category => (knowledge.add category).2) knowledge

/-- A knowledge base with the given categories. -/
def ofCategories
    (name : Text)
    (globals properties : Table Text)
    (categories : List Category) :
    KnowledgeBase :=
  (empty name globals properties).extend categories

/-- Remove the rule with the category's signature and the given serial number, if there is one. -/
def remove
    (knowledge : KnowledgeBase)
    (category : Category)
    (serial : Nat) :
    Bool × KnowledgeBase :=
  match knowledge.rules.position? category.signature serial with
  | none => (false, knowledge)
  | some position =>
      (true, { knowledge with
        rules := RuleSet.ofEntries (knowledge.rules.entries.eraseIdx position) })

/-- Replace all rules. -/
def reload
    (knowledge : KnowledgeBase)
    (categories : List Category) :
    KnowledgeBase :=
  { knowledge with rules := RuleSet.empty }.extend categories

/-- Count a rule that was learned. -/
def recordLearned (knowledge : KnowledgeBase) : KnowledgeBase :=
  { knowledge with learned := knowledge.learned + 1 }

/-- Count a rule that was refused. -/
def recordRejected (knowledge : KnowledgeBase) : KnowledgeBase :=
  { knowledge with rejected := knowledge.rejected + 1 }

/-- Count rules that were unlearned. -/
def recordUnlearned
    (knowledge : KnowledgeBase)
    (count : Nat) :
    KnowledgeBase :=
  { knowledge with unlearned := knowledge.unlearned + count }

end KnowledgeBase

end Colloquy
