import Colloquy.Pattern.Basic
import Colloquy.Rule.Category
import Colloquy.Table

namespace Colloquy

/-!
# Rule sets

A rule is a category with the serial number under which it was added. A rule set
holds rules in the order of their addition, each known by its position, and
three indexes on them. Rules whose pattern may begin with any word are always
reached; the others are reached through the words they may begin with; and
signatures lead to the rules that have them. What a pattern requires of the
words of an utterance is worked out once, so that most rules need not be matched.
-/

/-- A category with its serial number and the words that its pattern requires. -/
structure Rule where
  category : Category
  serial : Nat
  requiredWords : List Text
  alternatives : List (List Text)
  deriving DecidableEq, Repr

namespace Rule

/-- The rule of a category that is added under the given serial number. -/
def ofCategory
    (category : Category)
    (serial : Nat) :
    Rule :=
  let pattern := Pattern.compile category.pattern
  ⟨category, serial, pattern.requiredWords, pattern.alternativeWords⟩

/-- The words contain all that the pattern requires. -/
def admits
    (rule : Rule)
    (words : List Text) :
    Bool :=
  rule.requiredWords.all words.contains &&
    rule.alternatives.all fun group => group.any words.contains

end Rule

/-- Rules in the order of their addition, with indexes on their positions. -/
structure RuleSet where
  rules : List Rule
  alwaysOn : List Nat
  byFirstWord : Table (List Nat)
  bySignature : Table (List Nat)
  deriving DecidableEq, Repr

namespace RuleSet

/-- No rules. -/
def empty : RuleSet :=
  ⟨[], [], Table.empty, Table.empty⟩

/-- The number of rules. -/
def size (set : RuleSet) : Nat :=
  set.rules.length

/-- List a position under a word, once. -/
def listUnder
    (position : Nat)
    (index : Table (List Nat))
    (word : Text) :
    Table (List Nat) :=
  index.update word [] fun positions =>
    if positions.getLast? = some position then
      positions
    else
      positions ++ [position]

/-- Add a category under the given serial number. -/
def push
    (set : RuleSet)
    (category : Category)
    (serial : Nat) :
    RuleSet :=
  let position := set.size
  let indexed : RuleSet :=
    match (Pattern.compile category.pattern).firstWords? with
    | some words =>
        { set with byFirstWord := words.eraseReps.foldl (listUnder position) set.byFirstWord }
    | none => { set with alwaysOn := set.alwaysOn ++ [position] }
  { indexed with
    rules := set.rules ++ [Rule.ofCategory category serial]
    bySignature := set.bySignature.update category.signature [] (· ++ [position]) }

/-- The rule set of categories with their serial numbers. -/
def ofEntries (entries : List (Category × Nat)) : RuleSet :=
  entries.foldl (fun set (category, serial) => set.push category serial) empty

/-- The categories with their serial numbers. -/
def entries (set : RuleSet) : List (Category × Nat) :=
  set.rules.map fun rule => (rule.category, rule.serial)

/-- The position of the rule with the given signature and serial number. -/
def position?
    (set : RuleSet)
    (signature : Text)
    (serial : Nat) :
    Option Nat :=
  ((set.bySignature.find? signature).getD []).find? fun position =>
    (set.rules[position]?).any (·.serial = serial)

/-- The rules that an utterance reaches and those of them that its words admit. -/
structure Activation where
  reached : Nat
  rules : List Rule
  deriving DecidableEq, Repr

/-- The reached rules that the words did not admit. -/
def Activation.gated (activation : Activation) : Nat :=
  activation.reached - activation.rules.length

/-- The positions of the rules that an utterance reaches, ascending. -/
def reachedPositions
    (set : RuleSet)
    (utterance : Utterance) :
    List Nat :=
  let indexed :=
    match utterance.firstWord? with
    | some word => (set.byFirstWord.find? word).getD []
    | none => []
  Ordered.ofList (set.alwaysOn ++ indexed)

/-- Select the rules that may match an utterance. -/
def activate
    (set : RuleSet)
    (utterance : Utterance) :
    Activation :=
  let reached := (set.reachedPositions utterance).filterMap (set.rules[·]?)
  let words := utterance.wordSet
  ⟨reached.length, reached.filter (·.admits words)⟩

end RuleSet

end Colloquy
