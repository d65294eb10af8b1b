import Colloquy.Admission.Danger
import Colloquy.Admission.Refusal
import Colloquy.Markup.Tag
import Colloquy.Markup.Tree
import Colloquy.Pattern.Basic
import Colloquy.Rule.Category
import Colloquy.Settings

namespace Colloquy.Admission

/-!
# Validation

A category is learned only if it passes every check. The checks are made in a
fixed order, and the first one that fails is the reason of the refusal.
-/

/-- A check passes, or says why not. -/
abbrev Verdict := Except Refusal Unit

/-- Pass if the condition holds. -/
def require
    (condition : Bool)
    (refusal : Refusal) :
    Verdict :=
  if condition then .ok () else .error refusal

/-- The character may not stand in a pattern. -/
def isForbidden (c : Char) : Bool :=
  Text.isControl c || "<>\x7b\x7d[]\\;\"`=".toList.contains c

/-- No part of the category may hold dangerous content. -/
def checkDanger
    (part : Part)
    (text : Text) :
    Verdict :=
  match dangerousContent? text with
  | some content => .error (.dangerousContent part content)
  | none => .ok ()

/-- A pattern is neither too long nor too short, blank ends aside. -/
def checkLength
    (field : PatternField)
    (pattern : Text)
    (limits : LearningLimits) :
    Verdict := do
  let length := (Text.trim pattern).length
  require (length ≤ limits.maxPatternLength)
    (.patternTooLong field limits.maxPatternLength length)
  require (limits.minPatternLength ≤ length)
    (.patternTooShort field limits.minPatternLength length)

/-! ## Groups -/

/-- The number of groups still open after a text, unless one is closed too often. -/
def openGroups? :
    Nat →
    Text →
    Option Nat
  | depth, [] => some depth
  | depth, c :: rest =>
      if c = '(' then
        openGroups? (depth + 1) rest
      else if c = ')' then
        match depth with
        | 0 => none
        | outer + 1 => openGroups? outer rest
      else
        openGroups? depth rest

/-- The inside of a group is two or more options, none of them blank or with a parenthesis. -/
def isGroupInside (inside : Text) : Bool :=
  let options := inside.splitOn '|'
  !inside.contains '(' && 2 ≤ options.length && !options.any Text.allBlank

/--
Check the groups of a text one after the other. Inside of a group, the
characters read so far are given newest first.
-/
def checkGroupsFrom
    (field : PatternField) :
    Option Text →
    Text →
    Verdict
  | none, [] => .ok ()
  | some _, [] => .error (.unbalancedParentheses field)
  | none, c :: rest => checkGroupsFrom field (if c = '(' then some [] else none) rest
  | some inside, c :: rest =>
      if c = ')' then
        if isGroupInside inside.reverse then
          checkGroupsFrom field none rest
        else
          .error (.badGroup field inside.reverse)
      else
        checkGroupsFrom field (some (c :: inside)) rest

/-- Parentheses are balanced, and every group is one. -/
def checkGroups
    (field : PatternField)
    (pattern : Text) :
    Verdict := do
  require (openGroups? 0 pattern = some 0) (.unbalancedParentheses field)
  checkGroupsFrom field none pattern

/-! ## Patterns -/

/-- The word is a wildcard. -/
def isWildcardWord (word : Text) : Bool :=
  (Wildcard.ofWord? word).isSome

/-- The number of words before the first two wildcards that stand side by side. -/
def adjacentWildcards? : List Text → Option Nat
  | first :: second :: rest =>
      if isWildcardWord first && isWildcardWord second then
        some 0
      else
        (adjacentWildcards? (second :: rest)).map (· + 1)
  | _ => none

/-- Wildcards stand alone. -/
def checkAdjacency
    (field : PatternField)
    (words : List Text) :
    Verdict :=
  match adjacentWildcards? words with
  | some before => .error (.consecutiveWildcards field (before + 2))
  | none => .ok ()

/-- Characters, wildcards, groups and number of words of a pattern. -/
def checkPattern
    (field : PatternField)
    (pattern : Text)
    (limits : LearningLimits) :
    Verdict := do
  let forbidden := Ordered.ofList (pattern.filter isForbidden)
  require forbidden.isEmpty (.invalidCharacters field forbidden)
  let words := Text.words pattern
  let wildcards := words.countP isWildcardWord
  require (wildcards ≤ limits.maxWildcards)
    (.tooManyWildcards field limits.maxWildcards wildcards)
  checkAdjacency field words
  checkGroups field pattern
  require (words.length ≤ limits.maxPatternTokens)
    (.patternTooComplex field limits.maxPatternTokens words.length)

/-- Length and content of a constraint, which may be absent or blank. -/
def checkConstraint
    (field : PatternField)
    (constraint : Option Text)
    (limits : LearningLimits) :
    Verdict :=
  match constraint.filter (!Text.allBlank ·) with
  | none => .ok ()
  | some pattern => do
      checkLength field pattern limits
      checkPattern field pattern limits

/-! ## Templates -/

/-- The number of elements whose tag satisfies the test. -/
def countTags
    (test : Markup.Tag → Bool)
    (nodes : List Markup.Node) :
    Nat :=
  (Markup.selectNodes (fun element => (Markup.Tag.ofName? element.name).any test) nodes).length

/-- Every name is known. -/
def checkNames (names : List Text) : Verdict :=
  match names.find? (!Markup.isKnownName ·) with
  | some name => .error (.unknownTag name)
  | none => .ok ()

/-- Nesting, names and references of a template. -/
def checkTemplate
    (template : Text)
    (limits : LearningLimits) :
    Verdict := do
  let shape ← (Markup.checkStructure template).mapError .unbalancedTags
  require (shape.maxDepth ≤ limits.maxNestingDepth)
    (.excessiveNesting limits.maxNestingDepth shape.maxDepth)
  checkNames shape.tagNames
  let nodes := Markup.parse template
  let selfReferences := countTags Markup.Tag.isSelfReference nodes
  require (selfReferences ≤ limits.maxSelfReferences)
    (.tooManySelfReferences limits.maxSelfReferences selfReferences)
  let wildcardReferences := countTags Markup.Tag.isWildcardReference nodes
  require (wildcardReferences ≤ limits.maxWildcardReferences)
    (.tooManyWildcardReferences limits.maxWildcardReferences wildcardReferences)

/-- Whether a category may be learned. -/
def validate
    (category : Category)
    (limits : LearningLimits) :
    Verdict := do
  require (!Text.allBlank category.pattern) .emptyPattern
  require (!Text.allBlank category.template) .emptyTemplate
  checkDanger .pattern category.pattern
  category.that.forM (checkDanger .that)
  category.topic.forM (checkDanger .topic)
  checkDanger .template category.template
  checkLength .input category.pattern limits
  require (category.template.length ≤ limits.maxTemplateLength)
    (.templateTooLong limits.maxTemplateLength category.template.length)
  checkPattern .input category.pattern limits
  checkConstraint .that category.that limits
  checkConstraint .topic category.topic limits
  checkTemplate category.template limits

end Colloquy.Admission
