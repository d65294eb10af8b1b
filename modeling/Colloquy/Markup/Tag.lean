import Colloquy.Text.Basic

namespace Colloquy.Markup

/-!
# The tags

The vocabulary of templates is closed: these are the tags that have a meaning,
with the attributes that each of them reads. An attribute may also be written as
a child element of that name, which is then no part of the tag's content.
-/

/-- The tags that have a meaning. -/
inductive Tag where
  | get
  | set
  | bot
  | star
  | thatstar
  | topicstar
  | input
  | request
  | response
  | that
  | condition
  | li
  | random
  | think
  | srai
  | sr
  | learn
  | unlearn
  | eval
  | uppercase
  | lowercase
  | formal
  | sentence
  | word
  | person
  | person2
  | gender
  | substring
  | replace
  | length
  | count
  | list
  | map
  | subj
  | pred
  | obj
  | uniq
  deriving DecidableEq, Repr

namespace Tag

/-- How a tag is written. -/
def spelling : Tag → String
  | .get => "get"
  | .set => "set"
  | .bot => "bot"
  | .star => "star"
  | .thatstar => "thatstar"
  | .topicstar => "topicstar"
  | .input => "input"
  | .request => "request"
  | .response => "response"
  | .that => "that"
  | .condition => "condition"
  | .li => "li"
  | .random => "random"
  | .think => "think"
  | .srai => "srai"
  | .sr => "sr"
  | .learn => "learn"
  | .unlearn => "unlearn"
  | .eval => "eval"
  | .uppercase => "uppercase"
  | .lowercase => "lowercase"
  | .formal => "formal"
  | .sentence => "sentence"
  | .word => "word"
  | .person => "person"
  | .person2 => "person2"
  | .gender => "gender"
  | .substring => "substring"
  | .replace => "replace"
  | .length => "length"
  | .count => "count"
  | .list => "list"
  | .map => "map"
  | .subj => "subj"
  | .pred => "pred"
  | .obj => "obj"
  | .uniq => "uniq"

/-- Every tag. -/
def all : List Tag := [
  .get, .set, .bot, .star, .thatstar, .topicstar, .input, .request, .response, .that,
  .condition, .li, .random, .think, .srai, .sr, .learn, .unlearn, .eval, .uppercase,
  .lowercase, .formal, .sentence, .word, .person, .person2, .gender, .substring, .replace,
  .length, .count, .list, .map, .subj, .pred, .obj, .uniq]

/-- The tag with the given name. -/
def ofName? (name : Text) : Option Tag :=
  all.find? (·.spelling.toList == name)

/-- The attributes that a tag reads. -/
def attributeNames : Tag → List String
  | .get => ["name", "var"]
  | .set => ["name", "var"]
  | .bot => ["name"]
  | .star => ["index"]
  | .thatstar => ["index"]
  | .topicstar => ["index"]
  | .input => ["index"]
  | .request => ["index"]
  | .response => ["index"]
  | .that => ["index"]
  | .condition => ["name", "var", "value"]
  | .li => ["name", "var", "value"]
  | .substring => ["start", "end"]
  | .replace => ["search", "replace"]
  | .length => ["mode"]
  | .count => ["mode", "search"]
  | .list => ["name", "action", "index"]
  | .map => ["name", "action", "key"]
  | _ => []

/-- The tag answers with what a wildcard took. -/
def isWildcardReference : Tag → Bool
  | .star => true
  | .thatstar => true
  | .topicstar => true
  | .sr => true
  | _ => false

/-- The tag has a text answered by the rules. -/
def isSelfReference : Tag → Bool
  | .srai => true
  | .sr => true
  | _ => false

end Tag

/-- Names that templates may use besides the tags: parts of rules and attributes. -/
def structuralNames : List String := [
  "category", "pattern", "template", "topic", "name", "var", "value", "index", "search",
  "key", "action", "mode", "start", "end"]

/-- The name may be used in a template that is to be learned. -/
def isKnownName (name : Text) : Bool :=
  (Tag.ofName? name).isSome || structuralNames.any (·.toList == name)

end Colloquy.Markup
