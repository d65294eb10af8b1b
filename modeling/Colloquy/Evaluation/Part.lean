import Colloquy.Evaluation.Turn
import Colloquy.Markup.Tag
import Colloquy.Markup.Weight

namespace Colloquy.Evaluation

/-!
# Parts of an element

An element is evaluated by evaluating parts of it: its attributes, which may hold
markup or stand as child elements, and its content. Each part weighs less than
the element, so that evaluation comes to an end. Functions on elements take the
evaluation of lighter parts as an argument.
-/

open Markup

/-- Nodes that weigh less than the limit. -/
abbrev Part (limit : Nat) :=
  { nodes : List Node // nodesWeight nodes < limit }

/-- An element that weighs at most the limit, so that its children and values are parts. -/
abbrev Piece (limit : Nat) :=
  { element : Element // element.weight ≤ limit }

/-- How the parts of an element are evaluated. -/
abbrev PartEvaluator (limit : Nat) :=
  Part limit → Evaluation Text

variable {limit : Nat}

namespace Piece

/-- What a piece's tag means, if it has a meaning. -/
def tag? (piece : Piece limit) : Option Tag :=
  Tag.ofName? piece.val.name

/-- Some of the children. -/
def childrenWhere
    (piece : Piece limit)
    (keep : Node → Bool) :
    Part limit :=
  ⟨piece.val.children.filter keep,
    Nat.lt_of_le_of_lt (nodesWeight_sublist List.filter_sublist)
      (Nat.lt_of_lt_of_le piece.val.nodesWeight_children_lt piece.property)⟩

/-- All children. -/
def children (piece : Piece limit) : Part limit :=
  ⟨piece.val.children, Nat.lt_of_lt_of_le piece.val.nodesWeight_children_lt piece.property⟩

/-- The children one by one. -/
def eachChild (piece : Piece limit) : List (Part limit) :=
  piece.val.children.attach.map fun node =>
    ⟨[node.val],
      Nat.lt_of_le_of_lt (nodesWeight_sublist (List.singleton_sublist.mpr node.property))
        piece.children.property⟩

/-- The child elements. -/
def elements (piece : Piece limit) : List (Piece limit) :=
  (elementsOf piece.val.children).attach.map fun child =>
    ⟨child.val,
      Nat.le_trans (Nat.le_of_lt (Element.weight_lt_of_mem_children child.property))
        piece.property⟩

/-- The first child element with the given name. -/
def child?
    (piece : Piece limit)
    (name : Text) :
    Option (Piece limit) :=
  match found : piece.val.child? name with
  | none => none
  | some child =>
      some ⟨child,
        Nat.le_trans (Nat.le_of_lt (Element.weight_lt_of_child? found)) piece.property⟩

/-- The child elements with the given tag. -/
def elementsTagged
    (piece : Piece limit)
    (tag : Tag) :
    List (Piece limit) :=
  piece.elements.filter fun child => child.tag? = some tag

end Piece

/-- A value that holds markup has to be evaluated. -/
def holdsMarkup (value : Text) : Bool :=
  value.contains '<'

/-- The value of an attribute, or else of the child element with its name. -/
def attribute?
    (evaluate : PartEvaluator limit)
    (piece : Piece limit)
    (name : String) :
    Evaluation (Option Text) :=
  match found : piece.val.attributeValue? name.toList with
  | some value =>
      if holdsMarkup value then do
        let nodes ← fetch value
        let text ← evaluate ⟨nodes.val, by
          rw [nodes.property]
          exact Nat.lt_of_lt_of_le (Element.nodesWeight_parse_lt found) piece.property⟩
        return some (Text.trim text)
      else
        return some (Text.trim value)
  | none =>
      match piece.child? name.toList with
      | some child => do
          let text ← evaluate child.children
          return some (Text.trim text)
      | none => return none

/-- The value of an attribute, empty if there is none. -/
def attributeText
    (evaluate : PartEvaluator limit)
    (piece : Piece limit)
    (name : String) :
    Evaluation Text := do
  let value ← attribute? evaluate piece name
  return value.getD []

/-- A node stands for an attribute. -/
def standsForAttribute
    (names : List String) :
    Node →
    Bool
  | .text _ => false
  | .element name _ _ _ => names.any (·.toList == name)

/-- What the children evaluate to, but for those that stand for attributes. -/
def content
    (evaluate : PartEvaluator limit)
    (piece : Piece limit) :
    Evaluation Text :=
  let names := (piece.tag?.map Tag.attributeNames).getD []
  evaluate (piece.childrenWhere fun node => !standsForAttribute names node)

/-- The content with its blanks collapsed. -/
def collapsedContent
    (evaluate : PartEvaluator limit)
    (piece : Piece limit) :
    Evaluation Text := do
  let text ← content evaluate piece
  return Text.collapse text

/-- Read a number that counts or numbers things. -/
def toCount? (text : Text) : Option Nat :=
  Text.toNat? 10 Text.maxCount text

/-- The number in the `index` attribute, one if there is none. -/
def index
    (evaluate : PartEvaluator limit)
    (piece : Piece limit) :
    Evaluation Nat := do
  let value ← attribute? evaluate piece "index"
  return (value.bind toCount?).getD 1

/-- What the parts evaluate to, one after the other. -/
def eachInTurn
    (evaluate : PartEvaluator limit) :
    List (Part limit) →
    Evaluation (List Text)
  | [] => return []
  | part :: rest => do
      let text ← evaluate part
      let texts ← eachInTurn evaluate rest
      return text :: texts

end Colloquy.Evaluation
