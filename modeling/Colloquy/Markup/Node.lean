import Colloquy.Markup.Lexeme

namespace Colloquy.Markup

/-!
# Template trees

A template is read into a list of nodes, each a piece of text or an element with
attributes and nodes of its own. An element remembers whether it was written as
a self-closing tag, so that it can be written back the same way.
-/

/-- A piece of text, or an element with its children. -/
inductive Node where
  | text (content : Text)
  | element
      (name : Text)
      (attributes : List Attribute)
      (children : List Node)
      (selfClosing : Bool)
  deriving Repr, Inhabited

mutual

/-- Whether two nodes are the same. -/
def Node.decEq : (first second : Node) → Decidable (first = second)
  | .text content, .text content' =>
      decidable_of_iff (content = content') (by simp)
  | .text _, .element _ _ _ _ => isFalse (by simp)
  | .element _ _ _ _, .text _ => isFalse (by simp)
  | .element name attributes children selfClosing,
      .element name' attributes' children' selfClosing' =>
      have := decEqNodes children children'
      decidable_of_iff
        (name = name' ∧ attributes = attributes' ∧ children = children' ∧
          selfClosing = selfClosing')
        (by simp)

/-- Whether two lists of nodes are the same. -/
def decEqNodes : (first second : List Node) → Decidable (first = second)
  | [], [] => isTrue rfl
  | [], _ :: _ => isFalse (by simp)
  | _ :: _, [] => isFalse (by simp)
  | node :: rest, node' :: rest' =>
      have := node.decEq node'
      have := decEqNodes rest rest'
      decidable_of_iff (node = node' ∧ rest = rest') (by simp)

end

instance : DecidableEq Node :=
  Node.decEq

/-- An element apart from its neighbours. -/
structure Element where
  name : Text
  attributes : List Attribute
  children : List Node
  selfClosing : Bool
  deriving DecidableEq, Repr

namespace Element

/-- The node that is this element. -/
def toNode (element : Element) : Node :=
  .element element.name element.attributes element.children element.selfClosing

/-- An element that is self-closing exactly if it has no children. -/
def ofParts
    (name : Text)
    (attributes : List Attribute)
    (children : List Node) :
    Element :=
  ⟨name, attributes, children, children.isEmpty⟩

/-- The value of the first attribute with the given name. -/
def attributeValue?
    (element : Element)
    (name : Text) :
    Option Text :=
  (element.attributes.find? (·.1 == name)).map Prod.snd

end Element

/-- The element that a node is, if it is one. -/
def Node.element? : Node → Option Element
  | .text _ => none
  | .element name attributes children selfClosing =>
      some ⟨name, attributes, children, selfClosing⟩

/-- The elements among the given nodes. -/
def elementsOf (nodes : List Node) : List Element :=
  nodes.filterMap Node.element?

/-- The first child element with the given name. -/
def Element.child?
    (element : Element)
    (name : Text) :
    Option Element :=
  (elementsOf element.children).find? (·.name == name)

/-! ## Writing trees -/

/-- An attribute as it stands in a tag. -/
def renderAttribute (entry : Attribute) : Text :=
  [' '] ++ entry.1 ++ ['=', '"'] ++ escapeAttribute entry.2 ++ ['"']

/-- An opening or self-closing tag. -/
def renderStart
    (name : Text)
    (attributes : List Attribute)
    (selfClosing : Bool) :
    Text :=
  ['<'] ++ name ++ attributes.flatMap renderAttribute ++
    (if selfClosing then ['/', '>'] else ['>'])

/-- A closing tag, which a self-closing element has not. -/
def renderEnd
    (name : Text)
    (selfClosing : Bool) :
    Text :=
  if selfClosing then [] else ['<', '/'] ++ name ++ ['>']

mutual

/-- A node as markup. -/
def Node.render : Node → Text
  | .text content => escapeText content
  | .element name attributes children selfClosing =>
      renderStart name attributes selfClosing ++
        (if selfClosing then [] else renderNodes children) ++
        renderEnd name selfClosing

/-- Nodes as markup, one after the other. -/
def renderNodes : List Node → Text
  | [] => []
  | node :: rest => node.render ++ renderNodes rest

end

/-! ## Looking through trees -/

mutual

/-- The elements of a node that pass the test, outer before inner. -/
def Node.select
    (test : Element → Bool) :
    Node →
    List Element
  | .text _ => []
  | .element name attributes children selfClosing =>
      let inner := selectNodes test children
      let element : Element := ⟨name, attributes, children, selfClosing⟩
      if test element then element :: inner else inner

/-- The elements of the nodes that pass the test, in document order. -/
def selectNodes
    (test : Element → Bool) :
    List Node →
    List Element
  | [] => []
  | node :: rest => node.select test ++ selectNodes test rest

end

/-- All elements with the given name, in document order. -/
def findAll
    (nodes : List Node)
    (name : Text) :
    List Element :=
  selectNodes (·.name == name) nodes

/-- The first element with the given name, in document order. -/
def findFirst?
    (nodes : List Node)
    (name : Text) :
    Option Element :=
  (findAll nodes name).head?

mutual

/-- The text of a node without its tags. -/
def Node.flatten : Node → Text
  | .text content => content
  | .element _ _ children _ => flattenNodes children

/-- The text of the nodes without their tags. -/
def flattenNodes : List Node → Text
  | [] => []
  | node :: rest => node.flatten ++ flattenNodes rest

end

/-! ## Weights -/

/-- The number of characters that a list of attributes is made of. -/
def attributesWeight : List Attribute → Nat
  | [] => 0
  | entry :: rest => entry.1.length + entry.2.length + attributesWeight rest

/-- The weight of a tag with the given name and attributes. -/
def tagWeight
    (name : Text)
    (attributes : List Attribute) :
    Nat :=
  1 + name.length + attributesWeight attributes

mutual

/-- The number of characters that a node is made of, plus one for each tag. -/
def Node.weight : Node → Nat
  | .text content => content.length
  | .element name attributes children _ => tagWeight name attributes + nodesWeight children

/-- The weight of nodes together. -/
def nodesWeight : List Node → Nat
  | [] => 0
  | node :: rest => node.weight + nodesWeight rest

end

/-- The weight of an element. -/
def Element.weight (element : Element) : Nat :=
  tagWeight element.name element.attributes + nodesWeight element.children

end Colloquy.Markup
