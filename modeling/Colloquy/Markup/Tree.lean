import Colloquy.Markup.Node

namespace Colloquy.Markup

/-!
# Reading trees

A template always has a tree. A closing tag closes the innermost open element
with its name; elements that were opened after it and are still open fall back
to text, their children moving up. A closing tag without an open element is
text, and so are the opening tags still open at the end. Adjacent pieces of text
are joined.

While a tree is being read, nodes are kept newest first.
-/

/-- Add text after the given nodes, joining it with text that stands there. -/
def pushText
    (text : Text)
    (nodes : List Node) :
    List Node :=
  if text.isEmpty then
    nodes
  else
    match nodes with
    | .text last :: rest => .text (last ++ text) :: rest
    | _ => .text text :: nodes

/-- Add a node after the given nodes. -/
def pushNode :
    Node →
    List Node →
    List Node
  | .text content, nodes => pushText content nodes
  | node, nodes => node :: nodes

/-- An element that is still open, with its children newest first. -/
structure OpenElement where
  name : Text
  attributes : List Attribute
  source : Text
  children : List Node
  deriving Repr, BEq

/-- Add what an element that is never closed leaves: its opening tag as text and its children. -/
def OpenElement.degrade
    (element : OpenElement)
    (nodes : List Node) :
    List Node :=
  element.children.foldr pushNode (pushText element.source nodes)

/-- The open elements, innermost first, and the nodes outside of all of them, newest first. -/
structure Nesting where
  openElements : List OpenElement
  roots : List Node
  deriving Repr, BEq

namespace Nesting

/-- Nothing has been read. -/
def empty : Nesting :=
  ⟨[], []⟩

/-- Change the nodes of the innermost open element. -/
def modifyInnermost
    (change : List Node → List Node)
    (nesting : Nesting) :
    Nesting :=
  match nesting.openElements with
  | [] => { nesting with roots := change nesting.roots }
  | element :: outer =>
      { nesting with openElements := { element with children := change element.children } :: outer }

/-- Close the innermost open element with the given name. -/
def close
    (name source : Text)
    (nesting : Nesting) :
    Nesting :=
  match nesting.openElements.dropWhile (·.name != name) with
  | [] => nesting.modifyInnermost (pushText source)
  | element :: outer =>
      let inner := nesting.openElements.takeWhile (·.name != name)
      let children := inner.foldr OpenElement.degrade element.children
      { nesting with openElements := outer }.modifyInnermost
        (.element element.name element.attributes children.reverse false :: ·)

/-- Read one more lexeme. -/
def read
    (nesting : Nesting) :
    Lexeme →
    Nesting
  | .text source => nesting.modifyInnermost (pushText (decodeEntities source))
  | .comment _ => nesting
  | .standalone name attributes _ =>
      nesting.modifyInnermost (.element name attributes [] true :: ·)
  | .opening name attributes source =>
      { nesting with openElements := ⟨name, attributes, source, []⟩ :: nesting.openElements }
  | .closing name source => nesting.close name source

/-- The nodes that have been read, in order, once nothing more follows. -/
def finish (nesting : Nesting) : List Node :=
  (nesting.openElements.foldr OpenElement.degrade nesting.roots).reverse

end Nesting

/-- Read a template. -/
def parse (text : Text) : List Node :=
  ((lexemes text).foldl Nesting.read Nesting.empty).finish

end Colloquy.Markup
