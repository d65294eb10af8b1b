import Colloquy.Markup.Tree
import Colloquy.Proofs.Markup.Writing

namespace Colloquy.Markup

/-!
# Reading back a tree that was written

A tree in normal form whose attributes can be written is read back as it is. Its
markup falls into the lexemes that were written for its nodes, one after the
other, and reading these adds the nodes, one after the other, to what has been
read.
-/

/-! ## Normal form -/

/-- The node is text. -/
def Node.isText : Node → Bool
  | .text _ => true
  | .element _ _ _ _ => false

mutual

/-- The node has text or a name, names its attributes, and is self-closing only if empty. -/
def Node.isNormal : Node → Bool
  | .text content => !content.isEmpty
  | .element name attributes children selfClosing =>
      isName name && attributes.all (fun entry => isName entry.1) &&
        (!selfClosing || children.isEmpty) && areNormal children

/-- The nodes are normal, and no two of them that follow one another are text. -/
def areNormal : List Node → Bool
  | [] => true
  | node :: rest =>
      node.isNormal && !(node.isText && rest.head?.any Node.isText) && areNormal rest

end

mutual

/-- The values of all attributes in the node can be written. -/
def Node.isWritable : Node → Bool
  | .text _ => true
  | .element _ attributes children _ =>
      attributes.all (fun entry => Markup.isWritable entry.2) && areWritable children

/-- The values of all attributes in the nodes can be written. -/
def areWritable : List Node → Bool
  | [] => true
  | node :: rest => node.isWritable && areWritable rest

end

mutual

/-- The values of all attributes in the node are read back. -/
def Node.isReadable : Node → Bool
  | .text _ => true
  | .element _ attributes children _ => attributesReadable attributes && areReadable children

/-- The values of all attributes in the nodes are read back. -/
def areReadable : List Node → Bool
  | [] => true
  | node :: rest => node.isReadable && areReadable rest

end

mutual

/-- What is writable is readable. -/
theorem Node.isReadable_of_isWritable :
    (node : Node) →
    node.isWritable = true →
    node.isReadable = true
  | .text _, _ => rfl
  | .element _ attributes children _, writable => by
      simp only [Node.isWritable, Node.isReadable, attributesReadable, Bool.and_eq_true,
        List.all_eq_true] at writable ⊢
      exact ⟨fun entry member => Markup.isReadable_of_isWritable (writable.1 entry member),
        areReadable_of_areWritable children writable.2⟩

/-- Nodes whose attribute values can be written have values that are read back. -/
theorem areReadable_of_areWritable :
    (nodes : List Node) →
    areWritable nodes = true →
    areReadable nodes = true
  | [], _ => rfl
  | node :: rest, writable => by
      simp only [areWritable, areReadable, Bool.and_eq_true] at writable ⊢
      exact ⟨node.isReadable_of_isWritable writable.1, areReadable_of_areWritable rest writable.2⟩

end

/-! ## Lexemes -/

mutual

/-- The lexemes that are written for a node. -/
def Node.writtenLexemes : Node → List Lexeme
  | .text content => [.text (escapeText content)]
  | .element name attributes children selfClosing =>
      startLexeme name attributes selfClosing ::
        if selfClosing then
          []
        else
          writtenLexemes children ++ [.closing name (renderEnd name false)]

/-- The lexemes that are written for nodes. -/
def writtenLexemes : List Node → List Lexeme
  | [] => []
  | node :: rest => node.writtenLexemes ++ writtenLexemes rest

end

/-- An element is written with markup at its beginning. -/
theorem beginsMarkup_render
    {node : Node}
    (isElement : node.isText = false)
    (rest : Text) :
    beginsMarkup (node.render ++ rest) = true := by
  cases node with
  | text content =>
      simp [Node.isText] at isElement
  | element name attributes children selfClosing =>
      simp [Node.render, renderStart, beginsMarkup]

mutual

/-- The markup of a normal node is read as the lexemes that were written for it. -/
theorem lexemes_render :
    (node : Node) →
    (rest : Text) →
    node.isNormal = true →
    node.isReadable = true →
    (node.isText = true → beginsMarkup rest = true) →
    lexemes (node.render ++ rest) = node.writtenLexemes ++ lexemes rest
  | .text content, rest, normal, _, ends => by
      simp only [Node.isNormal, Bool.not_eq_true', List.isEmpty_eq_false_iff] at normal
      simp only [Node.render, Node.writtenLexemes, List.singleton_append]
      exact lexemes_escapeText normal (ends rfl)
  | .element name attributes children selfClosing, rest, normal, readable, _ => by
      simp only [Node.isNormal, Bool.and_eq_true, List.all_eq_true] at normal
      simp only [Node.isReadable, Bool.and_eq_true] at readable
      obtain ⟨⟨⟨named, attributesNamed⟩, _⟩, childrenNormal⟩ := normal
      obtain ⟨attributesReadable, childrenReadable⟩ := readable
      have start := lexemes_renderStart named attributesNamed attributesReadable selfClosing
      cases selfClosing with
      | true =>
          simp [Node.render, Node.writtenLexemes, renderEnd, start]
      | false =>
          have ends : beginsMarkup (renderEnd name false ++ rest) = true := by
            simp [renderEnd, beginsMarkup]
          have inside := lexemes_renderNodes children (renderEnd name false ++ rest)
            childrenNormal childrenReadable ends
          simp [Node.render, Node.writtenLexemes, start, inside, lexemes_renderEnd named]

/-- The markup of normal nodes is read as the lexemes that were written for them. -/
theorem lexemes_renderNodes :
    (nodes : List Node) →
    (rest : Text) →
    areNormal nodes = true →
    areReadable nodes = true →
    beginsMarkup rest = true →
    lexemes (renderNodes nodes ++ rest) = writtenLexemes nodes ++ lexemes rest
  | [], rest, _, _, _ => by
      simp [renderNodes, writtenLexemes]
  | node :: later, rest, normal, readable, ends => by
      simp only [areNormal, Bool.and_eq_true, Bool.not_eq_true', Bool.and_eq_false_iff] at normal
      simp only [areReadable, Bool.and_eq_true] at readable
      obtain ⟨⟨nodeNormal, apart⟩, laterNormal⟩ := normal
      have followed : node.isText = true → beginsMarkup (renderNodes later ++ rest) = true := by
        intro isText
        cases later with
        | nil =>
            simpa [renderNodes] using ends
        | cons next others =>
            have isElement : next.isText = false := by
              simpa [isText] using apart
            rw [renderNodes, List.append_assoc]
            exact beginsMarkup_render isElement _
      have first := lexemes_render node (renderNodes later ++ rest) nodeNormal readable.1 followed
      have others := lexemes_renderNodes later rest laterNormal readable.2 ends
      rw [renderNodes, writtenLexemes, List.append_assoc, first, others, List.append_assoc]

end

/-! ## Reading the lexemes -/

/-- Add nodes one after the other. -/
def pushNodes
    (nodes before : List Node) :
    List Node :=
  nodes.foldl (fun before node => pushNode node before) before

/-- A node in normal form that stands apart is pushed as it is. -/
theorem pushNode_eq
    {node : Node}
    {before : List Node}
    (normal : node.isNormal = true)
    (apart : node.isText = false ∨ before.head?.any Node.isText = false) :
    pushNode node before = node :: before := by
  cases node with
  | element name attributes children selfClosing =>
      rfl
  | text content =>
      simp only [Node.isNormal, Bool.not_eq_true', List.isEmpty_eq_false_iff] at normal
      have noText : before.head?.any Node.isText = false := by
        simpa [Node.isText] using apart
      simp only [pushNode, pushText, List.isEmpty_iff, normal, if_false]
      split
      · simp [Node.isText] at noText
      · rfl

/-- Normal nodes are added as they are, unless they go on with text that stands there. -/
theorem pushNodes_eq
    {nodes before : List Node}
    (normal : areNormal nodes = true)
    (apart : nodes.head?.any Node.isText = false ∨ before.head?.any Node.isText = false) :
    pushNodes nodes before = nodes.reverse ++ before := by
  induction nodes generalizing before with
  | nil =>
      rfl
  | cons node later inductionHypothesis =>
      simp only [areNormal, Bool.and_eq_true, Bool.not_eq_true', Bool.and_eq_false_iff] at normal
      obtain ⟨⟨nodeNormal, nodeApart⟩, laterNormal⟩ := normal
      have nodeAdded : pushNode node before = node :: before :=
        pushNode_eq nodeNormal (by simpa using apart)
      have laterAdded : pushNodes later (node :: before) = later.reverse ++ node :: before :=
        inductionHypothesis laterNormal (by simpa using nodeApart.symm)
      calc
        pushNodes (node :: later) before = pushNodes later (pushNode node before) := rfl
        _ = later.reverse ++ node :: before := by rw [nodeAdded, laterAdded]
        _ = (node :: later).reverse ++ before := by simp

/-- Nodes in normal form are pushed as they are. -/
theorem pushNodes_nil
    {nodes : List Node}
    (normal : areNormal nodes = true) :
    pushNodes nodes [] = nodes.reverse := by
  have nothing : ([] : List Node).head?.any Node.isText = false := rfl
  rw [pushNodes_eq normal (.inr nothing), List.append_nil]

/-- Two changes of the innermost nodes are one. -/
theorem modifyInnermost_modifyInnermost
    (nesting : Nesting)
    (first second : List Node → List Node) :
    (nesting.modifyInnermost first).modifyInnermost second =
      nesting.modifyInnermost fun nodes => second (first nodes) := by
  obtain ⟨openElements, roots⟩ := nesting
  cases openElements with
  | nil =>
      rfl
  | cons element outer =>
      rfl

mutual

/-- Reading a node's lexemes pushes the node. -/
theorem foldl_read_node :
    (node : Node) →
    (nesting : Nesting) →
    node.isNormal = true →
    node.writtenLexemes.foldl Nesting.read nesting = nesting.modifyInnermost (pushNode node)
  | .text content, nesting, _ => by
      have decoded : decodeEntities (escapeText content) = content :=
        decodeEntities_flatMap_escapeChar false content
      simp only [Node.writtenLexemes, List.foldl_cons, List.foldl_nil, Nesting.read, decoded]
      rfl
  | .element name attributes children selfClosing, nesting, normal => by
      simp only [Node.isNormal, Bool.and_eq_true] at normal
      obtain ⟨⟨_, closed⟩, childrenNormal⟩ := normal
      cases selfClosing with
      | true =>
          obtain rfl : children = [] := by
            simpa using closed
          rfl
      | false =>
          simp only [Node.writtenLexemes, startLexeme, Bool.false_eq_true, if_false,
            List.foldl_cons, List.foldl_append, List.foldl_nil, Nesting.read]
          rw [foldl_read_nodes children _ childrenNormal]
          -- The element is the innermost open one again, so closing it degrades nothing.
          simp [Nesting.modifyInnermost, Nesting.close, pushNodes_nil childrenNormal, pushNode]

/-- Reading the lexemes of nodes adds the nodes. -/
theorem foldl_read_nodes :
    (nodes : List Node) →
    (nesting : Nesting) →
    areNormal nodes = true →
    (writtenLexemes nodes).foldl Nesting.read nesting = nesting.modifyInnermost (pushNodes nodes)
  | [], nesting, _ => by
      obtain ⟨openElements, roots⟩ := nesting
      cases openElements with
      | nil =>
          rfl
      | cons element outer =>
          rfl
  | node :: later, nesting, normal => by
      simp only [areNormal, Bool.and_eq_true] at normal
      rw [writtenLexemes, List.foldl_append, foldl_read_node node nesting normal.1.1,
        foldl_read_nodes later _ normal.2, modifyInnermost_modifyInnermost]
      rfl

end

/-- Reading the markup of normal nodes leaves nothing open and adds the nodes. -/
theorem foldl_read_of_areReadable
    {nodes : List Node}
    (normal : areNormal nodes = true)
    (readable : areReadable nodes = true) :
    (lexemes (renderNodes nodes)).foldl Nesting.read Nesting.empty = ⟨[], nodes.reverse⟩ := by
  have read := lexemes_renderNodes nodes [] normal readable rfl
  rw [List.append_nil, lexemes, List.append_nil] at read
  rw [read, foldl_read_nodes nodes Nesting.empty normal]
  simp [Nesting.empty, Nesting.modifyInnermost, pushNodes_nil normal]

/-- Reading what normal nodes are written as gives them back. -/
theorem foldl_read_renderNodes
    {nodes : List Node}
    (normal : areNormal nodes = true)
    (writable : areWritable nodes = true) :
    (lexemes (renderNodes nodes)).foldl Nesting.read Nesting.empty = ⟨[], nodes.reverse⟩ :=
  foldl_read_of_areReadable normal (areReadable_of_areWritable nodes writable)

/--
A tree in normal form whose attribute values break no line and are not too long when
escaped is read back from its markup as it is.
-/
theorem parse_renderNodes
    (nodes : List Node)
    (normal : areNormal nodes = true)
    (writable : areWritable nodes = true) :
    parse (renderNodes nodes) = nodes := by
  rw [parse, foldl_read_renderNodes normal writable]
  exact List.reverse_reverse nodes

/-- Text and an attribute that hold markup characters, around empty elements of both kinds. -/
def quotingTree : List Node :=
  [.text "if a < b && \"c\"".toList,
    .element "set".toList [("name".toList, "x > 'y' & \"z\"".toList), ("var".toList, [])]
      [.element "star".toList [] [] true, .text "&amp;".toList, .element "li".toList [] [] false]
      false]

/-- Markup characters and both kinds of empty elements are read back. -/
theorem parse_renderNodes_quoting :
    areNormal quotingTree = true ∧ areWritable quotingTree = true ∧
      parse (renderNodes quotingTree) = quotingTree :=
  ⟨by decide +kernel, by decide +kernel,
    parse_renderNodes quotingTree (by decide +kernel) (by decide +kernel)⟩

end Colloquy.Markup
