import Colloquy.Markup.Tree
import Mathlib.Data.List.Basic
import Mathlib.Data.List.TakeWhile

namespace Colloquy.Markup

/-!
# The tags of a text and of its tree

The tags that stand in a text, in their order, are compared with the tags that
its tree would be written with. An element that falls back to text loses its tag,
and a closing tag that closes nothing is lost too; no tag is ever added or moved.
So the tags of the tree are some of the tags of the text, and the tree degrades
nothing exactly if they are all of them.
-/

/-- A tag: one that starts an element, or one that ends it. -/
inductive Mark where
  | start (name : Text) (attributes : List Attribute) (selfClosing : Bool)
  | stop (name : Text)
  deriving DecidableEq, Repr

/-- The tag that a lexeme is. -/
def Lexeme.mark? : Lexeme → Option Mark
  | .text _ => none
  | .comment _ => none
  | .opening name attributes _ => some (.start name attributes false)
  | .closing name _ => some (.stop name)
  | .standalone name attributes _ => some (.start name attributes true)

theorem filterMap_mark?_cons
    (lexeme : Lexeme)
    (rest : List Lexeme) :
    (lexeme :: rest).filterMap Lexeme.mark? =
      lexeme.mark?.toList ++ rest.filterMap Lexeme.mark? := by
  cases mark : lexeme.mark? <;> simp [mark]

/-- The tags of a text, in order. -/
def tagsIn (text : Text) : List Mark :=
  (lexemes text).filterMap Lexeme.mark?

mutual

/-- The tags of a node, in document order. -/
def Node.marks : Node → List Mark
  | .text _ => []
  | .element name attributes children selfClosing =>
      .start name attributes selfClosing ::
        (marksOf children ++ if selfClosing then [] else [.stop name])

/-- The tags of nodes, in document order. -/
def marksOf : List Node → List Mark
  | [] => []
  | node :: rest => node.marks ++ marksOf rest

end

/-- Tags are in the order of the nodes. -/
theorem marksOf_append
    (first second : List Node) :
    marksOf (first ++ second) = marksOf first ++ marksOf second := by
  induction first with
  | nil =>
      rfl
  | cons node rest inductionHypothesis =>
      simp only [List.cons_append, marksOf, inductionHypothesis, List.append_assoc]

/-- The tags of nodes that are kept newest first. -/
def marksNewest (nodes : List Node) : List Mark :=
  marksOf nodes.reverse

theorem marksNewest_cons
    (node : Node)
    (nodes : List Node) :
    marksNewest (node :: nodes) = marksNewest nodes ++ node.marks := by
  simp [marksNewest, marksOf_append, marksOf]

/-! ## Adding nodes -/

theorem marksNewest_pushText
    (text : Text)
    (nodes : List Node) :
    marksNewest (pushText text nodes) = marksNewest nodes := by
  unfold pushText
  split
  · rfl
  · split
    · simp [marksNewest_cons, Node.marks]
    · simp [marksNewest_cons, Node.marks]

theorem marksNewest_pushNode
    (node : Node)
    (nodes : List Node) :
    marksNewest (pushNode node nodes) = marksNewest nodes ++ node.marks := by
  cases node with
  | text content =>
      simp [pushNode, marksNewest_pushText, Node.marks]
  | element name attributes children selfClosing =>
      exact marksNewest_cons _ nodes

/-- The tags of an open element: its own and those inside of it. -/
def OpenElement.marks (element : OpenElement) : List Mark :=
  .start element.name element.attributes false :: marksNewest element.children

/-- An element that falls back to text leaves the tags inside of it. -/
theorem marksNewest_degrade
    (element : OpenElement)
    (nodes : List Node) :
    marksNewest (element.degrade nodes) = marksNewest nodes ++ marksNewest element.children := by
  rw [OpenElement.degrade]
  generalize element.children = children
  induction children with
  | nil =>
      exact (marksNewest_pushText element.source nodes).trans (List.append_nil _).symm
  | cons child rest inductionHypothesis =>
      rw [List.foldr_cons, marksNewest_pushNode, inductionHypothesis, marksNewest_cons,
        List.append_assoc]

/-- The tags inside of open elements, outermost first. -/
def innerMarks (openElements : List OpenElement) : List Mark :=
  openElements.reverse.flatMap fun element => marksNewest element.children

/-- The tags of open elements and those inside of them, outermost first. -/
def openMarks (openElements : List OpenElement) : List Mark :=
  openElements.reverse.flatMap OpenElement.marks

theorem openMarks_cons
    (element : OpenElement)
    (outer : List OpenElement) :
    openMarks (element :: outer) = openMarks outer ++ element.marks := by
  simp [openMarks]

/-- The tags inside follow those of the elements around them. -/
theorem openMarks_append
    (inner outer : List OpenElement) :
    openMarks (inner ++ outer) = openMarks outer ++ openMarks inner := by
  simp [openMarks]

/-- Elements that are never closed lose their own tags and keep those inside. -/
theorem marksNewest_foldr_degrade
    (openElements : List OpenElement)
    (nodes : List Node) :
    marksNewest (openElements.foldr OpenElement.degrade nodes) =
      marksNewest nodes ++ innerMarks openElements := by
  induction openElements with
  | nil =>
      simp [innerMarks]
  | cons element outer inductionHypothesis =>
      rw [List.foldr_cons, marksNewest_degrade, inductionHypothesis]
      simp [innerMarks]

/-- The tags inside of open elements are some of all their tags. -/
theorem innerMarks_sublist (openElements : List OpenElement) :
    (innerMarks openElements).Sublist (openMarks openElements) := by
  rw [innerMarks, openMarks]
  generalize openElements.reverse = elements
  induction elements with
  | nil =>
      exact List.Sublist.slnil
  | cons element rest inductionHypothesis =>
      exact ((List.Sublist.refl _).cons _).append inductionHypothesis

/-- Falling back to text loses one tag for each element. -/
theorem length_innerMarks (openElements : List OpenElement) :
    (innerMarks openElements).length + openElements.length = (openMarks openElements).length := by
  induction openElements with
  | nil =>
      rfl
  | cons element outer inductionHypothesis =>
      have inner : innerMarks (element :: outer) =
          innerMarks outer ++ marksNewest element.children := by
        simp [innerMarks]
      rw [inner, openMarks_cons, List.length_append, List.length_append, ← inductionHypothesis]
      simp only [OpenElement.marks, List.length_cons]
      omega

/-! ## Reading -/

namespace Nesting

/-- The tags of what has been read. -/
def marks (nesting : Nesting) : List Mark :=
  marksNewest nesting.roots ++ openMarks nesting.openElements

/-- A change that adds tags to the innermost nodes adds them at the end. -/
theorem marks_modifyInnermost
    (nesting : Nesting)
    {change : List Node → List Node}
    {added : List Mark}
    (adds : ∀ nodes, marksNewest (change nodes) = marksNewest nodes ++ added) :
    (nesting.modifyInnermost change).marks = nesting.marks ++ added := by
  obtain ⟨openElements, roots⟩ := nesting
  cases openElements with
  | nil =>
      simp [modifyInnermost, marks, openMarks, adds]
  | cons element outer =>
      simp [modifyInnermost, marks, openMarks_cons, OpenElement.marks, adds]

theorem marks_pushText
    (nesting : Nesting)
    (text : Text) :
    (nesting.modifyInnermost (pushText text)).marks = nesting.marks := by
  have same (nodes : List Node) :
      marksNewest (pushText text nodes) = marksNewest nodes ++ [] := by
    rw [marksNewest_pushText, List.append_nil]
  rw [marks_modifyInnermost nesting same, List.append_nil]

/-- Changing the innermost nodes leaves the open elements' names. -/
theorem names_modifyInnermost
    (nesting : Nesting)
    (change : List Node → List Node) :
    (nesting.modifyInnermost change).openElements.map (·.name) =
      nesting.openElements.map (·.name) := by
  obtain ⟨openElements, roots⟩ := nesting
  cases openElements with
  | nil =>
      rfl
  | cons element outer =>
      rfl

/-- Of the elements that are open, the innermost one with the name, and those inside and outside. -/
structure Closes
    (nesting : Nesting)
    (name : Text)
    (inner : List OpenElement)
    (element : OpenElement)
    (outer : List OpenElement) :
    Prop where
  shape : nesting.openElements = inner ++ element :: outer
  named : element.name = name
  others : ∀ other ∈ inner, other.name ≠ name

/-- A closing tag closes an element that is open or has no partner. -/
theorem closes_or_forall_ne
    (nesting : Nesting)
    (name : Text) :
    (∃ inner element outer, nesting.Closes name inner element outer) ∨
      ∀ other ∈ nesting.openElements, other.name ≠ name := by
  cases dropped : nesting.openElements.dropWhile (·.name != name) with
  | nil =>
      right
      intro other member
      simpa using List.dropWhile_eq_nil_iff.mp dropped other member
  | cons element outer =>
      left
      refine ⟨nesting.openElements.takeWhile (·.name != name), element, outer, ?_, ?_, ?_⟩
      · rw [← dropped, List.takeWhile_append_dropWhile]
      · have stops := List.head?_dropWhile_not (·.name != name) nesting.openElements
        simpa [dropped] using stops
      · intro other member
        simpa using List.mem_takeWhile_imp member

/-- A closing tag that closes nothing is text. -/
theorem close_of_forall_ne
    {nesting : Nesting}
    {name : Text}
    (others : ∀ other ∈ nesting.openElements, other.name ≠ name)
    (source : Text) :
    nesting.close name source = nesting.modifyInnermost (pushText source) := by
  have dropped : nesting.openElements.dropWhile (·.name != name) = [] := by
    rw [List.dropWhile_eq_nil_iff]
    intro other member
    simpa using others other member
  simp only [close, dropped]

/-- A closing tag that closes nothing is lost. -/
theorem marks_close_of_forall_ne
    {nesting : Nesting}
    {name : Text}
    (others : ∀ other ∈ nesting.openElements, other.name ≠ name)
    (source : Text) :
    (nesting.close name source).marks = nesting.marks := by
  rw [close_of_forall_ne others, marks_pushText]

namespace Closes

variable
  {nesting : Nesting}
  {name : Text}
  {inner outer : List OpenElement}
  {element : OpenElement}

/-- The tags read so far are those around the element that is closed, its own and those inside. -/
theorem marks
    (closes : nesting.Closes name inner element outer) :
    nesting.marks =
      marksNewest nesting.roots ++ openMarks outer ++ element.marks ++ openMarks inner := by
  rw [Nesting.marks, closes.shape, openMarks_append, openMarks_cons]
  simp only [List.append_assoc]

/-- The element is closed around its children and what the elements inside of it leave. -/
theorem close_eq
    (closes : nesting.Closes name inner element outer)
    (source : Text) :
    nesting.close name source =
      { nesting with openElements := outer }.modifyInnermost
        (.element element.name element.attributes
          (inner.foldr OpenElement.degrade element.children).reverse false :: ·) := by
  obtain ⟨shape, rfl, others⟩ := closes
  have passed : ∀ other ∈ inner, (other.name != element.name) = true := by
    intro other member
    simpa using others other member
  have dropped : nesting.openElements.dropWhile (·.name != element.name) = element :: outer := by
    rw [shape, List.dropWhile_append_of_pos passed, List.dropWhile_cons_of_neg (by simp)]
  have taken : nesting.openElements.takeWhile (·.name != element.name) = inner := by
    rw [shape, List.takeWhile_append_of_pos passed, List.takeWhile_cons_of_neg (by simp),
      List.append_nil]
  simp only [Nesting.close, dropped, taken]

/-- Closing an element keeps its tags and loses those of the elements open inside of it. -/
theorem close
    (closes : nesting.Closes name inner element outer)
    (source : Text) :
    (nesting.close name source).openElements.map (·.name) = outer.map (·.name) ∧
      (nesting.close name source).marks =
        marksNewest nesting.roots ++ openMarks outer ++ element.marks ++ innerMarks inner ++
          [.stop name] := by
  have children : marksOf (inner.foldr OpenElement.degrade element.children).reverse =
      marksNewest element.children ++ innerMarks inner :=
    marksNewest_foldr_degrade inner element.children
  have added (nodes : List Node) :
      marksNewest (.element element.name element.attributes
          (inner.foldr OpenElement.degrade element.children).reverse false :: nodes) =
        marksNewest nodes ++ (element.marks ++ innerMarks inner ++ [.stop name]) := by
    simp [marksNewest_cons, Node.marks, children, OpenElement.marks, closes.named]
  rw [closes.close_eq]
  refine ⟨names_modifyInnermost _ _, ?_⟩
  rw [marks_modifyInnermost _ added]
  simp [Nesting.marks]

end Closes

/-- Reading any lexeme but a closing tag adds its tag. -/
theorem marks_read
    (nesting : Nesting)
    {lexeme : Lexeme}
    (notClosing : ∀ name source, lexeme ≠ .closing name source) :
    (nesting.read lexeme).marks = nesting.marks ++ lexeme.mark?.toList := by
  cases lexeme with
  | text source =>
      exact (marks_pushText nesting _).trans (List.append_nil _).symm
  | comment source =>
      exact (List.append_nil _).symm
  | opening name attributes source =>
      simp [read, marks, openMarks_cons, OpenElement.marks, Lexeme.mark?, marksNewest, marksOf]
  | closing name source =>
      exact absurd rfl (notClosing name source)
  | standalone name attributes source =>
      apply marks_modifyInnermost
      intro nodes
      simp [marksNewest_cons, Node.marks, marksOf, Lexeme.mark?]

/-- Reading a lexeme adds at most its tag. -/
theorem marks_read_sublist
    (nesting : Nesting)
    (lexeme : Lexeme) :
    (nesting.read lexeme).marks.Sublist (nesting.marks ++ lexeme.mark?.toList) := by
  cases lexeme with
  | text | comment | opening | standalone =>
      rw [marks_read nesting (by simp)]
  | closing name source =>
      rcases nesting.closes_or_forall_ne name with ⟨inner, element, outer, closes⟩ | others
      · rw [read, (closes.close source).2, closes.marks]
        exact ((List.Sublist.refl _).append (innerMarks_sublist inner)).append
          (List.Sublist.refl _)
      · rw [read, marks_close_of_forall_ne others]
        exact List.sublist_append_left _ _

theorem marks_finish (nesting : Nesting) :
    marksOf nesting.finish =
      marksNewest nesting.roots ++ innerMarks nesting.openElements :=
  marksNewest_foldr_degrade nesting.openElements nesting.roots

/-- The tags of the tree are some of those that are read, in their order. -/
theorem marks_foldl_read_sublist
    (unread : List Lexeme)
    (nesting : Nesting) :
    (marksOf (unread.foldl read nesting).finish).Sublist
      (nesting.marks ++ unread.filterMap Lexeme.mark?) := by
  induction unread generalizing nesting with
  | nil =>
      rw [List.foldl_nil, marks_finish, List.filterMap_nil, List.append_nil]
      exact (List.Sublist.refl _).append (innerMarks_sublist _)
  | cons lexeme rest inductionHypothesis =>
      rw [filterMap_mark?_cons, ← List.append_assoc]
      exact (inductionHypothesis (nesting.read lexeme)).trans
        ((marks_read_sublist nesting lexeme).append (List.Sublist.refl _))

end Nesting

/-- The tags of a tree are tags of its text, in their order. -/
theorem marksOf_parse_sublist (text : Text) :
    (marksOf (parse text)).Sublist (tagsIn text) :=
  Nesting.marks_foldl_read_sublist (lexemes text) Nesting.empty

end Colloquy.Markup
