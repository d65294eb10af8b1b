import Colloquy.Markup.Structure
import Colloquy.Proofs.Finite
import Colloquy.Proofs.Markup.Marks
import Colloquy.Proofs.Markup.NormalForm

namespace Colloquy.Markup

/-!
# The strict check and the tree

The strict check passes a text exactly if its tree keeps every tag, and then it
describes the tree. Checking and reading go through the lexemes side by side: as
long as each closing tag closes the innermost open element, reading keeps all
tags, and at the first one that does not, a tag is lost for good. What the check
counts is counted by tags, so that a tree with the same tags has the same counts.
-/

/--
Nothing fell back to text: every opening tag of the text is an element of the tree, and every
closing tag closes one.
-/
def KeepsTags (text : Text) : Prop :=
  marksOf (parse text) = tagsIn text

/-- All elements of nodes, in document order. -/
def elementsWithin (nodes : List Node) : List Element :=
  selectNodes (fun _ => true) nodes

mutual

/-- How many elements of a node stand inside one another. -/
def Node.depth : Node → Nat
  | .text _ => 0
  | .element _ _ children _ => nodesDepth children + 1

/-- How many elements of nodes stand inside one another at most. -/
def nodesDepth : List Node → Nat
  | [] => 0
  | node :: rest => max node.depth (nodesDepth rest)

end

/-- The depth of a tree, the number of its elements and the set of their names. -/
def Structure.ofTree (nodes : List Node) : Structure where
  maxDepth := nodesDepth nodes
  elementCount := (elementsWithin nodes).length
  tagNames := Ordered.ofList ((elementsWithin nodes).map (·.name))

/-! ## Checking and reading side by side -/

namespace Nesting

/-- A closing tag that does not close the innermost open element loses a tag at least. -/
theorem length_marks_close_le
    {nesting : Nesting}
    {name : Text}
    (mismatch : ∀ innermost ∈ nesting.openElements.head?, innermost.name ≠ name)
    (source : Text) :
    (nesting.close name source).marks.length ≤ nesting.marks.length := by
  rcases nesting.closes_or_forall_ne name with ⟨inner, element, outer, closes⟩ | others
  · have isInside : 0 < inner.length := by
      apply List.length_pos_iff.mpr
      rintro rfl
      exact mismatch element (by simp [closes.shape]) closes.named
    rw [(closes.close source).2, closes.marks]
    have lost := length_innerMarks inner
    simp only [List.length_append, List.length_singleton]
    omega
  · rw [marks_close_of_forall_ne others]

/-- A tag that was lost is not made up for. -/
theorem marks_ne_of_close
    {nesting : Nesting}
    {name : Text}
    (mismatch : ∀ innermost ∈ nesting.openElements.head?, innermost.name ≠ name)
    (source : Text)
    (rest : List Lexeme) :
    marksOf (rest.foldl read (nesting.close name source)).finish ≠
      nesting.marks ++ [.stop name] ++ rest.filterMap Lexeme.mark? := by
  intro same
  have bound := (marks_foldl_read_sublist rest (nesting.close name source)).length_le
  have lost := length_marks_close_le mismatch source
  rw [same] at bound
  simp only [List.length_append, List.length_singleton] at bound
  omega

/-- A closing tag that closes the innermost open element loses nothing. -/
theorem close_innermost
    {nesting : Nesting}
    {innermost : OpenElement}
    {outer : List OpenElement}
    (shape : nesting.openElements = innermost :: outer)
    (source : Text) :
    (nesting.close innermost.name source).openElements.map (·.name) = outer.map (·.name) ∧
      (nesting.close innermost.name source).marks =
        nesting.marks ++ [.stop innermost.name] := by
  have closes : nesting.Closes innermost.name [] innermost outer := ⟨shape, rfl, by simp⟩
  refine ⟨(closes.close source).1, ?_⟩
  rw [(closes.close source).2, closes.marks]
  simp [innerMarks, openMarks]

/-- Reading goes on to lose no tag exactly if checking goes on to pass. -/
theorem keeps_iff_passes
    (unread : List Lexeme)
    (nesting : Nesting)
    (seen : Structure) :
    marksOf (unread.foldl read nesting).finish =
        nesting.marks ++ unread.filterMap Lexeme.mark? ↔
      ∃ described,
        checkLexemes (nesting.openElements.map (·.name)) seen unread = .ok described := by
  induction unread generalizing nesting seen with
  | nil =>
      rw [List.foldl_nil, marks_finish, List.filterMap_nil, List.append_nil]
      cases shape : nesting.openElements with
      | nil =>
          simp [marks, shape, innerMarks, openMarks, checkLexemes]
      | cons innermost outer =>
          have lost := length_innerMarks (innermost :: outer)
          simp only [marks, shape, List.append_cancel_left_eq, List.map_cons, checkLexemes,
            reduceCtorEq, exists_false, iff_false]
          intro same
          simp [same] at lost
  | cons lexeme rest inductionHypothesis =>
      rw [List.foldl_cons, filterMap_mark?_cons, ← List.append_assoc]
      cases lexeme with
      | text source =>
          rw [← marks_read nesting (by simp), inductionHypothesis _ seen]
          simp [read, names_modifyInnermost, checkLexemes]
      | comment source =>
          rw [← marks_read nesting (by simp), inductionHypothesis _ seen]
          simp [read, checkLexemes]
      | opening name attributes source =>
          rw [← marks_read nesting (by simp), inductionHypothesis _
            (seen.count name (nesting.openElements.length + 1))]
          simp [read, checkLexemes]
      | standalone name attributes source =>
          rw [← marks_read nesting (by simp), inductionHypothesis _
            (seen.count name (nesting.openElements.length + 1))]
          simp [read, names_modifyInnermost, checkLexemes]
      | closing name source =>
          cases shape : nesting.openElements with
          | nil =>
              simp only [List.map_nil, checkLexemes, reduceCtorEq, exists_false, iff_false]
              exact marks_ne_of_close (by simp [shape]) source rest
          | cons innermost outer =>
              by_cases named : innermost.name = name
              · subst named
                obtain ⟨names, kept⟩ := close_innermost shape source
                have later := inductionHypothesis (nesting.close innermost.name source) seen
                rw [kept, names] at later
                simpa only [List.map_cons, checkLexemes, if_true, read, Lexeme.mark?,
                  Option.toList_some] using later
              · simp only [List.map_cons, checkLexemes, if_neg named, reduceCtorEq, exists_false,
                  iff_false]
                exact marks_ne_of_close (by simpa [shape] using named) source rest

end Nesting

/-- The tree of a text keeps all its tags exactly if the check passes. -/
theorem keepsTags_iff_passes (text : Text) :
    KeepsTags text ↔ ∃ described, checkStructure text = .ok described :=
  Nesting.keeps_iff_passes (lexemes text) Nesting.empty ⟨0, 0, []⟩

/-! ## Counting by tags -/

/-- Count one more tag, where the given number of elements is open. -/
def Mark.count
    (state : Nat × Structure) :
    Mark →
    Nat × Structure
  | .start name _ true => (state.1, state.2.count name (state.1 + 1))
  | .start name _ false => (state.1 + 1, state.2.count name (state.1 + 1))
  | .stop _ => (state.1 - 1, state.2)

/-- A check that passes has counted the tags. -/
theorem foldl_count_of_checkLexemes
    {opened : List Text}
    {seen described : Structure}
    {unread : List Lexeme}
    (passes : checkLexemes opened seen unread = .ok described) :
    (unread.filterMap Lexeme.mark?).foldl Mark.count (opened.length, seen) = (0, described) := by
  fun_induction checkLexemes opened seen unread with
  | case1 seen =>
      simpa using passes
  | case2 =>
      simp at passes
  | case3 opened seen source rest inductionHypothesis =>
      exact inductionHypothesis passes
  | case4 opened seen source rest inductionHypothesis =>
      exact inductionHypothesis passes
  | case5 opened seen name attributes source rest inductionHypothesis =>
      exact inductionHypothesis passes
  | case6 opened seen name attributes source rest inductionHypothesis =>
      exact inductionHypothesis passes
  | case7 =>
      simp at passes
  | case8 outer seen name source rest inductionHypothesis =>
      exact inductionHypothesis passes
  | case9 =>
      simp at passes

/-- Count the elements of nodes, where the given number of elements is open. -/
def Structure.addNodes
    (seen : Structure)
    (depth : Nat)
    (nodes : List Node) :
    Structure where
  maxDepth := max seen.maxDepth (depth + nodesDepth nodes)
  elementCount := seen.elementCount + (elementsWithin nodes).length
  tagNames := ((elementsWithin nodes).map (·.name)).foldl
    (fun names name => Ordered.insert name names) seen.tagNames

/-- Nodes are counted one after the other. -/
theorem Structure.addNodes_cons
    (seen : Structure)
    (depth : Nat)
    (node : Node)
    (rest : List Node) :
    seen.addNodes depth (node :: rest) = (seen.addNodes depth [node]).addNodes depth rest := by
  simp only [addNodes, elementsWithin, selectNodes, nodesDepth, List.append_nil, List.map_append,
    List.foldl_append, List.length_append, Structure.mk.injEq]
  exact ⟨by omega, by omega, trivial⟩

/-- An element is counted before its children. -/
theorem Structure.addNodes_element
    (seen : Structure)
    (depth : Nat)
    (name : Text)
    (attributes : List Attribute)
    (children : List Node)
    (selfClosing : Bool) :
    seen.addNodes depth [.element name attributes children selfClosing] =
      (seen.count name (depth + 1)).addNodes (depth + 1) children := by
  simp only [addNodes, count, elementsWithin, selectNodes, Node.select, nodesDepth, Node.depth,
    if_true, List.append_nil, List.map_cons, List.foldl_cons, List.length_cons,
    Structure.mk.injEq]
  exact ⟨by omega, by omega, trivial⟩

theorem Structure.addNodes_of_flat
    {seen : Structure}
    {depth : Nat}
    {nodes : List Node}
    (textOnly : elementsWithin nodes = [])
    (flat : nodesDepth nodes = 0)
    (within : depth ≤ seen.maxDepth) :
    seen.addNodes depth nodes = seen := by
  simp [addNodes, textOnly, flat, Nat.max_eq_left within]

mutual

/-- Counting a node's tags counts the elements in it and their depth. -/
theorem foldl_count_node :
    (node : Node) →
    (depth : Nat) →
    (seen : Structure) →
    node.isNormal = true →
    depth ≤ seen.maxDepth →
    node.marks.foldl Mark.count (depth, seen) = (depth, seen.addNodes depth [node])
  | .text content, depth, seen, _, within => by
      rw [Structure.addNodes_of_flat rfl rfl within]
      rfl
  | .element name attributes children selfClosing, depth, seen, normal, within => by
      simp only [Node.isNormal, Bool.and_eq_true, Bool.or_eq_true, Bool.not_eq_true'] at normal
      have deeper : depth + 1 ≤ (seen.count name (depth + 1)).maxDepth :=
        Nat.le_max_right _ _
      have inside := foldl_count_nodes children (depth + 1) (seen.count name (depth + 1))
        normal.2 deeper
      rw [Structure.addNodes_element]
      cases selfClosing with
      | true =>
          obtain rfl : children = [] := by simpa using normal.1.2
          rw [Structure.addNodes_of_flat rfl rfl deeper]
          rfl
      | false =>
          simp [Node.marks, Mark.count, inside]

/-- The tags of normal nodes count as the nodes do. -/
theorem foldl_count_nodes :
    (nodes : List Node) →
    (depth : Nat) →
    (seen : Structure) →
    areNormal nodes = true →
    depth ≤ seen.maxDepth →
    (marksOf nodes).foldl Mark.count (depth, seen) = (depth, seen.addNodes depth nodes)
  | [], depth, seen, _, within => by
      rw [Structure.addNodes_of_flat rfl rfl within]
      rfl
  | node :: rest, depth, seen, normal, within => by
      simp only [areNormal, Bool.and_eq_true] at normal
      have further : depth ≤ (seen.addNodes depth [node]).maxDepth :=
        Nat.le_trans within (Nat.le_max_left _ _)
      rw [marksOf, List.foldl_append, foldl_count_node node depth seen normal.1.1 within,
        foldl_count_nodes rest depth _ normal.2 further,
        Structure.addNodes_cons seen depth node rest]

end

/-- Counted from nothing, nodes give the description of their tree. -/
theorem Structure.addNodes_empty (nodes : List Node) :
    (⟨0, 0, []⟩ : Structure).addNodes 0 nodes = ofTree nodes := by
  simp only [addNodes, ofTree, Nat.zero_max, Nat.zero_add, Structure.mk.injEq, true_and]
  rw [← List.foldr_reverse]
  exact Ordered.ofList_eq_of_perm (List.reverse_perm _)

/--
The strict check passes a text exactly if every tag of it is in its tree, and then it tells the
depth of the tree, the number of its elements and the set of their names.
-/
theorem checkStructure_eq_ok_iff
    (text : Text)
    (described : Structure) :
    checkStructure text = .ok described ↔
      KeepsTags text ∧ described = Structure.ofTree (parse text) := by
  have counted (found : Structure) (passes : checkStructure text = .ok found) :
      found = Structure.ofTree (parse text) := by
    have keeps := (keepsTags_iff_passes text).mpr ⟨found, passes⟩
    have byTags : (tagsIn text).foldl Mark.count (0, ⟨0, 0, []⟩) = (0, found) :=
      foldl_count_of_checkLexemes passes
    have byNodes := foldl_count_nodes (parse text) 0 ⟨0, 0, []⟩ (areNormal_parse text)
      (Nat.le_refl 0)
    rw [keeps, byTags, Structure.addNodes_empty] at byNodes
    exact (Prod.mk.inj byNodes).2
  constructor
  · intro passes
    exact ⟨(keepsTags_iff_passes text).mpr ⟨described, passes⟩, counted described passes⟩
  · rintro ⟨keeps, rfl⟩
    obtain ⟨found, passes⟩ := (keepsTags_iff_passes text).mp keeps
    rw [← counted found passes]
    exact passes

end Colloquy.Markup
