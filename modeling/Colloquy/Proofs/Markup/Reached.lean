import Colloquy.Evaluation.Part
import Colloquy.Proofs.Markup.Strictness
import Mathlib.Algebra.GroupWithZero.Nat
import Mathlib.Algebra.Order.BigOperators.Group.List
import Mathlib.Algebra.Order.Group.Nat

namespace Colloquy.Markup

/-!
# Elements that evaluation reaches

Evaluating nodes may come upon the elements of their tree, and upon those of the
trees that are read from attribute values with markup, which may have such values
in turn. These trees weigh less and less, so that this comes to an end.
-/

/-- The values of the attributes that hold markup. -/
def Element.markupValues (element : Element) : List Text :=
  (element.attributes.map Prod.snd).filter Evaluation.holdsMarkup

/-! ## Trees weigh at least their tags -/

/-- The weight of an element's tag. -/
def Element.tagWeight (element : Element) : Nat :=
  Markup.tagWeight element.name element.attributes

mutual

/-- The tags in a node weigh at most what the node weighs. -/
theorem Node.sum_tagWeight_le :
    (node : Node) →
    ((node.select fun _ => true).map Element.tagWeight).sum ≤ node.weight
  | .text _ => Nat.zero_le _
  | .element name attributes children selfClosing => by
      have inside := sum_tagWeight_le children
      simp only [Node.select, ↓reduceIte, List.map_cons, List.sum_cons, Element.tagWeight,
        Node.weight]
      exact Nat.add_le_add_left inside _

/-- The tags of nodes weigh at most what the nodes weigh. -/
theorem sum_tagWeight_le :
    (nodes : List Node) →
    ((elementsWithin nodes).map Element.tagWeight).sum ≤ nodesWeight nodes
  | [] => Nat.zero_le _
  | node :: rest => by
      have first := node.sum_tagWeight_le
      have later := sum_tagWeight_le rest
      rw [elementsWithin, selectNodes, List.map_append, List.sum_append, nodesWeight]
      exact Nat.add_le_add first later

end

/-- The values that hold markup are shorter together than the tag is heavy. -/
theorem sum_length_markupValues_lt (element : Element) :
    element.name.length + (element.markupValues.map List.length).sum < element.tagWeight := by
  obtain ⟨name, attributes, children, selfClosing⟩ := element
  have values : (((attributes.map Prod.snd).filter Evaluation.holdsMarkup).map List.length).sum ≤
      attributesWeight attributes := by
    induction attributes with
    | nil =>
        exact Nat.le_refl _
    | cons entry rest inductionHypothesis =>
        simp only [List.map_cons, List.filter_cons, attributesWeight]
        split
        · simp only [List.map_cons, List.sum_cons]
          omega
        · omega
  simp only [Element.markupValues, Element.tagWeight, tagWeight]
  omega

/-- The tree of an attribute's value weighs less than the tree that the value stands in. -/
theorem nodesWeight_parse_lt_of_mem
    {nodes : List Node}
    {element : Element}
    (isWithin : element ∈ elementsWithin nodes)
    {value : Text}
    (isValue : value ∈ element.markupValues) :
    nodesWeight (parse value) < nodesWeight nodes := by
  calc
    nodesWeight (parse value) ≤ value.length := nodesWeight_parse_le value
    _ ≤ (element.markupValues.map List.length).sum :=
      List.le_sum_of_mem (List.mem_map_of_mem isValue)
    _ ≤ element.name.length + (element.markupValues.map List.length).sum := Nat.le_add_left _ _
    _ < element.tagWeight := sum_length_markupValues_lt element
    _ ≤ ((elementsWithin nodes).map Element.tagWeight).sum :=
      List.le_sum_of_mem (List.mem_map_of_mem isWithin)
    _ ≤ nodesWeight nodes := sum_tagWeight_le nodes

/-! ## Elements that are reached -/

/--
The elements that evaluating nodes may come upon: those of the tree, and those reached from
the trees of attribute values.
-/
def elementsReached (nodes : List Node) : List Element :=
  elementsWithin nodes ++
    (elementsWithin nodes).attach.flatMap fun element =>
      element.val.markupValues.attach.flatMap fun value => elementsReached (parse value.val)
termination_by nodesWeight nodes
decreasing_by
  exact nodesWeight_parse_lt_of_mem element.property value.property

/-- The elements reached from the trees of attribute values. -/
def elementsInValues (nodes : List Node) : List Element :=
  (elementsWithin nodes).flatMap fun element =>
    element.markupValues.flatMap fun value => elementsReached (parse value)

/-- Elements are reached in the tree or in the trees of values. -/
theorem elementsReached_eq (nodes : List Node) :
    elementsReached nodes = elementsWithin nodes ++ elementsInValues nodes := by
  rw [elementsReached]
  simp [elementsInValues]

/-! ## What parts of a tree reach -/

/-- Part of the nodes has part of the elements. -/
theorem elementsWithin_subset
    {part all : List Node}
    (isPart : part.Sublist all) :
    elementsWithin part ⊆ elementsWithin all := by
  induction isPart with
  | slnil =>
      exact List.Subset.refl _
  | cons node _ inductionHypothesis =>
      exact List.subset_append_of_subset_right (node.select fun _ => true) inductionHypothesis
  | cons_cons node _ inductionHypothesis =>
      exact List.append_subset.mpr ⟨List.subset_append_left _ _,
        List.subset_append_of_subset_right _ inductionHypothesis⟩

/-- The elements within an element are itself and those of its children. -/
theorem elementsWithin_toNode (element : Element) :
    elementsWithin [element.toNode] = element :: elementsWithin element.children := by
  simp [elementsWithin, selectNodes, Node.select, Element.toNode]

/-- Nodes with fewer elements reach fewer elements. -/
theorem elementsReached_subset
    {part all : List Node}
    (isPart : elementsWithin part ⊆ elementsWithin all) :
    elementsReached part ⊆ elementsReached all := by
  rw [elementsReached_eq, elementsReached_eq]
  have values : elementsInValues part ⊆ elementsInValues all := by
    intro element member
    obtain ⟨holder, isHolder, isReached⟩ := List.mem_flatMap.mp member
    exact List.mem_flatMap.mpr ⟨holder, isPart isHolder, isReached⟩
  exact List.append_subset.mpr ⟨List.subset_append_of_subset_left _ isPart,
    List.subset_append_of_subset_right _ values⟩

theorem mem_elementsReached_self (element : Element) :
    element ∈ elementsReached [element.toNode] := by
  rw [elementsReached_eq, elementsWithin_toNode]
  exact List.mem_append_left _ List.mem_cons_self

/-- Whatever is reached from the children is reached from the element. -/
theorem elementsReached_children_subset (element : Element) :
    elementsReached element.children ⊆ elementsReached [element.toNode] := by
  apply elementsReached_subset
  rw [elementsWithin_toNode]
  exact List.subset_cons_self _ _

/-- What the value of an attribute reaches is reached from the element. -/
theorem elementsReached_value_subset
    {element : Element}
    {name value : Text}
    (found : element.attributeValue? name = some value)
    (marked : Evaluation.holdsMarkup value = true) :
    elementsReached (parse value) ⊆ elementsReached [element.toNode] := by
  obtain ⟨entry, isEntry, rfl⟩ := Option.map_eq_some_iff.mp found
  have isValue : entry.2 ∈ element.markupValues :=
    List.mem_filter.mpr ⟨List.mem_map_of_mem (List.mem_of_find?_eq_some isEntry), marked⟩
  intro reached isReached
  rw [elementsReached_eq, elementsInValues, elementsWithin_toNode]
  apply List.mem_append_right
  exact List.mem_flatMap.mpr
    ⟨element, List.mem_cons_self, List.mem_flatMap.mpr ⟨entry.2, isValue, isReached⟩⟩

end Colloquy.Markup
