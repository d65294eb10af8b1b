import Colloquy.Proofs.Admission.Admitted
import Colloquy.Proofs.Markup.Reached

namespace Colloquy

/-!
# Self-references of admitted templates

Evaluation comes upon the elements of a template's tree, and upon those of the
trees that are read from attribute values with markup, which may have such values
in turn. Admission counts self-references in the first tree only. What it leaves
uncounted stands in attribute values, and all of it takes up room in the template.
-/

namespace Markup

/-- What is counted in all sources has room in all of them together. -/
theorem countP_flatMap_le
    {α : Type}
    {test : Element → Bool}
    {least : Nat}
    {elementsOf : α → List Element}
    {room : α → Nat}
    {sources : List α}
    (bounded : ∀ source ∈ sources, least * (elementsOf source).countP test ≤ room source) :
    least * (sources.flatMap elementsOf).countP test ≤ (sources.map room).sum := by
  induction sources with
  | nil =>
      simp
  | cons source rest inductionHypothesis =>
      have first := bounded source List.mem_cons_self
      have later := inductionHypothesis fun other member =>
        bounded other (List.mem_cons_of_mem source member)
      rw [List.flatMap_cons, List.countP_append, Nat.mul_add, List.map_cons, List.sum_cons]
      exact Nat.add_le_add first later

/-- How many elements are reached is bounded by what each of them takes up at the least. -/
theorem countP_elementsReached_le
    {test : Element → Bool}
    {least : Nat}
    (heavy : ∀ element, test element = true → least ≤ element.name.length + 1)
    (nodes : List Node) :
    least * (elementsReached nodes).countP test ≤ nodesWeight nodes := by
  induction nodes using elementsReached.induct with
  | case1 nodes inductionHypothesis =>
      -- Each element is counted together with what is reached from its own values.
      let reachedFrom (element : Element) : List Element :=
        element :: element.markupValues.flatMap fun value => elementsReached (parse value)
      have grouped : (elementsReached nodes).Perm ((elementsWithin nodes).flatMap reachedFrom) := by
        have each := List.flatMap_append_perm (elementsWithin nodes) (fun element => [element])
          fun element => element.markupValues.flatMap fun value => elementsReached (parse value)
        rw [List.flatMap_singleton'] at each
        rw [elementsReached_eq]
        exact each
      rw [grouped.countP_eq]
      refine Nat.le_trans (countP_flatMap_le ?_) (sum_tagWeight_le nodes)
      intro element isWithin
      have inValues : least * (element.markupValues.flatMap fun value =>
          elementsReached (parse value)).countP test ≤
            (element.markupValues.map List.length).sum := by
        refine countP_flatMap_le ?_
        intro value isValue
        exact Nat.le_trans (inductionHypothesis ⟨element, isWithin⟩ ⟨value, isValue⟩)
          (nodesWeight_parse_le value)
      have own : least * (if test element = true then 1 else 0) ≤ element.name.length + 1 := by
        split
        · next selected =>
            simpa using heavy element selected
        · simp
      have room := sum_length_markupValues_lt element
      simp only [reachedFrom, List.countP_cons, Nat.mul_add]
      omega

mutual

/-- The elements of a node that pass are those of all its elements that do. -/
theorem Node.select_eq_filter
    (test : Element → Bool) :
    (node : Node) →
    node.select test = (node.select fun _ => true).filter test
  | .text _ => rfl
  | .element name attributes children selfClosing => by
      simp only [Node.select, ↓reduceIte, List.filter_cons, selectNodes_eq_filter test children]
      rfl

/-- The elements that pass a test are selected among all. -/
theorem selectNodes_eq_filter
    (test : Element → Bool) :
    (nodes : List Node) →
    selectNodes test nodes = (elementsWithin nodes).filter test
  | [] => rfl
  | node :: rest => by
      rw [selectNodes, node.select_eq_filter test, selectNodes_eq_filter test rest,
        ← List.filter_append]
      rfl

end

end Markup

namespace Admission

open Markup

/-- The element has a text answered by the rules. -/
def isSelfReference (element : Element) : Bool :=
  (Tag.ofName? element.name).any Tag.isSelfReference

/-- The name of an element that has a text answered has two letters or more. -/
theorem length_name_of_isSelfReference
    {element : Element}
    (selected : isSelfReference element = true) :
    3 ≤ element.name.length + 1 := by
  rw [isSelfReference, Option.any_eq_true] at selected
  obtain ⟨tag, found, isTag⟩ := selected
  have spelled : tag.spelling.toList = element.name := by
    simpa using List.find?_some found
  rw [← spelled]
  cases tag with
  | srai | sr =>
      decide
  | _ =>
      simp [Tag.isSelfReference] at isTag

/-- Counting tags is counting the elements within the nodes that have them. -/
theorem countTags_isSelfReference (nodes : List Node) :
    countTags Tag.isSelfReference nodes = (elementsWithin nodes).countP isSelfReference := by
  rw [countTags, selectNodes_eq_filter, List.countP_eq_length_filter]
  rfl

/-- The self-references that evaluating nodes may come upon. -/
def selfReferencesReached (nodes : List Node) : Nat :=
  (elementsReached nodes).countP isSelfReference

/-- The self-references in attribute values, and in theirs. -/
def selfReferencesInValues (nodes : List Node) : Nat :=
  (elementsInValues nodes).countP isSelfReference

/--
The self-references that an admitted template reaches are within the limit exactly if
those in attribute values find room beside the others; in any case the template's
length bounds them.
-/
theorem validate_boundsSelfReferences_iff
    {category : Category}
    {limits : LearningLimits}
    (admitted : validate category limits = .ok ()) :
    let nodes := parse category.template
    (selfReferencesReached nodes ≤ limits.maxSelfReferences ↔
        selfReferencesInValues nodes ≤
          limits.maxSelfReferences - countTags Tag.isSelfReference nodes) ∧
      3 * selfReferencesReached nodes ≤ limits.maxTemplateLength := by
  intro nodes
  obtain ⟨_, fits⟩ := fits_of_validate admitted
  constructor
  · have few := fits.selfReferences
    rw [countTags_isSelfReference] at few ⊢
    rw [selfReferencesReached, elementsReached_eq, List.countP_append]
    exact (Nat.le_sub_iff_add_le' few).symm
  · calc
      3 * selfReferencesReached nodes ≤ nodesWeight nodes :=
        countP_elementsReached_le (fun _ => length_name_of_isSelfReference) nodes
      _ ≤ category.template.length := nodesWeight_parse_le _
      _ ≤ limits.maxTemplateLength := fits.length

/-- A self-reference in a value may use up the limit. -/
theorem validate_boundsSelfReferences_iff_room :
    let template := "<srai>A</srai><get name=\"<sr/>\"/>".toList
    let limits : LearningLimits := { maxSelfReferences := 2 }
    validate (.plain "HI".toList template) limits = .ok () ∧
      selfReferencesReached (parse template) ≤ 2 := by
  intro template limits
  have admitted : validate (.plain "HI".toList template) limits = .ok () := by
    decide +kernel
  refine ⟨admitted, (validate_boundsSelfReferences_iff admitted).1.mpr ?_⟩
  decide +kernel

/-- A self-reference in the value of an attribute is reached and not counted. -/
theorem validate_boundsSelfReferences_inValue :
    let template := "<get name=\"<sr/>\"/>".toList
    let limits : LearningLimits := { maxSelfReferences := 0 }
    validate (.plain "HI".toList template) limits = .ok () ∧
      limits.maxSelfReferences < selfReferencesReached (parse template) := by
  decide +kernel

end Admission

end Colloquy
