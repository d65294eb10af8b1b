import Colloquy.Markup.Tree

namespace Colloquy.Markup

/-!
# Trees weigh at most what they were read from

The weight of a tree counts the characters of its texts, names and attribute
values, and one more for each tag. Reading a template never makes characters, so
the weight of its tree is at most the length of the template. In particular the
tree of an attribute's value weighs less than the element that carries it.
-/

/-! ## Nodes -/

theorem nodesWeight_append
    (first second : List Node) :
    nodesWeight (first ++ second) = nodesWeight first + nodesWeight second := by
  induction first with
  | nil => simp [nodesWeight]
  | cons node rest inductionHypothesis =>
      simp only [List.cons_append, nodesWeight, inductionHypothesis]
      omega

theorem nodesWeight_reverse (nodes : List Node) :
    nodesWeight nodes.reverse = nodesWeight nodes := by
  induction nodes with
  | nil => rfl
  | cons node rest inductionHypothesis =>
      simp only [List.reverse_cons, nodesWeight_append, inductionHypothesis, nodesWeight]
      omega

/-- Some of the nodes weigh at most what all of them weigh. -/
theorem nodesWeight_sublist
    {some all : List Node}
    (sublist : some.Sublist all) :
    nodesWeight some ≤ nodesWeight all := by
  induction sublist with
  | slnil => exact Nat.le_refl _
  | cons node _ inductionHypothesis =>
      simp only [nodesWeight]
      omega
  | cons_cons node _ inductionHypothesis =>
      simp only [nodesWeight]
      omega

/-- A node weighs at most what all of them weigh. -/
theorem weight_le_nodesWeight
    {node : Node}
    {nodes : List Node}
    (member : node ∈ nodes) :
    node.weight ≤ nodesWeight nodes := by
  have sublist := nodesWeight_sublist (List.singleton_sublist.mpr member)
  simpa only [nodesWeight, Nat.add_zero] using sublist

/-- A node that is an element weighs what the element weighs. -/
theorem Node.weight_of_element?
    {node : Node}
    {element : Element}
    (found : node.element? = some element) :
    node.weight = element.weight := by
  cases node with
  | text content => simp [Node.element?] at found
  | element name attributes children selfClosing =>
      simp only [Node.element?, Option.some.injEq] at found
      subst found
      rfl

theorem weight_le_of_mem_elementsOf
    {element : Element}
    {nodes : List Node}
    (member : element ∈ elementsOf nodes) :
    element.weight ≤ nodesWeight nodes := by
  obtain ⟨node, nodeMember, found⟩ := List.mem_filterMap.mp member
  rw [← Node.weight_of_element? found]
  exact weight_le_nodesWeight nodeMember

/-- The children of a node weigh less than the node. -/
theorem nodesWeight_lt_weight
    (name : Text)
    (attributes : List Attribute)
    (children : List Node)
    (selfClosing : Bool) :
    nodesWeight children < (Node.element name attributes children selfClosing).weight := by
  simp only [Node.weight, tagWeight]
  omega

/-- The children of an element weigh less than the element. -/
theorem Element.nodesWeight_children_lt (element : Element) :
    nodesWeight element.children < element.weight := by
  simp only [Element.weight, tagWeight]
  omega

theorem Element.weight_lt_of_mem_children
    {element child : Element}
    (member : child ∈ elementsOf element.children) :
    child.weight < element.weight :=
  Nat.lt_of_le_of_lt (weight_le_of_mem_elementsOf member) element.nodesWeight_children_lt

/-- A child element weighs less than the element. -/
theorem Element.weight_lt_of_child?
    {element child : Element}
    {name : Text}
    (found : element.child? name = some child) :
    child.weight < element.weight :=
  weight_lt_of_mem_children (List.mem_of_find?_eq_some found)

/-- An attribute is no longer than all of them are heavy. -/
theorem length_le_attributesWeight
    {entry : Attribute}
    {attributes : List Attribute}
    (member : entry ∈ attributes) :
    entry.1.length + entry.2.length ≤ attributesWeight attributes := by
  induction attributes with
  | nil => simp at member
  | cons first others inductionHypothesis =>
      simp only [attributesWeight]
      rcases List.mem_cons.mp member with isFirst | isLater
      · rw [isFirst]
        omega
      · have bound := inductionHypothesis isLater
        omega

/-- The value of an attribute is shorter than its element is heavy. -/
theorem Element.length_lt_of_attributeValue?
    {element : Element}
    {name value : Text}
    (found : element.attributeValue? name = some value) :
    value.length < element.weight := by
  simp only [Element.attributeValue?, Option.map_eq_some_iff] at found
  obtain ⟨entry, present, valueIs⟩ := found
  have counted := length_le_attributesWeight (List.mem_of_find?_eq_some present)
  simp only [Element.weight, tagWeight]
  subst valueIs
  omega

/-! ## Tags -/

/-- Attributes weigh at most what they were read from. -/
theorem attributes?_weight
    {text : Text}
    {attributes : List Attribute}
    (found : attributes? text = some attributes) :
    attributesWeight attributes ≤ text.length := by
  fun_induction attributes? text generalizing attributes with
  | case1 =>
      simp only [Option.some.injEq] at found
      subst found
      simp [attributesWeight]
  | case2 => simp at found
  | case3 text _ entry after read inductionHypothesis =>
      simp only [Option.map_eq_some_iff] at found
      obtain ⟨others, othersFound, attributesIs⟩ := found
      subst attributesIs
      have shorter := attribute?_length read
      have trimmed := length_trimStart_le text
      have othersWeight := inductionHypothesis othersFound
      simp only [attributesWeight]
      omega

/-- What a lexeme adds to a tree, at most. -/
def Lexeme.weight : Lexeme → Nat
  | .text source => source.length
  | .comment source => source.length
  | .opening name attributes _ => tagWeight name attributes
  | .closing _ source => source.length
  | .standalone name attributes _ => tagWeight name attributes

theorem length_dropSlash_le (inside : Text) :
    (dropSlash inside).1.length ≤ inside.length := by
  simp only [dropSlash]
  split
  · next rest reversed =>
      have lengths := congrArg List.length reversed
      simp only [List.length_reverse, List.length_cons] at lengths ⊢
      omega
  · exact Nat.le_refl _

theorem length_trimEnd_le (text : Text) :
    (Text.trimEnd text).length ≤ text.length := by
  simp only [Text.trimEnd, Text.dropEndWhile, List.length_reverse]
  exact Nat.le_trans (length_dropWhile_le Text.isBlank text.reverse) (by simp)

/-- An opening or self-closing tag weighs at most its inside and one more. -/
theorem startTag?_weight
    {inside source : Text}
    {lexeme : Lexeme}
    (found : startTag? inside source = some lexeme) :
    lexeme.weight ≤ inside.length + 1 := by
  simp only [startTag?] at found
  split at found
  · simp only [Option.map_eq_some_iff] at found
    obtain ⟨attributes, read, lexemeIs⟩ := found
    have attributesBound := attributes?_weight read
    have total := length_takeWhile_add_dropWhile (fun c => !Text.isBlank c)
      (dropSlash (Text.trimEnd inside)).1
    have slashless := length_dropSlash_le (Text.trimEnd inside)
    have trimmed := length_trimEnd_le inside
    split at lexemeIs <;> subst lexemeIs <;> simp only [Lexeme.weight, tagWeight] <;> omega
  · simp at found

/-- A closing tag weighs what it was read from. -/
theorem closingTag?_weight
    {inside source : Text}
    {lexeme : Lexeme}
    (found : closingTag? inside source = some lexeme) :
    lexeme.weight = source.length := by
  simp only [closingTag?] at found
  split at found
  · simp only [Option.some.injEq] at found
    subst found
    rfl
  · simp at found

/-- A tag weighs at most what it was read from. -/
theorem tag?_weight
    {text after : Text}
    {lexeme : Lexeme}
    (found : tag? text = some (lexeme, after)) :
    lexeme.weight ≤ lexeme.source.length := by
  simp only [tag?, Option.bind_eq_some_iff, Prod.exists] at found
  obtain ⟨body, rest, _, read⟩ := found
  simp only [Option.map_eq_some_iff, Prod.mk.injEq] at read
  obtain ⟨tag, tagFound, tagIs, _⟩ := read
  subst tagIs
  revert tagFound
  split
  · intro tagFound
    simp [closingTag?_weight tagFound, closingTag?_source tagFound]
  · intro tagFound
    have bound := startTag?_weight tagFound
    rw [startTag?_source tagFound]
    simp only [List.length_cons, List.length_append, List.length_nil]
    omega

/-- A lexeme weighs at most what it was read from. -/
theorem nextLexeme_weight
    (c : Char)
    (rest : Text) :
    (nextLexeme c rest).1.weight ≤ (nextLexeme c rest).1.source.length := by
  fun_cases nextLexeme c rest with
  | case1 => exact Nat.le_refl _
  | case2 => exact Nat.le_refl _
  | case3 => exact Nat.le_refl _
  | case4 _ _ lexeme after found => exact tag?_weight found
  | case5 => exact Nat.le_refl _

/-- Every lexeme of a text weighs at most what it was read from. -/
theorem weight_le_of_mem_lexemes
    {text : Text}
    {lexeme : Lexeme}
    (member : lexeme ∈ lexemes text) :
    lexeme.weight ≤ lexeme.source.length := by
  fun_induction lexemes text with
  | case1 => simp at member
  | case2 c rest step inductionHypothesis =>
      rcases List.mem_cons.mp member with isFirst | isLater
      · rw [isFirst]
        exact nextLexeme_weight c rest
      · exact inductionHypothesis isLater

/-- The sources of the lexemes, in order, are the text. -/
theorem flatMap_source_lexemes (text : Text) :
    (lexemes text).flatMap Lexeme.source = text := by
  fun_induction lexemes text with
  | case1 => rfl
  | case2 c rest step inductionHypothesis =>
      rw [List.flatMap_cons, inductionHypothesis]
      exact (nextLexeme_source c rest).2

/-! ## Reading -/

/-- Text adds its length to the weight. -/
theorem nodesWeight_pushText
    (text : Text)
    (nodes : List Node) :
    nodesWeight (pushText text nodes) = text.length + nodesWeight nodes := by
  simp only [pushText]
  split
  · next empty =>
      rw [List.isEmpty_iff.mp empty]
      simp
  · split
    · simp only [nodesWeight, Node.weight, List.length_append]
      omega
    · simp only [nodesWeight, Node.weight]

theorem nodesWeight_pushNode
    (node : Node)
    (nodes : List Node) :
    nodesWeight (pushNode node nodes) = node.weight + nodesWeight nodes := by
  cases node with
  | text content => exact nodesWeight_pushText content nodes
  | element name attributes children selfClosing => rfl

/-- What an open element stands for so far. -/
def OpenElement.weight (element : OpenElement) : Nat :=
  element.source.length + nodesWeight element.children

/-- What open elements stand for together. -/
def openWeight : List OpenElement → Nat
  | [] => 0
  | element :: rest => element.weight + openWeight rest

theorem openWeight_append
    (first second : List OpenElement) :
    openWeight (first ++ second) = openWeight first + openWeight second := by
  induction first with
  | nil => simp [openWeight]
  | cons element rest inductionHypothesis =>
      simp only [List.cons_append, openWeight, inductionHypothesis]
      omega

theorem nodesWeight_foldr_pushNode
    (added nodes : List Node) :
    nodesWeight (added.foldr pushNode nodes) = nodesWeight added + nodesWeight nodes := by
  induction added with
  | nil => simp [nodesWeight]
  | cons node rest inductionHypothesis =>
      simp only [List.foldr_cons, nodesWeight_pushNode, inductionHypothesis, nodesWeight]
      omega

/-- An element that is never closed adds its weight. -/
theorem nodesWeight_degrade
    (element : OpenElement)
    (nodes : List Node) :
    nodesWeight (element.degrade nodes) = element.weight + nodesWeight nodes := by
  simp only [OpenElement.degrade, nodesWeight_foldr_pushNode, nodesWeight_pushText,
    OpenElement.weight]
  omega

/-- Elements that are never closed add their weights. -/
theorem nodesWeight_foldr_degrade
    (openElements : List OpenElement)
    (nodes : List Node) :
    nodesWeight (openElements.foldr OpenElement.degrade nodes) =
      openWeight openElements + nodesWeight nodes := by
  induction openElements with
  | nil => simp [openWeight]
  | cons element rest inductionHypothesis =>
      simp only [List.foldr_cons, nodesWeight_degrade, inductionHypothesis, openWeight]
      omega

namespace Nesting

/-- The weight of what has been read. -/
def weight (nesting : Nesting) : Nat :=
  openWeight nesting.openElements + nodesWeight nesting.roots

/-- The tags of the open elements weigh at most what they were read from. -/
def TagsWithinSources (nesting : Nesting) : Prop :=
  ∀ element ∈ nesting.openElements, tagWeight element.name element.attributes ≤ element.source.length

/-- A change of the innermost nodes that adds at most some weight adds at most that weight. -/
theorem weight_modifyInnermost_le
    {change : List Node → List Node}
    {added : Nat}
    (adds : ∀ nodes, nodesWeight (change nodes) ≤ added + nodesWeight nodes)
    (nesting : Nesting) :
    (nesting.modifyInnermost change).weight ≤ added + nesting.weight := by
  simp only [modifyInnermost]
  split
  · next none =>
      have bound := adds nesting.roots
      simp only [weight, none]
      omega
  · next element outer some =>
      have bound := adds element.children
      simp only [weight, some, openWeight, OpenElement.weight]
      omega

/-- Changing the innermost nodes keeps the tags. -/
theorem tagsWithinSources_modifyInnermost
    {nesting : Nesting}
    (change : List Node → List Node)
    (within : nesting.TagsWithinSources) :
    (nesting.modifyInnermost change).TagsWithinSources := by
  simp only [modifyInnermost]
  split
  · next none => simpa only [TagsWithinSources] using within
  · next element outer some =>
      simp only [TagsWithinSources, some, List.forall_mem_cons] at within ⊢
      exact within

/-- Closing an element adds at most what the closing tag weighs. -/
theorem close_weight
    {nesting : Nesting}
    (within : nesting.TagsWithinSources)
    (name source : Text) :
    (nesting.close name source).TagsWithinSources ∧
      (nesting.close name source).weight ≤ source.length + nesting.weight := by
  simp only [close]
  split
  · constructor
    · exact tagsWithinSources_modifyInnermost _ within
    · exact weight_modifyInnermost_le (fun nodes => Nat.le_of_eq (nodesWeight_pushText _ _)) _
  · next element outer found =>
      have parts := List.takeWhile_append_dropWhile (p := (·.name != name)) (l := nesting.openElements)
      rw [found] at parts
      have tagBound : tagWeight element.name element.attributes ≤ element.source.length :=
        within element (by rw [← parts]; simp)
      constructor
      · apply tagsWithinSources_modifyInnermost
        intro other member
        exact within other (by rw [← parts]; simp [member])
      · have added (nodes : List Node) :
            nodesWeight (Node.element element.name element.attributes
              ((nesting.openElements.takeWhile (·.name != name)).foldr OpenElement.degrade
                element.children).reverse false :: nodes) ≤
              tagWeight element.name element.attributes +
                (openWeight (nesting.openElements.takeWhile (·.name != name)) +
                  nodesWeight element.children) + nodesWeight nodes := by
          simp only [nodesWeight, Node.weight, nodesWeight_reverse, nodesWeight_foldr_degrade]
          omega
        have bound := weight_modifyInnermost_le added { nesting with openElements := outer }
        have total : nesting.weight =
            openWeight (nesting.openElements.takeWhile (·.name != name)) +
              (element.weight + openWeight outer) +
              nodesWeight nesting.roots := by
          rw [weight]
          conv => lhs; rw [← parts]
          simp only [openWeight_append, openWeight]
        rw [total]
        refine Nat.le_trans bound ?_
        simp only [weight, OpenElement.weight]
        omega

/-- Reading a lexeme adds at most the length of its source. -/
theorem read_weight
    {nesting : Nesting}
    (within : nesting.TagsWithinSources)
    {lexeme : Lexeme}
    (bounded : lexeme.weight ≤ lexeme.source.length) :
    (nesting.read lexeme).TagsWithinSources ∧
      (nesting.read lexeme).weight ≤ lexeme.source.length + nesting.weight := by
  cases lexeme with
  | text source =>
      constructor
      · exact tagsWithinSources_modifyInnermost _ within
      · refine weight_modifyInnermost_le (fun nodes => ?_) _
        have decoded := decodeEntities_length source
        simp only [nodesWeight_pushText, Lexeme.source]
        omega
  | comment source =>
      exact ⟨within, Nat.le_add_left _ _⟩
  | opening name attributes source =>
      constructor
      · intro element member
        rcases List.mem_cons.mp member with isNew | isOld
        · subst isNew
          exact bounded
        · exact within element isOld
      · simp only [read, weight, openWeight, OpenElement.weight, nodesWeight,
          Lexeme.source]
        omega
  | closing name source => exact close_weight within name source
  | standalone name attributes source =>
      constructor
      · exact tagsWithinSources_modifyInnermost _ within
      · refine weight_modifyInnermost_le (fun nodes => ?_) _
        simp only [Lexeme.weight] at bounded
        simp only [nodesWeight, Node.weight]
        omega

/-- Reading lexemes adds at most the length of their sources. -/
theorem weight_foldl_read_le
    (unread : List Lexeme)
    (bounded : ∀ lexeme ∈ unread, lexeme.weight ≤ lexeme.source.length)
    {nesting : Nesting}
    (within : nesting.TagsWithinSources) :
    (unread.foldl read nesting).weight ≤
      (unread.flatMap Lexeme.source).length + nesting.weight := by
  induction unread generalizing nesting with
  | nil => simp
  | cons lexeme rest inductionHypothesis =>
      obtain ⟨stillWithin, added⟩ := read_weight within (bounded lexeme (by simp))
      have later := inductionHypothesis
        (fun other member => bounded other (List.mem_cons_of_mem _ member)) stillWithin
      simp only [List.foldl_cons, List.flatMap_cons, List.length_append]
      omega

/-- What has been read in the end weighs what it weighed before. -/
theorem nodesWeight_finish (nesting : Nesting) :
    nodesWeight nesting.finish = nesting.weight := by
  simp only [finish, nodesWeight_reverse, nodesWeight_foldr_degrade, weight]

end Nesting

/-- The tree of a template weighs at most the template's length. -/
theorem nodesWeight_parse_le (text : Text) :
    nodesWeight (parse text) ≤ text.length := by
  rw [parse, Nesting.nodesWeight_finish]
  have bound := Nesting.weight_foldl_read_le (lexemes text)
    (fun lexeme member => weight_le_of_mem_lexemes member)
    (show Nesting.empty.TagsWithinSources by
      simp [Nesting.TagsWithinSources, Nesting.empty])
  rw [flatMap_source_lexemes] at bound
  simpa [Nesting.weight, Nesting.empty, nodesWeight, openWeight] using bound

/-- The tree of an attribute's value weighs less than the element that carries it. -/
theorem Element.nodesWeight_parse_lt
    {element : Element}
    {name value : Text}
    (found : element.attributeValue? name = some value) :
    nodesWeight (parse value) < element.weight :=
  Nat.lt_of_le_of_lt (nodesWeight_parse_le value) (element.length_lt_of_attributeValue? found)

end Colloquy.Markup
