import Colloquy.Evaluation.Template

namespace Colloquy.Evaluation

/-!
# Evaluations step by step

Whatever an element does, it does by a few steps: it evaluates parts of itself,
has inputs answered, reads the turn, and, if its tag is one of six, changes it. A
correspondence is any relation between evaluations that these steps keep, and
then every element keeps it. This is shown once here, tag by tag, for a family of
evaluations against a single one.

A correspondence may be restricted to nodes that it admits. Only the changes of
tags that occur in admitted nodes have to keep it.
-/

open Markup

/-! ## Where an attribute is found -/

section Attributes

variable
  {limit : Nat}
  {piece : Piece limit}
  {name : String}
  (evaluate : PartEvaluator limit)

/--
An attribute that is written on the tag is taken from there, and evaluated if it holds markup.
-/
theorem attribute?_of_value
    {value : Text}
    (found : piece.val.attributeValue? name.toList = some value) :
    attribute? evaluate piece name =
      if holdsMarkup value then do
        let nodes ← fetch value
        let text ← evaluate ⟨nodes.val, by
          rw [nodes.property]
          exact Nat.lt_of_lt_of_le (Element.nodesWeight_parse_lt found) piece.property⟩
        return some (Text.trim text)
      else
        return some (Text.trim value) := by
  unfold attribute?
  split
  · next other present =>
      obtain rfl : other = value := by simpa [found] using present.symm
      rfl
  · next absent =>
      simp [found] at absent

/-- An attribute that is not written on the tag is the content of the child of that name. -/
theorem attribute?_of_child
    {child : Piece limit}
    (absent : piece.val.attributeValue? name.toList = none)
    (found : piece.child? name.toList = some child) :
    attribute? evaluate piece name =
      (do
        let text ← evaluate child.children
        return some (Text.trim text)) := by
  unfold attribute?
  split
  · next other present =>
      simp [absent] at present
  · simp only [found]

/-- An attribute that is neither written nor a child is missing. -/
theorem attribute?_of_none
    (absent : piece.val.attributeValue? name.toList = none)
    (noChild : piece.child? name.toList = none) :
    attribute? evaluate piece name = return none := by
  unfold attribute?
  split
  · next other present =>
      simp [absent] at present
  · simp only [noChild]

end Attributes

/-! ## What changes of lists and maps leave alone -/

/-- Removing an entry of a list changes lists only. -/
theorem listRemoveAt_frame
    (name : Text)
    (number : Nat)
    (session : Session) :
    ∃ lists, (session.listRemoveAt name number).2 = { session with lists } := by
  simp only [Session.listRemoveAt]
  split <;> exact ⟨_, rfl⟩

theorem listRemoveValue_frame
    (name value : Text)
    (session : Session) :
    ∃ lists, (session.listRemoveValue name value).2 = { session with lists } := by
  simp only [Session.listRemoveValue]
  split <;> exact ⟨_, rfl⟩

theorem listSet_frame
    (name : Text)
    (number : Nat)
    (value : Text)
    (session : Session) :
    ∃ lists, (session.listSet name number value).2 = { session with lists } := by
  simp only [Session.listSet]
  split <;> exact ⟨_, rfl⟩

/-- Removing an entry of a map changes maps only. -/
theorem mapRemove_frame
    (name key : Text)
    (session : Session) :
    ∃ maps, (session.mapRemove name key).2 = { session with maps } := by
  simp only [Session.mapRemove]
  split <;> exact ⟨_, rfl⟩

/-! ## Steps -/

/-- A step that reads the turn, and changes at most what is remembered. -/
inductive Reading : {α : Type} → Evaluation α → Prop where
  | fetch (text : Text) :
      Reading (fetch text)
  | resolve (name : Text) :
      Reading (resolve name)
  | localValue (name : Text) :
      Reading (localValue name)
  | property (name : Text) :
      Reading (property name)
  | bound {α : Type} (read : Bindings → α) :
      Reading (bound read)
  | recalled {α : Type} (read : Session → α) :
      Reading (recalled read)

/-- A step that changes the turn for the sake of an element with the given tag. -/
inductive Change : Tag → {α : Type} → Evaluation α → Prop where
  | setLocal (name value : Text) :
      Change .set (setLocal name value)
  | setVariable (name value : Text) :
      Change .set (modifySession fun session => session.setVariable name value)
  | editLists (change : Session → Session) :
      (∀ session, ∃ lists, change session = { session with lists }) →
      Change .list (modifySession change)
  | editMaps (change : Session → Session) :
      (∀ session, ∃ maps, change session = { session with maps }) →
      Change .map (modifySession change)
  | pick (count : Nat) :
      Change .random (pick count)
  | learn (candidate : Category) :
      Change .learn (learn candidate)
  | unlearn (candidate : Category) :
      Change .unlearn (unlearn candidate)

/-- A relation between a family of evaluations and one evaluation that all steps keep. -/
structure Correspondence (ι : Type) where
  holds : {α : Type} → (ι → Evaluation α) → Evaluation α → Prop
  admits : List Node → Prop
  value :
    ∀ {α : Type} (value : α),
      holds (fun _ => pure value) (pure value)
  sequence :
    ∀ {α β : Type}
      {first : ι → Evaluation α} {first' : Evaluation α}
      {next : ι → α → Evaluation β} {next' : α → Evaluation β},
      holds first first' →
      (∀ value, holds (fun i => next i value) (next' value)) →
      holds (fun i => first i >>= next i) (first' >>= next')
  reading :
    ∀ {α : Type} {step : Evaluation α},
      Reading step →
      holds (fun _ => step) step
  change :
    ∀ {α : Type} {step : Evaluation α} {element : Element} {tag : Tag},
      admits [element.toNode] →
      Tag.ofName? element.name = some tag →
      Change tag step →
      holds (fun _ => step) step
  admits_sublist :
    ∀ {some all : List Node},
      some.Sublist all →
      admits all →
      admits some
  admits_children :
    ∀ {element : Element},
      admits [element.toNode] →
      admits element.children
  admits_value :
    ∀ {element : Element} {name value : Text},
      element.attributeValue? name = some value →
      holdsMarkup value = true →
      admits [element.toNode] →
      admits (parse value)

namespace Correspondence

variable {ι : Type} (correspondence : Correspondence ι)

/-- Either branch of a choice keeps the correspondence. -/
theorem either
    {α : Type}
    {condition : Prop}
    [Decidable condition]
    {first second : ι → Evaluation α}
    {first' second' : Evaluation α}
    (isFirst : correspondence.holds first first')
    (isSecond : correspondence.holds second second') :
    correspondence.holds
      (fun i => if condition then first i else second i)
      (if condition then first' else second') := by
  by_cases chosen : condition
  · simpa only [if_pos chosen] using isFirst
  · simpa only [if_neg chosen] using isSecond

/-- A value that is computed from what an evaluation gives. -/
theorem returning
    {α β : Type}
    {first : ι → Evaluation α}
    {first' : Evaluation α}
    (holds : correspondence.holds first first')
    (result : α → β) :
    correspondence.holds
      (fun i => do return result (← first i))
      (do return result (← first')) :=
  correspondence.sequence holds fun value => correspondence.value (result value)

variable {limit : Nat}

/-- The changes that a tag makes keep the correspondence. -/
def Allows (tag : Tag) : Prop :=
  ∀ {α : Type} {step : Evaluation α},
    Change tag step →
    correspondence.holds (fun _ => step) step

/-! ## Parts of pieces that are admitted -/

/-- A piece is admitted. -/
def Fits (piece : Piece limit) : Prop :=
  correspondence.admits [piece.val.toNode]

variable {correspondence} {piece : Piece limit}

/-- Some of the children of a piece that fits are admitted. -/
theorem Fits.childrenWhere
    (fits : correspondence.Fits piece)
    (keep : Node → Bool) :
    correspondence.admits (piece.childrenWhere keep).val :=
  correspondence.admits_sublist List.filter_sublist (correspondence.admits_children fits)

/-- Each child of a piece that fits is admitted. -/
theorem Fits.eachChild
    (fits : correspondence.Fits piece)
    {part : Part limit}
    (member : part ∈ piece.eachChild) :
    correspondence.admits part.val := by
  obtain ⟨node, _, rfl⟩ := List.mem_map.mp member
  exact correspondence.admits_sublist (List.singleton_sublist.mpr node.property)
    (correspondence.admits_children fits)

/-- An element among admitted nodes is admitted. -/
theorem admits_of_mem_elementsOf
    {nodes : List Node}
    (admitted : correspondence.admits nodes)
    {element : Element}
    (member : element ∈ elementsOf nodes) :
    correspondence.admits [element.toNode] := by
  obtain ⟨node, isNode, found⟩ := List.mem_filterMap.mp member
  cases node with
  | text content =>
      simp [Node.element?] at found
  | element name attributes children selfClosing =>
      simp only [Node.element?, Option.some.injEq] at found
      subst found
      exact correspondence.admits_sublist (List.singleton_sublist.mpr isNode) admitted

/-- The child elements of a piece that fits do fit. -/
theorem Fits.of_mem_elements
    (fits : correspondence.Fits piece)
    {child : Piece limit}
    (member : child ∈ piece.elements) :
    correspondence.Fits child := by
  obtain ⟨element, _, rfl⟩ := List.mem_map.mp member
  exact admits_of_mem_elementsOf (correspondence.admits_children fits) element.property

/-- A child that is asked for by name fits. -/
theorem Fits.of_child?
    (fits : correspondence.Fits piece)
    {name : Text}
    {child : Piece limit}
    (found : piece.child? name = some child) :
    correspondence.Fits child := by
  simp only [Piece.child?] at found
  split at found
  · simp at found
  · next element present =>
      simp only [Option.some.injEq] at found
      subst found
      exact admits_of_mem_elementsOf (correspondence.admits_children fits)
        (List.mem_of_find?_eq_some present)

theorem Fits.of_mem_elementsTagged
    (fits : correspondence.Fits piece)
    {tag : Tag}
    {item : Piece limit}
    (member : item ∈ piece.elementsTagged tag) :
    correspondence.Fits item :=
  fits.of_mem_elements (List.mem_filter.mp member).1

/-! ## Attributes and content -/

/-- The parts that are admitted correspond. -/
def OnParts
    (correspondence : Correspondence ι)
    (approach : ι → PartEvaluator limit)
    (evaluate : PartEvaluator limit) :
    Prop :=
  ∀ part : Part limit,
    correspondence.admits part.val →
    correspondence.holds (fun i => approach i part) (evaluate part)

namespace OnParts

variable {approach : ι → PartEvaluator limit} {evaluate : PartEvaluator limit}

/-- Attributes correspond, wherever they are taken from. -/
theorem attribute?
    (onParts : correspondence.OnParts approach evaluate)
    (fits : correspondence.Fits piece)
    (name : String) :
    correspondence.holds
      (fun i => attribute? (approach i) piece name)
      (attribute? evaluate piece name) := by
  cases found : piece.val.attributeValue? name.toList with
  | some value =>
      simp only [attribute?_of_value _ found]
      by_cases marked : holdsMarkup value = true
      · simp only [if_pos marked]
        apply correspondence.sequence (correspondence.reading (.fetch value))
        intro nodes
        apply correspondence.returning
        apply onParts
        rw [nodes.property]
        exact correspondence.admits_value found marked fits
      · simp only [if_neg marked]
        exact correspondence.value _
  | none =>
      cases isChild : piece.child? name.toList with
      | some child =>
          simp only [attribute?_of_child _ found isChild]
          apply correspondence.returning
          exact onParts _ (correspondence.admits_children (fits.of_child? isChild))
      | none =>
          simp only [attribute?_of_none _ found isChild]
          exact correspondence.value _

theorem attributeText
    (onParts : correspondence.OnParts approach evaluate)
    (fits : correspondence.Fits piece)
    (name : String) :
    correspondence.holds
      (fun i => attributeText (approach i) piece name)
      (attributeText evaluate piece name) :=
  correspondence.returning (onParts.attribute? fits name) _

theorem content
    (onParts : correspondence.OnParts approach evaluate)
    (fits : correspondence.Fits piece) :
    correspondence.holds (fun i => content (approach i) piece) (content evaluate piece) :=
  onParts _ (fits.childrenWhere _)

theorem collapsedContent
    (onParts : correspondence.OnParts approach evaluate)
    (fits : correspondence.Fits piece) :
    correspondence.holds
      (fun i => collapsedContent (approach i) piece)
      (collapsedContent evaluate piece) :=
  correspondence.returning (onParts.content fits) _

theorem index
    (onParts : correspondence.OnParts approach evaluate)
    (fits : correspondence.Fits piece) :
    correspondence.holds (fun i => index (approach i) piece) (index evaluate piece) :=
  correspondence.returning (onParts.attribute? fits "index") _

/-- Parts that are evaluated in turn correspond if each does. -/
theorem eachInTurn
    (onParts : correspondence.OnParts approach evaluate)
    {parts : List (Part limit)}
    (admitted : ∀ part ∈ parts, correspondence.admits part.val) :
    correspondence.holds
      (fun i => eachInTurn (approach i) parts)
      (eachInTurn evaluate parts) := by
  induction parts with
  | nil =>
      exact correspondence.value []
  | cons part rest inductionHypothesis =>
      simp only [Evaluation.eachInTurn]
      apply correspondence.sequence (onParts part (admitted part (by simp)))
      intro text
      apply correspondence.returning
      apply inductionHypothesis
      intro later member
      exact admitted later (List.mem_cons_of_mem _ member)

/-! ## Conditions and random choices -/

/-- What a condition looks at corresponds. -/
theorem subject?
    (onParts : correspondence.OnParts approach evaluate)
    (fits : correspondence.Fits piece) :
    correspondence.holds (fun i => subject? (approach i) piece) (subject? evaluate piece) := by
  simp only [Evaluation.subject?]
  apply correspondence.sequence (onParts.attribute? fits "var")
  rintro (_ | var)
  · apply correspondence.sequence (onParts.attribute? fits "name")
    rintro (_ | name)
    · exact correspondence.value _
    · exact correspondence.returning (correspondence.reading (.resolve name)) _
  · exact correspondence.returning (correspondence.reading (.localValue var)) _

/-- Choices among items correspond. -/
theorem chooseItem
    (onParts : correspondence.OnParts approach evaluate)
    (subject : Option Text)
    {fallback : Option (Piece limit)}
    {items : List (Piece limit)}
    (fallbackFits : ∀ item ∈ fallback, correspondence.Fits item)
    (itemsFit : ∀ item ∈ items, correspondence.Fits item) :
    correspondence.holds
      (fun i => chooseItem (approach i) subject fallback items)
      (chooseItem evaluate subject fallback items) := by
  induction items generalizing fallback with
  | nil =>
      cases fallback with
      | none =>
          exact correspondence.value []
      | some item =>
          exact onParts.content (fallbackFits item rfl)
  | cons item rest inductionHypothesis =>
      have fits := itemsFit item (by simp)
      have restFit : ∀ other ∈ rest, correspondence.Fits other :=
        fun other member => itemsFit other (List.mem_cons_of_mem _ member)
      simp only [Evaluation.chooseItem]
      apply correspondence.sequence (onParts.subject? fits)
      intro own
      apply correspondence.sequence (onParts.attribute? fits "value")
      rintro (_ | expected)
      · apply inductionHypothesis _ restFit
        intro other isFallback
        cases fallback with
        | none =>
            obtain rfl : item = other := by simpa using isFallback
            exact fits
        | some first =>
            exact fallbackFits other isFallback
      · apply correspondence.either
        · exact onParts.content fits
        · exact inductionHypothesis fallbackFits restFit

/-- A condition corresponds: the same branch is taken, and what stands in it corresponds. -/
theorem condition
    (onParts : correspondence.OnParts approach evaluate)
    (fits : correspondence.Fits piece) :
    correspondence.holds (fun i => condition (approach i) piece) (condition evaluate piece) := by
  simp only [Evaluation.condition]
  apply correspondence.sequence (onParts.subject? fits)
  intro subject
  apply correspondence.sequence (onParts.attribute? fits "value")
  rintro (_ | expected)
  · apply onParts.chooseItem subject
    · simp
    · intro item member
      exact fits.of_mem_elementsTagged member
  · exact correspondence.either (onParts.content fits) (correspondence.value [])

/-- A random item corresponds if drawing one is allowed. -/
theorem randomItem
    (onParts : correspondence.OnParts approach evaluate)
    (fits : correspondence.Fits piece)
    (allows : correspondence.Allows .random) :
    correspondence.holds (fun i => randomItem (approach i) piece) (randomItem evaluate piece) := by
  simp only [Evaluation.randomItem]
  apply correspondence.either
  · exact correspondence.value []
  · apply correspondence.sequence (allows (.pick _))
    intro number
    cases item : (piece.elementsTagged .li)[number]? with
    | none =>
        exact correspondence.value []
    | some item =>
        exact onParts.content (fits.of_mem_elementsTagged (List.mem_of_getElem? item))

/-! ## Variables, lists and maps -/

theorem getVariable
    (onParts : correspondence.OnParts approach evaluate)
    (fits : correspondence.Fits piece) :
    correspondence.holds
      (fun i => getVariable (approach i) piece)
      (getVariable evaluate piece) :=
  correspondence.returning (onParts.subject? fits) _

/-- Setting a variable corresponds if it is allowed. -/
theorem setVariable
    (onParts : correspondence.OnParts approach evaluate)
    (fits : correspondence.Fits piece)
    (allows : correspondence.Allows .set) :
    correspondence.holds
      (fun i => setVariable (approach i) piece)
      (setVariable evaluate piece) := by
  simp only [Evaluation.setVariable]
  apply correspondence.sequence (onParts.attribute? fits "var")
  intro var
  apply correspondence.sequence (onParts.attribute? fits "name")
  intro name
  apply correspondence.sequence (onParts.collapsedContent fits)
  intro value
  cases var with
  | some var =>
      exact correspondence.returning (allows (.setLocal var value)) _
  | none =>
      cases name with
      | some name =>
          exact correspondence.returning (allows (.setVariable name value)) _
      | none =>
          exact correspondence.value []

theorem action
    (onParts : correspondence.OnParts approach evaluate)
    (fits : correspondence.Fits piece) :
    correspondence.holds (fun i => action (approach i) piece) (action evaluate piece) :=
  correspondence.returning (onParts.attribute? fits "action") _

/-- All that is done to lists corresponds if it is allowed. -/
theorem listAction
    (onParts : correspondence.OnParts approach evaluate)
    (fits : correspondence.Fits piece)
    (allows : correspondence.Allows .list) :
    correspondence.holds (fun i => listAction (approach i) piece) (listAction evaluate piece) := by
  simp only [Evaluation.listAction]
  apply correspondence.sequence (onParts.attributeText fits "name")
  intro name
  apply correspondence.sequence (onParts.action fits)
  intro wanted
  apply correspondence.sequence (onParts.attribute? fits "index")
  intro number
  -- One choice for each action, in the order in which they are tested.
  apply correspondence.either
  · apply correspondence.sequence (onParts.collapsedContent fits)
    intro value
    refine correspondence.returning (allows (.editLists _ ?_)) _
    intro session
    split <;> exact ⟨_, rfl⟩
  apply correspondence.either
  · cases number.bind toCount? with
    | none =>
        exact correspondence.reading (.recalled _)
    | some number =>
        exact correspondence.reading (.recalled _)
  apply correspondence.either
  · cases number.bind toCount? with
    | none =>
        apply correspondence.sequence (onParts.collapsedContent fits)
        intro value
        exact correspondence.returning (allows (.editLists _ (listRemoveValue_frame name value))) _
    | some number =>
        exact correspondence.returning (allows (.editLists _ (listRemoveAt_frame name number))) _
  apply correspondence.either
  · apply correspondence.sequence (onParts.collapsedContent fits)
    intro value
    cases number.bind toCount? with
    | none =>
        exact correspondence.value []
    | some number =>
        exact correspondence.returning (allows (.editLists _ (listSet_frame name number value))) _
  apply correspondence.either
  · exact correspondence.reading (.recalled _)
  apply correspondence.either
  · exact correspondence.returning (allows (.editLists _ fun session => ⟨_, rfl⟩)) _
  · exact correspondence.value []

/-- All that is done to maps corresponds if it is allowed. -/
theorem mapAction
    (onParts : correspondence.OnParts approach evaluate)
    (fits : correspondence.Fits piece)
    (allows : correspondence.Allows .map) :
    correspondence.holds (fun i => mapAction (approach i) piece) (mapAction evaluate piece) := by
  simp only [Evaluation.mapAction]
  apply correspondence.sequence (onParts.attributeText fits "name")
  intro name
  apply correspondence.sequence (onParts.action fits)
  intro wanted
  apply correspondence.sequence (onParts.attributeText fits "key")
  intro key
  apply correspondence.either
  · apply correspondence.sequence (onParts.collapsedContent fits)
    intro value
    exact correspondence.returning (allows (.editMaps _ fun session => ⟨_, rfl⟩)) _
  apply correspondence.either
  · exact correspondence.reading (.recalled _)
  apply correspondence.either
  · exact correspondence.returning (allows (.editMaps _ (mapRemove_frame name key))) _
  apply correspondence.either
  · exact correspondence.reading (.recalled _)
  apply correspondence.either
  · exact correspondence.returning (allows (.editMaps _ fun session => ⟨_, rfl⟩)) _
  · exact correspondence.value []

/-! ## Learning -/

mutual

/-- A node is written alike if what asks to be evaluated corresponds. -/
theorem freezeNode
    (onParts : correspondence.OnParts approach evaluate) :
    (node : Node) →
    (within : node.weight < limit) →
    correspondence.admits [node] →
    correspondence.holds
      (fun i => freezeNode (approach i) node within)
      (freezeNode evaluate node within)
  | .text content, _, _ => by
      simp only [Evaluation.freezeNode]
      exact correspondence.value _
  | .element name attributes children selfClosing, within, admitted => by
      have asElement :
          correspondence.admits [Element.toNode ⟨name, attributes, children, selfClosing⟩] :=
        admitted
      have childrenAdmitted := correspondence.admits_children asElement
      simp only [Evaluation.freezeNode]
      apply correspondence.either
      · exact correspondence.returning (onParts _ childrenAdmitted) _
      · apply correspondence.either
        · exact correspondence.returning (correspondence.value []) _
        · exact correspondence.returning (freezeNodes onParts children _ childrenAdmitted) _

/-- Writing nodes corresponds if the evaluators do on the parts that ask to be evaluated. -/
theorem freezeNodes
    (onParts : correspondence.OnParts approach evaluate) :
    (nodes : List Node) →
    (within : nodesWeight nodes < limit) →
    correspondence.admits nodes →
    correspondence.holds
      (fun i => freezeNodes (approach i) nodes within)
      (freezeNodes evaluate nodes within)
  | [], _, _ => by
      simp only [Evaluation.freezeNodes]
      exact correspondence.value []
  | node :: rest, within, admitted => by
      have nodeAdmitted : correspondence.admits [node] :=
        correspondence.admits_sublist (by simp) admitted
      have restAdmitted : correspondence.admits rest :=
        correspondence.admits_sublist (List.sublist_cons_self node rest) admitted
      simp only [Evaluation.freezeNodes]
      apply correspondence.sequence (freezeNode onParts node _ nodeAdmitted)
      intro first
      exact correspondence.returning (freezeNodes onParts rest _ restAdmitted) _

end

theorem categoryField?
    (onParts : correspondence.OnParts approach evaluate)
    (fits : correspondence.Fits piece)
    (name : String) :
    correspondence.holds
      (fun i => categoryField? (approach i) piece name)
      (categoryField? evaluate piece name) := by
  simp only [Evaluation.categoryField?]
  cases field : piece.child? name.toList with
  | none =>
      exact correspondence.value none
  | some child =>
      apply correspondence.returning
      exact onParts _ (correspondence.admits_children (fits.of_child? field))

/-- The category that an element describes corresponds. -/
theorem candidate
    (onParts : correspondence.OnParts approach evaluate)
    (fits : correspondence.Fits piece) :
    correspondence.holds (fun i => candidate (approach i) piece) (candidate evaluate piece) := by
  simp only [Evaluation.candidate]
  apply correspondence.sequence (onParts.categoryField? fits "pattern")
  intro pattern
  apply correspondence.sequence (onParts.categoryField? fits "that")
  intro that
  apply correspondence.sequence (onParts.categoryField? fits "topic")
  intro topic
  cases field : piece.child? "template".toList with
  | none =>
      exact correspondence.returning (correspondence.value []) _
  | some child =>
      apply correspondence.returning
      apply onParts.freezeNodes
      exact correspondence.admits_children (fits.of_child? field)

/-- Categories that are used one after the other correspond if their uses do. -/
theorem eachCandidate
    (onParts : correspondence.OnParts approach evaluate)
    {use : Category → Evaluation Unit}
    (used : ∀ category, correspondence.holds (fun _ => use category) (use category))
    {categories : List (Piece limit)}
    (fit : ∀ category ∈ categories, correspondence.Fits category) :
    correspondence.holds
      (fun i => eachCandidate (approach i) use categories)
      (eachCandidate evaluate use categories) := by
  induction categories with
  | nil =>
      exact correspondence.value ()
  | cons category rest inductionHypothesis =>
      simp only [Evaluation.eachCandidate]
      apply correspondence.sequence (onParts.candidate (fit category (by simp)))
      intro described
      apply correspondence.sequence (used described)
      intro _
      apply inductionHypothesis
      intro later member
      exact fit later (List.mem_cons_of_mem _ member)

/-- Teaching corresponds if what is done with each category does. -/
theorem teach
    (onParts : correspondence.OnParts approach evaluate)
    (fits : correspondence.Fits piece)
    {use : Category → Evaluation Unit}
    (used : ∀ category, correspondence.holds (fun _ => use category) (use category)) :
    correspondence.holds (fun i => teach (approach i) use piece) (teach evaluate use piece) := by
  apply correspondence.returning
  apply onParts.eachCandidate used
  intro category member
  exact fits.of_mem_elements (List.mem_filter.mp member).1

/-! ## All tags -/

theorem captured
    (onParts : correspondence.OnParts approach evaluate)
    (fits : correspondence.Fits piece)
    (captures : Bindings → List Text) :
    correspondence.holds
      (fun i => captured (approach i) piece captures)
      (captured evaluate piece captures) :=
  correspondence.sequence (onParts.index fits) fun _ => correspondence.reading (.bound _)

/-- What was said or answered before corresponds. -/
theorem remembered
    (onParts : correspondence.OnParts approach evaluate)
    (fits : correspondence.Fits piece)
    (history : Session → Nat → Option Text) :
    correspondence.holds
      (fun i => remembered (approach i) piece history)
      (remembered evaluate piece history) :=
  correspondence.sequence (onParts.index fits) fun _ => correspondence.reading (.recalled _)

theorem contentOrStar
    (onParts : correspondence.OnParts approach evaluate)
    (fits : correspondence.Fits piece) :
    correspondence.holds
      (fun i => contentOrStar (approach i) piece)
      (contentOrStar evaluate piece) :=
  correspondence.either (correspondence.reading (.bound _)) (onParts.content fits)

/-- Counting how often something stands in a text corresponds. -/
theorem countIn
    (onParts : correspondence.OnParts approach evaluate)
    (fits : correspondence.Fits piece) :
    correspondence.holds (fun i => countIn (approach i) piece) (countIn evaluate piece) := by
  simp only [Evaluation.countIn]
  apply correspondence.sequence (onParts.attribute? fits "mode")
  intro mode
  apply correspondence.sequence (onParts.attributeText fits "search")
  intro search
  apply correspondence.sequence (onParts.content fits)
  intro text
  exact correspondence.either (correspondence.value _) (correspondence.value _)

theorem joinedChildren
    (onParts : correspondence.OnParts approach evaluate)
    (fits : correspondence.Fits piece) :
    correspondence.holds
      (fun i => joinedChildren (approach i) piece)
      (joinedChildren evaluate piece) :=
  correspondence.returning (onParts.eachInTurn fun _ => fits.eachChild) _

/-- An element without a meaning of its own is written with its content, which corresponds. -/
theorem passThrough
    (onParts : correspondence.OnParts approach evaluate)
    (fits : correspondence.Fits piece) :
    correspondence.holds
      (fun i => passThrough (approach i) piece)
      (passThrough evaluate piece) := by
  simp only [Evaluation.passThrough]
  apply correspondence.either
  · exact correspondence.returning (correspondence.value []) _
  · exact correspondence.returning (onParts _ (correspondence.admits_children fits)) _

/-- Elements with a tag correspond. -/
theorem performTag
    (onParts : correspondence.OnParts approach evaluate)
    {approachAnswer : ι → Text → Evaluation Text}
    {answer : Text → Evaluation Text}
    (answers : ∀ input, correspondence.holds (fun i => approachAnswer i input) (answer input))
    (fits : correspondence.Fits piece)
    {tag : Tag}
    (allows : correspondence.Allows tag) :
    correspondence.holds
      (fun i => performTag (approach i) (approachAnswer i) piece tag)
      (performTag evaluate answer piece tag) := by
  have content := onParts.content fits
  cases tag with
  | get =>
      exact onParts.getVariable fits
  | set =>
      exact onParts.setVariable fits allows
  | bot =>
      apply correspondence.sequence (onParts.attributeText fits "name")
      intro name
      exact correspondence.reading (.property name)
  | star | thatstar | topicstar =>
      exact onParts.captured fits _
  | input | request | response =>
      exact onParts.remembered fits _
  | that =>
      apply correspondence.sequence (onParts.attributeText fits "index")
      intro position
      exact correspondence.reading (.recalled _)
  | condition =>
      exact onParts.condition fits
  | random =>
      exact onParts.randomItem fits allows
  | think =>
      exact correspondence.returning content _
  | li | eval =>
      exact content
  | srai =>
      exact correspondence.sequence content answers
  | sr =>
      exact correspondence.sequence (correspondence.reading (.bound _)) answers
  | learn =>
      exact onParts.teach fits fun category => allows (.learn category)
  | unlearn =>
      exact onParts.teach fits fun category => allows (.unlearn category)
  | uppercase | lowercase | formal | sentence | word | subj | pred | obj =>
      exact correspondence.returning content _
  | person | person2 | gender =>
      exact correspondence.returning (onParts.contentOrStar fits) _
  | substring =>
      apply correspondence.sequence (onParts.attribute? fits "start")
      intro start
      apply correspondence.sequence (onParts.attribute? fits "end")
      intro stop
      exact correspondence.returning content _
  | replace =>
      apply correspondence.sequence (onParts.attributeText fits "search")
      intro search
      apply correspondence.sequence (onParts.attributeText fits "replace")
      intro replacement
      exact correspondence.returning content _
  | length =>
      apply correspondence.sequence (onParts.attribute? fits "mode")
      intro mode
      exact correspondence.returning content _
  | count =>
      exact onParts.countIn fits
  | list =>
      exact onParts.listAction fits allows
  | map =>
      exact onParts.mapAction fits allows
  | uniq =>
      exact onParts.joinedChildren fits

/-- Elements correspond. -/
theorem perform
    (onParts : correspondence.OnParts approach evaluate)
    {approachAnswer : ι → Text → Evaluation Text}
    {answer : Text → Evaluation Text}
    (answers : ∀ input, correspondence.holds (fun i => approachAnswer i input) (answer input))
    (fits : correspondence.Fits piece) :
    correspondence.holds
      (fun i => perform (approach i) (approachAnswer i) piece)
      (perform evaluate answer piece) := by
  simp only [Evaluation.perform]
  cases isTag : piece.tag? with
  | none =>
      exact onParts.passThrough fits
  | some tag =>
      exact onParts.performTag answers fits fun step => correspondence.change fits isTag step

end OnParts

end Correspondence

end Colloquy.Evaluation
