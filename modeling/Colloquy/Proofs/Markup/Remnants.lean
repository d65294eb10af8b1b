import Colloquy.Proofs.Markup.Marks
import Colloquy.Proofs.Markup.Pairing

namespace Colloquy.Markup

/-!
# The text of a tree

The text of a tree is what the lexemes leave, in their order: text is decoded,
comments, self-closing tags and tags that are paired leave nothing, and tags that
are not paired stay as they were written. So no text is lost, doubled or moved,
however far an element that falls back to text is moved up.
-/

/-! ## What lexemes leave -/

/-- What a lexeme leaves in the text of a tree, depending on whether it belongs to a pair. -/
def Lexeme.remnant (paired : Bool) : Lexeme → Text
  | .text source => decodeEntities source
  | .comment _ => []
  | .opening _ _ source => if paired then [] else source
  | .closing _ source => if paired then [] else source
  | .standalone _ _ _ => []

/-- What lexemes leave in the text of a tree, in their order. -/
def unpairedText
    (lexemes : List Lexeme)
    (pairing : Pairing) :
    Text :=
  lexemes.zipIdx.flatMap fun (lexeme, position) =>
    lexeme.remnant (isPaired lexemes pairing position)

/-- What the lexemes before a position leave. -/
def textBefore
    (lexemes : List Lexeme)
    (paired : Nat → Bool)
    (position : Nat) :
    Text :=
  (lexemes.zipIdx.take position).flatMap fun (lexeme, position) =>
    lexeme.remnant (paired position)

/-- One lexeme more leaves its remnant behind. -/
theorem textBefore_succ
    {lexemes : List Lexeme}
    {position : Nat}
    {lexeme : Lexeme}
    (present : lexemes[position]? = some lexeme)
    (paired : Nat → Bool) :
    textBefore lexemes paired (position + 1) =
      textBefore lexemes paired position ++ lexeme.remnant (paired position) := by
  have numbered : lexemes.zipIdx[position]? = some (lexeme, position) := by
    simp [List.getElem?_zipIdx, present]
  simp [textBefore, List.take_add_one, numbered]

/-- Before the end stands all that no pairing takes. -/
theorem textBefore_length
    (lexemes : List Lexeme)
    (pairing : Pairing) :
    textBefore lexemes (isPaired lexemes pairing) lexemes.length =
      unpairedText lexemes pairing := by
  rw [textBefore, List.take_of_length_le (by simp), unpairedText]

/-! ## The text of nodes that are being read -/

theorem flattenNodes_append
    (first second : List Node) :
    flattenNodes (first ++ second) = flattenNodes first ++ flattenNodes second := by
  induction first with
  | nil =>
      rfl
  | cons node rest inductionHypothesis =>
      simp only [List.cons_append, flattenNodes, inductionHypothesis, List.append_assoc]

/-- The text of nodes that are kept newest first. -/
def textNewest (nodes : List Node) : Text :=
  flattenNodes nodes.reverse

theorem textNewest_cons
    (node : Node)
    (nodes : List Node) :
    textNewest (node :: nodes) = textNewest nodes ++ node.flatten := by
  simp [textNewest, flattenNodes_append, flattenNodes]

theorem textNewest_pushText
    (text : Text)
    (nodes : List Node) :
    textNewest (pushText text nodes) = textNewest nodes ++ text := by
  unfold pushText
  split
  · next empty =>
      simp [List.isEmpty_iff.mp empty]
  · split
    · simp [textNewest_cons, Node.flatten]
    · simp [textNewest_cons, Node.flatten]

theorem textNewest_pushNode
    (node : Node)
    (nodes : List Node) :
    textNewest (pushNode node nodes) = textNewest nodes ++ node.flatten := by
  cases node with
  | text content =>
      exact textNewest_pushText content nodes
  | element name attributes children selfClosing =>
      exact textNewest_cons _ nodes

/-- The text of an element that falls back to text. -/
def OpenElement.fallback (element : OpenElement) : Text :=
  element.source ++ textNewest element.children

/-- An element that is never closed leaves its tag and what is in it. -/
theorem textNewest_degrade
    (element : OpenElement)
    (nodes : List Node) :
    textNewest (element.degrade nodes) = textNewest nodes ++ element.fallback := by
  rw [OpenElement.degrade, OpenElement.fallback]
  generalize element.children = children
  induction children with
  | nil =>
      exact (textNewest_pushText element.source nodes).trans (by simp [textNewest, flattenNodes])
  | cons child rest inductionHypothesis =>
      rw [List.foldr_cons, textNewest_pushNode, inductionHypothesis, textNewest_cons]
      simp only [List.append_assoc]

/-- Elements that are never closed leave their tags and what is in them, from the outside in. -/
theorem textNewest_foldr_degrade
    (openElements : List OpenElement)
    (nodes : List Node) :
    textNewest (openElements.foldr OpenElement.degrade nodes) =
      textNewest nodes ++ openElements.reverse.flatMap OpenElement.fallback := by
  induction openElements with
  | nil =>
      simp
  | cons element outer inductionHypothesis =>
      rw [List.foldr_cons, textNewest_degrade, inductionHypothesis]
      simp

/-- An element that is closed adds its text and what the elements open inside of it leave. -/
theorem textNewest_closed
    (element : OpenElement)
    (inner : List OpenElement)
    (nodes : List Node) :
    textNewest (.element element.name element.attributes
        (inner.foldr OpenElement.degrade element.children).reverse false :: nodes) =
      textNewest nodes ++
        (textNewest element.children ++ inner.reverse.flatMap OpenElement.fallback) := by
  rw [textNewest_cons, Node.flatten, ← textNewest, textNewest_foldr_degrade]

/-! ## Reading -/

/--
The text of open elements, outermost first, each with the position of its opening
tag, which leaves nothing if it is going to be paired.
-/
def openText
    (paired : Nat → Bool)
    (tags : List (OpenElement × Nat)) :
    Text :=
  tags.reverse.flatMap fun (element, position) =>
    (if paired position then [] else element.source) ++ textNewest element.children

theorem openText_cons
    (paired : Nat → Bool)
    (element : OpenElement)
    (position : Nat)
    (tags : List (OpenElement × Nat)) :
    openText paired ((element, position) :: tags) =
      openText paired tags ++
        ((if paired position then [] else element.source) ++ textNewest element.children) := by
  simp [openText]

/-- The text inside follows that of the elements around it. -/
theorem openText_append
    (paired : Nat → Bool)
    (inner outer : List (OpenElement × Nat)) :
    openText paired (inner ++ outer) = openText paired outer ++ openText paired inner := by
  simp [openText]

/-- Elements whose opening tags are unpaired fall back to text. -/
theorem openText_of_unpaired
    {paired : Nat → Bool}
    {openElements : List OpenElement}
    {positions : List Nat}
    (aligned : openElements.length = positions.length)
    (unpaired : ∀ position ∈ positions, paired position = false) :
    openText paired (openElements.zip positions) =
      openElements.reverse.flatMap OpenElement.fallback := by
  induction openElements generalizing positions with
  | nil =>
      rfl
  | cons element outer inductionHypothesis =>
      cases positions with
      | nil =>
          contradiction
      | cons position positions =>
          obtain ⟨here, later⟩ := List.forall_mem_cons.mp unpaired
          rw [List.zip_cons_cons, openText_cons,
            inductionHypothesis (Nat.succ.inj aligned) later, here]
          simp [OpenElement.fallback]

namespace Nesting

/-- The text of what has been read, with the positions of the tags that are open. -/
def text
    (nesting : Nesting)
    (paired : Nat → Bool)
    (positions : List Nat) :
    Text :=
  textNewest nesting.roots ++ openText paired (nesting.openElements.zip positions)

/-- A change that adds text to the innermost nodes adds it at the end. -/
theorem text_modifyInnermost
    {nesting : Nesting}
    {positions : List Nat}
    (aligned : nesting.openElements.length = positions.length)
    (paired : Nat → Bool)
    {change : List Node → List Node}
    {added : Text}
    (adds : ∀ nodes, textNewest (change nodes) = textNewest nodes ++ added) :
    (nesting.modifyInnermost change).text paired positions =
      nesting.text paired positions ++ added := by
  obtain ⟨openElements, roots⟩ := nesting
  cases openElements with
  | nil =>
      simp [modifyInnermost, text, openText, adds]
  | cons element outer =>
      cases positions with
      | nil =>
          contradiction
      | cons position positions =>
          simp [modifyInnermost, text, openText_cons, adds]

/-- A tag that is going to be paired leaves nothing; those that are open inside of it are given up. -/
theorem Closes.text
    {nesting : Nesting}
    {name : Text}
    {inner outer : List OpenElement}
    {element : OpenElement}
    (closes : nesting.Closes name inner element outer)
    {paired : Nat → Bool}
    {innerPositions outerPositions : List Nat}
    {partner : Nat}
    (aligned : inner.length = innerPositions.length)
    (isPaired : paired partner = true)
    (givenUp : ∀ position ∈ innerPositions, paired position = false) :
    nesting.text paired (innerPositions ++ partner :: outerPositions) =
      Nesting.text ⟨outer, nesting.roots⟩ paired outerPositions ++
        (textNewest element.children ++ inner.reverse.flatMap OpenElement.fallback) := by
  rw [Nesting.text, closes.shape, List.zip_append aligned, List.zip_cons_cons, openText_append,
    openText_cons, openText_of_unpaired aligned givenUp, isPaired]
  simp [Nesting.text]

/-- Where no open element has a name, no tag that is still open has it. -/
theorem openedAt?_ne_of_names
    {lexemes : List Lexeme}
    {positions : List Nat}
    {openElements : List OpenElement}
    (names : positions.map (openedAt? lexemes) = (openElements.map (·.name)).map some)
    {name : Text}
    (others : ∀ other ∈ openElements, other.name ≠ name)
    {start : Nat}
    (member : start ∈ positions) :
    openedAt? lexemes start ≠ some name := by
  have listed := List.mem_map_of_mem member (f := openedAt? lexemes)
  rw [names, List.map_map] at listed
  obtain ⟨other, isOpen, isNamed⟩ := List.mem_map.mp listed
  rw [← isNamed]
  intro same
  exact others other isOpen (Option.some.inj same)

/--
The lexemes before a position have been read: the open elements are those whose
tags are still open, and the text is what these lexemes leave. Which tags are
paired is told by all lexemes, so that it is known before the closing tag is read.
-/
structure HasRead
    (nesting : Nesting)
    (lexemes : List Lexeme)
    (position : Nat) :
    Prop where
  names :
    (stillOpen lexemes position).map (openedAt? lexemes) =
      (nesting.openElements.map (·.name)).map some
  text :
    nesting.text (isPaired lexemes (partner? lexemes)) (stillOpen lexemes position) =
      textBefore lexemes (isPaired lexemes (partner? lexemes)) position

namespace HasRead

variable
  {nesting : Nesting}
  {lexemes : List Lexeme}
  {position : Nat}
  (hasRead : nesting.HasRead lexemes position)

include hasRead

theorem aligned :
    nesting.openElements.length = (stillOpen lexemes position).length := by
  simpa using (congrArg List.length hasRead.names).symm

/-- The open element that a closing tag closes is the one that the pairing tells. -/
theorem partner_of_closes
    {name : Text}
    {inner outer : List OpenElement}
    {element : OpenElement}
    (closes : nesting.Closes name inner element outer)
    (closed : closedAt? lexemes position = some name) :
    ∃ innerPositions partner outerPositions,
      stillOpen lexemes position = innerPositions ++ partner :: outerPositions ∧
        inner.length = innerPositions.length ∧
        outerPositions.map (openedAt? lexemes) = (outer.map (·.name)).map some ∧
        partner? lexemes position = some partner := by
  have names := hasRead.names
  rw [closes.shape, List.map_append, List.map_append, List.map_cons, List.map_cons] at names
  obtain ⟨innerPositions, fromPartner, shape, innerNames, partnerNames⟩ :=
    List.map_eq_append_iff.mp names
  obtain ⟨partner, outerPositions, rfl, partnerName, outerNames⟩ :=
    List.map_eq_cons_iff.mp partnerNames
  refine ⟨innerPositions, partner, outerPositions, shape, ?_, outerNames, ?_⟩
  · simpa using (congrArg List.length innerNames).symm
  · rw [partner?, partnerAmong?, closed, Option.bind_some, List.find?_eq_some_iff_append]
    refine ⟨by simpa [closes.named] using partnerName, innerPositions, outerPositions, shape, ?_⟩
    intro start member
    simpa using openedAt?_ne_of_names innerNames closes.others member

/-- A closing tag without an open element of its name is unpaired. -/
theorem unpaired_of_forall_ne
    {name : Text}
    (others : ∀ other ∈ nesting.openElements, other.name ≠ name)
    (closed : closedAt? lexemes position = some name) :
    partner? lexemes position = none := by
  rw [partner?, partnerAmong?, closed, Option.bind_some, List.find?_eq_none]
  intro start member
  simpa using openedAt?_ne_of_names hasRead.names others member

/-- A lexeme that neither opens nor closes an element adds what it leaves. -/
theorem modifyInnermost
    {lexeme : Lexeme}
    (present : lexemes[position]? = some lexeme)
    (sameOpen : stillOpen lexemes (position + 1) = stillOpen lexemes position)
    {change : List Node → List Node}
    (adds : ∀ nodes, textNewest (change nodes) =
      textNewest nodes ++ lexeme.remnant (isPaired lexemes (partner? lexemes) position)) :
    (nesting.modifyInnermost change).HasRead lexemes (position + 1) := by
  constructor
  · rw [sameOpen, hasRead.names, names_modifyInnermost]
  · rw [sameOpen, text_modifyInnermost hasRead.aligned _ adds, hasRead.text,
      textBefore_succ present]

/-- Reading an opening tag goes on with one more element open. -/
theorem opening
    {name source : Text}
    {attributes : List Attribute}
    (present : lexemes[position]? = some (.opening name attributes source)) :
    (nesting.read (.opening name attributes source)).HasRead lexemes (position + 1) := by
  have opened : openedAt? lexemes position = some name := by
    rw [openedAt?, present]
    rfl
  have starts := stillOpen_succ_of_opened (Option.isSome_iff_exists.mpr ⟨name, opened⟩)
  constructor
  · rw [starts, List.map_cons, opened, hasRead.names]
    rfl
  · rw [starts, textBefore_succ present, ← hasRead.text]
    simp [read, Nesting.text, openText_cons, textNewest, flattenNodes, Lexeme.remnant]

/-- A closing tag that closes an element leaves nothing, and neither does its opening tag. -/
theorem closing_of_closes
    {name source : Text}
    {inner outer : List OpenElement}
    {element : OpenElement}
    (closes : nesting.Closes name inner element outer)
    (present : lexemes[position]? = some (.closing name source)) :
    (nesting.close name source).HasRead lexemes (position + 1) := by
  have isPairing := isPairing_partner? lexemes
  have opensNothing := openedAt?_of_closing present
  obtain ⟨innerPositions, partner, outerPositions, shape, innerAligned, outerNames, paired⟩ :=
    hasRead.partner_of_closes closes (closedAt?_of_closing present)
  have outerAligned : outer.length = outerPositions.length := by
    simpa using (congrArg List.length outerNames).symm
  have left := stillOpen_succ_of_paired paired opensNothing shape
  rw [closes.close_eq]
  constructor
  · rw [left, outerNames, names_modifyInnermost]
  · have innerUnpaired := isPaired_eq_false_of_inside paired shape
    have startPaired := isPaired_of_partner isPairing paired
    have stopPaired : isPaired lexemes (partner? lexemes) position = true := by
      rw [isPaired_eq_isSome isPairing opensNothing, paired]
      rfl
    rw [left, text_modifyInnermost outerAligned _ (textNewest_closed element inner),
      ← closes.text innerAligned startPaired innerUnpaired, ← shape, hasRead.text,
      textBefore_succ present, stopPaired]
    exact (List.append_nil _).symm

/-- A closing tag that closes nothing stays as it was written. -/
theorem closing_of_forall_ne
    {name source : Text}
    (others : ∀ other ∈ nesting.openElements, other.name ≠ name)
    (present : lexemes[position]? = some (.closing name source)) :
    (nesting.close name source).HasRead lexemes (position + 1) := by
  have opensNothing := openedAt?_of_closing present
  have unpaired := hasRead.unpaired_of_forall_ne others (closedAt?_of_closing present)
  rw [close_of_forall_ne others]
  refine hasRead.modifyInnermost present (stillOpen_succ_of_unpaired unpaired opensNothing) ?_
  intro nodes
  rw [textNewest_pushText, isPaired_eq_isSome (isPairing_partner? lexemes) opensNothing, unpaired]
  rfl

/-- Reading the next lexeme adds what it leaves. -/
theorem read
    {lexeme : Lexeme}
    (present : lexemes[position]? = some lexeme) :
    (nesting.read lexeme).HasRead lexemes (position + 1) := by
  have sameOpen
      (opensNothing : lexeme.opened? = none)
      (closesNothing : lexeme.closed? = none) :
      stillOpen lexemes (position + 1) = stillOpen lexemes position := by
    refine stillOpen_succ_of_unpaired (partner?_eq_none_of_closedAt? ?_) ?_
    · rw [closedAt?, present, Option.bind_some, closesNothing]
    · rw [openedAt?, present, Option.bind_some, opensNothing]
  cases lexeme with
  | text source =>
      refine hasRead.modifyInnermost present (sameOpen rfl rfl) ?_
      exact textNewest_pushText _
  | comment source =>
      constructor
      · rw [sameOpen rfl rfl, Nesting.read, hasRead.names]
      · rw [sameOpen rfl rfl, Nesting.read, hasRead.text, textBefore_succ present]
        exact (List.append_nil _).symm
  | opening name attributes source =>
      exact hasRead.opening present
  | closing name source =>
      rcases nesting.closes_or_forall_ne name with ⟨inner, element, outer, closes⟩ | others
      · exact hasRead.closing_of_closes closes present
      · exact hasRead.closing_of_forall_ne others present
  | standalone name attributes source =>
      refine hasRead.modifyInnermost present (sameOpen rfl rfl) ?_
      intro nodes
      rw [textNewest_cons]
      rfl

end HasRead

/-- After some lexemes, the nesting is what they make. -/
theorem hasRead_foldl_take
    (lexemes : List Lexeme)
    {position : Nat}
    (inside : position ≤ lexemes.length) :
    ((lexemes.take position).foldl read empty).HasRead lexemes position := by
  induction position with
  | zero =>
      exact ⟨rfl, rfl⟩
  | succ position inductionHypothesis =>
      have present := List.getElem?_eq_getElem inside
      rw [List.take_add_one, present, Option.toList_some, List.foldl_append]
      exact (inductionHypothesis (Nat.le_of_succ_le inside)).read present

/-- At the end, what is still open falls back to text. -/
theorem HasRead.flattenNodes_finish
    {nesting : Nesting}
    {lexemes : List Lexeme}
    (hasRead : nesting.HasRead lexemes lexemes.length) :
    flattenNodes nesting.finish = unpairedText lexemes (partner? lexemes) := by
  have unpaired : ∀ start ∈ stillOpen lexemes lexemes.length,
      isPaired lexemes (partner? lexemes) start = false := by
    intro start member
    exact isPaired_eq_false_of_leavesOpen_length (isPairing_partner? lexemes)
      (mem_stillOpen_iff.mp member)
  calc flattenNodes nesting.finish
    _ = textNewest nesting.roots ++ nesting.openElements.reverse.flatMap OpenElement.fallback :=
        textNewest_foldr_degrade nesting.openElements nesting.roots
    _ = nesting.text (isPaired lexemes (partner? lexemes)) (stillOpen lexemes lexemes.length) := by
        rw [Nesting.text, openText_of_unpaired hasRead.aligned unpaired]
    _ = unpairedText lexemes (partner? lexemes) := by
        rw [hasRead.text, textBefore_length]

end Nesting

/--
The tags of a text have exactly one pairing, and the text of its tree is what
this pairing makes its lexemes leave.
-/
theorem parse_keepsUnpairedText (text : Text) :
    (∀ pairing, IsPairing (lexemes text) pairing ↔ pairing = partner? (lexemes text)) ∧
      flattenNodes (parse text) = unpairedText (lexemes text) (partner? (lexemes text)) := by
  have isPairing := isPairing_partner? (lexemes text)
  constructor
  · intro pairing
    constructor
    · intro other
      exact other.unique isPairing
    · rintro rfl
      exact isPairing
  · have hasRead := Nesting.hasRead_foldl_take (lexemes text) (Nat.le_refl _)
    rw [List.take_length] at hasRead
    exact hasRead.flattenNodes_finish

/-- An overlap: the tag that was opened inside is given up, and its closing tag finds nothing. -/
example :
    let tags := lexemes "<a>1<b>2</a>3</b>".toList
    unpairedText tags (partner? tags) = "1<b>23</b>".toList := by
  decide +kernel

end Colloquy.Markup
