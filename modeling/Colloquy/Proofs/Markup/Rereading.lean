import Colloquy.Proofs.Markup.Marks
import Colloquy.Proofs.Markup.NormalForm

namespace Colloquy.Markup

/-!
# Reading back a tree that was read

A tree that was read from a text is in normal form, so it is read back from its
own markup if its attribute values are. It is not read back otherwise: a value
that a numeric entity gave a line break, or one that escaping made too long, is
written as a tag that is no tag any more. Each tag begins with a bracket of its
own, and brackets are written for nothing else, so a bracket that begins no tag
means that a tag is missing.
-/

/-! ## Brackets that begin no tag -/

/-- The tags of a text are the one that may begin it and those behind. -/
theorem tagsIn_cons
    (c : Char)
    (rest : Text) :
    tagsIn (c :: rest) =
      (nextLexeme c rest).1.mark?.toList ++ tagsIn (nextLexeme c rest).2 := by
  rw [tagsIn, lexemes]
  exact filterMap_mark?_cons _ _

/-- A tag begins with a bracket. -/
theorem eq_less_and_tag?_isSome
    {c : Char}
    {rest : Text}
    (isTag : (nextLexeme c rest).1.mark?.isSome = true) :
    c = '<' ∧ (tag? rest).isSome = true := by
  revert isTag
  fun_cases nextLexeme c rest with
  | case1 =>
      simp [Lexeme.mark?]
  | case2 =>
      simp [Lexeme.mark?]
  | case3 =>
      simp [Lexeme.mark?]
  | case4 isOpen _ lexeme after found =>
      intro _
      exact ⟨Decidable.not_not.mp isOpen, by simp [found]⟩
  | case5 =>
      simp [Lexeme.mark?]

/-- At most one tag begins at a character, and only at a less-than sign. -/
theorem length_toList_mark?_le
    (c : Char)
    (rest : Text) :
    (nextLexeme c rest).1.mark?.toList.length ≤ [c].count '<' := by
  cases isTag : (nextLexeme c rest).1.mark? with
  | none =>
      simp
  | some mark =>
      have opens : c = '<' ∧ (tag? rest).isSome = true :=
        eq_less_and_tag?_isSome (by simp [isTag])
      simp [opens.1]

/-- A lexeme takes the first character and some of those that follow, with their brackets. -/
theorem exists_append_nextLexeme
    (c : Char)
    (rest : Text) :
    ∃ taken,
      taken ++ (nextLexeme c rest).2 = rest ∧
        (c :: rest).count '<' =
          [c].count '<' + taken.count '<' + (nextLexeme c rest).2.count '<' := by
  obtain ⟨nonempty, tiles⟩ := nextLexeme_source c rest
  obtain ⟨first, taken, shape⟩ := List.exists_cons_of_ne_nil nonempty
  rw [shape, List.cons_append, List.cons.injEq] at tiles
  refine ⟨taken, tiles.2, ?_⟩
  rw [← List.count_append, ← List.count_append, List.append_assoc, tiles.2,
    List.singleton_append]

/-- There are at most as many tags as brackets. -/
theorem length_tagsIn_le (text : Text) : (tagsIn text).length ≤ text.count '<' := by
  induction text using lexemes.induct with
  | case1 =>
      simp [tagsIn, lexemes]
  | case2 c rest step inductionHypothesis =>
      obtain ⟨taken, _, total⟩ := exists_append_nextLexeme c rest
      have here := length_toList_mark?_le c rest
      have later : (tagsIn (nextLexeme c rest).2).length ≤ (nextLexeme c rest).2.count '<' :=
        inductionHypothesis
      rw [tagsIn_cons, List.length_append, total]
      omega

/-- No tag begins at one of the brackets of a text. -/
inductive LosesTag : Text → Prop where
  | here
      {after : Text}
      (noTag : tag? after = none) :
      LosesTag ('<' :: after)
  | later
      (c : Char)
      {rest : Text}
      (loses : LosesTag rest) :
      LosesTag (c :: rest)

namespace LosesTag

/-- A tag that is lost stays lost with more before it. -/
theorem append_left
    {text : Text}
    (loses : LosesTag text)
    (first : Text) :
    LosesTag (first ++ text) := by
  induction first with
  | nil =>
      exact loses
  | cons c rest inductionHypothesis =>
      exact .later c inductionHypothesis

/-- A tag is lost before or behind, and before only where one could begin. -/
theorem mem_or_of_append
    {first second : Text}
    (loses : LosesTag (first ++ second)) :
    '<' ∈ first ∨ LosesTag second := by
  induction first with
  | nil =>
      exact .inr loses
  | cons c rest inductionHypothesis =>
      cases loses with
      | here noTag =>
          exact .inl (by simp)
      | later _ loses =>
          exact (inductionHypothesis loses).imp_left (List.mem_cons_of_mem c)

/-- If no tag begins at one of the brackets, there are fewer tags than brackets. -/
theorem length_tagsIn_lt
    {text : Text}
    (loses : LosesTag text) :
    (tagsIn text).length < text.count '<' := by
  induction text using lexemes.induct with
  | case1 =>
      cases loses
  | case2 c rest step inductionHypothesis =>
      obtain ⟨taken, tiles, total⟩ := exists_append_nextLexeme c rest
      have here := length_toList_mark?_le c rest
      have atMost := length_tagsIn_le (nextLexeme c rest).2
      rw [tagsIn_cons, List.length_append, total]
      cases loses with
      | here noTag =>
          have noMark : (nextLexeme '<' rest).1.mark? = none := by
            by_contra isTag
            have found := (eq_less_and_tag?_isSome (Option.isSome_iff_ne_none.mpr isTag)).2
            simp [noTag] at found
          simp only [noMark, Option.toList_none, List.length_nil, List.count_singleton_self]
          omega
      | later _ loses =>
          rw [← tiles] at loses
          -- The bracket stands inside the lexeme, where no tag begins, or after it.
          rcases loses.mem_or_of_append with inside | after
          · have extra : 0 < taken.count '<' := List.count_pos_iff.mpr inside
            omega
          · have fewer : (tagsIn (nextLexeme c rest).2).length <
                (nextLexeme c rest).2.count '<' := inductionHypothesis after
            omega

end LosesTag

/-! ## Brackets that are written -/

theorem less_not_mem_of_isName
    {name : Text}
    (named : isName name = true) :
    '<' ∉ name :=
  fun member => ne_of_isNameChar (isNameChar_of_mem named member) (by decide) rfl

/-- A written attribute holds no less-than sign. -/
theorem less_not_mem_renderAttribute
    {entry : Attribute}
    (named : isName entry.1 = true) :
    '<' ∉ renderAttribute entry := by
  have notInValue : '<' ∉ escapeAttribute entry.2 :=
    fun member => (plain_of_mem_flatMap_escapeChar (by simp) member).2.1 rfl
  simp [renderAttribute, less_not_mem_of_isName named, notInValue]

/-- A tag is written with one bracket. -/
theorem count_less_renderStart
    {name : Text}
    (named : isName name = true)
    {attributes : List Attribute}
    (attributesNamed : ∀ entry ∈ attributes, isName entry.1 = true)
    (selfClosing : Bool) :
    (renderStart name attributes selfClosing).count '<' = 1 := by
  have notInside : '<' ∉ startInside name attributes selfClosing ++ ['>'] := by
    have notInAttributes : ∀ entry ∈ attributes, '<' ∉ renderAttribute entry :=
      fun entry member => less_not_mem_renderAttribute (attributesNamed entry member)
    cases selfClosing <;>
      simpa [startInside, less_not_mem_of_isName named] using notInAttributes
  rw [renderStart_eq, List.count_cons_self, List.count_eq_zero.mpr notInside]

theorem count_less_renderEnd
    {name : Text}
    (named : isName name = true) :
    (renderEnd name false).count '<' = 1 := by
  have notInside : '<' ∉ '/' :: (name ++ ['>']) := by
    simp [less_not_mem_of_isName named]
  calc
    (renderEnd name false).count '<' = ('<' :: '/' :: (name ++ ['>'])).count '<' := rfl
    _ = 1 := by rw [List.count_cons_self, List.count_eq_zero.mpr notInside]

mutual

/-- A node is written with one less-than sign for each of its tags. -/
theorem count_less_render :
    (node : Node) →
    node.isNormal = true →
    node.render.count '<' = node.marks.length
  | .text content, _ => by
      simp [Node.render, Node.marks, List.count_eq_zero.mpr (less_not_mem_escapeText content)]
  | .element name attributes children selfClosing, normal => by
      simp only [Node.isNormal, Bool.and_eq_true, List.all_eq_true] at normal
      obtain ⟨⟨⟨named, attributesNamed⟩, closed⟩, childrenNormal⟩ := normal
      have start := count_less_renderStart named attributesNamed selfClosing
      have inside := count_less_renderNodes children childrenNormal
      cases selfClosing with
      | true =>
          obtain rfl : children = [] := by
            simpa using closed
          simp [Node.render, Node.marks, marksOf, renderEnd, start]
      | false =>
          simp only [Node.render, Node.marks, Bool.false_eq_true, if_false, List.count_append,
            start, inside, count_less_renderEnd named, List.length_cons, List.length_append,
            List.length_nil]
          omega

/-- Normal nodes are written with one bracket for each of their tags. -/
theorem count_less_renderNodes :
    (nodes : List Node) →
    areNormal nodes = true →
    (renderNodes nodes).count '<' = (marksOf nodes).length
  | [], _ => rfl
  | node :: rest, normal => by
      simp only [areNormal, Bool.and_eq_true] at normal
      rw [renderNodes, marksOf, List.count_append, List.length_append,
        count_less_render node normal.1.1, count_less_renderNodes rest normal.2]

end

/-- A tag with a value that is not read back is no tag. -/
theorem losesTag_renderStart
    {name : Text}
    (named : isName name = true)
    {attributes : List Attribute}
    (attributesNamed : ∀ entry ∈ attributes, isName entry.1 = true)
    (unreadable : attributesReadable attributes = false)
    (selfClosing : Bool)
    (rest : Text) :
    LosesTag (renderStart name attributes selfClosing ++ rest) := by
  have split := splitTag?_startInside named attributesNamed selfClosing rest
  rw [unreadable] at split
  rw [renderStart_eq, List.cons_append, List.append_assoc, List.singleton_append]
  exact .here (by simp [tag?, split])

mutual

/-- A node with a value that is not readable loses a tag when it is written. -/
theorem losesTag_render :
    (node : Node) →
    (rest : Text) →
    node.isNormal = true →
    node.isReadable = false →
    LosesTag (node.render ++ rest)
  | .text content, _, _, unreadable => by
      simp [Node.isReadable] at unreadable
  | .element name attributes children selfClosing, rest, normal, unreadable => by
      simp only [Node.isNormal, Bool.and_eq_true, List.all_eq_true] at normal
      simp only [Node.isReadable, Bool.and_eq_false_iff] at unreadable
      obtain ⟨⟨⟨named, attributesNamed⟩, closed⟩, childrenNormal⟩ := normal
      rcases unreadable with here | inside
      · rw [Node.render, List.append_assoc, List.append_assoc]
        exact losesTag_renderStart named attributesNamed here selfClosing _
      · cases selfClosing with
        | true =>
            obtain rfl : children = [] := by
              simpa using closed
            simp [areReadable] at inside
        | false =>
            rw [Node.render, List.append_assoc, List.append_assoc]
            exact (losesTag_renderNodes children _ childrenNormal inside).append_left _

/-- Nodes with a value that is not read back are written with a bracket that begins no tag. -/
theorem losesTag_renderNodes :
    (nodes : List Node) →
    (rest : Text) →
    areNormal nodes = true →
    areReadable nodes = false →
    LosesTag (renderNodes nodes ++ rest)
  | [], _, _, unreadable => by
      simp [areReadable] at unreadable
  | node :: later, rest, normal, unreadable => by
      simp only [areNormal, Bool.and_eq_true] at normal
      simp only [areReadable, Bool.and_eq_false_iff] at unreadable
      rw [renderNodes, List.append_assoc]
      rcases unreadable with here | inside
      · exact losesTag_render node _ normal.1.1 here
      · exact (losesTag_renderNodes later rest normal.2 inside).append_left _

end

/-! ## Trees that are read back -/

/-- Normal nodes are read back exactly if their values are. -/
theorem parse_renderNodes_eq_iff
    {nodes : List Node}
    (normal : areNormal nodes = true) :
    parse (renderNodes nodes) = nodes ↔ areReadable nodes = true := by
  constructor
  · intro same
    by_contra unreadable
    have loses := losesTag_renderNodes nodes [] normal (Bool.eq_false_iff.mpr unreadable)
    rw [List.append_nil] at loses
    have fewer := loses.length_tagsIn_lt
    have kept := (marksOf_parse_sublist (renderNodes nodes)).length_le
    rw [same, ← count_less_renderNodes nodes normal] at kept
    omega
  · intro readable
    rw [parse, foldl_read_of_areReadable normal readable]
    exact List.reverse_reverse nodes

/--
A text is read again from the markup of its tree as the same tree exactly if no attribute value
in the tree breaks a line or is too long when escaped.
-/
theorem parse_renderNodes_parse_iff (text : Text) :
    parse (renderNodes (parse text)) = parse text ↔ areReadable (parse text) = true :=
  parse_renderNodes_eq_iff (areNormal_parse text)

/-- An element whose attribute is a line break, written as an entity. -/
def lineBreakElement : Text :=
  "<a a=\"&#10;\"/>".toList

/-- A line break that was written as an entity is written as it is, and its tag is lost. -/
theorem parse_renderNodes_lineBreak :
    renderNodes (parse lineBreakElement) = "<a a=\"\n\"/>".toList ∧
      parse (renderNodes (parse lineBreakElement)) ≠ parse lineBreakElement := by
  refine ⟨by decide +kernel, fun same => ?_⟩
  have sameText := congrArg flattenNodes same
  revert sameText
  decide +kernel

end Colloquy.Markup
