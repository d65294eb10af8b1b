import Colloquy.Proofs.Admission.Admitted
import Colloquy.Proofs.Admission.Danger
import Colloquy.Proofs.Markup.Marks
import Colloquy.Proofs.Markup.Sources

namespace Colloquy

/-!
# Literals of admitted templates

The literals of a template are the texts and attribute values of its tree. One
that is written in the template as it is cannot hold dangerous content, since the
template holds none. Literals that are written otherwise have entities in them, or
are texts that a comment parts. While a template with neither is being read, every
literal stands in what was read so far, and the newest text at its end.
-/

namespace Markup

mutual

/-- The texts and attribute values of a node. -/
def Node.literals : Node → List Text
  | .text content => [content]
  | .element _ attributes children _ => attributes.map Prod.snd ++ literals children

/-- The texts and attribute values of nodes. -/
def literals : List Node → List Text
  | [] => []
  | node :: rest => node.literals ++ literals rest

end

/-- The literals of nodes are those of each. -/
theorem mem_literals
    {literal : Text}
    {nodes : List Node} :
    literal ∈ literals nodes ↔ ∃ node ∈ nodes, literal ∈ node.literals := by
  induction nodes with
  | nil =>
      simp [literals]
  | cons node rest inductionHypothesis =>
      simp [literals, inductionHypothesis]

theorem mem_literals_reverse
    {literal : Text}
    {nodes : List Node} :
    literal ∈ literals nodes.reverse ↔ literal ∈ literals nodes := by
  simp [mem_literals]

/-- The text that goes on if more text is read: that of the newest node, if it is one. -/
def newestText : List Node → Text
  | .text content :: _ => content
  | _ => []

/-- Text that is added goes on from the newest text. -/
theorem newestText_pushText
    (text : Text)
    (nodes : List Node) :
    newestText (pushText text nodes) = newestText nodes ++ text := by
  fun_cases pushText text nodes with
  | case1 _ empty =>
      rw [List.isEmpty_iff.mp empty, List.append_nil]
  | case2 _ last rest =>
      rfl
  | case3 _ _ notText =>
      have nothing : newestText nodes = [] := by
        fun_cases newestText nodes with
        | case1 content rest =>
            exact absurd rfl (notText content rest)
        | case2 =>
            rfl
      rw [nothing]
      rfl

/-- Adding text changes no literal but the newest. -/
theorem mem_literals_pushText
    {literal text : Text}
    {nodes : List Node}
    (member : literal ∈ literals (pushText text nodes)) :
    literal ∈ literals nodes ∨ literal = newestText (pushText text nodes) := by
  revert member
  fun_cases pushText text nodes with
  | case1 =>
      exact Or.inl
  | case2 _ last rest =>
      simp only [literals, Node.literals, List.mem_append, List.mem_singleton]
      rintro (isNewest | isOlder)
      · exact Or.inr isNewest
      · exact Or.inl (Or.inr isOlder)
  | case3 =>
      simp only [literals, Node.literals, List.mem_append, List.mem_singleton]
      rintro (isNewest | isOlder)
      · exact Or.inr isNewest
      · exact Or.inl isOlder

namespace Nesting

/-- The nodes of the innermost open element, or else those outside of all. -/
def innermost (nesting : Nesting) : List Node :=
  match nesting.openElements with
  | [] => nesting.roots
  | element :: _ => element.children

/-- The literals read so far. -/
def literals (nesting : Nesting) : List Text :=
  Markup.literals nesting.roots ++
    nesting.openElements.flatMap fun element =>
      element.attributes.map Prod.snd ++ Markup.literals element.children

/-- Changing the innermost nodes changes them and no others. -/
theorem innermost_modifyInnermost
    (change : List Node → List Node)
    (nesting : Nesting) :
    (nesting.modifyInnermost change).innermost = change nesting.innermost := by
  obtain ⟨openElements, roots⟩ := nesting
  cases openElements <;> rfl

theorem mem_literals_innermost
    {nesting : Nesting}
    {literal : Text}
    (member : literal ∈ Markup.literals nesting.innermost) :
    literal ∈ nesting.literals := by
  obtain ⟨openElements, roots⟩ := nesting
  cases openElements with
  | nil =>
      exact List.mem_append_left _ member
  | cons element outer =>
      refine List.mem_append_right _ (List.mem_append_left _ ?_)
      exact List.mem_append_right _ member

/-- A change of the innermost nodes brings only the literals of the changed nodes. -/
theorem mem_literals_modifyInnermost
    {change : List Node → List Node}
    {nesting : Nesting}
    {literal : Text}
    (member : literal ∈ (nesting.modifyInnermost change).literals) :
    literal ∈ nesting.literals ∨ literal ∈ Markup.literals (change nesting.innermost) := by
  obtain ⟨openElements, roots⟩ := nesting
  cases openElements with
  | nil =>
      right
      simpa [literals, modifyInnermost, innermost] using member
  | cons element outer =>
      simp only [literals, modifyInnermost, List.flatMap_cons, List.mem_append] at member ⊢
      rcases member with isRoot | (isValue | isChild) | isOuter
      · exact Or.inl (Or.inl isRoot)
      · exact Or.inl (Or.inr (Or.inl (Or.inl isValue)))
      · exact Or.inr isChild
      · exact Or.inl (Or.inr (Or.inr isOuter))

/-- Closing the innermost open element makes it a node of the next one. -/
theorem close_head
    (element : OpenElement)
    (outer : List OpenElement)
    (roots : List Node)
    (source : Text) :
    close element.name source ⟨element :: outer, roots⟩ =
      modifyInnermost
        (.element element.name element.attributes element.children.reverse false :: ·)
        ⟨outer, roots⟩ := by
  simp [close]

end Nesting

/-- A text without ampersands has no entities. -/
theorem decodeEntities_eq_self
    {text : Text}
    (plain : '&' ∉ text) :
    decodeEntities text = text := by
  induction text with
  | nil =>
      rfl
  | cons c rest inductionHypothesis =>
      simp only [List.mem_cons, not_or] at plain
      simp only [decodeEntities, decodeAfter, if_neg (Ne.symm plain.1)] at inductionHypothesis ⊢
      rw [inductionHypothesis plain.2]

end Markup

namespace Admission

open Markup

/-! ## Standing in what was read -/

/-- The text stands at the end of what was read, and no word goes on into it. -/
def StandsAtEnd
    (whole text : Text) :
    Prop :=
  ∃ before, whole = before ++ text ∧ before.getLast?.any Text.isWordChar = false

/-- What stands in a text stands in it with more behind it. -/
theorem StandsIn.append
    {whole text : Text}
    (stands : StandsIn whole text)
    (more : Text) :
    StandsIn (whole ++ more) text := by
  obtain ⟨before, after, rfl, noWord⟩ := stands
  exact ⟨before, after ++ more, by simp, noWord⟩

/-- What stands at the end of a text stands in it. -/
theorem StandsAtEnd.standsIn
    {whole text : Text}
    (stands : StandsAtEnd whole text) :
    StandsIn whole text := by
  obtain ⟨before, rfl, noWord⟩ := stands
  exact ⟨before, [], by simp, noWord⟩

/-- What stands at the end goes on with what is put behind it. -/
theorem StandsAtEnd.append
    {whole text : Text}
    (stands : StandsAtEnd whole text)
    (more : Text) :
    StandsAtEnd (whole ++ more) (text ++ more) := by
  obtain ⟨before, rfl, noWord⟩ := stands
  exact ⟨before, by simp, noWord⟩

/-- After a tag, a new text may begin. -/
theorem standsAtEnd_nil
    {source : Text}
    (ends : source.getLast? = some '>')
    (whole : Text) :
    StandsAtEnd (whole ++ source) [] := by
  refine ⟨whole ++ source, by simp, ?_⟩
  rw [List.getLast?_append, ends]
  change Text.isWordChar '>' = false
  decide

/-- A quoted value stands in the text that it is quoted in. -/
theorem standsIn_of_quoted
    {source value : Text}
    (quoted : Quoted source value)
    (plain : '&' ∉ source)
    (whole : Text) :
    StandsIn (whole ++ source) value := by
  obtain ⟨before, quote, raw, after, rfl, isQuote, rfl⟩ := quoted
  have plainRaw : '&' ∉ raw := by
    intro member
    exact plain (by simp [member])
  rw [decodeEntities_eq_self plainRaw]
  refine ⟨whole ++ before ++ [quote], after, by simp, ?_⟩
  rw [List.getLast?_append]
  change Text.isWordChar quote = false
  simp only [Markup.isQuote, Bool.or_eq_true, decide_eq_true_eq] at isQuote
  rcases isQuote with rfl | rfl
  · decide
  · decide

/-! ## Reading templates without entities and comments -/

/-- The lexeme is no comment and has no ampersand. -/
structure Plain (lexeme : Lexeme) : Prop where
  written : lexeme.Written
  noComment : ∀ source, lexeme ≠ .comment source
  noEntity : '&' ∉ lexeme.source

/-- Every literal stands in what was read, and the text that may go on stands at its end. -/
structure Verbatim
    (read : Text)
    (nesting : Nesting) :
    Prop where
  stands : ∀ literal ∈ nesting.literals, StandsIn read literal
  newest : StandsAtEnd read (newestText nesting.innermost)

namespace Verbatim

variable
  {read : Text}
  {nesting : Nesting}

/-- Reading text keeps literals as they were written. -/
theorem text
    (verbatim : Verbatim read nesting)
    {source : Text}
    (plain : '&' ∉ source) :
    Verbatim (read ++ source) (nesting.read (.text source)) := by
  rw [Nesting.read, decodeEntities_eq_self plain]
  have newest : StandsAtEnd (read ++ source) (newestText (pushText source nesting.innermost)) := by
    rw [newestText_pushText]
    exact verbatim.newest.append source
  refine ⟨?_, ?_⟩
  · intro literal member
    rcases Nesting.mem_literals_modifyInnermost member with isOld | isInnermost
    · exact (verbatim.stands literal isOld).append source
    · rcases mem_literals_pushText isInnermost with isOld | rfl
      · exact (verbatim.stands literal (Nesting.mem_literals_innermost isOld)).append source
      · exact newest.standsIn
  · rw [Nesting.innermost_modifyInnermost]
    exact newest

/-- An element that is complete ends the text before it. -/
theorem pushElement
    {name : Text}
    {attributes : List Attribute}
    {children : List Node}
    {selfClosing : Bool}
    (stands : ∀ literal ∈ nesting.literals, StandsIn read literal)
    (own : ∀ literal ∈ (Node.element name attributes children selfClosing).literals,
      StandsIn read literal)
    (ends : StandsAtEnd read []) :
    Verbatim read
      (nesting.modifyInnermost (.element name attributes children selfClosing :: ·)) := by
  refine ⟨?_, ?_⟩
  · intro literal member
    rcases Nesting.mem_literals_modifyInnermost member with isOld | isInnermost
    · exact stands literal isOld
    · rw [Markup.literals, List.mem_append] at isInnermost
      rcases isInnermost with isOwn | isOld
      · exact own literal isOwn
      · exact stands literal (Nesting.mem_literals_innermost isOld)
  · rw [Nesting.innermost_modifyInnermost]
    exact ends

theorem standalone
    (verbatim : Verbatim read nesting)
    {name source : Text}
    {attributes : List Attribute}
    (plain : Plain (.standalone name attributes source)) :
    Verbatim (read ++ source) (nesting.read (.standalone name attributes source)) := by
  refine pushElement ?_ ?_ (standsAtEnd_nil (plain.written.ends rfl) read)
  · intro literal isOld
    exact (verbatim.stands literal isOld).append source
  · intro literal isOwn
    simp only [Node.literals, Markup.literals, List.append_nil, List.mem_map] at isOwn
    obtain ⟨entry, isEntry, rfl⟩ := isOwn
    exact standsIn_of_quoted (plain.written.values entry isEntry) plain.noEntity read

theorem opening
    (verbatim : Verbatim read nesting)
    {name source : Text}
    {attributes : List Attribute}
    (plain : Plain (.opening name attributes source)) :
    Verbatim (read ++ source) (nesting.read (.opening name attributes source)) := by
  refine ⟨?_, standsAtEnd_nil (plain.written.ends rfl) read⟩
  intro literal member
  simp only [Nesting.read, Nesting.literals, List.flatMap_cons, Markup.literals, List.append_nil,
    List.mem_append] at member
  rcases member with isRoot | isValue | isOuter
  · exact (verbatim.stands literal (List.mem_append_left _ isRoot)).append source
  · obtain ⟨entry, isEntry, rfl⟩ := List.mem_map.mp isValue
    exact standsIn_of_quoted (plain.written.values entry isEntry) plain.noEntity read
  · exact (verbatim.stands literal (List.mem_append_right _ isOuter)).append source

/-- Reading the closing tag of the innermost element keeps literals as they were written. -/
theorem closing
    {element : OpenElement}
    {outer : List OpenElement}
    {roots : List Node}
    (verbatim : Verbatim read ⟨element :: outer, roots⟩)
    {source : Text}
    (plain : Plain (.closing element.name source)) :
    Verbatim (read ++ source)
      (Nesting.read ⟨element :: outer, roots⟩ (.closing element.name source)) := by
  rw [Nesting.read, Nesting.close_head]
  refine pushElement ?_ ?_ (standsAtEnd_nil (plain.written.ends rfl) read)
  · intro literal member
    refine (verbatim.stands literal ?_).append source
    simp only [Nesting.literals, List.flatMap_cons, List.mem_append] at member ⊢
    rcases member with isRoot | isOuter
    · exact Or.inl isRoot
    · exact Or.inr (Or.inr isOuter)
  · intro literal isOwn
    refine (verbatim.stands literal ?_).append source
    rw [Node.literals, List.mem_append, mem_literals_reverse] at isOwn
    exact List.mem_append_right _ (List.mem_append_left _ (List.mem_append.mpr isOwn))

end Verbatim

/-- Along a strict check that passes, every literal stands in the text. -/
theorem Verbatim.foldl_read
    {read : Text}
    {nesting : Nesting}
    (verbatim : Verbatim read nesting)
    {unread : List Lexeme}
    (plain : ∀ lexeme ∈ unread, Plain lexeme)
    {seen described : Structure}
    (passes : checkLexemes (nesting.openElements.map (·.name)) seen unread = .ok described) :
    ∀ literal ∈ literals (unread.foldl Nesting.read nesting).finish,
      StandsIn (read ++ unread.flatMap Lexeme.source) literal := by
  induction unread generalizing read nesting seen with
  | nil =>
      obtain ⟨openElements, roots⟩ := nesting
      cases openElements with
      | nil =>
          intro literal member
          rw [List.foldl_nil, Nesting.finish, List.foldr_nil, mem_literals_reverse] at member
          rw [List.flatMap_nil, List.append_nil]
          exact verbatim.stands literal (List.mem_append_left _ member)
      | cons element outer =>
          simp [checkLexemes] at passes
  | cons lexeme rest inductionHypothesis =>
      rw [List.forall_mem_cons] at plain
      rw [List.foldl_cons, List.flatMap_cons, ← List.append_assoc]
      cases lexeme with
      | text source =>
          simp only [checkLexemes] at passes
          rw [← nesting.names_modifyInnermost (pushText (decodeEntities source))] at passes
          exact inductionHypothesis (verbatim.text plain.1.noEntity) plain.2 passes
      | comment source =>
          exact absurd rfl (plain.1.noComment source)
      | opening name attributes source =>
          simp only [checkLexemes] at passes
          exact inductionHypothesis (verbatim.opening plain.1) plain.2 passes
      | standalone name attributes source =>
          simp only [checkLexemes] at passes
          rw [← nesting.names_modifyInnermost (.element name attributes [] true :: ·)] at passes
          exact inductionHypothesis (verbatim.standalone plain.1) plain.2 passes
      | closing name source =>
          obtain ⟨openElements, roots⟩ := nesting
          cases openElements with
          | nil =>
              simp [checkLexemes] at passes
          | cons element outer =>
              simp only [List.map_cons, checkLexemes] at passes
              split at passes
              · next isInnermost =>
                  subst isInnermost
                  have names :
                      (Nesting.close element.name source ⟨element :: outer, roots⟩).openElements.map
                          (·.name) =
                        outer.map (·.name) := by
                    rw [Nesting.close_head, Nesting.names_modifyInnermost]
                  rw [← names] at passes
                  exact inductionHypothesis (verbatim.closing plain.1) plain.2 passes
              · simp at passes

/-- In a template without entities and comments that passes the check, all literals stand as written. -/
theorem standsIn_of_mem_literals
    {template : Text}
    {shape : Structure}
    (balanced : checkStructure template = .ok shape)
    (noEntity : '&' ∉ template)
    (noComment : ∀ source, .comment source ∉ lexemes template) :
    ∀ literal ∈ literals (parse template), StandsIn template literal := by
  have sources := flatMap_source_lexemes template
  have plain : ∀ lexeme ∈ lexemes template, Plain lexeme := by
    intro lexeme member
    refine ⟨written_of_mem_lexemes member, ?_, ?_⟩
    · rintro source rfl
      exact noComment source member
    · intro inSource
      apply noEntity
      rw [← sources]
      exact List.mem_flatMap.mpr ⟨lexeme, member, inSource⟩
  have start : Verbatim [] Nesting.empty :=
    ⟨by simp [Nesting.literals, Nesting.empty, Markup.literals], [], rfl, rfl⟩
  have stands := start.foldl_read plain balanced
  rw [List.nil_append, sources] at stands
  exact stands

/--
The literals of an admitted template are harmless exactly if those are that are not
written in the template as they are; and they all are in a template without entities
and comments.
-/
theorem validate_harmlessLiterals_iff
    {category : Category}
    {limits : LearningLimits}
    (admitted : validate category limits = .ok ()) :
    ((∀ literal ∈ literals (parse category.template), Harmless literal) ↔
        ∀ literal ∈ literals (parse category.template),
          ¬ StandsIn category.template literal →
          Harmless literal) ∧
      ('&' ∉ category.template →
        (∀ source, .comment source ∉ lexemes category.template) →
        ∀ literal ∈ literals (parse category.template), Harmless literal) := by
  obtain ⟨_, fits⟩ := fits_of_validate admitted
  have harmless : Harmless category.template := fits.harmless
  obtain ⟨shape, balanced⟩ := fits.balanced
  refine ⟨⟨?_, ?_⟩, ?_⟩
  · intro all literal member _
    exact all literal member
  · intro rewritten literal member
    by_cases stands : StandsIn category.template literal
    · exact harmless.of_standsIn stands
    · exact rewritten literal member stands
  · intro noEntity noComment literal member
    exact harmless.of_standsIn (standsIn_of_mem_literals balanced noEntity noComment literal member)

/-- A value and texts around an element are harmless as they are written. -/
theorem validate_harmlessLiterals_iff_plain :
    let template := "Your <get name=\"data: type\"/> is on".toList
    validate (.plain "HI".toList template) {} = .ok () ∧
      literals (parse template) = ["Your ".toList, "data: type".toList, " is on".toList] ∧
      ∀ literal ∈ literals (parse template), Harmless literal := by
  intro template
  have admitted : validate (.plain "HI".toList template) {} = .ok () := by
    decide +kernel
  have read : lexemes template =
      [.text "Your ".toList,
        .standalone "get".toList [("name".toList, "data: type".toList)]
          "<get name=\"data: type\"/>".toList,
        .text " is on".toList] := by
    decide +kernel
  refine ⟨admitted, by decide +kernel, ?_⟩
  refine (validate_harmlessLiterals_iff admitted).2 (by decide +kernel) ?_
  intro source
  change Lexeme.comment source ∉ lexemes template
  simp [read]

/-- A script tag that is written with entities is admitted and read as a script tag. -/
theorem validate_harmlessLiterals_entities :
    let template := "&lt;script&gt;".toList
    validate (.plain "HI".toList template) {} = .ok () ∧
      ∃ literal ∈ literals (parse template), ¬ Harmless literal := by
  intro template
  refine ⟨by decide +kernel, "<script>".toList, by decide +kernel, ?_⟩
  rw [Harmless]
  decide +kernel

end Admission

end Colloquy
