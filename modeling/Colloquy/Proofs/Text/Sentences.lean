import Colloquy.Proofs.Text.Words
import Colloquy.Text.Sentence
import Mathlib.Data.List.DropRight

namespace Colloquy.Text

/-!
# Sentences are cut once

Cutting a text into sentences leaves nothing to cut: each sentence is trimmed,
and its terminators all stand at its end. So the sentences of a sentence are the
sentence itself. Nothing is lost but what is silent: the sentences hold all letters
and numerals of the text.
-/

/-! ## Trimmed texts -/

theorem trim_isPrefix_trimStart (text : Text) : trim text <+: trimStart text :=
  List.rdropWhile_prefix isBlank _

/-- Trimming only drops characters. -/
theorem trim_sublist (text : Text) : (trim text).Sublist text :=
  (trim_isPrefix_trimStart text).sublist.trans (List.dropWhile_sublist _)

theorem trimEnd_trimEnd (text : Text) : trimEnd (trimEnd text) = trimEnd text :=
  List.rdropWhile_idempotent isBlank text

/-- What is trimmed at the start stays so when it is trimmed at the end. -/
theorem trimStart_trim (text : Text) : trimStart (trim text) = trim text := by
  cases isTrim : trim text with
  | nil =>
      rfl
  | cons c rest =>
      obtain ⟨after, begins⟩ := isTrim ▸ trim_isPrefix_trimStart text
      have visible : isBlank c = false := by
        have first := List.head?_dropWhile_not isBlank text
        rw [← trimStart, ← begins] at first
        simpa using first
      exact List.dropWhile_cons_of_neg (by simp [visible])

/-- Trimming twice is trimming once. -/
theorem trim_trim (text : Text) : trim (trim text) = trim text := by
  rw [trim, trimStart_trim, trim, trimEnd_trimEnd]

/-- Trimming takes blank characters away, at both ends. -/
theorem exists_margins_trim (text : Text) :
    ∃ before after,
      text = before ++ (trim text ++ after) ∧
        (∀ c ∈ before, isBlank c = true) ∧
        ∀ c ∈ after, isBlank c = true := by
  refine ⟨text.takeWhile isBlank, (trimStart text).rtakeWhile isBlank, ?_,
    fun _ => List.mem_takeWhile_imp, fun _ => List.mem_rtakeWhile_imp⟩
  have trimmed : trim text ++ (trimStart text).rtakeWhile isBlank = trimStart text :=
    List.rdropWhile_append_rtakeWhile
  rw [trimmed, trimStart, List.takeWhile_append_dropWhile]

/-! ## Texts with terminators at the end only -/

theorem isTerminator_eq_false_of_isAlphanumeric
    {c : Char}
    (alphanumeric : isAlphanumeric c = true) :
    isTerminator c = false := by
  cases isEnd : isTerminator c with
  | false =>
      rfl
  | true =>
      simp only [isTerminator, Bool.or_eq_true, decide_eq_true_eq] at isEnd
      rcases isEnd with (rfl | rfl) | rfl
      all_goals exact absurd alphanumeric (by decide +kernel)

/-- Behind a terminator come terminators only, and not all characters are terminators. -/
structure Closed (text : Text) : Prop where
  ends : text.Pairwise fun first second => isTerminator first = true → isTerminator second = true
  begins : ∃ c ∈ text, isTerminator c = false

namespace Closed

/-- A part in which something stands before the terminators. -/
theorem of_sublist
    {part text : Text}
    (closed : Closed text)
    (isPart : part.Sublist text)
    (begins : ∃ c ∈ part, isTerminator c = false) :
    Closed part :=
  ⟨closed.ends.sublist isPart, begins⟩

/-- One more character before a text that is closed, or made of terminators. -/
theorem cons
    {c : Char}
    (inside : isTerminator c = false)
    {rest : Text}
    (ends : rest.Pairwise fun first second =>
      isTerminator first = true → isTerminator second = true) :
    Closed (c :: rest) := by
  refine ⟨List.pairwise_cons.mpr ⟨?_, ends⟩, c, List.mem_cons_self, inside⟩
  intro other _ isEnd
  rw [inside] at isEnd
  exact absurd isEnd Bool.false_ne_true

/-- A text that is closed begins with no terminator, and goes on closed or with terminators. -/
theorem uncons
    {c : Char}
    {rest : Text}
    (closed : Closed (c :: rest)) :
    isTerminator c = false ∧ (Closed rest ∨ ∀ d ∈ rest, isTerminator d = true) := by
  obtain ⟨behindFirst, restEnds⟩ := List.pairwise_cons.mp closed.ends
  constructor
  · cases isEnd : isTerminator c with
    | false =>
        rfl
    | true =>
        obtain ⟨other, member, notEnd⟩ := closed.begins
        rcases List.mem_cons.mp member with rfl | isLater
        · rw [isEnd] at notEnd
          exact notEnd
        · rw [behindFirst other isLater isEnd] at notEnd
          exact notEnd
  · by_cases restBegins : ∃ d ∈ rest, isTerminator d = false
    · exact .inl ⟨restEnds, restBegins⟩
    · right
      intro d member
      by_contra notEnd
      exact restBegins ⟨d, member, by simpa using notEnd⟩

end Closed

namespace Terminated

/-- Terminators alone make no piece. -/
theorem ofText_of_terminators
    {text : Text}
    (terminators : ∀ c ∈ text, isTerminator c = true) :
    ofText text = ⟨text, []⟩ := by
  induction text with
  | nil =>
      rfl
  | cons c rest inductionHypothesis =>
      obtain ⟨isEnd, areEnds⟩ := List.forall_mem_cons.mp terminators
      have later : rest.foldr push ⟨[], []⟩ = ⟨rest, []⟩ := inductionHypothesis areEnds
      rw [ofText, List.foldr_cons, later, push, if_pos isEnd]

/-- A text with terminators at its end only is one piece. -/
theorem ofText_of_closed
    {text : Text}
    (closed : Closed text) :
    ofText text = ⟨[], [text]⟩ := by
  induction text with
  | nil =>
      obtain ⟨c, member, _⟩ := closed.begins
      simp at member
  | cons c rest inductionHypothesis =>
      obtain ⟨inside, restClosed | terminators⟩ := closed.uncons
      · rw [ofText, List.foldr_cons, ← ofText, inductionHypothesis restClosed]
        simp [push, inside]
      · rw [ofText, List.foldr_cons, ← ofText, ofText_of_terminators terminators]
        cases rest <;> simp [push, inside]

/-- The leading characters are terminators, and the pieces have theirs at the end. -/
structure Parted (terminated : Terminated) : Prop where
  leading : ∀ c ∈ terminated.leading, isTerminator c = true
  pieces : ∀ piece ∈ terminated.pieces, Closed piece

/-- Characters are added without breaking the parts. -/
theorem Parted.push
    {terminated : Terminated}
    (parted : terminated.Parted)
    (c : Char) :
    (terminated.push c).Parted := by
  obtain ⟨leading, pieces⟩ := terminated
  unfold Terminated.push
  split
  · next isEnd =>
      exact ⟨List.forall_mem_cons.mpr ⟨isEnd, parted.leading⟩, parted.pieces⟩
  · next notEnd =>
      have inside : isTerminator c = false := by simpa using notEnd
      split
      · next piece others _ isPieces =>
          obtain ⟨first, later⟩ := List.forall_mem_cons.mp (isPieces ▸ parted.pieces)
          exact ⟨by simp, List.forall_mem_cons.mpr ⟨.cons inside first.ends, later⟩⟩
      · have ends : leading.Pairwise fun first second =>
            isTerminator first = true → isTerminator second = true :=
          List.pairwise_of_forall_mem_list fun _ _ second isSecond _ =>
            parted.leading second isSecond
        exact ⟨by simp, List.forall_mem_cons.mpr ⟨.cons inside ends, parted.pieces⟩⟩

/-- A text falls into its parts. -/
theorem parted_ofText (text : Text) : (ofText text).Parted := by
  induction text with
  | nil =>
      exact ⟨by simp [ofText], by simp [ofText]⟩
  | cons c rest inductionHypothesis =>
      exact inductionHypothesis.push c

/-- A character that is added stands before all others. -/
theorem flatten_push
    (c : Char)
    (terminated : Terminated) :
    (terminated.push c).leading ++ (terminated.push c).pieces.flatten =
      c :: (terminated.leading ++ terminated.pieces.flatten) := by
  unfold push
  split
  · rfl
  · split
    · next noLeading isPieces =>
        simp [noLeading, isPieces]
    · simp

/-- The leading terminators and the pieces are the text. -/
theorem flatten_ofText (text : Text) :
    (ofText text).leading ++ (ofText text).pieces.flatten = text := by
  induction text with
  | nil =>
      rfl
  | cons c rest inductionHypothesis =>
      have pushed := flatten_push c (ofText rest)
      rw [inductionHypothesis] at pushed
      exact pushed

end Terminated

/-- A sentence is trimmed, and its terminators stand at its end. -/
theorem trimmed_and_closed_of_mem_sentences
    {text sentence : Text}
    (member : sentence ∈ sentences text) :
    trim sentence = sentence ∧ Closed sentence := by
  obtain ⟨isTrimmed, speaks⟩ := List.mem_filter.mp member
  obtain ⟨piece, isPiece, rfl⟩ := List.mem_map.mp isTrimmed
  obtain ⟨c, inside, alphanumeric⟩ := List.any_eq_true.mp speaks
  have closed := (Terminated.parted_ofText text).pieces piece isPiece
  refine ⟨trim_trim piece, closed.of_sublist (trim_sublist piece) ⟨c, inside, ?_⟩⟩
  exact isTerminator_eq_false_of_isAlphanumeric alphanumeric

/-- The sentences of a sentence are the sentence itself. -/
theorem sentences_of_mem_sentences
    {text sentence : Text}
    (member : sentence ∈ sentences text) :
    sentences sentence = [sentence] := by
  obtain ⟨trimmed, closed⟩ := trimmed_and_closed_of_mem_sentences member
  have speaks := (List.mem_filter.mp member).2
  rw [sentences, Terminated.ofText_of_closed closed, List.map_singleton, trimmed]
  exact List.filter_cons_of_pos speaks

/-! ## What sentences hold -/

theorem silent_of_terminators
    {text : Text}
    (terminators : ∀ c ∈ text, isTerminator c = true) :
    Silent text := by
  intro c member
  cases alphanumeric : isAlphanumeric c with
  | false =>
      rfl
  | true =>
      have notEnd := isTerminator_eq_false_of_isAlphanumeric alphanumeric
      rw [terminators c member] at notEnd
      exact notEnd

/-- A text is silent exactly if no letter and no numeral is left of it. -/
theorem filter_eq_nil_iff_silent (text : Text) :
    text.filter isAlphanumeric = [] ↔ Silent text := by
  simp [Silent, List.filter_eq_nil_iff]

/-- Trimming keeps all letters and numerals. -/
theorem filter_trim (text : Text) :
    (trim text).filter isAlphanumeric = text.filter isAlphanumeric := by
  obtain ⟨before, after, isText, blankBefore, blankAfter⟩ := exists_margins_trim text
  conv_rhs => rw [isText]
  rw [List.filter_append, List.filter_append,
    (filter_eq_nil_iff_silent before).mpr (silent_of_blank blankBefore),
    (filter_eq_nil_iff_silent after).mpr (silent_of_blank blankAfter), List.nil_append,
    List.append_nil]

theorem silent_of_any_trim
    {piece : Text}
    (speaksNot : ¬ (trim piece).any isAlphanumeric = true) :
    Silent piece := by
  rw [← filter_eq_nil_iff_silent, ← filter_trim, List.filter_eq_nil_iff]
  intro c member alphanumeric
  exact speaksNot (List.any_eq_true.mpr ⟨c, member, alphanumeric⟩)

/-- The sentences hold the letters and numerals of the text, in order. -/
theorem filter_flatten_sentences (text : Text) :
    (sentences text).flatten.filter isAlphanumeric = text.filter isAlphanumeric := by
  have ofPieces (pieces : List Text) :
      ((pieces.map trim).filter (·.any isAlphanumeric)).flatten.filter isAlphanumeric =
        pieces.flatten.filter isAlphanumeric := by
    induction pieces with
    | nil =>
        rfl
    | cons piece rest inductionHypothesis =>
        rw [List.map_cons, List.filter_cons, List.flatten_cons, List.filter_append,
          ← inductionHypothesis]
        split
        · rw [List.flatten_cons, List.filter_append, filter_trim]
        · next speaksNot =>
            rw [(filter_eq_nil_iff_silent piece).mpr (silent_of_any_trim speaksNot),
              List.nil_append]
  have leading := silent_of_terminators (Terminated.parted_ofText text).leading
  conv_rhs => rw [← Terminated.flatten_ofText text]
  rw [sentences, ofPieces, List.filter_append, (filter_eq_nil_iff_silent _).mpr leading,
    List.nil_append]

/-- A text has no sentences exactly if it has no letter and no numeral. -/
theorem sentences_eq_nil_iff (text : Text) : sentences text = [] ↔ Silent text := by
  rw [← filter_eq_nil_iff_silent, ← filter_flatten_sentences]
  constructor
  · intro noSentences
    rw [noSentences]
    rfl
  · intro silent
    rw [List.eq_nil_iff_forall_not_mem]
    intro sentence member
    obtain ⟨c, inside, alphanumeric⟩ := List.any_eq_true.mp (List.mem_filter.mp member).2
    have isLeft : c ∈ (sentences text).flatten.filter isAlphanumeric :=
      List.mem_filter.mpr ⟨List.mem_flatten.mpr ⟨sentence, member, inside⟩, alphanumeric⟩
    rw [silent] at isLeft
    exact List.not_mem_nil isLeft

/-- Around a single sentence there is no letter and no numeral. -/
theorem exists_margins_of_sentences_eq_singleton
    {text sentence : Text}
    (single : sentences text = [sentence]) :
    ∃ before after, text = before ++ (sentence ++ after) ∧ Silent before ∧ Silent after := by
  obtain ⟨earlier, later, areTrimmed, noneEarlier, -, noneLater⟩ :=
    List.filter_eq_cons_iff.mp single
  obtain ⟨piecesBefore, others, isPieces, rfl, isOthers⟩ := List.map_eq_append_iff.mp areTrimmed
  obtain ⟨piece, piecesAfter, rfl, rfl, rfl⟩ := List.map_eq_cons_iff.mp isOthers
  obtain ⟨before, after, isPiece, blankBefore, blankAfter⟩ := exists_margins_trim piece
  have silentBefore : ∀ piece ∈ piecesBefore, Silent piece := fun piece member =>
    silent_of_any_trim (noneEarlier _ (List.mem_map_of_mem member))
  have silentAfter : ∀ piece ∈ piecesAfter, Silent piece := fun piece member =>
    silent_of_any_trim (List.filter_eq_nil_iff.mp noneLater _ (List.mem_map_of_mem member))
  refine ⟨(Terminated.ofText text).leading ++ (piecesBefore.flatten ++ before),
    after ++ piecesAfter.flatten, ?_, ?_, ?_⟩
  · conv_lhs => rw [← Terminated.flatten_ofText text, isPieces, List.flatten_append,
      List.flatten_cons, isPiece]
    simp only [List.append_assoc]
  · have leading := silent_of_terminators (Terminated.parted_ofText text).leading
    exact leading.append ((silent_flatten silentBefore).append (silent_of_blank blankBefore))
  · exact (silent_of_blank blankAfter).append (silent_flatten silentAfter)

end Colloquy.Text
