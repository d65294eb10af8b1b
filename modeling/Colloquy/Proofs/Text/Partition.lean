import Colloquy.Proofs.Text.Sentences

namespace Colloquy.Text

/-!
# Sentences as matches

A sentence is what matching finds: a run of characters without terminators, at
least one, and the terminators behind it. Matching goes from left to right, takes
each match as far left and as long as it can, and goes on behind it. Taking a text
apart at its terminators finds the same parts, so the sentences divide the letters
and numerals of a text among them, and dividing a sentence again changes nothing.
-/

/-! ## Matching from left to right -/

/-- Matching finds these parts of a text, one behind the other. -/
inductive Finds (fits : Text → Prop) : Text → List Text → Prop where
  | none
      {text : Text}
      (nowhere : ∀ before part after, text = before ++ (part ++ after) → ¬ fits part) :
      Finds fits text []
  | next
      {before part after : Text}
      {parts : List Text}
      (fitting : fits part)
      (leftmost : ∀ earlier other later,
        before ++ (part ++ after) = earlier ++ (other ++ later) →
          fits other →
          before.length ≤ earlier.length)
      (longest : ∀ longer later,
        part ++ after = longer ++ later → fits longer → longer.length ≤ part.length)
      (found : Finds fits after parts) :
      Finds fits (before ++ (part ++ after)) (part :: parts)

/-- What matching finds is determined. -/
theorem Finds.unique
    {fits : Text → Prop}
    {text : Text}
    {parts parts' : List Text}
    (finds : Finds fits text parts)
    (finds' : Finds fits text parts') :
    parts = parts' := by
  induction finds generalizing parts' with
  | none nowhere =>
      cases finds' with
      | none _ =>
          rfl
      | next fitting _ _ _ =>
          exact absurd fitting (nowhere _ _ _ rfl)
  | @next before part after parts fitting leftmost longest _ inductionHypothesis =>
      generalize isText : before ++ (part ++ after) = text at finds'
      cases finds' with
      | none nowhere =>
          exact absurd fitting (nowhere _ _ _ isText.symm)
      | @next before' part' after' parts' fitting' leftmost' longest' found' =>
          have sameStart : before.length = before'.length :=
            Nat.le_antisymm (leftmost _ _ _ isText fitting') (leftmost' _ _ _ isText.symm fitting)
          obtain ⟨rfl, sameRest⟩ := List.append_inj isText sameStart
          have sameLength : part.length = part'.length :=
            Nat.le_antisymm (longest' _ _ sameRest.symm fitting) (longest _ _ sameRest fitting')
          obtain ⟨rfl, rfl⟩ := List.append_inj sameRest sameLength
          rw [inductionHypothesis found']

/-! ## Runs that end with terminators -/

/-- Characters that are no terminators, at least one, and then terminators. -/
def IsRun (part : Text) : Prop :=
  ∃ body ends,
    part = body ++ ends ∧
      body ≠ [] ∧
      (∀ c ∈ body, isTerminator c = false) ∧
      ∀ c ∈ ends, isTerminator c = true

/-- A part that is closed is a run. -/
theorem Closed.isRun
    {part : Text}
    (closed : Closed part) :
    IsRun part := by
  induction part with
  | nil =>
      obtain ⟨c, member, _⟩ := closed.begins
      simp at member
  | cons c rest inductionHypothesis =>
      obtain ⟨inside, restClosed | terminators⟩ := closed.uncons
      · obtain ⟨body, ends, rfl, -, bodyInside, terminators⟩ := inductionHypothesis restClosed
        exact ⟨c :: body, ends, rfl, List.cons_ne_nil c body,
          List.forall_mem_cons.mpr ⟨inside, bodyInside⟩, terminators⟩
      · exact ⟨[c], rest, rfl, List.cons_ne_nil c [], by simpa using inside, terminators⟩

/-- A run is a part that is closed. -/
theorem IsRun.closed
    {part : Text}
    (isRun : IsRun part) :
    Closed part := by
  obtain ⟨body, ends, rfl, nonempty, inside, terminators⟩ := isRun
  induction body with
  | nil =>
      exact absurd rfl nonempty
  | cons c rest inductionHypothesis =>
      obtain ⟨cInside, restInside⟩ := List.forall_mem_cons.mp inside
      refine .cons cInside ?_
      cases rest with
      | nil =>
          exact List.pairwise_of_forall_mem_list fun _ _ second member _ =>
            terminators second member
      | cons d others =>
          exact (inductionHypothesis (List.cons_ne_nil d others) restInside).ends

namespace Terminated

/-- Each piece but the last has a terminator. -/
def Divided (pieces : List Text) : Prop :=
  pieces.IsChain fun piece _ => ∃ c ∈ piece, isTerminator c = true

theorem divided_push
    {terminated : Terminated}
    (parted : terminated.Parted)
    (divided : Divided terminated.pieces)
    (c : Char) :
    Divided (terminated.push c).pieces := by
  obtain ⟨leading, pieces⟩ := terminated
  cases isEnd : isTerminator c with
  | true =>
      simpa [push, isEnd] using divided
  | false =>
      cases pieces with
      | nil =>
          cases leading <;> simp [push, isEnd, Divided]
      | cons piece others =>
          cases leading with
          -- The piece grows, and keeps the terminator that it has.
          | nil =>
              simp only [push, isEnd, Bool.false_eq_true, ↓reduceIte]
              cases others with
              | nil =>
                  exact .singleton _
              | cons second later =>
                  obtain ⟨⟨d, member, ends⟩, laterDivided⟩ := List.isChain_cons_cons.mp divided
                  exact .cons_cons ⟨d, List.mem_cons_of_mem c member, ends⟩ laterDivided
          -- A piece begins, and the leading characters are its terminators.
          | cons first more =>
              simp only [push, isEnd, Bool.false_eq_true, ↓reduceIte]
              have ends := parted.leading first List.mem_cons_self
              exact .cons_cons ⟨first, by simp, ends⟩ divided

/-- The pieces of a text are divided by terminators. -/
theorem divided_ofText (text : Text) : Divided (ofText text).pieces := by
  induction text with
  | nil =>
      exact .nil
  | cons c rest inductionHypothesis =>
      exact divided_push (parted_ofText rest) inductionHypothesis c

end Terminated

theorem IsRun.exists_cons
    {part : Text}
    (isRun : IsRun part) :
    ∃ c rest, part = c :: rest ∧ isTerminator c = false := by
  obtain ⟨body, ends, rfl, nonempty, inside, -⟩ := isRun
  obtain ⟨c, rest, rfl⟩ := List.exists_cons_of_ne_nil nonempty
  exact ⟨c, rest ++ ends, rfl, inside c List.mem_cons_self⟩

/-- A run begins behind terminators. -/
theorem IsRun.length_le_of_terminators
    {leading text earlier part later : Text}
    (isRun : IsRun part)
    (terminators : ∀ c ∈ leading, isTerminator c = true)
    (isText : leading ++ text = earlier ++ (part ++ later)) :
    leading.length ≤ earlier.length := by
  rcases List.append_eq_append_iff.mp isText with ⟨between, rfl, -⟩ | ⟨between, rfl, isRest⟩
  · simp
  · cases between with
    | nil =>
        simp
    | cons c rest =>
        obtain ⟨first, others, rfl, inside⟩ := isRun.exists_cons
        obtain ⟨rfl, -⟩ := List.cons.inj isRest
        have isEnd := terminators first (by simp)
        rw [inside] at isEnd
        exact absurd isEnd Bool.false_ne_true

/-- A run that has a terminator ends before the next character that is none. -/
theorem Closed.length_le_of_terminator
    {part longer later : Text}
    {c : Char}
    {rest : Text}
    (closed : Closed longer)
    (hasEnd : ∃ d ∈ part, isTerminator d = true)
    (inside : isTerminator c = false)
    (isText : part ++ c :: rest = longer ++ later) :
    longer.length ≤ part.length := by
  rcases List.append_eq_append_iff.mp isText with ⟨between, rfl, isRest⟩ | ⟨between, rfl, -⟩
  · cases between with
    | nil =>
        simp
    | cons d others =>
        obtain ⟨rfl, -⟩ := List.cons.inj isRest
        obtain ⟨first, member, isEnd⟩ := hasEnd
        have behind := (List.pairwise_append.mp closed.ends).2.2 first member c List.mem_cons_self
        rw [inside] at behind
        exact absurd (behind isEnd) Bool.false_ne_true
  · simp

namespace Terminated

/-- Matching finds the pieces behind leading terminators. -/
theorem finds_pieces
    {leading : Text}
    {pieces : List Text}
    (terminators : ∀ c ∈ leading, isTerminator c = true)
    (closed : ∀ piece ∈ pieces, Closed piece)
    (divided : Divided pieces) :
    Finds IsRun (leading ++ pieces.flatten) pieces := by
  induction pieces generalizing leading with
  | nil =>
      refine .none ?_
      intro before part after isText isRun
      obtain ⟨c, member, inside⟩ := isRun.closed.begins
      have isEnd := terminators c (by
        rw [List.flatten_nil, List.append_nil] at isText
        simp [isText, member])
      rw [inside] at isEnd
      exact absurd isEnd Bool.false_ne_true
  | cons piece others inductionHypothesis =>
      obtain ⟨pieceClosed, othersClosed⟩ := List.forall_mem_cons.mp closed
      refine .next pieceClosed.isRun ?_ ?_ ?_
      · intro earlier other later isText isRun
        exact isRun.length_le_of_terminators terminators isText
      · intro longer later isText isRun
        cases others with
        | nil =>
            have lengths := congrArg List.length isText
            simp only [List.flatten_nil, List.append_nil, List.length_append] at lengths
            omega
        | cons second more =>
            obtain ⟨hasEnd, -⟩ := List.isChain_cons_cons.mp divided
            obtain ⟨c, rest, rfl, inside⟩ := (othersClosed _ List.mem_cons_self).isRun.exists_cons
            exact isRun.closed.length_le_of_terminator hasEnd inside isText
      · exact inductionHypothesis (List.forall_mem_nil _) othersClosed divided.of_cons

/-- Searching for runs finds the pieces of the text and nothing else. -/
theorem finds_iff (text : Text) (parts : List Text) :
    Finds IsRun text parts ↔ parts = (ofText text).pieces := by
  have finds : Finds IsRun text (ofText text).pieces := by
    have found := finds_pieces (parted_ofText text).leading (parted_ofText text).pieces
      (divided_ofText text)
    rwa [flatten_ofText] at found
  constructor
  · intro found
    exact found.unique finds
  · rintro rfl
    exact finds

end Terminated

/--
The sentences of a text are the matches of a run with its terminators, trimmed, as
far as they hold a letter or numeral. Each is trimmed, holds a letter or numeral, has
its terminators at its end only, and is its own only sentence; and together, in order,
they hold the letters and numerals of the text.
-/
theorem sentences_partition (text : Text) :
    (∃ found,
      (∀ parts, Finds IsRun text parts ↔ parts = found) ∧
        sentences text = (found.map trim).filter (·.any isAlphanumeric)) ∧
      (∀ sentence ∈ sentences text,
        trim sentence = sentence ∧
          (∃ c ∈ sentence, isAlphanumeric c = true) ∧
          (∃ body ends,
            sentence = body ++ ends ∧
              (∀ c ∈ body, isTerminator c = false) ∧
              ∀ c ∈ ends, isTerminator c = true) ∧
          sentences sentence = [sentence]) ∧
      (sentences text).flatMap (·.filter isAlphanumeric) = text.filter isAlphanumeric := by
  refine ⟨⟨_, Terminated.finds_iff text, rfl⟩, ?_, ?_⟩
  · intro sentence member
    obtain ⟨trimmed, closed⟩ := trimmed_and_closed_of_mem_sentences member
    obtain ⟨body, ends, isSentence, -, inside, terminators⟩ := closed.isRun
    exact ⟨trimmed, List.any_eq_true.mp (List.mem_filter.mp member).2,
      ⟨body, ends, isSentence, inside, terminators⟩, sentences_of_mem_sentences member⟩
  · rw [← filter_flatten_sentences, List.filter_flatten, List.flatMap]

end Colloquy.Text
