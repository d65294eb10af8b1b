import Colloquy.Proofs.Pattern.Cut

namespace Colloquy.Pattern

/-!
# The first alignment

An alignment is a cut that also tells the choices of the tokens: how many words
a wildcard takes, and which of its options a group takes. Alignments are ordered
by their choices, the first token whose choices differ deciding.

A match is read off the first of all alignments. It is the one that the search
would find without remembering failures and without giving branches up.
-/

/-- What a token is given: its choice and the words that it takes. -/
structure Part where
  choice : Nat
  words : List Text
  deriving DecidableEq, Repr

/-- The token may make the choice, and takes the words by it. -/
def Token.Chooses : Token → Part → Prop
  | .literal word, part => part.choice = 0 ∧ part.words = [word]
  | .wildcard kind, part =>
      part.choice = part.words.length ∧ (Token.wildcard kind).Takes part.words
  | .group options, part => options[part.choice]? = some part.words

/-- The parts are the words, cut so that each token may choose its part. -/
structure IsAlignment
    (tokens : List Token)
    (words : List Text)
    (parts : List Part) :
    Prop where
  chosen : List.Forall₂ Token.Chooses tokens parts
  joined : (parts.map Part.words).flatten = words

/-- The choices come before those of every other alignment. -/
structure IsFirst
    (tokens : List Token)
    (words : List Text)
    (parts : List Part) :
    Prop where
  aligned : IsAlignment tokens words parts
  before : ∀ other, IsAlignment tokens words other → other ≠ parts →
    List.Lex (· < ·) (parts.map Part.choice) (other.map Part.choice)

/-- The segments of an alignment, counted from a position. -/
def segmentsOf :
    Nat →
    List Token →
    List Part →
    List Segment
  | position, token :: tokens, part :: parts =>
      ⟨token, part.choice, position, position + part.words.length⟩ ::
        segmentsOf (position + part.words.length) tokens parts
  | _, _, _ => []

/-- What a match says about an alignment. -/
def Match.ofParts
    (pattern : Pattern)
    (parts : List Part) :
    Match where
  captures := capturedSpans 0 pattern.tokens (parts.map Part.words)
  weights := pieceWeights pattern.tokens (parts.map Part.words)
  wildcards := pattern.wildcardCount

/-! ## Choices -/

/-- A token tries its choices in ascending order. -/
theorem Token.ascending_choices
    (token : Token)
    (words : List Text) :
    (token.choices words).Pairwise fun first second => first.1 < second.1 := by
  cases token with
  | literal word =>
      simp only [Token.choices]
      split
      · exact List.pairwise_singleton _ _
      · exact List.Pairwise.nil
  | wildcard kind =>
      simp only [Token.choices, List.pairwise_map]
      exact List.pairwise_lt_range' 1
  | group options =>
      have ascending : options.zipIdx.Pairwise fun first second => first.2 < second.2 := by
        rw [← List.pairwise_map, List.zipIdx_map_snd]
        exact List.pairwise_lt_range' 1
      refine ascending.filterMap _ ?_
      rintro ⟨_, _⟩ ⟨_, _⟩ less first isFirst second isSecond
      simp only [Option.ite_none_right_eq_some, Option.some.injEq] at isFirst isSecond
      rw [← isFirst.2, ← isSecond.2]
      exact less

/-- A wildcard's choice is the number of words that it takes. -/
theorem Token.choice_eq_of_mem_choices
    {kind : Wildcard}
    {words : List Text}
    {choice : Nat × Nat}
    (member : choice ∈ (Token.wildcard kind).choices words) :
    choice.1 = choice.2 := by
  simp only [Token.choices, List.mem_map] at member
  obtain ⟨count, _, rfl⟩ := member
  rfl

theorem Token.chooses_of_mem_choices
    {token : Token}
    {words : List Text}
    {choice : Nat × Nat}
    (member : choice ∈ token.choices words) :
    token.Chooses ⟨choice.1, words.take choice.2⟩ := by
  obtain ⟨within, takes⟩ := Token.takes_of_mem_choices member
  cases token with
  | literal word =>
      simp only [Token.choices, List.mem_ite_nil_right, List.mem_singleton] at member
      exact ⟨by rw [member.2], takes⟩
  | wildcard kind =>
      refine ⟨?_, takes⟩
      rw [Token.choice_eq_of_mem_choices member, List.length_take_of_le within]
  | group options =>
      simp only [Token.choices, List.mem_filterMap, Prod.exists, Option.ite_none_right_eq_some,
        Option.some.injEq] at member
      obtain ⟨option, index, present, starts, rfl⟩ := member
      have isPrefix := List.isPrefixOf_iff_prefix.mp starts
      rw [Token.Chooses, ← List.prefix_iff_eq_take.mp isPrefix]
      exact List.mk_mem_zipIdx_iff_getElem?.mp present

/-- What a token chooses it may take. -/
theorem Token.Chooses.takes
    {token : Token}
    {part : Part}
    (chooses : token.Chooses part) :
    token.Takes part.words := by
  cases token with
  | literal word =>
      exact chooses.2
  | wildcard kind =>
      exact chooses.2
  | group options =>
      exact List.mem_of_getElem? chooses

/-- What a token may choose at the start of words is among its choices there. -/
theorem Token.Chooses.mem_choices
    {token : Token}
    {part : Part}
    (chooses : token.Chooses part)
    (rest : List Text) :
    (part.choice, part.words.length) ∈ token.choices (part.words ++ rest) := by
  cases token with
  | literal word =>
      simp [Token.choices, chooses.1, chooses.2]
  | wildcard kind =>
      obtain ⟨index, member⟩ := Token.mem_choices_of_takes chooses.takes rest
      have isCount : index = part.words.length := Token.choice_eq_of_mem_choices member
      rw [chooses.1]
      rwa [isCount] at member
  | group options =>
      simp only [Token.choices, List.mem_filterMap, Prod.exists]
      exact ⟨part.words, part.choice, List.mk_mem_zipIdx_iff_getElem?.mpr chooses, by simp⟩

/-! ## Alignments -/

namespace IsAlignment

variable
  {token : Token}
  {tokens : List Token}
  {words : List Text}
  {parts : List Part}

/-- An alignment cuts the words. -/
theorem isCut
    (aligned : IsAlignment tokens words parts) :
    IsCut tokens words (parts.map Part.words) := by
  refine ⟨?_, aligned.joined⟩
  rw [List.forall₂_map_right_iff]
  exact aligned.chosen.imp fun _ _ => Token.Chooses.takes

/-- A choice of the first token and an alignment of the words behind it. -/
theorem cons
    {choice : Nat × Nat}
    (member : choice ∈ token.choices words)
    (aligned : IsAlignment tokens (words.drop choice.2) parts) :
    IsAlignment (token :: tokens) words (⟨choice.1, words.take choice.2⟩ :: parts) := by
  refine ⟨.cons (Token.chooses_of_mem_choices member) aligned.chosen, ?_⟩
  rw [List.map_cons, List.flatten_cons, aligned.joined, List.take_append_drop]

/-- Every alignment is made of a choice of the first token and an alignment of the words behind it. -/
theorem exists_choice
    (aligned : IsAlignment (token :: tokens) words parts) :
    ∃ choice ∈ token.choices words, ∃ later,
      parts = ⟨choice.1, words.take choice.2⟩ :: later ∧
        IsAlignment tokens (words.drop choice.2) later := by
  obtain ⟨chosen, joined⟩ := aligned
  cases chosen with
  | @cons _ part _ later chooses laterChosen =>
      subst joined
      rw [List.map_cons, List.flatten_cons]
      refine ⟨(part.choice, part.words.length), chooses.mem_choices _, later, ?_, laterChosen, ?_⟩
      · rw [List.take_left]
      · rw [List.drop_left]

end IsAlignment

/-- There is only one first alignment. -/
theorem IsFirst.eq
    {tokens : List Token}
    {words : List Text}
    {parts others : List Part}
    (first : IsFirst tokens words parts)
    (second : IsFirst tokens words others) :
    parts = others := by
  by_contra different
  have forth := first.before others second.aligned fun same => different same.symm
  have back := second.before parts first.aligned different
  exact List.lex_asymm (r := (· < ·)) Nat.lt_asymm forth back

/-! ## The search -/

/-- What the search without shortcuts finds is the first alignment. -/
theorem isFirst_of_firstCut
    {tokens : List Token}
    {position : Nat}
    {words : List Text}
    {segments : List Segment}
    (found : firstCut tokens position words = some segments) :
    ∃ parts, IsFirst tokens words parts ∧ segments = segmentsOf position tokens parts := by
  induction tokens generalizing position words segments with
  | nil =>
      simp only [firstCut, List.isEmpty_iff, Option.ite_none_right_eq_some,
        Option.some.injEq] at found
      obtain ⟨rfl, rfl⟩ := found
      refine ⟨[], ⟨⟨.nil, rfl⟩, ?_⟩, rfl⟩
      intro other aligned different
      exact absurd (List.forall₂_nil_left_iff.mp aligned.chosen) different
  | cons token tokens inductionHypothesis =>
      simp only [firstCut] at found
      obtain ⟨earlier, choice, later, choices, answer, failed⟩ :=
        List.findSome?_eq_some_iff.mp found
      obtain ⟨laterSegments, laterFound, rfl⟩ := Option.map_eq_some_iff.mp answer
      obtain ⟨parts, first, rfl⟩ := inductionHypothesis laterFound
      have member : choice ∈ token.choices words := by simp [choices]
      refine ⟨⟨choice.1, words.take choice.2⟩ :: parts, ⟨.cons member first.aligned, ?_⟩, ?_⟩
      · intro other aligned different
        obtain ⟨chosen, isChoice, rest, rfl, restAligned⟩ := aligned.exists_choice
        rw [choices, List.mem_append, List.mem_cons] at isChoice
        rcases isChoice with isEarlier | rfl | isLater
        · -- The words behind an earlier choice have no cut, or the search had stopped there.
          have noCut := Option.map_eq_none_iff.mp (failed chosen isEarlier)
          have someCut := restAligned.isCut.firstCut_isSome (position + chosen.2)
          simp [noCut] at someCut
        · refine .cons (first.before rest restAligned ?_)
          rintro rfl
          exact different rfl
        · have ascending := token.ascending_choices words
          rw [choices, List.pairwise_append, List.pairwise_cons] at ascending
          exact .rel (ascending.2.1.1 chosen isLater)
      · have within := (Token.takes_of_mem_choices member).1
        simp only [segmentsOf, List.length_take_of_le within]

/-- The search without shortcuts finds exactly the first alignment. -/
theorem firstCut_eq_some_iff
    {tokens : List Token}
    {position : Nat}
    {words : List Text}
    {segments : List Segment} :
    firstCut tokens position words = some segments ↔
      ∃ parts, IsFirst tokens words parts ∧ segments = segmentsOf position tokens parts := by
  constructor
  · exact isFirst_of_firstCut
  · rintro ⟨parts, first, rfl⟩
    obtain ⟨found, isFound⟩ :=
      Option.isSome_iff_exists.mp (first.aligned.isCut.firstCut_isSome position)
    obtain ⟨others, second, rfl⟩ := isFirst_of_firstCut isFound
    rw [isFound, first.eq second]

/-! ## Matches -/

theorem capturesOf_segmentsOf
    (position : Nat)
    (tokens : List Token)
    (parts : List Part) :
    capturesOf (segmentsOf position tokens parts) =
      capturedSpans position tokens (parts.map Part.words) := by
  induction tokens generalizing position parts with
  | nil =>
      rfl
  | cons token tokens inductionHypothesis =>
      cases parts with
      | nil =>
          cases token <;> rfl
      | cons part parts =>
          cases token <;>
            simp [segmentsOf, capturesOf, capturedSpans, Token.captures, ← inductionHypothesis]

theorem weightsOf_segmentsOf
    (position : Nat)
    (tokens : List Token)
    (parts : List Part) :
    weightsOf (segmentsOf position tokens parts) =
      pieceWeights tokens (parts.map Part.words) := by
  induction tokens generalizing position parts with
  | nil =>
      rfl
  | cons token tokens inductionHypothesis =>
      cases parts with
      | nil =>
          rfl
      | cons part parts =>
          simp only [weightsOf] at inductionHypothesis
          simp [segmentsOf, weightsOf, pieceWeights, inductionHypothesis]

/--
The search finds the first of all alignments, and a match is read off it. The
same search finds it that tries every choice to its end.
-/
theorem match?_takesFirstAlignment
    (pattern : Pattern)
    (utterance : Utterance) :
    (∀ segments,
      (search pattern.tokens 0 utterance.upper []).1 = some segments ↔
        ∃ parts,
          IsFirst pattern.tokens utterance.upper parts ∧
            segments = segmentsOf 0 pattern.tokens parts) ∧
      (∀ found,
        pattern.match? utterance = some found ↔
          ∃ parts,
            IsFirst pattern.tokens utterance.upper parts ∧
              found = Match.ofParts pattern parts) ∧
      (search pattern.tokens 0 utterance.upper []).1 =
        firstCut pattern.tokens 0 utterance.upper := by
  have same : (search pattern.tokens 0 utterance.upper []).1 =
      firstCut pattern.tokens 0 utterance.upper :=
    (search_eq_firstCut utterance.upper pattern.tokens 0 (.nil pattern.tokens)).1
  refine ⟨?_, ?_, same⟩
  · intro segments
    rw [same]
    exact firstCut_eq_some_iff
  · intro found
    rw [match?_eq_firstCut, Option.map_eq_some_iff]
    constructor
    · rintro ⟨segments, isFound, rfl⟩
      obtain ⟨parts, first, rfl⟩ := firstCut_eq_some_iff.mp isFound
      exact ⟨parts, first, by rw [capturesOf_segmentsOf, weightsOf_segmentsOf]; rfl⟩
    · rintro ⟨parts, first, rfl⟩
      refine ⟨segmentsOf 0 pattern.tokens parts, firstCut_eq_some_iff.mpr ⟨parts, first, rfl⟩, ?_⟩
      rw [capturesOf_segmentsOf, weightsOf_segmentsOf]
      rfl

end Colloquy.Pattern
