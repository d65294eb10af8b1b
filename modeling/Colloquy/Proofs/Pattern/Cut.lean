import Colloquy.Pattern.Search
import Mathlib.Data.List.Forall2

namespace Colloquy.Pattern

/-!
# Cuts of utterances

A cut of an utterance gives each token of a pattern its piece of the words, in
order and without a gap. A pattern matches exactly the utterances that have a
cut, and what a match says about captures and weights is read off one of them.

The search remembers failures and gives branches up early. Neither changes its
answer: it finds what `firstCut`, the same search without both, finds.
-/

/-- The token may take these words. -/
def Token.Takes : Token → List Text → Prop
  | .literal word, taken => taken = [word]
  | .wildcard .star, taken => taken ≠ []
  | .wildcard .underscore, taken => taken ≠ []
  | .wildcard .dollar, taken => ∃ word, taken = [word]
  | .wildcard .hash, _ => True
  | .group options, taken => taken ∈ options

/-- The pieces are the words, cut so that each token may take its piece. -/
structure IsCut
    (tokens : List Token)
    (words : List Text)
    (pieces : List (List Text)) :
    Prop where
  taken : List.Forall₂ Token.Takes tokens pieces
  joined : pieces.flatten = words

/-- The spans of the pieces that are not a literal's, counted from a position. -/
def capturedSpans :
    Nat →
    List Token →
    List (List Text) →
    List (Nat × Nat)
  | position, .literal _ :: tokens, piece :: pieces =>
      capturedSpans (position + piece.length) tokens pieces
  | position, _ :: tokens, piece :: pieces =>
      (position, position + piece.length) ::
        capturedSpans (position + piece.length) tokens pieces
  | _, _, _ => []

/-- The weight of each word of the pieces. -/
def pieceWeights :
    List Token →
    List (List Text) →
    List Nat
  | token :: tokens, piece :: pieces =>
      List.replicate piece.length token.weight ++ pieceWeights tokens pieces
  | _, _ => []

/-! ## What a token takes -/

/-- The words of a choice are words that the token may take. -/
theorem Token.takes_of_mem_choices
    {token : Token}
    {words : List Text}
    {choice : Nat × Nat}
    (member : choice ∈ token.choices words) :
    choice.2 ≤ words.length ∧ token.Takes (words.take choice.2) := by
  cases token with
  | literal word =>
      cases words with
      | nil =>
          simp [Token.choices] at member
      | cons first rest =>
          simp only [Token.choices, List.head?_cons, Option.some.injEq] at member
          split at member
          · next same =>
              simp only [List.mem_singleton] at member
              subst member same
              simp [Token.Takes]
          · simp at member
  | wildcard kind =>
      simp only [Token.choices, List.mem_map, List.mem_range'_1] at member
      obtain ⟨count, bounds, rfl⟩ := member
      cases kind <;>
        simp only [Wildcard.least, Wildcard.most] at bounds <;>
        refine ⟨by omega, ?_⟩
      case hash =>
          trivial
      case dollar =>
          have one : count = 1 := by omega
          subst one
          cases words with
          | nil =>
              simp at bounds
          | cons first rest =>
              exact ⟨first, by simp⟩
      all_goals
        simp only [Token.Takes, ne_eq, List.take_eq_nil_iff, not_or]
        refine ⟨by omega, ?_⟩
        rintro rfl
        simp at bounds
        omega
  | group options =>
      simp only [Token.choices, List.mem_filterMap, Prod.exists] at member
      obtain ⟨option, index, present, chosen⟩ := member
      split at chosen
      · next starts =>
          simp only [Option.some.injEq] at chosen
          subst chosen
          have isPrefix := List.isPrefixOf_iff_prefix.mp starts
          refine ⟨isPrefix.length_le, ?_⟩
          rw [Token.Takes, ← List.prefix_iff_eq_take.mp isPrefix]
          exact (List.mem_zipIdx' present).2 ▸ List.getElem_mem _
      · simp at chosen

/-- Words at the start that the token may take are the words of a choice. -/
theorem Token.mem_choices_of_takes
    {token : Token}
    {taken : List Text}
    (takes : token.Takes taken)
    (rest : List Text) :
    ∃ index, (index, taken.length) ∈ token.choices (taken ++ rest) := by
  cases token with
  | literal word =>
      simp only [Token.Takes] at takes
      subst takes
      exact ⟨0, by simp [Token.choices]⟩
  | wildcard kind =>
      refine ⟨taken.length, ?_⟩
      simp only [Token.choices, List.mem_map, List.mem_range'_1]
      refine ⟨taken.length, ?_, rfl⟩
      cases kind with
      | hash =>
          simp only [Wildcard.least, Wildcard.most, List.length_append]
          omega
      | dollar =>
          obtain ⟨word, rfl⟩ := takes
          simp [Wildcard.least, Wildcard.most]
      | star =>
          have some := List.length_pos_iff.mpr takes
          simp only [Wildcard.least, Wildcard.most, List.length_append]
          omega
      | underscore =>
          have some := List.length_pos_iff.mpr takes
          simp only [Wildcard.least, Wildcard.most, List.length_append]
          omega
  | group options =>
      obtain ⟨index, within, isOption⟩ := List.getElem_of_mem takes
      refine ⟨index, ?_⟩
      simp only [Token.choices, List.mem_filterMap, Prod.exists]
      refine ⟨taken, index, ?_, ?_⟩
      · rw [List.mk_mem_zipIdx_iff_getElem?]
        simp [within, isOption]
      · simp

/-- A token takes no fewer words than its least. -/
theorem Token.least_le_of_takes
    {token : Token}
    {taken : List Text}
    (takes : token.Takes taken) :
    token.least ≤ taken.length := by
  cases token with
  | literal word =>
      simp only [Token.Takes] at takes
      subst takes
      exact Nat.le_refl 1
  | wildcard kind =>
      cases kind with
      | hash =>
          exact Nat.zero_le _
      | dollar =>
          obtain ⟨word, rfl⟩ := takes
          exact Nat.le_refl 1
      | star =>
          exact List.length_pos_iff.mpr takes
      | underscore =>
          exact List.length_pos_iff.mpr takes
  | group options =>
      have member : taken.length ∈ options.map List.length :=
        List.mem_map_of_mem takes
      cases least : (options.map List.length).min? with
      | none =>
          rw [List.min?_eq_none_iff.mp least] at member
          simp at member
      | some fewest =>
          simp only [Token.least, least, Option.getD_some]
          exact (List.min?_eq_some_iff.mp least).2 _ member

/-- Tokens take no fewer words than their least together. -/
theorem IsCut.leastWords_le
    {tokens : List Token}
    {words : List Text}
    {pieces : List (List Text)}
    (cut : IsCut tokens words pieces) :
    leastWords tokens ≤ words.length := by
  obtain ⟨taken, joined⟩ := cut
  induction taken generalizing words with
  | nil =>
      exact Nat.zero_le _
  | cons takes _ inductionHypothesis =>
      have first := Token.least_le_of_takes takes
      have later := inductionHypothesis rfl
      subst joined
      simp only [leastWords, List.flatten_cons, List.length_append]
      omega

/-! ## The search without shortcuts -/

/-- The first cut in search order, each choice tried to its end. -/
def firstCut :
    List Token →
    Nat →
    List Text →
    Option (List Segment)
  | [], _, words => if words.isEmpty then some [] else none
  | token :: tokens, position, words =>
      (token.choices words).findSome? fun choice =>
        (firstCut tokens (position + choice.2) (words.drop choice.2)).map
          (⟨token, choice.1, position, position + choice.2⟩ :: ·)

/-- What the search finds is a cut, with its spans and weights. -/
theorem isCut_of_firstCut
    {tokens : List Token}
    {position : Nat}
    {words : List Text}
    {segments : List Segment}
    (found : firstCut tokens position words = some segments) :
    ∃ pieces,
      IsCut tokens words pieces ∧
        capturesOf segments = capturedSpans position tokens pieces ∧
        weightsOf segments = pieceWeights tokens pieces := by
  induction tokens generalizing position words segments with
  | nil =>
      simp only [firstCut] at found
      split at found
      · next empty =>
          simp only [Option.some.injEq] at found
          subst found
          exact ⟨[], ⟨.nil, (List.isEmpty_iff.mp empty).symm⟩, rfl, rfl⟩
      · simp at found
  | cons token tokens inductionHypothesis =>
      simp only [firstCut] at found
      obtain ⟨choice, member, answer⟩ := List.exists_of_findSome?_eq_some found
      obtain ⟨later, laterFound, rfl⟩ := Option.map_eq_some_iff.mp answer
      obtain ⟨within, takes⟩ := Token.takes_of_mem_choices member
      obtain ⟨pieces, cut, captures, weights⟩ := inductionHypothesis laterFound
      -- The piece of the first token is what its choice takes of the words.
      have pieceLength : (words.take choice.2).length = choice.2 :=
        List.length_take_of_le within
      refine ⟨words.take choice.2 :: pieces, ⟨.cons takes cut.taken, ?_⟩, ?_, ?_⟩
      · rw [List.flatten_cons, cut.joined, List.take_append_drop]
      · cases token <;>
          simp [capturesOf, capturedSpans, Token.captures, pieceLength, ← captures]
      · simp only [weightsOf, List.flatMap_cons, pieceWeights, pieceLength,
          Nat.add_sub_cancel_left]
        rw [← weights, weightsOf]

/-- Where there is a cut, the search finds one. -/
theorem IsCut.firstCut_isSome
    {tokens : List Token}
    {words : List Text}
    {pieces : List (List Text)}
    (cut : IsCut tokens words pieces)
    (position : Nat) :
    (firstCut tokens position words).isSome := by
  obtain ⟨taken, joined⟩ := cut
  induction taken generalizing position words with
  | nil =>
      subst joined
      rfl
  | @cons token piece tokens pieces takes _ inductionHypothesis =>
      subst joined
      obtain ⟨index, member⟩ := Token.mem_choices_of_takes takes pieces.flatten
      have later := inductionHypothesis (position + piece.length) rfl
      simp only [firstCut, List.flatten_cons, List.findSome?_isSome_iff]
      exact ⟨(index, piece.length), member, by simpa using later⟩

/-- The search finds nothing where fewer words are left than the tokens need. -/
theorem firstCut_eq_none_of_length_lt
    {tokens : List Token}
    {words : List Text}
    (tooFew : words.length < leastWords tokens)
    (position : Nat) :
    firstCut tokens position words = none := by
  cases found : firstCut tokens position words with
  | none =>
      rfl
  | some segments =>
      obtain ⟨pieces, cut, _⟩ := isCut_of_firstCut found
      have enough := cut.leastWords_le
      omega

/-! ## Remembered failures -/

/-- From every position that is remembered for a token, the rest of the pattern has no cut. -/
def FailuresHold
    (all : List Text) :
    List Token →
    FailedPositions →
    Prop
  -- Positions are counted in all words, so a failure of one branch holds in every other.
  | token :: tokens, here :: later =>
      (∀ position ∈ here,
        firstCut (token :: tokens) position (all.drop position) = none) ∧
        FailuresHold all tokens later
  | _, _ => True

namespace FailuresHold

variable {all : List Text} {token : Token} {tokens : List Token} {failed : FailedPositions}

theorem nil (tokens : List Token) : FailuresHold all tokens [] := by
  cases tokens <;> trivial

/-- A position that is marked as failed has no cut. -/
theorem head
    (hold : FailuresHold all (token :: tokens) failed)
    {position : Nat}
    (member : position ∈ failed.headD []) :
    firstCut (token :: tokens) position (all.drop position) = none := by
  cases failed with
  | nil =>
      simp at member
  | cons here later =>
      exact hold.1 position member

theorem tail
    (hold : FailuresHold all (token :: tokens) failed) :
    FailuresHold all tokens failed.tail := by
  cases failed with
  | nil =>
      exact .nil tokens
  | cons here later =>
      exact hold.2

/-- A position without a cut may be marked as failed. -/
theorem remember
    (hold : FailuresHold all (token :: tokens) failed)
    {later : FailedPositions}
    (laterHold : FailuresHold all tokens later)
    {position : Nat}
    (fails : firstCut (token :: tokens) position (all.drop position) = none) :
    FailuresHold all (token :: tokens) ((position :: failed.headD []) :: later) := by
  refine ⟨?_, laterHold⟩
  intro other member
  rcases List.mem_cons.mp member with isNew | isOld
  · rw [isNew]
    exact fails
  · exact hold.head isOld

theorem keep
    (hold : FailuresHold all (token :: tokens) failed)
    {later : FailedPositions}
    (laterHold : FailuresHold all tokens later) :
    FailuresHold all (token :: tokens) (failed.headD [] :: later) :=
  ⟨fun _ member => hold.head member, laterHold⟩

end FailuresHold

/-- Trying choices gives the first answer if every attempt gives its own and keeps a property. -/
theorem tryChoices_eq_findSome?
    {attempt : Nat × Nat → FailedPositions → SearchResult}
    {answer : Nat × Nat → Option (List Segment)}
    {Kept : FailedPositions → Prop}
    (attempts : ∀ choice failed, Kept failed →
      (attempt choice failed).1 = answer choice ∧ Kept (attempt choice failed).2)
    (choices : List (Nat × Nat))
    {failed : FailedPositions}
    (kept : Kept failed) :
    (tryChoices attempt choices failed).1 = choices.findSome? answer ∧
      Kept (tryChoices attempt choices failed).2 := by
  induction choices generalizing failed with
  | nil =>
      exact ⟨rfl, kept⟩
  | cons choice rest inductionHypothesis =>
      obtain ⟨same, stillKept⟩ := attempts choice failed kept
      rw [tryChoices, List.findSome?_cons, ← same]
      rcases result : attempt choice failed with ⟨segments?, after⟩
      rw [result] at stillKept
      cases segments? with
      | none =>
          exact inductionHypothesis stillKept
      | some segments =>
          exact ⟨rfl, stillKept⟩

/-- The search with its shortcuts finds what the search without them finds. -/
theorem search_eq_firstCut
    (all : List Text)
    (tokens : List Token)
    (position : Nat)
    {failed : FailedPositions}
    (hold : FailuresHold all tokens failed) :
    (search tokens position (all.drop position) failed).1 =
        firstCut tokens position (all.drop position) ∧
      FailuresHold all tokens (search tokens position (all.drop position) failed).2 := by
  induction tokens generalizing position failed with
  | nil =>
      exact ⟨rfl, hold⟩
  | cons token tokens inductionHypothesis =>
      simp only [search]
      split
      · next remembered =>
          have member : position ∈ failed.headD [] := by simpa using remembered
          exact ⟨(hold.head member).symm, hold⟩
      · split
        · next tooFew =>
            have fails := firstCut_eq_none_of_length_lt tooFew position
            exact ⟨fails.symm, hold.remember hold.tail fails⟩
        · -- The attempts at one position share the failures of the later tokens.
          have attempts (choice : Nat × Nat) (failed : FailedPositions)
              (kept : FailuresHold all tokens failed) :
              (prepend ⟨token, choice.1, position, position + choice.2⟩
                  (search tokens (position + choice.2)
                    ((all.drop position).drop choice.2) failed)).1 =
                (firstCut tokens (position + choice.2)
                  ((all.drop position).drop choice.2)).map
                    (⟨token, choice.1, position, position + choice.2⟩ :: ·) ∧
              FailuresHold all tokens
                (prepend ⟨token, choice.1, position, position + choice.2⟩
                  (search tokens (position + choice.2)
                    ((all.drop position).drop choice.2) failed)).2 := by
            rw [List.drop_drop]
            obtain ⟨same, stillKept⟩ := inductionHypothesis (position + choice.2) kept
            rw [prepend, same]
            exact ⟨rfl, stillKept⟩
          have tried := tryChoices_eq_findSome? attempts
            (token.choices (all.drop position)) hold.tail
          split
          · next segments later found =>
              rw [found] at tried
              exact ⟨tried.1, hold.keep tried.2⟩
          · next later found =>
              rw [found] at tried
              exact ⟨tried.1, hold.remember tried.2 tried.1.symm⟩

/-! ## Matches -/

/-- A pattern's match says what the first cut of the utterance says. -/
theorem match?_eq_firstCut
    (pattern : Pattern)
    (utterance : Utterance) :
    pattern.match? utterance =
      (firstCut pattern.tokens 0 utterance.upper).map fun segments =>
        ⟨capturesOf segments, weightsOf segments, pattern.wildcardCount⟩ := by
  have same :=
    (search_eq_firstCut utterance.upper pattern.tokens 0 (.nil pattern.tokens)).1
  rw [List.drop_zero] at same
  rw [match?, same]

/-- Each word has a weight. -/
theorem IsCut.length_pieceWeights
    {tokens : List Token}
    {words : List Text}
    {pieces : List (List Text)}
    (cut : IsCut tokens words pieces) :
    (pieceWeights tokens pieces).length = words.length := by
  obtain ⟨taken, joined⟩ := cut
  induction taken generalizing words with
  | nil =>
      subst joined
      rfl
  | cons _ _ inductionHypothesis =>
      subst joined
      simp [pieceWeights, inductionHypothesis rfl]

/-- Each token that captures has a span. -/
theorem IsCut.length_capturedSpans
    {tokens : List Token}
    {words : List Text}
    {pieces : List (List Text)}
    (cut : IsCut tokens words pieces)
    (position : Nat) :
    (capturedSpans position tokens pieces).length = tokens.countP Token.captures := by
  obtain ⟨taken, joined⟩ := cut
  induction taken generalizing words position with
  | nil =>
      rfl
  | @cons token piece _ _ _ _ inductionHypothesis =>
      have later := inductionHypothesis (position + piece.length) rfl
      cases token <;> simp [capturedSpans, Token.captures, List.countP_cons, later]

/--
A pattern matches an utterance exactly if the words have a cut, and then the
captures and weights are those of a cut: a span for each wildcard and group in
order, and a weight for each word.
-/
theorem match?_isSome_iff_cut
    (source : Text)
    (utterance : Utterance) :
    (((compile source).match? utterance).isSome ↔
        ∃ pieces, IsCut (compile source).tokens utterance.upper pieces) ∧
      ∀ found, (compile source).match? utterance = some found →
        ∃ pieces,
          IsCut (compile source).tokens utterance.upper pieces ∧
            found.captures = capturedSpans 0 (compile source).tokens pieces ∧
            found.captures.length = (compile source).tokens.countP Token.captures ∧
            found.weights = pieceWeights (compile source).tokens pieces ∧
            found.weights.length = utterance.length := by
  have isCut (found : Match) (matched : (compile source).match? utterance = some found) :
      ∃ pieces,
        IsCut (compile source).tokens utterance.upper pieces ∧
          found.captures = capturedSpans 0 (compile source).tokens pieces ∧
          found.weights = pieceWeights (compile source).tokens pieces := by
    rw [match?_eq_firstCut] at matched
    obtain ⟨segments, first, rfl⟩ := Option.map_eq_some_iff.mp matched
    exact isCut_of_firstCut first
  refine ⟨⟨?_, ?_⟩, ?_⟩
  · intro matched
    obtain ⟨found, isFound⟩ := Option.isSome_iff_exists.mp matched
    obtain ⟨pieces, cut, _⟩ := isCut found isFound
    exact ⟨pieces, cut⟩
  · rintro ⟨pieces, cut⟩
    rw [match?_eq_firstCut, Option.isSome_map]
    exact cut.firstCut_isSome 0
  · intro found matched
    obtain ⟨pieces, cut, captures, weights⟩ := isCut found matched
    refine ⟨pieces, cut, captures, ?_, weights, ?_⟩
    · rw [captures]
      exact cut.length_capturedSpans 0
    · rw [weights, cut.length_pieceWeights]
      exact List.length_map _

/-- A group, a wildcard with a word and one without a word, each with its span. -/
theorem match?_isSome_iff_cut_groups :
    ∃ found,
      (compile "I (like|really love) * #".toList).match?
          (Utterance.scan "I really love cats!".toList) = some found ∧
        ∃ pieces,
          IsCut (compile "I (like|really love) * #".toList).tokens
              (Utterance.scan "I really love cats!".toList).upper pieces ∧
            found.captures =
              capturedSpans 0 (compile "I (like|really love) * #".toList).tokens pieces ∧
            found.captures.length =
              (compile "I (like|really love) * #".toList).tokens.countP Token.captures ∧
            found.weights =
              pieceWeights (compile "I (like|really love) * #".toList).tokens pieces ∧
            found.weights.length = (Utterance.scan "I really love cats!".toList).length :=
  ⟨⟨[(1, 3), (3, 4), (4, 4)], [5, 4, 4, 1], 2⟩, by decide +kernel,
    (match?_isSome_iff_cut _ _).2 _ (by decide +kernel)⟩

end Colloquy.Pattern
