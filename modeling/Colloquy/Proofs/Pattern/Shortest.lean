import Colloquy.Proofs.Pattern.Saying

namespace Colloquy.Pattern

/-!
# Saying as little as possible

For every pattern there is a text that it matches and that has as few words as the
tokens of the pattern take together. There each token takes its fewest words, so that
the text is cut in one way only, even for another pattern whose tokens take as few.
-/

variable
  {tokens : List Token}
  {words : List Text}
  {pieces : List (List Text)}

/-- The fewest words are those of each token together. -/
theorem leastWords_eq_foldr (tokens : List Token) :
    leastWords tokens = (tokens.map Token.least).foldr (· + ·) 0 := by
  induction tokens with
  | nil =>
      rfl
  | cons token rest inductionHypothesis =>
      rw [leastWords, inductionHypothesis, List.map_cons, List.foldr_cons]

/-- Where there are no more words than needed, each token takes its fewest. -/
theorem IsCut.map_length_of_fewest
    (cut : IsCut tokens words pieces)
    (fewest : words.length = leastWords tokens) :
    pieces.map List.length = tokens.map Token.least := by
  obtain ⟨taken, joined⟩ := cut
  induction taken generalizing words with
  | nil =>
      rfl
  | @cons token piece tokens pieces takes taken inductionHypothesis =>
      have first := Token.least_le_of_takes takes
      have later := IsCut.leastWords_le ⟨taken, rfl⟩
      rw [← joined, List.flatten_cons, List.length_append, leastWords] at fewest
      rw [List.map_cons, List.map_cons, inductionHypothesis (by omega) rfl]
      congr 1
      omega

/-- An utterance without a word to spare is cut in one way only. -/
theorem IsCut.eq_of_fewest
    {tokens' : List Token}
    {pieces' : List (List Text)}
    (cut : IsCut tokens words pieces)
    (fewest : words.length = leastWords tokens)
    (cut' : IsCut tokens' words pieces')
    (sameLeast : tokens.map Token.least = tokens'.map Token.least) :
    pieces = pieces' := by
  have fewest' : words.length = leastWords tokens' := by
    rw [fewest, leastWords_eq_foldr, sameLeast, leastWords_eq_foldr]
  refine List.eq_iff_flatten_eq.mpr ⟨cut.joined.trans cut'.joined.symm, ?_⟩
  rw [cut.map_length_of_fewest fewest, cut'.map_length_of_fewest fewest', sameLeast]

/-! ## Texts with the fewest words -/

/-- The text has words that the token may take, and as few as it may. -/
def Token.TakesFewest
    (token : Token)
    (text : Text) :
    Prop :=
  token.Takes (optionWords text) ∧ (optionWords text).length = token.least

theorem exists_takesFewest_wildcard (kind : Wildcard) :
    ∃ text, (Token.wildcard kind).TakesFewest text := by
  have oneWord : optionWords ['A'] = [['A']] := by
    decide +kernel
  cases kind with
  | hash =>
      exact ⟨[], trivial, rfl⟩
  | dollar =>
      exact ⟨['A'], ⟨['A'], oneWord⟩, congrArg List.length oneWord⟩
  | star =>
      exact ⟨['A'], oneWord ▸ List.cons_ne_nil _ _, congrArg List.length oneWord⟩
  | underscore =>
      exact ⟨['A'], oneWord ▸ List.cons_ne_nil _ _, congrArg List.length oneWord⟩

/-- Some option has the fewest words. -/
theorem exists_shortest_option
    {options : List (List Text)}
    (nonempty : options ≠ []) :
    ∃ option ∈ options, option.length = (Token.group options).least := by
  cases shortest : (options.map List.length).min? with
  | none =>
      rw [List.min?_eq_none_iff, List.map_eq_nil_iff] at shortest
      exact absurd shortest nonempty
  | some least =>
      obtain ⟨option, isOption, rfl⟩ := List.mem_map.mp (List.min?_mem shortest)
      exact ⟨option, isOption, by rw [Token.least, shortest, Option.getD_some]⟩

/-- For every group there is a text without a word to spare. -/
theorem exists_takesFewest_group
    {inside : Text}
    {token : Token}
    (isToken : groupToken? inside = some token) :
    ∃ text, token.TakesFewest text := by
  simp only [groupToken?] at isToken
  split at isToken
  · simp at isToken
  · next nonempty =>
      obtain rfl := Option.some.inj isToken
      obtain ⟨option, isOption, fewest⟩ :=
        exists_shortest_option (mt List.isEmpty_iff.mpr nonempty)
      obtain ⟨part, -, rfl⟩ := List.mem_map.mp (List.mem_filter.mp isOption).1
      exact ⟨part, isOption, fewest⟩

/-- For every item there is a text without a word to spare. -/
theorem Item.exists_takesFewest
    {item : Item}
    (isWritten : item.IsWritten)
    {token : Token}
    (isToken : item.token? = some token) :
    ∃ text, token.TakesFewest text := by
  cases item with
  | word characters behindGroup =>
      simp only [token?, wordToken?] at isToken
      cases wildcard : Wildcard.ofWord? characters with
      | some kind =>
          obtain rfl : .wildcard kind = token := by simpa [wildcard] using isToken
          exact exists_takesFewest_wildcard kind
      | none =>
          rw [wildcard] at isToken
          obtain ⟨normal, isNormal, rfl⟩ := Option.map_eq_some_iff.mp isToken
          have oneWord : optionWords characters = [normal] := by
            rw [optionWords_of_isWord isWritten, isNormal]
            rfl
          exact ⟨characters, oneWord, congrArg List.length oneWord⟩
  | group inside =>
      exact exists_takesFewest_group isToken

/-- For all items there are texts without a word to spare. -/
theorem exists_texts_fewest
    {items : List Item}
    (areWritten : ∀ item ∈ items, item.IsWritten) :
    ∃ (texts : List Text) (pieces : List (List Text)),
      IsCut (items.filterMap Item.token?) (texts.flatMap optionWords) pieces ∧
        (texts.flatMap optionWords).length = leastWords (items.filterMap Item.token?) := by
  induction items with
  | nil =>
      exact ⟨[], [], ⟨.nil, rfl⟩, rfl⟩
  | cons item rest inductionHypothesis =>
      obtain ⟨isWritten, restWritten⟩ := List.forall_mem_cons.mp areWritten
      obtain ⟨texts, pieces, cut, fewest⟩ := inductionHypothesis restWritten
      cases isToken : item.token? with
      | none =>
          rw [List.filterMap_cons_none isToken]
          exact ⟨texts, pieces, cut, fewest⟩
      | some token =>
          obtain ⟨text, takes, least⟩ := item.exists_takesFewest isWritten isToken
          rw [List.filterMap_cons_some isToken]
          refine ⟨text :: texts, optionWords text :: pieces, ⟨.cons takes cut.taken, ?_⟩, ?_⟩
          · rw [List.flatten_cons, cut.joined, List.flatMap_cons]
          · rw [List.flatMap_cons, List.length_append, least, fewest, leastWords]

/-- Every pattern can be said without a word to spare. -/
theorem Laid.exists_isCut_fewest
    {behind : Bool}
    {pattern : Text}
    {items : List Item}
    (laid : Laid behind pattern items) :
    ∃ text pieces,
      IsCut (items.filterMap Item.token?) (Utterance.scan text).upper pieces ∧
        (Utterance.scan text).upper.length = leastWords (items.filterMap Item.token?) := by
  obtain ⟨texts, pieces, cut, fewest⟩ := exists_texts_fewest laid.isWritten
  refine ⟨Text.unwords texts, pieces, ?_⟩
  rw [upper_scan, optionWords_unwords]
  exact ⟨cut, fewest⟩

end Colloquy.Pattern
