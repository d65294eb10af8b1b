import Colloquy.Proofs.Pattern.Cut
import Colloquy.Proofs.Rule.Index

namespace Colloquy

/-!
# Activation loses no match

A rule whose pattern matches an utterance is reached through the indexes, since
the utterance begins with one of its first words, and is admitted, since the
utterance contains the words that the pattern requires. Both are read off a cut.
What is activated are the rules with these two properties, in their order.
-/

namespace Pattern

/-! ## Groups as they are read -/

/-- A group has no option without words. -/
theorem not_mem_of_groupToken?
    {inside : Text}
    {options : List (List Text)}
    (found : groupToken? inside = some (.group options)) :
    [] ∉ options := by
  simp only [groupToken?] at found
  split at found
  · simp at found
  · simp only [Option.some.injEq, Token.group.injEq] at found
    subst found
    simp [optionsOf]

theorem not_mem_of_nextToken
    {c : Char}
    {rest : Text}
    {options : List (List Text)}
    (found : (nextToken c rest).1 = some (.group options)) :
    [] ∉ options := by
  simp only [nextToken] at found
  split at found
  · exact not_mem_of_groupToken? found
  · simp only [wordToken?] at found
    split at found
    · simp at found
    · simp [Option.map_eq_some_iff] at found

/-- The groups of a pattern have no option without words. -/
theorem not_mem_of_group_mem_tokensOf
    {text : Text}
    {options : List (List Text)}
    (member : Token.group options ∈ tokensOf text) :
    [] ∉ options := by
  fun_induction tokensOf text with
  | case1 =>
      simp at member
  | case2 text c rest trimmed inductionHypothesis =>
      rcases List.mem_append.mp member with isNext | isLater
      · exact not_mem_of_nextToken (by simpa using isNext)
      · exact inductionHypothesis isLater

/-! ## Words that a cut shows -/

/-- Each token takes one of the pieces. -/
theorem IsCut.exists_piece
    {tokens : List Token}
    {words : List Text}
    {pieces : List (List Text)}
    (cut : IsCut tokens words pieces)
    {token : Token}
    (member : token ∈ tokens) :
    ∃ piece ∈ pieces, token.Takes piece := by
  have taken := cut.taken
  clear cut
  induction taken with
  | nil =>
      simp at member
  | @cons first piece rest pieces takes _ inductionHypothesis =>
      rcases List.mem_cons.mp member with isFirst | isLater
      · subst isFirst
        exact ⟨piece, by simp, takes⟩
      · obtain ⟨later, isPiece, laterTakes⟩ := inductionHypothesis isLater
        exact ⟨later, List.mem_cons_of_mem _ isPiece, laterTakes⟩

/-- A word of a piece is one of the words. -/
theorem IsCut.mem_of_mem_piece
    {tokens : List Token}
    {words : List Text}
    {pieces : List (List Text)}
    (cut : IsCut tokens words pieces)
    {piece : List Text}
    (isPiece : piece ∈ pieces)
    {word : Text}
    (member : word ∈ piece) :
    word ∈ words := by
  rw [← cut.joined]
  exact List.mem_flatten.mpr ⟨piece, isPiece, member⟩

variable {source : Text} {words : List Text} {pieces : List (List Text)}

/-- The words that a pattern requires are among the words of a cut. -/
theorem IsCut.requiredWords_mem
    (cut : IsCut (compile source).tokens words pieces)
    {word : Text}
    (required : word ∈ (compile source).requiredWords) :
    word ∈ words := by
  rw [requiredWords, Ordered.mem_ofList, List.mem_filterMap] at required
  obtain ⟨token, isToken, isLiteral⟩ := required
  obtain ⟨piece, isPiece, takes⟩ := cut.exists_piece isToken
  cases token with
  | literal literal =>
      simp only [Option.some.injEq] at isLiteral
      subst isLiteral
      simp only [Token.Takes] at takes
      exact cut.mem_of_mem_piece isPiece (by simp [takes])
  | wildcard kind =>
      simp at isLiteral
  | group options =>
      simp at isLiteral

/-- Of the words of every group one is among the words of a cut. -/
theorem IsCut.exists_alternative
    (cut : IsCut (compile source).tokens words pieces)
    {alternatives : List Text}
    (isGroup : alternatives ∈ (compile source).alternativeWords) :
    ∃ word ∈ alternatives, word ∈ words := by
  obtain ⟨token, isToken, isAlternatives⟩ := List.mem_filterMap.mp isGroup
  obtain ⟨piece, isPiece, takes⟩ := cut.exists_piece isToken
  cases token with
  | literal literal =>
      simp at isAlternatives
  | wildcard kind =>
      simp at isAlternatives
  | group options =>
      simp only [Option.some.injEq] at isAlternatives
      subst isAlternatives
      simp only [Token.Takes] at takes
      cases piece with
      | nil =>
          exact absurd takes (not_mem_of_group_mem_tokensOf isToken)
      | cons word rest =>
          refine ⟨word, ?_, cut.mem_of_mem_piece isPiece (by simp)⟩
          rw [Ordered.mem_ofList]
          exact List.mem_flatten.mpr ⟨word :: rest, takes, by simp⟩

/-- The words of a cut begin with one of the pattern's first words, if it has any. -/
theorem IsCut.head?_mem_firstWords
    (cut : IsCut (compile source).tokens words pieces)
    {first : List Text}
    (isFirst : (compile source).firstWords? = some first) :
    ∃ word ∈ first, words.head? = some word := by
  obtain ⟨taken, joined⟩ := cut
  cases tokens : (compile source).tokens with
  | nil =>
      simp [firstWords?, tokens] at isFirst
  | cons token rest =>
      rw [tokens] at taken
      cases taken with
      | @cons _ piece _ pieces takes _ =>
          subst joined
          cases token with
          | literal literal =>
              simp only [firstWords?, tokens, Option.some.injEq] at isFirst
              simp only [Token.Takes] at takes
              subst isFirst takes
              exact ⟨literal, by simp⟩
          | wildcard kind =>
              simp [firstWords?, tokens] at isFirst
          | group options =>
              simp only [firstWords?, tokens, Option.some.injEq] at isFirst
              simp only [Token.Takes] at takes
              subst isFirst
              -- A piece without words would let the utterance begin with anything.
              cases piece with
              | nil =>
                  have isToken : Token.group options ∈ tokensOf source := by
                    change Token.group options ∈ (compile source).tokens
                    simp [tokens]
                  exact absurd takes (not_mem_of_group_mem_tokensOf isToken)
              | cons word later =>
                  exact ⟨word, List.mem_filterMap.mpr ⟨word :: later, takes, rfl⟩, by simp⟩

end Pattern

/-! ## Rules -/

/-- A rule whose pattern has a cut is admitted by the utterance's words. -/
theorem Rule.admits_of_isCut
    {category : Category}
    {serial : Nat}
    {utterance : Utterance}
    {pieces : List (List Text)}
    (cut : Pattern.IsCut (Pattern.compile category.pattern).tokens utterance.upper pieces) :
    (Rule.ofCategory category serial).admits utterance.wordSet = true := by
  simp only [Rule.admits, Rule.ofCategory, Bool.and_eq_true, List.all_eq_true,
    List.any_eq_true, List.contains_iff_mem, Utterance.wordSet, Ordered.mem_ofList]
  constructor
  · intro word required
    exact cut.requiredWords_mem required
  · intro alternatives isGroup
    exact cut.exists_alternative isGroup

/-- The pattern of the rule may begin as the utterance does. -/
def Rule.isReachedBy
    (rule : Rule)
    (utterance : Utterance) :
    Bool :=
  match rule.firstWords? with
  | none => true
  | some words => utterance.firstWord?.any words.contains

namespace RuleSet

variable {set : RuleSet}

/-- A rule whose pattern has a cut is reached. -/
theorem Indexed.mem_reachedPositions
    (indexed : set.Indexed)
    {position : Nat}
    {rule : Rule}
    (present : set.rules[position]? = some rule)
    {utterance : Utterance}
    {pieces : List (List Text)}
    (cut : Pattern.IsCut (Pattern.compile rule.category.pattern).tokens
      utterance.upper pieces) :
    position ∈ set.reachedPositions utterance := by
  rw [reachedPositions, Ordered.mem_ofList, List.mem_append]
  cases first : rule.firstWords? with
  | none =>
      left
      rw [indexed.alwaysOn, mem_positionsWhere]
      exact ⟨rule, present, by simp [first]⟩
  | some words =>
      right
      obtain ⟨word, isFirst, begins⟩ := cut.head?_mem_firstWords first
      have firstWord : utterance.firstWord? = some word := begins
      simp only [firstWord]
      rw [indexed.byFirstWord, mem_positionsWhere]
      exact ⟨rule, present, by simpa [first] using isFirst⟩

/-- Only rules of the set are activated. -/
theorem mem_rules_of_mem_activate
    {utterance : Utterance}
    {rule : Rule}
    (member : rule ∈ (set.activate utterance).rules) :
    rule ∈ set.rules := by
  obtain ⟨reached, _⟩ := List.mem_filter.mp member
  obtain ⟨position, _, present⟩ := List.mem_filterMap.mp reached
  exact List.mem_of_getElem? present

/-- A rule whose pattern matches an utterance is activated. -/
theorem Indexed.mem_activate
    (indexed : set.Indexed)
    {rule : Rule}
    (isRule : rule ∈ set.rules)
    {utterance : Utterance}
    (matched : ((Pattern.compile rule.category.pattern).match? utterance).isSome) :
    rule ∈ (set.activate utterance).rules := by
  rw [Pattern.match?_eq_firstCut, Option.isSome_map] at matched
  obtain ⟨segments, found⟩ := Option.isSome_iff_exists.mp matched
  obtain ⟨pieces, cut, _⟩ := Pattern.isCut_of_firstCut found
  obtain ⟨position, present⟩ := List.mem_iff_getElem?.mp isRule
  refine List.mem_filter.mpr ⟨?_, ?_⟩
  · exact List.mem_filterMap.mpr
      ⟨position, indexed.mem_reachedPositions present cut, present⟩
  · rw [indexed.rules rule isRule]
    exact Rule.admits_of_isCut cut

/-- The indexes lead to the rules that the first word of an utterance may begin. -/
theorem Indexed.reachedPositions_eq
    (indexed : set.Indexed)
    (utterance : Utterance) :
    set.reachedPositions utterance =
      positionsWhere (fun rule => rule.isReachedBy utterance) set.rules := by
  have ascending :=
    ascending_positionsWhere (fun rule => rule.isReachedBy utterance) set.rules
  rw [← Ordered.ofList_eq_self ascending]
  refine Ordered.ofList_eq_of_perm ?_
  rw [indexed.alwaysOn]
  cases begins : utterance.firstWord? with
  | none =>
      refine List.Perm.of_eq ?_
      rw [List.append_nil]
      refine congrArg (positionsWhere · set.rules) (funext fun rule => ?_)
      cases first : rule.firstWords? <;> simp [Rule.isReachedBy, first, begins]
  | some word =>
      change (_ ++ (set.byFirstWord.find? word).getD []).Perm _
      rw [indexed.byFirstWord]
      -- A rule is listed as always on or under words, never both.
      refine (positionsWhere_append_perm ?_ set.rules).trans (List.Perm.of_eq ?_)
      · intro rule anyBegins
        rw [Option.isNone_iff_eq_none.mp anyBegins]
        rfl
      · refine congrArg (positionsWhere · set.rules) (funext fun rule => ?_)
        cases first : rule.firstWords? <;> simp [Rule.isReachedBy, first, begins]

/-- The activated rules are those that are reached and admitted, in their order. -/
theorem Indexed.rules_activate
    (indexed : set.Indexed)
    (utterance : Utterance) :
    (set.activate utterance).rules =
      set.rules.filter fun rule =>
        rule.isReachedBy utterance && rule.admits utterance.wordSet := by
  simp only [activate]
  rw [indexed.reachedPositions_eq, filterMap_positionsWhere, List.filter_filter]
  simp only [Bool.and_comm]

end RuleSet

end Colloquy
