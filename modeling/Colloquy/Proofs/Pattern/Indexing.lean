import Colloquy.Proofs.Pattern.Cut

namespace Colloquy.Pattern

/-!
# Searching by positions

The search may be run on positions alone: a position among the tokens, a position among
the words, one table that says for each pair of them whether it failed before, and one
list of captures and one of weights that are cut back after a failure. Each access is
then one to an entry at a position, which may be out of range. It never is, and the
search by positions finds what matching finds.
-/

/-! ## Positions -/

/-- For each position among the tokens, and the end, the fewest words that are taken from there. -/
def leastFrom (tokens : List Token) : List Nat :=
  tokens.foldr (fun token later => (later.headD 0 + token.least) :: later) [0]

/-- Where the table has its entry for a position among the tokens and one among the words. -/
def slotOf
    (words : List Text)
    (index position : Nat) :
    Nat :=
  index * (words.length + 1) + position

/-- The difference of two numbers, unless the second is greater. -/
def minus? (first second : Nat) : Option Nat :=
  if second ≤ first then some (first - second) else none

/-- The words from one position to another, unless one is out of range. -/
def part?
    (words : List Text)
    (start stop : Nat) :
    Option (List Text) :=
  if start ≤ stop ∧ stop ≤ words.length then some ((words.take stop).drop start) else none

/-- What a search by positions has at hand, with the calls that were made, the latest first. -/
structure Walk where
  captures : List (Nat × Nat)
  weights : List Nat
  failed : List Bool
  calls : List (Nat × Nat)

namespace Walk

/-- Nothing was taken and nothing failed yet. -/
def start
    (tokens : List Token)
    (words : List Text) :
    Walk :=
  ⟨[], [], List.replicate ((words.length + 1) * (tokens.length + 1)) false, []⟩

/-- Note a call. -/
def enter
    (walk : Walk)
    (index position : Nat) :
    Walk :=
  { walk with calls := (index, position) :: walk.calls }

/-- Capture the words from one position to another, each with the given weight. -/
def push
    (walk : Walk)
    (start stop weight : Nat) :
    Walk :=
  { walk with
    captures := walk.captures ++ [(start, stop)]
    weights := walk.weights ++ List.replicate (stop - start) weight }

/-- Cut captures and weights back to what they were before. -/
def resetTo (walk before : Walk) : Walk :=
  { walk with
    captures := walk.captures.take before.captures.length
    weights := walk.weights.take before.weights.length }

/-- Note a failure in the table, unless the entry is out of range. -/
def fail?
    (walk : Walk)
    (slot : Nat) :
    Option Walk :=
  if slot < walk.failed.length then
    some { walk with failed := walk.failed.set slot true }
  else
    none

end Walk

/-- Say whether the rest of a pattern was found, unless an access is out of range. -/
abbrev Attempt := Walk → Option (Bool × Walk)

/-- Make attempts in order until one succeeds. -/
def tryEach
    {α : Type}
    (attempt : α → Attempt) :
    List α →
    Attempt
  | [], walk => some (false, walk)
  | item :: rest, walk => do
      let (found, walk) ← attempt item walk
      if found then some (true, walk) else tryEach attempt rest walk

/-- Capture some words and go on behind them. -/
def tryPiece
    (next : Nat → Attempt)
    (start stop weight : Nat) :
    Attempt :=
  fun walk => do
    let (found, after) ← next stop (walk.push start stop weight)
    some (found, if found then after else after.resetTo walk)

/-- Take the word at a position if it is the given one, and go on behind it. -/
def tryWord
    (words : List Text)
    (next : Nat → Attempt)
    (position : Nat)
    (word : Text) :
    Attempt :=
  fun walk => do
    let said ← words[position]?
    if said = word then do
      let weight := (Token.literal word).weight
      let (found, after) ← next (position + 1) { walk with weights := walk.weights ++ [weight] }
      some (found, if found then after else { after with weights := after.weights.dropLast })
    else
      some (false, walk)

/-- Capture the words of an option if they are said, and go on behind them. -/
def tryOption
    (words : List Text)
    (next : Nat → Attempt)
    (position weight : Nat)
    (option : List Text) :
    Attempt :=
  fun walk =>
    let stop := position + option.length
    if words.length < stop then
      some (false, walk)
    else do
      let part ← part? words position stop
      if part = option then tryPiece next position stop weight walk else some (false, walk)

/-- Have a token take its words from a position on, and go on behind them. -/
def Token.attempt
    (words : List Text)
    (next : Nat → Attempt)
    (position remaining : Nat) :
    Token →
    Attempt
  | .literal word => tryWord words next position word
  | .group options => tryEach (tryOption words next position (Token.group options).weight) options
  | .wildcard kind =>
      tryEach (fun count => tryPiece next position (position + count) kind.weight)
        (List.range' kind.least (kind.most remaining + 1 - kind.least))

/-- Make an attempt, and note in the table if it fails. -/
def noting
    (slot : Nat)
    (attempt : Attempt) :
    Attempt :=
  fun walk => do
    let (found, after) ← attempt walk
    if found then
      some (true, after)
    else do
      let noted ← after.fail? slot
      some (false, noted)

/-- Search from a position among the tokens and one among the words. -/
def walkFrom
    (tokens : List Token)
    (words : List Text)
    (index position : Nat) :
    Attempt :=
  fun walk => do
    let walk := walk.enter index position
    let known ← walk.failed[slotOf words index position]?
    if known then
      some (false, walk)
    else
      noting (slotOf words index position)
        (fun walk => do
          let remaining ← minus? words.length position
          let least ← (leastFrom tokens)[index]?
          if remaining < least then
            some (false, walk)
          else
            match _isToken : tokens[index]? with
            | none => some (remaining == 0, walk)
            | some token =>
                token.attempt words (fun stop => walkFrom tokens words (index + 1) stop)
                  position remaining walk)
        walk
termination_by tokens.length - index
decreasing_by
  have within := (List.getElem?_eq_some_iff.mp _isToken).1
  omega

/-- Match a pattern by positions, unless an access is out of range, with all calls on the way. -/
def matchByPositions?
    (pattern : Pattern)
    (utterance : Utterance) :
    Option (Option Match × List (Nat × Nat)) := do
  let (found, walk) ← walkFrom pattern.tokens utterance.upper 0 0
    (Walk.start pattern.tokens utterance.upper)
  let result := if found then some ⟨walk.captures, walk.weights, pattern.wildcardCount⟩ else none
  some (result, walk.calls)

/-! ## What is in range -/

theorem headD_leastFrom (tokens : List Token) : (leastFrom tokens).headD 0 = leastWords tokens := by
  induction tokens with
  | nil =>
      rfl
  | cons token rest inductionHypothesis =>
      change (leastFrom rest).headD 0 + token.least = leastWords (token :: rest)
      rw [inductionHypothesis, leastWords, Nat.add_comm]

/-- The table of least words is right at every index that is asked for. -/
theorem getElem?_leastFrom
    {tokens : List Token}
    {index : Nat}
    (within : index ≤ tokens.length) :
    (leastFrom tokens)[index]? = some (leastWords (tokens.drop index)) := by
  induction tokens generalizing index with
  | nil =>
      rw [Nat.le_zero.mp within]
      rfl
  | cons token rest inductionHypothesis =>
      cases index with
      | zero =>
          rw [List.drop_zero, ← headD_leastFrom]
          rfl
      | succ index =>
          exact inductionHypothesis (Nat.le_of_succ_le_succ within)

/-- A slot lies inside of the table. -/
theorem slotOf_lt
    {tokens : List Token}
    {words : List Text}
    {index position : Nat}
    (token : index ≤ tokens.length)
    (word : position ≤ words.length) :
    slotOf words index position < (words.length + 1) * (tokens.length + 1) := by
  have rows := Nat.mul_le_mul_right (words.length + 1) token
  rw [slotOf, Nat.mul_comm (words.length + 1), Nat.succ_mul]
  omega

theorem slotOf_div
    {words : List Text}
    {position : Nat}
    (word : position ≤ words.length)
    (index : Nat) :
    slotOf words index position / (words.length + 1) = index := by
  rw [slotOf, Nat.mul_comm, Nat.mul_add_div (Nat.succ_pos _),
    Nat.div_eq_of_lt (Nat.lt_succ_of_le word), Nat.add_zero]

/-- Different pairs of positions have different entries. -/
theorem slotOf_injective
    {words : List Text}
    {index index' position position' : Nat}
    (word : position ≤ words.length)
    (word' : position' ≤ words.length)
    (same : slotOf words index position = slotOf words index' position') :
    index = index' ∧ position = position' := by
  have sameIndex := congrArg (· / (words.length + 1)) same
  simp only [slotOf_div word, slotOf_div word'] at sameIndex
  subst sameIndex
  exact ⟨rfl, Nat.add_left_cancel same⟩

/-- A call with all that it has access to in range, where giving up early gives up no cut. -/
structure InRange
    (tokens : List Token)
    (words : List Text)
    (call : Nat × Nat) :
    Prop where
  token : call.1 ≤ tokens.length
  word : call.2 ≤ words.length
  slot : slotOf words call.1 call.2 < (words.length + 1) * (tokens.length + 1)
  least : (leastFrom tokens)[call.1]? = some (leastWords (tokens.drop call.1))
  literal : ∀ {word : Text},
    tokens[call.1]? = some (.literal word) →
    1 ≤ leastWords (tokens.drop call.1) ∧
      (leastWords (tokens.drop call.1) ≤ words.length - call.2 → call.2 < words.length)
  fewest : ∀ {taken : List Text} {pieces : List (List Text)},
    IsCut (tokens.drop call.1) taken pieces →
    leastWords (tokens.drop call.1) ≤ taken.length
  prune : words.length - call.2 < leastWords (tokens.drop call.1) →
    ¬∃ pieces, IsCut (tokens.drop call.1) (words.drop call.2) pieces

theorem one_le_leastWords_of_literal
    {tokens : List Token}
    {index : Nat}
    {word : Text}
    (isLiteral : tokens[index]? = some (.literal word)) :
    1 ≤ leastWords (tokens.drop index) := by
  rw [List.drop_eq_getElem?_toList_append, isLiteral]
  exact Nat.le_add_right 1 _

/-- A call is in range if both its positions are. -/
theorem inRange_of_le
    {tokens : List Token}
    {words : List Text}
    {call : Nat × Nat}
    (token : call.1 ≤ tokens.length)
    (word : call.2 ≤ words.length) :
    InRange tokens words call where
  token := token
  word := word
  slot := slotOf_lt token word
  least := getElem?_leastFrom token
  literal isLiteral := by
    have one := one_le_leastWords_of_literal isLiteral
    exact ⟨one, by omega⟩
  fewest := IsCut.leastWords_le
  prune := by
    rintro tooFew ⟨pieces, cut⟩
    have enough := cut.leastWords_le
    rw [List.length_drop] at enough
    omega

/-! ## What the search keeps -/

/-- The table knows no failure that is none, and all calls were in range. -/
structure Walk.Sound
    (tokens : List Token)
    (words : List Text)
    (walk : Walk) :
    Prop where
  size : walk.failed.length = (words.length + 1) * (tokens.length + 1)
  failed : ∀ {index position : Nat},
    position ≤ words.length →
    walk.failed[slotOf words index position]? = some true →
    firstCut (tokens.drop index) position (words.drop position) = none
  calls : ∀ call ∈ walk.calls, InRange tokens words call

/-- The walk is sound after the answer is known, and has its captures and weights besides. -/
structure Walk.Adds
    (tokens : List Token)
    (words : List Text)
    (answer : Option (List Segment))
    (before after : Walk) :
    Prop where
  sound : after.Sound tokens words
  captures : after.captures = before.captures ++ capturesOf (answer.getD [])
  weights : after.weights = before.weights ++ weightsOf (answer.getD [])

/-- The attempt stays in range and finds the answer, whatever sound walk it starts from. -/
def Finds
    (tokens : List Token)
    (words : List Text)
    (attempt : Attempt)
    (answer : Option (List Segment)) :
    Prop :=
  ∀ walk : Walk,
    walk.Sound tokens words →
    ∃ after, attempt walk = some (answer.isSome, after) ∧ walk.Adds tokens words answer after

section

variable
  {tokens : List Token}
  {words : List Text}
  {walk between after : Walk}

namespace Walk.Sound

/-- A walk that has marked nothing is sound. -/
theorem start : (Walk.start tokens words).Sound tokens words := by
  refine ⟨List.length_replicate, ?_, List.forall_mem_nil _⟩
  intro index position _ isFailed
  simp [Walk.start, List.getElem?_replicate] at isFailed

/-- Captures and weights make no failure wrong. -/
theorem withTaken
    (sound : walk.Sound tokens words)
    (captures : List (Nat × Nat))
    (weights : List Nat) :
    Walk.Sound tokens words { walk with captures, weights } :=
  ⟨sound.size, sound.failed, sound.calls⟩

/-- A failure may be noted. -/
theorem fail?
    (sound : walk.Sound tokens words)
    {index position : Nat}
    (token : index ≤ tokens.length)
    (word : position ≤ words.length)
    (fails : firstCut (tokens.drop index) position (words.drop position) = none) :
    ∃ noted,
      walk.fail? (slotOf words index position) = some noted ∧
        walk.Adds tokens words none noted := by
  have within := slotOf_lt token word
  rw [← sound.size] at within
  refine ⟨_, if_pos within, ⟨?_, ?_, sound.calls⟩, ?_, ?_⟩
  · rw [List.length_set, sound.size]
  · intro index' position' word' isFailed
    by_cases same : slotOf words index position = slotOf words index' position'
    · obtain ⟨rfl, rfl⟩ := slotOf_injective word word' same
      exact fails
    · rw [List.getElem?_set_ne same] at isFailed
      exact sound.failed word' isFailed
  · exact (List.append_nil _).symm
  · exact (List.append_nil _).symm

end Walk.Sound

namespace Walk.Adds

theorem nothing (sound : walk.Sound tokens words) : walk.Adds tokens words none walk :=
  ⟨sound, (List.append_nil _).symm, (List.append_nil _).symm⟩

theorem enter
    (sound : walk.Sound tokens words)
    {index position : Nat}
    (token : index ≤ tokens.length)
    (word : position ≤ words.length) :
    walk.Adds tokens words none (walk.enter index position) :=
  ⟨⟨sound.size, sound.failed,
      List.forall_mem_cons.mpr ⟨inRange_of_le token word, sound.calls⟩⟩,
    (List.append_nil _).symm, (List.append_nil _).symm⟩

/-- What nothing was added to before is added to. -/
theorem afterNothing
    {answer : Option (List Segment)}
    (earlier : walk.Adds tokens words none between)
    (later : between.Adds tokens words answer after) :
    walk.Adds tokens words answer after := by
  refine ⟨later.sound, ?_, ?_⟩
  · rw [later.captures, earlier.captures]
    exact congrArg (· ++ _) (List.append_nil _)
  · rw [later.weights, earlier.weights]
    exact congrArg (· ++ _) (List.append_nil _)

end Walk.Adds

/-! ## Attempts -/

theorem Finds.afterNothing
    {attempt : Attempt}
    {answer : Option (List Segment)}
    (finds : Finds tokens words attempt answer)
    (earlier : walk.Adds tokens words none between) :
    ∃ after,
      attempt between = some (answer.isSome, after) ∧ walk.Adds tokens words answer after := by
  obtain ⟨after, made, adds⟩ := finds between earlier.sound
  exact ⟨after, made, earlier.afterNothing adds⟩

theorem finds_nothing : Finds tokens words (fun walk => some (false, walk)) none :=
  fun walk sound => ⟨walk, rfl, .nothing sound⟩

/-- Attempts that are tried in order find what the first success finds. -/
theorem finds_tryEach
    {α : Type}
    {attempt : α → Attempt}
    {answer : α → Option (List Segment)}
    {items : List α}
    (attempts : ∀ item ∈ items, Finds tokens words (attempt item) (answer item)) :
    Finds tokens words (tryEach attempt items) (items.findSome? answer) := by
  induction items with
  | nil =>
      exact finds_nothing
  | cons item rest inductionHypothesis =>
      obtain ⟨first, others⟩ := List.forall_mem_cons.mp attempts
      intro walk sound
      obtain ⟨between, made, adds⟩ := first walk sound
      rw [tryEach, made, List.findSome?_cons]
      cases isAnswer : answer item with
      | some segments =>
          rw [isAnswer] at adds
          exact ⟨between, rfl, adds⟩
      | none =>
          rw [isAnswer] at adds
          exact (inductionHypothesis others).afterNothing adds

theorem tryEach_map
    {α β : Type}
    (attempt : β → Attempt)
    (change : α → β)
    (items : List α) :
    tryEach attempt (items.map change) = tryEach (fun item => attempt (change item)) items := by
  induction items with
  | nil =>
      rfl
  | cons item rest inductionHypothesis =>
      funext walk
      simp only [List.map_cons, tryEach, inductionHypothesis]

/-- What goes on behind captured words finds the answer with a segment in front. -/
theorem finds_tryPiece
    {next : Nat → Attempt}
    {token : Token}
    {stop : Nat}
    {answer : Option (List Segment)}
    (captures : token.captures = true)
    (goesOn : Finds tokens words (next stop) answer)
    (choice start : Nat) :
    Finds tokens words (tryPiece next start stop token.weight)
      (answer.map (⟨token, choice, start, stop⟩ :: ·)) := by
  intro walk sound
  obtain ⟨after, made, adds⟩ :=
    goesOn (walk.push start stop token.weight) (sound.withTaken _ _)
  cases answer with
  | none =>
      have captures := adds.captures
      have weights := adds.weights
      refine ⟨after.resetTo walk, ?_, adds.sound.withTaken _ _, ?_, ?_⟩
      · simp [tryPiece, made]
      · simp [Walk.resetTo, captures, Walk.push, capturesOf]
      · simp [Walk.resetTo, weights, Walk.push, weightsOf]
  | some segments =>
      refine ⟨after, ?_, adds.sound, ?_, ?_⟩
      · simp [tryPiece, made]
      · rw [adds.captures]
        simp [Walk.push, capturesOf, captures]
      · rw [adds.weights]
        simp [Walk.push, weightsOf]

/-- A word is tried at its position and goes on behind it. -/
theorem finds_tryWord
    {next : Nat → Attempt}
    {position : Nat}
    {answer : Option (List Segment)}
    (within : position < words.length)
    (goesOn : Finds tokens words (next (position + 1)) answer)
    (word : Text)
    (choice : Nat) :
    Finds tokens words (tryWord words next position word)
      (if words[position]? = some word then
        answer.map (⟨.literal word, choice, position, position + 1⟩ :: ·)
      else
        none) := by
  intro walk sound
  have said := List.getElem?_eq_getElem within
  by_cases isWord : words[position] = word
  · rw [said, isWord, if_pos rfl]
    obtain ⟨after, made, adds⟩ := goesOn { walk with
      weights := walk.weights ++ [(Token.literal word).weight] } (sound.withTaken _ _)
    have captures := adds.captures
    have weights := adds.weights
    cases answer with
    | none =>
        refine ⟨{ after with weights := after.weights.dropLast }, ?_, adds.sound.withTaken _ _, ?_, ?_⟩
        · simp [tryWord, said, isWord, made]
        · simp [captures, capturesOf]
        · simp [weights, weightsOf]
    | some segments =>
        refine ⟨after, ?_, adds.sound, ?_, ?_⟩
        · simp [tryWord, said, isWord, made]
        · simp [captures, capturesOf, Token.captures]
        · simp [weights, weightsOf]
  · have differs : ¬words[position]? = some word := by
      simpa [said] using isWord
    rw [if_neg differs]
    exact ⟨walk, by simp [tryWord, said, isWord], .nothing sound⟩

theorem part?_eq_option_iff
    {position : Nat}
    {option : List Text}
    (within : position + option.length ≤ words.length) :
    ∃ part,
      part? words position (position + option.length) = some part ∧
        (part = option ↔ option.isPrefixOf (words.drop position) = true) := by
  refine ⟨_, if_pos ⟨Nat.le_add_right _ _, within⟩, ?_⟩
  rw [List.isPrefixOf_iff_prefix, List.prefix_iff_eq_take, List.drop_take, Nat.add_sub_cancel_left]
  exact eq_comm

/-- An option is tried at its position and goes on behind it. -/
theorem finds_tryOption
    {next : Nat → Attempt}
    {position : Nat}
    {option : List Text}
    {answer : Option (List Segment)}
    (word : position ≤ words.length)
    (goesOn : position + option.length ≤ words.length →
      Finds tokens words (next (position + option.length)) answer)
    (options : List (List Text))
    (choice : Nat) :
    Finds tokens words (tryOption words next position (Token.group options).weight option)
      (if option.isPrefixOf (words.drop position) then
        answer.map (⟨.group options, choice, position, position + option.length⟩ :: ·)
      else
        none) := by
  intro walk sound
  by_cases within : position + option.length ≤ words.length
  · obtain ⟨part, isPart, isOption⟩ := part?_eq_option_iff within
    have captures : (Token.group options).captures = true := rfl
    have goingOn := finds_tryPiece captures (goesOn within) choice position
    simp only [tryOption, if_neg (Nat.not_lt.mpr within), isPart, Option.bind_eq_bind,
      Option.bind_some, isOption]
    split
    · exact goingOn walk sound
    · exact finds_nothing walk sound
  · have noPrefix : ¬option.isPrefixOf (words.drop position) = true := by
      intro isPrefix
      have shorter := (List.isPrefixOf_iff_prefix.mp isPrefix).length_le
      rw [List.length_drop] at shorter
      omega
    rw [if_neg noPrefix]
    exact ⟨walk, by simp [tryOption, Nat.lt_of_not_le within], .nothing sound⟩

/-- A token finds the first of its choices behind which the rest of the pattern is found. -/
theorem finds_attempt
    {next : Nat → Attempt}
    {position : Nat}
    {answer : Nat → Option (List Segment)}
    {token : Token}
    (enough : token.least ≤ words.length - position)
    (word : position ≤ words.length)
    (goesOn : ∀ stop ≤ words.length, Finds tokens words (next stop) (answer stop)) :
    Finds tokens words (token.attempt words next position (words.length - position))
      ((token.choices (words.drop position)).findSome? fun choice =>
        (answer (position + choice.2)).map
          (⟨token, choice.1, position, position + choice.2⟩ :: ·)) := by
  cases token with
  | literal said =>
      have within : position < words.length := by
        simp only [Token.least] at enough
        omega
      have found := finds_tryWord within (goesOn (position + 1) within) said 0
      simp only [Token.choices, List.head?_drop, apply_ite (List.findSome? _)]
      simpa [Token.attempt] using found
  | wildcard kind =>
      rw [Token.choices, List.findSome?_map, List.length_drop]
      apply finds_tryEach
      intro count member
      have most : kind.most (words.length - position) ≤ words.length - position := by
        cases kind with
        | dollar =>
            exact Nat.min_le_left _ 1
        | underscore | star | hash =>
            exact Nat.le_refl _
      have within : position + count ≤ words.length := by
        rw [List.mem_range'_1] at member
        omega
      have captures : (Token.wildcard kind).captures = true := rfl
      exact finds_tryPiece captures (goesOn _ within) count position
  | group options =>
      -- Options are tried as they stand; their numbers only enter into the answer.
      rw [Token.attempt, ← List.zipIdx_map_fst 0 options, tryEach_map, List.zipIdx_map_fst,
        Token.choices, ← List.head?_filterMap, List.filterMap_filterMap, List.head?_filterMap]
      apply finds_tryEach
      rintro ⟨option, number⟩ _
      have found := finds_tryOption word (goesOn (position + option.length)) options number
      dsimp only
      by_cases isSaid : option.isPrefixOf (words.drop position) = true
      · rw [if_pos isSaid] at found ⊢
        exact found
      · rw [if_neg isSaid] at found ⊢
        exact found

/-- An attempt that finds what is to be found from two positions may note that it failed. -/
theorem finds_noting
    {attempt : Attempt}
    {index position : Nat}
    (token : index ≤ tokens.length)
    (word : position ≤ words.length)
    (finds : Finds tokens words attempt
      (firstCut (tokens.drop index) position (words.drop position))) :
    Finds tokens words (noting (slotOf words index position) attempt)
      (firstCut (tokens.drop index) position (words.drop position)) := by
  intro walk sound
  obtain ⟨after, made, adds⟩ := finds walk sound
  simp only [noting, made, Option.bind_eq_bind, Option.bind_some]
  cases isCut : firstCut (tokens.drop index) position (words.drop position) with
  | some segments =>
      rw [isCut] at adds
      exact ⟨after, rfl, adds⟩
  | none =>
      rw [isCut] at adds
      obtain ⟨noted, isNoted, addsNothing⟩ := adds.sound.fail? token word isCut
      exact ⟨noted, by simp [isNoted], adds.afterNothing addsNothing⟩

/-- At the end of the tokens no words may be left. -/
theorem finds_end
    {position : Nat}
    (word : position ≤ words.length) :
    Finds tokens words (fun walk => some (words.length - position == 0, walk))
      (firstCut [] position (words.drop position)) := by
  intro walk sound
  by_cases atEnd : words.length - position = 0
  · have nothingLeft : words.drop position = [] := List.drop_eq_nil_of_le (by omega)
    rw [nothingLeft]
    exact ⟨walk, by simp [atEnd, firstCut], sound, by simp [firstCut, capturesOf],
      by simp [firstCut, weightsOf]⟩
  · obtain ⟨next, rest, isLeft⟩ : ∃ next rest, words.drop position = next :: rest :=
      List.exists_cons_of_length_pos (by rw [List.length_drop]; omega)
    rw [isLeft]
    exact ⟨walk, by simp [atEnd, firstCut], .nothing sound⟩

/-- From positions in range, the search finds the first cut of what is left. -/
theorem finds_walkFrom
    {index position : Nat}
    (token : index ≤ tokens.length)
    (word : position ≤ words.length) :
    Finds tokens words (walkFrom tokens words index position)
      (firstCut (tokens.drop index) position (words.drop position)) := by
  intro walk sound
  have entered := Walk.Adds.enter sound token word
  have within := slotOf_lt token word
  rw [← entered.sound.size] at within
  obtain ⟨known, isKnown⟩ :
      ∃ known, (walk.enter index position).failed[slotOf words index position]? = some known :=
    ⟨_, List.getElem?_eq_getElem within⟩
  have isRemaining : minus? words.length position = some (words.length - position) := if_pos word
  rw [walkFrom]
  simp only [isKnown, Option.bind_eq_bind, Option.bind_some]
  cases known with
  | true =>
      rw [entered.sound.failed word isKnown]
      exact ⟨_, rfl, entered⟩
  | false =>
      rw [if_neg Bool.false_ne_true]
      refine (finds_noting token word ?_).afterNothing entered
      simp only [isRemaining, getElem?_leastFrom token, Option.bind_some]
      by_cases tooFew : words.length - position < leastWords (tokens.drop index)
      · simp only [if_pos tooFew]
        rw [firstCut_eq_none_of_length_lt (by simpa using tooFew)]
        exact finds_nothing
      · simp only [if_neg tooFew]
        intro walk sound
        split
        · next atEnd =>
            rw [List.drop_eq_nil_of_le (List.getElem?_eq_none_iff.mp atEnd)]
            exact finds_end word walk sound
        · next first isToken =>
            obtain ⟨inside, rfl⟩ := List.getElem?_eq_some_iff.mp isToken
            have isRest := List.drop_eq_getElem_cons inside
            have enough : (tokens[index]).least ≤ words.length - position := by
              rw [isRest, leastWords] at tooFew
              omega
            have goesOn (stop : Nat) (within : stop ≤ words.length) :=
              finds_walkFrom inside within
            rw [isRest]
            simp only [firstCut, List.drop_drop]
            exact finds_attempt enough word goesOn walk sound
termination_by tokens.length - index

end

/--
Matching by positions has no access out of range and gives what matching gives. Each of its
calls is in range: those among tokens and words, the entry of the table, the fewest words
that are needed, and the word that a literal is compared with. What is given up because too
few words are left has no cut.
-/
theorem matchByPositions?_staysInRange
    (pattern : Pattern)
    (utterance : Utterance) :
    ∃ calls,
      matchByPositions? pattern utterance = some (pattern.match? utterance, calls) ∧
        ∀ call ∈ calls, InRange pattern.tokens utterance.upper call := by
  obtain ⟨after, made, adds⟩ :=
    finds_walkFrom (Nat.zero_le pattern.tokens.length) (Nat.zero_le utterance.upper.length)
      (Walk.start pattern.tokens utterance.upper) Walk.Sound.start
  refine ⟨after.calls, ?_, adds.sound.calls⟩
  have captures := adds.captures
  have weights := adds.weights
  rw [List.drop_zero, List.drop_zero] at made captures weights
  rw [match?_eq_firstCut, matchByPositions?, made]
  cases isCut : firstCut pattern.tokens 0 utterance.upper with
  | none =>
      rfl
  | some segments =>
      simp [captures, weights, isCut, Walk.start]

/-- The first option leaves a word over, so the second one is tried. -/
example :
    matchByPositions? (compile "(a|a b) $".toList) (Utterance.scan "a b c".toList) =
      some (some ⟨[(0, 2), (2, 3)], [4, 4, 3], 1⟩, [(2, 3), (1, 2), (2, 2), (1, 1), (0, 0)]) := by
  decide +kernel

end Colloquy.Pattern
