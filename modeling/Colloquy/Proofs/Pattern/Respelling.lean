import Colloquy.Proofs.Pattern.Shortest
import Colloquy.Proofs.Rule.Signature

namespace Colloquy.Pattern

/-!
# Patterns with the same signature

A signature puts the words of a pattern in uppercase as they are written, while
compiling takes the punctuation around a word away first. The two agree on what
stands before a word, but not on what stands behind it: uppercase writes some
letters with a mark behind them that is no letter itself. A word that ends with such
a letter keeps the mark, and a word in uppercase that ends with the mark loses it.

Patterns of categories with the same signature are therefore laid out alike. They
compile to the same tokens exactly if the same punctuation stands behind each of
their words. If not, and if the words are not in groups, then a text without a word
to spare tells the patterns apart.
-/

open Utterance (isEdge straighten)

/-! ## Words in uppercase -/

/-- A word without the punctuation around it. -/
def core (word : Text) : Text :=
  Text.dropEndWhile isEdge (word.dropWhile isEdge)

/-- The punctuation behind the last letter or numeral of a word. -/
def ending (word : Text) : Text :=
  Text.takeEndWhile isEdge (word.dropWhile isEdge)

theorem core_append_ending (word : Text) :
    core word ++ ending word = word.dropWhile isEdge :=
  Text.dropEndWhile_append_takeEndWhile isEdge _

/-- Behind the last letter or numeral there is none. -/
theorem silent_ending (word : Text) : Text.Silent (ending word) := by
  intro c member
  simpa [isEdge] using Text.of_mem_takeEndWhile member

/-- Uppercase leaves the punctuation before a word. -/
theorem dropWhile_isEdge_upper (word : Text) :
    (Text.upper word).dropWhile isEdge = Text.upper (word.dropWhile isEdge) := by
  induction word with
  | nil =>
      rfl
  | cons c rest inductionHypothesis =>
      cases alphanumeric : Text.isAlphanumeric c with
      | false =>
          have edge : isEdge c = true := by simp [isEdge, alphanumeric]
          rw [Text.upper_cons, Text.upperChar_of_isAlphanumeric_eq_false alphanumeric,
            List.singleton_append, List.dropWhile_cons_of_pos edge,
            List.dropWhile_cons_of_pos edge, inductionHypothesis]
      | true =>
          obtain ⟨first, others, isImage, begins⟩ := Text.exists_upperChar_eq_cons alphanumeric
          rw [List.dropWhile_cons_of_neg (by simp [isEdge, alphanumeric]), Text.upper_cons,
            isImage, List.cons_append, List.dropWhile_cons_of_neg (by simp [isEdge, begins])]

/-- Uppercase keeps what stands behind a word. -/
theorem upper_core_append_ending (word : Text) :
    Text.upper (core word) ++ ending word = (Text.upper word).dropWhile isEdge := by
  rw [dropWhile_isEdge_upper, ← core_append_ending, Text.upper_append,
    Text.upper_of_silent (silent_ending word)]

theorem straighten_upperChar (c : Char) :
    straighten (Text.upperChar c) = Text.upperChar (if c = '’' then '\'' else c) := by
  split
  · next isApostrophe =>
      rw [isApostrophe]
      decide +kernel
  · next different =>
      refine (List.map_congr_left ?_).trans (List.map_id _)
      intro d isImage
      refine if_neg fun isApostrophe => different ?_
      rw [isApostrophe] at isImage
      exact (Text.eq_of_mem_upperChar (by decide) isImage).symm

/-- Apostrophes may be straightened before or after a word is put in uppercase. -/
theorem upper_straighten (word : Text) :
    Text.upper (straighten word) = straighten (Text.upper word) := by
  induction word with
  | nil =>
      rfl
  | cons c rest inductionHypothesis =>
      calc
        Text.upper (straighten (c :: rest)) =
            Text.upperChar (if c = '’' then '\'' else c) ++ Text.upper (straighten rest) :=
          Text.upper_cons _ _
        _ = straighten (Text.upperChar c) ++ straighten (Text.upper rest) := by
          rw [straighten_upperChar, inductionHypothesis]
        _ = straighten (Text.upper (c :: rest)) := by
          rw [Text.upper_cons]
          exact List.map_append.symm

/-- A word is compared without the punctuation around it, in uppercase and straightened. -/
theorem normalWord?_eq (word : Text) :
    normalWord? word =
      if Text.upper (core word) = [] then
        none
      else
        some (straighten (Text.upper (core word))) := by
  simp only [normalWord?, Utterance.bareWord?, Text.upper_eq_nil_iff, ← upper_straighten]
  rw [← core]
  cases core word <;> rfl

theorem length_normalWord? (word : Text) :
    ((normalWord? word).getD []).length = (Text.upper (core word)).length := by
  rw [normalWord?_eq]
  split
  · next empty =>
      rw [empty]
      rfl
  · exact List.length_map _

section Words

variable
  {first second : Text}
  (same : Text.upper first = Text.upper second)

include same

/-- Words that are the same in uppercase are read alike exactly if they end alike. -/
theorem normalWord?_eq_iff :
    normalWord? first = normalWord? second ↔ ending first = ending second := by
  have joined : Text.upper (core first) ++ ending first =
      Text.upper (core second) ++ ending second := by
    rw [upper_core_append_ending, upper_core_append_ending, same]
  constructor
  · intro sameWord
    -- Straightening keeps lengths, so that the joined texts fall apart at the same place.
    have sameLength : (Text.upper (core first)).length = (Text.upper (core second)).length := by
      rw [← length_normalWord?, sameWord, length_normalWord?]
    exact (List.append_inj joined sameLength).2
  · intro sameEnding
    rw [sameEnding] at joined
    rw [normalWord?_eq, normalWord?_eq, List.append_cancel_right joined]

theorem map_normalWord?_eq :
    (normalWord? first).map (fun _ => 1) = (normalWord? second).map fun _ => 1 := by
  have missing : normalWord? first = none ↔ normalWord? second = none := by
    rw [normalWord?_eq_none_iff, normalWord?_eq_none_iff]
    exact Text.silent_iff_of_upper_eq same
  cases isFirst : normalWord? first <;> cases isSecond : normalWord? second <;> simp_all

/-- A word without a letter or numeral is known by its uppercase. -/
theorem eq_of_silent
    (silent : Text.Silent first) :
    first = second := by
  have silent' := (Text.silent_iff_of_upper_eq same).mp silent
  rwa [Text.upper_of_silent silent, Text.upper_of_silent silent'] at same

end Words

theorem silent_of_ofWord?
    {word : Text}
    {kind : Wildcard}
    (found : Wildcard.ofWord? word = some kind) :
    Text.Silent word := by
  have silentSymbol {c : Char} (isSymbol : c ∈ ['_', '*', '#', '$']) : Text.Silent [c] := by
    have checked : ['_', '*', '#', '$'].all (!Text.isAlphanumeric ·) = true := by
      decide +kernel
    refine List.forall_mem_singleton.mpr ?_
    simpa using List.all_eq_true.mp checked c isSymbol
  unfold Wildcard.ofWord? at found
  split at found
  · exact silentSymbol (by decide)
  · exact silentSymbol (by decide)
  · exact silentSymbol (by decide)
  · exact silentSymbol (by decide)
  · simp at found

/-- A word with a letter or numeral is read as itself. -/
theorem wordToken?_of_not_silent
    {word : Text}
    (spoken : ¬ Text.Silent word) :
    ∃ normal, normalWord? word = some normal ∧ wordToken? word = some (.literal normal) := by
  have noWildcard : Wildcard.ofWord? word = none := by
    cases found : Wildcard.ofWord? word with
    | none =>
        rfl
    | some kind =>
        exact absurd (silent_of_ofWord? found) spoken
  cases found : normalWord? word with
  | none =>
      exact absurd ((normalWord?_eq_none_iff word).mp found) spoken
  | some normal =>
      exact ⟨normal, rfl, by rw [wordToken?, noWildcard, found]; rfl⟩

/-! ## Reading lists that correspond -/

section Reading

variable
  {α β γ : Type}

/--
What is read from two entries has the same size, and nothing is read from both or neither. It is
the same exactly if the entries look the same.
-/
structure ReadAlike
    (read : α → Option β)
    (size : β → Nat)
    (view : α → γ)
    (first second : α) :
    Prop where
  sameSize : (read first).map size = (read second).map size
  sameRead : read first = read second ↔ view first = view second

variable
  {read : α → Option β}
  {size : β → Nat}
  {view : α → γ}

namespace ReadAlike

variable
  {first second : α}

theorem eq_none
    (alike : ReadAlike read size view first second)
    (missing : read first = none) :
    read second = none := by
  have sameSize := alike.sameSize
  rw [missing, Option.map_none] at sameSize
  exact Option.map_eq_none_iff.mp sameSize.symm

theorem exists_eq_some
    (alike : ReadAlike read size view first second)
    {value : β}
    (found : read first = some value) :
    ∃ value', read second = some value' ∧ size value' = size value := by
  have sameSize := alike.sameSize
  rw [found, Option.map_some] at sameSize
  exact Option.map_eq_some_iff.mp sameSize.symm

end ReadAlike

/-- Lists read alike if their entries do. -/
theorem filterMap_readAlike
    {first second : List α}
    (entries : List.Forall₂ (ReadAlike read size view) first second) :
    (first.filterMap read).map size = (second.filterMap read).map size ∧
      (first.filterMap read = second.filterMap read ↔ first.map view = second.map view) := by
  induction entries with
  | nil =>
      simp
  | @cons x y first second here _ inductionHypothesis =>
      obtain ⟨sameSizes, sameLater⟩ := inductionHypothesis
      rw [List.map_cons, List.map_cons, List.cons.injEq, ← here.sameRead, ← sameLater]
      cases isRead : read x with
      | none =>
          have isRead' := here.eq_none isRead
          simpa [isRead, isRead'] using sameSizes
      | some value =>
          obtain ⟨value', isRead', sameSize⟩ := here.exists_eq_some isRead
          simp [isRead, isRead', sameSize, sameSizes]

end Reading

/-! ## Groups -/

/-- The words of an option, if it has any. -/
def option? (option : Text) : Option (List Text) :=
  if optionWords option = [] then none else some (optionWords option)

/-- The options of a group are read part by part. -/
theorem optionsOf_eq_filterMap (inside : Text) :
    optionsOf inside = (inside.splitOn '|').filterMap option? := by
  rw [optionsOf]
  induction inside.splitOn '|' with
  | nil =>
      rfl
  | cons part parts inductionHypothesis =>
      rw [List.map_cons, List.filter_cons, List.filterMap_cons, inductionHypothesis, option?]
      cases optionWords part <;> simp

/-- The endings of the words of a text. -/
def endingsOf (text : Text) : List Text :=
  (Text.words text).map ending

theorem map_option?_eq (option : Text) :
    (option? option).map List.length =
      if (optionWords option).length = 0 then none else some (optionWords option).length := by
  simp only [option?, List.length_eq_zero_iff]
  split <;> rfl

/-- Options that are alike are as long, and the same exactly if all endings are. -/
theorem option?_readAlike
    {first second : Text}
    (alike : Text.Alike first second) :
    ReadAlike option? List.length endingsOf first second := by
  have sameWords : List.Forall₂ (fun word word' => Text.upper word = Text.upper word')
      (Text.words first) (Text.words second) := by
    have mapped : List.Forall₂ (· = ·) ((Text.words first).map Text.upper)
        ((Text.words second).map Text.upper) := by
      rw [List.forall₂_eq_eq_eq]
      exact alike
    simpa using mapped
  obtain ⟨sameSizes, sameRead⟩ := filterMap_readAlike (sameWords.imp fun _ _ same =>
    show ReadAlike normalWord? (fun _ => 1) ending _ _ from
      ⟨map_normalWord?_eq same, normalWord?_eq_iff same⟩)
  rw [← optionWords, ← optionWords] at sameSizes sameRead
  have sameLength : (optionWords first).length = (optionWords second).length := by
    simpa using congrArg List.length sameSizes
  refine ⟨by rw [map_option?_eq, map_option?_eq, sameLength], ?_⟩
  rw [endingsOf, endingsOf, ← sameRead, option?, option?]
  split <;> split <;> simp_all

theorem map_groupToken?_eq (inside : Text) :
    (groupToken? inside).map Token.least =
      if (optionsOf inside).map List.length = [] then
        none
      else
        some (((optionsOf inside).map List.length).min?.getD 0) := by
  simp only [groupToken?, List.isEmpty_iff, List.map_eq_nil_iff]
  split <;> rfl

/-- Groups that are alike take as few words, and are the same exactly if all endings are. -/
theorem groupToken?_readAlike
    {first second : Text}
    (alike : Text.Alike first second) :
    ReadAlike groupToken? Token.least (fun inside => (inside.splitOn '|').map endingsOf)
      first second := by
  have parts := alike.forall₂_splitOn (c := '|') (by decide)
  obtain ⟨sameSizes, sameRead⟩ := filterMap_readAlike (parts.imp fun _ _ => option?_readAlike)
  rw [← optionsOf_eq_filterMap, ← optionsOf_eq_filterMap] at sameSizes sameRead
  refine ⟨by rw [map_groupToken?_eq, map_groupToken?_eq, sameSizes], ?_⟩
  rw [← sameRead, groupToken?, groupToken?]
  split <;> split <;> simp_all

/-- Words that are alike have the same token exactly if their endings are the same. -/
theorem wordToken?_readAlike
    {first second : Text}
    (same : Text.upper first = Text.upper second) :
    ReadAlike wordToken? Token.least ending first second := by
  by_cases silent : Text.Silent first
  · rw [eq_of_silent same silent]
    exact ⟨rfl, Iff.intro (fun _ => rfl) fun _ => rfl⟩
  · obtain ⟨normal, isNormal, isToken⟩ := wordToken?_of_not_silent silent
    obtain ⟨normal', isNormal', isToken'⟩ :=
      wordToken?_of_not_silent (mt (Text.silent_iff_of_upper_eq same).mpr silent)
    refine ⟨by rw [isToken, isToken']; rfl, ?_⟩
    rw [← normalWord?_eq_iff same, isNormal, isNormal', isToken, isToken']
    simp

/-! ## Layouts -/

namespace Item

/-- The items are the same but for case. -/
inductive Alike : Item → Item → Prop where
  | word
      {characters characters' : Text}
      (behindGroup behindGroup' : Bool)
      (same : Text.upper characters = Text.upper characters') :
      Alike (.word characters behindGroup) (.word characters' behindGroup')
  | group
      {inside inside' : Text}
      (alike : Text.Alike inside inside') :
      Alike (.group inside) (.group inside')

/-- The punctuation behind each word of an item, option by option. -/
def endings : Item → List (List Text)
  | .word characters _ => [[ending characters]]
  | .group inside => (inside.splitOn '|').map endingsOf

/-- Items that are alike have the same token exactly if their endings are the same. -/
theorem Alike.readAlike
    {item other : Item}
    (alike : Alike item other) :
    ReadAlike token? Token.least endings item other := by
  cases alike with
  | word _ _ same =>
      obtain ⟨sameSize, sameRead⟩ := wordToken?_readAlike same
      refine ⟨sameSize, sameRead.trans ?_⟩
      simp [endings]
  | group alike =>
      obtain ⟨sameSize, sameRead⟩ := groupToken?_readAlike alike
      exact ⟨sameSize, sameRead⟩

/-- The punctuation behind a word that stands outside of groups. -/
def wordEnding? : Item → Option Text
  | .word characters _ => some (ending characters)
  | .group _ => none

/-- Words that may take the same words end alike. -/
theorem Alike.wordEnding?_eq
    {item other : Item}
    (alike : Alike item other)
    (matched : item.token? = other.token? ∨
      ∃ token token' piece,
        item.token? = some token ∧
          other.token? = some token' ∧
          token.Takes piece ∧
          token'.Takes piece) :
    item.wordEnding? = other.wordEnding? := by
  cases alike with
  | group _ =>
      rfl
  | @word characters characters' _ _ same =>
      refine congrArg some ((wordToken?_readAlike same).sameRead.mp ?_)
      rcases matched with sameToken | ⟨token, token', piece, isToken, isToken', takes, takes'⟩
      · exact sameToken
      · by_cases silent : Text.Silent characters
        · rw [eq_of_silent same silent]
        · obtain ⟨normal, -, isLiteral⟩ := wordToken?_of_not_silent silent
          obtain ⟨normal', -, isLiteral'⟩ :=
            wordToken?_of_not_silent (mt (Text.silent_iff_of_upper_eq same).mpr silent)
          obtain rfl := Option.some.inj (isLiteral.symm.trans isToken)
          obtain rfl := Option.some.inj (isLiteral'.symm.trans isToken')
          obtain rfl : normal = normal' := by
            simpa [Token.Takes] using takes.symm.trans takes'
          rw [isLiteral, isLiteral']

end Item

/-- Where two patterns take the same pieces, their words outside of groups end alike. -/
theorem filterMap_wordEnding?_eq
    {items others : List Item}
    (alike : List.Forall₂ Item.Alike items others)
    {pieces : List (List Text)}
    (taken : List.Forall₂ Token.Takes (items.filterMap Item.token?) pieces)
    (taken' : List.Forall₂ Token.Takes (others.filterMap Item.token?) pieces) :
    items.filterMap Item.wordEnding? = others.filterMap Item.wordEnding? := by
  induction alike generalizing pieces with
  | nil =>
      rfl
  | @cons item other items others here _ inductionHypothesis =>
      cases isToken : item.token? with
      | none =>
          have isToken' := here.readAlike.eq_none isToken
          rw [List.filterMap_cons_none isToken] at taken
          rw [List.filterMap_cons_none isToken'] at taken'
          rw [List.filterMap_cons, List.filterMap_cons, inductionHypothesis taken taken',
            here.wordEnding?_eq (.inl (isToken.trans isToken'.symm))]
      | some token =>
          obtain ⟨token', isToken', -⟩ := here.readAlike.exists_eq_some isToken
          rw [List.filterMap_cons_some isToken] at taken
          rw [List.filterMap_cons_some isToken'] at taken'
          cases taken with
          | cons takes taken =>
              cases taken' with
              | cons takes' taken' =>
                  rw [List.filterMap_cons, List.filterMap_cons, inductionHypothesis taken taken',
                    here.wordEnding?_eq (.inr ⟨token, token', _, isToken, isToken', takes, takes'⟩)]

/-- The tokens of a pattern are those of its items. -/
theorem Laid.tokens_compile
    {behind : Bool}
    {text : Text}
    {items : List Item}
    (laid : Laid behind text items) :
    (compile text).tokens = items.filterMap Item.token? :=
  laid.tokensOf_eq

theorem words_word
    {gap word rest : Text}
    (isGap : ∀ c ∈ gap, Text.isBlank c = true)
    (isWord : Text.IsWord word)
    (ends : ∀ c ∈ rest.head?, Text.isBlank c = true) :
    Text.words (gap ++ (word ++ rest)) = word :: Text.words rest := by
  rw [Text.words, Spaced.pieces_ofText_word isGap isWord ends]
  rfl

/-- A text that begins with a word is not like one that begins with a group. -/
theorem not_alike_of_word_of_group
    {gap word rest gap' inside' rest' : Text}
    (isGap : ∀ c ∈ gap, Text.isBlank c = true)
    (isWord : Text.IsWord word)
    (ends : ∀ c ∈ rest.head?, Text.isBlank c = true)
    (noGroup : word.head? = some '(' → ')' ∉ word ++ rest)
    (isGap' : ∀ c ∈ gap', Text.isBlank c = true) :
    ¬ Text.Alike (gap ++ (word ++ rest)) (gap' ++ '(' :: (inside' ++ ')' :: rest')) := by
  intro alike
  have closed : ')' ∈ word ++ rest := by
    have member := Text.Alike.mem_of_mem (c := ')') alike.symm (by decide) (by simp)
    rcases List.mem_append.mp member with inGap | isLater
    · exact absurd (isGap ')' inGap) (by decide)
    · exact isLater
  refine noGroup ?_ closed
  obtain ⟨others, later, isRest, bare, begins⟩ :=
    Text.exists_eq_visible_append (inside' ++ ')' :: rest')
  have isWord' : Text.IsWord ('(' :: others) :=
    ⟨List.cons_ne_nil _ _, List.forall_mem_cons.mpr ⟨by decide, bare⟩⟩
  rw [isRest, ← List.cons_append, Text.Alike, words_word isGap isWord ends,
    words_word isGap' isWord' begins, List.map_cons, List.map_cons] at alike
  have sameWord := (List.cons.inj alike).1
  refine Text.head?_of_head?_upper (by decide) ?_
  rw [sameWord, Text.upper_cons, Text.upperChar_of_isAlphanumeric_eq_false (by decide +kernel)]
  rfl

theorem not_mem_of_blank
    {gap : Text}
    (isGap : ∀ c ∈ gap, Text.isBlank c = true)
    {c : Char}
    (divides : c ∈ Text.dividers) :
    c ∉ gap := by
  intro member
  have blank := isGap c member
  rw [Text.isBlank_of_mem_dividers divides] at blank
  exact absurd blank Bool.false_ne_true

/-- Only blank text is like blank text. -/
theorem Laid.eq_nil_of_alike_blank
    {behind : Bool}
    {gap text : Text}
    {items : List Item}
    (laid : Laid behind text items)
    (isGap : ∀ c ∈ gap, Text.isBlank c = true)
    (alike : Text.Alike text gap) :
    items = [] := by
  cases laid with
  | blank _ =>
      rfl
  | word isGap' isWord' ends' _ _ =>
      rw [Text.Alike, words_word isGap' isWord' ends',
        Text.words_eq_nil_of_allBlank (List.all_eq_true.mpr isGap)] at alike
      exact absurd alike (List.cons_ne_nil _ _)
  | group _ _ _ =>
      have opening : '(' ∈ gap := alike.mem_of_mem (by decide) (by simp)
      exact absurd opening (not_mem_of_blank isGap (by decide))

/-- Texts that are alike are laid out alike. -/
theorem Laid.forall₂_alike
    {behind behind' : Bool}
    {text text' : Text}
    {items items' : List Item}
    (laid : Laid behind text items)
    (laid' : Laid behind' text' items')
    (alike : Text.Alike text text') :
    List.Forall₂ Item.Alike items items' := by
  induction laid generalizing behind' text' items' with
  | blank isGap =>
      rw [laid'.eq_nil_of_alike_blank isGap alike.symm]
      exact .nil
  | @word behind gap word rest items isGap isWord ends noGroup laidRest inductionHypothesis =>
      cases laid' with
      | blank isGap' =>
          have laid : Laid behind _ _ := laidRest.word isGap isWord ends noGroup
          rw [laid.eq_nil_of_alike_blank isGap' alike]
          exact .nil
      | word isGap' isWord' ends' noGroup' laidRest' =>
          rw [Text.Alike, words_word isGap isWord ends, words_word isGap' isWord' ends'] at alike
          obtain ⟨sameWord, alikeRest⟩ := List.cons.inj alike
          exact .cons (.word _ _ sameWord) (inductionHypothesis laidRest' alikeRest)
      | group isGap' _ _ =>
          exact absurd alike (not_alike_of_word_of_group isGap isWord ends noGroup isGap')
  | @group behind gap inside rest items isGap closes laidRest inductionHypothesis =>
      cases laid' with
      | blank isGap' =>
          have laid : Laid behind _ _ := laidRest.group isGap closes
          rw [laid.eq_nil_of_alike_blank isGap' alike]
          exact .nil
      | word isGap' isWord' ends' noGroup' _ =>
          exact absurd alike.symm (not_alike_of_word_of_group isGap' isWord' ends' noGroup' isGap)
      | group isGap' closes' laidRest' =>
          obtain ⟨-, alikeLater⟩ := alike.divide (by decide)
            (not_mem_of_blank isGap (by decide)) (not_mem_of_blank isGap' (by decide))
          obtain ⟨alikeInside, alikeRest⟩ := alikeLater.divide (by decide) closes closes'
          exact .cons (.group alikeInside) (inductionHypothesis laidRest' alikeRest)

/-- Patterns that are alike have the same tokens exactly if their words end alike. -/
theorem Laid.tokens_compile_eq_iff
    {behind behind' : Bool}
    {text text' : Text}
    {items items' : List Item}
    (laid : Laid behind text items)
    (laid' : Laid behind' text' items')
    (alike : Text.Alike text text') :
    (compile text).tokens = (compile text').tokens ↔
      items.map Item.endings = items'.map Item.endings := by
  rw [laid.tokens_compile, laid'.tokens_compile]
  exact (filterMap_readAlike ((laid.forall₂_alike laid' alike).imp
    fun _ _ here => here.readAlike)).2

/-- Patterns that are alike and match alike have words outside of groups that end alike. -/
theorem Laid.filterMap_wordEnding?_of_match?_eq
    {behind behind' : Bool}
    {text text' : Text}
    {items items' : List Item}
    (laid : Laid behind text items)
    (laid' : Laid behind' text' items')
    (alike : Text.Alike text text')
    (matched : ∀ said,
      (compile text).match? (Utterance.scan said) = (compile text').match? (Utterance.scan said)) :
    items.filterMap Item.wordEnding? = items'.filterMap Item.wordEnding? := by
  have itemsAlike := laid.forall₂_alike laid' alike
  obtain ⟨sameLeast, -⟩ := filterMap_readAlike (itemsAlike.imp fun _ _ here => here.readAlike)
  obtain ⟨said, pieces, cut, fewest⟩ := laid.exists_isCut_fewest
  have isMatched : ((compile text).match? (Utterance.scan said)).isSome := by
    rw [match?_eq_firstCut, Option.isSome_map, laid.tokens_compile]
    exact cut.firstCut_isSome 0
  rw [matched, match?_eq_firstCut, Option.isSome_map] at isMatched
  obtain ⟨segments, found⟩ := Option.isSome_iff_exists.mp isMatched
  obtain ⟨pieces', cut', -⟩ := isCut_of_firstCut found
  rw [laid'.tokens_compile] at cut'
  -- The other pattern takes as few words, so that it has to cut the text in the same way.
  obtain rfl := cut.eq_of_fewest fewest cut' sameLeast
  exact filterMap_wordEnding?_eq itemsAlike cut.taken cut'.taken

/-- Patterns with the same tokens match alike. -/
theorem match?_eq_of_tokens
    {first second : Pattern}
    (same : first.tokens = second.tokens)
    (utterance : Utterance) :
    first.match? utterance = second.match? utterance := by
  simp only [match?, wildcardCount, same]

end Colloquy.Pattern

namespace Colloquy.Category

open Pattern

/-- The patterns of two categories that stand in the same place. -/
def facing (first second : Category) : List (Text × Text) :=
  (first.pattern, second.pattern) ::
    (first.that.toList.zip second.that.toList ++ first.topic.toList.zip second.topic.toList)

theorem alike_of_mem_zip
    {constraint constraint' : Option Text}
    (same : Text.canonical (constraint.getD []) = Text.canonical (constraint'.getD []))
    {pair : Text × Text}
    (faces : pair ∈ constraint.toList.zip constraint'.toList) :
    Text.Alike pair.1 pair.2 := by
  cases constraint with
  | none =>
      simp at faces
  | some text =>
      cases constraint' with
      | none =>
          simp at faces
      | some text' =>
          obtain rfl : pair = (text, text') := by simpa using faces
          exact Text.canonical_eq_iff.mp same

/-- Texts that face each other in categories with the same patterns are alike. -/
theorem SamePatterns.alike_of_mem_facing
    {first second : Category}
    (same : first.SamePatterns second)
    {pair : Text × Text}
    (faces : pair ∈ first.facing second) :
    Text.Alike pair.1 pair.2 := by
  simp only [facing, List.mem_cons, List.mem_append] at faces
  rcases faces with rfl | inThat | inTopic
  · exact Text.canonical_eq_iff.mp same.pattern
  · exact alike_of_mem_zip same.that inThat
  · exact alike_of_mem_zip same.topic inTopic

/--
The patterns of categories with the same signature are laid out alike. They have the same tokens
exactly if the same punctuation stands behind each of their words, and then they match every
utterance alike. Patterns that match every text alike have the same punctuation behind their words
outside of groups. A constraint that only one of the categories has is blank.
-/
theorem signature_sharesTokens_iff
    {first second : Category}
    (same : first.signature = second.signature) :
    (∀ pair ∈ first.facing second, ∀ items others,
      Laid false pair.1 items →
      Laid false pair.2 others →
        List.Forall₂ Item.Alike items others ∧
          ((compile pair.1).tokens = (compile pair.2).tokens ↔
            items.map Item.endings = others.map Item.endings) ∧
          (items.map Item.endings = others.map Item.endings →
            ∀ utterance, (compile pair.1).match? utterance = (compile pair.2).match? utterance) ∧
          ((∀ said, (compile pair.1).match? (Utterance.scan said) =
              (compile pair.2).match? (Utterance.scan said)) →
            items.filterMap Item.wordEnding? = others.filterMap Item.wordEnding?)) ∧
      Text.allBlank (first.that.getD []) = Text.allBlank (second.that.getD []) ∧
      Text.allBlank (first.topic.getD []) = Text.allBlank (second.topic.getD []) := by
  have samePatterns := signature_eq_iff.mp same
  refine ⟨?_, (Text.canonical_eq_iff.mp samePatterns.that).allBlank_eq,
    (Text.canonical_eq_iff.mp samePatterns.topic).allBlank_eq⟩
  intro pair faces items others laid laid'
  have alike := samePatterns.alike_of_mem_facing faces
  have sameTokens := laid.tokens_compile_eq_iff laid' alike
  exact ⟨laid.forall₂_alike laid' alike, sameTokens,
    fun endAlike => match?_eq_of_tokens (sameTokens.mpr endAlike),
    laid.filterMap_wordEnding?_of_match?_eq laid' alike⟩

/-- Spacing and small letters make no difference, even for letters that uppercase writes as two. -/
theorem signature_sharesTokens_iff_street :
    let first := Category.plain "straße, (ja, so|?) *".toList "x".toList
    let second := Category.plain " STRASSE, (JA, SO|?) *".toList "x".toList
    first.signature = second.signature ∧
      ∀ utterance,
        (compile first.pattern).match? utterance = (compile second.pattern).match? utterance := by
  intro first second
  have same : first.signature = second.signature := by
    decide +kernel
  have space : ∀ c ∈ [' '], Text.isBlank c = true :=
    List.forall_mem_singleton.mpr (by decide)
  have isWord
      (word : Text)
      (checked : (!word.isEmpty && word.all (!Text.isBlank ·)) = true) :
      Text.IsWord word := by
    simp only [Bool.and_eq_true, Bool.not_eq_true', List.all_eq_true] at checked
    exact ⟨by simpa using checked.1, checked.2⟩
  have laidWildcard : Laid true " *".toList [.word ['*'] false] := by
    refine @Laid.word true [' '] ['*'] [] _ space (isWord _ (by decide)) ?_ (by decide) <|
      .blank (List.forall_mem_nil _)
    rintro c ⟨⟩
  have laid : Laid false first.pattern
      [.word "straße,".toList false, .group "ja, so|?".toList, .word ['*'] false] := by
    refine @Laid.word false [] "straße,".toList " (ja, so|?) *".toList _
      (List.forall_mem_nil _) (isWord _ (by decide)) ?_ (by decide) <|
      @Laid.group false [' '] "ja, so|?".toList " *".toList _ space (by decide) laidWildcard
    rintro c ⟨⟩
    decide
  have laid' : Laid false second.pattern
      [.word "STRASSE,".toList false, .group "JA, SO|?".toList, .word ['*'] false] := by
    refine @Laid.word false [' '] "STRASSE,".toList " (JA, SO|?) *".toList _
      space (isWord _ (by decide)) ?_ (by decide) <|
      @Laid.group false [' '] "JA, SO|?".toList " *".toList _ space (by decide) laidWildcard
    rintro c ⟨⟩
    decide
  have facing := (signature_sharesTokens_iff same).1 (first.pattern, second.pattern)
    List.mem_cons_self _ _ laid laid'
  exact ⟨same, facing.2.2.1 (by decide +kernel)⟩

/-- Uppercase writes a mark behind this letter, which the other pattern then loses. -/
theorem signature_sharesTokens_macron :
    let first := Category.plain "\u1E96".toList "x".toList
    let second := Category.plain "H\u0331".toList "x".toList
    let utterance := Utterance.scan "\u1E96".toList
    first.signature = second.signature ∧
      (compile first.pattern).match? utterance = some ⟨[], [5], 0⟩ ∧
      (compile second.pattern).match? utterance = none := by
  decide +kernel

end Colloquy.Category
