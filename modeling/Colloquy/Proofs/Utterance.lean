import Colloquy.Proofs.Text.Cutting
import Colloquy.Proofs.Text.Words
import Colloquy.Text.Sentence
import Colloquy.Utterance
import Mathlib.Data.List.Basic

namespace Colloquy.Utterance

/-!
# Words of utterances

Scanning a text gives words, so that the key of an utterance says all that
matching sees of it: the words of the key are the words in uppercase. A text has
no words exactly if it has no letter and no numeral, and what stands around a text
without either changes nothing of what is scanned.
-/

theorem isWord_straighten
    {word : Text}
    (isWord : Text.IsWord word) :
    Text.IsWord (straighten word) := by
  refine ⟨by simpa [Utterance.straighten] using isWord.nonempty, ?_⟩
  intro image member
  obtain ⟨c, isChar, rfl⟩ := List.mem_map.mp member
  split
  · decide
  · exact isWord.bare c isChar

/-- A word is bare once punctuation is stripped and apostrophes are straight. -/
theorem bareWord?_eq_some_iff (word bare : Text) :
    bareWord? word = some bare ↔
      Text.strip isEdge word ≠ [] ∧ straighten (Text.strip isEdge word) = bare := by
  simp [bareWord?, Text.strip]

/-- What is left of a word without punctuation is a word. -/
theorem isWord_of_bareWord?
    {word bare : Text}
    (isWord : Text.IsWord word)
    (found : bareWord? word = some bare) :
    Text.IsWord bare := by
  obtain ⟨nonempty, rfl⟩ := (bareWord?_eq_some_iff word bare).mp found
  refine isWord_straighten ⟨nonempty, ?_⟩
  intro c member
  exact isWord.bare c (Text.mem_of_mem_strip member)

/-- A word is bare punctuation exactly if it has no letter and no numeral. -/
theorem bareWord?_eq_none_iff (word : Text) :
    bareWord? word = none ↔ ∀ c ∈ word, Text.isAlphanumeric c = false := by
  have edges := Text.strip_eq_nil_iff isEdge word
  simp only [isEdge, Bool.not_eq_true'] at edges
  rw [← edges, Text.strip]
  simp only [bareWord?]
  split
  · next empty =>
      simpa using empty
  · next nonempty =>
      simpa using nonempty

/-- What matching sees of a text are words. -/
theorem isWord_of_mem_words_scan
    {text word : Text}
    (member : word ∈ (scan text).words) :
    Text.IsWord word := by
  obtain ⟨raw, isRaw, found⟩ := List.mem_filterMap.mp member
  exact isWord_of_bareWord? (Text.isWord_of_mem_words isRaw) found

/-- The words of the key are the words in uppercase. -/
theorem words_key
    {utterance : Utterance}
    (areWords : ∀ word ∈ utterance.words, Text.IsWord word) :
    Text.words utterance.key = utterance.upper := by
  apply Text.words_unwords
  intro word member
  obtain ⟨said, isSaid, rfl⟩ := List.mem_map.mp member
  exact (areWords said isSaid).upper

/-- A text has no words exactly if it has no letter and no numeral. -/
theorem words_scan_eq_nil_iff (text : Text) :
    (scan text).words = [] ↔ ∀ c ∈ text, Text.isAlphanumeric c = false := by
  simp only [scan, List.filterMap_eq_nil_iff, bareWord?_eq_none_iff]
  constructor
  · intro noneInWords c member
    cases blank : Text.isBlank c with
    | true =>
        exact Text.isAlphanumeric_eq_false_of_isBlank blank
    | false =>
        obtain ⟨word, isWord, inWord⟩ := Text.exists_mem_words blank member
        exact noneInWords word isWord c inWord
  · intro noneInText word isWord c inWord
    exact noneInText c (Text.mem_of_mem_words isWord inWord)

/-- A sentence has words. -/
theorem isEmpty_scan_of_mem_sentences
    {text sentence : Text}
    (member : sentence ∈ Text.sentences text) :
    (scan sentence).isEmpty = false := by
  cases empty : (scan sentence).isEmpty with
  | false =>
      rfl
  | true =>
      have noWords : (scan sentence).words = [] := List.isEmpty_iff.mp empty
      have spoken := (List.mem_filter.mp member).2
      obtain ⟨c, inSentence, alphanumeric⟩ := List.any_eq_true.mp spoken
      have silent := (words_scan_eq_nil_iff sentence).mp noWords c inSentence
      rw [silent] at alphanumeric
      exact absurd alphanumeric Bool.false_ne_true

/-! ## Words that are scanned again -/

theorem straighten_straighten (word : Text) :
    straighten (straighten word) = straighten word := by
  rw [straighten, straighten, List.map_map]
  refine List.map_congr_left ?_
  intro c _
  by_cases isApostrophe : c = '’'
  · simp [isApostrophe]
  · simp [isApostrophe]

/-- Straightening changes no letter and no numeral. -/
theorem straighten_of_isEdge_eq_false
    {c : Char}
    (inner : isEdge c = false) :
    straighten [c] = [c] := by
  have different : c ≠ '’' := by
    rintro rfl
    revert inner
    decide +kernel
  simp [straighten, different]

/-- A bare word is its own bare word: its ends are letters or numerals and stay. -/
theorem bareWord?_of_bareWord?
    {word bare : Text}
    (found : bareWord? word = some bare) :
    bareWord? bare = some bare := by
  obtain ⟨nonempty, rfl⟩ := (bareWord?_eq_some_iff word bare).mp found
  obtain ⟨first, rest, isStart⟩ := List.exists_cons_of_ne_nil nonempty
  obtain ⟨front, last, isEnd⟩ : ∃ front last, Text.strip isEdge word = front ++ [last] :=
    ⟨_, _, (List.dropLast_concat_getLast nonempty).symm⟩
  have firstStays := straighten_of_isEdge_eq_false (Text.fails_of_strip_eq_cons isStart)
  have lastStays := straighten_of_isEdge_eq_false (Text.fails_of_strip_eq_append isEnd)
  have starts : straighten (Text.strip isEdge word) = first :: straighten rest := by
    rw [isStart, ← List.singleton_append, straighten, List.map_append, ← straighten,
      ← straighten, firstStays, List.singleton_append]
  have ends : straighten (Text.strip isEdge word) = straighten front ++ [last] := by
    rw [isEnd, straighten, List.map_append, ← straighten, ← straighten, lastStays]
  have stripped : Text.strip isEdge (straighten (Text.strip isEdge word)) =
      straighten (Text.strip isEdge word) := by
    rw [starts]
    exact Text.strip_eq_self (starts.symm.trans ends) (Text.fails_of_strip_eq_cons isStart)
      (Text.fails_of_strip_eq_append isEnd)
  rw [bareWord?_eq_some_iff, stripped, straighten_straighten]
  exact ⟨by simp [starts], rfl⟩

/-- Words that were scanned from a text are scanned again as they are. -/
theorem scan_unwords_of_scanned
    {text : Text}
    {words : List Text}
    (scanned : ∀ word ∈ words, word ∈ (scan text).words) :
    scan (Text.unwords words) = ⟨words⟩ := by
  have areWords : ∀ word ∈ words, Text.IsWord word :=
    fun word member => isWord_of_mem_words_scan (scanned word member)
  have areBare : words.filterMap bareWord? = words.filterMap some := by
    refine List.filterMap_congr ?_
    intro word member
    obtain ⟨raw, _, found⟩ := List.mem_filterMap.mp (scanned word member)
    exact bareWord?_of_bareWord? found
  rw [scan, Text.words_unwords areWords, areBare, List.filterMap_some]

/-- A span is written with single spaces between its words. -/
theorem span_eq_unwords
    (utterance : Utterance)
    (start stop : Nat) :
    utterance.span start stop = Text.unwords (utterance.words.extract start stop) := by
  rw [span, List.drop_take]

theorem mem_words_of_mem_extract
    {utterance : Utterance}
    {start stop : Nat}
    {word : Text}
    (member : word ∈ utterance.words.extract start stop) :
    word ∈ utterance.words :=
  List.mem_of_mem_drop (List.mem_of_mem_take member)

/-- A span of what was scanned is scanned again as the words of the span. -/
theorem scan_span
    (text : Text)
    (start stop : Nat) :
    scan ((scan text).span start stop) = ⟨(scan text).words.extract start stop⟩ := by
  rw [span_eq_unwords]
  exact scan_unwords_of_scanned fun _ => mem_words_of_mem_extract

/-- The words of a span are separated by single spaces already. -/
theorem words_span
    (text : Text)
    (start stop : Nat) :
    Text.words ((scan text).span start stop) = (scan text).words.extract start stop := by
  rw [span_eq_unwords, Text.words_unwords]
  intro word member
  exact isWord_of_mem_words_scan (mem_words_of_mem_extract member)

/-! ## What stands around the words -/

/-- Punctuation at the beginning of a word does not matter. -/
theorem bareWord?_cons_of_isEdge
    {c : Char}
    (edge : isEdge c = true)
    (word : Text) :
    bareWord? (c :: word) = bareWord? word := by
  simp only [bareWord?, List.dropWhile_cons_of_pos edge]

/-- What is left of a word after its first edges still ends with what is put behind it. -/
theorem bareWord?_concat_of_isEdge
    {c : Char}
    (edge : isEdge c = true)
    (word : Text) :
    bareWord? (word ++ [c]) = bareWord? word := by
  have sameBare : Text.dropEndWhile isEdge ((word ++ [c]).dropWhile isEdge) =
      Text.dropEndWhile isEdge (word.dropWhile isEdge) := by
    rw [List.dropWhile_append]
    split
    · next allEdges =>
        rw [List.isEmpty_iff.mp allEdges, List.dropWhile_cons_of_pos edge]
        rfl
    · rw [Text.dropEndWhile, List.reverse_append, List.reverse_singleton, List.singleton_append,
        List.dropWhile_cons_of_pos edge, Text.dropEndWhile]
  simp only [bareWord?, sameBare]

/-- Texts with a blank between them are heard one after the other. -/
theorem words_scan_append
    (before : Text)
    {after : Text}
    (begins : ∀ c ∈ after.head?, Text.isBlank c = true) :
    (scan (before ++ after)).words = (scan before).words ++ (scan after).words := by
  simp only [scan, Text.words_append before begins, List.filterMap_append]

/-- A text without blank characters is one word, unless it has edges only. -/
theorem words_scan_of_visible
    {text : Text}
    (visible : ∀ c ∈ text, Text.isBlank c = false) :
    (scan text).words = (bareWord? text).toList := by
  cases text with
  | nil =>
      rfl
  | cons c rest =>
      rw [scan, Text.words_of_isWord ⟨List.cons_ne_nil c rest, visible⟩, List.filterMap_cons]
      cases bareWord? (c :: rest) <;> rfl

/-- Punctuation at the beginning of a text does not matter. -/
theorem scan_cons_of_isEdge
    {c : Char}
    (edge : isEdge c = true)
    (text : Text) :
    scan (c :: text) = scan text := by
  cases blank : Text.isBlank c with
  | true =>
      rw [scan, Text.words_cons_of_isBlank blank, scan]
  | false =>
      -- What follows up to the next blank character belongs to the word that begins here.
      obtain ⟨word, rest, isText, visible, begins⟩ := Text.exists_eq_visible_append text
      rw [isText, ← List.cons_append]
      refine congrArg Utterance.mk ?_
      change (scan _).words = (scan _).words
      rw [words_scan_append _ begins, words_scan_append _ begins, words_scan_of_visible visible,
        words_scan_of_visible (List.forall_mem_cons.mpr ⟨blank, visible⟩),
        bareWord?_cons_of_isEdge edge]

/-- Punctuation at the end of a text does not matter. -/
theorem scan_concat_of_isEdge
    {c : Char}
    (edge : isEdge c = true)
    (text : Text) :
    scan (text ++ [c]) = scan text := by
  cases blank : Text.isBlank c with
  | true =>
      have noWords : Text.words [c] = [] :=
        Text.words_eq_nil_of_allBlank (by simpa [Text.allBlank] using blank)
      rw [scan, Text.words_append text (by simpa using blank), noWords, List.append_nil, scan]
  | false =>
      obtain ⟨before, word, rfl, ends, visible⟩ := Text.exists_eq_append_visible text
      have stillVisible : ∀ d ∈ word ++ [c], Text.isBlank d = false :=
        List.forall_mem_append.mpr ⟨visible, by simpa using blank⟩
      have sameWord : (scan (word ++ [c])).words = (scan word).words := by
        rw [words_scan_of_visible stillVisible, words_scan_of_visible visible,
          bareWord?_concat_of_isEdge edge]
      simp only [scan, Utterance.mk.injEq] at sameWord ⊢
      rw [List.append_assoc, Text.words_append_of_getLast? ends,
        Text.words_append_of_getLast? ends, List.filterMap_append, List.filterMap_append, sameWord]

/-- Texts that are said one after the other are heard one after the other. -/
theorem words_scan_unwords (texts : List Text) :
    (scan (Text.unwords texts)).words = texts.flatMap fun text => (scan text).words := by
  induction texts with
  | nil =>
      rfl
  | cons first rest inductionHypothesis =>
      cases rest with
      | nil =>
          simp
      | cons second others =>
          have space : ∀ c ∈ (' ' :: Text.unwords (second :: others)).head?,
              Text.isBlank c = true := by
            simp only [List.head?_cons, Option.mem_some_iff, forall_eq']
            decide
          rw [Text.unwords_cons_cons, words_scan_append first space,
            scan_cons_of_isEdge (by decide), inductionHypothesis]
          rfl

/-- What has no letter and no numeral around a text changes nothing of what is scanned. -/
theorem scan_margins
    {before after : Text}
    (silentBefore : before.Silent)
    (silentAfter : after.Silent)
    (text : Text) :
    scan (before ++ (text ++ after)) = scan text := by
  have behind : scan (text ++ after) = scan text := by
    induction after generalizing text with
    | nil =>
        rw [List.append_nil]
    | cons c rest inductionHypothesis =>
        obtain ⟨silent, restSilent⟩ := List.forall_mem_cons.mp silentAfter
        rw [List.append_cons, inductionHypothesis restSilent,
          scan_concat_of_isEdge (by simp [isEdge, silent])]
  induction before with
  | nil =>
      exact behind
  | cons c rest inductionHypothesis =>
      obtain ⟨silent, restSilent⟩ := List.forall_mem_cons.mp silentBefore
      rw [List.cons_append, scan_cons_of_isEdge (by simp [isEdge, silent]),
        inductionHypothesis restSilent]

end Colloquy.Utterance
