import Colloquy.Proofs.Scope
import Colloquy.Proofs.Text.Division

namespace Colloquy

/-!
# Digests are canonical

A digest lists the pairs of a scope in order of name and value, so it does not
depend on the order in which they came. Written as bytes, every name and value
ends with a byte that no text contains. Nothing of the pairs is lost on the way:
two scopes have the same bytes exactly if they have the same pairs, each as often.
-/

/-! ## The order of pairs -/

/-- Of two pairs, one is at most the other. -/
theorem pairLE_total (first second : Text × Text) :
    (pairLE first second || pairLE second first) = true := by
  simp only [pairLE, Bool.or_eq_true, Bool.and_eq_true, decide_eq_true_eq, Bool.not_eq_true',
    decide_eq_false_iff_not]
  by_cases below : first.1 < second.1
  · exact .inl (.inl below)
  by_cases above : second.1 < first.1
  · exact .inr (.inl above)
  have same : first.1 = second.1 :=
    List.le_antisymm (List.not_lt.mp above) (List.not_lt.mp below)
  by_cases valueAbove : second.2 < first.2
  · exact .inr (.inr ⟨same.symm, List.lt_asymm valueAbove⟩)
  · exact .inl (.inr ⟨same, valueAbove⟩)

theorem pairLE_trans
    (first second third : Text × Text)
    (below : pairLE first second = true)
    (above : pairLE second third = true) :
    pairLE first third = true := by
  simp only [pairLE, Bool.or_eq_true, Bool.and_eq_true, decide_eq_true_eq, Bool.not_eq_true',
    decide_eq_false_iff_not] at below above ⊢
  rcases below with below | ⟨same, valueBelow⟩
  · rcases above with above | ⟨same', -⟩
    · exact .inl (List.lt_trans below above)
    · exact .inl (same' ▸ below)
  · rcases above with above | ⟨same', valueAbove⟩
    · exact .inl (same ▸ above)
    · refine .inr ⟨same.trans same', ?_⟩
      exact List.not_lt.mpr (List.le_trans (List.not_lt.mp valueBelow) (List.not_lt.mp valueAbove))

/-- Pairs that stand before each other are the same pair. -/
theorem pairLE_antisymm
    {first second : Text × Text}
    (below : pairLE first second = true)
    (above : pairLE second first = true) :
    first = second := by
  simp only [pairLE, Bool.or_eq_true, Bool.and_eq_true, decide_eq_true_eq, Bool.not_eq_true',
    decide_eq_false_iff_not] at below above
  rcases below with below | ⟨same, valueBelow⟩
  · rcases above with above | ⟨same, -⟩
    · exact absurd above (List.lt_asymm below)
    · exact absurd (same ▸ below) (List.lt_irrefl _)
  · rcases above with above | ⟨-, valueAbove⟩
    · exact absurd (same ▸ above) (List.lt_irrefl _)
    · exact Prod.ext same
        (List.le_antisymm (List.not_lt.mp valueBelow) (List.not_lt.mp valueAbove))

/-- However pairs are sorted, the result is the same. -/
theorem eq_mergeSort_of_sorted
    {pairs sorted : List (Text × Text)}
    (samePairs : sorted.Perm pairs)
    (inOrder : sorted.Pairwise fun first second => pairLE first second = true) :
    sorted = pairs.mergeSort pairLE := by
  refine List.Perm.eq_of_pairwise (fun _ _ _ _ => pairLE_antisymm) inOrder
    (List.pairwise_mergeSort pairLE_trans pairLE_total pairs) ?_
  exact samePairs.trans (List.mergeSort_perm pairs pairLE).symm

/-- Pairs are in the same order once they are sorted exactly if they are the same pairs. -/
theorem mergeSort_eq_iff_perm (first second : List (Text × Text)) :
    first.mergeSort pairLE = second.mergeSort pairLE ↔ first.Perm second := by
  constructor
  · intro same
    exact (List.mergeSort_perm first pairLE).symm.trans
      (same ▸ List.mergeSort_perm second pairLE)
  · intro samePairs
    exact eq_mergeSort_of_sorted ((List.mergeSort_perm first pairLE).trans samePairs)
      (List.pairwise_mergeSort pairLE_trans pairLE_total first)

/-! ## Texts as bytes -/

/-- The bytes of a text in UTF-8. -/
def Text.bytes (text : Text) : List UInt8 :=
  text.flatMap String.utf8EncodeChar

/-- The bytes of a text determine it. -/
theorem Text.bytes_inj
    {first second : Text}
    (same : first.bytes = second.bytes) :
    first = second := by
  have encoded : first.utf8Encode = second.utf8Encode := congrArg List.toByteArray same
  have decoded := congrArg ByteArray.utf8Decode? encoded
  rw [List.utf8Decode?_utf8Encode, List.utf8Decode?_utf8Encode] at decoded
  simpa using decoded

/-- A leading byte is at most `0xF7`, and the bytes that follow it are at most `0xBF`. -/
theorem toNat_lt_of_mem_utf8EncodeChar (c : Char) :
    ∀ byte ∈ String.utf8EncodeChar c, byte.toNat < 0xFF := by
  have ofSmall (n : Nat) (small : n < 0xFF) : (UInt8.ofNat n).toNat < 0xFF := by
    rwa [UInt8.toNat_ofNat_of_lt' (Nat.lt_succ_of_lt small)]
  fun_cases String.utf8EncodeChar c with
  | case1 code =>
      simpa using ofSmall _ (by omega)
  | case2 code =>
      simpa using ⟨ofSmall _ (by omega), ofSmall _ (by omega)⟩
  | case3 code =>
      simpa using ⟨ofSmall _ (by omega), ofSmall _ (by omega), ofSmall _ (by omega)⟩
  | case4 code =>
      simpa using ⟨ofSmall _ (by omega), ofSmall _ (by omega), ofSmall _ (by omega),
        ofSmall _ (by omega)⟩

/-- The byte that stands behind every text. -/
def textEnd : UInt8 :=
  0xFF

/-- The byte that ends a text stands in none. -/
theorem textEnd_not_mem_bytes (text : Text) : textEnd ∉ text.bytes := by
  intro member
  obtain ⟨c, -, isByte⟩ := List.mem_flatMap.mp member
  exact Nat.lt_irrefl 0xFF (toNat_lt_of_mem_utf8EncodeChar c textEnd isByte)

/-- Texts one after the other, each with the byte behind it that none of them contains. -/
def delimited (texts : List Text) : List UInt8 :=
  texts.flatMap fun text => text.bytes ++ [textEnd]

theorem delimited_cons
    (text : Text)
    (texts : List Text) :
    delimited (text :: texts) = text.bytes ++ textEnd :: delimited texts := by
  simp [delimited]

/-- Texts that are delimited are found again. -/
theorem delimited_inj
    {first second : List Text}
    (same : delimited first = delimited second) :
    first = second := by
  induction first generalizing second with
  | nil =>
      cases second with
      | nil =>
          rfl
      | cons text texts =>
          rw [delimited_cons] at same
          simp [delimited] at same
  | cons text texts inductionHypothesis =>
      cases second with
      | nil =>
          rw [delimited_cons] at same
          simp [delimited] at same
      | cons text' texts' =>
          rw [delimited_cons, delimited_cons] at same
          -- The first byte that ends a text is the one behind the first text.
          have avoids (text : Text) : ∀ byte ∈ text.bytes, ¬ byte = textEnd :=
            fun _ member isEnd => textEnd_not_mem_bytes text (isEnd ▸ member)
          obtain ⟨sameBytes, -, sameRest⟩ :=
            append_cons_inj_of_first (· = textEnd) (avoids text) (avoids text') rfl rfl same
          rw [Text.bytes_inj sameBytes, inductionHypothesis sameRest]

/-! ## Digests -/

namespace ScopeDigest

/-- The digest of pairs in the order in which they stand. -/
def inOrder (pairs : List (Text × Text)) : ScopeDigest where
  count := pairs.length
  parts := pairs.flatMap fun (name, value) => [name, value]

/-- What pairs in order are written as determines them. -/
theorem inOrder_inj
    {first second : List (Text × Text)}
    (same : (inOrder first).parts = (inOrder second).parts) :
    first = second := by
  have paired := congrArg pairUp same
  rwa [inOrder, inOrder, pairUp_flatMap, pairUp_flatMap] at paired

/-- The digest of pairs is that of the sorted pairs, however they are sorted. -/
theorem ofPairs_eq_inOrder
    {pairs sorted : List (Text × Text)}
    (samePairs : sorted.Perm pairs)
    (ascends : sorted.Pairwise fun first second => pairLE first second = true) :
    ofPairs pairs = inOrder sorted := by
  rw [ofPairs, inOrder, ← eq_mergeSort_of_sorted samePairs ascends, samePairs.length_eq]

/-- The digest does not depend on the order of the pairs. -/
theorem ofPairs_eq_of_perm
    {first second : List (Text × Text)}
    (samePairs : first.Perm second) :
    ofPairs first = ofPairs second := by
  rw [ofPairs, ofPairs, samePairs.length_eq, (mergeSort_eq_iff_perm first second).mpr samePairs]

/-- Digests are written alike only for the same pairs. -/
theorem perm_of_parts_eq
    {first second : List (Text × Text)}
    (same : (ofPairs first).parts = (ofPairs second).parts) :
    first.Perm second :=
  (mergeSort_eq_iff_perm first second).mp (inOrder_inj same)

/-- A number in bytes, the lowest first. -/
def lowBytes : (width : Nat) → Nat → List UInt8
  | 0, _ => []
  | width + 1, n => UInt8.ofNat n :: lowBytes width (n / 256)

theorem length_lowBytes (width n : Nat) : (lowBytes width n).length = width := by
  induction width generalizing n with
  | zero =>
      rfl
  | succ width inductionHypothesis =>
      rw [lowBytes, List.length_cons, inductionHypothesis]

/-- The bytes of a digest: the count in eight of them, then the delimited parts. -/
def bytes (digest : ScopeDigest) : List UInt8 :=
  lowBytes 8 digest.count ++ delimited digest.parts

/-- The bytes of a digest determine its parts. -/
theorem parts_eq_of_bytes_eq
    {first second : ScopeDigest}
    (same : first.bytes = second.bytes) :
    first.parts = second.parts := by
  have sameLength : (lowBytes 8 first.count).length = (lowBytes 8 second.count).length := by
    rw [length_lowBytes, length_lowBytes]
  exact delimited_inj (List.append_inj same sameLength).2

/-- Digests have the same bytes exactly if they are made from the same pairs. -/
theorem bytes_ofPairs_eq_iff (first second : List (Text × Text)) :
    (ofPairs first).bytes = (ofPairs second).bytes ↔ first.Perm second :=
  ⟨fun same => perm_of_parts_eq (parts_eq_of_bytes_eq same),
    fun samePairs => congrArg bytes (ofPairs_eq_of_perm samePairs)⟩

/-- The pairs of a table are in order, so tables with the same pairs are the same. -/
theorem perm_entries_iff (first second : Table Text) :
    first.entries.Perm second.entries ↔ first = second := by
  rw [← mergeSort_eq_iff_perm, mergeSort_entries, mergeSort_entries]
  constructor
  · intro same
    obtain ⟨entries, ascending⟩ := first
    obtain ⟨entries', ascending'⟩ := second
    subst same
    rfl
  · exact congrArg Table.entries

/--
Two lists of pairs have the same digest, and the same bytes of it, exactly if they
are the same but for the order of the pairs; how the pairs were sorted does not
matter. So a hash of the bytes never depends on the order in which a scope lists its
pairs, and a hash without collisions tells different scopes apart, even where a name
and its value run together alike.
-/
theorem ofPairs_isCanonical (first second : List (Text × Text)) :
    (ofPairs first = ofPairs second ↔ first.Perm second) ∧
      ((ofPairs first).bytes = (ofPairs second).bytes ↔ first.Perm second) ∧
      (∀ sorted : List (Text × Text),
        sorted.Perm first →
          sorted.Pairwise (fun pair later => pairLE pair later = true) →
          ofPairs first = inOrder sorted) ∧
      ∀ {α : Type} (hash : List UInt8 → α),
        (first.Perm second →
          hash (ofPairs first).bytes = hash (ofPairs second).bytes) ∧
        (Function.Injective hash →
          (hash (ofPairs first).bytes = hash (ofPairs second).bytes → first.Perm second) ∧
            (∀ scope other : Table Text,
              hash (ofTable scope).bytes = hash (ofTable other).bytes ↔ scope = other) ∧
            hash (ofPairs [("k1".toList, "".toList)]).bytes ≠
              hash (ofPairs [("k".toList, "1".toList)]).bytes) := by
  refine ⟨⟨?_, ofPairs_eq_of_perm⟩, bytes_ofPairs_eq_iff first second, ?_, ?_⟩
  · intro same
    exact perm_of_parts_eq (congrArg parts same)
  · intro sorted samePairs ascends
    exact ofPairs_eq_inOrder samePairs ascends
  · intro α hash
    have sameHash (samePairs : first.Perm second) :=
      congrArg hash ((bytes_ofPairs_eq_iff first second).mpr samePairs)
    refine ⟨sameHash, fun injective => ⟨?_, ?_, ?_⟩⟩
    · intro same
      exact (bytes_ofPairs_eq_iff first second).mp (injective same)
    · intro scope other
      rw [injective.eq_iff, ofTable, ofTable, bytes_ofPairs_eq_iff, perm_entries_iff]
    · intro same
      have samePairs := (bytes_ofPairs_eq_iff _ _).mp (injective same)
      exact absurd (List.singleton_perm_singleton.mp samePairs) (by decide)

end ScopeDigest

end Colloquy
