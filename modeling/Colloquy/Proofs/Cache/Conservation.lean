import Colloquy.Proofs.Cache.Recency

namespace Colloquy.Cache

/-!
# No entry is lost or counted twice

An entry comes into a cache when a key is stored that is not there. It leaves when
room is needed for another one, when a lookup finds that its lifetime is over, with
all entries of its tag, or with all entries. Storing a key that is there replaces
its entry, and an entry whose lifetime is over takes up room until it is looked up.

Whatever is asked of a cache, in whatever order and however much time passes, the
entries that came are those still there and those that left, each by the one way
that counted it.
-/

variable {κ ν : Type}

/-- Something asked of a cache, or the order to drop entries of a tag or all of them. -/
inductive Operation (κ ν : Type) where
  | request (request : Request κ ν)
  | invalidate (tag : Text)
  | clear

/-- How often an operation looks a key up. -/
def Operation.lookups : Operation κ ν → Nat
  | .request (.lookup _) => 1
  | .request (.lookupOrInsert _ _ _) => 1
  | _ => 0

/-- How many entries an operation drops by their tag or all at once. -/
def dropped
    (cache : Cache κ ν) :
    Operation κ ν →
    Nat
  | .request _ => 0
  | .invalidate tag => (cache.invalidate tag).1
  | .clear => cache.size

variable [DecidableEq κ]

/-- One if the key is not there, so that storing it brings a new entry. -/
def newcomers
    (cache : Cache κ ν)
    (key : κ) :
    Nat :=
  if (cache.find? key).isNone then 1 else 0

/-- How many keys an operation stores that are not there when it stores them. -/
def arrivals
    (cache : Cache κ ν) :
    Operation κ ν →
    Nat
  | .request (.insert key _ _) => cache.newcomers key
  | .request (.lookupOrInsert key _ _) =>
      match cache.lookup key with
      | (some _, _) => 0
      | (none, cache) => cache.newcomers key
  | _ => 0

/-- Carry an operation out. -/
def operate
    (cache : Cache κ ν) :
    Operation κ ν →
    Cache κ ν
  | .request request => cache.perform request
  | .invalidate tag => (cache.invalidate tag).2
  | .clear => cache.clear

/-- Carry operations out, one after the other. -/
def operateAll
    (cache : Cache κ ν)
    (operations : List (Operation κ ν)) :
    Cache κ ν :=
  operations.foldl operate cache

/-- What is counted at each operation, added up over all of them. -/
def total
    (count : Cache κ ν → Operation κ ν → Nat)
    (cache : Cache κ ν) :
    List (Operation κ ν) →
    Nat
  | [] => 0
  | operation :: rest => count cache operation + total count (cache.operate operation) rest

/-! ## Entries with distinct keys -/

/-- No two entries have the same key. -/
def Distinct (entries : List (CacheEntry κ ν)) : Prop :=
  (entries.map (·.key)).Nodup

omit [DecidableEq κ] in
/-- Some of the entries have distinct keys if all do. -/
theorem Distinct.sublist
    {some all : List (CacheEntry κ ν)}
    (distinct : Distinct all)
    (isPart : some.Sublist all) :
    Distinct some :=
  List.Nodup.sublist (isPart.map _) distinct

omit [DecidableEq κ] in
/-- An entry with a new key keeps keys distinct. -/
theorem Distinct.cons
    {entry : CacheEntry κ ν}
    {others : List (CacheEntry κ ν)}
    (distinct : Distinct others)
    (isNew : ∀ other ∈ others, other.key ≠ entry.key) :
    Distinct (entry :: others) := by
  refine List.nodup_cons.mpr ⟨?_, distinct⟩
  intro isThere
  obtain ⟨other, isOther, sameKey⟩ := List.mem_map.mp isThere
  exact isNew other isOther sameKey

/-- Nothing is found exactly if no entry has the key. -/
theorem find?_eq_none_iff
    {cache : Cache κ ν}
    {key : κ} :
    cache.find? key = none ↔ ∀ entry ∈ cache.entries, entry.key ≠ key := by
  simp [find?, List.find?_eq_none]

/-- Dropping a key that is not there drops nothing. -/
theorem entriesBut_of_find?_eq_none
    {cache : Cache κ ν}
    {key : κ}
    (isNew : cache.find? key = none) :
    cache.entriesBut key = cache.entries := by
  rw [entriesBut, List.filter_eq_self]
  simpa using find?_eq_none_iff.mp isNew

theorem ne_of_mem_entriesBut
    {cache : Cache κ ν}
    {key : κ}
    {entry : CacheEntry κ ν}
    (isOther : entry ∈ cache.entriesBut key) :
    entry.key ≠ key := by
  simpa using (List.mem_filter.mp isOther).2

/-- Where keys are distinct, no entry but the one that is found has its key. -/
theorem exists_append_of_find?
    {cache : Cache κ ν}
    (distinct : Distinct cache.entries)
    {key : κ}
    {entry : CacheEntry κ ν}
    (isFound : cache.find? key = some entry) :
    ∃ before after,
      cache.entries = before ++ entry :: after ∧ entry.key = key ∧
        (∀ other ∈ before, other.key ≠ key) ∧ ∀ other ∈ after, other.key ≠ key := by
  obtain ⟨sameKey, before, after, isSplit, notBefore⟩ :=
    List.find?_eq_some_iff_append.mp isFound
  have sameKey : entry.key = key := by simpa using sameKey
  refine ⟨before, after, isSplit, sameKey, by simpa using notBefore, ?_⟩
  intro other isAfter same
  rw [isSplit, Distinct, List.map_append, List.map_cons] at distinct
  have notRepeated := (List.nodup_cons.mp (List.nodup_append.mp distinct).2.1).1
  exact notRepeated (List.mem_map.mpr ⟨other, isAfter, same.trans sameKey.symm⟩)

/-- With distinct keys, dropping a key that is there drops one entry. -/
theorem length_entriesBut_of_find?
    {cache : Cache κ ν}
    (distinct : Distinct cache.entries)
    {key : κ}
    {entry : CacheEntry κ ν}
    (isFound : cache.find? key = some entry) :
    (cache.entriesBut key).length + 1 = cache.entries.length := by
  obtain ⟨before, after, isSplit, sameKey, notBefore, notAfter⟩ :=
    exists_append_of_find? distinct isFound
  have others : cache.entriesBut key = before ++ after := by
    rw [entriesBut, isSplit, List.filter_append, List.filter_cons_of_neg (by simp [sameKey]),
      List.filter_eq_self.mpr (by simpa using notBefore),
      List.filter_eq_self.mpr (by simpa using notAfter)]
  rw [others, isSplit, List.length_append, List.length_append, List.length_cons]
  rfl

/-- A key that no entry has is not found among some of them. -/
theorem find?_filter_eq_none
    {entries : List (CacheEntry κ ν)}
    {key : κ}
    (absent : ∀ entry ∈ entries, entry.key ≠ key)
    (keep : CacheEntry κ ν → Bool) :
    (entries.filter keep).find? (·.key = key) = none := by
  rw [List.find?_eq_none]
  intro entry isKept
  simpa using absent entry (List.mem_of_mem_filter isKept)

/-- Once a tag has been dropped, a key has the entry it had, unless that had the tag. -/
theorem find?_invalidate
    {cache : Cache κ ν}
    (distinct : Distinct cache.entries)
    (tag : Text)
    (key : κ) :
    (cache.invalidate tag).2.find? key = (cache.find? key).filter (·.tag ≠ some tag) := by
  cases isFound : cache.find? key with
  | none =>
      exact find?_filter_eq_none (find?_eq_none_iff.mp isFound) _
  | some entry =>
      obtain ⟨before, after, isSplit, sameKey, notBefore, notAfter⟩ :=
        exists_append_of_find? distinct isFound
      rw [invalidate, find?, isSplit, List.filter_append, List.find?_append,
        find?_filter_eq_none notBefore, Option.none_or]
      by_cases isTagged : entry.tag = some tag
      · rw [List.filter_cons_of_neg (by simp [isTagged]), find?_filter_eq_none notAfter]
        simp [Option.filter, isTagged]
      · rw [List.filter_cons_of_pos (by simp [isTagged]),
          List.find?_cons_of_pos (by simp [sameKey])]
        simp [Option.filter, isTagged]

/-! ## What every operation keeps -/

/--
The entries have distinct keys and fit, and the counters agree with the numbers of
lookups, of entries that came and of entries that were dropped together.
-/
structure Balanced
    (cache : Cache κ ν)
    (capacity lookups arrived gone : Nat) :
    Prop where
  roomy : 1 ≤ capacity
  sameCapacity : cache.capacity = capacity
  distinct : Distinct cache.entries
  within : cache.entries.length ≤ capacity
  looked : cache.hits + cache.misses = lookups
  outlived : cache.expirations ≤ cache.misses
  conserved : arrived = cache.entries.length + cache.evictions + cache.expirations + gone

namespace Balanced

variable
  {cache : Cache κ ν}
  {capacity lookups arrived gone : Nat}

omit [DecidableEq κ] in
theorem ofSettings
    (name : Text)
    (settings : CacheSettings) :
    (Cache.ofSettings name settings : Cache κ ν).Balanced (max settings.capacity 1) 0 0 0 where
  roomy := Nat.le_max_right settings.capacity 1
  sameCapacity := rfl
  distinct := List.nodup_nil
  within := Nat.zero_le _
  looked := rfl
  outlived := Nat.le_refl 0
  conserved := rfl

/-- A lookup is a hit or a miss, and an entry that expired is no longer there. -/
theorem lookup
    (balanced : cache.Balanced capacity lookups arrived gone)
    (key : κ) :
    (cache.lookup key).2.Balanced capacity (lookups + 1) arrived gone := by
  obtain ⟨roomy, rfl, distinct, within, looked, outlived, conserved⟩ := balanced
  have others : Distinct (cache.entriesBut key) := distinct.sublist List.filter_sublist
  simp only [Cache.lookup]
  split
  · exact ⟨roomy, rfl, distinct, within, by dsimp only; omega, by dsimp only; omega, conserved⟩
  · next entry isFound =>
      have oneLess := length_entriesBut_of_find? distinct isFound
      split
      · refine ⟨roomy, rfl, others, ?_, ?_, ?_, ?_⟩
        all_goals dsimp only; omega
      · have sameKey : entry.key = key := by simpa using List.find?_some isFound
        have isNew : ∀ other ∈ cache.entriesBut key, other.key ≠ entry.key := by
          intro other isOther
          rw [sameKey]
          exact ne_of_mem_entriesBut isOther
        refine ⟨roomy, rfl, others.cons isNew, ?_, ?_, outlived, ?_⟩
        all_goals dsimp only [List.length_cons]; omega

/-- An entry that is stored comes in if its key is new, and evicts at most one other. -/
theorem insert
    (balanced : cache.Balanced capacity lookups arrived gone)
    (key : κ)
    (value : ν)
    (tag : Option Text) :
    (cache.insert key value tag).Balanced capacity lookups
      (arrived + cache.newcomers key) gone := by
  obtain ⟨roomy, rfl, distinct, within, looked, outlived, conserved⟩ := balanced
  simp only [Cache.insert]
  split
  · next evicts =>
      simp only [Bool.and_eq_true, decide_eq_true_eq] at evicts
      have newcomer : cache.newcomers key = 1 := if_pos evicts.1
      have absent := find?_eq_none_iff.mp (Option.isNone_iff_eq_none.mp evicts.1)
      have remaining := List.dropLast_sublist cache.entries
      have isNew : ∀ other ∈ cache.entries.dropLast, other.key ≠ key :=
        fun other isOther => absent other (remaining.subset isOther)
      refine ⟨roomy, rfl, (distinct.sublist remaining).cons isNew, ?_, looked, outlived, ?_⟩
      all_goals dsimp only [List.length_cons]; rw [List.length_dropLast]; omega
  · next keeps =>
      have others : Distinct (cache.entriesBut key) := distinct.sublist List.filter_sublist
      have sizes : (cache.entriesBut key).length + 1 =
            cache.entries.length + cache.newcomers key ∧
          cache.entries.length + cache.newcomers key ≤ cache.capacity := by
        cases isFound : cache.find? key with
        | none =>
            have newcomer : cache.newcomers key = 1 := if_pos (by rw [isFound]; rfl)
            rw [isFound, Option.isNone_none, Bool.true_and, decide_eq_true_eq] at keeps
            rw [entriesBut_of_find?_eq_none isFound, newcomer]
            exact ⟨rfl, Nat.lt_of_not_le keeps⟩
        | some entry =>
            have newcomer : cache.newcomers key = 0 := if_neg (by rw [isFound]; simp)
            rw [newcomer]
            exact ⟨length_entriesBut_of_find? distinct isFound, within⟩
      refine ⟨roomy, rfl, others.cons fun _ => ne_of_mem_entriesBut, ?_, looked, outlived, ?_⟩
      all_goals dsimp only [List.length_cons]; omega

omit [DecidableEq κ] in
/-- The entries that are left are fewer by those that were dropped. -/
theorem invalidate
    (balanced : cache.Balanced capacity lookups arrived gone)
    (tag : Text) :
    (cache.invalidate tag).2.Balanced capacity lookups arrived
      (gone + (cache.invalidate tag).1) := by
  obtain ⟨roomy, rfl, distinct, within, looked, outlived, conserved⟩ := balanced
  have fewer := List.length_filter_le (fun entry => decide (entry.tag ≠ some tag)) cache.entries
  refine ⟨roomy, rfl, distinct.sublist List.filter_sublist, ?_, looked, outlived, ?_⟩
  all_goals dsimp only [Cache.invalidate]; omega

omit [DecidableEq κ] in
/-- Clearing counts all entries as gone. -/
theorem clear (balanced : cache.Balanced capacity lookups arrived gone) :
    cache.clear.Balanced capacity lookups arrived (gone + cache.size) := by
  obtain ⟨roomy, rfl, distinct, within, looked, outlived, conserved⟩ := balanced
  refine ⟨roomy, rfl, List.nodup_nil, Nat.zero_le _, looked, outlived, ?_⟩
  dsimp only [Cache.clear, size, List.length_nil]
  omega

/-- Whatever is asked, the books are kept. -/
theorem perform
    (balanced : cache.Balanced capacity lookups arrived gone)
    (request : Request κ ν) :
    (cache.perform request).Balanced capacity (lookups + (Operation.request request).lookups)
      (arrived + cache.arrivals (.request request)) gone := by
  cases request with
  | lookup key =>
      exact balanced.lookup key
  | contains key =>
      exact balanced
  | insert key value tag =>
      exact balanced.insert key value tag
  | lookupOrInsert key tag compute =>
      have looked := balanced.lookup key
      simp only [Cache.perform, Cache.lookupOrInsert, arrivals, Operation.lookups]
      rcases isLookup : cache.lookup key with ⟨_ | value, after⟩
      · rw [isLookup] at looked
        exact looked.insert key (compute ()) tag
      · rw [isLookup] at looked
        exact looked
  | await pauses =>
      obtain ⟨roomy, rfl, distinct, within, looked, outlived, conserved⟩ := balanced
      exact ⟨roomy, rfl, distinct, within, looked, outlived, conserved⟩

theorem operate
    (balanced : cache.Balanced capacity lookups arrived gone)
    (operation : Operation κ ν) :
    (cache.operate operation).Balanced capacity (lookups + operation.lookups)
      (arrived + cache.arrivals operation) (gone + cache.dropped operation) := by
  cases operation with
  | request request =>
      exact balanced.perform request
  | invalidate tag =>
      exact balanced.invalidate tag
  | clear =>
      exact balanced.clear

/-- Any number of operations keep the balance. -/
theorem operateAll
    (balanced : cache.Balanced capacity lookups arrived gone)
    (operations : List (Operation κ ν)) :
    (cache.operateAll operations).Balanced capacity
      (lookups + cache.total (fun _ => Operation.lookups) operations)
      (arrived + cache.total arrivals operations)
      (gone + cache.total dropped operations) := by
  induction operations generalizing cache lookups arrived gone with
  | nil =>
      exact balanced
  | cons operation rest inductionHypothesis =>
      have later := inductionHypothesis (balanced.operate operation)
      simp only [Nat.add_assoc] at later
      exact later

end Balanced

/--
Whatever is asked of a cache and however long its entries live, it holds no more
entries than it has room for; hits and misses add up to the lookups, and at most the
misses found an expired entry. The entries that came are those still there and those
that were evicted, expired or dropped. Dropping a tag leaves the entries without it,
in their order, and a key has the entry it had unless that had the tag.
-/
theorem operateAll_conservesEntries
    (name : Text)
    (settings : CacheSettings)
    (operations : List (Operation κ ν)) :
    let start : Cache κ ν := ofSettings name settings
    let cache := start.operateAll operations
    cache.size ≤ max settings.capacity 1 ∧
      cache.hits + cache.misses = start.total (fun _ => Operation.lookups) operations ∧
      cache.expirations ≤ cache.misses ∧
      start.total arrivals operations =
        cache.size + cache.evictions + cache.expirations + start.total dropped operations ∧
      ∀ tag,
        let rest := (cache.invalidate tag).2
        (∀ entry ∈ rest.entries, entry.tag ≠ some tag) ∧
          (∀ entry ∈ cache.entries, entry.tag ≠ some tag → entry ∈ rest.entries) ∧
          rest.entries.Sublist cache.entries ∧
          ∀ key, rest.find? key = (cache.find? key).filter (·.tag ≠ some tag) := by
  intro start cache
  have opened : start.Balanced (max settings.capacity 1) 0 0 0 :=
    Balanced.ofSettings name settings
  have balanced := opened.operateAll operations
  simp only [Nat.zero_add] at balanced
  refine ⟨balanced.within, balanced.looked, balanced.outlived, balanced.conserved, ?_⟩
  intro tag rest
  refine ⟨?_, ?_, List.filter_sublist, find?_invalidate balanced.distinct tag⟩
  · intro entry isLeft
    simpa using (List.mem_filter.mp isLeft).2
  · intro entry isThere untagged
    exact List.mem_filter.mpr ⟨isThere, by simpa using untagged⟩

-- Four entries come: one is evicted, one expires, one is dropped, and one is still there.
example :
    let start : Cache Nat Nat := ofSettings [] ⟨2, some 1⟩
    let operations : List (Operation Nat Nat) :=
      [.request (.insert 1 10 none), .request (.insert 2 20 none), .request (.insert 3 30 none),
        .request (.insert 3 31 (some ['t'])), .request (.await [1000000]), .request (.lookup 2),
        .invalidate ['t'], .request (.lookupOrInsert 4 none fun _ => 40)]
    let cache := start.operateAll operations
    (start.total arrivals operations, cache.size, cache.evictions, cache.expirations,
      start.total dropped operations) = (4, 1, 1, 1, 1) := by
  decide

end Colloquy.Cache
