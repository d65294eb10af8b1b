import Colloquy.Cache
import Mathlib.Data.Finset.Card
import Mathlib.Data.Finset.Dedup
import Mathlib.Data.List.DropRight
import Mathlib.Data.List.Induction
import Mathlib.Tactic.Tauto

namespace Colloquy.Cache

/-!
# Caches forget what was least recently used

A key is touched when it is stored, and when it is looked up and found. A cache
whose entries live forever holds the keys that were touched last, as many as it has
room for, in the order of their last touches. So a key is there exactly if it was
stored and since its last touch fewer other keys were touched than the cache has
room for, and then it has the value that was stored last.
-/

/-! ## Keys in the order of their last touches -/

section Order

variable {κ : Type} [DecidableEq κ]

/-- The keys without repetition, those that came last before the others. -/
def byRecency (keys : List κ) : List κ :=
  keys.foldl (fun order key => key :: order.filter (· ≠ key)) []

/-- The key that comes last stands first, and nowhere else. -/
theorem byRecency_concat
    (keys : List κ)
    (key : κ) :
    byRecency (keys ++ [key]) = key :: (byRecency keys).filter (· ≠ key) :=
  List.foldl_append

/-- No key stands twice. -/
theorem nodup_byRecency (keys : List κ) : (byRecency keys).Nodup := by
  induction keys using List.reverseRecOn with
  | nil =>
      exact List.nodup_nil
  | append_singleton earlier key inductionHypothesis =>
      rw [byRecency_concat, List.nodup_cons]
      exact ⟨by simp, inductionHypothesis.filter _⟩

/-- Before a key stand the keys that came since it came last. -/
theorem byRecency_eq_append
    {keys : List κ}
    {key : κ}
    (came : key ∈ keys) :
    ∃ newer older,
      byRecency keys = newer ++ key :: older ∧
        newer.toFinset = (keys.rtakeWhile (· ≠ key)).toFinset := by
  induction keys using List.reverseRecOn with
  | nil =>
      simp at came
  | append_singleton earlier last inductionHypothesis =>
      rw [byRecency_concat]
      by_cases isLast : last = key
      · rw [List.rtakeWhile_concat_neg _ _ _ (by simp [isLast])]
        exact ⟨[], _, by rw [isLast]; rfl, rfl⟩
      · have cameEarlier : key ∈ earlier := by
          simpa [Ne.symm isLast] using came
        obtain ⟨newer, older, isOrder, sameKeys⟩ := inductionHypothesis cameEarlier
        refine ⟨last :: newer.filter (· ≠ last), older.filter (· ≠ last), ?_, ?_⟩
        · rw [isOrder, List.filter_append, List.filter_cons_of_pos (by simp [Ne.symm isLast])]
          rfl
        · rw [List.rtakeWhile_concat_pos _ _ _ (by simp [isLast])]
          ext other
          have same := Finset.ext_iff.mp sameKeys other
          simp only [List.mem_toFinset] at same
          simp only [List.mem_toFinset, List.mem_cons, List.mem_filter, List.mem_append, same,
            decide_eq_true_eq, List.not_mem_nil, or_false]
          tauto

/-- A key is among the last ones if fewer distinct keys came since. -/
theorem mem_take_byRecency
    {keys : List κ}
    {key : κ}
    (came : key ∈ keys)
    (capacity : Nat) :
    key ∈ (byRecency keys).take capacity ↔
      (keys.rtakeWhile (· ≠ key)).toFinset.card < capacity := by
  obtain ⟨newer, older, isOrder, sameKeys⟩ := byRecency_eq_append came
  have distinct : (newer ++ key :: older).Nodup := isOrder ▸ nodup_byRecency keys
  have notNewer : key ∉ newer := fun isNewer =>
    (List.nodup_append.mp distinct).2.2 key isNewer key List.mem_cons_self rfl
  rw [isOrder, List.mem_take_iff_idxOf_lt (by simp), List.idxOf_append_of_notMem notNewer,
    List.idxOf_cons_self, Nat.add_zero, ← sameKeys,
    List.toFinset_card_of_nodup (List.nodup_append.mp distinct).1]

section Capacity

variable
  {keys : List κ}
  {key : κ}
  {capacity : Nat}
  (roomy : 1 ≤ capacity)
include roomy

/-- Among the last keys, one more drops the one that came longest ago. -/
theorem take_byRecency_concat :
    (byRecency (keys ++ [key])).take capacity =
      key ::
        (((byRecency keys).take capacity).filter (· ≠ key) ++
          ((byRecency keys).drop capacity).filter (· ≠ key)).take (capacity - 1) := by
  rw [byRecency_concat, List.take_cons roomy, ← List.filter_append, List.take_append_drop]

/-- A key that is among the last ones, or that there is room for, moves to the front. -/
theorem take_byRecency_of_room
    (room : key ∈ (byRecency keys).take capacity ∨
      ((byRecency keys).take capacity).length < capacity) :
    (byRecency (keys ++ [key])).take capacity =
      key :: ((byRecency keys).take capacity).filter (· ≠ key) := by
  rw [take_byRecency_concat roomy, List.cons_inj_right]
  by_cases hasRoom : ((byRecency keys).take capacity).length < capacity
  · -- Where there is room, no key was left out before.
    have noneDropped : (byRecency keys).drop capacity = [] := by
      rw [List.length_take] at hasRoom
      rw [List.drop_eq_nil_iff]
      omega
    rw [noneDropped, List.filter_nil, List.append_nil, List.take_of_length_le]
    exact (List.length_filter_le _ _).trans (Nat.le_sub_one_of_lt hasRoom)
  · have isKept := room.resolve_right hasRoom
    have distinct := (nodup_byRecency keys).sublist (List.take_sublist capacity _)
    have others : (((byRecency keys).take capacity).filter (· ≠ key)).length = capacity - 1 := by
      have isErased : ((byRecency keys).take capacity).erase key =
          ((byRecency keys).take capacity).filter (· ≠ key) := by
        rw [distinct.erase_eq_filter]
        exact List.filter_congr fun other _ => by simp [bne, beq_eq_decide]
      rw [← isErased, List.length_erase_of_mem isKept]
      rw [List.length_take] at hasRoom ⊢
      omega
    exact List.take_left' others

/-- A key that comes anew where there is no room pushes out the last one. -/
theorem take_byRecency_of_full
    (isNew : key ∉ (byRecency keys).take capacity)
    (isFull : capacity ≤ ((byRecency keys).take capacity).length) :
    (byRecency (keys ++ [key])).take capacity =
      key :: ((byRecency keys).take capacity).dropLast := by
  have length : ((byRecency keys).take capacity).length = capacity :=
    Nat.le_antisymm (List.length_take_le _ _) isFull
  have others : ((byRecency keys).take capacity).filter (· ≠ key) =
      (byRecency keys).take capacity := by
    rw [List.filter_eq_self]
    intro other isKept
    simpa using ne_of_mem_of_not_mem isKept isNew
  rw [take_byRecency_concat roomy, others, List.take_append_of_le_length (by omega),
    List.dropLast_eq_take, length]

end Capacity

end Order

/-! ## Requests and what they touch -/

variable {κ ν : Type}

/-- Something asked of a cache, or time that passes. -/
inductive Request (κ ν : Type) where
  | lookup (key : κ)
  | contains (key : κ)
  | insert (key : κ) (value : ν) (tag : Option Text)
  | lookupOrInsert (key : κ) (tag : Option Text) (compute : Unit → ν)
  | await (pauses : List Nat)

/-- A key that was stored with a value, or looked up and found. -/
inductive Touch (κ ν : Type) where
  | stored (key : κ) (value : ν)
  | found (key : κ)

/-- The key that was touched. -/
def Touch.key : Touch κ ν → κ
  | .stored key _ => key
  | .found key => key

variable [DecidableEq κ]

/-- The value that was stored under a key, if this was so. -/
def Touch.valueFor?
    (key : κ) :
    Touch κ ν →
    Option ν
  | .stored other value => if other = key then some value else none
  | .found _ => none

/-- The value that was last stored under a key. -/
def lastStored?
    (key : κ)
    (touches : List (Touch κ ν)) :
    Option ν :=
  (touches.filterMap (Touch.valueFor? key)).getLast?

/-- The keys that were touched since a key was touched last. -/
def touchedSince
    (key : κ)
    (touches : List (Touch κ ν)) :
    List κ :=
  (touches.map Touch.key).rtakeWhile (· ≠ key)

/-- Do what is asked. -/
def perform
    (cache : Cache κ ν) :
    Request κ ν →
    Cache κ ν
  | .lookup key => (cache.lookup key).2
  | .contains _ => cache
  | .insert key value tag => cache.insert key value tag
  | .lookupOrInsert key tag compute => (cache.lookupOrInsert key tag compute).2
  | .await pauses => cache.await pauses

/-- What a request touches. -/
def touchOf
    (cache : Cache κ ν) :
    Request κ ν →
    List (Touch κ ν)
  | .lookup key => if (cache.lookup key).1.isSome then [.found key] else []
  | .contains _ => []
  | .insert key value _ => [.stored key value]
  | .lookupOrInsert key _ compute =>
      if (cache.lookup key).1.isSome then [.found key] else [.stored key (compute ())]
  | .await _ => []

/-- Do one thing after the other that is asked. -/
def performAll
    (cache : Cache κ ν)
    (requests : List (Request κ ν)) :
    Cache κ ν :=
  requests.foldl perform cache

/-- What requests touch, one after the other. -/
def touches
    (cache : Cache κ ν) :
    List (Request κ ν) →
    List (Touch κ ν)
  | [] => []
  | request :: rest => cache.touchOf request ++ touches (cache.perform request) rest

/-- What is stored last is the value. -/
theorem lastStored?_concat_stored
    (key : κ)
    (value : ν)
    (past : List (Touch κ ν)) :
    lastStored? key (past ++ [.stored key value]) = some value := by
  simp [lastStored?, Touch.valueFor?]

/-- What is found, and what is stored under other keys, changes no value. -/
theorem lastStored?_concat_of_none
    {key : κ}
    {touch : Touch κ ν}
    (nothing : touch.valueFor? key = none)
    (past : List (Touch κ ν)) :
    lastStored? key (past ++ [touch]) = lastStored? key past := by
  simp [lastStored?, nothing]

theorem Touch.valueFor?_of_ne
    {key : κ}
    {touch : Touch κ ν}
    (isOther : touch.key ≠ key) :
    touch.valueFor? key = none := by
  cases touch with
  | stored other value =>
      exact if_neg isOther
  | found other =>
      rfl

/-- A value that was stored last was stored. -/
theorem stored_of_lastStored?
    {key : κ}
    {value : ν}
    {past : List (Touch κ ν)}
    (isLast : lastStored? key past = some value) :
    .stored key value ∈ past := by
  obtain ⟨touch, isTouch, isValue⟩ :=
    List.mem_filterMap.mp (List.mem_of_getLast? isLast)
  cases touch with
  | stored other stored =>
      simp only [Touch.valueFor?, Option.ite_none_right_eq_some, Option.some.injEq] at isValue
      obtain ⟨rfl, rfl⟩ := isValue
      exact isTouch
  | found other =>
      simp [Touch.valueFor?] at isValue

/-! ## Caches whose entries live forever -/

section Lasting

variable
  {cache : Cache κ ν}
  (lasting : cache.lifetime = none)
include lasting

omit [DecidableEq κ] in
theorem expired_of_lasting
    (now : Nat)
    (entry : CacheEntry κ ν) :
    cache.expired now entry = false := by
  rw [expired, lasting]
  rfl

/-- Without a lifetime, a key is there exactly if it is found. -/
theorem contains_of_lasting (key : κ) : cache.contains key = (cache.find? key).isSome := by
  unfold contains
  cases cache.find? key with
  | none =>
      rfl
  | some entry =>
      simp [expired_of_lasting lasting]

/-- Without a lifetime, looking up gives what is found. -/
theorem lookup_value_of_lasting (key : κ) :
    (cache.lookup key).1 = (cache.find? key).map (·.value) := by
  simp only [lookup, expired_of_lasting lasting, Bool.false_eq_true, ↓reduceIte]
  cases cache.find? key with
  | none =>
      rfl
  | some entry =>
      rfl

end Lasting

/-! ## Entries that follow what was touched -/

/-- The entries are those of the keys touched last, with the values that were stored last. -/
structure Follows
    (capacity : Nat)
    (past : List (Touch κ ν))
    (entries : List (CacheEntry κ ν)) :
    Prop where
  keys : entries.map (·.key) = (byRecency (past.map Touch.key)).take capacity
  values : ∀ entry ∈ entries, lastStored? entry.key past = some entry.value

namespace Follows

variable
  {capacity : Nat}
  {past : List (Touch κ ν)}
  {entries others : List (CacheEntry κ ν)}

/-- The entry of the key that was touched comes first, and the others were there before. -/
theorem touch
    (follows : Follows capacity past entries)
    {touch : Touch κ ν}
    {entry : CacheEntry κ ν}
    (sameKey : entry.key = touch.key)
    (isValue : lastStored? touch.key (past ++ [touch]) = some entry.value)
    (fromBefore : ∀ other ∈ others, other ∈ entries ∧ other.key ≠ touch.key)
    (keys : (byRecency (past.map Touch.key ++ [touch.key])).take capacity =
      touch.key :: others.map (·.key)) :
    Follows capacity (past ++ [touch]) (entry :: others) := by
  refine ⟨?_, ?_⟩
  · rw [List.map_append, List.map_singleton, keys, List.map_cons, sameKey]
  · intro other isOther
    rcases List.mem_cons.mp isOther with rfl | isOther
    · rw [sameKey]
      exact isValue
    · obtain ⟨wasThere, different⟩ := fromBefore other isOther
      rw [lastStored?_concat_of_none (Touch.valueFor?_of_ne (Ne.symm different))]
      exact follows.values other wasThere

/-- The keys of the entries are the last ones of the past. -/
theorem mem_keys_iff
    (follows : Follows capacity past entries)
    (key : κ) :
    key ∈ (byRecency (past.map Touch.key)).take capacity ↔ ∃ entry ∈ entries, entry.key = key := by
  rw [← follows.keys, List.mem_map]

variable (roomy : 1 ≤ capacity)
include roomy

/-- The entry of a key that is there, or that there is room for, is brought to the front. -/
theorem toFront
    (follows : Follows capacity past entries)
    {touch : Touch κ ν}
    {entry : CacheEntry κ ν}
    (sameKey : entry.key = touch.key)
    (isValue : lastStored? touch.key (past ++ [touch]) = some entry.value)
    (room : (∃ entry ∈ entries, entry.key = touch.key) ∨ entries.length < capacity) :
    Follows capacity (past ++ [touch]) (entry :: entries.filter (·.key ≠ touch.key)) := by
  refine follows.touch sameKey isValue ?_ ?_
  · intro other isOther
    simpa using isOther
  · rw [← follows.mem_keys_iff, ← List.length_map (·.key), follows.keys] at room
    rw [take_byRecency_of_room roomy room, ← follows.keys, List.filter_map]
    rfl

/-- The entry of a key that is new where there is no room takes the place of the last one. -/
theorem evict
    (follows : Follows capacity past entries)
    {touch : Touch κ ν}
    {entry : CacheEntry κ ν}
    (sameKey : entry.key = touch.key)
    (isValue : lastStored? touch.key (past ++ [touch]) = some entry.value)
    (isNew : ∀ entry ∈ entries, entry.key ≠ touch.key)
    (isFull : capacity ≤ entries.length) :
    Follows capacity (past ++ [touch]) (entry :: entries.dropLast) := by
  refine follows.touch sameKey isValue ?_ ?_
  · intro other isOther
    have wasThere := (List.dropLast_sublist entries).subset isOther
    exact ⟨wasThere, isNew other wasThere⟩
  · have notThere : touch.key ∉ (byRecency (past.map Touch.key)).take capacity := by
      rw [follows.mem_keys_iff]
      rintro ⟨other, isOther, same⟩
      exact isNew other isOther same
    rw [← List.length_map (·.key), follows.keys] at isFull
    rw [take_byRecency_of_full roomy notThere isFull, ← follows.keys, List.map_dropLast]

end Follows

/-- The entries live forever, and follow what was touched within the capacity. -/
structure Tracks
    (cache : Cache κ ν)
    (capacity : Nat)
    (past : List (Touch κ ν)) :
    Prop where
  lasting : cache.lifetime = none
  sameCapacity : cache.capacity = capacity
  follows : Follows capacity past cache.entries

namespace Tracks

variable
  {cache : Cache κ ν}
  {capacity : Nat}
  {past : List (Touch κ ν)}

theorem ofSettings
    (name : Text)
    (capacity : Nat) :
    (Cache.ofSettings name ⟨capacity, none⟩ : Cache κ ν).Tracks (max capacity 1) [] where
  lasting := rfl
  sameCapacity := rfl
  follows := ⟨List.take_nil.symm, by simp [Cache.ofSettings]⟩

/-- A key is found exactly if it is among the last ones of the past. -/
theorem isSome_find?_iff
    (tracks : cache.Tracks capacity past)
    (key : κ) :
    (cache.find? key).isSome = true ↔
      key ∈ (byRecency (past.map Touch.key)).take capacity := by
  rw [tracks.follows.mem_keys_iff, find?, List.find?_isSome]
  simp only [decide_eq_true_eq]

/-- What is found under a key is the value that was stored last. -/
theorem lastStored?_of_find?
    (tracks : cache.Tracks capacity past)
    {key : κ}
    {entry : CacheEntry κ ν}
    (isFound : cache.find? key = some entry) :
    lastStored? key past = some entry.value := by
  have sameKey : entry.key = key := by simpa using List.find?_some isFound
  rw [← sameKey]
  exact tracks.follows.values entry (List.mem_of_find?_eq_some isFound)

section Steps

variable (roomy : 1 ≤ capacity)
include roomy

theorem insert
    (tracks : cache.Tracks capacity past)
    (key : κ)
    (value : ν)
    (tag : Option Text) :
    (cache.insert key value tag).Tracks capacity (past ++ [.stored key value]) := by
  obtain ⟨lasting, rfl, follows⟩ := tracks
  have isValue := lastStored?_concat_stored key value past
  simp only [Cache.insert]
  split
  · next evicts =>
      simp only [Bool.and_eq_true, Option.isNone_iff_eq_none, decide_eq_true_eq] at evicts
      have isNew : ∀ entry ∈ cache.entries, entry.key ≠ key := by
        simpa [find?, List.find?_eq_none] using evicts.1
      exact ⟨lasting, rfl, follows.evict roomy rfl isValue isNew evicts.2⟩
  · next keeps =>
      have room : (∃ entry ∈ cache.entries, entry.key = key) ∨
          cache.entries.length < cache.capacity := by
        by_contra none
        simp only [not_or, not_exists, not_and, Nat.not_lt] at none
        apply keeps
        simpa [find?, List.find?_eq_none] using none
      exact ⟨lasting, rfl, follows.toFront roomy rfl isValue room⟩

/-- A lookup touches the key if it finds it, and changes nothing otherwise. -/
theorem lookup
    (tracks : cache.Tracks capacity past)
    (key : κ) :
    (cache.lookup key).2.Tracks capacity
      (past ++ if (cache.lookup key).1.isSome then [.found key] else []) := by
  have lasting := tracks.lasting
  rw [lookup_value_of_lasting lasting]
  simp only [Cache.lookup, expired_of_lasting lasting, Bool.false_eq_true, ↓reduceIte]
  cases isFound : cache.find? key with
  | none =>
      rw [Option.map_none, if_neg (by simp), List.append_nil]
      exact ⟨lasting, tracks.sameCapacity, tracks.follows⟩
  | some entry =>
      have sameKey : entry.key = key := by simpa using List.find?_some isFound
      have isValue : lastStored? key (past ++ [.found key]) = some entry.value := by
        rw [lastStored?_concat_of_none rfl]
        exact tracks.lastStored?_of_find? isFound
      have room : (∃ entry ∈ cache.entries, entry.key = key) ∨ cache.entries.length < capacity :=
        Or.inl ⟨entry, List.mem_of_find?_eq_some isFound, sameKey⟩
      exact ⟨lasting, tracks.sameCapacity, tracks.follows.toFront roomy sameKey isValue room⟩

/-- Whatever is asked, the cache tracks what is touched. -/
theorem perform
    (tracks : cache.Tracks capacity past)
    (request : Request κ ν) :
    (cache.perform request).Tracks capacity (past ++ cache.touchOf request) := by
  cases request with
  | lookup key =>
      exact tracks.lookup roomy key
  | contains key =>
      exact (List.append_nil past).symm ▸ tracks
  | insert key value tag =>
      exact tracks.insert roomy key value tag
  | lookupOrInsert key tag compute =>
      have looked := tracks.lookup roomy key
      simp only [Cache.perform, Cache.lookupOrInsert, touchOf]
      rcases isLookup : cache.lookup key with ⟨_ | value, looking⟩
      · simp only [isLookup, Option.isSome_none, Bool.false_eq_true, ↓reduceIte,
          List.append_nil] at looked ⊢
        exact looked.insert roomy key (compute ()) tag
      · simp only [isLookup, Option.isSome_some, ↓reduceIte] at looked ⊢
        exact looked
  | await pauses =>
      exact (List.append_nil past).symm ▸ ⟨tracks.lasting, tracks.sameCapacity, tracks.follows⟩

/-- Requests add what they touch to the past. -/
theorem performAll
    (tracks : cache.Tracks capacity past)
    (requests : List (Request κ ν)) :
    (cache.performAll requests).Tracks capacity (past ++ cache.touches requests) := by
  induction requests generalizing cache past with
  | nil =>
      exact (List.append_nil past).symm ▸ tracks
  | cons request rest inductionHypothesis =>
      have later := inductionHypothesis (tracks.perform roomy request)
      rw [List.append_assoc] at later
      exact later

end Steps

end Tracks

/--
Whatever is asked of a cache whose entries live forever, a key is there exactly if
it was stored and since it was touched last fewer distinct keys were touched than
the cache has room for. A lookup gives the value that was stored last if the key is
there, and nothing otherwise.
-/
theorem performAll_keepsLastTouched
    (name : Text)
    (capacity : Nat)
    (requests : List (Request κ ν))
    (key : κ) :
    let start : Cache κ ν := ofSettings name ⟨capacity, none⟩
    let cache := start.performAll requests
    let past := start.touches requests
    (cache.contains key = true ↔
        (∃ value, .stored key value ∈ past) ∧
          (touchedSince key past).toFinset.card < max capacity 1) ∧
      (cache.lookup key).1 = if cache.contains key then lastStored? key past else none := by
  intro start cache past
  have tracks : cache.Tracks (max capacity 1) past :=
    (Tracks.ofSettings name capacity).performAll (le_max_right capacity 1) requests
  rw [lookup_value_of_lasting tracks.lasting, contains_of_lasting tracks.lasting]
  refine ⟨⟨?_, ?_⟩, ?_⟩
  · intro isThere
    obtain ⟨entry, isFound⟩ := Option.isSome_iff_exists.mp isThere
    have wasStored := stored_of_lastStored? (tracks.lastStored?_of_find? isFound)
    have wasTouched : key ∈ past.map Touch.key := List.mem_map_of_mem wasStored
    rw [tracks.isSome_find?_iff, mem_take_byRecency wasTouched] at isThere
    exact ⟨⟨_, wasStored⟩, isThere⟩
  · rintro ⟨⟨value, wasStored⟩, fewSince⟩
    have wasTouched : key ∈ past.map Touch.key := List.mem_map_of_mem wasStored
    rw [tracks.isSome_find?_iff, mem_take_byRecency wasTouched]
    exact fewSince
  · cases isFound : cache.find? key with
    | none =>
        rfl
    | some entry =>
        rw [tracks.lastStored?_of_find? isFound]
        rfl

-- Looking a key up makes it recent, asking for it does not.
example :
    let cache : Cache Nat Nat := (ofSettings [] ⟨2, none⟩).performAll
      [.insert 1 10 none, .insert 2 20 none, .lookup 1, .contains 2, .insert 3 30 none]
    (cache.contains 1, cache.contains 2, cache.contains 3) = (true, false, true) := by
  decide

end Colloquy.Cache
