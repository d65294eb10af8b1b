import Colloquy.Settings
import Colloquy.Text.Basic

namespace Colloquy

/-!
# Caches

A cache keeps at most as many entries as its capacity and drops the one that was
used least recently when it needs room. Entries may carry a tag, by which all of
them are dropped at once. Looking up counts as a use, a hit or a miss; asking
whether a key is there does not.

Entries live for a time that is counted from their insertion, however recently
they were used. Whether an entry still lives is only seen when it is looked up. A
cache has a clock of its own, which says how much time passes before each look at
it.

The counts of a cache are natural numbers: 64 bits hold them just as well, since no
run makes 2^64 steps.
-/

/-- A clock in nanoseconds, with the time that passes before each coming look at it. -/
structure Clock where
  now : Nat
  pauses : List Nat
  deriving DecidableEq, Repr

namespace Clock

/-- A clock on which no time passes. -/
def still : Clock :=
  ⟨0, []⟩

/-- Look at the clock, which stands still once the pauses have run out. -/
def look (clock : Clock) : Nat × Clock :=
  let now := clock.now + clock.pauses.headD 0
  (now, ⟨now, clock.pauses.tail⟩)

end Clock

/-- The nanoseconds of a millisecond. -/
def nanosecondsPerMillisecond : Nat :=
  1000000

/-- A value with its key, perhaps a tag, and the time of its insertion. -/
structure CacheEntry (κ ν : Type) where
  key : κ
  value : ν
  tag : Option Text
  insertedAt : Nat
  deriving DecidableEq, Repr

/-- A bounded cache, its entries most recently used first. -/
structure Cache (κ ν : Type) where
  name : Text
  capacity : Nat
  lifetime : Option Nat
  clock : Clock
  entries : List (CacheEntry κ ν)
  hits : Nat
  misses : Nat
  evictions : Nat
  expirations : Nat
  deriving DecidableEq, Repr

namespace Cache

variable {κ ν : Type}

/-- An empty cache with room for at least one entry. -/
def ofSettings
    (name : Text)
    (settings : CacheSettings) :
    Cache κ ν where
  name := name
  capacity := max settings.capacity 1
  lifetime := settings.lifetime
  clock := Clock.still
  entries := []
  hits := 0
  misses := 0
  evictions := 0
  expirations := 0

/-- The number of entries. -/
def size (cache : Cache κ ν) : Nat :=
  cache.entries.length

/-- Let the given times pass before the coming looks at the clock. -/
def await
    (cache : Cache κ ν)
    (pauses : List Nat) :
    Cache κ ν :=
  { cache with clock.pauses := pauses }

/-- The lifetime of an entry is over at the given time. -/
def expired
    (cache : Cache κ ν)
    (now : Nat)
    (entry : CacheEntry κ ν) :
    Bool :=
  cache.lifetime.any fun lifetime =>
    lifetime * nanosecondsPerMillisecond ≤ now - entry.insertedAt

/-- Drop all entries and keep the counters. -/
def clear (cache : Cache κ ν) : Cache κ ν :=
  { cache with entries := [] }

/-- Drop the entries with the given tag, saying how many there were. -/
def invalidate
    (cache : Cache κ ν)
    (tag : Text) :
    Nat × Cache κ ν :=
  let kept := cache.entries.filter (·.tag ≠ some tag)
  (cache.entries.length - kept.length, { cache with entries := kept })

/-- The share of the lookups that were hits. -/
def hitRate (cache : Cache κ ν) : Float :=
  let lookups := cache.hits + cache.misses
  if lookups = 0 then
    0
  else
    Float.ofNat cache.hits / Float.ofNat lookups

variable [DecidableEq κ]

/-- The entry with the given key. -/
def find?
    (cache : Cache κ ν)
    (key : κ) :
    Option (CacheEntry κ ν) :=
  cache.entries.find? (·.key = key)

/-- The entries with any other key. -/
def entriesBut
    (cache : Cache κ ν)
    (key : κ) :
    List (CacheEntry κ ν) :=
  cache.entries.filter (·.key ≠ key)

/-- The key has a value that lives. -/
def contains
    (cache : Cache κ ν)
    (key : κ) :
    Bool :=
  (cache.find? key).any fun entry => !cache.expired cache.clock.look.1 entry

/-- Look a key up, which makes its entry the most recent one or finds it expired. -/
def lookup
    (cache : Cache κ ν)
    (key : κ) :
    Option ν × Cache κ ν :=
  let (now, clock) := cache.clock.look
  match cache.find? key with
  | none => (none, { cache with clock, misses := cache.misses + 1 })
  | some entry =>
      if cache.expired now entry then
        (none, { cache with
          clock
          entries := cache.entriesBut key
          misses := cache.misses + 1
          expirations := cache.expirations + 1 })
      else
        (some entry.value, { cache with
          clock
          entries := entry :: cache.entriesBut key
          hits := cache.hits + 1 })

/-- Give a key its value, making room for it if it is new. -/
def insert
    (cache : Cache κ ν)
    (key : κ)
    (value : ν)
    (tag : Option Text) :
    Cache κ ν :=
  let (now, clock) := cache.clock.look
  if (cache.find? key).isNone && cache.capacity ≤ cache.entries.length then
    { cache with
      clock
      entries := ⟨key, value, tag, now⟩ :: cache.entries.dropLast
      evictions := cache.evictions + 1 }
  else
    { cache with
      clock
      entries := ⟨key, value, tag, now⟩ :: cache.entriesBut key }

/-- Look a key up, and compute and insert its value where there is none. -/
def lookupOrInsert
    (cache : Cache κ ν)
    (key : κ)
    (tag : Option Text)
    (compute : Unit → ν) :
    ν × Cache κ ν :=
  match cache.lookup key with
  | (some value, cache) => (value, cache)
  | (none, cache) =>
      let value := compute ()
      (value, cache.insert key value tag)

end Cache

end Colloquy
