import Colloquy.Cache

namespace Colloquy.Cache

/-!
# Caches that agree with a rule

A cache that remembers the results of a rule agrees with it: each of its entries
holds what the rule gives for the key. Every operation keeps agreement, and
looking a key up in a cache that agrees gives what the rule gives.
-/

variable {κ ν : Type}

/-- Every entry holds what the rule gives for its key. -/
def Agrees
    (cache : Cache κ ν)
    (rule : κ → ν) :
    Prop :=
  ∀ entry ∈ cache.entries, entry.value = rule entry.key

/-- An empty cache agrees with every rule. -/
theorem agrees_ofSettings
    (name : Text)
    (settings : CacheSettings)
    (rule : κ → ν) :
    (ofSettings name settings : Cache κ ν).Agrees rule := by
  simp [Agrees, ofSettings]

theorem agrees_clear
    (cache : Cache κ ν)
    (rule : κ → ν) :
    cache.clear.Agrees rule := by
  simp [Agrees, clear]

namespace Agrees

variable {cache : Cache κ ν} {rule : κ → ν}

/-- Dropping entries leaves right ones. -/
theorem invalidate
    (agrees : cache.Agrees rule)
    (tag : Text) :
    (cache.invalidate tag).2.Agrees rule :=
  fun entry member => agrees entry (List.mem_filter.mp member).1

variable [DecidableEq κ]

/-- What is found under a key is what the rule gives for it. -/
theorem value_of_find?
    (agrees : cache.Agrees rule)
    {key : κ}
    {entry : CacheEntry κ ν}
    (found : cache.find? key = some entry) :
    entry.value = rule key := by
  have sameKey : entry.key = key := by
    simpa using List.find?_some found
  rw [agrees entry (List.mem_of_find?_eq_some found), sameKey]

/-- Looking a key up keeps agreement. -/
theorem lookup
    (agrees : cache.Agrees rule)
    (key : κ) :
    (cache.lookup key).2.Agrees rule := by
  simp only [Cache.lookup]
  split
  · exact agrees
  · next entry found =>
      split
      · exact fun other member => agrees other (List.mem_filter.mp member).1
      · intro other member
        rcases List.mem_cons.mp member with isFound | isOther
        · rw [isFound]
          exact agrees entry (List.mem_of_find?_eq_some found)
        · exact agrees other (List.mem_filter.mp isOther).1

/-- What a lookup finds is what the rule gives. -/
theorem lookup_value
    (agrees : cache.Agrees rule)
    {key : κ}
    {value : ν}
    (found : (cache.lookup key).1 = some value) :
    value = rule key := by
  simp only [Cache.lookup] at found
  split at found
  · simp at found
  · next entry present =>
      split at found
      · simp at found
      · simp only [Option.some.injEq] at found
        rw [← found]
        exact agrees.value_of_find? present

/-- Giving a key what the rule gives for it keeps agreement. -/
theorem insert
    (agrees : cache.Agrees rule)
    (key : κ)
    (tag : Option Text) :
    (cache.insert key (rule key) tag).Agrees rule := by
  simp only [Cache.insert]
  split
  · intro entry member
    rcases List.mem_cons.mp member with isNew | isOld
    · rw [isNew]
    · exact agrees entry ((List.dropLast_sublist _).subset isOld)
  · intro entry member
    rcases List.mem_cons.mp member with isNew | isOld
    · rw [isNew]
    · exact agrees entry (List.mem_filter.mp isOld).1

/-- Looking a key up, or computing its value by the rule, gives what the rule gives. -/
theorem lookupOrInsert_value
    (agrees : cache.Agrees rule)
    (key : κ)
    (tag : Option Text) :
    (cache.lookupOrInsert key tag fun _ => rule key).1 = rule key := by
  simp only [Cache.lookupOrInsert]
  split
  · next value after step => exact agrees.lookup_value (by rw [step])
  · rfl

/-- Looking a key up, or computing its value by the rule, keeps agreement. -/
theorem lookupOrInsert
    (agrees : cache.Agrees rule)
    (key : κ)
    (tag : Option Text) :
    (cache.lookupOrInsert key tag fun _ => rule key).2.Agrees rule := by
  have kept := agrees.lookup key
  simp only [Cache.lookupOrInsert]
  split
  · next value after step =>
      rw [step] at kept
      exact kept
  · next after step =>
      rw [step] at kept
      exact kept.insert key tag

end Agrees

end Colloquy.Cache
