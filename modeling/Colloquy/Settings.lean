namespace Colloquy

/-!
# Settings

What the owner of an interpreter may choose: how deep rules may call rules, how
much is remembered, how large the caches are, and what may be learned.
-/

/-- The size of a cache and the milliseconds for which its entries live. -/
structure CacheSettings where
  capacity : Nat := 1024
  lifetime : Option Nat := some 300000
  deriving DecidableEq, Repr

/-- What a rule that is to be learned may be like. -/
structure LearningLimits where
  maxPatternLength : Nat := 256
  minPatternLength : Nat := 1
  maxPatternTokens : Nat := 32
  maxTemplateLength : Nat := 4096
  maxWildcards : Nat := 10
  maxNestingDepth : Nat := 8
  maxSelfReferences : Nat := 5
  maxWildcardReferences : Nat := 16
  maxTemplateSamples : Nat := 100
  deriving DecidableEq, Repr

/-- The choices of an interpreter's owner. -/
structure Settings where
  maxRecursionDepth : Nat := 16
  historyLimit : Nat := 32
  variableCache : CacheSettings := { capacity := 4096, lifetime := some 60000 }
  patternCache : CacheSettings := {}
  verdictCache : CacheSettings := { capacity := 8192, lifetime := some 300000 }
  templateCache : CacheSettings := { capacity := 1024, lifetime := none }
  learning : LearningLimits := {}
  randomSeed : Option Nat := none
  deriving DecidableEq, Repr

end Colloquy
