import Colloquy.Cache.Agreement
import Colloquy.Scope

namespace Colloquy

/-!
# What a fingerprint tells

A fingerprint holds the names and values of all scopes that an evaluation sees,
so the value of a name can be told from the fingerprint alone. What is remembered
under a name and a fingerprint is right whenever the fingerprint comes up again.
-/

namespace ScopeDigest

/-- Names and values in turn, as pairs. -/
def pairUp : List Text → List (Text × Text)
  | name :: value :: rest => (name, value) :: pairUp rest
  | _ => []

/-- Pairs are taken apart and put together again. -/
theorem pairUp_flatMap (pairs : List (Text × Text)) :
    pairUp (pairs.flatMap fun (name, value) => [name, value]) = pairs := by
  induction pairs with
  | nil =>
      rfl
  | cons pair rest inductionHypothesis =>
      simp [pairUp, inductionHypothesis]

/-- The value of a name in the scope of a digest. -/
def find?
    (digest : ScopeDigest)
    (name : Text) :
    Option Text :=
  ((pairUp digest.parts).find? (·.1 == name)).map Prod.snd

/-- The entries of a table are in order already. -/
theorem mergeSort_entries (table : Table Text) :
    table.entries.mergeSort pairLE = table.entries := by
  apply List.mergeSort_of_pairwise
  apply table.ascending.imp
  intro first second below
  simp [pairLE, below]

/-- A digest gives every name the value that its table gives it. -/
theorem find?_ofTable
    (table : Table Text)
    (name : Text) :
    (ofTable table).find? name = table.find? name := by
  simp only [find?, ofTable, ofPairs, mergeSort_entries, pairUp_flatMap, Table.find?]

end ScopeDigest

/-- The value of a name in the scopes of a fingerprint. -/
def Fingerprint.valueOf (name : Text) : Fingerprint → Text
  | .visible locals session (.knowledge globals properties) =>
      ((((locals.find? name).or (session.find? name)).or (globals.find? name)).or
        (properties.find? name)).getD []
  | _ => []

/-- A fingerprint tells the value of every name in sight. -/
theorem valueOf_visibleFingerprint
    (frame : Frame)
    (session : Session)
    (knowledge : KnowledgeBase)
    (name : Text) :
    (visibleFingerprint frame session knowledge).valueOf name =
      resolveVariable frame session knowledge name := by
  simp only [visibleFingerprint, KnowledgeBase.fingerprint, Fingerprint.valueOf,
    ScopeDigest.find?_ofTable, resolveVariable, Session.valueOf?]

namespace VariableCache

/-- The value that belongs to a name and a fingerprint. -/
def valueFor (key : Text × Fingerprint) : Text :=
  key.2.valueOf key.1

/-- A variable is looked up under its name and the fingerprint of all that it may depend on. -/
theorem resolve_eq
    (cache : VariableCache)
    (frame : Frame)
    (session : Session)
    (knowledge : KnowledgeBase)
    (name : Text) :
    cache.resolve frame session knowledge name =
      Cache.lookupOrInsert cache (name, visibleFingerprint frame session knowledge)
        (some knowledge.name)
        fun _ => valueFor (name, visibleFingerprint frame session knowledge) := by
  simp only [resolve, valueFor, valueOf_visibleFingerprint]

/-- What is remembered is the value that is in sight. -/
theorem resolve_value
    {cache : VariableCache}
    (agrees : Cache.Agrees cache valueFor)
    (frame : Frame)
    (session : Session)
    (knowledge : KnowledgeBase)
    (name : Text) :
    (cache.resolve frame session knowledge name).1 =
      resolveVariable frame session knowledge name := by
  rw [resolve_eq, agrees.lookupOrInsert_value]
  exact valueOf_visibleFingerprint frame session knowledge name

/-- What a cache of variables remembers stays right. -/
theorem agrees_resolve
    {cache : VariableCache}
    (agrees : Cache.Agrees cache valueFor)
    (frame : Frame)
    (session : Session)
    (knowledge : KnowledgeBase)
    (name : Text) :
    Cache.Agrees (cache.resolve frame session knowledge name).2 valueFor := by
  rw [resolve_eq]
  exact agrees.lookupOrInsert _ _

end VariableCache

end Colloquy
