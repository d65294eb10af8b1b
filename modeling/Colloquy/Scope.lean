import Colloquy.Bindings
import Colloquy.Cache
import Colloquy.Rule.KnowledgeBase
import Colloquy.Session

namespace Colloquy

/-!
# Scopes of variables

A name is looked up in the locals of the evaluation, then among the session's
variables, the knowledge base's variables and its properties; a name found
nowhere has an empty value. Answers are remembered under the name together with
a fingerprint of all four scopes, so that a write anywhere makes old answers
unreachable.
-/

/-- What one evaluation has to itself. -/
structure Frame where
  locals : Table Text
  depth : Nat
  bindings : Bindings
  deriving DecidableEq, Repr

namespace Frame

/-- The frame of an evaluation that no rule called for. -/
def root (bindings : Bindings) : Frame :=
  ⟨Table.empty, 0, bindings⟩

/-- The frame of an evaluation one call deeper. -/
def child
    (frame : Frame)
    (bindings : Bindings) :
    Frame :=
  ⟨Table.empty, frame.depth + 1, bindings⟩

end Frame

/-! ## Fingerprints -/

/-- A pair stands before another in order of name and then value. -/
def pairLE
    (first second : Text × Text) :
    Bool :=
  first.1 < second.1 || (first.1 = second.1 && !(second.2 < first.2))

/-- A scope in a form that does not depend on the order of its pairs. -/
structure ScopeDigest where
  count : Nat
  parts : List Text
  deriving DecidableEq, Repr

/-- The number of pairs, then names and values in order. -/
def ScopeDigest.ofPairs (pairs : List (Text × Text)) : ScopeDigest where
  count := pairs.length
  parts := (pairs.mergeSort pairLE).flatMap fun (name, value) => [name, value]

/-- The digest of a table. -/
def ScopeDigest.ofTable (table : Table Text) : ScopeDigest :=
  ofPairs table.entries

/-- What identifies a scope, the scopes of a knowledge base, or all scopes in sight. -/
inductive Fingerprint where
  | scope (digest : ScopeDigest)
  | knowledge (globals properties : ScopeDigest)
  | visible (locals session : ScopeDigest) (knowledge : Fingerprint)
  deriving DecidableEq, Repr

/-- The fingerprint of a knowledge base's scopes. -/
def KnowledgeBase.fingerprint (knowledge : KnowledgeBase) : Fingerprint :=
  .knowledge (ScopeDigest.ofTable knowledge.globals) (ScopeDigest.ofTable knowledge.properties)

/-- The fingerprint of all scopes that an evaluation sees. -/
def visibleFingerprint
    (frame : Frame)
    (session : Session)
    (knowledge : KnowledgeBase) :
    Fingerprint :=
  .visible (ScopeDigest.ofTable frame.locals) (ScopeDigest.ofTable session.assigned)
    knowledge.fingerprint

/-! ## Lookup -/

/-- The value of a name in the scopes that an evaluation sees. -/
def resolveVariable
    (frame : Frame)
    (session : Session)
    (knowledge : KnowledgeBase)
    (name : Text) :
    Text :=
  ((((frame.locals.find? name).or (session.valueOf? name)).or
    (knowledge.globals.find? name)).or (knowledge.properties.find? name)).getD []

/-- Answers remembered under a name and a fingerprint. -/
abbrev VariableCache := Cache (Text × Fingerprint) Text

namespace VariableCache

/-- Nothing is remembered. -/
def ofSettings (settings : CacheSettings) : VariableCache :=
  Cache.ofSettings "variables".toList settings

/-- The value of a name, remembered or looked up. -/
def resolve
    (cache : VariableCache)
    (frame : Frame)
    (session : Session)
    (knowledge : KnowledgeBase)
    (name : Text) :
    Text × VariableCache :=
  Cache.lookupOrInsert cache (name, visibleFingerprint frame session knowledge)
    (some knowledge.name) fun _ => resolveVariable frame session knowledge name

end VariableCache

end Colloquy
