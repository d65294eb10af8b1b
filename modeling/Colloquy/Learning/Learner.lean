import Colloquy.Admission.Validation
import Colloquy.Rule.KnowledgeBase
import Colloquy.Session

namespace Colloquy

/-!
# Learning and unlearning

A session learns a category by adding it to the knowledge base, if it may be
learned. It unlearns only what it learned itself: its log keeps the serial number
of each rule, and only that rule is removed.
-/

/-- Learn a category, or say why not. -/
def learn
    (limits : LearningLimits)
    (candidate : Category)
    (session : Session)
    (knowledge : KnowledgeBase) :
    Except Admission.Refusal Unit × Session × KnowledgeBase :=
  match Admission.validate candidate limits with
  | .error refusal =>
      (.error refusal,
        { session with statistics := session.statistics.recordRejected refusal.reason },
        knowledge.recordRejected)
  | .ok () =>
      let (serial, knowledge) := knowledge.add candidate
      (.ok (),
        { session with
          statistics := session.statistics.recordLearned candidate.pattern candidate.template
            limits.maxTemplateSamples
          learned := session.learned ++ [⟨candidate, serial⟩] },
        knowledge.recordLearned)

/-- A constraint that is asked for is the one that is there. -/
def constraintAgrees
    (wanted present : Option Text) :
    Bool :=
  match wanted with
  | none => true
  | some text => present.map Text.canonical = some (Text.canonical text)

/-- A learned category is one of those to be unlearned. -/
def unlearns
    (candidate learned : Category) :
    Bool :=
  Text.canonical candidate.pattern = Text.canonical learned.pattern &&
    Text.trim candidate.template = Text.trim learned.template &&
    constraintAgrees candidate.that learned.that &&
    constraintAgrees candidate.topic learned.topic

/-- Unlearn what the session learned and the candidate describes, saying how much it was. -/
def unlearn
    (candidate : Category)
    (session : Session)
    (knowledge : KnowledgeBase) :
    Nat × Session × KnowledgeBase :=
  let removed := session.learned.filter fun entry => unlearns candidate entry.category
  let kept := session.learned.filter fun entry => !unlearns candidate entry.category
  let count := removed.length
  let shrunk := removed.foldl
    (fun knowledge entry => (knowledge.remove entry.category entry.serial).2) knowledge
  (count,
    { session with
      learned := kept
      statistics := session.statistics.recordUnlearned count },
    shrunk.recordUnlearned count)

end Colloquy
