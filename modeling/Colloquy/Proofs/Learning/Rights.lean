import Colloquy.Proofs.Evaluation.Unchanged
import Colloquy.Proofs.Learning.Lessons
import Colloquy.Proofs.Learning.Ownership
import Colloquy.Proofs.Rule.Representation

namespace Colloquy

/-!
# What a session may do to the rules

A session may take out rules whose serial numbers its log tells, and add rules that
are admitted at the end, under numbers that are new. Doing so twice is within the
same rights, since the numbers that the log gains on the way are those of no rule
that was there at first. So however learning and unlearning are nested in what is
evaluated, the whole is within the rights of the session as it was at the beginning.
-/

/-! ## Lists that were revised -/

/-- Entries are left out only if they may go, and those that are new stand at the end. -/
def Revised
    {α : Type}
    (mayGo isNew : α → Prop)
    (before after : List α) :
    Prop :=
  ∃ (keep : α → Bool) (fresh : List α),
    after = before.filter keep ++ fresh ∧
      (∀ entry ∈ before, keep entry = false → mayGo entry) ∧
      ∀ entry ∈ fresh, isNew entry

namespace Revised

variable
  {α : Type}
  {mayGo isNew : α → Prop}
  {first second third : List α}

theorem refl (entries : List α) : Revised mayGo isNew entries entries :=
  ⟨fun _ => true, [], by simp, by simp, by simp⟩

/-- A new entry at the end is a revision. -/
theorem concat
    (entries : List α)
    {entry : α}
    (new : isNew entry) :
    Revised mayGo isNew entries (entries ++ [entry]) :=
  ⟨fun _ => true, [entry], by simp, by simp, by simpa using new⟩

/-- Dropping entries that may go is a revision. -/
theorem filter
    (keep : α → Bool)
    (entries : List α)
    (goes : ∀ entry ∈ entries, keep entry = false → mayGo entry) :
    Revised mayGo isNew entries (entries.filter keep) :=
  ⟨keep, [], (List.append_nil _).symm, goes, by simp⟩

/-- A second revision may leave out what the first one added. -/
theorem trans
    {mayGo' isNew' isNew'' : α → Prop}
    (earlier : Revised mayGo isNew first second)
    (later : Revised mayGo' isNew' second third)
    (goes : ∀ entry ∈ first, mayGo' entry → mayGo entry)
    (came : ∀ entry, isNew entry → isNew'' entry)
    (comes : ∀ entry, isNew' entry → isNew'' entry) :
    Revised mayGo isNew'' first third := by
  obtain ⟨keep, fresh, rfl, dropped, allNew⟩ := earlier
  obtain ⟨keep', fresh', rfl, dropped', allNew'⟩ := later
  refine ⟨fun entry => keep' entry && keep entry, fresh.filter keep' ++ fresh', ?_, ?_, ?_⟩
  · rw [List.filter_append, List.filter_filter, List.append_assoc]
  · intro entry isOld isDropped
    by_cases kept : keep entry = true
    · have isSecond : entry ∈ first.filter keep ++ fresh :=
        List.mem_append_left _ (List.mem_filter.mpr ⟨isOld, kept⟩)
      exact goes entry isOld (dropped' entry isSecond (by simpa [kept] using isDropped))
    · exact dropped entry isOld (Bool.not_eq_true _ ▸ kept)
  · intro entry member
    rcases List.mem_append.mp member with isLeft | isNew
    · exact came entry (allNew entry (List.mem_filter.mp isLeft).1)
    · exact comes entry (allNew' entry isNew)

/-- Entries that may not go are all left, in their order. -/
theorem sublist
    (revised : Revised mayGo isNew first second)
    {part : List α}
    (isPart : part.Sublist first)
    (stays : ∀ entry ∈ part, ¬ mayGo entry) :
    part.Sublist second := by
  obtain ⟨keep, fresh, rfl, dropped, _⟩ := revised
  have kept : part.filter keep = part := by
    rw [List.filter_eq_self]
    intro entry member
    by_contra isDropped
    exact stays entry member
      (dropped entry (isPart.subset member) (Bool.not_eq_true _ ▸ isDropped))
  rw [← kept]
  exact (isPart.filter keep).trans (List.sublist_append_left _ _)

/-- After a revision an entry is an old or a new one. -/
theorem mem
    (revised : Revised mayGo isNew first second)
    {entry : α}
    (member : entry ∈ second) :
    entry ∈ first ∨ isNew entry := by
  obtain ⟨keep, fresh, rfl, _, allNew⟩ := revised
  rcases List.mem_append.mp member with isLeft | isNew
  · exact Or.inl (List.mem_filter.mp isLeft).1
  · exact Or.inr (allNew entry isNew)

end Revised

/-! ## Rights -/

/-- A category is admitted, and its serial number was given between two moments. -/
structure Gained
    (limits : LearningLimits)
    (before after : KnowledgeBase)
    (category : Category)
    (serial : Nat) :
    Prop where
  admitted : Admission.validate category limits = .ok ()
  isNew : before.nextSerial ≤ serial
  isGiven : serial < after.nextSerial

/-- The session has learned a rule of the serial number, and not unlearned it. -/
def Session.Logs
    (session : Session)
    (serial : Nat) :
    Prop :=
  ∃ entry ∈ session.learned, entry.serial = serial

/-- The rules and the log changed as far as the session may change them. -/
structure WithinRights
    (limits : LearningLimits)
    (session : Session)
    (before : KnowledgeBase)
    (session' : Session)
    (after : KnowledgeBase) :
    Prop where
  orderly : after.Orderly
  scopes : before.SameScopes after
  nextSerial : before.nextSerial ≤ after.nextSerial
  rules :
    Revised
      (fun rule => session.Logs rule.serial)
      (fun rule => Gained limits before after rule.category rule.serial)
      before.rules.rules after.rules.rules
  log :
    Revised
      (fun _ => True)
      (fun entry => Gained limits before after entry.category entry.serial)
      session.learned session'.learned

namespace WithinRights

variable
  {limits : LearningLimits}
  {session session' session'' : Session}
  {before between after : KnowledgeBase}

/-- Counting and remembering are within all rights. -/
theorem unchanged
    (orderly : before.Orderly)
    (ruleSet : after.rules = before.rules)
    (nextSerial : after.nextSerial = before.nextSerial)
    (scopes : before.SameScopes after)
    (log : session'.learned = session.learned) :
    WithinRights limits session before session' after := by
  refine ⟨⟨?_, ?_, ?_⟩, scopes, Nat.le_of_eq nextSerial.symm, ?_, ?_⟩
  · rw [ruleSet]
    exact orderly.indexed
  · rw [ruleSet]
    exact orderly.ascending
  · rw [ruleSet, nextSerial]
    exact orderly.below
  · rw [ruleSet]
    exact .refl _
  · rw [log]
    exact .refl _

/-- What the log gained on the way tells no rule that was there at first. -/
theorem logs_of_logs
    (earlier : WithinRights limits session before session' between)
    (orderly : before.Orderly)
    {rule : Rule}
    (isRule : rule ∈ before.rules.rules)
    (logs : session'.Logs rule.serial) :
    session.Logs rule.serial := by
  obtain ⟨entry, isEntry, same⟩ := logs
  rcases earlier.log.mem isEntry with isOld | gained
  · exact ⟨entry, isOld, same⟩
  · have isNew : before.nextSerial ≤ rule.serial := same ▸ gained.isNew
    exact absurd (orderly.below rule isRule) (Nat.not_lt.mpr isNew)

/-- Changes within rights may follow each other. -/
theorem trans
    (orderly : before.Orderly)
    (earlier : WithinRights limits session before session' between)
    (later : WithinRights limits session' between session'' after) :
    WithinRights limits session before session'' after := by
  have came {category : Category} {serial : Nat}
      (gained : Gained limits before between category serial) :
      Gained limits before after category serial :=
    ⟨gained.admitted, gained.isNew, Nat.lt_of_lt_of_le gained.isGiven later.nextSerial⟩
  have comes {category : Category} {serial : Nat}
      (gained : Gained limits between after category serial) :
      Gained limits before after category serial :=
    ⟨gained.admitted, Nat.le_trans earlier.nextSerial gained.isNew, gained.isGiven⟩
  refine ⟨later.orderly, earlier.scopes.trans later.scopes,
    Nat.le_trans earlier.nextSerial later.nextSerial, ?_, ?_⟩
  · exact earlier.rules.trans later.rules
      (fun _ isRule => earlier.logs_of_logs orderly isRule)
      (fun _ => came) (fun _ => comes)
  · exact earlier.log.trans later.log (fun _ _ => id) (fun _ => came) (fun _ => comes)

/-- Changes within rights continue the knowledge base. -/
theorem continues
    (within : WithinRights limits session before session' after) :
    before.Continues after := by
  refine ⟨within.nextSerial, ?_⟩
  intro rule isRule
  rcases within.rules.mem isRule with isOld | gained
  · exact Or.inl isOld
  · exact Or.inr gained.isNew

end WithinRights

/-- Learning is within the rights of the session. -/
theorem withinRights_learn
    {knowledge : KnowledgeBase}
    (orderly : knowledge.Orderly)
    (limits : LearningLimits)
    (candidate : Category)
    (session : Session) :
    WithinRights limits session knowledge (learn limits candidate session knowledge).2.1
      (learn limits candidate session knowledge).2.2 := by
  have scopes := (learn_keeps limits candidate session knowledge).2
  cases verdict : Admission.validate candidate limits with
  | error refusal =>
      simp only [learn, verdict] at scopes ⊢
      exact .unchanged orderly rfl rfl scopes rfl
  | ok _ =>
      simp only [learn, verdict] at scopes ⊢
      have added := orderly.add candidate
      have gained : Gained limits knowledge (knowledge.add candidate).2.recordLearned candidate
          knowledge.nextSerial :=
        ⟨verdict, Nat.le_refl _, Nat.lt_succ_self _⟩
      exact ⟨⟨added.indexed, added.ascending, added.below⟩, scopes, Nat.le_succ _,
        .concat _ gained, .concat _ gained⟩

/-- Unlearning is within the rights of the session. -/
theorem withinRights_unlearn
    {knowledge : KnowledgeBase}
    (orderly : knowledge.Orderly)
    (limits : LearningLimits)
    (candidate : Category)
    (session : Session) :
    WithinRights limits session knowledge (unlearn candidate session knowledge).2.1
      (unlearn candidate session knowledge).2.2 := by
  obtain ⟨shrunk, sameSerial, left⟩ := Community.removeAll_spec orderly
    (session.learned.filter fun entry => unlearns candidate entry.category)
  refine ⟨⟨shrunk.indexed, shrunk.ascending, shrunk.below⟩,
    (unlearn_keeps candidate session knowledge).2, Nat.le_of_eq sameSerial.symm, ?_,
    .filter _ _ fun _ _ _ => trivial⟩
  refine left ▸ .filter _ _ ?_
  intro rule _ isDropped
  -- A rule that goes is known by the signature and the number of an entry.
  obtain ⟨entry, isDescribed, isKnown⟩ := List.all_eq_false.mp isDropped
  obtain ⟨_, same⟩ : rule.category.signature = entry.category.signature ∧
      rule.serial = entry.serial := by
    simpa [Rule.isKnownBy] using isKnown
  exact ⟨entry, (List.mem_filter.mp isDescribed).1, same.symm⟩

/-- However many lessons there are, they are within the rights of the session. -/
theorem withinRights_giveAll
    (state : Session × KnowledgeBase)
    (orderly : state.2.Orderly)
    (limits : LearningLimits)
    (lessons : List Lesson) :
    WithinRights limits state.1 state.2 (Lesson.giveAll limits state lessons).1
      (Lesson.giveAll limits state lessons).2 := by
  induction lessons generalizing state with
  | nil =>
      exact .unchanged orderly rfl rfl (.refl _) rfl
  | cons lesson rest inductionHypothesis =>
      have first : WithinRights limits state.1 state.2 (lesson.give limits state).1
          (lesson.give limits state).2 := by
        cases lesson with
        | learn candidate =>
            exact withinRights_learn orderly limits candidate state.1
        | unlearn candidate =>
            exact withinRights_unlearn orderly limits candidate state.1
      exact first.trans orderly (inductionHypothesis _ first.orderly)

namespace Interpreter

/-- Whatever the interpreter does for the session, the session stays within its rights. -/
structure KeepsRights
    (interpreter : Interpreter)
    (session : Session)
    (outcome : Session × Interpreter) :
    Prop where
  rights :
    interpreter.knowledge.Orderly →
    WithinRights interpreter.settings.learning session interpreter.knowledge outcome.1
      outcome.2.knowledge

/-- Where nothing but lessons changes the ledger, the session stays within its rights. -/
theorem keepsRights_of_gives
    {interpreter : Interpreter}
    {session : Session}
    {lessons : List Lesson}
    {outcome : Session × Interpreter}
    (gives : Gives lessons (session, interpreter) outcome) :
    interpreter.KeepsRights session outcome := by
  refine ⟨?_⟩
  intro orderly
  have given := withinRights_giveAll (session, interpreter.knowledge) orderly
    interpreter.settings.learning lessons
  refine given.trans orderly (.unchanged given.orderly ?_ ?_ ?_ gives.log)
  · exact congrArg KnowledgeBase.rules gives.knowledge
  · exact congrArg KnowledgeBase.nextSerial gives.knowledge
  · exact gives.knowledge ▸ .refl _

/-- Evaluating a template keeps within the session's rights. -/
theorem keepsRights_evaluateIn
    (interpreter : Interpreter)
    (session : Session)
    (bindings : Bindings)
    (template : Text) :
    interpreter.KeepsRights session (interpreter.evaluateIn session bindings template).2 := by
  obtain ⟨_, gives⟩ := gives_evaluateIn interpreter session bindings template
  exact keepsRights_of_gives gives

/-- Answering keeps within the session's rights. -/
theorem keepsRights_respond
    (interpreter : Interpreter)
    (session : Session)
    (utterance : Text) :
    interpreter.KeepsRights session (interpreter.respond session utterance).2 := by
  obtain ⟨_, gives⟩ := teaching.respond interpreter session utterance
  exact keepsRights_of_gives gives

end Interpreter

end Colloquy
