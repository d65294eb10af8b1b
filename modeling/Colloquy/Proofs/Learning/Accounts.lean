import Colloquy.Proofs.Learning.Teaching
import Colloquy.Proofs.Session
import Mathlib.Algebra.GroupWithZero.Nat

namespace Colloquy

/-!
# Accounts of learning

A session counts what it learned, was refused and unlearned, by cause and by shape,
and keeps the lengths of the last templates it learned. The knowledge base counts
for all sessions together. Whatever happens, the counts of a session agree with each
other and with its log; and as long as rules come and go by learning and unlearning
only, the counts of the knowledge base tell how many rules there are.
-/

namespace Table

/-- Giving a name another value changes the sum by the difference. -/
theorem sum_insertEntry
    (name : Text)
    (value : Nat)
    {entries : List (Text × Nat)}
    (ascending : NamesAscend entries) :
    ((insertEntry name value entries).map Prod.snd).sum +
        ((entries.find? (·.1 == name)).map Prod.snd).getD 0 =
      (entries.map Prod.snd).sum + value := by
  induction entries with
  | nil =>
      simp [insertEntry]
  | cons first rest inductionHypothesis =>
      obtain ⟨aboveFirst, restAscends⟩ := List.pairwise_cons.mp ascending
      unfold insertEntry
      split
      · next same =>
          simp [same]
          omega
      · next different =>
          have other : ¬ first.1 = name := fun same => different same.symm
          split
          · next below =>
              -- The name is below all others, so it had no value.
              have missing : rest.find? (·.1 == name) = none := by
                rw [List.find?_eq_none]
                intro entry member isName
                have above := List.lt_trans below (aboveFirst entry member)
                rw [beq_iff_eq.mp isName] at above
                exact List.lt_irrefl _ above
              simp [other, missing]
              omega
          · have later := inductionHypothesis restAscends
            simp [other] at later ⊢
            omega

/-- Counting under one name adds one to the sum. -/
theorem sum_values_update
    (table : Table Nat)
    (name : Text) :
    (table.update name 0 (· + 1)).values.sum = table.values.sum + 1 := by
  have counted := sum_insertEntry name ((table.find? name).getD 0 + 1) table.ascending
  simp only [values, update, insert, find?] at counted ⊢
  omega

end Table

/-! ## The accounts of a session -/

/-- The counts agree with each other, with the log and with what the session was taught. -/
structure Session.Balances
    (session : Session)
    (samples : Nat)
    (taught : List Category) :
    Prop where
  total : session.statistics.totalLearned = taught.length
  log :
    session.statistics.totalLearned =
      session.learned.length + session.statistics.totalUnlearned
  shapes : session.statistics.shapes.values.sum = session.statistics.totalLearned
  rejections : session.statistics.rejections.values.sum = session.statistics.totalRejected
  lengths :
    Ordinal.Recent samples (taught.map (·.template.length)) session.statistics.templateLengths

namespace Session.Balances

variable
  {session : Session}
  {taught : List Category}

/-- A session that is new was taught nothing. -/
theorem new
    (id : Text)
    (limit samples : Nat) :
    (Session.withHistoryLimit id limit).Balances samples [] :=
  ⟨rfl, rfl, rfl, rfl, Ordinal.recent_nil samples⟩

/-- Nothing counts but the log and the statistics. -/
theorem of_ledger
    {samples : Nat}
    (balances : session.Balances samples taught)
    {session' : Session}
    (sameLog : session'.learned = session.learned)
    (sameStatistics : session'.statistics = session.statistics) :
    session'.Balances samples taught := by
  obtain ⟨isTaught, isLogged, shapes, rejections, lengths⟩ := balances
  refine ⟨?_, ?_, ?_, ?_, ?_⟩
  all_goals rw [sameStatistics]
  · exact isTaught
  · rw [sameLog]
    exact isLogged
  · exact shapes
  · exact rejections
  · exact lengths

/-- A lesson keeps the accounts, adding what it taught. -/
theorem give
    {limits : LearningLimits}
    {state : Session × KnowledgeBase}
    (balances : state.1.Balances limits.maxTemplateSamples taught)
    (lesson : Lesson) :
    (lesson.give limits state).1.Balances limits.maxTemplateSamples
      (taught ++ (lesson.taught? limits).toList) := by
  obtain ⟨isTaught, isLogged, shapes, rejections, lengths⟩ := balances
  cases lesson with
  | learn candidate =>
      simp only [Lesson.give, Lesson.taught?, learn]
      cases Admission.validate candidate limits with
      | error refusal =>
          have more := Table.sum_values_update state.1.statistics.rejections refusal.reason
          simp only [Option.toList_none, List.append_nil]
          exact ⟨isTaught, isLogged, shapes, more.trans (congrArg (· + 1) rejections), lengths⟩
      | ok _ =>
          have more := Table.sum_values_update state.1.statistics.shapes
            (Pattern.Shape.ofText candidate.pattern).key
          refine ⟨?_, ?_, more.trans (congrArg (· + 1) shapes), rejections, ?_⟩
          · simp [LearningStatistics.recordLearned, isTaught]
          · simp only [LearningStatistics.recordLearned, isLogged, List.length_append,
              List.length_singleton]
            omega
          · rw [List.map_append]
            exact lengths.push candidate.template.length
  | unlearn candidate =>
      have parted := List.length_eq_length_filter_add (l := state.1.learned)
        fun entry => unlearns candidate entry.category
      simp only [Lesson.give, Lesson.taught?, unlearn, Option.toList_none, List.append_nil]
      refine ⟨isTaught, ?_, shapes, rejections, lengths⟩
      simp only [LearningStatistics.recordUnlearned, isLogged]
      omega

/-- Lessons keep the accounts, adding what they taught. -/
theorem giveAll
    {limits : LearningLimits}
    {state : Session × KnowledgeBase}
    (balances : state.1.Balances limits.maxTemplateSamples taught)
    (lessons : List Lesson) :
    (Lesson.giveAll limits state lessons).1.Balances limits.maxTemplateSamples
      (taught ++ lessons.filterMap (Lesson.taught? limits)) := by
  induction lessons generalizing state taught with
  | nil =>
      rw [List.filterMap_nil, List.append_nil]
      exact balances
  | cons lesson rest inductionHypothesis =>
      have split : (lesson :: rest).filterMap (Lesson.taught? limits) =
          (lesson.taught? limits).toList ++ rest.filterMap (Lesson.taught? limits) := by
        cases isTaught : lesson.taught? limits <;> simp [isTaught]
      rw [split, ← List.append_assoc]
      exact inductionHypothesis (balances.give lesson)

end Session.Balances

namespace Service

variable {ι : Type} [DecidableEq ι]

/-- The accounts of a session agree with what it was taught. -/
theorem Taught.balances
    {start : Service ι}
    {who : ι}
    {history : List (Event ι)}
    {taught : List Category}
    (isTaught : Taught start who history taught)
    (atFirst : (start.sessions who).Balances
      start.interpreter.settings.learning.maxTemplateSamples []) :
    ((start.after history).sessions who).Balances
      start.interpreter.settings.learning.maxTemplateSamples taught := by
  induction isTaught with
  | nothing =>
      exact atFirst
  | @asked history event taught lessons _ _ gives inductionHypothesis =>
      have sameLimits := congrArg Settings.learning (start.settings_after history)
      rw [after_concat]
      rw [← sameLimits] at inductionHypothesis ⊢
      exact (inductionHypothesis.giveAll lessons).of_ledger gives.log gives.statistics
  | @cleared history _ _ _ =>
      have isCleared : (start.after (history ++ [.clear who])).sessions who =
          ((start.after history).sessions who).clear := by
        rw [after_concat]
        exact Function.update_self ..
      rw [isCleared]
      exact .new _ _ _
  | passed _ notAsked notCleared inductionHypothesis =>
      rw [after_concat, sessions_happen_of_passed _ notAsked notCleared]
      exact inductionHypothesis

end Service

/-! ## The accounts of a knowledge base -/

namespace KnowledgeBase

/-- The knowledge bases have counted the same number of rules learned and unlearned. -/
structure SameCounts (before after : KnowledgeBase) : Prop where
  learned : after.learned = before.learned
  unlearned : after.unlearned = before.unlearned

namespace SameCounts

variable {first second third : KnowledgeBase}

theorem trans
    (earlier : first.SameCounts second)
    (later : second.SameCounts third) :
    first.SameCounts third :=
  ⟨later.learned.trans earlier.learned, later.unlearned.trans earlier.unlearned⟩

/-- Nothing is counted where nothing was. -/
theorem nothing
    (same : first.SameCounts second)
    (noneCounted : first.learned = 0 ∧ first.unlearned = 0) :
    second.learned = 0 ∧ second.unlearned = 0 :=
  ⟨same.learned.trans noneCounted.1, same.unlearned.trans noneCounted.2⟩

theorem extend
    (knowledge : KnowledgeBase)
    (categories : List Category) :
    knowledge.SameCounts (knowledge.extend categories) := by
  induction categories generalizing knowledge with
  | nil =>
      exact ⟨rfl, rfl⟩
  | cons category rest inductionHypothesis =>
      have added : knowledge.SameCounts (knowledge.add category).2 := ⟨rfl, rfl⟩
      exact added.trans (inductionHypothesis _)

theorem remove
    (knowledge : KnowledgeBase)
    (category : Category)
    (serial : Nat) :
    knowledge.SameCounts (knowledge.remove category serial).2 := by
  unfold KnowledgeBase.remove
  split
  · exact ⟨rfl, rfl⟩
  · exact ⟨rfl, rfl⟩

theorem removeAll
    (knowledge : KnowledgeBase)
    (entries : List LearnedRule) :
    knowledge.SameCounts (entries.foldl
      (fun knowledge entry => (knowledge.remove entry.category entry.serial).2) knowledge) := by
  induction entries generalizing knowledge with
  | nil =>
      exact ⟨rfl, rfl⟩
  | cons entry rest inductionHypothesis =>
      exact (remove knowledge entry.category entry.serial).trans (inductionHypothesis _)

end SameCounts

/-- Nothing counts as learned or unlearned that was loaded, added or removed. -/
theorem Reachable.nothingCounted
    {knowledge : KnowledgeBase}
    (reachable : knowledge.Reachable) :
    knowledge.learned = 0 ∧ knowledge.unlearned = 0 := by
  induction reachable with
  | load name globals properties categories =>
      exact (SameCounts.extend (empty name globals properties) categories).nothing ⟨rfl, rfl⟩
  | add category _ inductionHypothesis =>
      exact inductionHypothesis
  | extend categories _ inductionHypothesis =>
      exact (SameCounts.extend _ categories).nothing inductionHypothesis
  | remove category serial _ inductionHypothesis =>
      exact (SameCounts.remove _ category serial).nothing inductionHypothesis
  | @reload knowledge categories _ inductionHypothesis =>
      exact (SameCounts.extend { knowledge with rules := RuleSet.empty } categories).nothing
        inductionHypothesis

end KnowledgeBase

namespace Community

variable {ι : Type}

/-- Every log entry has its rule, and the counts tell how many rules there are. -/
structure Accounted (origin now : Community ι) : Prop where
  unlogged : ∀ who, origin.log who = []
  owned : now.Owned
  since : Since origin now
  balance :
    now.knowledge.size + now.knowledge.unlearned = origin.knowledge.size + now.knowledge.learned

namespace Accounted

variable {origin now : Community ι}

/-- Each entry that is accounted for has its rule. -/
theorem holds
    (accounted : Accounted origin now)
    {who : ι}
    {entry : LearnedRule}
    (isEntry : entry ∈ now.log who) :
    now.Holds entry := by
  rcases accounted.since.log who entry isEntry with isOld | isNew
  · rw [accounted.unlogged who] at isOld
    cases isOld
  · exact accounted.since.holds who entry isEntry isNew

/-- Logs that lost entries tell nothing that they did not tell. -/
theorem fewer
    {after : Community ι}
    (accounted : Accounted origin now)
    (knowledge : after.knowledge = now.knowledge)
    (log : ∀ who, (after.log who).Sublist (now.log who)) :
    Accounted origin after := by
  obtain ⟨drops, spares⟩ := drops_and_spares_of_rules_eq accounted.owned.orderly
    (congrArg KnowledgeBase.rules knowledge) (congrArg KnowledgeBase.nextSerial knowledge) log
  refine ⟨accounted.unlogged, accounted.owned.drops drops, accounted.since.drops drops spares, ?_⟩
  rw [knowledge]
  exact accounted.balance

/-- A candidate describes as many rules as log entries. -/
theorem length_described
    (accounted : Accounted origin now)
    (who : ι)
    (candidate : Category) :
    (now.rules.filter fun rule => rule.serial ∈ now.serialsDescribed who candidate).length =
      (now.serialsDescribed who candidate).length := by
  have distinctRules : ((now.rules.filter fun rule =>
      rule.serial ∈ now.serialsDescribed who candidate).map (·.serial)).Nodup :=
    List.pairwise_map.mpr
      ((accounted.owned.orderly.ascending.sublist List.filter_sublist).imp Nat.ne_of_lt)
  have distinctEntries : (now.serialsDescribed who candidate).Nodup :=
    List.pairwise_map.mpr ((accounted.owned.serials.within who).sublist List.filter_sublist)
  have sameSerials : ((now.rules.filter fun rule =>
      rule.serial ∈ now.serialsDescribed who candidate).map (·.serial)).Perm
        (now.serialsDescribed who candidate) := by
    rw [List.perm_ext_iff_of_nodup distinctRules distinctEntries]
    intro serial
    constructor
    · intro member
      obtain ⟨rule, isDescribed, rfl⟩ := List.mem_map.mp member
      exact of_decide_eq_true (List.mem_filter.mp isDescribed).2
    · intro isDescribed
      obtain ⟨entry, isMeant, rfl⟩ := List.mem_map.mp isDescribed
      obtain ⟨rule, isRule, _, same⟩ := accounted.holds (List.mem_filter.mp isMeant).1
      rw [← same] at isDescribed ⊢
      exact List.mem_map_of_mem (List.mem_filter.mpr ⟨isRule, decide_eq_true isDescribed⟩)
  rw [← sameSerials.length_eq, List.length_map]

variable [DecidableEq ι]

theorem learn
    (accounted : Accounted origin now)
    (who : ι)
    (limits : LearningLimits)
    (candidate : Category) :
    Accounted origin (now.step (.learn who limits candidate)) := by
  refine ⟨accounted.unlogged, accounted.owned.step _, accounted.since.step accounted.owned rfl, ?_⟩
  have balance := accounted.balance
  cases verdict : Admission.validate candidate limits with
  | error refusal =>
      simp only [step, Colloquy.learn, verdict]
      exact balance
  | ok _ =>
      have sized : (now.step (.learn who limits candidate)).knowledge.size =
          now.knowledge.size + 1 :=
        (congrArg List.length (adds_learn now who verdict).rules).trans List.length_append
      have counted : (now.step (.learn who limits candidate)).knowledge.learned =
            now.knowledge.learned + 1 ∧
          (now.step (.learn who limits candidate)).knowledge.unlearned =
            now.knowledge.unlearned := by
        simp only [step, Colloquy.learn, verdict]
        exact ⟨rfl, rfl⟩
      omega

/-- Unlearning keeps the accounts. -/
theorem unlearn
    (accounted : Accounted origin now)
    (who : ι)
    (candidate : Category) :
    Accounted origin (now.step (.unlearn who candidate)) := by
  refine ⟨accounted.unlogged, accounted.owned.step _, accounted.since.step accounted.owned rfl, ?_⟩
  have balance := accounted.balance
  -- What is described goes, one rule for each log entry, and is counted once.
  have sized : (now.step (.unlearn who candidate)).knowledge.size +
      (now.serialsDescribed who candidate).length = now.knowledge.size := by
    have left := congrArg List.length (accounted.owned.rules_unlearn who candidate)
    have parted := List.length_eq_length_filter_add (l := now.rules)
      fun rule => rule.serial ∈ now.serialsDescribed who candidate
    rw [accounted.length_described who candidate] at parted
    simp only [← decide_not, ← left] at parted
    exact (Nat.add_comm _ _).trans parted.symm
  have counted := KnowledgeBase.SameCounts.removeAll now.knowledge
    ((now.log who).filter fun entry => unlearns candidate entry.category)
  have learned : (now.step (.unlearn who candidate)).knowledge.learned = now.knowledge.learned :=
    counted.learned
  have unlearned : (now.step (.unlearn who candidate)).knowledge.unlearned =
      now.knowledge.unlearned + (now.serialsDescribed who candidate).length := by
    rw [serialsDescribed, List.length_map, ← counted.unlearned]
    rfl
  omega

end Accounted

variable [DecidableEq ι]

/-- Give lessons to a session. -/
def teach
    (community : Community ι)
    (who : ι)
    (limits : LearningLimits)
    (lessons : List Lesson) :
    Community ι :=
  let given := Lesson.giveAll limits (community.sessions who, community.knowledge) lessons
  ⟨given.2, Function.update community.sessions who given.1⟩

/-- Lessons are given one after the other. -/
theorem teach_cons
    (community : Community ι)
    (who : ι)
    (limits : LearningLimits)
    (lesson : Lesson)
    (rest : List Lesson) :
    community.teach who limits (lesson :: rest) =
      (community.teach who limits [lesson]).teach who limits rest := by
  simp only [teach, Lesson.giveAll, List.foldl_cons, List.foldl_nil, Function.update_self,
    Function.update_idem]

/-- Lessons keep the accounts. -/
theorem Accounted.teach
    {origin now : Community ι}
    (accounted : Accounted origin now)
    (who : ι)
    (limits : LearningLimits)
    (lessons : List Lesson) :
    Accounted origin (now.teach who limits lessons) := by
  induction lessons generalizing now with
  | nil =>
      have same : now.teach who limits [] = now := by
        simp only [Community.teach, Lesson.giveAll, List.foldl_nil, Function.update_eq_self]
      rw [same]
      exact accounted
  | cons lesson rest inductionHypothesis =>
      rw [teach_cons]
      apply inductionHypothesis
      cases lesson with
      | learn candidate =>
          exact accounted.learn who limits candidate
      | unlearn candidate =>
          exact accounted.unlearn who candidate

end Community

namespace Service

variable {ι : Type}

/-- The sessions of a service and the one that does not last share the knowledge base. -/
def community (service : Service ι) : Community (Option ι) :=
  ⟨service.interpreter.knowledge, service.sessionOf⟩

variable [DecidableEq ι]

/-- As long as rules are not replaced, the counts tell how many there are. -/
theorem accounted_happen
    {origin : Community (Option ι)}
    {service : Service ι}
    (accounted : Community.Accounted origin service.community)
    {event : Event ι}
    (notReplaced : event.replacesRules = false) :
    Community.Accounted origin (service.happen event).community := by
  rcases service.happen_cases event with ⟨lessons, session, teaches⟩ | ⟨other, rfl⟩ | ⟨replaced, _⟩
  · have taught := accounted.teach event.asker? service.interpreter.settings.learning lessons
    apply taught.fewer teaches.gives.knowledge
    rintro (_ | who)
    · exact List.nil_sublist _
    · have isSession := teaches.sessions who
      rw [Community.teach, Community.log_update]
      change ((service.happen event).sessions who).learned.Sublist _
      by_cases isAsker : event.asker? = some who
      · rw [isSession, if_pos isAsker, if_pos isAsker.symm]
        exact teaches.gives.log ▸ List.Sublist.refl _
      · rw [isSession, if_neg isAsker, if_neg (Ne.symm isAsker)]
        exact List.Sublist.refl _
  · refine accounted.fewer ?_ ?_
    · rfl
    rintro (_ | who)
    · exact List.Sublist.refl _
    · change ((service.happen (.clear other)).sessions who).learned.Sublist
        (service.sessions who).learned
      simp only [happen, Function.update_apply]
      split
      · exact List.nil_sublist _
      · exact List.Sublist.refl _
  · rw [notReplaced] at replaced
    cases replaced

/-- The accounts are kept as long as the rules are not replaced. -/
theorem accounted_after
    {origin : Community (Option ι)}
    {service : Service ι}
    (accounted : Community.Accounted origin service.community)
    {history : List (Event ι)}
    (notReplaced : ∀ event ∈ history, event.replacesRules = false) :
    Community.Accounted origin (service.after history).community := by
  induction history generalizing service with
  | nil =>
      exact accounted
  | cons event rest inductionHypothesis =>
      obtain ⟨first, later⟩ := List.forall_mem_cons.mp notReplaced
      exact inductionHypothesis (accounted_happen accounted first) later

/-- A service with sessions that its interpreter made. -/
def opened
    (knowledge : KnowledgeBase)
    (settings : Settings)
    (picks : List Nat)
    (names : ι → Text) :
    Service ι :=
  let interpreter := Interpreter.new knowledge settings picks
  ⟨interpreter, fun who => interpreter.newSession (names who)⟩

/--
Whatever happens to a service, each session has an account of what it was taught since
it was made or last cleared, and the accounts balance: it learned what its log tells and
what it unlearned, the counts by shape and by reason add up to what it learned and what
was refused, and the lengths that it keeps are those of the last templates, in order, as
many as there are up to the bound. If the rules were not replaced or edited, then the
rules that are there and those that were unlearned are together as many as were loaded
and were learned.
-/
theorem after_balancesAccounts
    (knowledge : KnowledgeBase)
    (settings : Settings)
    (picks : List Nat)
    (names : ι → Text)
    (history : List (Event ι)) :
    let start := opened knowledge settings picks names
    let service := start.after history
    (∀ who,
        (∃ taught, Taught start who history taught) ∧
          ∀ taught,
            Taught start who history taught →
            (service.sessions who).Balances settings.learning.maxTemplateSamples taught) ∧
      (knowledge.Reachable →
        (∀ event ∈ history, event.replacesRules = false) →
        service.interpreter.knowledge.size + service.interpreter.knowledge.unlearned =
          knowledge.size + service.interpreter.knowledge.learned) := by
  intro start service
  refine ⟨?_, ?_⟩
  · intro who
    refine ⟨start.exists_taught who history, ?_⟩
    intro taught isTaught
    exact isTaught.balances (.new _ _ _)
  · intro loaded notReplaced
    obtain ⟨noneLearned, noneUnlearned⟩ := loaded.nothingCounted
    have unlogged (who : Option ι) : start.community.log who = [] := by
      cases who <;> rfl
    have owned : start.community.Owned :=
      Community.owned_of_nothingLearned loaded.orderly unlogged
    have accounted : Community.Accounted start.community start.community := by
      refine ⟨unlogged, owned, .refl owned, ?_⟩
      change knowledge.size + knowledge.unlearned = knowledge.size + knowledge.learned
      rw [noneLearned, noneUnlearned]
    exact (accounted_after accounted notReplaced).balance

/-- Two sessions that share a knowledge base and keep the length of one template each. -/
def schoolService : Service Bool :=
  opened (.ofCategories "school".toList .empty .empty [Community.greeting])
    { learning := { maxTemplateSamples := 1 } } [] fun who => if who then ['a'] else ['b']

/-- What the first session is to learn after the greeting. -/
def farewell : Category :=
  .plain "BYE".toList "see you".toList

/-- The first session learns twice, is refused once and unlearns once. -/
def schoolDay : List Lesson :=
  [.learn Community.greeting, .learn farewell, .learn (.plain [] []), .unlearn Community.greeting]

/-- The accounts of the first session tell that it was taught a greeting and a farewell. -/
theorem after_balancesAccounts_schoolDay :
    let history := schoolDay.map fun lesson => Event.ask (lesson.request true)
    let service := schoolService.after history
    Taught schoolService true history [Community.greeting, farewell] ∧
      (service.sessions true).Balances 1 [Community.greeting, farewell] ∧
      (service.sessions true).statistics.templateLengths = [7] ∧
      service.interpreter.knowledge.size + service.interpreter.knowledge.unlearned = 1 + 2 := by
  intro history service
  have isTaught : schoolDay.filterMap
      (Lesson.taught? schoolService.interpreter.settings.learning) =
        [Community.greeting, farewell] := by
    decide +kernel
  have taught : Taught schoolService true history [Community.greeting, farewell] :=
    isTaught ▸ Taught.nothing.requests schoolDay
  obtain ⟨accounts, balance⟩ := after_balancesAccounts
    (.ofCategories "school".toList .empty .empty [Community.greeting])
    { learning := { maxTemplateSamples := 1 } } [] (fun who : Bool => if who then ['a'] else ['b'])
    history
  have learned : service.interpreter.knowledge.learned = 2 := by
    decide +kernel
  refine ⟨taught, (accounts true).2 _ taught, by decide +kernel, ?_⟩
  rw [← learned]
  exact balance (.load _ _ _ _) (by decide)

end Service

end Colloquy
