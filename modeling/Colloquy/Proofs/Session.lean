import Colloquy.Proofs.Finite
import Colloquy.Session
import Mathlib.Data.List.DropRight
import Mathlib.Data.List.Induction
import Mathlib.Order.Basic
import Mathlib.Order.Defs.LinearOrder

namespace Colloquy

/-!
# What a session keeps

A session keeps the last of what was said and answered, each history up to its own
bound. Whatever is done to a session, its histories are the ends of what was pushed
since it was made or cleared, and are counted from the newest entry. The topic is
kept twice, as itself and as a variable, and both always agree.
-/

/-! ## Bounded histories -/

namespace Ordinal

variable {α : Type} {limit : Nat} {all entries : List α}

/-- The entries are the last of all, as many as there are up to the limit. -/
structure Recent
    (limit : Nat)
    (all entries : List α) :
    Prop where
  isSuffix : entries <:+ all
  length : entries.length = min all.length limit

/-- Entries are recalled by their numbers, counted from one at the end. -/
structure Recalls
    (entries : List α)
    (recalled : Nat → Option α) :
    Prop where
  present : ∀ older entry newer,
    entries = older ++ entry :: newer →
    recalled (newer.length + 1) = some entry
  absent : ∀ number,
    number = 0 ∨ entries.length < number →
    recalled number = none

theorem recent_nil (limit : Nat) : Recent limit ([] : List α) [] :=
  ⟨List.suffix_rfl, (Nat.zero_min limit).symm⟩

/-- Pushing an entry keeps the most recent ones. -/
theorem Recent.push
    (recent : Recent limit all entries)
    (entry : α) :
    Recent limit (all ++ [entry]) (pushBounded limit entry entries) := by
  obtain ⟨⟨older, rfl⟩, kept⟩ := recent
  have longer : entries ++ [entry] <:+ (older ++ entries) ++ [entry] :=
    ⟨older, (List.append_assoc _ _ _).symm⟩
  refine ⟨(List.drop_suffix _ _).trans longer, ?_⟩
  simp only [List.length_append] at kept
  simp only [pushBounded, List.length_drop, List.length_append, List.length_singleton]
  omega

/-- Counting from the most recent entry recalls each of them. -/
theorem recalls_nthRecent? (entries : List α) : Recalls entries (nthRecent? entries) := by
  refine ⟨?_, ?_⟩
  · rintro older entry newer rfl
    have reversed : (older ++ entry :: newer).reverse =
        newer.reverse ++ entry :: older.reverse := by
      simp
    rw [nthRecent?, nth?, reversed]
    exact List.getElem?_append_right (by simp) |>.trans (by simp)
  · rintro (_ | before) outside
    · rfl
    · rw [nthRecent?, nth?, List.getElem?_eq_none_iff, List.length_reverse]
      omega

/-- As far as the limit reaches, the last entries are recalled as from all. -/
theorem Recent.nthRecent?_eq
    (recent : Recent limit all entries)
    {number : Nat}
    (within : number ≤ limit) :
    nthRecent? entries number = nthRecent? all number := by
  obtain ⟨⟨older, rfl⟩, kept⟩ := recent
  rw [List.length_append] at kept
  cases number with
  | zero =>
      rfl
  | succ before =>
      rw [nthRecent?, nthRecent?, nth?, nth?, List.reverse_append]
      by_cases inside : before < entries.length
      · rw [List.getElem?_append_left (by simpa using inside)]
      · -- Fewer entries than the limit are left only if there are no older ones.
        have noOlder : older = [] := by
          rw [← List.length_eq_zero_iff]
          omega
        rw [noOlder, List.reverse_nil, List.append_nil]

end Ordinal

namespace Session

/-! ## What may be done to a session -/

/-- Something done to a session. -/
inductive Action where
  | setVariable (name value : Text)
  | setTopic (topic : Text)
  | pushRequest (request : Text)
  | pushResponse (response : Text)
  | listAdd (name value : Text)
  | listSet (name : Text) (number : Nat) (value : Text)
  | listRemoveAt (name : Text) (number : Nat)
  | listRemoveValue (name value : Text)
  | listClear (name : Text)
  | mapSet (name key value : Text)
  | mapRemove (name key : Text)
  | mapClear (name : Text)
  | keepLog (learned : List LearnedRule) (statistics : LearningStatistics)
  | clear

/-- Do something to a session. -/
def act
    (session : Session) :
    Action →
    Session
  | .setVariable name value => session.setVariable name value
  | .setTopic topic => session.setTopic topic
  | .pushRequest request => session.pushRequest request
  | .pushResponse response => session.pushResponse response
  | .listAdd name value => session.listAdd name value
  | .listSet name number value => (session.listSet name number value).2
  | .listRemoveAt name number => (session.listRemoveAt name number).2
  | .listRemoveValue name value => (session.listRemoveValue name value).2
  | .listClear name => session.listClear name
  | .mapSet name key value => session.mapSet name key value
  | .mapRemove name key => (session.mapRemove name key).2
  | .mapClear name => session.mapClear name
  | .keepLog learned statistics => { session with learned, statistics }
  | .clear => session.clear

/-- Do one thing after the other to a session. -/
def actAll
    (session : Session)
    (actions : List Action) :
    Session :=
  actions.foldl act session

namespace Action

/-- All is forgotten. -/
def isClear : Action → Bool
  | .clear => true
  | _ => false

/-- What is said. -/
def request? : Action → Option Text
  | .pushRequest request => some request
  | _ => none

/-- What is answered. -/
def response? : Action → Option Text
  | .pushResponse response => some response
  | _ => none

/-- What was done since all was last forgotten. -/
def sinceClear (actions : List Action) : List Action :=
  actions.rtakeWhile (!·.isClear)

end Action

/-- An action that pushes nothing leaves what was pushed as it is. -/
theorem Action.filterMap_concat
    (pushed? : Action → Option Text)
    (action : Action)
    (nothing : pushed? action = none)
    (actions : List Action) :
    (actions ++ [action]).filterMap pushed? = actions.filterMap pushed? := by
  rw [List.filterMap_append, List.filterMap_cons_none nothing, List.filterMap_nil,
    List.append_nil]

/-! ## What every action keeps -/

/-- The variable of the topic holds the topic; where there is none, the topic is empty. -/
def TopicAgrees (session : Session) : Prop :=
  session.valueOf? topicName = some session.topic ∨
    session.valueOf? topicName = none ∧ session.topic = []

/-- The histories are the ends of what the actions pushed, and the topic agrees. -/
structure Reflects
    (session : Session)
    (limit : Nat)
    (actions : List Action) :
    Prop where
  historyLimit : session.historyLimit = limit
  requests : Ordinal.Recent limit (actions.filterMap Action.request?) session.requests
  responses : Ordinal.Recent limit (actions.filterMap Action.response?) session.responses
  thats : Ordinal.Recent thatLimit (actions.filterMap Action.response?) session.thats
  topicAgrees : session.TopicAgrees

theorem reflects_withHistoryLimit
    (id : Text)
    (limit : Nat) :
    (withHistoryLimit id limit).Reflects (max limit 1) [] where
  historyLimit := rfl
  requests := Ordinal.recent_nil _
  responses := Ordinal.recent_nil _
  thats := Ordinal.recent_nil _
  topicAgrees := Or.inr ⟨rfl, rfl⟩

/-- Setting a variable keeps the topic in agreement. -/
theorem topicAgrees_setVariable
    {session : Session}
    (agrees : session.TopicAgrees)
    (name value : Text) :
    (session.setVariable name value).TopicAgrees := by
  unfold TopicAgrees valueOf? setVariable
  by_cases isTopic : name = topicName
  · rw [if_pos isTopic, isTopic]
    exact Or.inl (session.assigned.find?_insert_self topicName value)
  · rw [if_neg isTopic, session.assigned.find?_insert_of_ne (Ne.symm isTopic)]
    exact agrees

namespace Reflects

variable
  {session : Session}
  {limit : Nat}
  {actions : List Action}

/-- Lists, maps and what was learned are neither pushed nor a topic. -/
theorem aside
    (reflects : session.Reflects limit actions)
    {action : Action}
    (noRequest : action.request? = none)
    (noResponse : action.response? = none)
    (lists : Table (List Text))
    (maps : Table (Table Text))
    (learned : List LearnedRule)
    (statistics : LearningStatistics) :
    Reflects { session with lists, maps, learned, statistics } limit (actions ++ [action]) := by
  obtain ⟨sameLimit, requests, responses, thats, agrees⟩ := reflects
  rw [← Action.filterMap_concat _ _ noRequest] at requests
  rw [← Action.filterMap_concat _ _ noResponse] at responses thats
  exact ⟨sameLimit, requests, responses, thats, agrees⟩

/-- An action that sets a variable adds neither a request nor a response. -/
theorem setVariable
    (reflects : session.Reflects limit actions)
    {action : Action}
    (noRequest : action.request? = none)
    (noResponse : action.response? = none)
    (name value : Text) :
    (session.setVariable name value).Reflects limit (actions ++ [action]) := by
  have kept := reflects.aside noRequest noResponse session.lists session.maps session.learned
    session.statistics
  exact ⟨kept.historyLimit, kept.requests, kept.responses, kept.thats,
    topicAgrees_setVariable reflects.topicAgrees name value⟩

/-- Whatever is done but clearing adds to what was done. -/
theorem act
    (reflects : session.Reflects limit actions)
    {action : Action}
    (goesOn : action.isClear = false) :
    (session.act action).Reflects limit (actions ++ [action]) := by
  cases action with
  | setVariable name value =>
      exact reflects.setVariable rfl rfl name value
  | setTopic topic =>
      exact reflects.setVariable rfl rfl topicName topic
  | pushRequest request =>
      obtain ⟨rfl, requests, responses, thats, agrees⟩ := reflects
      rw [← Action.filterMap_concat _ (.pushRequest request) rfl] at responses thats
      refine ⟨rfl, ?_, responses, thats, agrees⟩
      rw [List.filterMap_append]
      exact requests.push request
  | pushResponse response =>
      obtain ⟨rfl, requests, responses, thats, agrees⟩ := reflects
      rw [← Action.filterMap_concat _ (.pushResponse response) rfl] at requests
      refine ⟨rfl, requests, ?_, ?_, agrees⟩
      all_goals rw [List.filterMap_append]
      · exact responses.push response
      · exact thats.push response
  | listAdd | listClear | mapSet | mapClear | keepLog =>
      exact reflects.aside rfl rfl _ _ _ _
  | listSet | listRemoveAt | listRemoveValue | mapRemove =>
      simp only [Session.act, Session.listSet, Session.listRemoveAt, Session.listRemoveValue,
        Session.mapRemove]
      split <;> exact reflects.aside rfl rfl _ _ _ _
  | clear =>
      simp [Action.isClear] at goesOn

/-- A session that is cleared begins anew. -/
theorem clear
    (reflects : session.Reflects limit actions)
    (atLeastOne : 1 ≤ limit) :
    session.clear.Reflects limit [] := by
  have fresh := reflects_withHistoryLimit session.id session.historyLimit
  rw [reflects.historyLimit, max_eq_left atLeastOne] at fresh
  rw [Session.clear, reflects.historyLimit]
  exact fresh

end Reflects

/-- A session reflects what was done to it since it was made or cleared. -/
theorem reflects_actAll
    (id : Text)
    (limit : Nat)
    (actions : List Action) :
    ((withHistoryLimit id limit).actAll actions).Reflects (max limit 1)
      (Action.sinceClear actions) := by
  induction actions using List.reverseRecOn with
  | nil =>
      exact reflects_withHistoryLimit id limit
  | append_singleton earlier action inductionHypothesis =>
      rw [actAll, List.foldl_append, Action.sinceClear]
      by_cases clears : action.isClear = true
      · cases action with
        | clear =>
            rw [List.rtakeWhile_concat_neg _ _ _ (by simp [clears])]
            exact inductionHypothesis.clear (le_max_right limit 1)
        | _ =>
            simp [Action.isClear] at clears
      · have goesOn : action.isClear = false := Bool.not_eq_true _ ▸ clears
        rw [List.rtakeWhile_concat_pos _ _ _ (by simp [goesOn])]
        exact inductionHypothesis.act goesOn

/--
Whatever is done to a session, its histories are the ends of what was said and
answered since it was made or last cleared: requests and responses up to the bound
it was made with, which is at least one, and the answers that constraints look back
at up to ten. All three are recalled by numbers counted from the newest entry, and
as far as both histories of answers reach they recall the same. The topic and its
variable agree.
-/
theorem actAll_keepsHistories
    (id : Text)
    (limit : Nat)
    (actions : List Action) :
    let session := (withHistoryLimit id limit).actAll actions
    let said := (Action.sinceClear actions).filterMap Action.request?
    let answered := (Action.sinceClear actions).filterMap Action.response?
    Ordinal.Recent (max limit 1) said session.requests ∧
      Ordinal.Recent (max limit 1) answered session.responses ∧
      Ordinal.Recent 10 answered session.thats ∧
      Ordinal.Recalls session.requests session.request? ∧
      Ordinal.Recalls session.responses session.response? ∧
      Ordinal.Recalls session.thats session.that? ∧
      (∀ number, number ≤ min 10 (max limit 1) → session.that? number = session.response? number) ∧
      session.TopicAgrees := by
  intro session said answered
  have reflects : session.Reflects (max limit 1) (Action.sinceClear actions) :=
    reflects_actAll id limit actions
  refine ⟨reflects.requests, reflects.responses, reflects.thats, Ordinal.recalls_nthRecent? _,
    Ordinal.recalls_nthRecent? _, Ordinal.recalls_nthRecent? _, ?_, reflects.topicAgrees⟩
  intro number within
  calc
    session.that? number = Ordinal.nthRecent? answered number :=
      reflects.thats.nthRecent?_eq (within.trans (min_le_left _ _))
    _ = session.response? number :=
      (reflects.responses.nthRecent?_eq (within.trans (min_le_right _ _))).symm

/-- Before and after clearing, more is answered than the session keeps. -/
def chatter : List Action :=
  [.pushResponse ['a'], .setTopic ['t'], .clear, .pushResponse ['b'], .pushResponse ['c'],
    .pushResponse ['d']]

/-- Only two of three answers are kept as responses, and those are recalled alike. -/
theorem actAll_keepsHistories_chatter :
    let session := (withHistoryLimit [] 2).actAll chatter
    session.responses = [['c'], ['d']] ∧
      session.that? 2 = session.response? 2 ∧
      session.response? 2 = some ['c'] ∧
      session.that? 3 = some ['b'] := by
  intro session
  obtain ⟨_, _, _, _, responses, thats, same, _⟩ := actAll_keepsHistories [] 2 chatter
  exact ⟨rfl, same 2 (by decide), responses.present [] ['c'] [['d']] rfl,
    thats.present [] ['b'] [['c'], ['d']] rfl⟩

end Session

end Colloquy
