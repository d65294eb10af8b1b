import Colloquy.Learning.Statistics
import Colloquy.Rule.Category

namespace Colloquy

/-!
# Sessions

A session is what one conversation remembers: variables and the topic, what was
said and answered most recently, named lists and maps, and the rules it learned.
Setting the variable named for the topic and setting the topic are the same.
-/

/-- A rule that a session learned, with its serial number. -/
structure LearnedRule where
  category : Category
  serial : Nat
  deriving DecidableEq, Repr

/-- What one conversation remembers; histories have the oldest entry first. -/
structure Session where
  id : Text
  historyLimit : Nat
  topic : Text
  assigned : Table Text
  requests : List Text
  responses : List Text
  thats : List Text
  lists : Table (List Text)
  maps : Table (Table Text)
  learned : List LearnedRule
  statistics : LearningStatistics
  deriving DecidableEq, Repr

namespace Session

/-- The number of answers that constraints and templates may look back at. -/
def thatLimit : Nat :=
  10

/-- The usual bound on the histories of what was said and answered. -/
def defaultHistoryLimit : Nat :=
  32

/-- The variable that holds the topic. -/
def topicName : Text :=
  "topic".toList

/-- A new session whose histories hold at least one entry. -/
def withHistoryLimit
    (id : Text)
    (limit : Nat) :
    Session where
  id := id
  historyLimit := max limit 1
  topic := []
  assigned := Table.empty
  requests := []
  responses := []
  thats := []
  lists := Table.empty
  maps := Table.empty
  learned := []
  statistics := LearningStatistics.empty

/-- A new session with the usual bound on its histories. -/
def new (id : Text) : Session :=
  withHistoryLimit id defaultHistoryLimit

/-- Forget all but the session's name and the bound on its histories. -/
def clear (session : Session) : Session :=
  withHistoryLimit session.id session.historyLimit

/-! ## Variables and topic -/

/-- The value of a variable. -/
def valueOf?
    (session : Session)
    (name : Text) :
    Option Text :=
  session.assigned.find? name

/-- Set a variable. -/
def setVariable
    (session : Session)
    (name value : Text) :
    Session :=
  { session with
    topic := if name = topicName then value else session.topic
    assigned := session.assigned.insert name value }

/-- Set the topic. -/
def setTopic
    (session : Session)
    (topic : Text) :
    Session :=
  session.setVariable topicName topic

/-! ## Histories -/

/-- Record what was said. -/
def pushRequest
    (session : Session)
    (request : Text) :
    Session :=
  { session with
    requests := Ordinal.pushBounded session.historyLimit request session.requests }

/-- Record what was answered. -/
def pushResponse
    (session : Session)
    (response : Text) :
    Session :=
  { session with
    thats := Ordinal.pushBounded thatLimit response session.thats
    responses := Ordinal.pushBounded session.historyLimit response session.responses }

/-- What was said, counted from one at the most recent. -/
def request?
    (session : Session)
    (number : Nat) :
    Option Text :=
  Ordinal.nthRecent? session.requests number

/-- What was answered, counted from one at the most recent. -/
def response?
    (session : Session)
    (number : Nat) :
    Option Text :=
  Ordinal.nthRecent? session.responses number

/-- An answer that constraints may look back at, counted from one at the most recent. -/
def that?
    (session : Session)
    (number : Nat) :
    Option Text :=
  Ordinal.nthRecent? session.thats number

/-- The answer to which the next words reply, empty at the beginning. -/
def lastResponse (session : Session) : Text :=
  (session.that? 1).getD []

/-! ## Lists -/

/-- The items of a list. -/
def list
    (session : Session)
    (name : Text) :
    List Text :=
  (session.lists.find? name).getD []

/-- Add an item at the end of a list. -/
def listAdd
    (session : Session)
    (name value : Text) :
    Session :=
  { session with lists := session.lists.update name [] (· ++ [value]) }

/-- The item of a list with the given number. -/
def listGet?
    (session : Session)
    (name : Text)
    (number : Nat) :
    Option Text :=
  Ordinal.nth? (session.list name) number

/-- Replace the item with the given number, saying whether there is one. -/
def listSet
    (session : Session)
    (name : Text)
    (number : Nat)
    (value : Text) :
    Bool × Session :=
  match Ordinal.set? (session.list name) number value with
  | some items => (true, { session with lists := session.lists.insert name items })
  | none => (false, session)

/-- Take the item with the given number out of a list. -/
def listRemoveAt
    (session : Session)
    (name : Text)
    (number : Nat) :
    Option Text × Session :=
  match Ordinal.remove? (session.list name) number with
  | some (item, items) => (some item, { session with lists := session.lists.insert name items })
  | none => (none, session)

/-- Take the first item equal to the value out of a list, saying whether there is one. -/
def listRemoveValue
    (session : Session)
    (name value : Text) :
    Bool × Session :=
  if (session.list name).contains value then
    (true, { session with lists := session.lists.insert name ((session.list name).erase value) })
  else
    (false, session)

/-- Forget a list. -/
def listClear
    (session : Session)
    (name : Text) :
    Session :=
  { session with lists := session.lists.erase name }

/-! ## Maps -/

/-- A map, if it was ever written. -/
def map?
    (session : Session)
    (name : Text) :
    Option (Table Text) :=
  session.maps.find? name

/-- Give a key of a map its value. -/
def mapSet
    (session : Session)
    (name key value : Text) :
    Session :=
  { session with maps := session.maps.update name Table.empty (·.insert key value) }

/-- The value of a key of a map. -/
def mapGet?
    (session : Session)
    (name key : Text) :
    Option Text :=
  (session.map? name).bind (·.find? key)

/-- Take a key out of a map, giving its value. -/
def mapRemove
    (session : Session)
    (name key : Text) :
    Option Text × Session :=
  match session.map? name with
  | none => (none, session)
  | some map => (map.find? key, { session with maps := session.maps.insert name (map.erase key) })

/-- Forget a map. -/
def mapClear
    (session : Session)
    (name : Text) :
    Session :=
  { session with maps := session.maps.erase name }

end Session

end Colloquy
