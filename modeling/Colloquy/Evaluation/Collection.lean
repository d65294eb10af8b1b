import Colloquy.Evaluation.Part
import Colloquy.Text.Case

namespace Colloquy.Evaluation

/-!
# Lists and maps

A session keeps lists and maps by name. An element names one of them and says
what to do with it; what it does not say is to get, and what it says wrong does
nothing.
-/

variable {limit : Nat}

/-- What to do with a list or map, in lower case. -/
def action
    (evaluate : PartEvaluator limit)
    (piece : Piece limit) :
    Evaluation Text := do
  let value ← attribute? evaluate piece "action"
  return (value.map Text.lower).getD "get".toList

/-- Do something with a list. -/
def listAction
    (evaluate : PartEvaluator limit)
    (piece : Piece limit) :
    Evaluation Text := do
  let name ← attributeText evaluate piece "name"
  let wanted ← action evaluate piece
  let number := (← attribute? evaluate piece "index").bind toCount?
  if wanted = "add".toList then
    let value ← collapsedContent evaluate piece
    modifySession fun session => if value.isEmpty then session else session.listAdd name value
    return []
  else if wanted = "get".toList then
    match number with
    | some number => recalled fun session => (session.listGet? name number).getD []
    | none => recalled fun session => Text.unwords (session.list name)
  else if wanted = "remove".toList then
    match number with
    | some number =>
        modifySession fun session => (session.listRemoveAt name number).2
        return []
    | none =>
        let value ← collapsedContent evaluate piece
        modifySession fun session => (session.listRemoveValue name value).2
        return []
  else if wanted = "set".toList then
    let value ← collapsedContent evaluate piece
    match number with
    | some number =>
        modifySession fun session => (session.listSet name number value).2
        return []
    | none => return []
  else if wanted = "size".toList then
    recalled fun session => Text.ofNat (session.list name).length
  else if wanted = "clear".toList then
    modifySession fun session => session.listClear name
    return []
  else
    return []

/-- Do something with a map. -/
def mapAction
    (evaluate : PartEvaluator limit)
    (piece : Piece limit) :
    Evaluation Text := do
  let name ← attributeText evaluate piece "name"
  let wanted ← action evaluate piece
  let key ← attributeText evaluate piece "key"
  if wanted = "set".toList then
    let value ← collapsedContent evaluate piece
    modifySession fun session => session.mapSet name key value
    return []
  else if wanted = "get".toList then
    recalled fun session => (session.mapGet? name key).getD []
  else if wanted = "remove".toList then
    modifySession fun session => (session.mapRemove name key).2
    return []
  else if wanted = "size".toList then
    recalled fun session => Text.ofNat (((session.map? name).map (·.entries.length)).getD 0)
  else if wanted = "clear".toList then
    modifySession fun session => session.mapClear name
    return []
  else
    return []

end Colloquy.Evaluation
