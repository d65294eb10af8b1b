import Colloquy.Evaluation.Collection
import Colloquy.Evaluation.Condition
import Colloquy.Evaluation.Teaching
import Colloquy.Pronoun.Substitution
import Colloquy.Text.Edit

namespace Colloquy.Evaluation

/-!
# Evaluating one element

Every tag has a meaning of its own. Evaluation never fails: what is missing or
wrong is empty text, and an element whose tag has no meaning stays as markup
around its evaluated children.
-/

open Markup

variable {limit : Nat}

/-- The value of a variable. -/
def getVariable
    (evaluate : PartEvaluator limit)
    (piece : Piece limit) :
    Evaluation Text := do
  let value ← subject? evaluate piece
  return value.getD []

/-- Give a variable its value. -/
def setVariable
    (evaluate : PartEvaluator limit)
    (piece : Piece limit) :
    Evaluation Text := do
  let var ← attribute? evaluate piece "var"
  let name ← attribute? evaluate piece "name"
  let value ← collapsedContent evaluate piece
  match var, name with
  | some var, _ =>
      setLocal var value
      return []
  | none, some name =>
      modifySession fun session => session.setVariable name value
      return []
  | none, none => return []

/-- What a wildcard took. -/
def captured
    (evaluate : PartEvaluator limit)
    (piece : Piece limit)
    (captures : Bindings → List Text) :
    Evaluation Text := do
  let number ← index evaluate piece
  bound fun bindings => Bindings.numbered (captures bindings) number

/-- Something said or answered before. -/
def remembered
    (evaluate : PartEvaluator limit)
    (piece : Piece limit)
    (history : Session → Nat → Option Text) :
    Evaluation Text := do
  let number ← index evaluate piece
  recalled fun session => (history session number).getD []

/-- Read which answer is meant, and perhaps which sentence of it. -/
def thatNumbers (position : Text) : Nat × Option Nat :=
  let numbers := (position.splitOn ',').map fun part => toCount? (Text.trim part)
  ((numbers.head?.join).getD 1, (numbers[1]?).join)

/-- An answer given before, or one sentence of it. -/
def thatSentence
    (session : Session)
    (position : Text) :
    Text :=
  let (answer, sentence) := thatNumbers position
  match session.that? answer, sentence with
  | none, _ => []
  | some text, none => text
  | some text, some number => (Ordinal.nth? (Text.sentences text) number).getD []

/-- The content, or what the first wildcard took if there are no children. -/
def contentOrStar
    (evaluate : PartEvaluator limit)
    (piece : Piece limit) :
    Evaluation Text :=
  if piece.val.children.isEmpty then
    bound fun bindings => Bindings.numbered bindings.star 1
  else
    content evaluate piece

/-- The number of occurrences of a text in the content, or the length of the content. -/
def countIn
    (evaluate : PartEvaluator limit)
    (piece : Piece limit) :
    Evaluation Text := do
  let mode ← attribute? evaluate piece "mode"
  let search ← attributeText evaluate piece "search"
  let text ← content evaluate piece
  if search.isEmpty then
    return Text.ofNat (Text.lengthIn text (Text.Measure.ofName mode .words))
  else
    return Text.ofNat (Text.countOccurrences text search)

/-- The children with a single space between those that are not blank. -/
def joinedChildren
    (evaluate : PartEvaluator limit)
    (piece : Piece limit) :
    Evaluation Text := do
  let texts ← eachInTurn evaluate piece.eachChild
  return Text.unwords ((texts.map Text.trim).filter (!·.isEmpty))

/-- An element whose tag has no meaning, as markup around its evaluated children. -/
def passThrough
    (evaluate : PartEvaluator limit)
    (piece : Piece limit) :
    Evaluation Text := do
  let element := piece.val
  let inner ← if element.selfClosing then pure [] else evaluate piece.children
  return renderStart element.name element.attributes element.selfClosing ++ inner ++
    renderEnd element.name element.selfClosing

/-- Evaluate an element with the given tag; `answer` is how the rules answer an input. -/
def performTag
    (evaluate : PartEvaluator limit)
    (answer : Text → Evaluation Text)
    (piece : Piece limit) :
    Tag →
    Evaluation Text
  | .get => getVariable evaluate piece
  | .set => setVariable evaluate piece
  | .bot => do property (← attributeText evaluate piece "name")
  | .star => captured evaluate piece Bindings.star
  | .thatstar => captured evaluate piece Bindings.thatstar
  | .topicstar => captured evaluate piece Bindings.topicstar
  | .input => remembered evaluate piece Session.request?
  | .request => remembered evaluate piece Session.request?
  | .response => remembered evaluate piece Session.response?
  | .that => do
      let position ← attributeText evaluate piece "index"
      recalled fun session => thatSentence session position
  | .condition => condition evaluate piece
  | .random => randomItem evaluate piece
  | .think => do
      let _ ← content evaluate piece
      return []
  | .li => content evaluate piece
  | .eval => content evaluate piece
  | .srai => do answer (← content evaluate piece)
  | .sr => do answer (← bound fun bindings => Bindings.numbered bindings.star 1)
  | .learn => teach evaluate learn piece
  | .unlearn => teach evaluate unlearn piece
  | .uppercase => return Text.upper (← content evaluate piece)
  | .lowercase => return Text.lower (← content evaluate piece)
  | .formal => return Text.titleCase (← content evaluate piece)
  | .sentence => return Text.sentenceCase (← content evaluate piece)
  | .word => return Text.capitaliseWords (← content evaluate piece)
  | .person => return Pronoun.substitute .firstSecond (← contentOrStar evaluate piece)
  | .person2 => return Pronoun.substitute .firstThird (← contentOrStar evaluate piece)
  | .gender => return Pronoun.substitute .masculineFeminine (← contentOrStar evaluate piece)
  | .substring => do
      let start ← attribute? evaluate piece "start"
      let stop ← attribute? evaluate piece "end"
      let text ← content evaluate piece
      return Text.substring text (start.bind Text.toInt?) (stop.bind Text.toInt?)
  | .replace => do
      let search ← attributeText evaluate piece "search"
      let replacement ← attributeText evaluate piece "replace"
      let text ← content evaluate piece
      return Text.replace text search replacement
  | .length => do
      let mode ← attribute? evaluate piece "mode"
      let text ← content evaluate piece
      return Text.ofNat (Text.lengthIn text (Text.Measure.ofName mode .characters))
  | .count => countIn evaluate piece
  | .list => listAction evaluate piece
  | .map => mapAction evaluate piece
  | .subj => return Text.trim (← content evaluate piece)
  | .pred => return Text.trim (← content evaluate piece)
  | .obj => return Text.trim (← content evaluate piece)
  | .uniq => joinedChildren evaluate piece

/-- Evaluate an element. -/
def perform
    (evaluate : PartEvaluator limit)
    (answer : Text → Evaluation Text)
    (piece : Piece limit) :
    Evaluation Text :=
  match piece.tag? with
  | some tag => performTag evaluate answer piece tag
  | none => passThrough evaluate piece

end Colloquy.Evaluation
