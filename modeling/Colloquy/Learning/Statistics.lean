import Colloquy.Ordinal
import Colloquy.Pattern.Shape
import Colloquy.Table

namespace Colloquy

/-!
# Learning statistics

What a conversation has learned, been refused and unlearned, with counts by cause
and by shape, and the lengths of the most recent templates. The counts are natural
numbers: 64 bits hold them just as well, since no run makes 2^64 steps.
-/

/-- Counts of one conversation's learning. -/
structure LearningStatistics where
  totalLearned : Nat
  totalRejected : Nat
  totalUnlearned : Nat
  rejections : Table Nat
  shapes : Table Nat
  templateLengths : List Nat
  everLearned : Bool
  deriving DecidableEq, Repr

namespace LearningStatistics

/-- Nothing has been learned. -/
def empty : LearningStatistics where
  totalLearned := 0
  totalRejected := 0
  totalUnlearned := 0
  rejections := Table.empty
  shapes := Table.empty
  templateLengths := []
  everLearned := false

/-- Count a rule that was learned, keeping the lengths of at most `samples` templates. -/
def recordLearned
    (statistics : LearningStatistics)
    (pattern template : Text)
    (samples : Nat) :
    LearningStatistics :=
  { statistics with
    totalLearned := statistics.totalLearned + 1
    shapes := statistics.shapes.update (Pattern.Shape.ofText pattern).key 0 (· + 1)
    templateLengths := Ordinal.pushBounded samples template.length statistics.templateLengths
    everLearned := true }

/-- Count a rule that was refused for the given reason. -/
def recordRejected
    (statistics : LearningStatistics)
    (reason : Text) :
    LearningStatistics :=
  { statistics with
    totalRejected := statistics.totalRejected + 1
    rejections := statistics.rejections.update reason 0 (· + 1) }

/-- Count rules that were unlearned. -/
def recordUnlearned
    (statistics : LearningStatistics)
    (count : Nat) :
    LearningStatistics :=
  { statistics with totalUnlearned := statistics.totalUnlearned + count }

/-- Rules learned each minute, where less than a minute counts as one. -/
def learningRate
    (statistics : LearningStatistics)
    (elapsedMilliseconds : Int) :
    Float :=
  let minutes := Float.ofInt elapsedMilliseconds / 60000
  Float.ofNat statistics.totalLearned / (if minutes < 1 then 1 else minutes)

/-- The sum of the known lengths of templates. -/
def totalTemplateLength (statistics : LearningStatistics) : Nat :=
  statistics.templateLengths.foldl (· + ·) 0

/-- The mean length of the templates whose lengths are known. -/
def averageTemplateLength? (statistics : LearningStatistics) : Option Float :=
  if statistics.templateLengths.isEmpty then
    none
  else
    some (Float.ofNat statistics.totalTemplateLength /
      Float.ofNat statistics.templateLengths.length)

end LearningStatistics

end Colloquy
