import Mathlib.Data.Rat.Floor
import Mathlib.Algebra.Order.Field.Basic
import Mathlib.Algebra.Order.BigOperators.Group.List
import Mathlib.Data.List.Induction

/-!
How the windows of a participant become one result.

A later window weighs more than an earlier one. Every dimension is the weighted
mean of its scores, rounded to a tenth, and the intelligence score is the
weighted mean of the dimensions, rounded again.
-/

namespace Greetup.VoiceIq

/-- The engine's numbers. Doubles are one instance, exact rationals another. -/
class Numbers (ν : Type) where
  /-- The number a decimal numeral denotes, rounded as the engine rounds it. -/
  ofRat : ℚ → ν
  add : ν → ν → ν
  mul : ν → ν → ν
  div : ν → ν → ν
  /-- `Math.round` -/
  round : ν → ν

instance : Numbers ℚ where
  ofRat q := q
  add x y := x + y
  mul x y := x * y
  div x y := x / y
  round x := ⌊x + 1 / 2⌋

inductive Dimension
  | topicKnowledge
  | topicDepth
  | coherence
  | languageQuality
  | confidence
  | originality
  deriving DecidableEq, Repr

/-- `Object.keys(DIMENSION_WEIGHTS)` -/
def Dimension.all : List Dimension :=
  [.topicKnowledge, .topicDepth, .coherence, .languageQuality, .confidence, .originality]

def dimensionWeights : Dimension → ℚ
  | .topicKnowledge => 30 / 100
  | .topicDepth => 25 / 100
  | .coherence => 15 / 100
  | .languageQuality => 15 / 100
  | .confidence => 8 / 100
  | .originality => 7 / 100

structure WindowScores where
  score : Dimension → ℤ
  reasoning : String

structure AggregatedScores (ν : Type) where
  dimensions : Dimension → ν
  intelligenceScore : ν

section Aggregate

variable {ν : Type} [Numbers ν]

open Numbers

/-- Raw weights `1/n, 2/n, …, n/n`, normalised so that they sum to 1. -/
def buildWindowWeights (count : ℕ) : List ν :=
  if count = 1 then [ofRat 1]
  else
    let raw : List ν := (List.range count).map fun i : ℕ => div (ofRat (i + 1)) (ofRat count)
    let total := raw.foldl add (ofRat 0)
    raw.map fun w => div w total

/-- `Math.round(x * 10) / 10` -/
def roundToTenth (x : ν) : ν := div (round (mul x (ofRat 10))) (ofRat 10)

def weightedSum (windows : List WindowScores) (windowWeights : List ν) (dim : Dimension) : ν :=
  (windows.zip windowWeights).foldl (fun sum x => add sum (mul (ofRat (x.1.score dim)) x.2))
    (ofRat 0)

def combine (dimensions : Dimension → ν) : ν :=
  Dimension.all.foldl
    (fun sum dim => add sum (mul (dimensions dim) (ofRat (dimensionWeights dim)))) (ofRat 0)

def aggregateWindows (windows : List WindowScores) : AggregatedScores ν :=
  if windows.length = 0 then ⟨fun _ => ofRat 0, ofRat 0⟩
  else
    let windowWeights := buildWindowWeights windows.length
    let dimensions := fun dim => roundToTenth (weightedSum windows windowWeights dim)
    ⟨dimensions, roundToTenth (combine dimensions)⟩

end Aggregate

end Greetup.VoiceIq
