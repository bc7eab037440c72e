import Mathlib.Data.List.Sort
import Mathlib.Logic.Function.Iterate
import StoryEngine.Data.Isotonic
import StoryEngine.Schema.Json

namespace StoryEngine.Tagging

open Data Schema

/-! # The confidence calibrator

The confidences that the model gives are compared with labelled samples.  Close ones are
grouped, adjacent groups whose accuracies fall are pooled, and the curve through the pooled
blocks adjusts the confidences of later tags.
-/

structure CalibrationPoint where
  rawConfidence : JsNumber
  empiricalAccuracy : JsNumber
deriving DecidableEq

structure Observation where
  rawConfidence : JsNumber
  isCorrect : Bool
deriving DecidableEq

structure Group where
  rawConfidence : JsNumber
  value : JsNumber
  weight : Nat
deriving DecidableEq

/-- The mean confidence and the accuracy of a slice, which are `NaN` for an empty one. -/
def groupOf (slice : List Observation) : Group where
  rawConfidence := (JsNumber.sum (slice.map (·.rawConfidence))).div (.ofNat slice.length)
  value := (JsNumber.ofNat (slice.filter (·.isCorrect)).length).div (.ofNat slice.length)
  weight := slice.length

def withinHundredth (first observation : Observation) : Bool :=
  (observation.rawConfidence.sub first.rawConfidence).lt (.finite (1 / 100))

/-- The grouping loop between two turns: the observations from `i` on, and the groups. -/
structure Grouping where
  remaining : List Observation
  groups : List Group := []
deriving DecidableEq

def groupingTurn (grouping : Grouping) : Grouping :=
  match grouping.remaining with
  | [] => grouping
  | first :: _ =>
    let slice := grouping.remaining.takeWhile (withinHundredth first)
    { remaining := grouping.remaining.drop slice.length
      groups := grouping.groups ++ [groupOf slice] }

def GroupingEnds (sorted : List Observation) : Prop :=
  ∃ turns, (groupingTurn^[turns] { remaining := sorted }).remaining = []

def groupObservations (sorted : List Observation) : Option (List Group) :=
  let grouping := groupingTurn^[sorted.length] { remaining := sorted }
  if grouping.remaining = [] then some grouping.groups else none

structure Block where
  value : JsNumber
  weight : Nat
  startIdx : Nat
  endIdx : Nat
deriving DecidableEq

def Block.inOrder (previous last : Block) : Bool := previous.value.le last.value

def Block.pool (previous last : Block) : Block where
  value := ((previous.value.mul (.ofNat previous.weight)).add
    (last.value.mul (.ofNat last.weight))).div (.ofNat (previous.weight + last.weight))
  weight := previous.weight + last.weight
  startIdx := previous.startIdx
  endIdx := last.endIdx

def groupBlock (group : Group) (g : Nat) : Block where
  value := group.value
  weight := group.weight
  startIdx := g
  endIdx := g

def pooledBlocks (groups : List Group) : List Block :=
  poolAdjacent Block.inOrder Block.pool (groups.zipIdx.map fun (group, g) => groupBlock group g)

def blockPoint (groups : List Group) (block : Block) : Option CalibrationPoint :=
  groups[(block.startIdx + block.endIdx) / 2]?.map fun group =>
    { rawConfidence := group.rawConfidence, empiricalAccuracy := block.value }

def fitIsotonicRegression (sorted : List Observation) : Option (List CalibrationPoint) :=
  (groupObservations sorted).map fun groups =>
    (pooledBlocks groups).filterMap (blockPoint groups)

/-- `sort((a, b) => a.rawConfidence - b.rawConfidence)`: what it answers when differences are
`NaN` is up to the engine. -/
structure ObservationSort where
  sort : List Observation → List Observation
  perm : ∀ observations, (sort observations).Perm observations
  stable : ∀ observations, (∀ o ∈ observations, o.rawConfidence ≠ .nan) →
    sort observations =
      observations.insertionSort fun a b => a.rawConfidence.le b.rawConfidence = true

def insertionEngine : ObservationSort where
  sort observations :=
    observations.insertionSort fun a b => a.rawConfidence.le b.rawConfidence = true
  perm _ := List.perm_insertionSort _ _
  stable _ _ := rfl

structure CalibrationBucket where
  rangeStart : ℚ
  rangeEnd : ℚ
  count : Nat
  meanRawConfidence : JsNumber
  empiricalAccuracy : JsNumber
deriving DecidableEq

structure CalibrationReport where
  sampleCount : Nat
  buckets : List CalibrationBucket
  brierScore : JsNumber
  calibrationCurve : List CalibrationPoint
deriving DecidableEq

structure ConfidenceCalibrator where
  calibrationCurve : List CalibrationPoint := []
  isCalibrated : Bool := false
deriving DecidableEq

def numBuckets : Nat := 10

def calibrationBucket (sorted : List Observation) (i : Nat) : Option CalibrationBucket :=
  let rangeStart : ℚ := i / numBuckets
  let rangeEnd : ℚ := (i + 1) / numBuckets
  let inBucket := sorted.filter fun o =>
    (JsNumber.finite rangeStart).le o.rawConfidence && o.rawConfidence.lt (.finite rangeEnd)
  if inBucket = [] then none
  else some {
    rangeStart, rangeEnd
    count := inBucket.length
    meanRawConfidence :=
      (JsNumber.sum (inBucket.map (·.rawConfidence))).div (.ofNat inBucket.length)
    empiricalAccuracy :=
      (JsNumber.ofNat (inBucket.filter (·.isCorrect)).length).div (.ofNat inBucket.length) }

def squaredError (o : Observation) : JsNumber :=
  let difference := o.rawConfidence.sub (if o.isCorrect then .finite 1 else .finite 0)
  difference.mul difference

def identityCurve : List CalibrationPoint :=
  [{ rawConfidence := .finite 0, empiricalAccuracy := .finite 0 },
   { rawConfidence := .finite 1, empiricalAccuracy := .finite 1 }]

def buildCalibration (engine : ObservationSort) (observations : List Observation) :
    Option (CalibrationReport × ConfidenceCalibrator) :=
  if observations = [] then
    some ({ sampleCount := 0, buckets := [], brierScore := .finite 0,
            calibrationCurve := identityCurve },
          { calibrationCurve := identityCurve, isCalibrated := false })
  else
    let sorted := engine.sort observations
    (fitIsotonicRegression sorted).map fun curve =>
      ({ sampleCount := observations.length
         buckets := (List.range numBuckets).filterMap (calibrationBucket sorted)
         brierScore := (JsNumber.sum (sorted.map squaredError)).div (.ofNat sorted.length)
         calibrationCurve := curve },
       { calibrationCurve := curve, isCalibrated := true })

def interpolate (clamped : JsNumber) (lo hi : CalibrationPoint) : JsNumber :=
  let range := hi.rawConfidence.sub lo.rawConfidence
  if range = .finite 0 then lo.empiricalAccuracy
  else
    let t := (clamped.sub lo.rawConfidence).div range
    lo.empiricalAccuracy.add (t.mul (hi.empiricalAccuracy.sub lo.empiricalAccuracy))

def surrounding (clamped : JsNumber) : List CalibrationPoint → Option (CalibrationPoint × CalibrationPoint)
  | lo :: hi :: rest =>
    if lo.rawConfidence.le clamped && clamped.le hi.rawConfidence then some (lo, hi)
    else surrounding clamped (hi :: rest)
  | _ => none

def adjustConfidence (calibrator : ConfidenceCalibrator) (rawConfidence : JsNumber) : JsNumber :=
  match calibrator.isCalibrated, calibrator.calibrationCurve with
  | true, first :: rest =>
    let last := (first :: rest).getLast (List.cons_ne_nil first rest)
    let clamped := JsNumber.max (.finite 0) (JsNumber.min (.finite 1) rawConfidence)
    if clamped.le first.rawConfidence then first.empiricalAccuracy
    else if last.rawConfidence.le clamped then last.empiricalAccuracy
    else
      match surrounding clamped (first :: rest) with
      | some (lo, hi) => interpolate clamped lo hi
      | none => rawConfidence
  | _, _ => rawConfidence

@[simp] theorem adjustConfidence_uncalibrated {calibrator : ConfidenceCalibrator}
    (uncalibrated : calibrator.isCalibrated = false) (rawConfidence : JsNumber) :
    adjustConfidence calibrator rawConfidence = rawConfidence := by
  simp [adjustConfidence, uncalibrated]

end StoryEngine.Tagging
