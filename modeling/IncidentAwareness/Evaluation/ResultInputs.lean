import IncidentAwareness.Detection.FastHits

/-!
# The Fast path of the evaluation inputs

A stored bundle pairs the Fast result of a run with the starts of its Fast episodes;
`_fast_starts` checks the pair against the run and the plan. Datetimes are compared by
their instants.
-/

namespace IncidentAwareness.Evaluation

open IncidentAwareness.Common IncidentAwareness.Detection IncidentAwareness.Lib
open IncidentAwareness.Persistence

/-- `FastEpisodeStarts`. -/
structure FastEpisodeStarts where
  runId : String
  entityId : String
  policyVersion : String
  detectorSetVersion : String
  observationStart : PyDatetime
  observationEnd : PyDatetime
  startTimes : List PyDatetime
  deriving DecidableEq, Repr

/-- `RunMetadata`, as far as `_fast_starts` reads it. -/
structure MeasuredRun where
  runId : String
  targetHost : String
  startTime : PyDatetime
  endTime : Option PyDatetime
  deriving DecidableEq, Repr

/-- `purpose` of a plan. -/
inductive PlanPurpose where
  | smoke
  | performance
  deriving DecidableEq, Repr

/-- `EvaluationPlan`, as far as `_fast_starts` reads it. -/
structure EvaluationPlan where
  purpose : PlanPurpose
  fastEpisodePolicyVersion : String
  detectorSetVersion : String
  deriving DecidableEq, Repr

/-- `_time`; the instant of a datetime that it accepts. -/
def requireTime (name : String) : PyDatetime → Except FastError Int
  | .naive => .error (.valueError (name ++ " must use UTC millisecond precision"))
  | .aware instant utcoffset => do
    raiseIf (utcoffset ≠ 0 ∨ instant % 1000 ≠ 0)
      (.valueError (name ++ " must use UTC millisecond precision"))
    return instant

/-- The instant of an aware datetime. -/
def instantOf : PyDatetime → Int
  | .naive => 0
  | .aware instant _ => instant

/-- `sorted` of datetimes, which do not compare where some are naive and some are not; the
model does not tell naive ones apart. -/
def sortedTimes (times : List PyDatetime) : Except FastError (List PyDatetime) :=
  if times.all (· = .naive) then .ok times
  else if times.any (· = .naive) then
    .error (.typeError "can't compare offset-naive and offset-aware datetimes")
  else .ok (sortedBy instantOf times)

/-- Whether an aware datetime equals another. -/
def sameTime (instant : Int) : PyDatetime → Bool
  | .naive => false
  | .aware other _ => instant = other

/-- The check of one start. -/
def requireStart (observationStart observationEnd : Int) (start : PyDatetime) :
    Except FastError Int := do
  let instant ← requireTime "Fast episode start" start
  raiseIf (¬ (observationStart ≤ instant ∧ instant ≤ observationEnd))
    (.valueError "Fast episode outside measured Run")
  return instant

/-- `_fast_starts`. -/
def fastStarts (detection : DetectionResult) (run : MeasuredRun)
    (fastEpisodes : Option FastEpisodeStarts) (plan : EvaluationPlan) :
    Except FastError (List Int) :=
  if detection.detectorStatus = .notEvaluated then do
    raiseIf fastEpisodes.isSome (.valueError "not_evaluated Fast must not carry episode history")
    return []
  else
    match fastEpisodes with
    | none =>
      .error (.valueError
        "evaluated Fast requires complete versioned episode starts, not raw hits")
    | some episodes => do
      raiseIf (episodes.runId ≠ run.runId ∨ episodes.entityId ≠ run.targetHost)
        (.valueError "Fast episodes run_id/entity_id mismatch")
      raiseIf (plan.purpose = .performance ∧
          "fast-development-".toList.isPrefixOf episodes.policyVersion.toList = true)
        (.valueError ("development Fast episode policy is not eligible for performance " ++
          "evaluation"))
      raiseIf (episodes.policyVersion ≠ plan.fastEpisodePolicyVersion)
        (.valueError "Fast episode policy_version mismatch")
      raiseIf (episodes.detectorSetVersion ≠ plan.detectorSetVersion)
        (.valueError "Fast episode detector_set_version mismatch")
      let observationStart ← requireTime "observation_start" episodes.observationStart
      let observationEnd ← requireTime "observation_end" episodes.observationEnd
      raiseIf (¬ (sameTime observationStart run.startTime = true ∧
          run.endTime.elim false (sameTime observationEnd) = true))
        (.valueError "Fast episode history must cover the entire measured Run")
      let sorted ← sortedTimes episodes.startTimes
      let starts ← sorted.mapM (requireStart observationStart observationEnd)
      raiseIf (detection.detectorStatus = .miss ∧ starts ≠ [])
        (.valueError "miss Fast must not carry episode starts")
      raiseIf (detection.detectorStatus = .detected ∧
          (starts.head? = none ∨ starts.head? ≠ detection.detectorTime.map (· * 1000)))
        (.valueError "first Fast episode must match detector_time")
      return starts

end IncidentAwareness.Evaluation
