import IncidentAwareness.Fusion.Score
import IncidentAwareness.Fusion.Stopping
import IncidentAwareness.Fusion.Window
import Mathlib.Data.Prod.Lex

/-!
# Temporal replay

`TemporalReplayRunner`: `run` slides the window engine over the Evidence from
one grid point to the next, `run_causal` filters what is available at each
point. Both evaluate the stopping policy on the trajectory they collect.

The loops over time carry fuel (`replayFuel`): one unit for each grid point up
to the end and one to see that the next lies beyond it.
-/

namespace IncidentAwareness.Fusion

open IncidentAwareness.Common IncidentAwareness.Lib

variable {φ : Type}

/-- `ReplayEvidenceSnapshot`. -/
structure ReplayEvidenceSnapshot where
  timestamp : Int
  contributingEvidenceIds : List String
  deriving DecidableEq, Repr

/-- `ScheduledEvidence`. -/
structure ScheduledEvidence (φ : Type) where
  evidence : Evidence φ
  availableAt : PyDatetime
  deriving Repr

/-- `TemporalReplayResult`. -/
structure TemporalReplayResult where
  trajectory : List ScorePoint
  evidenceSnapshots : List ReplayEvidenceSnapshot
  stoppingResult : StoppingResult
  stoppingTrace : List StoppingTracePoint := []
  deriving DecidableEq, Repr

/-- `TemporalReplayRunner`. -/
structure TemporalReplayRunner where
  windowEngine : WindowEngine
  scorer : SimpleScorer
  stoppingPolicy : ThresholdStoppingPolicy
  stepSize : Int
  stepSize_pos : 0 < stepSize := by decide
  deriving Repr

/-- An item whose `available_at` has been checked. -/
structure Scheduled (φ : Type) where
  evidence : Evidence φ
  availableAt : Int
  deriving Repr

/-- Where the replay ends, and how that boundary is called. -/
structure Boundary where
  effectiveEnd : Int
  endReason : FusionEndReason
  fieldName : String
  deriving DecidableEq, Repr

/-- What is collected point by point: the trajectory and the Evidence snapshots. -/
abbrev Observations := List ScorePoint × List ReplayEvidenceSnapshot

/-- The point and the snapshot of the active Evidence at a time, appended. -/
def Observations.append (obs : Observations) (scorer : SimpleScorer) (t : Int)
    (activeEvidence : List (Evidence φ)) : Observations :=
  (obs.1 ++ [⟨t, scorer.score activeEvidence⟩],
    obs.2 ++ [⟨t, scorer.contributingEvidenceIds activeEvidence⟩])

namespace TemporalReplayRunner

/-- `TemporalReplayRunner(...)`. -/
def new (windowEngine : WindowEngine) (scorer : SimpleScorer)
    (stoppingPolicy : ThresholdStoppingPolicy) (stepSize : Int) :
    Except PyError TemporalReplayRunner :=
  if h : 0 < stepSize then .ok ⟨windowEngine, scorer, stoppingPolicy, stepSize, h⟩
  else .error (.valueError "step_size must be greater than zero")

/-! ## The plain replay -/

/-- The boundary of `run`: `run_end`, or a `replay_end` within the run. -/
def boundary (runStart runEnd : Int) (replayEnd : Option PyDatetime) :
    Except PyError Boundary :=
  match replayEnd with
  | none => .ok ⟨runEnd, .runEnd, "run_end"⟩
  | some replayEnd => do
    let replayEnd ← requireUtc "replay_end" replayEnd
    raiseIf (replayEnd < runStart) (.valueError "replay_end must not be earlier than run_start")
    raiseIf (runEnd < replayEnd) (.valueError "replay_end must not be later than run_end")
    if replayEnd < runEnd then return ⟨replayEnd, .replayEnd, "replay_end"⟩
    else return ⟨replayEnd, .runEnd, "run_end"⟩

/-- The checks of the Evidence of `run`, each against the one before it. -/
def validateEvidences (runId entityId : String) (runStart : Int) (boundary : Boundary) :
    Option Int → List (Evidence φ) → Except PyError Unit
  | _, [] => .ok ()
  | previous, evidence :: rest => do
    raiseIf (evidence.runId ≠ runId) (.valueError "Evidence run_id must match replay run_id")
    raiseIf (evidence.entityId ≠ entityId)
      (.valueError "Evidence entity_id must match replay entity_id")
    raiseIf (evidence.timestamp < runStart)
      (.valueError "Evidence timestamp must not be earlier than run_start")
    raiseIf (boundary.effectiveEnd < evidence.timestamp)
      (.valueError ("Evidence timestamp must not exceed " ++ boundary.fieldName))
    raiseIf (∃ p ∈ previous, evidence.timestamp < p)
      (.valueError "Evidence timestamps must be non-decreasing")
    validateEvidences runId entityId runStart boundary (some evidence.timestamp) rest

/-- The inner loop of `run`: ingest the Evidence up to a time, and return the rest. -/
def ingestUntil (t : Int) :
    List (Evidence φ) → EStateM PyError (WindowState φ) (List (Evidence φ))
  | [] => pure []
  | evidence :: rest =>
    if evidence.timestamp ≤ t then do
      WindowEngine.ingest evidence
      ingestUntil t rest
    else pure (evidence :: rest)

variable (runner : TemporalReplayRunner)

/-- Fuel for the loop over the grid from `runStart` to `effectiveEnd`. -/
def replayFuel (runStart effectiveEnd : Int) : Nat :=
  ((effectiveEnd - runStart) / runner.stepSize).toNat + 2

/-- The loop of `run` over the grid. -/
def replayLoop (runId entityId : String) (effectiveEnd : Int) :
    Nat → Int → List (Evidence φ) → Observations →
      EStateM PyError (WindowState φ) Observations
  | 0, _, _, obs => pure obs
  | fuel + 1, currentTime, pending, obs =>
    if currentTime ≤ effectiveEnd then do
      let pending ← ingestUntil currentTime pending
      runner.windowEngine.advanceTo runId entityId (.utc currentTime)
      let activeEvidence ← reads fun s => .ok (WindowEngine.getActiveEvidence runId entityId s)
      let next ← reads fun _ => addTimedelta currentTime runner.stepSize
      replayLoop runId entityId effectiveEnd fuel next pending
        (obs.append runner.scorer currentTime activeEvidence)
    else pure obs

/-- `run`. -/
def run (evidences : List (Evidence φ)) (runId entityId : String) (runStart runEnd : PyDatetime)
    (replayEnd : Option PyDatetime) : EStateM PyError (WindowState φ) TemporalReplayResult := do
  let start ← reads fun _ => requireUtc "run_start" runStart
  let stop ← reads fun _ => requireUtc "run_end" runEnd
  reads fun _ => raiseIf (stop < start) (.valueError "run_end must not be earlier than run_start")
  let boundary ← reads fun _ => boundary start stop replayEnd
  reads fun _ => raiseIf ((boundary.effectiveEnd - start) % runner.stepSize ≠ 0)
    (.valueError (boundary.fieldName ++ " must align with step_size from run_start"))
  reads fun _ => validateEvidences runId entityId start boundary none evidences
  WindowEngine.reset runId entityId
  let (trajectory, evidenceSnapshots) ← runner.replayLoop runId entityId boundary.effectiveEnd
    (runner.replayFuel start boundary.effectiveEnd) start evidences ([], [])
  let (stoppingResult, stoppingTrace) ← reads fun _ => runner.stoppingPolicy.evaluate trajectory
    runId entityId (.utc boundary.effectiveEnd) boundary.endReason
  return { trajectory, evidenceSnapshots, stoppingResult, stoppingTrace }

/-! ## The causal replay -/

/-- The checks of the items of `run_causal`; `evidenceIds` are those seen so far. -/
def validateScheduled (runId entityId : String) (runStart runEnd : Int) :
    List String → List (ScheduledEvidence φ) → Except PyError (List (Scheduled φ))
  | _, [] => .ok []
  | evidenceIds, scheduled :: rest => do
    let evidence := scheduled.evidence
    let availableAt ← requireUtc "available_at" scheduled.availableAt
    raiseIf (evidence.evidenceId ∈ evidenceIds) (.valueError "scheduled Evidence IDs must be unique")
    raiseIf (evidence.runId ≠ runId) (.valueError "Evidence run_id must match replay run_id")
    raiseIf (evidence.entityId ≠ entityId)
      (.valueError "Evidence entity_id must match replay entity_id")
    raiseIf (¬ (runStart ≤ evidence.timestamp ∧ evidence.timestamp ≤ runEnd))
      (.valueError "Evidence timestamp must fall within replay boundaries")
    raiseIf (¬ (runStart ≤ availableAt ∧ availableAt ≤ runEnd))
      (.valueError "available_at must fall within replay boundaries")
    raiseIf (availableAt < evidence.timestamp)
      (.valueError "available_at must not be earlier than Evidence timestamp")
    let checked ← validateScheduled runId entityId runStart runEnd
      (evidence.evidenceId :: evidenceIds) rest
    return ⟨evidence, availableAt⟩ :: checked

/-- The sort key `(available_at, timestamp, evidence_id)`. -/
def scheduledKey (item : Scheduled φ) : Int ×ₗ Int ×ₗ String :=
  toLex (item.availableAt, toLex (item.evidence.timestamp, item.evidence.evidenceId))

/-- The loop of `_causal_replay_points`. -/
def gridPoints (runEnd : Int) : Nat → Int → Except PyError (List Int)
  | 0, _ => .ok []
  | fuel + 1, replayTime =>
    if replayTime ≤ runEnd then do
      let next ← addTimedelta replayTime runner.stepSize
      let rest ← gridPoints runEnd fuel next
      return replayTime :: rest
    else .ok []

/-- `_causal_replay_points`: the grid, and `run_end` where it is off the grid. -/
def causalReplayPoints (runStart runEnd : Int) : Except PyError (List Int) := do
  let points ← runner.gridPoints runEnd (runner.replayFuel runStart runEnd) runStart
  if points.getLast? ≠ some runEnd then return points ++ [runEnd]
  else return points

/-- The loop of `run_causal` over the replay points. -/
def causalLoop : List Int → List (Scheduled φ) → List (Evidence φ) → Observations →
    Except PyError Observations
  | [], _, _, obs => .ok obs
  | replayTime :: points, pending, activated, obs => do
    let due := pending.takeWhile fun item => item.availableAt ≤ replayTime
    let pending := pending.dropWhile fun item => item.availableAt ≤ replayTime
    let activated := activated ++ due.map (·.evidence)
    let activeEvidence ← runner.windowEngine.filterByEventTimeWindow activated (.utc replayTime)
    causalLoop points pending activated (obs.append runner.scorer replayTime activeEvidence)

/-- `run_causal`. -/
def runCausal (scheduledEvidences : List (ScheduledEvidence φ)) (runId entityId : String)
    (runStart runEnd : PyDatetime) : Except PyError TemporalReplayResult := do
  let start ← requireUtc "run_start" runStart
  let stop ← requireUtc "run_end" runEnd
  raiseIf (stop < start) (.valueError "run_end must not be earlier than run_start")
  let scheduledBatch ← validateScheduled runId entityId start stop [] scheduledEvidences
  let orderedScheduled := sortedBy scheduledKey scheduledBatch
  let replayPoints ← runner.causalReplayPoints start stop
  let (trajectory, evidenceSnapshots) ← runner.causalLoop replayPoints orderedScheduled [] ([], [])
  let (stoppingResult, stoppingTrace) ← runner.stoppingPolicy.evaluate trajectory runId entityId
    (.utc stop) .runEnd
  return { trajectory, evidenceSnapshots, stoppingResult, stoppingTrace }

end TemporalReplayRunner

end IncidentAwareness.Fusion
