import IncidentAwareness.Evidence.Extractor
import IncidentAwareness.Fusion.Result
import IncidentAwareness.Lib.Canonical

/-!
# The S0 replay window

`run_s0_runtime_fusion`: the Events of a run are filtered to the fixed replay
window, their Evidence is extracted in canonical order, and every expected host
is replayed on its own, with a runner of its own.
-/

namespace IncidentAwareness.Integration

open IncidentAwareness.Common IncidentAwareness.Lib IncidentAwareness.Evidence
open IncidentAwareness.Fusion

/-- `S0_REPLAY_DURATION`, in microseconds. -/
def s0ReplayDuration : Int := 660000000

/-- `_validate_run_id`. -/
def validateRunId (runId : String) : Except PyError Unit :=
  raiseIf (isBlank runId ∨ isPadded runId)
    (.valueError "run_id must be a non-blank string without surrounding whitespace")

/-- `_validate_expected_entity_ids`. -/
def validateExpectedEntityIds (expectedEntityIds : List String) : Except PyError (List String) := do
  raiseIf (expectedEntityIds = []) (.valueError "expected_entity_ids must not be empty")
  raiseIf (∃ entityId ∈ expectedEntityIds, isBlank entityId ∨ isPadded entityId)
    (.valueError "expected_entity_ids must hold non-blank strings without surrounding whitespace")
  raiseIf (¬ expectedEntityIds.Nodup)
    (.valueError "expected_entity_ids must not contain duplicates")
  return sortedBy id expectedEntityIds

/-- `_validate_replay_step`; `formatG` is `f"{seconds:g}"` of a duration. -/
def validateReplayStep (formatG : Int → String) (config : FusionConfig) : Except PyError Unit :=
  raiseIf (s0ReplayDuration % config.stepSize ≠ 0)
    (.valueError ("S0 replay policy s0-replay-v0.1 requires replay_duration_sec=" ++
      formatG s0ReplayDuration ++ " to be divisible by step_size_sec=" ++ formatG config.stepSize))

/-! ## The window -/

/-- `S0ReplayWindow`. -/
structure S0ReplayWindow where
  replayStart : Int
  replayEnd : Int
  observedEnd : Int
  deriving DecidableEq, Repr

/-- `is_covered`. -/
def S0ReplayWindow.isCovered (window : S0ReplayWindow) : Prop := window.replayEnd ≤ window.observedEnd

instance (window : S0ReplayWindow) : Decidable window.isCovered :=
  inferInstanceAs (Decidable (_ ≤ _))

/-- `derive_s0_replay_window`. -/
def deriveS0ReplayWindow (startTime endTime : PyDatetime) : Except PyError S0ReplayWindow := do
  let start ← requireUtc "start_time" startTime
  let stop ← requireUtc "end_time" endTime
  raiseIf (stop < start) (.valueError "end_time must not be earlier than start_time")
  let replayEnd ← addTimedelta start s0ReplayDuration
  return ⟨start, replayEnd, stop⟩

/-- An Event within the window. -/
def S0ReplayWindow.includes (window : S0ReplayWindow) (event : NormalizedEvent) : Prop :=
  window.replayStart ≤ eventInstant event ∧ eventInstant event ≤ window.replayEnd

instance (window : S0ReplayWindow) : DecidablePred window.includes := fun _ =>
  inferInstanceAs (Decidable (_ ∧ _))

/-! ## The selection -/

/-- `S0ReplayEventSelection`. -/
structure S0ReplayEventSelection where
  runId : String
  includedEvents : List NormalizedEvent := []
  excludedBeforeCount : Nat := 0
  excludedAfterCount : Nat := 0
  excludedMinTimestamp : Option Int := none
  excludedMaxTimestamp : Option Int := none
  deriving DecidableEq, Repr

/-- An Event outside the window is counted. -/
def S0ReplayEventSelection.exclude (selection : S0ReplayEventSelection) (window : S0ReplayWindow)
    (event : NormalizedEvent) : S0ReplayEventSelection :=
  let before := eventInstant event < window.replayStart
  { selection with
    excludedBeforeCount := selection.excludedBeforeCount + if before then 1 else 0
    excludedAfterCount := selection.excludedAfterCount + if before then 0 else 1
    excludedMinTimestamp := some (selection.excludedMinTimestamp.elim (eventInstant event)
      (min (eventInstant event)))
    excludedMaxTimestamp := some (selection.excludedMaxTimestamp.elim (eventInstant event)
      (max (eventInstant event))) }

/-- One turn of the loop of `select_s0_replay_events`. -/
def selectEvent (window : S0ReplayWindow) (selection : S0ReplayEventSelection)
    (event : NormalizedEvent) : Except PyError S0ReplayEventSelection := do
  raiseIf (event.runId ≠ selection.runId)
    (.valueError "NormalizedEvent run_id must match the replay run_id")
  if window.includes event then
    return { selection with includedEvents := selection.includedEvents ++ [event] }
  else return selection.exclude window event

/-- `select_s0_replay_events`. -/
def selectS0ReplayEvents (events : List NormalizedEvent) (runId : String) (window : S0ReplayWindow) :
    Except PyError S0ReplayEventSelection := do
  validateRunId runId
  events.foldlM (selectEvent window) { runId }

/-- The hosts of the Events that are not expected, sorted. -/
def unexpectedHosts (events : List NormalizedEvent) (entityIds : List String) : List String :=
  sortedBy id ((events.map (·.hostId)).dedup.filter fun host => host ∉ entityIds)

/-- The refusal of Events of unexpected hosts. -/
def requireExpectedHosts (events : List NormalizedEvent) (entityIds : List String) :
    Except PyError Unit :=
  raiseIf (unexpectedHosts events entityIds ≠ [])
    (.valueError ("NormalizedEvent host_id is not in expected_entity_ids: " ++
      ", ".intercalate (unexpectedHosts events entityIds)))

/-! ## The fusion -/

/-- `RuntimeNotEvaluatedReason`. -/
inductive RuntimeNotEvaluatedReason where
  | insufficientObservation
  deriving DecidableEq, Repr

/-- `S0RuntimeFusionResult`. -/
structure S0RuntimeFusionResult where
  runId : String
  window : S0ReplayWindow
  selection : S0ReplayEventSelection
  notEvaluatedReason : Option RuntimeNotEvaluatedReason
  fusionResults : List FusionResult
  stoppingTraces : List FusionStoppingTrace

/-- `build_not_evaluated_fusion_result`. -/
def buildNotEvaluatedFusionResult (runId entityId : String) (metadata : ScoringMetadata) :
    Except PyError FusionResult :=
  construct ResultFields.validate
    { runId, entityId, fusionTime := none, fusionStatus := .notEvaluated, scoreAtDecision := none
      contributingEvidenceIds := []
      scoringConfigVersion := metadata.scoringConfigVersion
      scoringProfileId := metadata.scoringProfileId
      modelVersion := metadata.modelVersion
      scoringMethod := metadata.scoringMethod
      scorerVersion := metadata.scorerVersion
      fusionEpisodes := [] }

/-- The stopping trace without points of a host that is not evaluated. -/
def emptyStoppingTrace (runId entityId scoringConfigVersion : String) :
    Except PyError FusionStoppingTrace :=
  construct TraceFields.validate { runId, entityId, scoringConfigVersion, points := [] }

/-- The results of a window that was not observed to its end. -/
def notEvaluatedResult (config : FusionConfig) (window : S0ReplayWindow)
    (selection : S0ReplayEventSelection) (entityIds : List String) :
    Except PyError S0RuntimeFusionResult := do
  let fusionResults ← entityIds.mapM fun entityId =>
    buildNotEvaluatedFusionResult selection.runId entityId config.metadata
  let stoppingTraces ← entityIds.mapM fun entityId =>
    emptyStoppingTrace selection.runId entityId config.configVersion
  return { runId := selection.runId, window, selection, fusionResults, stoppingTraces
           notEvaluatedReason := some .insufficientObservation }

/-- The sort key of the included Events. -/
def includedKey (event : NormalizedEvent) : Int ×ₗ String :=
  toLex (eventInstant event, event.eventId)

/-- The Evidence of the included Events, in their canonical order. -/
def extractAll (library : ExtractorLibrary) (includedEvents : List NormalizedEvent) :
    Except PyError (List (Evidence S0Features)) := do
  let extracted ← (sortedBy includedKey includedEvents).mapM (extractEvidence library)
  return extracted.flatten

/-- The pipeline of a host, over its own Evidence and with a new runner. -/
def hostPipeline (config : FusionConfig) (runId : String) (window : S0ReplayWindow)
    (evidences : List (Evidence S0Features)) (entityId : String) :
    Except PyError FusionPipelineResult :=
  outcome (runFusionPipelineFromConfig (evidences.filter fun e => e.entityId = entityId) config runId
    entityId (.utc window.replayStart) (.utc window.observedEnd) (some (.utc window.replayEnd))) .empty

/-- The results of a covered window. -/
def evaluatedResult (library : ExtractorLibrary) (config : FusionConfig) (window : S0ReplayWindow)
    (selection : S0ReplayEventSelection) (entityIds : List String) :
    Except PyError S0RuntimeFusionResult := do
  let evidences ← extractAll library selection.includedEvents
  let pipelineResults ← entityIds.mapM (hostPipeline config selection.runId window evidences)
  return { runId := selection.runId, window, selection, notEvaluatedReason := none
           fusionResults := pipelineResults.map (·.fusionResult)
           stoppingTraces := pipelineResults.map (·.stoppingTrace) }

/-- `run_s0_runtime_fusion`. -/
def runS0RuntimeFusion (library : ExtractorLibrary) (formatG : Int → String)
    (events : List NormalizedEvent) (runId : String) (startTime endTime : PyDatetime)
    (expectedEntityIds : List String) (config : FusionConfig) :
    Except PyError S0RuntimeFusionResult := do
  validateReplayStep formatG config
  let window ← deriveS0ReplayWindow startTime endTime
  let entityIds ← validateExpectedEntityIds expectedEntityIds
  let selection ← selectS0ReplayEvents events runId window
  requireExpectedHosts events entityIds
  if ¬ window.isCovered then notEvaluatedResult config window selection entityIds
  else evaluatedResult library config window selection entityIds

end IncidentAwareness.Integration
