import IncidentAwareness.Common.Event
import IncidentAwareness.Lib.Raise

/-!
# The result contracts of one pipeline execution

Run metadata, the Detection and Fusion results, the Decision that combines them
and the Runtime snapshot captured for it, with the fields that persistence reads
or the Decision carries. A `DetectionResult` has a detector time exactly when it
is `detected`.

`buildDecisionRuntimeSnapshot` checks a Decision against the results it combines.
-/

namespace IncidentAwareness.Persistence

open IncidentAwareness.Common IncidentAwareness.Lib

/-- What persistence raises. An integrity error shows the named values after its
text. -/
inductive PersistenceError where
  | valueError (text : String)
  | r1RunRegistrationError (text : String) (quoted : Option String)
  | decisionIntegrityError (text : String) (values : List (String × String))
  | decisionConflictError (expected actual : Option String)
  | databaseError (constraint table : String)
  | runtimeError (text : String)
  deriving DecidableEq, Repr

/-- A UTC datetime in microseconds since the epoch. -/
abbrev UtcMicros := Int

/-- `DetectorStatus`, and `FusionStatus` with the same values. -/
inductive DetectorStatus where
  | detected | miss | notEvaluated
  deriving DecidableEq, Repr

/-- `DetectorStatus.value`. -/
def DetectorStatus.value : DetectorStatus → String
  | .detected => "detected"
  | .miss => "miss"
  | .notEvaluated => "not_evaluated"

/-- `Severity`. -/
inductive Severity where
  | low | medium | high | critical | unknown
  deriving DecidableEq, Repr

/-- `DecisionPath`. -/
inductive DecisionPath where
  | fast | fusion | fastAndFusion | none
  deriving DecidableEq, Repr

/-- `WinningPath`. -/
inductive WinningPath where
  | fast | fusion | tie | none
  deriving DecidableEq, Repr

/-- `RunType`. -/
inductive RunType where
  | normal | attack
  deriving DecidableEq, Repr

/-- `RunMetadata`, as the `runs` table splits it. -/
structure RunMetadata where
  runId : String
  scenarioId : String
  runType : RunType
  targetHost : String
  startTime : UtcMicros
  endTime : Option UtcMicros := none
  deriving DecidableEq, Repr

/-- `DetectionResult`. -/
structure DetectionResult where
  runId : String
  entityId : String
  detectorTime : Option UtcMillis
  detectorStatus : DetectorStatus
  detectorId : Option String
  ruleId : Option String
  ruleVersion : Option String
  severity : Option Severity
  detectorTime_isSome : detectorTime.isSome = decide (detectorStatus = .detected) := by rfl
  detectorId_isSome : detectorStatus = .detected → detectorId.isSome := by decide
  deriving Repr

instance : DecidableEq DetectionResult := fun a b =>
  decidable_of_iff (a.runId = b.runId ∧ a.entityId = b.entityId ∧
      a.detectorTime = b.detectorTime ∧ a.detectorStatus = b.detectorStatus ∧
      a.detectorId = b.detectorId ∧ a.ruleId = b.ruleId ∧ a.ruleVersion = b.ruleVersion ∧
      a.severity = b.severity)
    (by cases a; cases b; simp)

/-- `FusionResult`. -/
structure FusionResult where
  runId : String
  entityId : String
  fusionTime : Option UtcMicros
  fusionStatus : DetectorStatus
  contributingEvidenceIds : List String
  scoringConfigVersion : String
  scoringProfileId : String
  modelVersion : Option String := none
  scoringMethod : String
  scorerVersion : String
  deriving DecidableEq, Repr

/-- `FusionStoppingTracePoint`, its score as the bits of the float. -/
structure FusionStoppingTracePoint where
  timestamp : UtcMillis
  score : UInt64
  persistenceCount : Option Nat
  isOn : Bool
  deriving DecidableEq, Repr

/-- `FusionStoppingTrace`. -/
structure FusionStoppingTrace where
  runId : String
  entityId : String
  scoringConfigVersion : String
  points : List FusionStoppingTracePoint
  deriving DecidableEq, Repr

/-- `FusionRuntimeConfigSnapshot`, with its scoring section inlined. -/
structure FusionRuntimeConfigSnapshot where
  runId : String
  entityId : String
  configVersion : String
  modelVersion : Option String := none
  scoringMethod : String
  scoringScorerVersion : String
  scoringProfileId : String
  deriving DecidableEq, Repr

/-- `FastDetectionAdapterResult`. -/
structure FastDetectionAdapterResult where
  detectionResult : DetectionResult
  sourceHitIds : List String
  selectedSourceHitId : Option String
  deriving DecidableEq, Repr

/-- `DecisionResult`. -/
structure DecisionResult where
  runId : String
  decisionId : String
  entityId : String
  fastStatus : DetectorStatus
  fusionStatus : DetectorStatus
  fusionTime : Option UtcMillis
  detectorTime : Option UtcMillis
  tE : Option UtcMillis
  decisionPath : Option DecisionPath
  winningPath : Option WinningPath
  decisionReason : String
  configVersion : String
  contributingEvidenceIds : Option (List String) := none
  modelVersion : Option String := none
  ruleVersion : Option String := none
  sourceHitIds : Option (List String) := none
  selectedSourceHitId : Option String := none
  detectorSetVersion : Option String := none
  supersedesDecisionId : Option String := none
  deriving DecidableEq, Repr

/-- `DecisionRuntimeSnapshot`. -/
structure DecisionRuntimeSnapshot where
  decisionId : String
  runId : String
  entityId : String
  detectionResult : DetectionResult
  fusionResult : FusionResult
  fusionStoppingTrace : FusionStoppingTrace
  fusionRuntimeConfigSnapshot : FusionRuntimeConfigSnapshot
  deriving DecidableEq, Repr

/-- Whether a trace holds points exactly when its Fusion result was evaluated. -/
def validateTracePoints (fusion : FusionResult) (trace : FusionStoppingTrace) :
    Except PersistenceError Unit :=
  if fusion.fusionStatus = .notEvaluated then
    raiseIf (trace.points ≠ [])
      (.valueError "not_evaluated FusionResult requires an empty FusionStoppingTrace")
  else
    raiseIf (trace.points = []) (.valueError
      (fusion.fusionStatus.value ++ " FusionResult requires a non-empty FusionStoppingTrace"))

/-- The versions that a Runtime config shares with its Fusion result and trace,
with the text that ends each error. -/
def validateRuntimeConfig (fusion : FusionResult) (trace : FusionStoppingTrace)
    (config : FusionRuntimeConfigSnapshot) (ending : String) : Except PersistenceError Unit := do
  raiseIf (config.configVersion ≠ fusion.scoringConfigVersion) (.valueError
    ("FusionRuntimeConfigSnapshot config_version must match FusionResult scoring_config_version" ++
      ending))
  raiseIf (config.configVersion ≠ trace.scoringConfigVersion) (.valueError
    ("FusionRuntimeConfigSnapshot config_version must match " ++
      "FusionStoppingTrace scoring_config_version" ++ ending))
  raiseIf (config.scoringProfileId ≠ fusion.scoringProfileId) (.valueError
    ("FusionRuntimeConfigSnapshot scoring profile_id must match FusionResult scoring_profile_id" ++
      ending))
  raiseIf (config.scoringMethod ≠ fusion.scoringMethod) (.valueError
    ("FusionRuntimeConfigSnapshot scoring method must match FusionResult scoring_method" ++ ending))
  raiseIf (config.scoringScorerVersion ≠ fusion.scorerVersion) (.valueError
    ("FusionRuntimeConfigSnapshot scoring scorer_version must match FusionResult scorer_version" ++
      ending))
  raiseIf (config.modelVersion ≠ fusion.modelVersion) (.valueError
    ("FusionRuntimeConfigSnapshot model_version must match FusionResult model_version" ++ ending))

/-- `DecisionRuntimeSnapshot.validate_runtime_contracts`. -/
def DecisionRuntimeSnapshot.validateRuntimeContracts (s : DecisionRuntimeSnapshot) :
    Except PersistenceError Unit := do
  raiseIf (s.detectionResult.runId ≠ s.runId)
    (.valueError "DetectionResult run_id must match DecisionRuntimeSnapshot run_id")
  raiseIf (s.fusionResult.runId ≠ s.runId)
    (.valueError "FusionResult run_id must match DecisionRuntimeSnapshot run_id")
  raiseIf (s.fusionStoppingTrace.runId ≠ s.runId)
    (.valueError "FusionStoppingTrace run_id must match DecisionRuntimeSnapshot run_id")
  raiseIf (s.detectionResult.entityId ≠ s.entityId)
    (.valueError "DetectionResult entity_id must match DecisionRuntimeSnapshot entity_id")
  raiseIf (s.fusionResult.entityId ≠ s.entityId)
    (.valueError "FusionResult entity_id must match DecisionRuntimeSnapshot entity_id")
  raiseIf (s.fusionStoppingTrace.entityId ≠ s.entityId)
    (.valueError "FusionStoppingTrace entity_id must match DecisionRuntimeSnapshot entity_id")
  raiseIf (s.fusionStoppingTrace.scoringConfigVersion ≠ s.fusionResult.scoringConfigVersion)
    (.valueError
      "FusionStoppingTrace scoring_config_version must match FusionResult scoring_config_version")
  validateTracePoints s.fusionResult s.fusionStoppingTrace
  raiseIf (s.fusionRuntimeConfigSnapshot.runId ≠ s.runId)
    (.valueError "FusionRuntimeConfigSnapshot run_id must match DecisionRuntimeSnapshot run_id")
  raiseIf (s.fusionRuntimeConfigSnapshot.entityId ≠ s.entityId) (.valueError
    "FusionRuntimeConfigSnapshot entity_id must match DecisionRuntimeSnapshot entity_id")
  validateRuntimeConfig s.fusionResult s.fusionStoppingTrace s.fusionRuntimeConfigSnapshot ""

/-- A millisecond datetime in microseconds. -/
def toMicros (t : Option UtcMillis) : Option UtcMicros := t.map (· * 1000)

/-- `build_decision_runtime_snapshot`. -/
def buildDecisionRuntimeSnapshot (decision : DecisionResult) (detection : DetectionResult)
    (fusion : FusionResult) (trace : FusionStoppingTrace) (config : FusionRuntimeConfigSnapshot) :
    Except PersistenceError DecisionRuntimeSnapshot := do
  raiseIf (decision.fastStatus ≠ detection.detectorStatus)
    (.valueError "DecisionResult fast_status must match DetectionResult detector_status")
  raiseIf (decision.detectorTime ≠ detection.detectorTime)
    (.valueError "DecisionResult detector_time must match DetectionResult detector_time")
  raiseIf (decision.fusionStatus ≠ fusion.fusionStatus)
    (.valueError "DecisionResult fusion_status must match FusionResult fusion_status")
  raiseIf (toMicros decision.fusionTime ≠ fusion.fusionTime)
    (.valueError "DecisionResult fusion_time must match FusionResult fusion_time")
  let snapshot : DecisionRuntimeSnapshot :=
    { decisionId := decision.decisionId, runId := decision.runId, entityId := decision.entityId
      detectionResult := detection, fusionResult := fusion, fusionStoppingTrace := trace
      fusionRuntimeConfigSnapshot := config }
  snapshot.validateRuntimeContracts
  return snapshot

/-- A snapshot that was built carries the ids of its Decision. -/
theorem buildDecisionRuntimeSnapshot_eq_ok {decision : DecisionResult}
    {detection : DetectionResult} {fusion : FusionResult} {trace : FusionStoppingTrace}
    {config : FusionRuntimeConfigSnapshot} {snapshot : DecisionRuntimeSnapshot}
    (h : buildDecisionRuntimeSnapshot decision detection fusion trace config = .ok snapshot) :
    snapshot = ⟨decision.decisionId, decision.runId, decision.entityId, detection, fusion, trace,
      config⟩ := by
  simp only [buildDecisionRuntimeSnapshot, raiseIf_bind_eq_ok] at h
  obtain ⟨-, -, -, -, h⟩ := h
  obtain ⟨_, -, h⟩ := Except.bind_eq_ok.mp h
  exact (Except.ok.inj h).symm

end IncidentAwareness.Persistence
