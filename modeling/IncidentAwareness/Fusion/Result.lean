import IncidentAwareness.Fusion.Replay

/-!
# The fusion pipeline

The output models `FusionStoppingTrace`, `FusionEpisodeResult` and
`FusionResult` with their validators (of the errors a validation lists, the
first), `build_fusion_result`, and `run_fusion_pipeline` under a validated
configuration.
-/

namespace IncidentAwareness.Fusion

open IncidentAwareness.Common IncidentAwareness.Lib

variable {φ : Type}

/-- `Field(min_length=1)`. -/
def requireNonempty (value : String) : Except PyError Unit :=
  raiseIf (value = "") (.valueError "String should have at least 1 character")

/-! ## The stopping trace -/

/-- The fields of `FusionStoppingTracePoint`. -/
structure TracePointFields where
  timestamp : Int
  score : ℚ
  persistenceCount : Option Nat
  policyState : PolicyState
  deriving DecidableEq, Repr

/-- What a trace point off the milliseconds raises. -/
def notMillisecond : PyError :=
  .valueError "FusionStoppingTracePoint timestamp must be aligned to millisecond precision"

/-- The validation of `FusionStoppingTracePoint`; its timestamp is a UTC datetime. -/
def TracePointFields.validate (p : TracePointFields) : Except PyError Unit := do
  raiseIf (p.timestamp % 1000 ≠ 0) notMillisecond
  raiseIf (p.score < 0) (.valueError "Input should be greater than or equal to 0")
  raiseIf (1 < p.score) (.valueError "Input should be less than or equal to 1")
  raiseIf (∃ n ∈ p.persistenceCount, n < 1)
    (.valueError "Input should be greater than or equal to 1")

/-- `FusionStoppingTracePoint`. -/
abbrev FusionStoppingTracePoint := Validated TracePointFields.validate

/-- The fields of `FusionStoppingTrace`. -/
structure TraceFields where
  runId : String
  entityId : String
  scoringConfigVersion : String
  points : List FusionStoppingTracePoint

/-- `validate_point_timestamps`, after a point at `previous`. -/
def validatePointTimestamps : Option Int → List FusionStoppingTracePoint → Except PyError Unit
  | _, [] => .ok ()
  | previous, point :: points => do
    raiseIf (∃ t ∈ previous, point.val.timestamp ≤ t)
      (.valueError "FusionStoppingTrace point timestamps must be strictly increasing")
    validatePointTimestamps (some point.val.timestamp) points

/-- The validation of `FusionStoppingTrace`. -/
def TraceFields.validate (trace : TraceFields) : Except PyError Unit := do
  requireNonempty trace.runId
  requireNonempty trace.entityId
  requireNonempty trace.scoringConfigVersion
  validatePointTimestamps none trace.points

/-- `FusionStoppingTrace`. -/
abbrev FusionStoppingTrace := Validated TraceFields.validate

/-! ## The result -/

/-- The fields of `FusionEpisodeResult`. -/
structure EpisodeFields where
  episodeId : String
  runId : String
  entityId : String
  startTime : Int
  endTime : Option Int := none
  endReason : Option FusionEndReason := none
  scoreAtStart : ℚ
  peakScore : ℚ
  contributingEvidenceIds : Option (List String) := none
  deriving DecidableEq, Repr

/-- The validation of `FusionEpisodeResult`; its times are UTC datetimes. -/
def EpisodeFields.validate (e : EpisodeFields) : Except PyError Unit := do
  requireNonempty e.episodeId
  requireNonempty e.runId
  requireNonempty e.entityId
  raiseIf (e.endTime = none ∧ e.endReason ≠ none)
    (.valueError "FusionEpisodeResult without end_time must not include end_reason")
  raiseIf (e.endTime ≠ none ∧ e.endReason = none)
    (.valueError "FusionEpisodeResult with end_time must include end_reason")
  raiseIf (∃ t ∈ e.endTime, t < e.startTime)
    (.valueError "FusionEpisodeResult end_time must not be earlier than start_time")

/-- `FusionEpisodeResult`. -/
abbrev FusionEpisodeResult := Validated EpisodeFields.validate

/-- The fields of `FusionResult`. -/
structure ResultFields where
  runId : String
  entityId : String
  fusionTime : Option Int
  fusionStatus : FusionStatus
  scoreAtDecision : Option ℚ
  contributingEvidenceIds : List String
  scoringConfigVersion : String
  scoringProfileId : String
  modelVersion : Option String := none
  scoringMethod : String
  scorerVersion : String
  fusionEpisodes : List FusionEpisodeResult

/-- `min(items, key=key)`: of equal minima the first. -/
def minBy {α : Type} (key : α → Int) : List α → Option α
  | [] => none
  | a :: items =>
    match minBy key items with
    | none => some a
    | some b => if key b < key a then some b else some a

/-- The part of `validate_status_contract` for a detected result. -/
def ResultFields.validateDetected (r : ResultFields) : Except PyError Unit := do
  raiseIf (r.fusionTime = none) (.valueError "detected FusionResult must include fusion_time")
  match minBy (fun e => e.val.startTime) r.fusionEpisodes with
  | none => .error (.valueError "detected FusionResult must include fusion_episodes")
  | some firstEpisode => do
    raiseIf (r.fusionTime ≠ some firstEpisode.val.startTime) (.valueError
      "detected FusionResult fusion_time must match the first FusionEpisode start_time")
    raiseIf (r.scoreAtDecision = none)
      (.valueError "detected FusionResult must include score_at_decision")
    raiseIf (r.scoreAtDecision ≠ some firstEpisode.val.scoreAtStart) (.valueError
      "detected FusionResult score_at_decision must match the first FusionEpisode score_at_start")
    raiseIf (r.contributingEvidenceIds = [])
      (.valueError "detected FusionResult must include contributing_evidence_ids")
    raiseIf (∃ ids ∈ firstEpisode.val.contributingEvidenceIds, r.contributingEvidenceIds ≠ ids)
      (.valueError ("detected FusionResult contributing_evidence_ids must match the first " ++
        "FusionEpisode contributing_evidence_ids"))

/-- `validate_status_contract`. -/
def ResultFields.validateStatusContract (r : ResultFields) : Except PyError Unit := do
  raiseIf (∃ e ∈ r.fusionEpisodes, e.val.runId ≠ r.runId)
    (.valueError "FusionEpisodeResult run_id must match FusionResult run_id")
  raiseIf (∃ e ∈ r.fusionEpisodes, e.val.entityId ≠ r.entityId)
    (.valueError "FusionEpisodeResult entity_id must match FusionResult entity_id")
  raiseIf (¬ (r.fusionEpisodes.map (·.val.episodeId)).Nodup)
    (.valueError "FusionEpisodeResult episode_id must be unique within FusionResult")
  match r.fusionStatus with
  | .detected => r.validateDetected
  | .miss => do
    raiseIf (r.fusionTime ≠ none) (.valueError "miss FusionResult must not include fusion_time")
    raiseIf (r.fusionEpisodes ≠ [])
      (.valueError "miss FusionResult must not include fusion_episodes")
  | .notEvaluated => do
    raiseIf (r.fusionTime ≠ none)
      (.valueError "not_evaluated FusionResult must not include fusion_time")
    raiseIf (r.scoreAtDecision ≠ none)
      (.valueError "not_evaluated FusionResult must not include score_at_decision")
    raiseIf (r.fusionEpisodes ≠ [])
      (.valueError "not_evaluated FusionResult must not include fusion_episodes")

/-- The validation of `FusionResult`. -/
def ResultFields.validate (r : ResultFields) : Except PyError Unit := do
  requireNonempty r.runId
  requireNonempty r.entityId
  requireNonempty r.scoringConfigVersion
  requireNonempty r.scoringProfileId
  raiseIf (r.modelVersion = some "") (.valueError "String should have at least 1 character")
  requireNonempty r.scoringMethod
  requireNonempty r.scorerVersion
  r.validateStatusContract

/-- `FusionResult`. -/
abbrev FusionResult := Validated ResultFields.validate

/-- The scoring metadata that a result repeats. -/
structure ScoringMetadata where
  scoringConfigVersion : String
  scoringProfileId : String
  scoringMethod : String
  scorerVersion : String
  modelVersion : Option String := none
  deriving DecidableEq, Repr

/-- `evidence_ids_by_timestamp.get(t)`; of two snapshots of one time the later counts. -/
def evidenceIdsAt (snapshots : List ReplayEvidenceSnapshot) (t : Int) : Option (List String) :=
  (snapshots.reverse.find? fun s => s.timestamp = t).map (·.contributingEvidenceIds)

/-- `dict.get` of a snapshot that must be there. -/
def requireSnapshot (snapshots : List ReplayEvidenceSnapshot) (t : Int) (text : String) :
    Except PyError (List String) :=
  match evidenceIdsAt snapshots t with
  | none => .error (.valueError text)
  | some ids => .ok ids

/-- The output episode of an episode, with the ids at its start. -/
def episodeFields (episode : FusionEpisode) (ids : List String) : EpisodeFields where
  episodeId := episode.episodeId
  runId := episode.runId
  entityId := episode.entityId
  startTime := episode.startTime
  endTime := some episode.endTime
  endReason := some episode.endReason
  scoreAtStart := episode.scoreAtStart
  peakScore := episode.peakScore
  contributingEvidenceIds := some ids

/-- The body of the loop of `build_fusion_result`. -/
def buildEpisode (snapshots : List ReplayEvidenceSnapshot) (episode : FusionEpisode) :
    Except PyError FusionEpisodeResult := do
  let ids ← requireSnapshot snapshots episode.startTime
    "Missing Evidence snapshot for FusionEpisode start_time"
  construct EpisodeFields.validate (episodeFields episode ids)

/-- The ids of a result: those at its detection. -/
def resultEvidenceIds (replayResult : TemporalReplayResult) : Except PyError (List String) :=
  match replayResult.stoppingResult.fusionStatus with
  | .detected =>
    match replayResult.stoppingResult.fusionTime with
    | none => .error (.valueError "Detected StoppingResult must include fusion_time")
    | some t => requireSnapshot replayResult.evidenceSnapshots t
      "Missing Evidence snapshot for fusion_time"
  | _ => .ok []

/-- `build_fusion_result`. -/
def buildFusionResult (replayResult : TemporalReplayResult) (runId entityId : String)
    (metadata : ScoringMetadata) : Except PyError FusionResult := do
  let stoppingResult := replayResult.stoppingResult
  let fusionEpisodes ← stoppingResult.fusionEpisodes.mapM
    (buildEpisode replayResult.evidenceSnapshots)
  let contributingEvidenceIds ← resultEvidenceIds replayResult
  construct ResultFields.validate
    { runId, entityId, fusionTime := stoppingResult.fusionTime
      fusionStatus := stoppingResult.fusionStatus
      scoreAtDecision := stoppingResult.scoreAtDecision
      contributingEvidenceIds
      scoringConfigVersion := metadata.scoringConfigVersion
      scoringProfileId := metadata.scoringProfileId
      modelVersion := metadata.modelVersion
      scoringMethod := metadata.scoringMethod
      scorerVersion := metadata.scorerVersion
      fusionEpisodes }

/-! ## The pipeline -/

/-- `FusionPipelineResult`. -/
structure FusionPipelineResult where
  replayResult : TemporalReplayResult
  fusionResult : FusionResult
  stoppingTrace : FusionStoppingTrace

/-- The output point of a trace point. -/
def tracePointFields (p : StoppingTracePoint) : TracePointFields :=
  ⟨p.timestamp, p.score, p.persistenceCount, p.policyState⟩

/-- What `run_fusion_pipeline` makes of a replay. -/
def buildOutputs (replayResult : TemporalReplayResult) (runId entityId : String)
    (metadata : ScoringMetadata) : Except PyError FusionPipelineResult := do
  let fusionResult ← buildFusionResult replayResult runId entityId metadata
  let points ← replayResult.stoppingTrace.mapM fun p =>
    construct TracePointFields.validate (tracePointFields p)
  let stoppingTrace ← construct TraceFields.validate
    { runId, entityId, scoringConfigVersion := metadata.scoringConfigVersion, points }
  return { replayResult, fusionResult, stoppingTrace }

/-- `run_fusion_pipeline`. -/
def runFusionPipeline (evidences : List (Evidence φ)) (runner : TemporalReplayRunner)
    (runId entityId : String) (runStart runEnd : PyDatetime) (replayEnd : Option PyDatetime)
    (metadata : ScoringMetadata) : EStateM PyError (WindowState φ) FusionPipelineResult := do
  let replayResult ← runner.run evidences runId entityId runStart runEnd replayEnd
  reads fun _ => buildOutputs replayResult runId entityId metadata

/-- `timedelta(seconds=seconds)` of a float that is not negative, in microseconds. -/
def timedeltaSeconds (seconds : ℚ) : Int :=
  ⌊seconds⌋ * 1000000 + roundHalfEven (binary64 (Int.fract seconds * 1000000))

/-- `FusionConfig`. `step_size_sec` is the float next to what its text reads, which is what
the check of its milliseconds looks at; the window is the `timedelta` it produces. -/
structure FusionConfig where
  configVersion : String
  modelVersion : Option String := none
  windowSize : Int
  /-- `Decimal(str(step_size_sec))`. -/
  stepSizeSec : ℚ
  scorerVersion : String
  profileId : String
  evidenceTypes : List String
  thresholdOn : ℚ
  thresholdOff : ℚ
  persistenceK : Nat
  configVersion_nonblank : isBlank configVersion = false := by decide
  modelVersion_nonblank : ∀ v ∈ modelVersion, isBlank v = false := by decide
  windowSize_pos : 0 < windowSize := by decide
  stepSizeSec_pos : 0 < stepSizeSec := by norm_num
  stepSize_pos : 0 < timedeltaSeconds (binary64 stepSizeSec)
  stepSizeSec_millis : (stepSizeSec * 1000).isInt = true
  scorerVersion_nonblank : isBlank scorerVersion = false := by decide
  profileId_nonblank : isBlank profileId = false := by decide
  evidenceTypes_ne_nil : evidenceTypes ≠ [] := by simp
  evidenceTypes_nonblank : ∀ t ∈ evidenceTypes, isBlank t = false := by decide
  evidenceTypes_unpadded : ∀ t ∈ evidenceTypes, isPadded t = false := by decide
  evidenceTypes_nodup : evidenceTypes.Nodup := by decide
  thresholdOn_mem : 0 ≤ thresholdOn ∧ thresholdOn ≤ 1 := by decide
  thresholdOff_mem : 0 ≤ thresholdOff ∧ thresholdOff ≤ 1 := by decide
  thresholdOff_lt : thresholdOff < thresholdOn := by decide
  persistenceK_pos : 1 ≤ persistenceK := by decide

namespace FusionConfig

variable (config : FusionConfig)

/-- `timedelta(seconds=step_size_sec)`, in microseconds. -/
def stepSize : Int := timedeltaSeconds (binary64 config.stepSizeSec)

/-- `build_runner`. -/
def buildRunner : Except PyError TemporalReplayRunner := do
  let windowEngine ← WindowEngine.new config.windowSize
  let scorer ← SimpleScorer.new config.evidenceTypes
  let stoppingPolicy ← ThresholdStoppingPolicy.new config.thresholdOn config.thresholdOff
    config.persistenceK
  TemporalReplayRunner.new windowEngine scorer stoppingPolicy config.stepSize

/-- What a configuration says of its scoring; the only method is `simple_score`. -/
def metadata : ScoringMetadata where
  scoringConfigVersion := config.configVersion
  scoringProfileId := config.profileId
  scoringMethod := "simple_score"
  scorerVersion := config.scorerVersion
  modelVersion := config.modelVersion

end FusionConfig

/-- `run_fusion_pipeline_from_config`. -/
def runFusionPipelineFromConfig (evidences : List (Evidence φ)) (config : FusionConfig)
    (runId entityId : String) (runStart runEnd : PyDatetime) (replayEnd : Option PyDatetime) :
    EStateM PyError (WindowState φ) FusionPipelineResult := do
  let runner ← reads fun _ => config.buildRunner
  runFusionPipeline evidences runner runId entityId runStart runEnd replayEnd config.metadata

end IncidentAwareness.Fusion
