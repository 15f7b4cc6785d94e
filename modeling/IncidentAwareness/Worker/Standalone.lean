import IncidentAwareness.Persistence.Persist
import Mathlib.Data.Option.NAry

/-!
# The standalone pipeline

What one Sysmon object gives under an allocated run id: its Events, its Fusion
results, the Decision and so the submission to persist. Reading an object,
Fusion and the R1 archive are parameters (`StandaloneStages`), functions of what
the source gives them. The ids, the Decision and their order are the source's.
-/

namespace IncidentAwareness.Worker

open IncidentAwareness.Common IncidentAwareness.Lib IncidentAwareness.Persistence

/-! ## The Decision -/

/-- The winning path of two detections; each has its time. -/
def winningPath : Option UtcMillis → Option UtcMillis → WinningPath
  | some detectorTime, some fusionTime =>
    if detectorTime < fusionTime then .fast
    else if fusionTime < detectorTime then .fusion else .tie
  | _, _ => .tie

/-- The branches of `combine_results` on the two statuses: `t_e`, the decision
path, the winning path and the reason. -/
def decisionPaths (fastStatus fusionStatus : DetectorStatus)
    (detectorTime fusionTime : Option UtcMillis) :
    Option UtcMillis × Option DecisionPath × Option WinningPath × String :=
  match fastStatus, fusionStatus with
  | .notEvaluated, _ | _, .notEvaluated =>
    (none, none, none, "Required parallel evaluation was not completed")
  | .detected, .detected =>
    (Option.map₂ min detectorTime fusionTime, some .fastAndFusion,
      some (winningPath detectorTime fusionTime),
      "Both paths detected; compared canonical UTC millisecond timestamps")
  | .detected, .miss => (detectorTime, some .fast, some .fast, "Only Fast detected")
  | .miss, .detected => (fusionTime, some .fusion, some .fusion, "Only Fusion detected")
  | .miss, .miss => (none, some .none, some .none, "Both evaluated paths missed")

/-- The check of `combine_results` on a named identifier. -/
def requireIdentifier (value text : String) : Except PersistenceError Unit :=
  raiseIf (isBlank value ∨ isPadded value) (.valueError text)

/-- `combine_results`. Its copy of the Fusion result has its time cut to
milliseconds. -/
def combineResults (fast : FastDetectionAdapterResult) (fusion : FusionResult)
    (decisionId configVersion : String) (supersedesDecisionId : Option String := none) :
    Except PersistenceError DecisionResult := do
  requireIdentifier decisionId
    "decision_id must be a non-blank identifier without surrounding whitespace"
  requireIdentifier configVersion
    "config_version must be a non-blank identifier without surrounding whitespace"
  let detection := fast.detectionResult
  raiseIf (detection.scope ≠ fusion.scope)
    (.valueError "Fast and Fusion must have the same run_id and entity_id")
  requireIdentifier detection.entityId
    "entity_id must not be blank or contain surrounding whitespace"
  let fusionTime := fusion.fusionTime.map (· / 1000)
  let paths := decisionPaths detection.detectorStatus fusion.fusionStatus detection.detectorTime
    fusionTime
  return {
    runId := detection.runId
    decisionId := decisionId
    entityId := detection.entityId
    fastStatus := detection.detectorStatus
    fusionStatus := fusion.fusionStatus
    fusionTime := fusionTime
    detectorTime := detection.detectorTime
    tE := paths.1
    decisionPath := paths.2.1
    winningPath := paths.2.2.1
    decisionReason := paths.2.2.2
    configVersion := configVersion
    contributingEvidenceIds := some fusion.contributingEvidenceIds
    modelVersion := fusion.modelVersion
    ruleVersion := detection.ruleVersion
    sourceHitIds := some fast.sourceHitIds
    selectedSourceHitId := fast.selectedSourceHitId
    supersedesDecisionId := supersedesDecisionId }

theorem noDetectorTime : (none : Option UtcMillis).isSome =
    decide (DetectorStatus.notEvaluated = .detected) := rfl

theorem noDetectorId : DetectorStatus.notEvaluated = .detected → (none : Option String).isSome := by
  decide

/-- `build_not_evaluated_detection_result`, on ids that it accepts. -/
def buildNotEvaluatedDetectionResult (runId entityId : String) : FastDetectionAdapterResult where
  detectionResult := {
    runId := runId
    entityId := entityId
    detectorTime := none
    detectorStatus := .notEvaluated
    detectorId := none
    ruleId := none
    ruleVersion := none
    severity := none
    detectorTime_isSome := noDetectorTime
    detectorId_isSome := noDetectorId }
  sourceHitIds := []
  selectedSourceHitId := none

/-! ## The Events -/

/-- What identifies an Event: the arguments of `_normalized_event_id`. -/
structure EventIdentity where
  runId : String
  rawLogId : String
  segmentNo : Nat
  recordNo : Nat
  recordId : Int
  deriving DecidableEq, Repr

/-- A Sysmon record: its line in the object, its `RecordId`, and the Event that the
normalizer makes of it, as the Event of no run. -/
structure StandaloneRecord where
  recordNo : Nat
  recordId : Int
  event : NormalizedEvent
  recordNo_pos : 1 ≤ recordNo := by decide

/-- A readable object: one or more records of one computer. -/
structure StandaloneInput where
  targetHost : String
  startTime : UtcMicros
  endTime : UtcMicros
  records : List StandaloneRecord
  records_host : ∀ r ∈ records, r.event.hostId = targetHost
  recordNos_nodup : (records.map (·.recordNo)).Nodup

theorem isBlank_eq_false {s : String} {c : Char} (h : c ∈ s.toList) (hc : isSpace c = false) :
    isBlank s = false := by
  have hdrop : ∀ {l : List Char}, c ∈ l → c ∈ l.dropWhile isSpace := by
    intro l hl
    induction l with
    | nil => exact hl
    | cons a l ih =>
      rw [List.dropWhile_cons]
      split
      · next ha =>
        rcases List.mem_cons.mp hl with rfl | hl
        · rw [hc] at ha
          cases ha
        · exact ih hl
      · exact hl
  have hmem : c ∈ strip s := by
    rw [strip, List.mem_reverse]
    exact hdrop (List.mem_reverse.mpr (hdrop h))
  rw [isBlank, List.isEmpty_eq_false_iff]
  exact List.ne_nil_of_mem hmem

section Normalize

/-- `RAW-{run_id}-SYSMON-001`. -/
def rawLogId (runId : String) : String := "RAW-" ++ runId ++ "-SYSMON-001"

theorem rawLogId_nonblank (runId : String) : isBlank (rawLogId runId) = false := by
  refine isBlank_eq_false (c := 'R') ?_ rfl
  simp [rawLogId]

variable (uuid5 : EventIdentity → String)

/-- The identity of a record's Event in a run. -/
def StandaloneRecord.identity (r : StandaloneRecord) (runId : String) : EventIdentity :=
  ⟨runId, rawLogId runId, 1, r.recordNo, r.recordId⟩

/-- `_normalized_event_id`; `uuid5` hashes the JSON text of the identity. -/
def normalizedEventId (identity : EventIdentity) : String := "evt-" ++ uuid5 identity

theorem four_le_length_normalizedEventId (identity : EventIdentity) :
    4 ≤ (normalizedEventId uuid5 identity).length := by
  rw [normalizedEventId, String.length_append]
  exact Nat.le_add_right 4 _

/-- The Event of a record in a run. -/
def StandaloneRecord.normalize (r : StandaloneRecord) (runId : String) : NormalizedEvent :=
  { r.event with
    eventId := normalizedEventId uuid5 (r.identity runId)
    runId := runId
    rawRef := { r.event.rawRef with
      rawLogId := rawLogId runId
      segmentNo := 1
      recordNo := r.recordNo
      rawLogId_nonblank := rawLogId_nonblank runId
      segmentNo_pos := le_refl 1
      recordNo_pos := r.recordNo_pos }
    eventId_nonempty := fun h => by
      have := four_le_length_normalizedEventId uuid5 (r.identity runId)
      rw [h] at this
      simp at this
    eventId_ne_dot := by
      have hlen := four_le_length_normalizedEventId uuid5 (r.identity runId)
      constructor
      · intro h
        rw [h] at hlen
        exact absurd hlen (by decide)
      · intro h
        rw [h] at hlen
        exact absurd hlen (by decide) }

end Normalize

/-! ## The submission -/

/-- The stages of the pipeline that other code decides. -/
structure StandaloneStages where
  /-- Download and validate an object, its records in processing order. -/
  read : S3Object → Except PersistenceError StandaloneInput
  /-- `uuid5` of the JSON text of an identity. -/
  uuid5 : EventIdentity → String
  /-- `run_s0_fusion_with_trace`. -/
  fusion : RunMetadata → List NormalizedEvent →
    Except PersistenceError (FusionResult × FusionStoppingTrace × FusionRuntimeConfigSnapshot)
  /-- `_generate_r1_archive_if_configured`, read for publication. -/
  r1Archive : String → List NormalizedEvent → Except PersistenceError (Option R1ArchivePublication)

/-- `RUN-{date}-{sequence:03d}`. -/
def allocatedRunId (date : String) (sequence : Nat) : String :=
  let digits := decimalStr sequence
  "RUN-" ++ date ++ "-" ++ String.ofList (List.replicate (3 - digits.length) '0' ++ digits)

/-- `DEC-{run_id}`. -/
def allocatedDecisionId (runId : String) : String := "DEC-" ++ runId

/-- `build_run_metadata_from_sysmon_jsonl`, with the Worker's scenario and run type. -/
def StandaloneInput.runMetadata (input : StandaloneInput) (runId : String) : RunMetadata where
  runId := runId
  scenarioId := "S0"
  runType := .attack
  targetHost := input.targetHost
  startTime := input.startTime
  endTime := some input.endTime

/-- The stages before persistence, under an allocated run id: what is submitted,
and the R1 archive to publish. -/
def standaloneResults (stages : StandaloneStages) (object : S3Object) (runId : String) :
    Except PersistenceError (Submission × Option R1ArchivePublication) := do
  let input ← stages.read object
  let runMetadata := input.runMetadata runId
  let events := input.records.map (·.normalize stages.uuid5 runId)
  let r1Archive ← stages.r1Archive runId events
  let (fusionResult, stoppingTrace, runtimeConfigSnapshot) ← stages.fusion runMetadata events
  let fastResult := buildNotEvaluatedDetectionResult runId input.targetHost
  let decisionResult ← combineResults fastResult fusionResult (allocatedDecisionId runId)
    "parallel-v0.2"
  return ({ runMetadata, events, fusionResult, stoppingTrace, runtimeConfigSnapshot, fastResult,
            decisionResult }, r1Archive)

end IncidentAwareness.Worker
