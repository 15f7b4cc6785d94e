import IncidentAwareness.Lib.Canonical
import IncidentAwareness.Persistence.Results
import IncidentAwareness.Stream.Messages
import Mathlib.Data.Prod.Lex
import Mathlib.Data.String.Basic

/-!
# Fast hits, from Hayabusa rows to the Detection result

The rows of a Hayabusa CSV are qualified and adapted to `FastHitRecord`s with a trace
(`run_fast_handoff`), read back and checked (`read_fast_hit_handoff`), selected for an
entity (`select_fast_hit`) and turned into its `DetectionResult`
(`adapt_fast_hit_handoff`). A JSONL file is the payloads of its lines, a dict its
items; the reading of a Hayabusa timestamp to the millisecond is a parameter.
-/

namespace IncidentAwareness.Detection

open IncidentAwareness.Common IncidentAwareness.Lib IncidentAwareness.Persistence
open IncidentAwareness.Stream (isRunId)

/-- What the Fast path raises. -/
inductive FastError where
  | valueError (text : String)
  | keyError (key : String)
  | typeError (text : String)
  | overflowError (text : String)
  deriving DecidableEq, Repr

/-- A string that matches `^\S+$`. -/
def isIdentifier (s : String) : Bool :=
  !s.toList.isEmpty && s.toList.all fun c => !isSpace c || 28 ≤ c.toNat && c.toNat ≤ 31

/-- The validation of an `Identifier`. -/
def requireIdentifier (value : String) : Except FastError Unit :=
  raiseIf (isIdentifier value = false) (.valueError "String should match pattern '^\\S+$'")

/-- A string that matches `^[0-9a-f]{64}$`. -/
def isSha256 (s : String) : Bool :=
  s.toList.length == 64 && s.toList.all fun c => c.isDigit || 'a' ≤ c && c ≤ 'f'

/-- The validation of a `Sha256`. -/
def requireSha256 (value : String) : Except FastError Unit :=
  raiseIf (isSha256 value = false) (.valueError "String should be a SHA-256 digest")

/-! ## Rows and records -/

/-- A row of the Hayabusa CSV, as far as it is read. -/
structure HayabusaRow where
  timestamp : String
  ruleId : String
  computer : Option String := none
  recordId : Option String := none
  deriving DecidableEq, Repr

/-- `RuleMetadata`. -/
structure RuleMetadata where
  ruleVersion : String
  alertKey : String
  deriving DecidableEq, Repr

/-- The fields of `FastRunnerConfig`. -/
structure FastRunnerConfigFields where
  detectorEngineVersion : String
  detectorConfigVersion : String
  qualifyingRuleIds : List String
  ruleMetadata : List (String × RuleMetadata)
  deriving DecidableEq, Repr

/-- The validation of `FastRunnerConfig`. -/
def FastRunnerConfigFields.validate (c : FastRunnerConfigFields) : Except FastError Unit := do
  requireIdentifier c.detectorEngineVersion
  requireIdentifier c.detectorConfigVersion
  c.qualifyingRuleIds.forM requireIdentifier
  raiseIf (¬ c.qualifyingRuleIds.Nodup) (.valueError "qualifying_rule_ids must be unique")
  c.ruleMetadata.forM fun item => do
    requireIdentifier item.1
    requireIdentifier item.2.ruleVersion
    requireIdentifier item.2.alertKey

/-- `FastRunnerConfig`. -/
abbrev FastRunnerConfig := Validated FastRunnerConfigFields.validate

/-- The fields of `FastHitRecord`; the timestamp is its millisecond. -/
structure FastHitFields where
  hitId : String
  runId : String
  timestamp : UtcMillis
  detectorEngine : String
  detectorEngineVersion : String
  ruleId : String
  ruleVersion : String
  alertKey : String
  nativeHostId : Option String
  nativeRecordRef : Option String
  detectorConfigVersion : String
  deriving DecidableEq, Repr

/-- The validation of `FastHitRecord`. -/
def FastHitFields.validate (h : FastHitFields) : Except FastError Unit := do
  requireIdentifier h.hitId
  requireIdentifier h.runId
  requireIdentifier h.detectorEngine
  requireIdentifier h.detectorEngineVersion
  requireIdentifier h.ruleId
  requireIdentifier h.ruleVersion
  requireIdentifier h.alertKey
  h.nativeHostId.elim (.ok ()) requireIdentifier
  h.nativeRecordRef.elim (.ok ()) requireIdentifier
  requireIdentifier h.detectorConfigVersion

/-- `FastHitRecord`. -/
abbrev FastHitRecord := Validated FastHitFields.validate

/-! ## Adaptation -/

/-- `value or None`. -/
def orNone (value : Option String) : Option String := if value = some "" then none else value

/-- `hayabusa_row_to_fast_hit`. -/
def hayabusaRowToFastHit (utcMillis : String → Except FastError UtcMillis) (row : HayabusaRow)
    (runId hitId : String) (config : FastRunnerConfig) (metadata : RuleMetadata) :
    Except FastError FastHitFields := do
  let timestamp ← utcMillis row.timestamp
  return {
    hitId := hitId
    runId := runId
    timestamp := timestamp
    detectorEngine := "hayabusa"
    detectorEngineVersion := config.val.detectorEngineVersion
    ruleId := row.ruleId
    ruleVersion := metadata.ruleVersion
    alertKey := metadata.alertKey
    nativeHostId := orNone row.computer
    nativeRecordRef := orNone row.recordId
    detectorConfigVersion := config.val.detectorConfigVersion }

/-- `f"{run_id}-hit-{index}"`. -/
def hitIdOf (runId : String) (index : Nat) : String := runId ++ "-hit-" ++ toString index

/-- `is_qualifying_hit`. -/
def isQualifyingHit (config : FastRunnerConfig) (row : HayabusaRow) : Bool :=
  config.val.qualifyingRuleIds.contains row.ruleId

/-- `get_rule_metadata`. -/
def getRuleMetadata (config : FastRunnerConfig) (ruleId : String) : Except FastError RuleMetadata :=
  match config.val.ruleMetadata.lookup ruleId with
  | some metadata => .ok metadata
  | none => .error (.keyError ruleId)

/-- The qualifying rows with their indices, from an index on. -/
def qualifyingFrom (config : FastRunnerConfig) : Nat → List HayabusaRow → List (HayabusaRow × Nat)
  | _, [] => []
  | index, row :: rows =>
    if isQualifyingHit config row then (row, index) :: qualifyingFrom config (index + 1) rows
    else qualifyingFrom config (index + 1) rows

/-- The hit of a qualifying row. -/
def hitOf (utcMillis : String → Except FastError UtcMillis) (runId : String)
    (config : FastRunnerConfig) (item : HayabusaRow × Nat) : Except FastError FastHitFields := do
  let metadata ← getRuleMetadata config item.1.ruleId
  hayabusaRowToFastHit utcMillis item.1 runId (hitIdOf runId item.2) config metadata

/-- `hayabusa_rows_to_fast_hits`. -/
def hayabusaRowsToFastHits (utcMillis : String → Except FastError UtcMillis)
    (rows : List HayabusaRow) (runId : String) (config : FastRunnerConfig) :
    Except FastError (List FastHitFields) :=
  (qualifyingFrom config 1 rows).mapM (hitOf utcMillis runId config)

/-! ## The handoff -/

/-- `FastHitTraceEntry`. -/
structure FastHitTraceEntry where
  hitId : String
  sourceRowIndex : Nat
  ruleId : String
  deriving DecidableEq, Repr

/-- The fields of `FastHitTrace`. -/
structure FastHitTraceFields where
  runId : String
  inputCsv : String
  inputSha256 : String
  configPath : String
  configSha256 : String
  outputSha256 : String
  inputRowCount : Nat
  hitCount : Nat
  hits : List FastHitTraceEntry
  deriving DecidableEq, Repr

/-- The validation of `FastHitTrace`. -/
def FastHitTraceFields.validate (t : FastHitTraceFields) : Except FastError Unit := do
  requireIdentifier t.runId
  raiseIf (t.inputCsv = "") (.valueError "String should have at least 1 character")
  requireSha256 t.inputSha256
  raiseIf (t.configPath = "") (.valueError "String should have at least 1 character")
  requireSha256 t.configSha256
  requireSha256 t.outputSha256
  t.hits.forM fun entry => do
    requireIdentifier entry.hitId
    raiseIf (entry.sourceRowIndex < 1) (.valueError "Input should be greater than or equal to 1")
    requireIdentifier entry.ruleId

/-- `FastHitTrace`. -/
abbrev FastHitTrace := Validated FastHitTraceFields.validate

/-- `FastHitHandoff`. -/
structure FastHitHandoff where
  records : List FastHitRecord
  trace : FastHitTrace
  deriving DecidableEq

/-- The files of a handoff: the payloads of the JSONL file with its digest, the trace, and of the
file at a path its digest with the rows of a CSV or the fields of a config. -/
structure FastFiles where
  hits : List FastHitFields
  hitsSha256 : String
  trace : FastHitTraceFields
  csv : String → Option (String × List HayabusaRow)
  config : String → Option (String × FastRunnerConfigFields)

/-- The trace entries of the rows that have a hit, from an index on. -/
def traceEntriesFrom (hits : List FastHitFields) (runId : String) :
    Nat → List HayabusaRow → List FastHitTraceEntry
  | _, [] => []
  | index, row :: rows =>
    if hits.any fun hit => hit.hitId = hitIdOf runId index then
      ⟨hitIdOf runId index, index, row.ruleId⟩ :: traceEntriesFrom hits runId (index + 1) rows
    else traceEntriesFrom hits runId (index + 1) rows

/-- `_validate_run_id`. -/
def validateRunId (runId : String) : Except FastError Unit :=
  raiseIf (isRunId runId = false) (.valueError "invalid expected run_id")

/-- The hits and the trace that `run_fast_handoff` writes for the rows of a CSV. -/
def runFastHandoff (utcMillis : String → Except FastError UtcMillis) (csvPath csvSha256 : String)
    (rows : List HayabusaRow) (configPath configSha256 : String) (config : FastRunnerConfigFields)
    (runId outputSha256 : String) : Except FastError (List FastHitFields × FastHitTraceFields) := do
  validateRunId runId
  let config ← construct FastRunnerConfigFields.validate config
  config.val.qualifyingRuleIds.forM fun ruleId =>
    raiseIf ((config.val.ruleMetadata.lookup ruleId).isNone)
      (.keyError ("missing metadata for qualifying rule: " ++ ruleId))
  let hits ← hayabusaRowsToFastHits utcMillis rows runId config
  return (hits, {
    runId := runId
    inputCsv := csvPath
    inputSha256 := csvSha256
    configPath := configPath
    configSha256 := configSha256
    outputSha256 := outputSha256
    inputRowCount := rows.length
    hitCount := hits.length
    hits := traceEntriesFrom hits runId 1 rows })

/-! ## The checks of a handoff -/

/-- `_validate_trace_artifact_sha256`. -/
def validateTraceArtifact (digest : Option String) (expected artifactName : String) :
    Except FastError Unit :=
  match digest with
  | none => .error (.valueError ("cannot read " ++ artifactName ++ " referenced by the trace"))
  | some actual =>
    raiseIf (actual ≠ expected) (.valueError (artifactName ++ " SHA-256 does not match the trace"))

/-- The row index in a hit id that follows `{run_id}-hit-([1-9][0-9]*)`. -/
def rowIndexOf (runId hitId : String) : Option Nat :=
  match hitId.toList.dropPrefix? (runId ++ "-hit-").toList with
  | none => none
  | some digits =>
    if digits ≠ [] ∧ digits.all Char.isDigit ∧ digits.head? ≠ some '0' then
      some (Nat.ofDigitChars 10 digits 0)
    else none

/-- One turn of `_validate_hit_provenance`. -/
def validateProvenance (runId : String) (inputRowCount : Nat) (entry : FastHitTraceEntry) :
    Except FastError Unit :=
  match rowIndexOf runId entry.hitId with
  | none => .error (.valueError "FastHitRecord hit_id must follow \x7brun_id\x7d-hit-\x7bsource_row_index\x7d")
  | some index => do
    raiseIf (index ≠ entry.sourceRowIndex)
      (.valueError "FastHitRecord hit_id does not match trace source_row_index")
    raiseIf (inputRowCount < entry.sourceRowIndex)
      (.valueError "FastHit trace source_row_index exceeds input_row_count")

/-- The check of one record against the trace. -/
def validateTraceRule (trace : FastHitTrace) (record : FastHitRecord) : Except FastError Unit :=
  raiseIf (∃ entry ∈ trace.val.hits, entry.hitId = record.val.hitId ∧ entry.ruleId ≠ record.val.ruleId)
    (.valueError ("FastHit trace rule_id does not match record " ++ record.val.hitId))

/-- What `_validate_handoff` and `_validate_adapter_handoff` check alike; their texts name the
artifact and the run. -/
def validateEntries (artifact recordsName runName runId : String) (records : List FastHitRecord)
    (trace : FastHitTrace) : Except FastError Unit := do
  raiseIf (trace.val.hitCount ≠ records.length ∨ trace.val.hits.length ≠ records.length)
    (.valueError ("FastHit trace hit_count does not match the " ++ recordsName))
  raiseIf (¬ (records.map fun r => r.val.hitId).Nodup)
    (.valueError (artifact ++ " contains duplicate hit_id values"))
  raiseIf (∃ r ∈ records, r.val.runId ≠ runId)
    (.valueError ("FastHitRecord run_id does not match the " ++ runName ++ " run_id"))
  raiseIf (¬ (trace.val.hits.map FastHitTraceEntry.hitId).Nodup)
    (.valueError "FastHit trace contains duplicate hit_id values")
  raiseIf (¬ ((∀ r ∈ records, r.val.hitId ∈ trace.val.hits.map FastHitTraceEntry.hitId) ∧
      ∀ entry ∈ trace.val.hits, entry.hitId ∈ records.map fun r => r.val.hitId))
    (.valueError ("FastHit trace hit_id values do not match the " ++ recordsName))
  raiseIf (¬ (trace.val.hits.map FastHitTraceEntry.sourceRowIndex).Nodup)
    (.valueError "FastHit trace contains duplicate source_row_index values")
  records.forM (validateTraceRule trace)
  trace.val.hits.forM (validateProvenance trace.val.runId trace.val.inputRowCount)

/-- `_validate_handoff`. -/
def validateHandoff (files : FastFiles) (records : List FastHitRecord) (trace : FastHitTrace)
    (expectedRunId : String) : Except FastError Unit := do
  raiseIf (trace.val.outputSha256 ≠ files.hitsSha256)
    (.valueError "FastHitRecord JSONL SHA-256 does not match the trace")
  validateTraceArtifact ((files.csv trace.val.inputCsv).map Prod.fst) trace.val.inputSha256
    "FastHit input CSV"
  validateTraceArtifact ((files.config trace.val.configPath).map Prod.fst) trace.val.configSha256
    "FastHit config"
  raiseIf (trace.val.runId ≠ expectedRunId)
    (.valueError "FastHit trace run_id does not match the expected run_id")
  validateEntries "FastHitRecord JSONL" "JSONL records" "expected" expectedRunId records trace

/-- `_validate_record`, for a line of the JSONL file. -/
def validateRecord (line : FastHitFields × Nat) : Except FastError FastHitRecord :=
  (construct FastHitFields.validate line.1).mapError fun _ =>
    .valueError ("invalid FastHitRecord at line " ++ toString line.2)

/-- `read_fast_hit_handoff`. -/
def readFastHitHandoff (files : FastFiles) (runId : String) : Except FastError FastHitHandoff := do
  validateRunId runId
  let records ← (files.hits.zipIdx 1).mapM validateRecord
  let trace ← (construct FastHitTraceFields.validate files.trace).mapError fun _ =>
    .valueError "invalid FastHit trace"
  validateHandoff files records trace runId
  return ⟨records, trace⟩

/-- `_validate_adapter_handoff`. -/
def validateAdapterHandoff (files : FastFiles) (handoff : FastHitHandoff) : Except FastError Unit := do
  validateRunId handoff.trace.val.runId
  validateTraceArtifact ((files.csv handoff.trace.val.inputCsv).map Prod.fst)
    handoff.trace.val.inputSha256 "FastHit input CSV"
  validateTraceArtifact ((files.config handoff.trace.val.configPath).map Prod.fst)
    handoff.trace.val.configSha256 "FastHit config"
  validateEntries "FastHit handoff" "handoff records" "trace" handoff.trace.val.runId
    handoff.records handoff.trace

/-! ## The adapter -/

/-- `FastDetectionSelection`, whose validator ties the hit and the severity to the status. -/
structure FastDetectionSelection where
  detectorStatus : DetectorStatus
  selectedHitId : Option String := none
  severity : Option Severity := none
  selected : selectedHitId.isSome = decide (detectorStatus = .detected)
  graded : detectorStatus ≠ .detected → severity = none

/-- `_validate_entity_id`. -/
def validateEntityId (entityId : String) : Except FastError Unit :=
  raiseIf (isBlank entityId ∨ isPadded entityId)
    (.valueError "entity_id must be a non-blank identifier without surrounding whitespace")

/-- `_resolve_record_entity_id`. -/
def resolveRecordEntityId (entityMapper : String → Option String) (record : FastHitRecord) :
    Except FastError (Option String) :=
  match record.val.nativeHostId.bind entityMapper with
  | none => .ok none
  | some entityId => do
    validateEntityId entityId
    return some entityId

/-- `_validate_selected_entity`. -/
def validateSelectedEntity (entityMapper : String → Option String) (entityId : String)
    (record : FastHitRecord) : Except FastError Unit := do
  match ← resolveRecordEntityId entityMapper record with
  | none =>
    .error (.valueError "selected FastHitRecord native_host_id has no canonical entity_id mapping")
  | some resolved =>
    raiseIf (resolved ≠ entityId)
      (.valueError "selected FastHitRecord native_host_id does not map to entity_id")

/-- One turn of `_validate_miss_selection`. -/
def validateMissRecord (entityMapper : String → Option String) (entityId : String)
    (record : FastHitRecord) : Except FastError Unit := do
  match ← resolveRecordEntityId entityMapper record with
  | none =>
    .error (.valueError ("miss selection cannot be established because a qualifying " ++
      "FastHitRecord has no canonical entity_id mapping"))
  | some resolved =>
    raiseIf (resolved = entityId)
      (.valueError "miss selection contradicts a qualifying FastHitRecord for entity_id")

/-- The `DetectionResult` of a miss. -/
def missResult (runId entityId : String) : DetectionResult where
  runId := runId
  entityId := entityId
  detectorTime := none
  detectorStatus := .miss
  detectorId := none
  ruleId := none
  ruleVersion := none
  severity := none

/-- The `DetectionResult` of a selected hit. -/
def detectedResult (runId entityId : String) (record : FastHitRecord)
    (severity : Option Severity) : DetectionResult where
  runId := runId
  entityId := entityId
  detectorTime := some record.val.timestamp
  detectorStatus := .detected
  detectorId := some record.val.detectorEngine
  ruleId := some record.val.ruleId
  ruleVersion := some record.val.ruleVersion
  severity := some (severity.getD .unknown)
  detectorId_isSome _ := rfl

/-- `_validate_detected_result_consistency`. -/
def validateDetectedResultConsistency (result : DetectionResult) (record : FastHitRecord) :
    Except FastError Unit := do
  raiseIf (result.runId ≠ record.val.runId)
    (.valueError "DetectionResult run_id does not match the selected FastHitRecord")
  raiseIf (result.detectorTime ≠ some record.val.timestamp)
    (.valueError "DetectionResult detector_time does not match the selected FastHitRecord")
  raiseIf (result.detectorId ≠ some record.val.detectorEngine)
    (.valueError "DetectionResult detector_id does not match the selected FastHitRecord")
  raiseIf (result.ruleId ≠ some record.val.ruleId ∨ result.ruleVersion ≠ some record.val.ruleVersion)
    (.valueError "DetectionResult Rule information does not match the selected FastHitRecord")

/-- What `__post_init__` requires of the selected hit. -/
def validateSelectedHit (status : DetectorStatus) (sourceHitIds : List String)
    (selectedSourceHitId : Option String) : Except FastError Unit :=
  if status = .detected then
    match selectedSourceHitId with
    | none => .error (.valueError "detected result requires selected_source_hit_id")
    | some hitId =>
      raiseIf (hitId ∉ sourceHitIds)
        (.valueError "selected_source_hit_id must be retained in source_hit_ids")
  else
    raiseIf (selectedSourceHitId ≠ none)
      (.valueError "only detected result may include selected_source_hit_id")

/-- `FastDetectionAdapterResult(…)` with its `__post_init__`. -/
def fastDetectionAdapterResult (detectionResult : DetectionResult) (sourceHitIds : List String)
    (selectedSourceHitId : Option String) : Except FastError FastDetectionAdapterResult := do
  raiseIf (¬ sourceHitIds.Nodup) (.valueError "source_hit_ids must not contain duplicates")
  validateSelectedHit detectionResult.detectorStatus sourceHitIds selectedSourceHitId
  return ⟨detectionResult, sourceHitIds, selectedSourceHitId⟩

/-- What `adapt_fast_hit_handoff` makes of a miss. -/
def adaptMiss (handoff : FastHitHandoff) (entityId : String) (entityMapper : String → Option String) :
    Except FastError FastDetectionAdapterResult := do
  handoff.records.forM (validateMissRecord entityMapper entityId)
  fastDetectionAdapterResult (missResult handoff.trace.val.runId entityId)
    (handoff.records.map fun r => r.val.hitId) none

/-- What `adapt_fast_hit_handoff` makes of a detection. -/
def adaptDetected (handoff : FastHitHandoff) (entityId : String) (selectedHitId : Option String)
    (severity : Option Severity) (entityMapper : String → Option String) :
    Except FastError FastDetectionAdapterResult :=
  match handoff.records.find? fun r => some r.val.hitId = selectedHitId with
  | none =>
    .error (.valueError "selected_hit_id is not present in the validated FastHitRecord handoff")
  | some record => do
    validateSelectedEntity entityMapper entityId record
    let result := detectedResult handoff.trace.val.runId entityId record severity
    validateDetectedResultConsistency result record
    fastDetectionAdapterResult result (handoff.records.map fun r => r.val.hitId) selectedHitId

/-- `adapt_fast_hit_handoff`. -/
def adaptFastHitHandoff (files : FastFiles) (handoff : FastHitHandoff) (entityId : String)
    (selection : FastDetectionSelection) (entityMapper : String → Option String) :
    Except FastError FastDetectionAdapterResult := do
  validateEntityId entityId
  validateAdapterHandoff files handoff
  match selection.detectorStatus with
  | .notEvaluated =>
    .error (.valueError "not_evaluated must be created without a completed Fast Runner handoff")
  | .miss => adaptMiss handoff entityId entityMapper
  | .detected => adaptDetected handoff entityId selection.selectedHitId selection.severity entityMapper

/-! ## The selection -/

/-- The fields of `FastSelectionPolicy`. -/
structure FastSelectionPolicyFields where
  detectorSetVersion : String
  detectorConfigVersion : String
  configSha256 : String
  hostEntityMap : List (String × String)
  deriving DecidableEq, Repr

/-- The validation of `FastSelectionPolicy`. -/
def FastSelectionPolicyFields.validate (p : FastSelectionPolicyFields) : Except FastError Unit := do
  requireIdentifier p.detectorSetVersion
  requireIdentifier p.detectorConfigVersion
  requireSha256 p.configSha256
  p.hostEntityMap.forM fun item => do
    requireIdentifier item.1
    requireIdentifier item.2

/-- `FastSelectionPolicy`. -/
abbrev FastSelectionPolicy := Validated FastSelectionPolicyFields.validate

/-- `host_entity_map.get`. -/
def FastSelectionPolicy.entityOf (policy : FastSelectionPolicy) (host : String) : Option String :=
  policy.val.hostEntityMap.lookup host

/-- The order in which hits are selected. -/
def selectionKey (h : FastHitRecord) : UtcMillis ×ₗ String ×ₗ String :=
  toLex (h.val.timestamp, toLex (h.val.ruleId, h.val.hitId))

/-- The hits of an entity in the order of selection. -/
def candidatesOf (policy : FastSelectionPolicy) (records : List FastHitRecord) (entityId : String) :
    List FastHitRecord :=
  sortedBy selectionKey
    (records.filter fun h => h.val.nativeHostId.bind policy.entityOf = some entityId)

/-- The selection of the first candidate. -/
def selectionOf (candidates : List FastHitRecord) : FastDetectionSelection :=
  match candidates with
  | [] => { detectorStatus := .miss, selected := rfl, graded := fun _ => rfl }
  | selected :: _ => {
      detectorStatus := .detected
      selectedHitId := some selected.val.hitId
      selected := rfl
      graded := fun _ => rfl }

/-- The audit of a selection, as far as it is read. -/
structure SelectionAudit where
  hitsSha256 : String
  inputCsvSha256 : String
  candidateHitIds : List String
  deriving DecidableEq, Repr

/-- The config that a handoff was made with, checked against the policy. -/
def readSelectionConfig (files : FastFiles) (policy : FastSelectionPolicy) (trace : FastHitTrace) :
    Except FastError FastRunnerConfig := do
  raiseIf (trace.val.configSha256 ≠ policy.val.configSha256)
    (.valueError "handoff config hash differs from selection policy")
  match files.config trace.val.configPath with
  | none => .error (.valueError "No such file or directory")
  | some (_, fields) => do
    let config ← construct FastRunnerConfigFields.validate fields
    raiseIf (config.val.detectorConfigVersion ≠ policy.val.detectorConfigVersion)
      (.valueError "config version differs from selection policy")
    raiseIf (config.val.qualifyingRuleIds = [])
      (.valueError "empty qualifying rule set cannot establish a measured miss")
    raiseIf (∃ ruleId ∈ config.val.qualifyingRuleIds, (config.val.ruleMetadata.lookup ruleId).isNone)
      (.valueError "qualifying rule metadata is missing")
    return config

/-- The hits that the source CSV has under the config. -/
def replayHits (utcMillis : String → Except FastError UtcMillis) (files : FastFiles)
    (trace : FastHitTrace) (config : FastRunnerConfig) (runId : String) :
    Except FastError (List FastHitRecord) :=
  match files.csv trace.val.inputCsv with
  | none => .error (.valueError "No such file or directory")
  | some (_, rows) => do
    let expected ← hayabusaRowsToFastHits utcMillis rows runId config
    expected.mapM (construct FastHitFields.validate)

/-- `select_fast_hit`. -/
def selectFastHit (utcMillis : String → Except FastError UtcMillis) (files : FastFiles)
    (policy : FastSelectionPolicy) (runId entityId : String) :
    Except FastError (FastDetectionSelection × SelectionAudit) := do
  raiseIf (entityId ∉ policy.val.hostEntityMap.map Prod.snd)
    (.valueError "requested entity must be present in host_entity_map")
  let handoff ← readFastHitHandoff files runId
  let config ← readSelectionConfig files policy handoff.trace
  let expected ← replayHits utcMillis files handoff.trace config runId
  raiseIf (expected ≠ handoff.records)
    (.valueError "handoff differs from qualifying source CSV/config replay")
  raiseIf (∃ hit ∈ handoff.records, hit.val.nativeHostId.bind policy.entityOf = none)
    (.valueError "qualifying hit has no explicit entity mapping")
  let candidates := candidatesOf policy handoff.records entityId
  let selection := selectionOf candidates
  -- the adapter checks the selection; its result is built again downstream
  let _ ← adaptFastHitHandoff files handoff entityId selection policy.entityOf
  return (selection, {
    hitsSha256 := handoff.trace.val.outputSha256
    inputCsvSha256 := handoff.trace.val.inputSha256
    candidateHitIds := candidates.map fun h => h.val.hitId })

end IncidentAwareness.Detection
