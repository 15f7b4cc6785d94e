import IncidentAwareness.Common.Python
import IncidentAwareness.Lib.Canonical
import IncidentAwareness.Lib.Raise
import IncidentAwareness.Lib.Table
import Mathlib.Data.String.Basic

/-!
# Runtime statuses

`PipelineRuntimeStatus` with its validators, the `PipelineRuntimeTracker` that
produces one snapshot for each call, and the table that keeps the latest status
of a run and an entity. A status that ended stays (`save_of_ended`).
-/

namespace IncidentAwareness.Archive

open IncidentAwareness.Common IncidentAwareness.Lib

/-- `PipelineRuntimeState`. -/
inductive PipelineRuntimeState where
  | running | completed | failed
  deriving DecidableEq, Repr

/-- `PipelineStage`. -/
inductive PipelineStage where
  | artifactValidation | normalization | fusion | fastHandoff | hybrid | persistence
  deriving DecidableEq, Repr

/-- The fields of `PipelineRuntimeStatus`. -/
structure RuntimeStatusFields where
  executionId : String
  runId : String
  entityId : String
  status : PipelineRuntimeState
  currentStage : Option PipelineStage
  inputTotal : Nat
  normalizationProcessedCount : Nat
  startedAt : UtcMillis
  stageStartedAt : Option UtcMillis
  updatedAt : UtcMillis
  completedAt : Option UtcMillis := none
  failedStage : Option PipelineStage := none
  deriving DecidableEq, Repr

/-- `Field(min_length=1)` and `validate_identifier`. -/
def validateIdentifier (fieldName value : String) : Except PyError Unit := do
  raiseIf (value = "") (.valueError "String should have at least 1 character")
  raiseIf (isBlank value) (.valueError (fieldName ++ " must not be blank"))
  raiseIf (isPadded value) (.valueError (fieldName ++ " must not contain surrounding whitespace"))

namespace RuntimeStatusFields

/-- The part of `validate_runtime_contract` for a running status. -/
def validateRunning (s : RuntimeStatusFields) : Except PyError Unit := do
  raiseIf (s.currentStage = none)
    (.valueError "running PipelineRuntimeStatus requires current_stage")
  raiseIf (s.stageStartedAt = none)
    (.valueError "running PipelineRuntimeStatus requires stage_started_at")
  raiseIf (s.completedAt ≠ none)
    (.valueError "running PipelineRuntimeStatus must not include completed_at")
  raiseIf (s.failedStage ≠ none)
    (.valueError "running PipelineRuntimeStatus must not include failed_stage")
  raiseIf (∃ t ∈ s.stageStartedAt, t < s.startedAt)
    (.valueError "stage_started_at must not be earlier than started_at")
  raiseIf (∃ t ∈ s.stageStartedAt, s.updatedAt < t)
    (.valueError "updated_at must not be earlier than stage_started_at")

/-- The part of `validate_runtime_contract` for a completed status. -/
def validateCompleted (s : RuntimeStatusFields) : Except PyError Unit := do
  raiseIf (s.currentStage ≠ none)
    (.valueError "completed PipelineRuntimeStatus must not include current_stage")
  raiseIf (s.stageStartedAt ≠ none)
    (.valueError "completed PipelineRuntimeStatus must not include stage_started_at")
  raiseIf (s.completedAt = none)
    (.valueError "completed PipelineRuntimeStatus requires completed_at")
  raiseIf (s.failedStage ≠ none)
    (.valueError "completed PipelineRuntimeStatus must not include failed_stage")
  raiseIf (s.normalizationProcessedCount ≠ s.inputTotal)
    (.valueError ("completed PipelineRuntimeStatus requires normalization_processed_count to " ++
      "equal input_total"))
  raiseIf (∃ t ∈ s.completedAt, t < s.startedAt)
    (.valueError "completed_at must not be earlier than started_at")
  raiseIf (∃ t ∈ s.completedAt, s.updatedAt < t)
    (.valueError "updated_at must not be earlier than completed_at")

/-- The part of `validate_runtime_contract` for a failed status. -/
def validateFailed (s : RuntimeStatusFields) : Except PyError Unit := do
  raiseIf (s.currentStage ≠ none)
    (.valueError "failed PipelineRuntimeStatus must not include current_stage")
  raiseIf (s.stageStartedAt ≠ none)
    (.valueError "failed PipelineRuntimeStatus must not include stage_started_at")
  raiseIf (s.completedAt ≠ none)
    (.valueError "failed PipelineRuntimeStatus must not include completed_at")
  raiseIf (s.failedStage = none)
    (.valueError "failed PipelineRuntimeStatus requires failed_stage")

/-- `validate_runtime_contract`. -/
def validateRuntimeContract (s : RuntimeStatusFields) : Except PyError Unit := do
  raiseIf (s.inputTotal < s.normalizationProcessedCount)
    (.valueError "normalization_processed_count must not exceed input_total")
  raiseIf (s.updatedAt < s.startedAt)
    (.valueError "updated_at must not be earlier than started_at")
  match s.status with
  | .running => s.validateRunning
  | .completed => s.validateCompleted
  | .failed => s.validateFailed

/-- The validation of `PipelineRuntimeStatus`. -/
def validate (s : RuntimeStatusFields) : Except PyError Unit := do
  validateIdentifier "execution_id" s.executionId
  validateIdentifier "run_id" s.runId
  validateIdentifier "entity_id" s.entityId
  raiseIf (s.inputTotal < 1) (.valueError "Input should be greater than or equal to 1")
  s.validateRuntimeContract

/-- The fields of `_complete_runtime_status`. -/
def complete (s : RuntimeStatusFields) (completedAt : UtcMillis) : RuntimeStatusFields :=
  { s with
    status := .completed
    currentStage := none
    normalizationProcessedCount := s.inputTotal
    stageStartedAt := none
    updatedAt := completedAt
    completedAt := some completedAt
    failedStage := none }

/-- A valid status can be completed at any time from its last update on. -/
theorem validate_complete {s : RuntimeStatusFields} (h : s.validate = .ok ()) {t : UtcMillis}
    (ht : s.updatedAt ≤ t) : (s.complete t).validate = .ok () := by
  simp only [validate, validateRuntimeContract, Except.unit_bind_eq_ok, raiseIf_eq_ok] at h ⊢
  obtain ⟨hexecution, hrun, hentity, hinput, -, hstarted, -⟩ := h
  have hle : s.startedAt ≤ t := (not_lt.mp hstarted).trans ht
  refine ⟨hexecution, hrun, hentity, hinput, lt_irrefl _, not_lt.mpr hle, ?_⟩
  show (s.complete t).validateCompleted = .ok ()
  simp only [validateCompleted, Except.unit_bind_eq_ok, raiseIf_eq_ok]
  refine ⟨fun h => h rfl, fun h => h rfl, Option.some_ne_none t, fun h => h rfl, fun h => h rfl,
    ?_, ?_⟩
  · rintro ⟨t', ht', hlt⟩
    obtain rfl : t = t' := Option.some.inj ht'
    exact not_lt.mpr hle hlt
  · rintro ⟨t', ht', hlt⟩
    obtain rfl : t = t' := Option.some.inj ht'
    exact lt_irrefl _ hlt

end RuntimeStatusFields

/-- `PipelineRuntimeStatus`. -/
abbrev PipelineRuntimeStatus := Validated RuntimeStatusFields.validate

/-- The run and the entity of a status. -/
def PipelineRuntimeStatus.scope (s : PipelineRuntimeStatus) : String × String :=
  (s.val.runId, s.val.entityId)

/-! ## The tracker -/

/-- `PipelineRuntimeTracker`. -/
structure RuntimeTracker where
  executionId : String
  runId : String
  entityId : String
  inputTotal : Nat
  startedAt : UtcMillis
  normalizationProcessedCount : Nat := 0
  currentStage : Option PipelineStage := none
  stageStartedAt : Option UtcMillis := none
  disabled : Bool := false
  deriving DecidableEq, Repr

/-- A call of the tracker, with its clock reading. -/
inductive TrackerCall where
  | startStage (stage : PipelineStage) (now : UtcMillis)
  | recordNormalizationProgress (processedCount : Nat) (now : UtcMillis)
  | complete (now : UtcMillis)
  | fail (stage : PipelineStage) (now : UtcMillis)
  deriving DecidableEq, Repr

namespace RuntimeTracker

/-- The tracker without a stage. -/
def ended (t : RuntimeTracker) : RuntimeTracker :=
  { t with currentStage := none, stageStartedAt := none }

/-- The tracker that a call leaves. -/
def moved (t : RuntimeTracker) : TrackerCall → RuntimeTracker
  | .startStage stage now => { t with currentStage := some stage, stageStartedAt := some now }
  | .recordNormalizationProgress processedCount _ =>
    { t with normalizationProcessedCount := processedCount }
  | .complete _ => { t.ended with normalizationProcessedCount := t.inputTotal }
  | .fail _ _ => t.ended

/-- `_build_status` of a moved tracker. -/
def fields (t : RuntimeTracker) (status : PipelineRuntimeState) (updatedAt : UtcMillis)
    (completedAt : Option UtcMillis := none) (failedStage : Option PipelineStage := none) :
    RuntimeStatusFields where
  executionId := t.executionId
  runId := t.runId
  entityId := t.entityId
  status := status
  currentStage := t.currentStage
  inputTotal := t.inputTotal
  normalizationProcessedCount := t.normalizationProcessedCount
  startedAt := t.startedAt
  stageStartedAt := t.stageStartedAt
  updatedAt := updatedAt
  completedAt := completedAt
  failedStage := failedStage

/-- The snapshot that a call builds. -/
def snapshot (t : RuntimeTracker) : TrackerCall → RuntimeStatusFields
  | .startStage stage now => (t.moved (.startStage stage now)).fields .running now
  | .recordNormalizationProgress count now =>
    (t.moved (.recordNormalizationProgress count now)).fields .running now
  | .complete now => (t.moved (.complete now)).fields .completed now (some now)
  | .fail stage now => t.ended.fields .failed now none (some stage)

/-- What a call requires of the tracker. -/
def require (t : RuntimeTracker) : TrackerCall → Except PyError Unit
  | .recordNormalizationProgress _ _ =>
    raiseIf (t.currentStage ≠ some .normalization)
      (.valueError "normalization progress requires the normalization stage")
  | _ => .ok ()

/-- One call (`_run_best_effort`): the tracker after it and the snapshot to publish.
A call that raises disables the tracker. -/
def apply (t : RuntimeTracker) (trackerCall : TrackerCall) :
    RuntimeTracker × Option PipelineRuntimeStatus :=
  if t.disabled then (t, none)
  else match t.require trackerCall with
    | .error _ => ({ t with disabled := true }, none)
    | .ok () => match construct RuntimeStatusFields.validate (t.snapshot trackerCall) with
      | .error _ => ({ t.moved trackerCall with disabled := true }, none)
      | .ok status => (t.moved trackerCall, some status)

end RuntimeTracker

/-! ## The table -/

/-- `pipeline_runtime_status`. -/
abbrev RuntimeTable := Table (SameKey PipelineRuntimeStatus.scope)

/-- The `WHERE` of the upsert: whether a status replaces the row of its scope. -/
def PipelineRuntimeStatus.Replaces (new row : PipelineRuntimeStatus) : Prop :=
  (row.val.executionId = new.val.executionId ∧ row.val.startedAt = new.val.startedAt ∧
      row.val.updatedAt ≤ new.val.updatedAt ∧
      (row.val.status = .running ∨ row.val.status = new.val.status)) ∨
    (row.val.executionId ≠ new.val.executionId ∧ row.val.startedAt < new.val.startedAt)

instance (new row : PipelineRuntimeStatus) : Decidable (new.Replaces row) := by
  unfold PipelineRuntimeStatus.Replaces; infer_instance

namespace RuntimeTable

/-- `save`: the table after it, and whether the status won. -/
def save (t : RuntimeTable) (status : PipelineRuntimeStatus) : RuntimeTable × Bool :=
  match t.get status.scope with
  | none => (t.upsert status, true)
  | some row => if status.Replaces row then (t.upsert status, true) else (t, false)

/-- `list_for_run`. -/
def listForRun (t : RuntimeTable) (runId : String) : List PipelineRuntimeStatus :=
  sortedBy (fun s => s.val.entityId) (t.rows.filter fun s => s.val.runId = runId)

/-- No status of the run is a failed one. -/
def NoFailed (t : RuntimeTable) (runId : String) : Prop :=
  ∀ s ∈ t, s.val.runId = runId → s.val.status ≠ .failed

end RuntimeTable

end IncidentAwareness.Archive
