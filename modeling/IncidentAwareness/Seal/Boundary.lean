import IncidentAwareness.Common.Datetime
import IncidentAwareness.Lib.Canonical
import IncidentAwareness.Persistence.Results
import IncidentAwareness.Stream.Messages
import Mathlib.Data.List.Infix

/-!
# The candidate-generation boundary

The scenario boundary that Role4 attests and its checks against the policy of the
family, the execution record and the Run. The seals of an event-time close and of a
position close share them. `str.casefold` is a parameter; the attestation's own check
that no ProcessGuid stands twice is left out.
-/

namespace IncidentAwareness.Seal

open IncidentAwareness.Common IncidentAwareness.Lib IncidentAwareness.Stream
open IncidentAwareness.Persistence (RunType)

variable {D : Type}

/-! ## Values -/

/-- An unpadded value, or the error of its check. -/
def validateUnpadded (text : String) (value : String) : Except PyError Identifier :=
  if h : value = "" ∨ isPadded value = true then .error (.valueError text)
  else .ok ⟨value, (not_or.mp h).1, by simpa using (not_or.mp h).2⟩

theorem validateUnpadded_val (text : String) (value : Identifier) :
    validateUnpadded text value.val = .ok value := by
  have h : ¬ (value.val = "" ∨ isPadded value.val = true) :=
    not_or.mpr ⟨value.nonempty, by simp [value.unpadded]⟩
  rw [validateUnpadded, dif_neg h]

theorem validateUnpadded_eq_ok {text value : String} {i : Identifier} :
    validateUnpadded text value = .ok i ↔ i.val = value := by
  constructor
  · intro h
    unfold validateUnpadded at h
    split at h
    · cases h
    · rw [← Except.ok.inj h]
  · rintro rfl
    exact validateUnpadded_val text i

/-- A UTC datetime of millisecond precision, or the error that names its field. -/
def requireUtcMilliseconds (zoneText field : String) : PyDatetime → Except PyError UtcMillis
  | .naive => .error (.valueError (field ++ zoneText))
  | .aware instant utcoffset => do
    raiseIf (utcoffset ≠ 0) (.valueError (field ++ " must be UTC"))
    raiseIf (instant % 1000 ≠ 0) (.valueError (field ++ " must use millisecond precision"))
    return instant / 1000

/-- The datetime of a millisecond. -/
def PyDatetime.utcMillis (t : UtcMillis) : PyDatetime := .aware (t * 1000) 0

theorem PyDatetime.utcMillis_inj {s t : UtcMillis}
    (h : PyDatetime.utcMillis s = PyDatetime.utcMillis t) : s = t :=
  Int.eq_of_mul_eq_mul_right (by decide) (PyDatetime.aware.inj h).1

theorem requireUtcMilliseconds_eq_ok {zoneText field : String} {value : PyDatetime} {t : UtcMillis} :
    requireUtcMilliseconds zoneText field value = .ok t ↔ value = PyDatetime.utcMillis t := by
  constructor
  · intro h
    cases value with
    | naive => cases h
    | aware instant utcoffset =>
      simp only [requireUtcMilliseconds, raiseIf_bind_eq_ok, Except.pure_eq_ok, not_not] at h
      obtain ⟨rfl, hprecision, rfl⟩ := h
      rw [PyDatetime.utcMillis, Int.ediv_mul_cancel (Int.dvd_of_emod_eq_zero hprecision)]
  · rintro rfl
    simp [requireUtcMilliseconds, PyDatetime.utcMillis, raiseIf, pure, Except.pure]

/-- `_validate_utc_milliseconds` of the seals. -/
def validateUtcMilliseconds (field : String) (value : PyDatetime) : Except PyError UtcMillis :=
  requireUtcMilliseconds " must include a timezone" field value

/-! ## Family ids -/

/-- `LABEL_WORDS`. -/
def labelWords : List String := ["normal", "attack", "benign", "malicious", "정상", "공격", "악성"]

/-- `str.lower` of a character, as far as the label words can tell: the characters whose
lower case has an ASCII letter. -/
def lowerChar (c : Char) : List Char :=
  if 'A' ≤ c ∧ c ≤ 'Z' then [Char.ofNat (c.toNat + 32)]
  else if c = '\u212A' then ['k']
  else if c = '\u0130' then ['i', '\u0307']
  else [c]

/-- `exposed_label_word`. -/
def exposedLabelWord (value : String) : Option String :=
  labelWords.find? fun word => word.toList <:+: value.toList.flatMap lowerChar

/-- A family id that `validate_family_id` accepted. -/
structure FamilyId where
  val : Identifier
  unexposed : exposedLabelWord val.val = none

instance : DecidableEq FamilyId := fun a b =>
  decidable_of_iff (a.val = b.val) (by cases a; cases b; simp)

/-- `validate_family_id`. -/
def validateFamilyId (value : String) : Except PyError FamilyId := do
  raiseIf (isBlank value) (.valueErrorQuoting "family_id must be a non-empty string, found " value "")
  if h : value = "" ∨ isPadded value = true then
    .error (.valueErrorQuoting "family_id must not have surrounding whitespace: " value "")
  else match hword : exposedLabelWord value with
    | some word => .error (.valueErrorQuoting "family_id would expose the run type: " value
        (" contains '" ++ word ++ "'"))
    | none => .ok ⟨⟨value, (not_or.mp h).1, by simpa using (not_or.mp h).2⟩, hword⟩

theorem validateFamilyId_val (f : FamilyId) : validateFamilyId f.val.val = .ok f := by
  have hblank : ¬ isBlank f.val.val = true := by simp [f.val.not_isBlank]
  have h : ¬ (f.val.val = "" ∨ isPadded f.val.val = true) :=
    not_or.mpr ⟨f.val.nonempty, by simp [f.val.unpadded]⟩
  rw [validateFamilyId, raiseIf_of_not hblank, Except.ok_bind', dif_neg h]
  split
  · next word hword => simp [f.unexposed] at hword
  · rfl

theorem validateFamilyId_eq_ok {value : String} {f : FamilyId} :
    validateFamilyId value = .ok f ↔ f.val.val = value := by
  constructor
  · intro h
    obtain ⟨-, h₁⟩ := raiseIf_bind_eq_ok.mp h
    split at h₁
    · cases h₁
    · split at h₁
      · cases h₁
      · rw [← Except.ok.inj h₁]
  · rintro rfl
    exact validateFamilyId_val f

/-! ## Policies -/

/-- `_BoundaryActionConfig`. -/
structure BoundaryActionConfig where
  actionId : Identifier
  step : Identifier
  actionType : Identifier
  deriving DecidableEq

/-- `_OwnedProcessConfig`. -/
structure OwnedProcessConfig where
  role : Identifier
  image : Identifier
  deriving DecidableEq

/-- `R1CandidateGenerationPolicy`. -/
structure R1CandidateGenerationPolicy (D : Type) where
  canonicalPath : String
  configHash : D
  policyId : Identifier
  version : Identifier
  familyId : FamilyId
  normalBoundary : BoundaryActionConfig
  attackBoundary : BoundaryActionConfig
  normalOwnedProcesses : List OwnedProcessConfig
  attackOwnedProcesses : List OwnedProcessConfig
  acceptedTerminalStates : List String
  protectedNonOwnedProcessNames : List String
  normalRoles_nodup : (normalOwnedProcesses.map (·.role)).Nodup
  attackRoles_nodup : (attackOwnedProcesses.map (·.role)).Nodup

namespace R1CandidateGenerationPolicy

/-- The boundary of a run type. -/
def boundary (policy : R1CandidateGenerationPolicy D) : RunType → BoundaryActionConfig
  | .attack => policy.attackBoundary
  | .normal => policy.normalBoundary

/-- The owned processes of a run type. -/
def ownedProcesses (policy : R1CandidateGenerationPolicy D) : RunType → List OwnedProcessConfig
  | .attack => policy.attackOwnedProcesses
  | .normal => policy.normalOwnedProcesses

end R1CandidateGenerationPolicy

/-- `R1CandidatePolicyIdentity`. -/
structure R1CandidatePolicyIdentity (D : Type) where
  policyId : Identifier
  version : Identifier
  configHash : D
  configPath : Identifier
  deriving DecidableEq

/-- `_policy_identity`. -/
def policyIdentity (policy : R1CandidateGenerationPolicy D) : Identifier × Identifier × D × String :=
  (policy.policyId, policy.version, policy.configHash, policy.canonicalPath)

/-- The same values of a policy identity. -/
def R1CandidatePolicyIdentity.values (p : R1CandidatePolicyIdentity D) :
    Identifier × Identifier × D × String :=
  (p.policyId, p.version, p.configHash, p.configPath.val)

theorem R1CandidatePolicyIdentity.values_inj {p q : R1CandidatePolicyIdentity D}
    (h : p.values = q.values) : p = q := by
  cases p
  cases q
  simp only [values, Prod.mk.injEq] at h
  obtain ⟨rfl, rfl, rfl, hpath⟩ := h
  rw [Identifier.ext hpath]

/-- The identity of a policy. -/
def R1CandidateGenerationPolicy.identity (policy : R1CandidateGenerationPolicy D) :
    Except PyError (R1CandidatePolicyIdentity D) := do
  let configPath ← validateUnpadded
    "candidate policy provenance must be non-blank without surrounding whitespace"
    policy.canonicalPath
  return ⟨policy.policyId, policy.version, policy.configHash, configPath⟩

theorem identity_values {policy : R1CandidateGenerationPolicy D} {p : R1CandidatePolicyIdentity D}
    (h : policy.identity = .ok p) : p.values = policyIdentity policy := by
  obtain ⟨configPath, hpath, h₁⟩ := Except.bind_eq_ok.mp h
  rw [Except.pure_eq_ok.mp h₁, R1CandidatePolicyIdentity.values, policyIdentity,
    validateUnpadded_eq_ok.mp hpath]

/-! ## The boundary of a Run -/

/-- `R1ScenarioAction`. -/
structure R1ScenarioAction where
  actionId : Identifier
  step : Identifier
  actionType : Identifier
  offsetSec : Nat
  deriving DecidableEq

/-- `R1OwnedProcessTermination`. -/
structure R1OwnedProcessTermination where
  role : Identifier
  image : Identifier
  processGuid : Identifier
  terminalState : Identifier
  deriving DecidableEq

/-- `R1CandidateBoundaryAttestation`. -/
structure R1CandidateBoundaryAttestation where
  actionId : Identifier
  step : Identifier
  actionType : Identifier
  completedAt : UtcMillis
  ownedProcesses : List R1OwnedProcessTermination
  ownedProcesses_ne_nil : ownedProcesses ≠ []
  roles_nodup : (ownedProcesses.map (·.role)).Nodup

instance : DecidableEq R1CandidateBoundaryAttestation := fun a b =>
  decidable_of_iff (a.actionId = b.actionId ∧ a.step = b.step ∧ a.actionType = b.actionType ∧
      a.completedAt = b.completedAt ∧ a.ownedProcesses = b.ownedProcesses)
    (by cases a; cases b; simp)

/-- `completion_source`. -/
inductive CompletionSource where
  | wmiRunEndCompletedUtc | remoteSessionCloseCompletedAt
  deriving DecidableEq

/-- `R1CandidateBoundaryCompletion`. -/
structure R1CandidateBoundaryCompletion where
  runId : Identifier
  actionId : Identifier
  step : Identifier
  actionType : Identifier
  actionStartedAt : UtcMillis
  completedAt : UtcMillis
  completionSource : CompletionSource
  started_le_completed : actionStartedAt ≤ completedAt

/-- `ExecutionRecordRow`, with its timestamp in microseconds. -/
structure ExecutionRecordRow where
  runId : String
  actionId : String
  timestamp : Int
  actionType : String

/-- `RunMetadata`, with its family. -/
structure RunMetadata extends Persistence.RunMetadata where
  familyId : Option String

/-! ## Checks -/

/-- `_validate_scenario_boundary`, with the action at the boundary. -/
def validateScenarioBoundary (actions : List R1ScenarioAction) (expected : BoundaryActionConfig) :
    Except PyError R1ScenarioAction :=
  match actions.getLast? with
  | none => .error (.valueError "scenario actions must not be empty")
  | some last => do
    raiseIf (¬ (actions.map (·.actionId)).Nodup) (.valueError "scenario action IDs must be unique")
    raiseIf (actions.map (·.offsetSec) ≠ sortedBy id (actions.map (·.offsetSec)))
      (.valueError "scenario actions must be ordered by non-decreasing offset")
    raiseIf ((last.actionId, last.step, last.actionType) ≠
        (expected.actionId, expected.step, expected.actionType))
      (.valueError "candidate-generation boundary must be the final scenario action")
    return last

section Checks

variable (casefold : String → String)

/-- `_image_basename`. -/
def imageBasename (value : String) : String :=
  casefold (String.ofList
    (value.toList.reverse.takeWhile fun c => c ≠ '/' ∧ c ≠ '\\').reverse)

/-- Equality of two dicts, by their items. -/
def sameItems (xs ys : List (Identifier × String)) : Bool :=
  xs.all (· ∈ ys) && ys.all (· ∈ xs)

/-- `_validate_boundary_attestation`. -/
def validateBoundaryAttestation (boundary : R1CandidateBoundaryAttestation)
    (expected : BoundaryActionConfig) (expectedProcesses : List OwnedProcessConfig)
    (policy : R1CandidateGenerationPolicy D) : Except PyError Unit := do
  raiseIf ((boundary.actionId, boundary.step, boundary.actionType) ≠
      (expected.actionId, expected.step, expected.actionType))
    (.valueError "boundary attestation does not match family policy")
  raiseIf (∃ p ∈ boundary.ownedProcesses, imageBasename casefold p.image.val ∈
      policy.protectedNonOwnedProcessNames.map casefold)
    (.valueError "protected non-owned process must not be claimed or terminated by the Run")
  raiseIf (sameItems
      (boundary.ownedProcesses.map fun p => (p.role, imageBasename casefold p.image.val))
      (expectedProcesses.map fun p => (p.role, imageBasename casefold p.image.val)) = false)
    (.valueError "boundary attestation does not match the expected run-owned processes")
  raiseIf (∃ p ∈ boundary.ownedProcesses, p.terminalState.val ∉ policy.acceptedTerminalStates)
    (.valueError "run-owned process is not in an accepted terminal state")

end Checks

/-- `_validate_boundary_within_run`. -/
def validateBoundaryWithinRun (boundary : R1CandidateBoundaryAttestation)
    (runMetadata : RunMetadata) : Except PyError Unit := do
  raiseIf (boundary.completedAt * 1000 < runMetadata.startTime)
    (.valueError "candidate-generation boundary precedes RunMetadata.start_time")
  raiseIf (∃ endTime ∈ runMetadata.endTime, endTime < boundary.completedAt * 1000)
    (.valueError "candidate-generation boundary exceeds RunMetadata.end_time")

/-- The completion source of a family. -/
def completionSourceOf (familyId : Option String) : CompletionSource :=
  if familyId = some "wmi_management" then .wmiRunEndCompletedUtc else .remoteSessionCloseCompletedAt

/-- `_validate_boundary_action_completion`. -/
def validateBoundaryActionCompletion (boundary : R1CandidateBoundaryAttestation)
    (scenarioBoundary : R1ScenarioAction) (actionRecord : ExecutionRecordRow)
    (completion : R1CandidateBoundaryCompletion) (runMetadata : RunMetadata) :
    Except PyError Unit := do
  raiseIf (actionRecord.runId ≠ runMetadata.runId)
    (.valueError "boundary action record run_id does not match RunMetadata")
  raiseIf ((actionRecord.actionId, actionRecord.actionType) ≠
      (scenarioBoundary.actionId.val, scenarioBoundary.actionType.val))
    (.valueError "boundary action record does not match the final scenario action")
  raiseIf (completion.runId.val ≠ runMetadata.runId)
    (.valueError "boundary completion run_id does not match RunMetadata")
  raiseIf ((completion.actionId, completion.step, completion.actionType) ≠
      (scenarioBoundary.actionId, scenarioBoundary.step, scenarioBoundary.actionType))
    (.valueError "boundary completion does not match the final scenario action")
  raiseIf (completion.completionSource ≠ completionSourceOf runMetadata.familyId)
    (.valueError "boundary completion source does not match the scenario family")
  raiseIf (actionRecord.timestamp ≠ completion.actionStartedAt * 1000)
    (.valueError "boundary action record does not match the actual action start")
  raiseIf (boundary.completedAt ≠ completion.completedAt)
    (.valueError "boundary completed_at does not match the actual completion proof")
  let plannedNotBefore ← addTimedelta runMetadata.startTime (scenarioBoundary.offsetSec * 1000000)
  raiseIf (actionRecord.timestamp < plannedNotBefore)
    (.valueError "candidate-generation boundary action precedes its planned action offset")

end IncidentAwareness.Seal
