import IncidentAwareness.Position.Close
import IncidentAwareness.Seal.CloseProof

/-!
# The seal of a position close

`issue_r1_position_candidate_generation_seal` over an accepted position close, its
binding check, the projection of a seal that Role2 may see, and Role4's record of the
projection's digest.
-/

namespace IncidentAwareness.Seal

open IncidentAwareness.Common IncidentAwareness.Lib IncidentAwareness.Stream
open IncidentAwareness.Persistence (RunType)
open IncidentAwareness.Position

variable {D : Type}

/-! ## Records -/

/-- `R1PositionCandidateGenerationSeal`. -/
structure R1PositionCandidateGenerationSeal (D : Type) where
  sealId : Identifier
  runId : RunId
  familyId : FamilyId
  runType : RunType
  inputPositionCloseId : Identifier
  inputPositionCloseContentSha256 : D
  positionCloseReceipt : R1AcceptedRecordPositionCloseReceipt D
  sealedPartition : R1StreamPartition
  positionFrontier : R1RecordPositionFrontier D
  coveredThroughChunkSequence : Nat
  coveredChunksSha256 : D
  sourceReconciliationSha256 : D
  requiredPartitionContractSha256 : D
  candidatePolicy : R1CandidatePolicyIdentity D
  boundary : R1CandidateBoundaryAttestation
  emittedAt : UtcMillis
  covered_pos : 1 ≤ coveredThroughChunkSequence
  partition_runId : sealedPartition.runId = runId
  receipt_binds : (positionCloseReceipt.runId, positionCloseReceipt.closeId,
    positionCloseReceipt.partition) = (runId, inputPositionCloseId, sealedPartition)
  receipt_content : positionCloseReceipt.closeContentSha256 = inputPositionCloseContentSha256
  completed_le_emitted : boundary.completedAt ≤ emittedAt
  accepted_le_emitted : positionCloseReceipt.acceptedAt ≤ emittedAt

/-- `R1VerifiedPositionCandidateBoundary`. -/
structure R1VerifiedPositionCandidateBoundary where
  runId : String
  sealId : Identifier
  inputPositionCloseId : Identifier
  candidateBoundaryAt : UtcMillis
  verifiedSealAt : UtcMillis
  deriving DecidableEq

/-- `role2_safe_position_seal_projection_payload`. -/
structure PositionSealProjection (D : Type) where
  sourceSealId : Identifier
  runId : RunId
  hostId : Identifier
  familyId : FamilyId
  candidatePolicy : R1CandidatePolicyIdentity D
  inputPositionCloseId : Identifier
  inputPositionCloseContentSha256 : D
  positionCloseReceiptSha256 : D
  sealedPartition : R1StreamPartition
  positionFrontier : R1RecordPositionFrontier D
  coveredThroughChunkSequence : Nat
  coveredChunksSha256 : D
  sourceReconciliationSha256 : D
  requiredPartitionContractSha256 : D
  candidateBoundaryAt : UtcMillis
  verifiedSealAt : UtcMillis

/-- What the content digest of a projection record covers. -/
structure PositionSealProjectionContent (D : Type) where
  sealId : Identifier
  runId : String
  hostId : Identifier
  sealContentSha256 : D
  projectionSha256 : D
  recordedAt : UtcMillis

/-- `R1PositionSealProjectionRecord`. Its digest is checked by `buildProjectionRecord`. -/
structure R1PositionSealProjectionRecord (D : Type) extends PositionSealProjectionContent D where
  recordContentSha256 : D

/-- What the content digest of a position-close proof covers. -/
structure PositionCloseProofContent (D : Type) where
  proofId : Identifier
  runId : RunId
  hostId : Identifier
  familyId : FamilyId
  candidatePolicy : R1CandidatePolicyIdentity D
  sourceSealId : Identifier
  sourceSealProjectionSha256 : D
  sourceSealProjectionRecordSha256 : D
  inputPositionCloseId : Identifier
  acceptedPositionCloseContentSha256 : D
  positionCloseReceipt : R1AcceptedRecordPositionCloseReceipt D
  sealedPartition : R1StreamPartition
  positionFrontier : R1RecordPositionFrontier D
  coveredThroughChunkSequence : Nat
  coveredChunksSha256 : D
  postCommitAckCount : Nat
  sourceReconciliationSha256 : D
  requiredPartitionContractSha256 : D
  candidateBoundaryAt : UtcMillis
  verifiedSealAt : UtcMillis
  proofCreatedAt : UtcMillis

/-- The payloads that are hashed. -/
inductive PositionSealPayload (D : Type) where
  | position (payload : PositionPayload D)
  | receipt (receipt : R1AcceptedRecordPositionCloseReceipt D)
  | positionSeal (source : R1PositionCandidateGenerationSeal D)
  | sealProjection (projection : PositionSealProjection D)
  | projectionContent (content : PositionSealProjectionContent D)
  | projectionRecord (record : R1PositionSealProjectionRecord D)
  | closeProof (content : PositionCloseProofContent D)

/-! ## The seal -/

/-- The boundary of a seal that the binding check returns. -/
def positionBoundaryOf (source : R1PositionCandidateGenerationSeal D) :
    R1VerifiedPositionCandidateBoundary where
  runId := source.runId.val
  sealId := source.sealId
  inputPositionCloseId := source.inputPositionCloseId
  candidateBoundaryAt := source.boundary.completedAt
  verifiedSealAt := source.emittedAt

section Seal

variable [DecidableEq D] (casefold : String → String) (sha256 : PositionSealPayload D → D)

omit [DecidableEq D] in
/-- `record_position_close_sha256`. -/
def positionCloseSha256 (close : R1RecordPositionClose D) : D :=
  recordPositionCloseSha256 (fun p => sha256 (.position p)) close

/-- `require_receipt_binds_close`. -/
def requirePositionReceipt (receipt : R1AcceptedRecordPositionCloseReceipt D)
    (close : R1RecordPositionClose D) : Except PyError Unit :=
  requireReceiptBindsClose (fun p => sha256 (.position p)) receipt close

/-- `validate_r1_position_candidate_generation_seal_binding`. -/
def validatePositionSealBinding (source : R1PositionCandidateGenerationSeal D)
    (runMetadata : RunMetadata) (positionClose : R1RecordPositionClose D)
    (positionCloseReceipt : R1AcceptedRecordPositionCloseReceipt D)
    (scenarioActions : List R1ScenarioAction) (boundaryActionRecord : ExecutionRecordRow)
    (boundaryCompletion : R1CandidateBoundaryCompletion) (policy : R1CandidateGenerationPolicy D) :
    Except PyError R1VerifiedPositionCandidateBoundary := do
  requirePositionReceipt sha256 positionCloseReceipt positionClose
  raiseIf (runMetadata.runId ≠ positionClose.runId.val ∨ source.runId ≠ positionClose.runId)
    (.valueError "RunMetadata, seal and position close must share one run_id")
  raiseIf (runMetadata.targetHost ≠ positionClose.partition.hostId.val)
    (.valueError "RunMetadata target_host does not match the position close host")
  raiseIf (runMetadata.familyId ≠ some policy.familyId.val.val ∨ source.familyId ≠ policy.familyId)
    (.valueError "RunMetadata and seal family_id must match the candidate policy")
  raiseIf (source.runType ≠ runMetadata.runType)
    (.valueError "seal run_type does not match RunMetadata")
  raiseIf ((source.inputPositionCloseId, source.inputPositionCloseContentSha256,
      source.positionCloseReceipt) ≠
      (positionClose.closeId, positionCloseSha256 sha256 positionClose, positionCloseReceipt))
    (.valueError "seal does not bind the accepted position close and its receipt")
  raiseIf ((source.sealedPartition, source.positionFrontier, source.coveredThroughChunkSequence,
      source.coveredChunksSha256, source.sourceReconciliationSha256,
      source.requiredPartitionContractSha256) ≠
      (positionClose.partition, positionClose.positionFrontier,
        positionClose.coveredThroughChunkSequence, positionClose.coveredChunksSha256,
        positionClose.sourceSnapshot.reconciliationSha256,
        positionClose.requiredPartitionContract.contentSha256))
    (.valueError "seal position frontier references do not exactly match the close")
  raiseIf (source.candidatePolicy.values ≠ policyIdentity policy)
    (.valueError "seal candidate policy identity does not match registered policy")
  let last ← validateScenarioBoundary scenarioActions (policy.boundary source.runType)
  validateBoundaryAttestation casefold source.boundary (policy.boundary source.runType)
    (policy.ownedProcesses source.runType) policy
  validateBoundaryActionCompletion source.boundary last boundaryActionRecord boundaryCompletion
    runMetadata
  validateBoundaryWithinRun source.boundary runMetadata
  raiseIf (source.boundary.completedAt ≠ positionClose.candidateBoundaryAt)
    (.valueError "seal boundary does not match the freeze request candidate boundary")
  raiseIf (source.emittedAt < positionCloseReceipt.acceptedAt)
    (.valueError "seal emitted_at must not precede the Role3 ledger acceptance")
  return positionBoundaryOf source

/-- `R1PositionCandidateGenerationSeal.model_validate` of what the issuer states. -/
def buildPositionSeal (sealId : String) (runMetadata : RunMetadata)
    (positionClose : R1RecordPositionClose D)
    (positionCloseReceipt : R1AcceptedRecordPositionCloseReceipt D)
    (boundary : R1CandidateBoundaryAttestation) (policy : R1CandidateGenerationPolicy D)
    (emittedAt : PyDatetime) : Except PyError (R1PositionCandidateGenerationSeal D) := do
  let sealId ← validateUnpadded
    "position seal identity must be non-blank without surrounding whitespace" sealId
  let runId ← validateRunId runMetadata.runId
  let candidatePolicy ← policy.identity
  let emitted ← validateUtcMilliseconds "datetime" emittedAt
  if h₁ : positionClose.partition.runId ≠ runId then
    .error (.valueError "sealed_partition must belong to the seal run_id")
  else if h₂ : (positionCloseReceipt.runId, positionCloseReceipt.closeId,
      positionCloseReceipt.partition) ≠ (runId, positionClose.closeId, positionClose.partition) then
    .error (.valueError "position seal receipt does not match the sealed close")
  else if h₃ : positionCloseReceipt.closeContentSha256 ≠ positionCloseSha256 sha256 positionClose then
    .error (.valueError "position seal receipt does not bind the sealed close content")
  else if h₄ : emitted < boundary.completedAt then
    .error (.valueError "seal emitted_at must not precede boundary completion")
  else if h₅ : emitted < positionCloseReceipt.acceptedAt then
    .error (.valueError "a position seal must not precede the Role3 ledger acceptance")
  else return {
    sealId
    runId
    familyId := policy.familyId
    runType := runMetadata.runType
    inputPositionCloseId := positionClose.closeId
    inputPositionCloseContentSha256 := positionCloseSha256 sha256 positionClose
    positionCloseReceipt
    sealedPartition := positionClose.partition
    positionFrontier := positionClose.positionFrontier
    coveredThroughChunkSequence := positionClose.coveredThroughChunkSequence
    coveredChunksSha256 := positionClose.coveredChunksSha256
    sourceReconciliationSha256 := positionClose.sourceSnapshot.reconciliationSha256
    requiredPartitionContractSha256 := positionClose.requiredPartitionContract.contentSha256
    candidatePolicy
    boundary
    emittedAt := emitted
    covered_pos := positionClose.covered_pos
    partition_runId := not_not.mp h₁
    receipt_binds := not_not.mp h₂
    receipt_content := not_not.mp h₃
    completed_le_emitted := not_lt.mp h₄
    accepted_le_emitted := not_lt.mp h₅ }

/-- `issue_r1_position_candidate_generation_seal`. -/
def issuePositionSeal (sealId : String) (runMetadata : RunMetadata)
    (positionClose : R1RecordPositionClose D)
    (positionCloseReceipt : R1AcceptedRecordPositionCloseReceipt D)
    (scenarioActions : List R1ScenarioAction) (boundary : R1CandidateBoundaryAttestation)
    (boundaryActionRecord : ExecutionRecordRow)
    (boundaryCompletion : R1CandidateBoundaryCompletion) (policy : R1CandidateGenerationPolicy D)
    (emittedAt : PyDatetime) : Except PyError (R1PositionCandidateGenerationSeal D) := do
  requirePositionReceipt sha256 positionCloseReceipt positionClose
  let source ← (buildPositionSeal sha256 sealId runMetadata positionClose positionCloseReceipt boundary
    policy emittedAt).mapError fun _ =>
      .valueError "position candidate-generation seal bindings are invalid"
  let _ ← validatePositionSealBinding casefold sha256 source runMetadata positionClose
    positionCloseReceipt scenarioActions boundaryActionRecord boundaryCompletion policy
  return source

end Seal

/-! ## The projection -/

section Projection

variable (sha256 : PositionSealPayload D → D)

/-- `position_candidate_generation_seal_sha256`. -/
def positionSealSha256 (source : R1PositionCandidateGenerationSeal D) : D :=
  sha256 (.positionSeal source)

/-- `record_position_close_receipt_sha256`. -/
def positionReceiptSha256 (receipt : R1AcceptedRecordPositionCloseReceipt D) : D :=
  sha256 (.receipt receipt)

/-- `position_seal_projection_record_sha256`. -/
def projectionRecordSha256 (record : R1PositionSealProjectionRecord D) : D :=
  sha256 (.projectionRecord record)

/-- The projection of a seal for a host. -/
def positionSealProjection (source : R1PositionCandidateGenerationSeal D) (hostId : Identifier) :
    PositionSealProjection D where
  sourceSealId := source.sealId
  runId := source.runId
  hostId := hostId
  familyId := source.familyId
  candidatePolicy := source.candidatePolicy
  inputPositionCloseId := source.inputPositionCloseId
  inputPositionCloseContentSha256 := source.inputPositionCloseContentSha256
  positionCloseReceiptSha256 := positionReceiptSha256 sha256 source.positionCloseReceipt
  sealedPartition := source.sealedPartition
  positionFrontier := source.positionFrontier
  coveredThroughChunkSequence := source.coveredThroughChunkSequence
  coveredChunksSha256 := source.coveredChunksSha256
  sourceReconciliationSha256 := source.sourceReconciliationSha256
  requiredPartitionContractSha256 := source.requiredPartitionContractSha256
  candidateBoundaryAt := source.boundary.completedAt
  verifiedSealAt := source.emittedAt

/-- `role2_safe_position_seal_projection_sha256`. -/
def role2SafePositionSealProjectionSha256 (source : R1PositionCandidateGenerationSeal D)
    (hostId : String) : Except PyError D := do
  let validatedHostId ← validateUnpadded
    "host_id must be non-blank without surrounding whitespace" hostId
  raiseIf (validatedHostId ≠ source.sealedPartition.hostId)
    (.valueError "host_id is not the sealed partition host")
  return sha256 (.sealProjection (positionSealProjection sha256 source validatedHostId))

variable [DecidableEq D]

/-- `R1PositionSealProjectionRecord.model_validate`. -/
def buildProjectionRecord (content : PositionSealProjectionContent D) (recordContentSha256 : D) :
    Except PyError (R1PositionSealProjectionRecord D) := do
  raiseIf (recordContentSha256 ≠ sha256 (.projectionContent content))
    (.valueError "record_content_sha256 does not match the projection record")
  return ⟨content, recordContentSha256⟩

/-- `issue_r1_position_seal_projection_record`. -/
def issueProjectionRecord (source : R1PositionCandidateGenerationSeal D)
    (verifiedBoundary : R1VerifiedPositionCandidateBoundary) (hostId : String)
    (recordedAt : PyDatetime) : Except PyError (R1PositionSealProjectionRecord D) := do
  raiseIf (verifiedBoundary ≠ positionBoundaryOf source)
    (.valueError "verified boundary does not exactly match the position seal")
  let recorded ← validateUtcMilliseconds "recorded_at" recordedAt
  raiseIf (recorded < source.emittedAt)
    (.valueError "a projection record must not precede its seal")
  let projectionSha256 ← role2SafePositionSealProjectionSha256 sha256 source hostId
  let hostId ← validateUnpadded
    "projection record identity must be non-blank without surrounding whitespace" hostId
  let content : PositionSealProjectionContent D :=
    { sealId := source.sealId
      runId := source.runId.val
      hostId
      sealContentSha256 := positionSealSha256 sha256 source
      projectionSha256
      recordedAt := recorded }
  buildProjectionRecord sha256 content (sha256 (.projectionContent content))

end Projection

end IncidentAwareness.Seal
