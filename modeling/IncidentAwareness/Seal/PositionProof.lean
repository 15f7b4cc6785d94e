import IncidentAwareness.Seal.PositionSeal

/-!
# The Role2 proof of a position close

The proof that Role4 issues from a verified seal, the accepted close with its receipt and
the record of the seal's projection digest, and its validation by Role2.
-/

namespace IncidentAwareness.Seal

open IncidentAwareness.Common IncidentAwareness.Lib IncidentAwareness.Stream
open IncidentAwareness.Position

variable {D : Type}

/-- `R1Role2VerifiedPositionCloseProof`. Its content digest is checked by
`requirePositionProofContentHash`. -/
structure R1Role2VerifiedPositionCloseProof (D : Type) extends PositionCloseProofContent D where
  proofContentSha256 : D
  covered_pos : 1 ≤ coveredThroughChunkSequence
  partition_runId : sealedPartition.runId = runId
  partition_hostId : sealedPartition.hostId = hostId
  receipt_binds : (positionCloseReceipt.runId, positionCloseReceipt.closeId,
    positionCloseReceipt.partition) = (runId, inputPositionCloseId, sealedPartition)
  receipt_content : positionCloseReceipt.closeContentSha256 = acceptedPositionCloseContentSha256
  ackCount_eq_covered : postCommitAckCount = coveredThroughChunkSequence
  accepted_le_verified : positionCloseReceipt.acceptedAt ≤ verifiedSealAt
  boundary_le_verified : candidateBoundaryAt ≤ verifiedSealAt
  verified_le_created : verifiedSealAt ≤ proofCreatedAt

section Proof

variable (sha256 : PositionSealPayload D → D)

/-- The projection that a proof states. -/
def positionProofProjection (proof : R1Role2VerifiedPositionCloseProof D) :
    PositionSealProjection D where
  sourceSealId := proof.sourceSealId
  runId := proof.runId
  hostId := proof.hostId
  familyId := proof.familyId
  candidatePolicy := proof.candidatePolicy
  inputPositionCloseId := proof.inputPositionCloseId
  inputPositionCloseContentSha256 := proof.acceptedPositionCloseContentSha256
  positionCloseReceiptSha256 := positionReceiptSha256 sha256 proof.positionCloseReceipt
  sealedPartition := proof.sealedPartition
  positionFrontier := proof.positionFrontier
  coveredThroughChunkSequence := proof.coveredThroughChunkSequence
  coveredChunksSha256 := proof.coveredChunksSha256
  sourceReconciliationSha256 := proof.sourceReconciliationSha256
  requiredPartitionContractSha256 := proof.requiredPartitionContractSha256
  candidateBoundaryAt := proof.candidateBoundaryAt
  verifiedSealAt := proof.verifiedSealAt

/-- `_proof_projection_sha256`. -/
def positionProofProjectionSha256 (proof : R1Role2VerifiedPositionCloseProof D) : D :=
  sha256 (.sealProjection (positionProofProjection sha256 proof))

variable [DecidableEq D]

/-- `_require_proof_content_hash`. -/
def requirePositionProofContentHash (content : PositionCloseProofContent D)
    (proofContentSha256 : D) : Except PyError Unit :=
  raiseIf (proofContentSha256 ≠ sha256 (.closeProof content))
    (.valueError "proof_content_sha256 does not match canonical proof content")

/-- `R1Role2VerifiedPositionCloseProof.model_validate`. -/
def buildPositionProof (content : PositionCloseProofContent D) (proofContentSha256 : D) :
    Except PyError (R1Role2VerifiedPositionCloseProof D) :=
  if h₀ : content.coveredThroughChunkSequence < 1 then
    .error (.valueError
      "covered_through_chunk_sequence: Input should be greater than or equal to 1")
  else if h₁ : content.sealedPartition.runId ≠ content.runId then
    .error (.valueError "sealed_partition must belong to the proof run_id")
  else if h₂ : content.sealedPartition.hostId ≠ content.hostId then
    .error (.valueError "proof host_id must be the sealed partition host")
  else if h₃ : (content.positionCloseReceipt.runId, content.positionCloseReceipt.closeId,
      content.positionCloseReceipt.partition) ≠
      (content.runId, content.inputPositionCloseId, content.sealedPartition) then
    .error (.valueError "proof receipt does not match the sealed position close")
  else if h₄ : content.positionCloseReceipt.closeContentSha256 ≠
      content.acceptedPositionCloseContentSha256 then
    .error (.valueError "proof receipt does not bind the accepted close content")
  else if h₅ : content.postCommitAckCount ≠ content.coveredThroughChunkSequence then
    .error (.valueError "every covered chunk must have exactly one post-commit ack")
  else if h₆ : content.verifiedSealAt < content.positionCloseReceipt.acceptedAt then
    .error (.valueError "verified_seal_at must not precede the Role3 ledger acceptance")
  else if h₇ : content.verifiedSealAt < content.candidateBoundaryAt then
    .error (.valueError "verified_seal_at must not precede the candidate boundary")
  else if h₈ : content.proofCreatedAt < content.verifiedSealAt then
    .error (.valueError "proof_created_at must not precede verified_seal_at")
  else do
    requirePositionProofContentHash sha256 content proofContentSha256
    return {
      content with
      proofContentSha256
      covered_pos := not_lt.mp h₀
      partition_runId := not_not.mp h₁
      partition_hostId := not_not.mp h₂
      receipt_binds := not_not.mp h₃
      receipt_content := not_not.mp h₄
      ackCount_eq_covered := not_not.mp h₅
      accepted_le_verified := not_lt.mp h₆
      boundary_le_verified := not_lt.mp h₇
      verified_le_created := not_lt.mp h₈ }

/-- `_validate_source_binding`. -/
def validatePositionSourceBinding (verifiedBoundary : R1VerifiedPositionCandidateBoundary)
    (source : R1PositionCandidateGenerationSeal D) (close : R1RecordPositionClose D)
    (receipt : R1AcceptedRecordPositionCloseReceipt D) (policy : R1CandidateGenerationPolicy D)
    (hostId : Identifier) : Except PyError Unit := do
  requirePositionReceipt sha256 receipt close
  raiseIf (verifiedBoundary ≠ positionBoundaryOf source)
    (.valueError "verified boundary does not exactly match the source seal")
  raiseIf ((source.inputPositionCloseId, source.inputPositionCloseContentSha256,
      source.positionCloseReceipt, source.sealedPartition, source.positionFrontier,
      source.coveredChunksSha256, source.sourceReconciliationSha256) ≠
      (close.closeId, positionCloseSha256 sha256 close, receipt, close.partition,
        close.positionFrontier, close.coveredChunksSha256,
        close.sourceSnapshot.reconciliationSha256))
    (.valueError "source seal does not bind the accepted position close and receipt")
  raiseIf (source.familyId ≠ policy.familyId)
    (.valueError "source seal family_id does not match candidate policy")
  raiseIf (source.candidatePolicy.values ≠ policyIdentity policy)
    (.valueError "source seal candidate policy does not match registered policy")
  raiseIf (source.sealedPartition.hostId ≠ hostId)
    (.valueError "host_id is not the sealed partition host")
  raiseIf (verifiedBoundary.candidateBoundaryAt ≠ close.candidateBoundaryAt)
    (.valueError "verified boundary does not match the freeze request boundary")

/-- `_validate_trusted_projection_record`. -/
def validateTrustedProjectionRecord (record : R1PositionSealProjectionRecord D)
    (source : R1PositionCandidateGenerationSeal D) (hostId : Identifier) : Except PyError Unit := do
  raiseIf ((record.sealId, record.runId, record.hostId) ≠ (source.sealId, source.runId.val, hostId))
    (.valueError "trusted projection record is bound to another seal, run or host")
  raiseIf (record.sealContentSha256 ≠ positionSealSha256 sha256 source)
    (.valueError "trusted projection record was not made from this source seal")
  let projectionSha256 ← role2SafePositionSealProjectionSha256 sha256 source hostId.val
  raiseIf (record.projectionSha256 ≠ projectionSha256)
    (.valueError "trusted projection digest does not match the source seal projection")
  raiseIf (record.recordedAt < source.emittedAt)
    (.valueError "trusted projection record precedes its source seal")

/-- `issue_r1_role2_verified_position_close_proof`. -/
def issuePositionProof (proofId hostId : String)
    (verifiedBoundary : R1VerifiedPositionCandidateBoundary)
    (source : R1PositionCandidateGenerationSeal D) (close : R1RecordPositionClose D)
    (receipt : R1AcceptedRecordPositionCloseReceipt D) (trusted : R1PositionSealProjectionRecord D)
    (policy : R1CandidateGenerationPolicy D) (proofCreatedAt : PyDatetime) :
    Except PyError (R1Role2VerifiedPositionCloseProof D) := do
  let validatedHostId ← validateUnpadded "host_id must be non-blank and unpadded" hostId
  validatePositionSourceBinding sha256 verifiedBoundary source close receipt policy validatedHostId
  validateTrustedProjectionRecord sha256 trusted source validatedHostId
  let createdAt ← validateUtcMilliseconds "proof_created_at" proofCreatedAt
  let bindings : Except PyError (R1Role2VerifiedPositionCloseProof D) := do
    let proofId ← validateUnpadded
      "position close proof identity must be non-blank and unpadded" proofId
    let content : PositionCloseProofContent D :=
      { proofId
        runId := source.runId
        hostId := validatedHostId
        familyId := source.familyId
        candidatePolicy := source.candidatePolicy
        sourceSealId := source.sealId
        sourceSealProjectionSha256 := trusted.projectionSha256
        sourceSealProjectionRecordSha256 := projectionRecordSha256 sha256 trusted
        inputPositionCloseId := close.closeId
        acceptedPositionCloseContentSha256 := positionCloseSha256 sha256 close
        positionCloseReceipt := receipt
        sealedPartition := close.partition
        positionFrontier := close.positionFrontier
        coveredThroughChunkSequence := close.coveredThroughChunkSequence
        coveredChunksSha256 := close.coveredChunksSha256
        postCommitAckCount := close.postCommitAckCount
        sourceReconciliationSha256 := close.sourceSnapshot.reconciliationSha256
        requiredPartitionContractSha256 := close.requiredPartitionContract.contentSha256
        candidateBoundaryAt := verifiedBoundary.candidateBoundaryAt
        verifiedSealAt := verifiedBoundary.verifiedSealAt
        proofCreatedAt := createdAt }
    buildPositionProof sha256 content (sha256 (.closeProof content))
  bindings.mapError fun _ => .valueError "position close proof bindings are invalid"

/-- `R1Role2VerifiedPositionCloseProofValidation`. -/
structure R1Role2VerifiedPositionCloseProofValidation (D : Type) where
  proof : R1Role2VerifiedPositionCloseProof D
  proofValidatedAt : UtcMillis

/-- What Role2 expects of a proof, beside the close, its receipt and the policy. -/
structure PositionProofExpectation (D : Type) where
  runId : String
  familyId : String
  selectorPartition : R1StreamPartition
  requiredPartitionContractSha256 : D
  acceptedSourceSealId : String
  acceptedSourceSealProjectionSha256 : D
  acceptedSourceSealProjectionRecordSha256 : D

/-- `validate_r1_role2_verified_position_close_proof`. -/
def validatePositionProof (proof : R1Role2VerifiedPositionCloseProof D)
    (close : R1RecordPositionClose D) (receipt : R1AcceptedRecordPositionCloseReceipt D)
    (policy : R1CandidateGenerationPolicy D) (expected : PositionProofExpectation D)
    (proofValidatedAt : PyDatetime) :
    Except PyError (R1Role2VerifiedPositionCloseProofValidation D) := do
  requirePositionReceipt sha256 receipt close
  requirePositionProofContentHash sha256 proof.toPositionCloseProofContent proof.proofContentSha256
  let runId ← validateRunId expected.runId
  let familyId ← validateFamilyId expected.familyId
  let sealId ← validateUnpadded "accepted_source_seal_id must be non-blank and unpadded"
    expected.acceptedSourceSealId
  let validatedAt ← validateUtcMilliseconds "proof_validated_at" proofValidatedAt
  raiseIf (proof.runId ≠ runId ∨ close.runId ≠ runId)
    (.valueError "proof and accepted position close must match expected_run_id")
  raiseIf (expected.selectorPartition ≠ close.partition)
    (.valueError "expected selector partition is not the closed partition")
  raiseIf (proof.sealedPartition ≠ expected.selectorPartition)
    (.valueError "proof sealed_partition does not match the expected selector partition")
  raiseIf (proof.hostId ≠ expected.selectorPartition.hostId)
    (.valueError "proof host_id does not match the expected selector partition")
  raiseIf (proof.familyId ≠ familyId ∨ policy.familyId ≠ familyId)
    (.valueError "proof and candidate policy must match expected_family_id")
  raiseIf (proof.candidatePolicy.values ≠ policyIdentity policy)
    (.valueError "proof candidate policy identity does not match registered policy")
  raiseIf (proof.sourceSealId ≠ sealId)
    (.valueError "proof source_seal_id does not match the accepted source seal")
  raiseIf (proof.sourceSealProjectionSha256 ≠ expected.acceptedSourceSealProjectionSha256)
    (.valueError "proof projection digest does not match the trusted projection digest")
  raiseIf (proof.sourceSealProjectionRecordSha256 ≠
      expected.acceptedSourceSealProjectionRecordSha256)
    (.valueError
      "proof projection record digest does not match the trusted projection record digest")
  raiseIf (positionProofProjectionSha256 sha256 proof ≠ expected.acceptedSourceSealProjectionSha256)
    (.valueError "proof fields do not match the trusted source seal projection digest")
  raiseIf (proof.inputPositionCloseId ≠ close.closeId)
    (.valueError "proof input_position_close_id does not match the accepted close")
  raiseIf (proof.acceptedPositionCloseContentSha256 ≠ positionCloseSha256 sha256 close)
    (.valueError "proof close content hash does not match the accepted close")
  raiseIf (proof.positionCloseReceipt ≠ receipt)
    (.valueError "proof receipt does not match the Role3 ledger receipt")
  raiseIf ((proof.positionFrontier, proof.coveredThroughChunkSequence, proof.coveredChunksSha256,
      proof.postCommitAckCount) ≠
      (close.positionFrontier, close.coveredThroughChunkSequence, close.coveredChunksSha256,
        close.postCommitAckCount))
    (.valueError "proof RecordId frontier or covered chunks do not match the close")
  raiseIf (proof.sourceReconciliationSha256 ≠ close.sourceSnapshot.reconciliationSha256)
    (.valueError "proof source reconciliation hash does not match the accepted close")
  raiseIf (¬ (proof.requiredPartitionContractSha256 =
        close.requiredPartitionContract.contentSha256 ∧
      close.requiredPartitionContract.contentSha256 = expected.requiredPartitionContractSha256))
    (.valueError "proof required-partition contract does not match the expected contract")
  raiseIf (proof.candidateBoundaryAt ≠ close.candidateBoundaryAt)
    (.valueError "proof candidate boundary does not match the freeze request boundary")
  raiseIf (validatedAt < proof.proofCreatedAt)
    (.valueError "proof_validated_at must not precede proof_created_at")
  return ⟨proof, validatedAt⟩

end Proof

end IncidentAwareness.Seal
