import IncidentAwareness.Seal.Boundary
import IncidentAwareness.Stream.Ledger

/-!
# The seal and the Role2 proof of an event-time close

`issue_r1_candidate_generation_seal` and its binding check, the projection of a seal
that Role2 may see, and the proof that is issued over a verified boundary and validated
by Role2. A SHA-256 text is a `D`; the literal fields (`schema`, `contract_version`,
`message_type`) are left out. Canonical JSON is hashed as the record that it renders.
-/

namespace IncidentAwareness.Seal

open IncidentAwareness.Common IncidentAwareness.Lib IncidentAwareness.Stream
open IncidentAwareness.Persistence (RunType)

variable {D : Type}

/-! ## Records -/

/-- `R1CandidateGenerationSeal`. -/
structure R1CandidateGenerationSeal (D : Type) where
  sealId : Identifier
  runId : RunId
  familyId : FamilyId
  runType : RunType
  inputCloseId : Identifier
  sealedPartitions : List R1FinalPartitionWatermark
  candidatePolicy : R1CandidatePolicyIdentity D
  boundary : R1CandidateBoundaryAttestation
  emittedAt : UtcMillis
  sealedPartitions_ne_nil : sealedPartitions ≠ []
  partitions_nodup : (sealedPartitions.map (·.partition)).Nodup
  partitions_scope : ∀ w ∈ sealedPartitions, w.partition.runId = runId
  completed_le_emitted : boundary.completedAt ≤ emittedAt

/-- `R1VerifiedCandidateBoundary`. -/
structure R1VerifiedCandidateBoundary where
  runId : String
  sealId : Identifier
  inputCloseId : Identifier
  candidateBoundaryAt : UtcMillis
  verifiedSealAt : UtcMillis
  deriving DecidableEq

/-- `_source_seal_projection_payload`. -/
structure SourceSealProjection (D : Type) where
  sourceSealId : Identifier
  runId : RunId
  hostId : Identifier
  familyId : FamilyId
  candidatePolicy : R1CandidatePolicyIdentity D
  inputCloseId : Identifier
  candidateBoundaryAt : UtcMillis
  sealedPartitions : List R1FinalPartitionWatermark
  verifiedSealAt : UtcMillis
  deriving DecidableEq

/-- What the content digest of a proof covers. -/
structure CloseProofContent (D : Type) where
  proofId : Identifier
  runId : RunId
  hostId : Identifier
  familyId : FamilyId
  candidatePolicy : R1CandidatePolicyIdentity D
  sourceSealId : Identifier
  sourceSealProjectionSha256 : D
  inputCloseId : Identifier
  acceptedRunClosedContentSha256 : D
  inputCloseEmittedAt : UtcMillis
  candidateBoundaryAt : UtcMillis
  sealedPartitions : List R1FinalPartitionWatermark
  verifiedSealAt : UtcMillis
  proofCreatedAt : UtcMillis
  deriving DecidableEq

/-- `R1Role2VerifiedCloseProof`. Its content digest is checked by `requireProofContentHash`. -/
structure R1Role2VerifiedCloseProof (D : Type) extends CloseProofContent D where
  proofContentSha256 : D
  sealedPartitions_ne_nil : sealedPartitions ≠ []
  partitions_nodup : (sealedPartitions.map (·.partition)).Nodup
  partitions_scope : ∀ w ∈ sealedPartitions, w.partition.runId = runId
  host_present : ∃ w ∈ sealedPartitions, w.partition.hostId = hostId
  watermarks_cover : ∀ w ∈ sealedPartitions, candidateBoundaryAt ≤ w.watermarkAt
  emitted_le_verified : inputCloseEmittedAt ≤ verifiedSealAt
  verified_le_created : verifiedSealAt ≤ proofCreatedAt

/-- The payloads that are hashed. -/
inductive ClosePayload (D : Type) where
  | runClosed (close : R1RunClosed)
  | sourceSealProjection (projection : SourceSealProjection D)
  | closeProof (content : CloseProofContent D)

/-! ## The seal -/

/-- The boundary of a seal that the binding check returns. -/
def boundaryOf (source : R1CandidateGenerationSeal D) : R1VerifiedCandidateBoundary where
  runId := source.runId.val
  sealId := source.sealId
  inputCloseId := source.inputCloseId
  candidateBoundaryAt := source.boundary.completedAt
  verifiedSealAt := source.emittedAt

section Seal

variable [DecidableEq D] (casefold : String → String)

/-- `_validate_run_binding`. -/
def validateRunBinding (runMetadata : RunMetadata) (runClosed : R1RunClosed)
    (policy : R1CandidateGenerationPolicy D) : Except PyError Unit := do
  raiseIf (runMetadata.runId ≠ runClosed.runId.val)
    (.valueError "RunMetadata run_id does not match run_closed")
  raiseIf (runMetadata.familyId ≠ some policy.familyId.val.val)
    (.valueError "RunMetadata family_id does not match candidate-generation policy")

/-- `validate_r1_candidate_generation_seal_binding`. -/
def validateSealBinding (source : R1CandidateGenerationSeal D) (runMetadata : RunMetadata)
    (runClosed : R1RunClosed) (scenarioActions : List R1ScenarioAction)
    (boundaryActionRecord : ExecutionRecordRow)
    (boundaryCompletion : R1CandidateBoundaryCompletion) (policy : R1CandidateGenerationPolicy D) :
    Except PyError R1VerifiedCandidateBoundary := do
  validateRunBinding runMetadata runClosed policy
  raiseIf (source.runId ≠ runClosed.runId) (.valueError "seal run_id does not match run_closed")
  raiseIf (source.runType ≠ runMetadata.runType)
    (.valueError "seal run_type does not match RunMetadata")
  raiseIf (source.inputCloseId ≠ runClosed.closeId)
    (.valueError "seal input_close_id does not match run_closed")
  raiseIf (source.sealedPartitions ≠ runClosed.finalWatermarks)
    (.valueError "seal final watermark references do not exactly match run_closed")
  raiseIf (∃ w ∈ source.sealedPartitions, w.watermarkAt < source.boundary.completedAt)
    (.valueError "every final watermark must cover the candidate-generation boundary")
  raiseIf (source.candidatePolicy.values ≠ policyIdentity policy)
    (.valueError "seal candidate policy identity does not match registered policy")
  raiseIf (source.familyId ≠ policy.familyId)
    (.valueError "seal family_id does not match candidate-generation policy")
  let last ← validateScenarioBoundary scenarioActions (policy.boundary source.runType)
  validateBoundaryAttestation casefold source.boundary (policy.boundary source.runType)
    (policy.ownedProcesses source.runType) policy
  validateBoundaryActionCompletion source.boundary last boundaryActionRecord boundaryCompletion
    runMetadata
  validateBoundaryWithinRun source.boundary runMetadata
  raiseIf (source.emittedAt < runClosed.emittedAt)
    (.valueError "seal emitted_at must not precede run_closed")
  return boundaryOf source

/-- `R1CandidateGenerationSeal(...)`, over an accepted close of its Run. -/
def buildSeal (sealId : String) (runType : RunType) (runClosed : R1RunClosed)
    (candidatePolicy : R1CandidatePolicyIdentity D) (boundary : R1CandidateBoundaryAttestation)
    (policy : R1CandidateGenerationPolicy D) (emitted : UtcMillis) :
    Except PyError (R1CandidateGenerationSeal D) := do
  let sealId ← validateUnpadded
    "candidate-generation seal identity must be non-blank without surrounding whitespace" sealId
  if h : boundary.completedAt ≤ emitted then
    return {
      sealId
      runId := runClosed.runId
      familyId := policy.familyId
      runType
      inputCloseId := runClosed.closeId
      sealedPartitions := runClosed.finalWatermarks
      candidatePolicy
      boundary
      emittedAt := emitted
      sealedPartitions_ne_nil := runClosed.finalWatermarks_ne_nil
      partitions_nodup := runClosed.partitions_nodup
      partitions_scope := runClosed.partitions_scope
      completed_le_emitted := h }
  else .error (.valueError "seal emitted_at must not precede boundary completion")

/-- `issue_r1_candidate_generation_seal`. -/
def issueSeal (sealId : String) (runMetadata : RunMetadata) (runClosed : R1RunClosed)
    (scenarioActions : List R1ScenarioAction) (boundary : R1CandidateBoundaryAttestation)
    (boundaryActionRecord : ExecutionRecordRow)
    (boundaryCompletion : R1CandidateBoundaryCompletion) (policy : R1CandidateGenerationPolicy D)
    (emittedAt : PyDatetime) : Except PyError (R1CandidateGenerationSeal D) := do
  validateRunBinding runMetadata runClosed policy
  let last ← validateScenarioBoundary scenarioActions (policy.boundary runMetadata.runType)
  validateBoundaryAttestation casefold boundary (policy.boundary runMetadata.runType)
    (policy.ownedProcesses runMetadata.runType) policy
  validateBoundaryActionCompletion boundary last boundaryActionRecord boundaryCompletion runMetadata
  let emitted ← validateUtcMilliseconds "seal emitted_at" emittedAt
  raiseIf (emitted < runClosed.emittedAt)
    (.valueError "seal cannot be emitted before the accepted run_closed")
  let candidatePolicy ← policy.identity
  let source ← buildSeal sealId runMetadata.runType runClosed candidatePolicy boundary policy emitted
  let _ ← validateSealBinding casefold source runMetadata runClosed scenarioActions
    boundaryActionRecord boundaryCompletion policy
  return source

end Seal

/-! ## Digests -/

section Digests

variable (sha256 : ClosePayload D → D)

/-- `r1_run_closed_sha256`. -/
def r1RunClosedSha256 (runClosed : R1RunClosed) : D := sha256 (.runClosed runClosed)

/-- The projection of a seal for a host. -/
def sealProjection (source : R1CandidateGenerationSeal D) (hostId : Identifier) :
    SourceSealProjection D where
  sourceSealId := source.sealId
  runId := source.runId
  hostId := hostId
  familyId := source.familyId
  candidatePolicy := source.candidatePolicy
  inputCloseId := source.inputCloseId
  candidateBoundaryAt := source.boundary.completedAt
  sealedPartitions := source.sealedPartitions
  verifiedSealAt := source.emittedAt

/-- `role2_safe_source_seal_projection_sha256`. -/
def role2SafeSourceSealProjectionSha256 (source : R1CandidateGenerationSeal D) (hostId : String) :
    Except PyError D := do
  let validatedHostId ← validateUnpadded "host_id must be non-blank and unpadded" hostId
  raiseIf (¬ ∃ w ∈ source.sealedPartitions, w.partition.hostId = validatedHostId)
    (.valueError "host_id is absent from source seal partitions")
  return sha256 (.sourceSealProjection (sealProjection source validatedHostId))

/-- The projection that a proof states. -/
def proofProjection (proof : R1Role2VerifiedCloseProof D) : SourceSealProjection D where
  sourceSealId := proof.sourceSealId
  runId := proof.runId
  hostId := proof.hostId
  familyId := proof.familyId
  candidatePolicy := proof.candidatePolicy
  inputCloseId := proof.inputCloseId
  candidateBoundaryAt := proof.candidateBoundaryAt
  sealedPartitions := proof.sealedPartitions
  verifiedSealAt := proof.verifiedSealAt

/-- `_proof_source_seal_projection_sha256`. -/
def proofSourceSealProjectionSha256 (proof : R1Role2VerifiedCloseProof D) : D :=
  sha256 (.sourceSealProjection (proofProjection proof))

variable [DecidableEq D]

/-- `_require_proof_content_hash`. -/
def requireProofContentHash (content : CloseProofContent D) (proofContentSha256 : D) :
    Except PyError Unit :=
  raiseIf (proofContentSha256 ≠ sha256 (.closeProof content))
    (.valueError "proof_content_sha256 does not match canonical proof content")

/-- `R1Role2VerifiedCloseProof.model_validate`. -/
def buildProof (content : CloseProofContent D) (proofContentSha256 : D) :
    Except PyError (R1Role2VerifiedCloseProof D) :=
  if h₀ : content.sealedPartitions = [] then
    .error (.valueError "sealed_partitions: Tuple should have at least 1 item after validation")
  else if h₁ : ¬ (content.sealedPartitions.map (·.partition)).Nodup then
    .error (.valueError "sealed_partitions must not contain duplicate partitions")
  else if h₂ : ∃ w ∈ content.sealedPartitions, w.partition.runId ≠ content.runId then
    .error (.valueError "every sealed partition run_id must match proof run_id")
  else if h₃ : ¬ ∃ w ∈ content.sealedPartitions, w.partition.hostId = content.hostId then
    .error (.valueError "proof host_id must be present in sealed_partitions")
  else if h₄ : ∃ w ∈ content.sealedPartitions, w.watermarkAt < content.candidateBoundaryAt then
    .error (.valueError "every final watermark must cover the candidate boundary")
  else if h₅ : content.verifiedSealAt < content.inputCloseEmittedAt then
    .error (.valueError "verified_seal_at must not precede input_close_emitted_at")
  else if h₆ : content.proofCreatedAt < content.verifiedSealAt then
    .error (.valueError "proof_created_at must not precede verified_seal_at")
  else do
    requireProofContentHash sha256 content proofContentSha256
    return {
      content with
      proofContentSha256
      sealedPartitions_ne_nil := h₀
      partitions_nodup := not_not.mp h₁
      partitions_scope := fun w hw => not_not.mp fun hne => h₂ ⟨w, hw, hne⟩
      host_present := not_not.mp h₃
      watermarks_cover := fun w hw => not_lt.mp fun hlt => h₄ ⟨w, hw, hlt⟩
      emitted_le_verified := not_lt.mp h₅
      verified_le_created := not_lt.mp h₆ }

end Digests

/-! ## The proof -/

section Proof

variable [DecidableEq D] (sha256 : ClosePayload D → D)

/-- `_validate_utc_milliseconds` of the proof. -/
def validateProofUtcMilliseconds (field : String) (value : PyDatetime) : Except PyError UtcMillis :=
  requireUtcMilliseconds " must include timezone information" field value

/-- `RUN-YYYYMMDD-NNN`, with any eight digits. -/
def hasRunIdForm (value : String) : Bool :=
  let cs := value.toList
  cs.take 4 = ['R', 'U', 'N', '-'] && ((cs.drop 4).take 8).all Char.isDigit &&
    (cs.drop 12).take 1 = ['-'] && (cs.drop 13).length = 3 && (cs.drop 13).all Char.isDigit

/-- `RunMetadata.validate_run_id` after `validate_required_identifier`. -/
def validateRunId (value : String) : Except PyError RunId := do
  raiseIf (isPadded value) (.valueError "식별자에는 앞뒤 공백을 포함할 수 없습니다.")
  raiseIf (hasRunIdForm value = false)
    (.valueError "run_id는 RUN-YYYYMMDD-NNN의 형태를 가져야합니다.")
  if h : isRunId value = true then .ok ⟨value, h⟩
  else .error (.valueError "run_id는 유효한 날짜이어야 합니다.")

/-- `_validate_accepted_close_receipt`. -/
def validateAcceptedCloseReceipt (receipt : R1AcceptedRunCloseReceipt D)
    (acceptedRunClosed : R1RunClosed) : Except PyError Unit := do
  raiseIf (receipt.runId ≠ acceptedRunClosed.runId)
    (.valueError "accepted close receipt run_id does not match accepted run_closed")
  raiseIf (receipt.closeId ≠ acceptedRunClosed.closeId)
    (.valueError "accepted close receipt close_id does not match accepted run_closed")
  raiseIf (receipt.contentSha256 ≠ r1RunClosedSha256 sha256 acceptedRunClosed)
    (.valueError "accepted close receipt content hash does not match accepted run_closed")

/-- `_validate_source_binding`. -/
def validateSourceBinding (verifiedBoundary : R1VerifiedCandidateBoundary)
    (source : R1CandidateGenerationSeal D) (acceptedRunClosed : R1RunClosed)
    (policy : R1CandidateGenerationPolicy D) (hostId : Identifier) : Except PyError Unit := do
  raiseIf (verifiedBoundary ≠ boundaryOf source)
    (.valueError "verified boundary does not exactly match source seal")
  raiseIf (source.runId ≠ acceptedRunClosed.runId)
    (.valueError "source seal run_id does not match accepted run_closed")
  raiseIf (source.inputCloseId ≠ acceptedRunClosed.closeId)
    (.valueError "source seal input_close_id does not match accepted run_closed")
  raiseIf (source.sealedPartitions ≠ acceptedRunClosed.finalWatermarks)
    (.valueError "source seal partitions do not exactly match accepted run_closed")
  raiseIf (source.familyId ≠ policy.familyId)
    (.valueError "source seal family_id does not match candidate policy")
  raiseIf (source.candidatePolicy.values ≠ policyIdentity policy)
    (.valueError "source seal candidate policy does not match registered policy")
  raiseIf (¬ ∃ w ∈ source.sealedPartitions, w.partition.hostId = hostId)
    (.valueError "host_id is absent from source seal partitions")
  raiseIf (∃ w ∈ source.sealedPartitions, w.watermarkAt < verifiedBoundary.candidateBoundaryAt)
    (.valueError "source seal final watermark does not cover candidate boundary")
  raiseIf (verifiedBoundary.verifiedSealAt < acceptedRunClosed.emittedAt)
    (.valueError "verified boundary precedes accepted run_closed")

/-- `issue_r1_role2_verified_close_proof`. -/
def issueProof (proofId hostId : String) (verifiedBoundary : R1VerifiedCandidateBoundary)
    (source : R1CandidateGenerationSeal D) (acceptedRunClosed : R1RunClosed)
    (receipt : R1AcceptedRunCloseReceipt D) (policy : R1CandidateGenerationPolicy D)
    (proofCreatedAt : PyDatetime) : Except PyError (R1Role2VerifiedCloseProof D) := do
  let validatedHostId ← validateUnpadded "host_id must be non-blank and unpadded" hostId
  validateAcceptedCloseReceipt sha256 receipt acceptedRunClosed
  validateSourceBinding verifiedBoundary source acceptedRunClosed policy validatedHostId
  let createdAt ← validateProofUtcMilliseconds "proof_created_at" proofCreatedAt
  let projectionSha256 ← role2SafeSourceSealProjectionSha256 sha256 source validatedHostId.val
  let proofId ← validateUnpadded
    "verified close proof identity must be non-blank and unpadded" proofId
  let content : CloseProofContent D :=
    { proofId
      runId := source.runId
      hostId := validatedHostId
      familyId := source.familyId
      candidatePolicy := source.candidatePolicy
      sourceSealId := source.sealId
      sourceSealProjectionSha256 := projectionSha256
      inputCloseId := acceptedRunClosed.closeId
      acceptedRunClosedContentSha256 := r1RunClosedSha256 sha256 acceptedRunClosed
      inputCloseEmittedAt := acceptedRunClosed.emittedAt
      candidateBoundaryAt := verifiedBoundary.candidateBoundaryAt
      sealedPartitions := acceptedRunClosed.finalWatermarks
      verifiedSealAt := verifiedBoundary.verifiedSealAt
      proofCreatedAt := createdAt }
  buildProof sha256 content (sha256 (.closeProof content))

/-- `R1Role2VerifiedCloseProofValidation`. -/
structure R1Role2VerifiedCloseProofValidation (D : Type) where
  proof : R1Role2VerifiedCloseProof D
  proofValidatedAt : UtcMillis

/-- What Role2 expects of a proof, beside the close, its receipt and the policy. -/
structure CloseProofExpectation (D : Type) where
  runId : String
  familyId : String
  selectorPartition : R1StreamPartition
  acceptedSourceSealId : String
  acceptedSourceSealProjectionSha256 : D

/-- `validate_r1_role2_verified_close_proof`. -/
def validateProof (proof : R1Role2VerifiedCloseProof D) (acceptedRunClosed : R1RunClosed)
    (receipt : R1AcceptedRunCloseReceipt D) (policy : R1CandidateGenerationPolicy D)
    (expected : CloseProofExpectation D) (proofValidatedAt : PyDatetime) :
    Except PyError (R1Role2VerifiedCloseProofValidation D) := do
  validateAcceptedCloseReceipt sha256 receipt acceptedRunClosed
  requireProofContentHash sha256 proof.toCloseProofContent proof.proofContentSha256
  let runId ← validateRunId expected.runId
  let familyId ← validateFamilyId expected.familyId
  let sourceSealId ← validateUnpadded "accepted_source_seal_id must be non-blank and unpadded"
    expected.acceptedSourceSealId
  let validatedAt ← validateProofUtcMilliseconds "proof_validated_at" proofValidatedAt
  raiseIf (proof.runId ≠ runId ∨ acceptedRunClosed.runId ≠ runId)
    (.valueError "proof and accepted run_closed must match expected_run_id")
  raiseIf (expected.selectorPartition.runId ≠ runId)
    (.valueError "expected selector partition run_id must match expected_run_id")
  raiseIf (proof.hostId ≠ expected.selectorPartition.hostId)
    (.valueError "proof host_id does not match expected selector partition")
  raiseIf (proof.familyId ≠ familyId ∨ policy.familyId ≠ familyId)
    (.valueError "proof and candidate policy must match expected_family_id")
  raiseIf (proof.sourceSealId ≠ sourceSealId)
    (.valueError "proof source_seal_id does not match the accepted source seal")
  raiseIf (proof.sourceSealProjectionSha256 ≠ expected.acceptedSourceSealProjectionSha256)
    (.valueError "proof source seal projection digest does not match the accepted projection")
  raiseIf (proofSourceSealProjectionSha256 sha256 proof ≠ expected.acceptedSourceSealProjectionSha256)
    (.valueError "proof fields do not match the trusted source seal projection digest")
  raiseIf (proof.inputCloseId ≠ acceptedRunClosed.closeId)
    (.valueError "proof input_close_id does not match accepted run_closed")
  raiseIf (proof.acceptedRunClosedContentSha256 ≠ r1RunClosedSha256 sha256 acceptedRunClosed)
    (.valueError "proof run_closed content hash does not match accepted run_closed")
  raiseIf (proof.inputCloseEmittedAt ≠ acceptedRunClosed.emittedAt)
    (.valueError "proof input close emission does not match accepted run_closed")
  raiseIf (proof.sealedPartitions ≠ acceptedRunClosed.finalWatermarks)
    (.valueError "proof sealed_partitions do not exactly match accepted run_closed")
  raiseIf (expected.selectorPartition ∉ proof.sealedPartitions.map (·.partition))
    (.valueError "expected selector partition is absent from proof sealed_partitions")
  raiseIf (proof.candidatePolicy.values ≠ policyIdentity policy)
    (.valueError "proof candidate policy identity does not match registered policy")
  raiseIf (∃ w ∈ proof.sealedPartitions, w.watermarkAt < proof.candidateBoundaryAt)
    (.valueError "proof final watermark does not cover candidate boundary")
  raiseIf (proof.verifiedSealAt < acceptedRunClosed.emittedAt)
    (.valueError "proof verified_seal_at precedes accepted run_closed")
  raiseIf (validatedAt < proof.proofCreatedAt)
    (.valueError "proof_validated_at must not precede proof_created_at")
  return ⟨proof, validatedAt⟩

end Proof

end IncidentAwareness.Seal
