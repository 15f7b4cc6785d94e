import IncidentAwareness.Seal.CloseProofSpec
import IncidentAwareness.Seal.PositionProof

/-!
# What a validated position-close proof says

* `issueProjectionRecord_eq_ok`, `issuePositionProof_eq_ok`: a record and a proof are
  issued with the fields of the seal and of the close;
* `validatePositionProof_eq_ok`: a proof validates where every check of Role2 holds;
* `positionAgrees_of_validates`: a proof that validates against the trusted projection
  digest of a seal agrees with the close, its receipt and the seal;
* `positionProof_sound_complete`: and a seal that passes its binding check yields a record
  and a proof that validate.
-/

namespace IncidentAwareness.Seal

open IncidentAwareness.Common IncidentAwareness.Lib IncidentAwareness.Stream
open IncidentAwareness.Position

variable {D : Type}

/-! ## Receipts and seals -/

section Bindings

variable [DecidableEq D] {sha256 : PositionSealPayload D → D}

/-- A receipt of a position close. -/
structure PositionReceiptBinds (sha256 : PositionSealPayload D → D)
    (receipt : R1AcceptedRecordPositionCloseReceipt D) (close : R1RecordPositionClose D) : Prop where
  closeId : receipt.closeId = close.closeId
  partition : receipt.partition = close.partition
  content : receipt.closeContentSha256 = positionCloseSha256 sha256 close
  emitted_le_accepted : close.emittedAt ≤ receipt.acceptedAt

omit [DecidableEq D] in
theorem PositionReceiptBinds.runId {receipt : R1AcceptedRecordPositionCloseReceipt D}
    {close : R1RecordPositionClose D} (h : PositionReceiptBinds sha256 receipt close) :
    receipt.runId = close.runId := by
  rw [R1AcceptedRecordPositionCloseReceipt.runId, h.partition, close.partition_runId]

theorem requirePositionReceipt_eq_ok {receipt : R1AcceptedRecordPositionCloseReceipt D}
    {close : R1RecordPositionClose D} {u : Unit} :
    requirePositionReceipt sha256 receipt close = .ok u ↔
      PositionReceiptBinds sha256 receipt close := by
  simp only [requirePositionReceipt, requireReceiptBindsClose, raiseIf_bind_eq_ok, raiseIf_eq_ok,
    not_not, not_lt, Prod.mk.injEq]
  constructor
  · intro h
    exact ⟨h.1.2.1, h.1.2.2, h.2.1, h.2.2⟩
  · intro h
    exact ⟨⟨h.runId, h.closeId, h.partition⟩, h.content, h.emitted_le_accepted⟩

/-- A seal that is bound to a position close, its receipt and a policy. -/
structure PositionSealBinds (sha256 : PositionSealPayload D → D)
    (source : R1PositionCandidateGenerationSeal D) (close : R1RecordPositionClose D)
    (receipt : R1AcceptedRecordPositionCloseReceipt D) (policy : R1CandidateGenerationPolicy D) :
    Prop where
  runId : source.runId = close.runId
  closeId : source.inputPositionCloseId = close.closeId
  content : source.inputPositionCloseContentSha256 = positionCloseSha256 sha256 close
  receipt : source.positionCloseReceipt = receipt
  partition : source.sealedPartition = close.partition
  frontier : source.positionFrontier = close.positionFrontier
  covered : source.coveredThroughChunkSequence = close.coveredThroughChunkSequence
  coveredChunks : source.coveredChunksSha256 = close.coveredChunksSha256
  reconciliation : source.sourceReconciliationSha256 = close.sourceSnapshot.reconciliationSha256
  contract : source.requiredPartitionContractSha256 = close.requiredPartitionContract.contentSha256
  familyId : source.familyId = policy.familyId
  policy : source.candidatePolicy.values = policyIdentity policy
  boundary : source.boundary.completedAt = close.candidateBoundaryAt

theorem validatePositionSealBinding_eq_ok {casefold : String → String}
    {source : R1PositionCandidateGenerationSeal D} {runMetadata : RunMetadata}
    {close : R1RecordPositionClose D} {receipt : R1AcceptedRecordPositionCloseReceipt D}
    {actions : List R1ScenarioAction} {record : ExecutionRecordRow}
    {completion : R1CandidateBoundaryCompletion} {policy : R1CandidateGenerationPolicy D}
    {boundary : R1VerifiedPositionCandidateBoundary}
    (h : validatePositionSealBinding casefold sha256 source runMetadata close receipt actions record
      completion policy = .ok boundary) :
    boundary = positionBoundaryOf source ∧ PositionReceiptBinds sha256 receipt close ∧
      PositionSealBinds sha256 source close receipt policy := by
  obtain ⟨_, hreceipt, h₁⟩ := Except.bind_eq_ok.mp h
  simp only [raiseIf_bind_eq_ok, not_not, not_or, Prod.mk.injEq] at h₁
  obtain ⟨hrun, -, hfamily, -, hclose, hfrontier, hpolicy, h₂⟩ := h₁
  obtain ⟨last, -, h₃⟩ := Except.bind_eq_ok.mp h₂
  obtain ⟨_, -, h₄⟩ := Except.bind_eq_ok.mp h₃
  obtain ⟨_, -, h₅⟩ := Except.bind_eq_ok.mp h₄
  obtain ⟨_, -, h₆⟩ := Except.bind_eq_ok.mp h₅
  simp only [raiseIf_bind_eq_ok, not_not] at h₆
  obtain ⟨hboundary, -, h₇⟩ := h₆
  obtain ⟨hcloseId, hcontent, hsealReceipt⟩ := hclose
  obtain ⟨hpartition, hposition, hcovered, hchunks, hreconciliation, hcontract⟩ := hfrontier
  refine ⟨Except.pure_eq_ok.mp h₇, requirePositionReceipt_eq_ok.mp hreceipt, ?_⟩
  exact {
    runId := hrun.2
    closeId := hcloseId
    content := hcontent
    receipt := hsealReceipt
    partition := hpartition
    frontier := hposition
    covered := hcovered
    coveredChunks := hchunks
    reconciliation := hreconciliation
    contract := hcontract
    familyId := hfamily.2
    policy := hpolicy
    boundary := hboundary }

/-- An issued seal states the issuer's values and passes the binding check. -/
theorem issuePositionSeal_eq_ok {casefold : String → String} {sealId : String}
    {runMetadata : RunMetadata} {close : R1RecordPositionClose D}
    {receipt : R1AcceptedRecordPositionCloseReceipt D} {actions : List R1ScenarioAction}
    {attestation : R1CandidateBoundaryAttestation} {record : ExecutionRecordRow}
    {completion : R1CandidateBoundaryCompletion} {policy : R1CandidateGenerationPolicy D}
    {emittedAt : PyDatetime} {source : R1PositionCandidateGenerationSeal D}
    (h : issuePositionSeal casefold sha256 sealId runMetadata close receipt actions attestation record
      completion policy emittedAt = .ok source) :
    (source.sealId.val = sealId ∧ source.runType = runMetadata.runType ∧
        source.boundary = attestation ∧ emittedAt = PyDatetime.utcMillis source.emittedAt) ∧
      ∃ boundary, validatePositionSealBinding casefold sha256 source runMetadata close receipt actions
        record completion policy = .ok boundary := by
  obtain ⟨_, -, h₁⟩ := Except.bind_eq_ok.mp h
  obtain ⟨built, hbuilt, h₂⟩ := Except.bind_eq_ok.mp h₁
  obtain ⟨boundary, hbinding, h₃⟩ := Except.bind_eq_ok.mp h₂
  obtain rfl := Except.pure_eq_ok.mp h₃
  refine ⟨?_, boundary, hbinding⟩
  obtain ⟨id, hid, h₄⟩ := Except.bind_eq_ok.mp (Except.mapError_eq_ok.mp hbuilt)
  obtain ⟨runId, -, h₅⟩ := Except.bind_eq_ok.mp h₄
  obtain ⟨identity, -, h₆⟩ := Except.bind_eq_ok.mp h₅
  obtain ⟨emitted, hemitted, h₇⟩ := Except.bind_eq_ok.mp h₆
  iterate 5
    obtain ⟨_, h₇⟩ := dite_error_eq_ok.mp h₇
  obtain rfl := Except.pure_eq_ok.mp h₇
  exact ⟨validateUnpadded_eq_ok.mp hid, rfl, rfl, requireUtcMilliseconds_eq_ok.mp hemitted⟩

omit [DecidableEq D] in
/-- Bound seals of one id and one time have one projection. -/
theorem positionSealProjection_congr {source source' : R1PositionCandidateGenerationSeal D}
    {close : R1RecordPositionClose D} {receipt : R1AcceptedRecordPositionCloseReceipt D}
    {policy : R1CandidateGenerationPolicy D} (h : PositionSealBinds sha256 source close receipt policy)
    (h' : PositionSealBinds sha256 source' close receipt policy)
    (hsealId : source.sealId = source'.sealId) (hemitted : source.emittedAt = source'.emittedAt)
    (hostId : Identifier) :
    positionSealProjection sha256 source hostId = positionSealProjection sha256 source' hostId := by
  have hpolicy : source.candidatePolicy = source'.candidatePolicy :=
    R1CandidatePolicyIdentity.values_inj (h.policy.trans h'.policy.symm)
  simp only [positionSealProjection, hsealId, hemitted, hpolicy, h.runId, h'.runId, h.familyId,
    h'.familyId, h.closeId, h'.closeId, h.content, h'.content, h.receipt, h'.receipt, h.partition,
    h'.partition, h.frontier, h'.frontier, h.covered, h'.covered, h.coveredChunks, h'.coveredChunks,
    h.reconciliation, h'.reconciliation, h.contract, h'.contract, h.boundary, h'.boundary]

theorem validatePositionSourceBinding_of_binds {source : R1PositionCandidateGenerationSeal D}
    {close : R1RecordPositionClose D} {receipt : R1AcceptedRecordPositionCloseReceipt D}
    {policy : R1CandidateGenerationPolicy D} (hreceipt : PositionReceiptBinds sha256 receipt close)
    (h : PositionSealBinds sha256 source close receipt policy) :
    validatePositionSourceBinding sha256 (positionBoundaryOf source) source close receipt policy
      source.sealedPartition.hostId = .ok () := by
  have hcloseBinds : (source.inputPositionCloseId, source.inputPositionCloseContentSha256,
      source.positionCloseReceipt, source.sealedPartition, source.positionFrontier,
      source.coveredChunksSha256, source.sourceReconciliationSha256) =
      (close.closeId, positionCloseSha256 sha256 close, receipt, close.partition,
        close.positionFrontier, close.coveredChunksSha256,
        close.sourceSnapshot.reconciliationSha256) := by
    rw [h.closeId, h.content, h.receipt, h.partition, h.frontier, h.coveredChunks, h.reconciliation]
  have hrequired : requirePositionReceipt sha256 receipt close = .ok () :=
    requirePositionReceipt_eq_ok.mpr hreceipt
  have hsource : positionBoundaryOf source = positionBoundaryOf source := rfl
  have hboundary : (positionBoundaryOf source).candidateBoundaryAt = close.candidateBoundaryAt :=
    h.boundary
  rw [validatePositionSourceBinding, hrequired, Except.ok_bind',
    raiseIf_of_not (not_not.mpr hsource), Except.ok_bind', raiseIf_of_not (not_not.mpr hcloseBinds),
    Except.ok_bind', raiseIf_of_not (not_not.mpr h.familyId), Except.ok_bind',
    raiseIf_of_not (not_not.mpr h.policy), Except.ok_bind', raiseIf_of_not (not_not.mpr rfl),
    Except.ok_bind', raiseIf_of_not (not_not.mpr hboundary)]

/-- The host of a successful source binding is the sealed one. -/
theorem validatePositionSourceBinding_eq_ok {boundary : R1VerifiedPositionCandidateBoundary}
    {source : R1PositionCandidateGenerationSeal D} {close : R1RecordPositionClose D}
    {receipt : R1AcceptedRecordPositionCloseReceipt D} {policy : R1CandidateGenerationPolicy D}
    {hostId : Identifier} {u : Unit}
    (h : validatePositionSourceBinding sha256 boundary source close receipt policy hostId = .ok u) :
    boundary = positionBoundaryOf source ∧ hostId = source.sealedPartition.hostId := by
  obtain ⟨_, -, h₁⟩ := Except.bind_eq_ok.mp h
  simp only [raiseIf_bind_eq_ok, not_not] at h₁
  obtain ⟨hboundary, -, -, -, hhost, -⟩ := h₁
  exact ⟨hboundary, hhost.symm⟩

end Bindings

/-! ## Records and proofs -/

section Issue

variable {sha256 : PositionSealPayload D → D}

theorem role2SafePositionSealProjectionSha256_eq_ok
    {source : R1PositionCandidateGenerationSeal D} {hostId : String} {digest : D} :
    role2SafePositionSealProjectionSha256 sha256 source hostId = .ok digest ↔
      hostId = source.sealedPartition.hostId.val ∧ digest = sha256 (.sealProjection
        (positionSealProjection sha256 source source.sealedPartition.hostId)) := by
  simp only [role2SafePositionSealProjectionSha256, Except.bind_eq_ok, raiseIf_eq_ok,
    validateUnpadded_eq_ok, Except.pure_eq_ok, not_not, exists_const]
  constructor
  · rintro ⟨host, rfl, rfl, rfl⟩
    exact ⟨rfl, rfl⟩
  · rintro ⟨rfl, rfl⟩
    exact ⟨_, rfl, rfl, rfl⟩

/-- The record of a seal's projection at a time. -/
def projectionRecordOf (sha256 : PositionSealPayload D → D)
    (source : R1PositionCandidateGenerationSeal D) (recorded : UtcMillis) :
    R1PositionSealProjectionRecord D :=
  let content : PositionSealProjectionContent D :=
    { sealId := source.sealId
      runId := source.runId.val
      hostId := source.sealedPartition.hostId
      sealContentSha256 := positionSealSha256 sha256 source
      projectionSha256 := sha256 (.sealProjection
        (positionSealProjection sha256 source source.sealedPartition.hostId))
      recordedAt := recorded }
  ⟨content, sha256 (.projectionContent content)⟩

variable [DecidableEq D]

theorem issueProjectionRecord_eq_ok {source : R1PositionCandidateGenerationSeal D}
    {boundary : R1VerifiedPositionCandidateBoundary} {hostId : String} {recordedAt : PyDatetime}
    {record : R1PositionSealProjectionRecord D} :
    issueProjectionRecord sha256 source boundary hostId recordedAt = .ok record ↔
      boundary = positionBoundaryOf source ∧ hostId = source.sealedPartition.hostId.val ∧
        ∃ t, recordedAt = PyDatetime.utcMillis t ∧ source.emittedAt ≤ t ∧
          record = projectionRecordOf sha256 source t := by
  simp only [issueProjectionRecord, buildProjectionRecord, Except.bind_eq_ok, raiseIf_eq_ok,
    role2SafePositionSealProjectionSha256_eq_ok, validateUtcMilliseconds,
    requireUtcMilliseconds_eq_ok, validateUnpadded_eq_ok, Except.pure_eq_ok, not_not, not_lt,
    exists_const, ne_eq, true_and, not_true, not_false_iff]
  constructor
  · rintro ⟨rfl, t, rfl, hemitted, _, ⟨rfl, rfl⟩, host, hhost, rfl⟩
    obtain rfl := Identifier.ext hhost
    exact ⟨rfl, rfl, t, rfl, hemitted, rfl⟩
  · rintro ⟨rfl, rfl, t, rfl, hemitted, rfl⟩
    exact ⟨rfl, t, rfl, hemitted, _, ⟨rfl, rfl⟩, _, rfl, rfl⟩

theorem validateTrustedProjectionRecord_projectionRecordOf
    {source : R1PositionCandidateGenerationSeal D} {t : UtcMillis} (h : source.emittedAt ≤ t) :
    validateTrustedProjectionRecord sha256 (projectionRecordOf sha256 source t) source
      source.sealedPartition.hostId = .ok () := by
  have hdigest : role2SafePositionSealProjectionSha256 sha256 source
      source.sealedPartition.hostId.val = .ok (projectionRecordOf sha256 source t).projectionSha256 :=
    role2SafePositionSealProjectionSha256_eq_ok.mpr ⟨rfl, rfl⟩
  have hnames : ((projectionRecordOf sha256 source t).sealId,
      (projectionRecordOf sha256 source t).runId, (projectionRecordOf sha256 source t).hostId) =
      (source.sealId, source.runId.val, source.sealedPartition.hostId) := rfl
  have hseal : (projectionRecordOf sha256 source t).sealContentSha256 =
      positionSealSha256 sha256 source := rfl
  rw [validateTrustedProjectionRecord, raiseIf_of_not (not_not.mpr hnames), Except.ok_bind',
    raiseIf_of_not (not_not.mpr hseal), Except.ok_bind', hdigest, Except.ok_bind',
    raiseIf_of_not (not_not.mpr rfl), Except.ok_bind']
  exact raiseIf_of_not (not_lt.mpr h)

/-- What a proof states of a seal, a close and a projection record. -/
def positionProofContentOf (sha256 : PositionSealPayload D → D) (proofId : Identifier)
    (source : R1PositionCandidateGenerationSeal D) (close : R1RecordPositionClose D)
    (receipt : R1AcceptedRecordPositionCloseReceipt D) (trusted : R1PositionSealProjectionRecord D)
    (created : UtcMillis) : PositionCloseProofContent D where
  proofId := proofId
  runId := source.runId
  hostId := source.sealedPartition.hostId
  familyId := source.familyId
  candidatePolicy := source.candidatePolicy
  sourceSealId := source.sealId
  sourceSealProjectionSha256 := trusted.projectionSha256
  sourceSealProjectionRecordSha256 := projectionRecordSha256 sha256 trusted
  inputPositionCloseId := close.closeId
  acceptedPositionCloseContentSha256 := positionCloseSha256 sha256 close
  positionCloseReceipt := receipt
  sealedPartition := close.partition
  positionFrontier := close.positionFrontier
  coveredThroughChunkSequence := close.coveredThroughChunkSequence
  coveredChunksSha256 := close.coveredChunksSha256
  postCommitAckCount := close.postCommitAckCount
  sourceReconciliationSha256 := close.sourceSnapshot.reconciliationSha256
  requiredPartitionContractSha256 := close.requiredPartitionContract.contentSha256
  candidateBoundaryAt := source.boundary.completedAt
  verifiedSealAt := source.emittedAt
  proofCreatedAt := created

/-- A built proof carries its content and the digest of it. -/
theorem buildPositionProof_eq_ok {content : PositionCloseProofContent D} {digest : D}
    {proof : R1Role2VerifiedPositionCloseProof D} :
    buildPositionProof sha256 content digest = .ok proof ↔
      proof.toPositionCloseProofContent = content ∧ proof.proofContentSha256 = digest ∧
        digest = sha256 (.closeProof content) := by
  constructor
  · intro h
    unfold buildPositionProof at h
    iterate 9
      obtain ⟨_, h⟩ := dite_error_eq_ok.mp h
    obtain ⟨_, hdigest, h₁⟩ := Except.bind_eq_ok.mp h
    obtain rfl := Except.pure_eq_ok.mp h₁
    exact ⟨rfl, rfl, not_not.mp (raiseIf_eq_ok.mp hdigest)⟩
  · rintro ⟨rfl, rfl, hdigest⟩
    rw [buildPositionProof, dif_neg (not_lt.mpr proof.covered_pos),
      dif_neg (not_not.mpr proof.partition_runId), dif_neg (not_not.mpr proof.partition_hostId),
      dif_neg (not_not.mpr proof.receipt_binds), dif_neg (not_not.mpr proof.receipt_content),
      dif_neg (not_not.mpr proof.ackCount_eq_covered), dif_neg (not_lt.mpr proof.accepted_le_verified),
      dif_neg (not_lt.mpr proof.boundary_le_verified), dif_neg (not_lt.mpr proof.verified_le_created),
      requirePositionProofContentHash, raiseIf_of_not (not_not.mpr hdigest)]
    rfl

/-- An issued proof states what `positionProofContentOf` says, and the digest of it. -/
theorem issuePositionProof_eq_ok {proofId hostId : String}
    {boundary : R1VerifiedPositionCandidateBoundary} {source : R1PositionCandidateGenerationSeal D}
    {close : R1RecordPositionClose D} {receipt : R1AcceptedRecordPositionCloseReceipt D}
    {trusted : R1PositionSealProjectionRecord D} {policy : R1CandidateGenerationPolicy D}
    {proofCreatedAt : PyDatetime} {proof : R1Role2VerifiedPositionCloseProof D}
    (h : issuePositionProof sha256 proofId hostId boundary source close receipt trusted policy
      proofCreatedAt = .ok proof) :
    ∃ (id : Identifier) (t : UtcMillis), id.val = proofId ∧ proofCreatedAt = PyDatetime.utcMillis t ∧
      proof.toPositionCloseProofContent =
        positionProofContentOf sha256 id source close receipt trusted t ∧
      proof.proofContentSha256 = sha256 (.closeProof proof.toPositionCloseProofContent) := by
  obtain ⟨host, hhost, h₁⟩ := Except.bind_eq_ok.mp h
  obtain ⟨_, hbinding, h₂⟩ := Except.bind_eq_ok.mp h₁
  obtain ⟨_, -, h₃⟩ := Except.bind_eq_ok.mp h₂
  obtain ⟨t, ht, h₄⟩ := Except.bind_eq_ok.mp h₃
  obtain ⟨id, hid, h₅⟩ := Except.bind_eq_ok.mp (Except.mapError_eq_ok.mp h₄)
  obtain ⟨rfl, rfl⟩ := validatePositionSourceBinding_eq_ok hbinding
  obtain ⟨hcontent, hdigest, hsha⟩ := buildPositionProof_eq_ok.mp h₅
  exact ⟨id, t, validateUnpadded_eq_ok.mp hid, requireUtcMilliseconds_eq_ok.mp ht, hcontent,
    hcontent ▸ hdigest⟩

/-- A bound seal and its projection record yield a proof. -/
theorem exists_issuePositionProof {source : R1PositionCandidateGenerationSeal D}
    {close : R1RecordPositionClose D} {receipt : R1AcceptedRecordPositionCloseReceipt D}
    {policy : R1CandidateGenerationPolicy D} (hreceipt : PositionReceiptBinds sha256 receipt close)
    (hbinds : PositionSealBinds sha256 source close receipt policy) (proofId : Identifier)
    {recorded created : UtcMillis} (hrecorded : source.emittedAt ≤ recorded)
    (hcreated : source.emittedAt ≤ created) :
    ∃ proof, issuePositionProof sha256 proofId.val source.sealedPartition.hostId.val
      (positionBoundaryOf source) source close receipt (projectionRecordOf sha256 source recorded)
      policy (PyDatetime.utcMillis created) = .ok proof := by
  let content := positionProofContentOf sha256 proofId source close receipt
    (projectionRecordOf sha256 source recorded) created
  let proof : R1Role2VerifiedPositionCloseProof D := {
    content with
    proofContentSha256 := sha256 (.closeProof content)
    covered_pos := close.covered_pos
    partition_runId := close.partition_runId.trans hbinds.runId.symm
    partition_hostId := congrArg R1StreamPartition.hostId hbinds.partition.symm
    receipt_binds := by
      show (receipt.runId, receipt.closeId, receipt.partition) =
        (source.runId, close.closeId, close.partition)
      rw [hreceipt.runId, hreceipt.closeId, hreceipt.partition, hbinds.runId]
    receipt_content := hreceipt.content
    ackCount_eq_covered := close.ackCount_eq_covered
    accepted_le_verified := by
      show receipt.acceptedAt ≤ source.emittedAt
      exact hbinds.receipt ▸ source.accepted_le_emitted
    boundary_le_verified := source.completed_le_emitted
    verified_le_created := hcreated }
  have hproof : buildPositionProof sha256 content (sha256 (.closeProof content)) = .ok proof :=
    buildPositionProof_eq_ok.mpr ⟨rfl, rfl, rfl⟩
  refine ⟨proof, ?_⟩
  rw [issuePositionProof, validateUnpadded_val, Except.ok_bind',
    validatePositionSourceBinding_of_binds hreceipt hbinds, Except.ok_bind',
    validateTrustedProjectionRecord_projectionRecordOf hrecorded, Except.ok_bind',
    validateUtcMilliseconds, requireUtcMilliseconds_eq_ok.mpr rfl, Except.ok_bind',
    validateUnpadded_val, Except.ok_bind']
  exact Except.mapError_eq_ok.mpr hproof

end Issue

/-! ## Validated proofs -/

section Validation

variable [DecidableEq D] {sha256 : PositionSealPayload D → D}

/-- Every check of Role2. -/
structure PositionProofChecks (sha256 : PositionSealPayload D → D)
    (proof : R1Role2VerifiedPositionCloseProof D) (close : R1RecordPositionClose D)
    (receipt : R1AcceptedRecordPositionCloseReceipt D) (policy : R1CandidateGenerationPolicy D)
    (expected : PositionProofExpectation D) : Prop where
  receiptBinds : PositionReceiptBinds sha256 receipt close
  content : proof.proofContentSha256 = sha256 (.closeProof proof.toPositionCloseProofContent)
  runId : expected.runId = proof.runId.val
  closeRunId : close.runId = proof.runId
  selector : expected.selectorPartition = close.partition
  partition : proof.sealedPartition = close.partition
  hostId : proof.hostId = close.partition.hostId
  familyId : expected.familyId = proof.familyId.val.val
  policyFamilyId : policy.familyId = proof.familyId
  policy : proof.candidatePolicy.values = policyIdentity policy
  sourceSealId : expected.acceptedSourceSealId = proof.sourceSealId.val
  projection : proof.sourceSealProjectionSha256 = expected.acceptedSourceSealProjectionSha256
  projectionRecord : proof.sourceSealProjectionRecordSha256 =
    expected.acceptedSourceSealProjectionRecordSha256
  projectionFields : positionProofProjectionSha256 sha256 proof =
    expected.acceptedSourceSealProjectionSha256
  closeId : proof.inputPositionCloseId = close.closeId
  closeContent : proof.acceptedPositionCloseContentSha256 = positionCloseSha256 sha256 close
  receipt : proof.positionCloseReceipt = receipt
  frontier : proof.positionFrontier = close.positionFrontier
  covered : proof.coveredThroughChunkSequence = close.coveredThroughChunkSequence
  coveredChunks : proof.coveredChunksSha256 = close.coveredChunksSha256
  ackCount : proof.postCommitAckCount = close.postCommitAckCount
  reconciliation : proof.sourceReconciliationSha256 = close.sourceSnapshot.reconciliationSha256
  contract : proof.requiredPartitionContractSha256 = close.requiredPartitionContract.contentSha256
  expectedContract : close.requiredPartitionContract.contentSha256 =
    expected.requiredPartitionContractSha256
  boundary : proof.candidateBoundaryAt = close.candidateBoundaryAt

/-- A proof validates where every check holds and the clock reads a UTC millisecond that
does not precede the proof. -/
theorem validatePositionProof_eq_ok {proof : R1Role2VerifiedPositionCloseProof D}
    {close : R1RecordPositionClose D} {receipt : R1AcceptedRecordPositionCloseReceipt D}
    {policy : R1CandidateGenerationPolicy D} {expected : PositionProofExpectation D}
    {now : PyDatetime} {v : R1Role2VerifiedPositionCloseProofValidation D} :
    validatePositionProof sha256 proof close receipt policy expected now = .ok v ↔
      PositionProofChecks sha256 proof close receipt policy expected ∧
        ∃ t, now = PyDatetime.utcMillis t ∧ proof.proofCreatedAt ≤ t ∧ v = ⟨proof, t⟩ := by
  simp only [validatePositionProof, requirePositionProofContentHash, Except.bind_eq_ok, raiseIf_eq_ok,
    requirePositionReceipt_eq_ok, validateRunId_eq_ok, validateFamilyId_eq_ok,
    validateUnpadded_eq_ok, validateUtcMilliseconds, requireUtcMilliseconds_eq_ok,
    Except.pure_eq_ok, exists_const, not_not, not_or, not_lt, Prod.mk.injEq, ne_eq]
  constructor
  · rintro ⟨hreceipt, hcontent, runId, hrunId, familyId, hfamilyId, sealId, hsealId, t, rfl,
      ⟨rfl, hclose⟩, hselector, hpartition, hhost, ⟨rfl, hpolicyFamily⟩, hpolicy, rfl, hprojection,
      hrecord, hfields, hcloseId, hcloseContent, hproofReceipt,
      ⟨hfrontier, hcovered, hchunks, hack⟩, hreconciliation, ⟨hcontract, hexpected⟩, hboundary,
      hcreated, rfl⟩
    exact ⟨⟨hreceipt, hcontent, hrunId.symm, hclose, hselector, hpartition.trans hselector,
      hhost.trans (congrArg _ hselector), hfamilyId.symm, hpolicyFamily, hpolicy, hsealId.symm,
      hprojection, hrecord, hfields, hcloseId, hcloseContent, hproofReceipt, hfrontier, hcovered,
      hchunks, hack, hreconciliation, hcontract, hexpected, hboundary⟩, t, rfl, hcreated, rfl⟩
  · rintro ⟨h, t, rfl, hcreated, rfl⟩
    exact ⟨h.receiptBinds, h.content, _, h.runId.symm, _, h.familyId.symm, _, h.sourceSealId.symm,
      t, rfl, ⟨rfl, h.closeRunId⟩, h.selector, h.partition.trans h.selector.symm,
      h.hostId.trans (congrArg _ h.selector.symm), ⟨rfl, h.policyFamilyId⟩, h.policy, rfl,
      h.projection, h.projectionRecord, h.projectionFields, h.closeId, h.closeContent, h.receipt,
      ⟨h.frontier, h.covered, h.coveredChunks, h.ackCount⟩, h.reconciliation,
      ⟨h.contract, h.expectedContract⟩, h.boundary, hcreated, rfl⟩

/-- A proof agrees with a close, its receipt and the projection of a seal on every field that
it binds, the digests are those of what they name, and the times are in order. -/
structure PositionAgrees (sha256 : PositionSealPayload D → D)
    (source : R1PositionCandidateGenerationSeal D) (close : R1RecordPositionClose D)
    (receipt : R1AcceptedRecordPositionCloseReceipt D)
    (v : R1Role2VerifiedPositionCloseProofValidation D) : Prop where
  runId : v.proof.runId = source.runId ∧ source.runId = close.runId
  hostId : v.proof.hostId = source.sealedPartition.hostId
  familyId : v.proof.familyId = source.familyId
  candidatePolicy : v.proof.candidatePolicy = source.candidatePolicy
  sourceSealId : v.proof.sourceSealId = source.sealId
  closeId : v.proof.inputPositionCloseId = source.inputPositionCloseId ∧
    source.inputPositionCloseId = close.closeId
  closeSha256 : v.proof.acceptedPositionCloseContentSha256 = source.inputPositionCloseContentSha256 ∧
    source.inputPositionCloseContentSha256 = positionCloseSha256 sha256 close
  closeReceipt : v.proof.positionCloseReceipt = source.positionCloseReceipt ∧
    source.positionCloseReceipt = receipt
  receiptBinds : PositionReceiptBinds sha256 receipt close
  partition : v.proof.sealedPartition = source.sealedPartition ∧
    source.sealedPartition = close.partition
  frontier : v.proof.positionFrontier = source.positionFrontier ∧
    source.positionFrontier = close.positionFrontier
  covered : v.proof.coveredThroughChunkSequence = source.coveredThroughChunkSequence ∧
    source.coveredThroughChunkSequence = close.coveredThroughChunkSequence
  coveredChunks : v.proof.coveredChunksSha256 = source.coveredChunksSha256 ∧
    source.coveredChunksSha256 = close.coveredChunksSha256
  ackCount : v.proof.postCommitAckCount = close.postCommitAckCount
  reconciliation : v.proof.sourceReconciliationSha256 = source.sourceReconciliationSha256 ∧
    source.sourceReconciliationSha256 = close.sourceSnapshot.reconciliationSha256
  contract : v.proof.requiredPartitionContractSha256 = source.requiredPartitionContractSha256 ∧
    source.requiredPartitionContractSha256 = close.requiredPartitionContract.contentSha256
  candidateBoundaryAt : v.proof.candidateBoundaryAt = source.boundary.completedAt ∧
    source.boundary.completedAt = close.candidateBoundaryAt
  verifiedSealAt : v.proof.verifiedSealAt = source.emittedAt
  projectionSha256 : v.proof.sourceSealProjectionSha256 = sha256 (.sealProjection
    (positionSealProjection sha256 source source.sealedPartition.hostId))
  contentSha256 : v.proof.proofContentSha256 =
    sha256 (.closeProof v.proof.toPositionCloseProofContent)
  boundary_le_verified : close.candidateBoundaryAt ≤ source.emittedAt
  accepted_le_verified : receipt.acceptedAt ≤ source.emittedAt
  verified_le_created : source.emittedAt ≤ v.proof.proofCreatedAt
  created_le_validated : v.proof.proofCreatedAt ≤ v.proofValidatedAt

/-- A proof that validates against the trusted projection digest of a seal agrees with the
close, its receipt and the seal. -/
theorem positionAgrees_of_validates
    (hprojections : ∀ p q, sha256 (.sealProjection p) = sha256 (.sealProjection q) → p = q)
    (hreceipts : ∀ r s, sha256 (.receipt r) = sha256 (.receipt s) → r = s)
    {source : R1PositionCandidateGenerationSeal D} {proof : R1Role2VerifiedPositionCloseProof D}
    {close : R1RecordPositionClose D} {receipt : R1AcceptedRecordPositionCloseReceipt D}
    {policy : R1CandidateGenerationPolicy D} {expected : PositionProofExpectation D}
    {now : PyDatetime} {v : R1Role2VerifiedPositionCloseProofValidation D}
    (htrusted : expected.acceptedSourceSealProjectionSha256 = sha256 (.sealProjection
      (positionSealProjection sha256 source source.sealedPartition.hostId)))
    (h : validatePositionProof sha256 proof close receipt policy expected now = .ok v) :
    PositionAgrees sha256 source close receipt v := by
  obtain ⟨hchecks, t, rfl, hcreated, rfl⟩ := validatePositionProof_eq_ok.mp h
  -- One digest, so one projection, and one receipt under its digest.
  have hprojection := hprojections _ _ (hchecks.projectionFields.trans htrusted)
  simp only [positionProofProjection, positionSealProjection, PositionSealProjection.mk.injEq]
    at hprojection
  obtain ⟨hsealId, hrunId, hhostId, hfamilyId, hpolicy, hcloseId, hcontent, hreceiptSha, hpartition,
    hfrontier, hcovered, hchunks, hreconciliation, hcontract, hboundary, hverified⟩ := hprojection
  have hreceipt : proof.positionCloseReceipt = source.positionCloseReceipt :=
    hreceipts _ _ hreceiptSha
  exact {
    runId := ⟨hrunId, hrunId.symm.trans hchecks.closeRunId.symm⟩
    hostId := hhostId
    familyId := hfamilyId
    candidatePolicy := hpolicy
    sourceSealId := hsealId
    closeId := ⟨hcloseId, hcloseId.symm.trans hchecks.closeId⟩
    closeSha256 := ⟨hcontent, hcontent.symm.trans hchecks.closeContent⟩
    closeReceipt := ⟨hreceipt, hreceipt.symm.trans hchecks.receipt⟩
    receiptBinds := hchecks.receiptBinds
    partition := ⟨hpartition, hpartition.symm.trans hchecks.partition⟩
    frontier := ⟨hfrontier, hfrontier.symm.trans hchecks.frontier⟩
    covered := ⟨hcovered, hcovered.symm.trans hchecks.covered⟩
    coveredChunks := ⟨hchunks, hchunks.symm.trans hchecks.coveredChunks⟩
    ackCount := hchecks.ackCount
    reconciliation := ⟨hreconciliation, hreconciliation.symm.trans hchecks.reconciliation⟩
    contract := ⟨hcontract, hcontract.symm.trans hchecks.contract⟩
    candidateBoundaryAt := ⟨hboundary, hboundary.symm.trans hchecks.boundary⟩
    verifiedSealAt := hverified
    projectionSha256 := hchecks.projection.trans htrusted
    contentSha256 := hchecks.content
    boundary_le_verified := by
      rw [← hverified, ← hchecks.boundary]
      exact proof.boundary_le_verified
    accepted_le_verified := by
      rw [← hverified, ← hchecks.receipt]
      exact proof.accepted_le_verified
    verified_le_created := hverified ▸ proof.verified_le_created
    created_le_validated := hcreated }

/-- What Role2 expects of a proof over a seal and its projection record. -/
def positionExpectationOf (sha256 : PositionSealPayload D → D)
    (source : R1PositionCandidateGenerationSeal D) (close : R1RecordPositionClose D)
    (record : R1PositionSealProjectionRecord D) : PositionProofExpectation D where
  runId := source.runId.val
  familyId := source.familyId.val.val
  selectorPartition := close.partition
  requiredPartitionContractSha256 := close.requiredPartitionContract.contentSha256
  acceptedSourceSealId := source.sealId.val
  acceptedSourceSealProjectionSha256 := record.projectionSha256
  acceptedSourceSealProjectionRecordSha256 := projectionRecordSha256 sha256 record

/-- A proof that was issued over a bound seal and its projection record passes the checks of
Role2. -/
theorem positionChecks_of_issued {proofId hostId : String}
    {boundary : R1VerifiedPositionCandidateBoundary} {source : R1PositionCandidateGenerationSeal D}
    {close : R1RecordPositionClose D} {receipt : R1AcceptedRecordPositionCloseReceipt D}
    {policy : R1CandidateGenerationPolicy D} {proofCreatedAt : PyDatetime}
    {proof : R1Role2VerifiedPositionCloseProof D} {recorded : UtcMillis}
    (hreceipt : PositionReceiptBinds sha256 receipt close)
    (hbinds : PositionSealBinds sha256 source close receipt policy)
    (h : issuePositionProof sha256 proofId hostId boundary source close receipt
      (projectionRecordOf sha256 source recorded) policy proofCreatedAt = .ok proof) :
    PositionProofChecks sha256 proof close receipt policy
      (positionExpectationOf sha256 source close (projectionRecordOf sha256 source recorded)) := by
  obtain ⟨id, t, -, -, hcontent, hdigest⟩ := issuePositionProof_eq_ok h
  have hfields : positionProofProjectionSha256 sha256 proof = sha256 (.sealProjection
      (positionSealProjection sha256 source source.sealedPartition.hostId)) := by
    simp only [positionProofProjectionSha256, positionProofProjection, hcontent,
      positionProofContentOf, positionSealProjection, hbinds.closeId, hbinds.content, hbinds.receipt,
      hbinds.partition, hbinds.frontier, hbinds.covered, hbinds.coveredChunks,
      hbinds.reconciliation, hbinds.contract]
  have hhost : source.sealedPartition.hostId = close.partition.hostId :=
    congrArg R1StreamPartition.hostId hbinds.partition
  exact {
    receiptBinds := hreceipt
    content := hdigest
    runId := by rw [hcontent]; rfl
    closeRunId := by rw [hcontent]; exact hbinds.runId.symm
    selector := rfl
    partition := by rw [hcontent]; rfl
    hostId := by rw [hcontent]; exact hhost
    familyId := by rw [hcontent]; rfl
    policyFamilyId := by rw [hcontent]; exact hbinds.familyId.symm
    policy := by rw [hcontent]; exact hbinds.policy
    sourceSealId := by rw [hcontent]; rfl
    projection := by rw [hcontent]; rfl
    projectionRecord := by rw [hcontent]; rfl
    projectionFields := hfields
    closeId := by rw [hcontent]; rfl
    closeContent := by rw [hcontent]; rfl
    receipt := by rw [hcontent]; rfl
    frontier := by rw [hcontent]; rfl
    covered := by rw [hcontent]; rfl
    coveredChunks := by rw [hcontent]; rfl
    ackCount := by rw [hcontent]; rfl
    reconciliation := by rw [hcontent]; rfl
    contract := by rw [hcontent]; rfl
    expectedContract := rfl
    boundary := by rw [hcontent]; exact hbinds.boundary }

end Validation

/-! ## The law -/

section Law

variable [DecidableEq D] (casefold : String → String) (sha256 : PositionSealPayload D → D)

/-- What validates against the trusted projection digest of a seal agrees with the seal, the
accepted close and its receipt. -/
def PositionProofSound : Prop :=
  ∀ (source : R1PositionCandidateGenerationSeal D) (hostId : String)
    (proof : R1Role2VerifiedPositionCloseProof D) (close : R1RecordPositionClose D)
    (receipt : R1AcceptedRecordPositionCloseReceipt D) (policy : R1CandidateGenerationPolicy D)
    (expected : PositionProofExpectation D) (now : PyDatetime)
    (v : R1Role2VerifiedPositionCloseProofValidation D),
    role2SafePositionSealProjectionSha256 sha256 source hostId =
      .ok expected.acceptedSourceSealProjectionSha256 →
    validatePositionProof sha256 proof close receipt policy expected now = .ok v →
    PositionAgrees sha256 source close receipt v ∧
      v.proof.sourceSealProjectionRecordSha256 = expected.acceptedSourceSealProjectionRecordSha256

/-- A seal that passes its binding check yields projection records, each of which validates
and yields proofs, and what is issued validates at every admitted reading of the clock. -/
def PositionProofComplete (admits : UtcMillis → PyDatetime → Prop) : Prop :=
  ∀ (source : R1PositionCandidateGenerationSeal D) (runMetadata : RunMetadata)
    (close : R1RecordPositionClose D) (receipt : R1AcceptedRecordPositionCloseReceipt D)
    (actions : List R1ScenarioAction) (actionRecord : ExecutionRecordRow)
    (completion : R1CandidateBoundaryCompletion) (policy : R1CandidateGenerationPolicy D)
    (boundary : R1VerifiedPositionCandidateBoundary),
    validatePositionSealBinding casefold sha256 source runMetadata close receipt actions actionRecord
      completion policy = .ok boundary →
    (∀ recorded, source.emittedAt ≤ recorded → ∃ trusted, issueProjectionRecord sha256 source boundary
      source.sealedPartition.hostId.val (PyDatetime.utcMillis recorded) = .ok trusted) ∧
    ∀ (hostId : String) (recordedAt : PyDatetime) (trusted : R1PositionSealProjectionRecord D),
      issueProjectionRecord sha256 source boundary hostId recordedAt = .ok trusted →
      validateTrustedProjectionRecord sha256 trusted source source.sealedPartition.hostId = .ok () ∧
      (∀ (proofId : Identifier) (created : UtcMillis), source.emittedAt ≤ created →
        ∃ proof, issuePositionProof sha256 proofId.val hostId boundary source close receipt trusted
          policy (PyDatetime.utcMillis created) = .ok proof) ∧
      ∀ (proofId hostId' : String) (proofCreatedAt : PyDatetime)
        (proof : R1Role2VerifiedPositionCloseProof D),
        issuePositionProof sha256 proofId hostId' boundary source close receipt trusted policy
          proofCreatedAt = .ok proof →
        ∀ now, admits proof.proofCreatedAt now → ∃ v, validatePositionProof sha256 proof close receipt
          policy (positionExpectationOf sha256 source close trusted) now = .ok v

variable {casefold sha256}

/-- Position-close proofs are sound and complete, at every reading of the clock in UTC
milliseconds that does not precede the proof. -/
theorem positionProof_sound_complete
    (hprojections : ∀ p q, sha256 (.sealProjection p) = sha256 (.sealProjection q) → p = q)
    (hreceipts : ∀ r s, sha256 (.receipt r) = sha256 (.receipt s) → r = s) :
    PositionProofSound sha256 ∧ PositionProofComplete casefold sha256 MillisNotBefore := by
  constructor
  · intro source hostId proof close receipt policy expected now v hdigest hvalid
    obtain ⟨-, htrusted⟩ := role2SafePositionSealProjectionSha256_eq_ok.mp hdigest
    obtain ⟨hchecks, t, -, -, rfl⟩ := validatePositionProof_eq_ok.mp hvalid
    exact ⟨positionAgrees_of_validates hprojections hreceipts htrusted hvalid,
      hchecks.projectionRecord⟩
  · intro source runMetadata close receipt actions actionRecord completion policy boundary hbinding
    obtain ⟨rfl, hreceipt, hbinds⟩ := validatePositionSealBinding_eq_ok hbinding
    constructor
    · intro recorded hrecorded
      exact ⟨_, issueProjectionRecord_eq_ok.mpr ⟨rfl, rfl, recorded, rfl, hrecorded, rfl⟩⟩
    · intro hostId recordedAt trusted htrusted
      obtain ⟨-, rfl, recorded, rfl, hrecorded, rfl⟩ := issueProjectionRecord_eq_ok.mp htrusted
      refine ⟨validateTrustedProjectionRecord_projectionRecordOf hrecorded, ?_, ?_⟩
      · intro proofId created hcreated
        exact exists_issuePositionProof hreceipt hbinds proofId hrecorded hcreated
      · rintro proofId hostId' proofCreatedAt proof hproof now ⟨t, rfl, hcreated⟩
        have hchecks := positionChecks_of_issued hreceipt hbinds hproof
        exact ⟨_, validatePositionProof_eq_ok.mpr ⟨hchecks, t, rfl, hcreated, rfl⟩⟩

end Law

/-! ## A sample seal -/

namespace Sample

/-- Digests of the payloads of a sample seal, each with what tells it apart. -/
inductive PositionDigest where
  | file (number : Nat)
  | positionClose (closeId : Identifier) (emittedAt : UtcMillis)
  | other
  | receipt (closeId : Identifier) (partition : R1StreamPartition) (closeContent : PositionDigest)
      (ledgerEntryId : Nat) (acceptedAt : UtcMillis)
  | positionSeal (sealId : Identifier) (runId : RunId) (familyId : FamilyId)
      (runType : Persistence.RunType) (closeId : Identifier) (closeContent : PositionDigest)
      (receipt : PositionDigest) (partition : R1StreamPartition) (lower upper : Nat)
      (generation : PositionDigest) (covered : Nat) (chunks reconciliation contract : PositionDigest)
      (policyId version configPath : Identifier) (configHash : PositionDigest)
      (boundary : R1CandidateBoundaryAttestation) (emittedAt : UtcMillis)
  | projection (sealId : Identifier) (runId : RunId) (hostId : Identifier) (familyId : FamilyId)
      (policyId version configPath : Identifier) (configHash : PositionDigest) (closeId : Identifier)
      (closeContent receipt : PositionDigest) (partition : R1StreamPartition) (lower upper : Nat)
      (generation : PositionDigest) (covered : Nat) (chunks reconciliation contract : PositionDigest)
      (boundaryAt verifiedAt : UtcMillis)
  | projectionContent (sealId : Identifier) (runId : String) (hostId : Identifier)
      (sealContent projection : PositionDigest) (recordedAt : UtcMillis)
  | projectionRecord (sealId : Identifier) (runId : String) (hostId : Identifier)
      (sealContent projection : PositionDigest) (recordedAt : UtcMillis)
      (recordContent : PositionDigest)
  | closeProof (proofId : Identifier) (record : PositionDigest) (proofCreatedAt : UtcMillis)
  deriving DecidableEq

def receiptDigest (r : R1AcceptedRecordPositionCloseReceipt PositionDigest) : PositionDigest :=
  .receipt r.closeId r.partition r.closeContentSha256 r.ledgerEntryId r.acceptedAt

def digestOf : PositionSealPayload PositionDigest → PositionDigest
  | .position (.positionClose close) => .positionClose close.closeId close.emittedAt
  | .position _ => .other
  | .receipt r => receiptDigest r
  | .positionSeal s => .positionSeal s.sealId s.runId s.familyId s.runType s.inputPositionCloseId
      s.inputPositionCloseContentSha256 (receiptDigest s.positionCloseReceipt) s.sealedPartition
      s.positionFrontier.lowerRecordId s.positionFrontier.upperRecordId
      s.positionFrontier.channelGenerationId s.coveredThroughChunkSequence s.coveredChunksSha256
      s.sourceReconciliationSha256 s.requiredPartitionContractSha256 s.candidatePolicy.policyId
      s.candidatePolicy.version s.candidatePolicy.configPath s.candidatePolicy.configHash s.boundary
      s.emittedAt
  | .sealProjection p => .projection p.sourceSealId p.runId p.hostId p.familyId
      p.candidatePolicy.policyId p.candidatePolicy.version p.candidatePolicy.configPath
      p.candidatePolicy.configHash p.inputPositionCloseId p.inputPositionCloseContentSha256
      p.positionCloseReceiptSha256 p.sealedPartition p.positionFrontier.lowerRecordId
      p.positionFrontier.upperRecordId p.positionFrontier.channelGenerationId
      p.coveredThroughChunkSequence p.coveredChunksSha256 p.sourceReconciliationSha256
      p.requiredPartitionContractSha256 p.candidateBoundaryAt p.verifiedSealAt
  | .projectionContent c => .projectionContent c.sealId c.runId c.hostId c.sealContentSha256
      c.projectionSha256 c.recordedAt
  | .projectionRecord r => .projectionRecord r.sealId r.runId r.hostId r.sealContentSha256
      r.projectionSha256 r.recordedAt r.recordContentSha256
  | .closeProof c => .closeProof c.proofId c.sourceSealProjectionRecordSha256 c.proofCreatedAt

theorem receiptDigest_inj {r s : R1AcceptedRecordPositionCloseReceipt PositionDigest}
    (h : receiptDigest r = receiptDigest s) : r = s := by
  cases r
  cases s
  simp only [receiptDigest, PositionDigest.receipt.injEq] at h
  simp only [R1AcceptedRecordPositionCloseReceipt.mk.injEq]
  exact h

theorem digestOf_projection (p q : PositionSealProjection PositionDigest)
    (h : digestOf (.sealProjection p) = digestOf (.sealProjection q)) :
    p = q := by
  obtain ⟨_, _, _, _, ⟨_, _, _, _⟩, _, _, _, _, ⟨_, _, _, _, _⟩, _, _, _, _, _, _⟩ := p
  obtain ⟨_, _, _, _, ⟨_, _, _, _⟩, _, _, _, _, ⟨_, _, _, _, _⟩, _, _, _, _, _, _⟩ := q
  simp only [digestOf, PositionDigest.projection.injEq] at h
  simp only [PositionSealProjection.mk.injEq, R1CandidatePolicyIdentity.mk.injEq,
    R1RecordPositionFrontier.mk.injEq]
  simp only [h, and_self]

def positionPolicy : R1CandidateGenerationPolicy PositionDigest :=
  { policy with configHash := .file 1 }

def frontier : R1RecordPositionFrontier PositionDigest where
  lowerRecordId := 5
  upperRecordId := 6
  channelGenerationId := .file 2
  lowerRecordId_pos := by decide
  lower_le_upper := by decide

theorem candidate_le_observation : (2000 : UtcMillis) ≤ 2500 := by decide

theorem observation_le_emitted : (2500 : UtcMillis) ≤ 3000 := by decide

theorem closeId_ne_empty : "position-1" ≠ "" := by decide

theorem closeId_not_padded : isPadded "position-1" = false := by decide

theorem requestId_ne_empty : "request-1" ≠ "" := by decide

theorem requestId_not_padded : isPadded "request-1" = false := by decide

theorem partition_runId : Stream.Sample.partition.runId = Stream.Sample.runId := rfl

theorem ackCount_eq_covered : 1 = 1 := rfl

/-- A position close of the sample partition. -/
def positionClose : R1RecordPositionClose PositionDigest where
  closeId := ⟨"position-1", closeId_ne_empty, closeId_not_padded⟩
  runId := Stream.Sample.runId
  partition := Stream.Sample.partition
  requiredPartitionContract := ⟨Stream.Sample.partition.hostId, .file 3⟩
  positionFrontier := frontier
  coveredThroughChunkSequence := 1
  coveredChunksSha256 := .file 4
  postCommitAckCount := 1
  eventCount := 1
  sourceNativeIdentitySha256 := .file 5
  liveIdentitySha256 := .file 6
  canonicalIdentitySha256 := .file 6
  sourceSnapshot := ⟨⟨"request-1", requestId_ne_empty, requestId_not_padded⟩, .file 7, .file 8,
    .file 9, .file 10, .file 11, .file 12⟩
  candidateBoundaryAt := 2000
  observationBoundaryAt := 2500
  emittedAt := 3000
  covered_pos := Nat.one_pos
  eventCount_pos := Nat.one_pos
  partition_runId := partition_runId
  contract_host := rfl
  live_eq_canonical := rfl
  ackCount_eq_covered := ackCount_eq_covered
  candidate_le_observation := candidate_le_observation
  observation_le_emitted := observation_le_emitted

def positionReceipt : R1AcceptedRecordPositionCloseReceipt PositionDigest where
  closeId := positionClose.closeId
  partition := Stream.Sample.partition
  closeContentSha256 := .positionClose positionClose.closeId 3000
  ledgerEntryId := 1
  acceptedAt := 3500
  ledgerEntryId_pos := Nat.one_pos

/-- The seal over the sample position close, of a Run of a type. -/
def positionSeal (runType : Persistence.RunType) :
    Except PyError (R1PositionCandidateGenerationSeal PositionDigest) :=
  issuePositionSeal id digestOf "seal-1" { runMetadata with runType } positionClose
    positionReceipt [action] attestation record completion positionPolicy (PyDatetime.utcMillis 4000)

theorem positionSeal_issued (runType : Persistence.RunType) :
    ∃ source, positionSeal runType = .ok source := by
  cases h : positionSeal runType with
  | ok source => exact ⟨source, rfl⟩
  | error e =>
    have hok : (positionSeal runType).isOk = true := by cases runType <;> decide
    simp [h, Except.isOk, Except.toBool] at hok

/-- Where the law holds, the sample position close has a proof that validates. -/
theorem exists_positionProof {admits : UtcMillis → PyDatetime → Prop}
    (hlaw : PositionProofComplete id digestOf admits) :
    ∃ source trusted proof, positionSeal .normal = .ok source ∧
      role2SafePositionSealProjectionSha256 digestOf source source.sealedPartition.hostId.val =
        .ok (positionExpectationOf digestOf source positionClose
          trusted).acceptedSourceSealProjectionSha256 ∧
      ∀ now, admits proof.proofCreatedAt now → ∃ v, validatePositionProof digestOf proof
        positionClose positionReceipt positionPolicy
        (positionExpectationOf digestOf source positionClose trusted) now = .ok v := by
  obtain ⟨source, hsource⟩ := positionSeal_issued .normal
  obtain ⟨-, boundary, hboundary⟩ := issuePositionSeal_eq_ok hsource
  obtain ⟨hrecords, hyields⟩ := hlaw source { runMetadata with runType := .normal } positionClose
    positionReceipt [action] record completion positionPolicy boundary hboundary
  obtain ⟨trusted, htrusted⟩ := hrecords source.emittedAt le_rfl
  obtain ⟨-, hproofs, hvalidates⟩ := hyields _ _ trusted htrusted
  obtain ⟨proof, hproof⟩ := hproofs familyId.val source.emittedAt le_rfl
  obtain ⟨-, -, t, -, -, hrecord⟩ := issueProjectionRecord_eq_ok.mp htrusted
  have hprojection : role2SafePositionSealProjectionSha256 digestOf source
      source.sealedPartition.hostId.val = .ok trusted.projectionSha256 :=
    role2SafePositionSealProjectionSha256_eq_ok.mpr ⟨rfl, by rw [hrecord]; rfl⟩
  exact ⟨source, trusted, proof, hsource, hprojection, hvalidates _ _ _ proof hproof⟩

end Sample

open Sample

/-- A proof of the sample position close validates at its creation, and agrees with its seal. -/
theorem positionProof_sound_complete_sample : ∃ source v, positionSeal .normal = .ok source ∧
    PositionAgrees digestOf source positionClose positionReceipt v := by
  have hlaw : PositionProofSound digestOf ∧ PositionProofComplete id digestOf MillisNotBefore :=
    positionProof_sound_complete digestOf_projection fun _ _ h => receiptDigest_inj h
  obtain ⟨sound, complete⟩ := hlaw
  obtain ⟨source, trusted, proof, hsource, hprojection, hvalidates⟩ := exists_positionProof complete
  obtain ⟨v, hv⟩ := hvalidates (PyDatetime.utcMillis proof.proofCreatedAt) ⟨_, rfl, le_rfl⟩
  exact ⟨source, v, hsource, (sound source _ proof _ _ _ _ _ v hprojection hv).1⟩

/-- A reading of sub-millisecond precision after the creation of a proof is refused. -/
theorem positionProof_complete_fails :
    ¬ (PositionProofSound digestOf ∧ PositionProofComplete id digestOf NotBefore) := by
  intro hlaw
  obtain ⟨source, trusted, proof, -, -, hvalidates⟩ := exists_positionProof hlaw.2
  have hlater : NotBefore proof.proofCreatedAt (.aware (proof.proofCreatedAt * 1000 + 500) 0) := by
    show proof.proofCreatedAt * 1000 ≤ proof.proofCreatedAt * 1000 + 500
    exact Int.le_add_of_nonneg_right (by decide)
  obtain ⟨v, hv⟩ := hvalidates _ hlater
  obtain ⟨-, t, hnow, -⟩ := validatePositionProof_eq_ok.mp hv
  exact not_utcMillis_of_half hnow

end IncidentAwareness.Seal
