import IncidentAwareness.Seal.CloseProof

/-!
# What a validated close proof says

* `validateProof_eq_ok`: a proof validates where every check of Role2 holds;
* `agrees_of_validates`: a proof that validates against the trusted projection digest
  of a seal and an accepted close agrees with both on every field it binds;
* `closeProof_sound_complete`: and a proof that was issued over a seal validates.
-/

namespace IncidentAwareness.Seal

open IncidentAwareness.Common IncidentAwareness.Lib IncidentAwareness.Stream

variable {D : Type}

/-! ## Run ids -/

theorem not_isPadded_of_no_space {s : String} (h : ∀ c ∈ s.toList, isSpace c = false) :
    isPadded s = false := by
  have hdrop : ∀ cs : List Char, (∀ c ∈ cs, isSpace c = false) → cs.dropWhile isSpace = cs := by
    intro cs hcs
    cases cs with
    | nil => rfl
    | cons c cs => rw [List.dropWhile_cons_of_neg (by simp [hcs c List.mem_cons_self])]
  have hreverse : ∀ c ∈ s.toList.reverse, isSpace c = false :=
    fun c hc => h c (List.mem_reverse.mp hc)
  simp [isPadded, strip, hdrop _ h, hdrop _ hreverse]

theorem not_isSpace_of_isDigit {c : Char} (h : c.isDigit = true) : isSpace c = false := by
  have hrange : 48 ≤ c.toNat ∧ c.toNat ≤ 57 := by
    simp only [Char.isDigit, Bool.and_eq_true, decide_eq_true_eq, UInt32.le_iff_toNat_le] at h
    exact h
  simp only [isSpace]
  simp only [Bool.or_eq_false_iff, Bool.and_eq_false_iff, decide_eq_false_iff_not, beq_eq_false_iff_ne]
  omega

theorem runId_form (r : RunId) : hasRunIdForm r.val = true := by
  have hvalid := r.valid
  simp only [isRunId, isIsoDate, Bool.and_eq_true, decide_eq_true_eq, List.all_eq_true] at hvalid
  obtain ⟨⟨⟨⟨hhead, hdate⟩, hdash⟩, hlength⟩, hsequence⟩ := hvalid
  have hdigits : ∀ c ∈ (r.val.toList.drop 4).take 8, c.isDigit = true := hdate.1.1.1.1.1.2
  simp only [hasRunIdForm, Bool.and_eq_true, decide_eq_true_eq, List.all_eq_true]
  exact ⟨⟨⟨⟨hhead, hdigits⟩, hdash⟩, hlength⟩, hsequence⟩

/-- The characters of a run id. -/
theorem runId_chars (r : RunId) :
    ∀ c ∈ r.val.toList, c.isDigit = true ∨ c ∈ ['R', 'U', 'N', '-'] := by
  have hform := runId_form r
  simp only [hasRunIdForm, Bool.and_eq_true, decide_eq_true_eq, List.all_eq_true] at hform
  obtain ⟨⟨⟨⟨hhead, hdigits⟩, hdash⟩, -⟩, hsequence⟩ := hform
  -- The characters of the four parts.
  have hsplit : r.val.toList = r.val.toList.take 4 ++ ((r.val.toList.drop 4).take 8 ++
      ((r.val.toList.drop 12).take 1 ++ r.val.toList.drop 13)) := by
    conv_lhs => rw [← List.take_append_drop 4 r.val.toList]
    rw [List.append_cancel_left_eq]
    conv_lhs => rw [← List.take_append_drop 8 (r.val.toList.drop 4)]
    rw [List.append_cancel_left_eq, List.drop_drop]
    conv_lhs => rw [← List.take_append_drop 1 (r.val.toList.drop (4 + 8))]
    rw [List.drop_drop]
  intro c hc
  rw [hsplit, hhead, hdash] at hc
  rcases List.mem_append.mp hc with hc | hc
  · exact .inr hc
  · rcases List.mem_append.mp hc with hc | hc
    · exact .inl (hdigits c hc)
    · rcases List.mem_append.mp hc with hc | hc
      · rw [List.mem_singleton.mp hc]
        exact .inr (by decide)
      · exact .inl (hsequence c hc)

theorem runId_no_space (r : RunId) : ∀ c ∈ r.val.toList, isSpace c = false := by
  intro c hc
  rcases runId_chars r c hc with hdigit | hletter
  · exact not_isSpace_of_isDigit hdigit
  · have hletters : (['R', 'U', 'N', '-'].all fun c => isSpace c = false) = true := by decide
    exact of_decide_eq_true (List.all_eq_true.mp hletters c hletter)

theorem validateRunId_eq_ok {value : String} {r : RunId} :
    validateRunId value = .ok r ↔ r.val = value := by
  constructor
  · intro h
    simp only [validateRunId, raiseIf_bind_eq_ok] at h
    obtain ⟨-, -, h⟩ := h
    split at h
    · rw [← Except.ok.inj h]
    · cases h
  · rintro rfl
    have hpadded := not_isPadded_of_no_space (runId_no_space r)
    rw [validateRunId, raiseIf_of_not (by simp [hpadded]), Except.ok_bind',
      raiseIf_of_not (by simp [runId_form r]), Except.ok_bind', dif_pos r.valid]

/-! ## Receipts and seals -/

section Bindings

variable [DecidableEq D] {sha256 : ClosePayload D → D}

/-- A receipt of a close. -/
structure ReceiptBinds (sha256 : ClosePayload D → D) (receipt : R1AcceptedRunCloseReceipt D)
    (close : R1RunClosed) : Prop where
  runId : receipt.runId = close.runId
  closeId : receipt.closeId = close.closeId
  content : receipt.contentSha256 = r1RunClosedSha256 sha256 close

theorem validateAcceptedCloseReceipt_eq_ok {receipt : R1AcceptedRunCloseReceipt D}
    {close : R1RunClosed} {u : Unit} :
    validateAcceptedCloseReceipt sha256 receipt close = .ok u ↔ ReceiptBinds sha256 receipt close := by
  simp only [validateAcceptedCloseReceipt, raiseIf_bind_eq_ok, raiseIf_eq_ok, not_not]
  constructor
  · rintro ⟨h₁, h₂, h₃⟩
    exact ⟨h₁, h₂, h₃⟩
  · exact fun h => ⟨h.runId, h.closeId, h.content⟩

/-- A seal that is bound to a close and a policy. -/
structure SealBinds (source : R1CandidateGenerationSeal D) (close : R1RunClosed)
    (policy : R1CandidateGenerationPolicy D) : Prop where
  runId : source.runId = close.runId
  closeId : source.inputCloseId = close.closeId
  watermarks : source.sealedPartitions = close.finalWatermarks
  familyId : source.familyId = policy.familyId
  policy : source.candidatePolicy.values = policyIdentity policy
  covers : ∀ w ∈ source.sealedPartitions, source.boundary.completedAt ≤ w.watermarkAt
  emitted : close.emittedAt ≤ source.emittedAt

theorem validateSealBinding_eq_ok {casefold : String → String} {source : R1CandidateGenerationSeal D}
    {runMetadata : RunMetadata} {close : R1RunClosed} {actions : List R1ScenarioAction}
    {record : ExecutionRecordRow} {completion : R1CandidateBoundaryCompletion}
    {policy : R1CandidateGenerationPolicy D} {boundary : R1VerifiedCandidateBoundary}
    (h : validateSealBinding casefold source runMetadata close actions record completion policy =
      .ok boundary) : boundary = boundaryOf source ∧ SealBinds source close policy := by
  obtain ⟨_, -, h₁⟩ := Except.bind_eq_ok.mp h
  simp only [raiseIf_bind_eq_ok, not_not, not_exists, not_and, not_lt] at h₁
  obtain ⟨hrun, -, hclose, hwatermarks, hcovers, hpolicy, hfamily, h₂⟩ := h₁
  obtain ⟨last, -, h₃⟩ := Except.bind_eq_ok.mp h₂
  obtain ⟨_, -, h₄⟩ := Except.bind_eq_ok.mp h₃
  obtain ⟨_, -, h₅⟩ := Except.bind_eq_ok.mp h₄
  obtain ⟨_, -, h₆⟩ := Except.bind_eq_ok.mp h₅
  obtain ⟨hemitted, h₇⟩ := raiseIf_bind_eq_ok.mp h₆
  exact ⟨Except.pure_eq_ok.mp h₇,
    ⟨hrun, hclose, hwatermarks, hfamily, hpolicy, hcovers, not_lt.mp hemitted⟩⟩

/-- An issued seal passes the binding check. -/
theorem exists_binding_of_issued {casefold : String → String} {sealId : String}
    {runMetadata : RunMetadata} {close : R1RunClosed} {actions : List R1ScenarioAction}
    {attestation : R1CandidateBoundaryAttestation} {record : ExecutionRecordRow}
    {completion : R1CandidateBoundaryCompletion} {policy : R1CandidateGenerationPolicy D}
    {emittedAt : PyDatetime} {source : R1CandidateGenerationSeal D}
    (h : issueSeal casefold sealId runMetadata close actions attestation record completion policy
      emittedAt = .ok source) :
    ∃ boundary, validateSealBinding casefold source runMetadata close actions record completion
      policy = .ok boundary := by
  obtain ⟨_, -, h₁⟩ := Except.bind_eq_ok.mp h
  obtain ⟨_, -, h₂⟩ := Except.bind_eq_ok.mp h₁
  obtain ⟨_, -, h₃⟩ := Except.bind_eq_ok.mp h₂
  obtain ⟨_, -, h₄⟩ := Except.bind_eq_ok.mp h₃
  obtain ⟨_, -, h₅⟩ := Except.bind_eq_ok.mp h₄
  obtain ⟨-, h₆⟩ := raiseIf_bind_eq_ok.mp h₅
  obtain ⟨_, -, h₇⟩ := Except.bind_eq_ok.mp h₆
  obtain ⟨built, -, h₈⟩ := Except.bind_eq_ok.mp h₇
  obtain ⟨boundary, hbinding, h₉⟩ := Except.bind_eq_ok.mp h₈
  rw [Except.pure_eq_ok.mp h₉]
  exact ⟨boundary, hbinding⟩

theorem validateSourceBinding_eq_ok {boundary : R1VerifiedCandidateBoundary}
    {source : R1CandidateGenerationSeal D} {close : R1RunClosed}
    {policy : R1CandidateGenerationPolicy D} {hostId : Identifier} {u : Unit} :
    validateSourceBinding boundary source close policy hostId = .ok u ↔
      boundary = boundaryOf source ∧ SealBinds source close policy ∧
        ∃ w ∈ source.sealedPartitions, w.partition.hostId = hostId := by
  simp only [validateSourceBinding, raiseIf_bind_eq_ok, raiseIf_eq_ok, not_not, not_lt]
  constructor
  · rintro ⟨rfl, hrun, hclose, hwatermarks, hfamily, hpolicy, hhost, hcovers, hemitted⟩
    have hall : ∀ w ∈ source.sealedPartitions, source.boundary.completedAt ≤ w.watermarkAt :=
      fun w hw => not_lt.mp fun hlt => hcovers ⟨w, hw, hlt⟩
    exact ⟨rfl, ⟨hrun, hclose, hwatermarks, hfamily, hpolicy, hall, hemitted⟩, hhost⟩
  · rintro ⟨rfl, h, hhost⟩
    refine ⟨rfl, h.runId, h.closeId, h.watermarks, h.familyId, h.policy, hhost, ?_, h.emitted⟩
    rintro ⟨w, hw, hlt⟩
    exact absurd (h.covers w hw) (not_le.mpr hlt)

omit [DecidableEq D] in
theorem role2SafeSourceSealProjectionSha256_eq_ok {source : R1CandidateGenerationSeal D}
    {hostId : String} {digest : D} :
    role2SafeSourceSealProjectionSha256 sha256 source hostId = .ok digest ↔
      ∃ host : Identifier, host.val = hostId ∧
        (∃ w ∈ source.sealedPartitions, w.partition.hostId = host) ∧
        digest = sha256 (.sourceSealProjection (sealProjection source host)) := by
  simp only [role2SafeSourceSealProjectionSha256, Except.bind_eq_ok, raiseIf_eq_ok,
    validateUnpadded_eq_ok, Except.pure_eq_ok, not_not, exists_and_left, exists_const]

end Bindings

/-! ## Validated proofs -/

section Validation

variable [DecidableEq D] {sha256 : ClosePayload D → D}

/-- Every check of Role2. -/
structure ProofChecks (sha256 : ClosePayload D → D) (proof : R1Role2VerifiedCloseProof D)
    (close : R1RunClosed) (receipt : R1AcceptedRunCloseReceipt D)
    (policy : R1CandidateGenerationPolicy D) (expected : CloseProofExpectation D) : Prop where
  receipt : ReceiptBinds sha256 receipt close
  content : proof.proofContentSha256 = sha256 (.closeProof proof.toCloseProofContent)
  runId : expected.runId = proof.runId.val
  closeRunId : close.runId = proof.runId
  selectorRunId : expected.selectorPartition.runId = proof.runId
  hostId : proof.hostId = expected.selectorPartition.hostId
  familyId : expected.familyId = proof.familyId.val.val
  policyFamilyId : policy.familyId = proof.familyId
  sourceSealId : expected.acceptedSourceSealId = proof.sourceSealId.val
  projection : proof.sourceSealProjectionSha256 = expected.acceptedSourceSealProjectionSha256
  projectionFields : proofSourceSealProjectionSha256 sha256 proof =
    expected.acceptedSourceSealProjectionSha256
  closeId : proof.inputCloseId = close.closeId
  closeContent : proof.acceptedRunClosedContentSha256 = r1RunClosedSha256 sha256 close
  closeEmittedAt : proof.inputCloseEmittedAt = close.emittedAt
  watermarks : proof.sealedPartitions = close.finalWatermarks
  selector : expected.selectorPartition ∈ proof.sealedPartitions.map (·.partition)
  policy : proof.candidatePolicy.values = policyIdentity policy

/-- A proof validates where every check holds and the clock reads a UTC millisecond that
does not precede the proof. -/
theorem validateProof_eq_ok {proof : R1Role2VerifiedCloseProof D} {close : R1RunClosed}
    {receipt : R1AcceptedRunCloseReceipt D} {policy : R1CandidateGenerationPolicy D}
    {expected : CloseProofExpectation D} {now : PyDatetime}
    {v : R1Role2VerifiedCloseProofValidation D} :
    validateProof sha256 proof close receipt policy expected now = .ok v ↔
      ProofChecks sha256 proof close receipt policy expected ∧
        ∃ t, now = PyDatetime.utcMillis t ∧ proof.proofCreatedAt ≤ t ∧ v = ⟨proof, t⟩ := by
  simp only [validateProof, requireProofContentHash, Except.bind_eq_ok, raiseIf_eq_ok,
    validateAcceptedCloseReceipt_eq_ok, validateRunId_eq_ok, validateFamilyId_eq_ok,
    validateUnpadded_eq_ok, validateProofUtcMilliseconds, requireUtcMilliseconds_eq_ok,
    Except.pure_eq_ok, exists_const, not_not, not_or, not_exists, not_and, not_lt]
  constructor
  · rintro ⟨hreceipt, hcontent, runId, hrunId, familyId, hfamilyId, sealId, hsealId, t, rfl,
      ⟨rfl, hclose⟩, hselector, hhost, ⟨rfl, hpolicyFamily⟩, rfl, hprojection, hfields, hcloseId,
      hcloseContent, hemitted, hwatermarks, hmem, hpolicy, -, -, hcreated, rfl⟩
    exact ⟨⟨hreceipt, hcontent, hrunId.symm, hclose, hselector, hhost, hfamilyId.symm, hpolicyFamily,
      hsealId.symm, hprojection, hfields, hcloseId, hcloseContent, hemitted, hwatermarks, hmem,
      hpolicy⟩, t, rfl, hcreated, rfl⟩
  · rintro ⟨h, t, rfl, hcreated, rfl⟩
    have hverified : close.emittedAt ≤ proof.verifiedSealAt :=
      h.closeEmittedAt ▸ proof.emitted_le_verified
    exact ⟨h.receipt, h.content, _, h.runId.symm, _, h.familyId.symm, _, h.sourceSealId.symm,
      t, rfl, ⟨rfl, h.closeRunId⟩, h.selectorRunId, h.hostId, ⟨rfl, h.policyFamilyId⟩, rfl,
      h.projection, h.projectionFields, h.closeId, h.closeContent, h.closeEmittedAt, h.watermarks,
      h.selector, h.policy, proof.watermarks_cover, hverified, hcreated, rfl⟩

/-- A proof agrees with a seal and a close on every field that it binds, the digests are
those of what they name, and the times are in order. -/
structure Agrees (sha256 : ClosePayload D → D) (source : R1CandidateGenerationSeal D)
    (host : Identifier) (close : R1RunClosed) (v : R1Role2VerifiedCloseProofValidation D) : Prop where
  runId : v.proof.runId = source.runId ∧ source.runId = close.runId
  hostId : v.proof.hostId = host
  familyId : v.proof.familyId = source.familyId
  candidatePolicy : v.proof.candidatePolicy = source.candidatePolicy
  sourceSealId : v.proof.sourceSealId = source.sealId
  inputCloseId : v.proof.inputCloseId = source.inputCloseId ∧ source.inputCloseId = close.closeId
  inputCloseEmittedAt : v.proof.inputCloseEmittedAt = close.emittedAt
  candidateBoundaryAt : v.proof.candidateBoundaryAt = source.boundary.completedAt
  sealedPartitions : v.proof.sealedPartitions = source.sealedPartitions ∧
    source.sealedPartitions = close.finalWatermarks
  verifiedSealAt : v.proof.verifiedSealAt = source.emittedAt
  projectionSha256 : v.proof.sourceSealProjectionSha256 =
    sha256 (.sourceSealProjection (sealProjection source host))
  closeSha256 : v.proof.acceptedRunClosedContentSha256 = r1RunClosedSha256 sha256 close
  contentSha256 : v.proof.proofContentSha256 = sha256 (.closeProof v.proof.toCloseProofContent)
  watermarks_cover : ∀ w ∈ close.finalWatermarks, source.boundary.completedAt ≤ w.watermarkAt
  emitted_le_verified : close.emittedAt ≤ source.emittedAt
  verified_le_created : source.emittedAt ≤ v.proof.proofCreatedAt
  created_le_validated : v.proof.proofCreatedAt ≤ v.proofValidatedAt

/-- A proof that validates against the trusted projection digest of a seal agrees with the
seal and the close. -/
theorem agrees_of_validates
    (hinj : ∀ p q, sha256 (.sourceSealProjection p) = sha256 (.sourceSealProjection q) → p = q)
    {source : R1CandidateGenerationSeal D} {host : Identifier} {proof : R1Role2VerifiedCloseProof D}
    {close : R1RunClosed} {receipt : R1AcceptedRunCloseReceipt D}
    {policy : R1CandidateGenerationPolicy D} {expected : CloseProofExpectation D} {now : PyDatetime}
    {v : R1Role2VerifiedCloseProofValidation D}
    (htrusted : expected.acceptedSourceSealProjectionSha256 =
      sha256 (.sourceSealProjection (sealProjection source host)))
    (h : validateProof sha256 proof close receipt policy expected now = .ok v) :
    Agrees sha256 source host close v := by
  obtain ⟨hchecks, t, rfl, hcreated, rfl⟩ := validateProof_eq_ok.mp h
  -- One digest, so one projection.
  have hprojection : proofProjection proof = sealProjection source host :=
    hinj _ _ (hchecks.projectionFields.trans htrusted)
  have hrunId : proof.runId = source.runId := congrArg SourceSealProjection.runId hprojection
  have hcloseId : proof.inputCloseId = source.inputCloseId :=
    congrArg SourceSealProjection.inputCloseId hprojection
  have hboundary : proof.candidateBoundaryAt = source.boundary.completedAt :=
    congrArg SourceSealProjection.candidateBoundaryAt hprojection
  have hpartitions : proof.sealedPartitions = source.sealedPartitions :=
    congrArg SourceSealProjection.sealedPartitions hprojection
  have hverified : proof.verifiedSealAt = source.emittedAt :=
    congrArg SourceSealProjection.verifiedSealAt hprojection
  exact {
    runId := ⟨hrunId, hrunId.symm.trans hchecks.closeRunId.symm⟩
    hostId := congrArg SourceSealProjection.hostId hprojection
    familyId := congrArg SourceSealProjection.familyId hprojection
    candidatePolicy := congrArg SourceSealProjection.candidatePolicy hprojection
    sourceSealId := congrArg SourceSealProjection.sourceSealId hprojection
    inputCloseId := ⟨hcloseId, hcloseId.symm.trans hchecks.closeId⟩
    inputCloseEmittedAt := hchecks.closeEmittedAt
    candidateBoundaryAt := hboundary
    sealedPartitions := ⟨hpartitions, hpartitions.symm.trans hchecks.watermarks⟩
    verifiedSealAt := hverified
    projectionSha256 := hchecks.projection.trans htrusted
    closeSha256 := hchecks.closeContent
    contentSha256 := hchecks.content
    watermarks_cover := fun w hw => hboundary ▸ proof.watermarks_cover w (hchecks.watermarks ▸ hw)
    emitted_le_verified := hverified ▸ hchecks.closeEmittedAt ▸ proof.emitted_le_verified
    verified_le_created := hverified ▸ proof.verified_le_created
    created_le_validated := hcreated }

/-- What Role2 expects of a proof over a seal, for one of its partitions. -/
def expectationOf (source : R1CandidateGenerationSeal D) (p : R1StreamPartition) (digest : D) :
    CloseProofExpectation D where
  runId := source.runId.val
  familyId := source.familyId.val.val
  selectorPartition := p
  acceptedSourceSealId := source.sealId.val
  acceptedSourceSealProjectionSha256 := digest

/-- A proof that was issued over a seal passes the checks of Role2. -/
theorem checks_of_issued {proofId hostId : String} {boundary : R1VerifiedCandidateBoundary}
    {source : R1CandidateGenerationSeal D} {close : R1RunClosed}
    {receipt : R1AcceptedRunCloseReceipt D} {policy : R1CandidateGenerationPolicy D}
    {proofCreatedAt : PyDatetime} {proof : R1Role2VerifiedCloseProof D} {digest : D}
    {p : R1StreamPartition}
    (h : issueProof sha256 proofId hostId boundary source close receipt policy proofCreatedAt =
      .ok proof)
    (hdigest : role2SafeSourceSealProjectionSha256 sha256 source hostId = .ok digest)
    (hmem : p ∈ close.finalWatermarks.map (·.partition)) (hhost : p.hostId.val = hostId) :
    ProofChecks sha256 proof close receipt policy (expectationOf source p digest) := by
  obtain ⟨host, hhostId, h₁⟩ := Except.bind_eq_ok.mp h
  obtain ⟨_, hreceipt, h₂⟩ := Except.bind_eq_ok.mp h₁
  obtain ⟨_, hbinding, h₃⟩ := Except.bind_eq_ok.mp h₂
  obtain ⟨createdAt, -, h₄⟩ := Except.bind_eq_ok.mp h₃
  obtain ⟨projection, hprojection, h₅⟩ := Except.bind_eq_ok.mp h₄
  obtain ⟨proofId', -, h₆⟩ := Except.bind_eq_ok.mp h₅
  obtain ⟨rfl, hbinds, -⟩ := validateSourceBinding_eq_ok.mp hbinding
  obtain rfl := validateUnpadded_eq_ok.mp hhostId
  obtain rfl := Except.ok.inj (hprojection.symm.trans hdigest)
  obtain ⟨host', hhost', -, hdigest'⟩ := role2SafeSourceSealProjectionSha256_eq_ok.mp hdigest
  obtain rfl := Identifier.ext hhost'
  have hrunId : p.runId = source.runId := by
    obtain ⟨w, hw, rfl⟩ := List.mem_map.mp hmem
    exact (close.partitions_scope w hw).trans hbinds.runId.symm
  unfold buildProof at h₆
  iterate 7
    obtain ⟨_, h₆⟩ := dite_error_eq_ok.mp h₆
  obtain ⟨_, -, h₇⟩ := Except.bind_eq_ok.mp h₆
  obtain rfl := Except.pure_eq_ok.mp h₇
  exact {
    receipt := validateAcceptedCloseReceipt_eq_ok.mp hreceipt
    content := rfl
    runId := rfl
    closeRunId := hbinds.runId.symm
    selectorRunId := hrunId
    hostId := Identifier.ext hhost.symm
    familyId := rfl
    policyFamilyId := hbinds.familyId.symm
    sourceSealId := rfl
    projection := rfl
    projectionFields := by
      rw [proofSourceSealProjectionSha256, expectationOf, hdigest', proofProjection, sealProjection,
        hbinds.closeId, hbinds.watermarks]
      rfl
    closeId := rfl
    closeContent := rfl
    closeEmittedAt := rfl
    watermarks := rfl
    selector := hmem
    policy := hbinds.policy }

/-- A content that passes its checks is a proof under its own digest. -/
theorem exists_buildProof {content : CloseProofContent D} (hne : content.sealedPartitions ≠ [])
    (hnodup : (content.sealedPartitions.map (·.partition)).Nodup)
    (hscope : ∀ w ∈ content.sealedPartitions, w.partition.runId = content.runId)
    (hhost : ∃ w ∈ content.sealedPartitions, w.partition.hostId = content.hostId)
    (hcovers : ∀ w ∈ content.sealedPartitions, content.candidateBoundaryAt ≤ w.watermarkAt)
    (hemitted : content.inputCloseEmittedAt ≤ content.verifiedSealAt)
    (hcreated : content.verifiedSealAt ≤ content.proofCreatedAt) :
    ∃ proof, buildProof sha256 content (sha256 (.closeProof content)) = .ok proof := by
  have hscope' : ¬ ∃ w ∈ content.sealedPartitions, w.partition.runId ≠ content.runId :=
    fun ⟨w, hw, hne⟩ => hne (hscope w hw)
  have hcovers' : ¬ ∃ w ∈ content.sealedPartitions, w.watermarkAt < content.candidateBoundaryAt :=
    fun ⟨w, hw, hlt⟩ => absurd (hcovers w hw) (not_le.mpr hlt)
  rw [buildProof, dif_neg hne, dif_neg (not_not.mpr hnodup), dif_neg hscope',
    dif_neg (not_not.mpr hhost), dif_neg hcovers', dif_neg (not_lt.mpr hemitted),
    dif_neg (not_lt.mpr hcreated), requireProofContentHash, raiseIf_of_not (not_not.mpr rfl)]
  exact ⟨_, rfl⟩

/-- A seal that is bound, with a receipt of its close, yields a proof. -/
theorem exists_issueProof {source : R1CandidateGenerationSeal D} {close : R1RunClosed}
    {receipt : R1AcceptedRunCloseReceipt D} {policy : R1CandidateGenerationPolicy D}
    (hbinds : SealBinds source close policy) (hreceipt : ReceiptBinds sha256 receipt close)
    {host : Identifier} (hhost : ∃ w ∈ source.sealedPartitions, w.partition.hostId = host)
    (proofId : Identifier) {created : UtcMillis} (hcreated : source.emittedAt ≤ created) :
    ∃ proof, issueProof sha256 proofId.val host.val (boundaryOf source) source close receipt policy
      (PyDatetime.utcMillis created) = .ok proof := by
  have hdigest : role2SafeSourceSealProjectionSha256 sha256 source host.val =
      .ok (sha256 (.sourceSealProjection (sealProjection source host))) :=
    role2SafeSourceSealProjectionSha256_eq_ok.mpr ⟨host, rfl, hhost, rfl⟩
  have hreceiptOk : validateAcceptedCloseReceipt sha256 receipt close = .ok () :=
    validateAcceptedCloseReceipt_eq_ok.mpr hreceipt
  have hbindingOk : validateSourceBinding (boundaryOf source) source close policy host = .ok () :=
    validateSourceBinding_eq_ok.mpr ⟨rfl, hbinds, hhost⟩
  have hcovers : ∀ w ∈ close.finalWatermarks, source.boundary.completedAt ≤ w.watermarkAt :=
    fun w hw => hbinds.covers w (hbinds.watermarks ▸ hw)
  have hscope : ∀ w ∈ close.finalWatermarks, w.partition.runId = source.runId :=
    fun w hw => (close.partitions_scope w hw).trans hbinds.runId.symm
  rw [issueProof, validateUnpadded_val, Except.ok_bind', hreceiptOk, Except.ok_bind', hbindingOk,
    Except.ok_bind', validateProofUtcMilliseconds, requireUtcMilliseconds_eq_ok.mpr rfl,
    Except.ok_bind', hdigest, Except.ok_bind', validateUnpadded_val, Except.ok_bind']
  rw [hbinds.watermarks] at hhost
  exact exists_buildProof close.finalWatermarks_ne_nil close.partitions_nodup hscope hhost hcovers
    hbinds.emitted hcreated

end Validation

/-! ## The law -/

/-- A clock reading at or after a millisecond. -/
def NotBefore (t : UtcMillis) : PyDatetime → Prop
  | .naive => False
  | .aware instant _ => t * 1000 ≤ instant

/-- A reading at or after a millisecond that is in UTC and has millisecond precision. -/
def MillisNotBefore (t : UtcMillis) (now : PyDatetime) : Prop :=
  ∃ t', now = PyDatetime.utcMillis t' ∧ t ≤ t'

/-- Half a millisecond past one is the datetime of no millisecond. -/
theorem not_utcMillis_of_half {s t : UtcMillis}
    (h : PyDatetime.aware (s * 1000 + 500) 0 = PyDatetime.utcMillis t) : False := by
  have hmillis : s * 1000 + 500 = t * 1000 := (PyDatetime.aware.inj h).1
  have hprecision := congrArg (· % 1000) hmillis
  simp [Int.add_emod] at hprecision

section Law

variable [DecidableEq D] (casefold : String → String) (sha256 : ClosePayload D → D)

/-- What validates against the trusted projection digest of a seal agrees with the seal and
the accepted close. -/
def CloseProofSound : Prop :=
  ∀ (source : R1CandidateGenerationSeal D) (hostId : String) (proof : R1Role2VerifiedCloseProof D)
    (close : R1RunClosed) (receipt : R1AcceptedRunCloseReceipt D)
    (policy : R1CandidateGenerationPolicy D) (expected : CloseProofExpectation D) (now : PyDatetime)
    (v : R1Role2VerifiedCloseProofValidation D),
    role2SafeSourceSealProjectionSha256 sha256 source hostId =
      .ok expected.acceptedSourceSealProjectionSha256 →
    validateProof sha256 proof close receipt policy expected now = .ok v →
    ∃ host : Identifier, host.val = hostId ∧ Agrees sha256 source host close v

/-- An issued seal with a receipt of its close yields proofs, and what is issued validates
at every admitted reading of the clock. -/
def CloseProofComplete (admits : UtcMillis → PyDatetime → Prop) : Prop :=
  ∀ (sealId : String) (runMetadata : RunMetadata) (close : R1RunClosed)
    (actions : List R1ScenarioAction) (attestation : R1CandidateBoundaryAttestation)
    (record : ExecutionRecordRow) (completion : R1CandidateBoundaryCompletion)
    (policy : R1CandidateGenerationPolicy D) (emittedAt : PyDatetime)
    (source : R1CandidateGenerationSeal D) (boundary : R1VerifiedCandidateBoundary)
    (receipt : R1AcceptedRunCloseReceipt D) (p : R1StreamPartition),
    issueSeal casefold sealId runMetadata close actions attestation record completion policy emittedAt =
      .ok source →
    validateSealBinding casefold source runMetadata close actions record completion policy =
      .ok boundary →
    ReceiptBinds sha256 receipt close → p ∈ close.finalWatermarks.map (·.partition) →
    (∀ (proofId : Identifier) (created : UtcMillis), source.emittedAt ≤ created →
      ∃ proof, issueProof sha256 proofId.val p.hostId.val boundary source close receipt policy
        (PyDatetime.utcMillis created) = .ok proof) ∧
    ∀ (proofId : String) (proofCreatedAt : PyDatetime) (proof : R1Role2VerifiedCloseProof D)
      (digest : D),
      issueProof sha256 proofId p.hostId.val boundary source close receipt policy proofCreatedAt =
        .ok proof →
      role2SafeSourceSealProjectionSha256 sha256 source p.hostId.val = .ok digest →
      ∀ now, admits proof.proofCreatedAt now → ∃ v,
        validateProof sha256 proof close receipt policy (expectationOf source p digest) now = .ok v

variable {casefold sha256}

/-- Close proofs are sound and complete, at every reading of the clock in UTC milliseconds
that does not precede the proof. -/
theorem closeProof_sound_complete
    (hinj : ∀ p q, sha256 (.sourceSealProjection p) = sha256 (.sourceSealProjection q) → p = q) :
    CloseProofSound sha256 ∧ CloseProofComplete casefold sha256 MillisNotBefore := by
  constructor
  · intro source hostId proof close receipt policy expected now v hdigest hvalid
    obtain ⟨host, hhost, -, htrusted⟩ := role2SafeSourceSealProjectionSha256_eq_ok.mp hdigest
    exact ⟨host, hhost, agrees_of_validates hinj htrusted hvalid⟩
  · intro sealId runMetadata close actions attestation record completion policy emittedAt source
      boundary receipt p hissued hbinding hreceipt hmem
    obtain ⟨rfl, hbinds⟩ := validateSealBinding_eq_ok hbinding
    refine ⟨fun proofId created hcreated => ?_, ?_⟩
    · obtain ⟨w, hw, rfl⟩ := List.mem_map.mp hmem
      exact exists_issueProof hbinds hreceipt ⟨w, hbinds.watermarks ▸ hw, rfl⟩ proofId hcreated
    · rintro proofId proofCreatedAt proof digest hproof hdigest now ⟨t, rfl, hcreated⟩
      have hchecks := checks_of_issued hproof hdigest hmem rfl
      exact ⟨_, validateProof_eq_ok.mpr ⟨hchecks, t, rfl, hcreated, rfl⟩⟩

end Law

/-! ## A sample close -/

namespace Sample

open Stream.Sample (partition)

/-- Digests of the payloads of a sample close, each with what tells it apart. -/
inductive Digest where
  | file (number : Nat)
  | runClosed (close : R1RunClosed)
  | projection (sourceSealId : Identifier) (runId : RunId) (hostId : Identifier)
      (familyId : FamilyId) (policyId version configPath : Identifier) (configHash : Digest)
      (inputCloseId : Identifier) (candidateBoundaryAt : UtcMillis)
      (sealedPartitions : List R1FinalPartitionWatermark) (verifiedSealAt : UtcMillis)
  | closeProof (proofId : Identifier) (proofCreatedAt : UtcMillis)
  deriving DecidableEq

def closeSha256 : ClosePayload Digest → Digest
  | .runClosed close => .runClosed close
  | .sourceSealProjection p => .projection p.sourceSealId p.runId p.hostId p.familyId
      p.candidatePolicy.policyId p.candidatePolicy.version p.candidatePolicy.configPath
      p.candidatePolicy.configHash p.inputCloseId p.candidateBoundaryAt p.sealedPartitions
      p.verifiedSealAt
  | .closeProof content => .closeProof content.proofId content.proofCreatedAt

theorem closeSha256_projection (p q : SourceSealProjection Digest)
    (h : closeSha256 (.sourceSealProjection p) = closeSha256 (.sourceSealProjection q)) : p = q := by
  obtain ⟨_, _, _, _, ⟨_, _, _, _⟩, _, _, _, _⟩ := p
  obtain ⟨_, _, _, _, ⟨_, _, _, _⟩, _, _, _, _⟩ := q
  simp only [closeSha256, Digest.projection.injEq] at h
  simp only [SourceSealProjection.mk.injEq, R1CandidatePolicyIdentity.mk.injEq]
  simp only [h, and_self]

theorem family_unexposed : exposedLabelWord "family-a" = none := by decide +kernel

def familyId : FamilyId := ⟨⟨"family-a", by decide, by decide⟩, family_unexposed⟩

def action : R1ScenarioAction :=
  ⟨⟨"action-1", by decide, by decide⟩, ⟨"cleanup", by decide, by decide⟩,
    ⟨"remote_close", by decide, by decide⟩, 0⟩

def ownedProcess : OwnedProcessConfig :=
  ⟨⟨"final_tool", by decide, by decide⟩, ⟨"C:\tool.exe", by decide, by decide⟩⟩

def policy : R1CandidateGenerationPolicy Digest where
  canonicalPath := "configs/policies.yaml"
  configHash := .file 1
  policyId := ⟨"policy-a", by decide, by decide⟩
  version := ⟨"v0.1", by decide, by decide⟩
  familyId := familyId
  normalBoundary := ⟨action.actionId, action.step, action.actionType⟩
  attackBoundary := ⟨action.actionId, action.step, action.actionType⟩
  normalOwnedProcesses := [ownedProcess]
  attackOwnedProcesses := [ownedProcess]
  acceptedTerminalStates := ["exited"]
  protectedNonOwnedProcessNames := []
  normalRoles_nodup := List.nodup_singleton _
  attackRoles_nodup := List.nodup_singleton _

def runMetadata : RunMetadata where
  runId := "RUN-20260101-001"
  scenarioId := "scenario-1"
  runType := .normal
  targetHost := "host-a"
  startTime := 0
  familyId := some "family-a"

def attestation : R1CandidateBoundaryAttestation where
  actionId := action.actionId
  step := action.step
  actionType := action.actionType
  completedAt := 2000
  ownedProcesses := [⟨ownedProcess.role, ownedProcess.image, ⟨"guid-1", by decide, by decide⟩,
    ⟨"exited", by decide, by decide⟩⟩]
  ownedProcesses_ne_nil := List.cons_ne_nil _ _
  roles_nodup := List.nodup_singleton _

def record : ExecutionRecordRow := ⟨"RUN-20260101-001", "action-1", 1000000, "remote_close"⟩

theorem started_le_completed : (1000 : UtcMillis) ≤ 2000 := by decide

def completion : R1CandidateBoundaryCompletion where
  runId := ⟨"RUN-20260101-001", by decide, by decide⟩
  actionId := action.actionId
  step := action.step
  actionType := action.actionType
  actionStartedAt := 1000
  completedAt := 2000
  completionSource := .remoteSessionCloseCompletedAt
  started_le_completed := started_le_completed

def closeReceipt : R1AcceptedRunCloseReceipt Digest :=
  ⟨Stream.Sample.runId, Stream.Sample.close.closeId, .runClosed Stream.Sample.close⟩

/-- The seal over the sample close. -/
def closeSeal : Except PyError (R1CandidateGenerationSeal Digest) :=
  issueSeal id "seal-1" runMetadata Stream.Sample.close [action] attestation record completion policy
    (PyDatetime.utcMillis 4000)

theorem closeSeal_issued : ∃ source, closeSeal = .ok source := by
  cases h : closeSeal with
  | ok source => exact ⟨source, rfl⟩
  | error e =>
    have hok : closeSeal.isOk = true := by decide
    simp [h, Except.isOk, Except.toBool] at hok

/-- Where the law holds, the sample close has a proof that validates. -/
theorem exists_proof {admits : UtcMillis → PyDatetime → Prop}
    (hlaw : CloseProofComplete id closeSha256 admits) :
    ∃ source digest proof, closeSeal = .ok source ∧
      role2SafeSourceSealProjectionSha256 closeSha256 source partition.hostId.val = .ok digest ∧
      ∀ now, admits proof.proofCreatedAt now → ∃ v, validateProof closeSha256 proof
        Stream.Sample.close closeReceipt policy (expectationOf source partition digest) now =
          .ok v := by
  obtain ⟨source, hsource⟩ := closeSeal_issued
  obtain ⟨boundary, hboundary⟩ := exists_binding_of_issued hsource
  have hmem : partition ∈ Stream.Sample.close.finalWatermarks.map (·.partition) := by decide
  obtain ⟨hproofs, hvalidates⟩ := hlaw "seal-1" runMetadata Stream.Sample.close [action]
    attestation record completion policy (PyDatetime.utcMillis 4000) source boundary closeReceipt
    partition hsource hboundary ⟨rfl, rfl, rfl⟩ hmem
  obtain ⟨proof, hproof⟩ := hproofs familyId.val source.emittedAt le_rfl
  have hbinds := (validateSealBinding_eq_ok hboundary).2
  have hhost : ∃ w ∈ source.sealedPartitions, w.partition.hostId = partition.hostId := by
    obtain ⟨w, hw, hpartition⟩ := List.mem_map.mp hmem
    exact ⟨w, hbinds.watermarks ▸ hw, congrArg _ hpartition⟩
  have hdigest : role2SafeSourceSealProjectionSha256 closeSha256 source partition.hostId.val =
      .ok (closeSha256 (.sourceSealProjection (sealProjection source partition.hostId))) :=
    role2SafeSourceSealProjectionSha256_eq_ok.mpr ⟨partition.hostId, rfl, hhost, rfl⟩
  exact ⟨source, _, proof, hsource, hdigest, hvalidates _ _ proof _ hproof hdigest⟩

end Sample

open Sample

/-- A proof of the sample close validates at its creation, and agrees with its seal. -/
theorem closeProof_sound_complete_sample : ∃ source v, closeSeal = .ok source ∧
    Agrees closeSha256 source partition.hostId Stream.Sample.close v := by
  have hlaw : CloseProofSound closeSha256 ∧ CloseProofComplete id closeSha256 MillisNotBefore :=
    closeProof_sound_complete closeSha256_projection
  obtain ⟨sound, complete⟩ := hlaw
  obtain ⟨source, digest, proof, hsource, hdigest, hvalidates⟩ := exists_proof complete
  obtain ⟨v, hv⟩ := hvalidates (PyDatetime.utcMillis proof.proofCreatedAt) ⟨_, rfl, le_rfl⟩
  obtain ⟨host, hhost, hagrees⟩ := sound source _ proof _ _ _ _ _ v hdigest hv
  obtain rfl := Identifier.ext hhost
  exact ⟨source, v, hsource, hagrees⟩

/-- A reading of sub-millisecond precision after the creation of a proof is refused. -/
theorem closeProof_complete_fails :
    ¬ (CloseProofSound closeSha256 ∧ CloseProofComplete id closeSha256 NotBefore) := by
  intro hlaw
  obtain ⟨source, digest, proof, -, -, hvalidates⟩ := exists_proof hlaw.2
  have hlater : NotBefore proof.proofCreatedAt (.aware (proof.proofCreatedAt * 1000 + 500) 0) := by
    show proof.proofCreatedAt * 1000 ≤ proof.proofCreatedAt * 1000 + 500
    exact Int.le_add_of_nonneg_right (by decide)
  obtain ⟨v, hv⟩ := hvalidates _ hlater
  obtain ⟨-, t, hnow, -⟩ := validateProof_eq_ok.mp hv
  exact not_utcMillis_of_half hnow

end IncidentAwareness.Seal
