import IncidentAwareness.Seal.PositionProofSpec

/-!
# What a position proof tells Role2 of the Ground Truth

Two seals with one Role2-safe projection may differ in their run type and in their owned
processes. What Role2 receives over them agrees on every field but two: the digest of the
projection record, which covers the digest of the whole seal, and the digest of the proof,
which covers that of the record (`role2Delivery_interferes`).
-/

namespace IncidentAwareness.Seal

open IncidentAwareness.Common IncidentAwareness.Lib IncidentAwareness.Stream
open IncidentAwareness.Position

variable {D : Type}

/-- What Role2 receives: the proof and the values of its trusted channel. -/
structure Role2Delivery (D : Type) where
  proof : R1Role2VerifiedPositionCloseProof D
  sealId : Identifier
  projectionSha256 : D
  projectionRecordSha256 : D

variable [DecidableEq D]

/-- Role4 records the projection of a verified seal and issues the proof from the record. -/
def deliverProof (sha256 : PositionSealPayload D → D) (proofId hostId : String)
    (close : R1RecordPositionClose D) (receipt : R1AcceptedRecordPositionCloseReceipt D)
    (policy : R1CandidateGenerationPolicy D) (recordedAt proofCreatedAt : PyDatetime)
    (source : R1PositionCandidateGenerationSeal D) (boundary : R1VerifiedPositionCandidateBoundary) :
    Except PyError (Role2Delivery D) := do
  let trusted ← issueProjectionRecord sha256 source boundary hostId recordedAt
  let proof ← issuePositionProof sha256 proofId hostId boundary source close receipt trusted policy
    proofCreatedAt
  return {
    proof
    sealId := source.sealId
    projectionSha256 := trusted.projectionSha256
    projectionRecordSha256 := projectionRecordSha256 sha256 trusted }

section Interference

variable {sha256 : PositionSealPayload D → D}

omit [DecidableEq D] in
/-- Of seals with one projection, proof contents differ in the record digest only. -/
theorem positionProofContentOf_congr {source source' : R1PositionCandidateGenerationSeal D}
    {host : Identifier} (h : positionSealProjection sha256 source host =
      positionSealProjection sha256 source' host) (proofId : Identifier)
    (close : R1RecordPositionClose D) (receipt : R1AcceptedRecordPositionCloseReceipt D)
    (recorded created : UtcMillis) :
    positionProofContentOf sha256 proofId source close receipt
        (projectionRecordOf sha256 source recorded) created =
      { positionProofContentOf sha256 proofId source' close receipt
          (projectionRecordOf sha256 source' recorded) created with
        sourceSealProjectionRecordSha256 :=
          projectionRecordSha256 sha256 (projectionRecordOf sha256 source recorded) } := by
  simp only [positionSealProjection, PositionSealProjection.mk.injEq] at h
  simp only [positionProofContentOf, projectionRecordOf, positionSealProjection, h]

omit [DecidableEq D] in
/-- The digest of a projection record tells the seals apart. -/
theorem seal_eq_of_projectionRecordSha256
    (hseals : ∀ s t, sha256 (.positionSeal s) = sha256 (.positionSeal t) → s = t)
    (hrecords : ∀ r s, sha256 (.projectionRecord r) = sha256 (.projectionRecord s) → r = s)
    {source source' : R1PositionCandidateGenerationSeal D} {recorded : UtcMillis}
    (h : projectionRecordSha256 sha256 (projectionRecordOf sha256 source recorded) =
      projectionRecordSha256 sha256 (projectionRecordOf sha256 source' recorded)) :
    source = source' := by
  have hrecord := hrecords _ _ h
  simp only [projectionRecordOf, R1PositionSealProjectionRecord.mk.injEq,
    PositionSealProjectionContent.mk.injEq] at hrecord
  exact hseals _ _ hrecord.1.2.2.2.1

/-- What a delivery carries, over a seal and the time of its projection record. -/
theorem deliverProof_eq_ok {proofId hostId : String} {close : R1RecordPositionClose D}
    {receipt : R1AcceptedRecordPositionCloseReceipt D} {policy : R1CandidateGenerationPolicy D}
    {recordedAt proofCreatedAt : PyDatetime} {source : R1PositionCandidateGenerationSeal D}
    {boundary : R1VerifiedPositionCandidateBoundary} {d : Role2Delivery D}
    (h : deliverProof sha256 proofId hostId close receipt policy recordedAt proofCreatedAt source
      boundary = .ok d) :
    ∃ (id : Identifier) (recorded created : UtcMillis), id.val = proofId ∧
      recordedAt = PyDatetime.utcMillis recorded ∧ proofCreatedAt = PyDatetime.utcMillis created ∧
      d.proof.toPositionCloseProofContent = positionProofContentOf sha256 id source close receipt
        (projectionRecordOf sha256 source recorded) created ∧
      d.sealId = source.sealId ∧
      d.projectionSha256 = (projectionRecordOf sha256 source recorded).projectionSha256 ∧
      d.projectionRecordSha256 =
        projectionRecordSha256 sha256 (projectionRecordOf sha256 source recorded) := by
  obtain ⟨trusted, htrusted, h₁⟩ := Except.bind_eq_ok.mp h
  obtain ⟨proof, hproof, h₂⟩ := Except.bind_eq_ok.mp h₁
  obtain ⟨-, -, recorded, hrecorded, -, rfl⟩ := issueProjectionRecord_eq_ok.mp htrusted
  obtain ⟨id, created, hid, hcreated, hcontent, -⟩ := issuePositionProof_eq_ok hproof
  obtain rfl := Except.pure_eq_ok.mp h₂
  exact ⟨id, recorded, created, hid, hrecorded, hcreated, hcontent, rfl, rfl, rfl⟩

/-- What Role2 receives over two seals of one projection that differ in the Ground Truth:
never the same, and the same but for the two digests over the record. -/
theorem role2Delivery_interferes
    (hseals : ∀ s t, sha256 (.positionSeal s) = sha256 (.positionSeal t) → s = t)
    (hrecords : ∀ r s, sha256 (.projectionRecord r) = sha256 (.projectionRecord s) → r = s)
    {source source' : R1PositionCandidateGenerationSeal D} {host : Identifier}
    (hprojection : positionSealProjection sha256 source host =
      positionSealProjection sha256 source' host)
    (htruth : source.runType ≠ source'.runType ∨
      source.boundary.ownedProcesses ≠ source'.boundary.ownedProcesses)
    {proofId hostId : String} {close : R1RecordPositionClose D}
    {receipt : R1AcceptedRecordPositionCloseReceipt D} {policy : R1CandidateGenerationPolicy D}
    {recordedAt proofCreatedAt : PyDatetime} {boundary boundary' : R1VerifiedPositionCandidateBoundary}
    {d d' : Role2Delivery D}
    (h : deliverProof sha256 proofId hostId close receipt policy recordedAt proofCreatedAt source
      boundary = .ok d)
    (h' : deliverProof sha256 proofId hostId close receipt policy recordedAt proofCreatedAt source'
      boundary' = .ok d') :
    d.proof ≠ d'.proof ∧ d.projectionRecordSha256 ≠ d'.projectionRecordSha256 ∧
      d.sealId = d'.sealId ∧ d.projectionSha256 = d'.projectionSha256 ∧
      d.proof.toPositionCloseProofContent = { d'.proof.toPositionCloseProofContent with
        sourceSealProjectionRecordSha256 := d.proof.sourceSealProjectionRecordSha256 } := by
  obtain ⟨id, recorded, created, hid, hrecorded, hcreated, hcontent, hsealId, hsha, hrecord⟩ :=
    deliverProof_eq_ok h
  obtain ⟨id', recorded', created', hid', hrecorded', hcreated', hcontent', hsealId', hsha',
    hrecord'⟩ := deliverProof_eq_ok h'
  obtain rfl := Identifier.ext (hid.trans hid'.symm)
  obtain rfl := PyDatetime.utcMillis_inj (hrecorded.symm.trans hrecorded')
  obtain rfl := PyDatetime.utcMillis_inj (hcreated.symm.trans hcreated')
  have hne : source ≠ source' := by
    rintro rfl
    exact htruth.elim (fun hne => hne rfl) fun hne => hne rfl
  have hdigests : projectionRecordSha256 sha256 (projectionRecordOf sha256 source recorded) ≠
      projectionRecordSha256 sha256 (projectionRecordOf sha256 source' recorded) :=
    fun heq => hne (seal_eq_of_projectionRecordSha256 hseals hrecords heq)
  have hprojections : (projectionRecordOf sha256 source recorded).projectionSha256 =
      (projectionRecordOf sha256 source' recorded).projectionSha256 := by
    have hfields := hprojection
    simp only [positionSealProjection, PositionSealProjection.mk.injEq] at hfields
    simp only [projectionRecordOf, positionSealProjection, hfields]
  refine ⟨fun heq => hdigests ?_, ?_, ?_, ?_, ?_⟩
  · have hsame : d.proof.sourceSealProjectionRecordSha256 =
        d'.proof.sourceSealProjectionRecordSha256 := by rw [heq]
    rwa [hcontent, hcontent'] at hsame
  · rwa [hrecord, hrecord']
  · rw [hsealId, hsealId']
    exact congrArg PositionSealProjection.sourceSealId hprojection
  · rw [hsha, hsha', hprojections]
  · rw [hcontent, hcontent']
    exact positionProofContentOf_congr hprojection id close receipt recorded created

/-- Role2 receives the same over any two seals of one projection. -/
def Role2Noninterference (sha256 : PositionSealPayload D → D) : Prop :=
  ∀ (source source' : R1PositionCandidateGenerationSeal D) (host : Identifier),
    positionSealProjection sha256 source host = positionSealProjection sha256 source' host →
    (source.runType ≠ source'.runType ∨
      source.boundary.ownedProcesses ≠ source'.boundary.ownedProcesses) →
    ∀ (proofId hostId : String) (close : R1RecordPositionClose D)
      (receipt : R1AcceptedRecordPositionCloseReceipt D) (policy : R1CandidateGenerationPolicy D)
      (recordedAt proofCreatedAt : PyDatetime)
      (boundary boundary' : R1VerifiedPositionCandidateBoundary) (d d' : Role2Delivery D),
      deliverProof sha256 proofId hostId close receipt policy recordedAt proofCreatedAt source boundary =
        .ok d →
      deliverProof sha256 proofId hostId close receipt policy recordedAt proofCreatedAt source'
        boundary' = .ok d' →
      d = d'

end Interference

/-! ## Sample seals of an attack Run and a normal Run -/

section Sample

open Sample

/-- A sample seal of a type, with what is delivered over it. -/
theorem exists_sample_delivery (runType : Persistence.RunType) :
    ∃ (source : R1PositionCandidateGenerationSeal PositionDigest) (d : Role2Delivery PositionDigest),
      source.runType = runType ∧ source.sealId.val = "seal-1" ∧ source.emittedAt = 4000 ∧
      PositionSealBinds digestOf source positionClose positionReceipt positionPolicy ∧
      deliverProof digestOf "proof-1" Stream.Sample.partition.hostId.val positionClose positionReceipt
        positionPolicy (PyDatetime.utcMillis 5000) (PyDatetime.utcMillis 6000) source
        (positionBoundaryOf source) = .ok d := by
  obtain ⟨source, hsource⟩ := positionSeal_issued runType
  obtain ⟨⟨hsealId, hrunType, -, hemitted⟩, boundary, hbinding⟩ := issuePositionSeal_eq_ok hsource
  obtain ⟨-, hreceipt, hbinds⟩ := validatePositionSealBinding_eq_ok hbinding
  have hemitted : source.emittedAt = 4000 := PyDatetime.utcMillis_inj hemitted.symm
  have hhost : Stream.Sample.partition.hostId.val = source.sealedPartition.hostId.val := by
    rw [hbinds.partition]
    rfl
  have hrecorded : source.emittedAt ≤ 5000 := by
    rw [hemitted]
    decide
  have hcreated : source.emittedAt ≤ 6000 := by
    rw [hemitted]
    decide
  obtain ⟨proof, hproof⟩ := exists_issuePositionProof hreceipt hbinds
    ⟨"proof-1", by decide, by decide⟩ hrecorded hcreated
  have hrecord : issueProjectionRecord digestOf source (positionBoundaryOf source)
      Stream.Sample.partition.hostId.val (PyDatetime.utcMillis 5000) =
      .ok (projectionRecordOf digestOf source 5000) :=
    issueProjectionRecord_eq_ok.mpr ⟨rfl, hhost, 5000, rfl, hrecorded, rfl⟩
  refine ⟨source, ⟨proof, source.sealId, (projectionRecordOf digestOf source 5000).projectionSha256,
    projectionRecordSha256 digestOf (projectionRecordOf digestOf source 5000)⟩, hrunType, hsealId,
    hemitted, hbinds, ?_⟩
  rw [← hhost] at hproof
  rw [deliverProof, hrecord, Except.ok_bind', hproof, Except.ok_bind']
  rfl

theorem digestOf_positionSeal (s t : R1PositionCandidateGenerationSeal PositionDigest)
    (h : digestOf (.positionSeal s) = digestOf (.positionSeal t)) : s = t := by
  obtain ⟨_, _, _, _, _, _, _, _, ⟨_, _, _, _, _⟩, _, _, _, _, ⟨_, _, _, _⟩, _, _, _⟩ := s
  obtain ⟨_, _, _, _, _, _, _, _, ⟨_, _, _, _, _⟩, _, _, _, _, ⟨_, _, _, _⟩, _, _, _⟩ := t
  simp only [digestOf, PositionDigest.positionSeal.injEq] at h
  have hreceipt := receiptDigest_inj h.2.2.2.2.2.2.1
  simp only [R1PositionCandidateGenerationSeal.mk.injEq, R1CandidatePolicyIdentity.mk.injEq,
    R1RecordPositionFrontier.mk.injEq]
  simp only [h, hreceipt, and_self]

theorem digestOf_projectionRecord (r s : R1PositionSealProjectionRecord PositionDigest)
    (h : digestOf (.projectionRecord r) = digestOf (.projectionRecord s)) : r = s := by
  obtain ⟨⟨_, _, _, _, _, _⟩, _⟩ := r
  obtain ⟨⟨_, _, _, _, _, _⟩, _⟩ := s
  simp only [digestOf, PositionDigest.projectionRecord.injEq] at h
  simp only [R1PositionSealProjectionRecord.mk.injEq, PositionSealProjectionContent.mk.injEq]
  simp only [h, and_self]

/-- The attack seal and the normal seal of one projection. -/
theorem exists_sample_deliveries :
    ∃ (source source' : R1PositionCandidateGenerationSeal PositionDigest)
      (d d' : Role2Delivery PositionDigest),
      positionSealProjection digestOf source Stream.Sample.partition.hostId =
        positionSealProjection digestOf source' Stream.Sample.partition.hostId ∧
      source.runType = .attack ∧ source'.runType = .normal ∧
      deliverProof digestOf "proof-1" Stream.Sample.partition.hostId.val positionClose positionReceipt
        positionPolicy (PyDatetime.utcMillis 5000) (PyDatetime.utcMillis 6000) source
        (positionBoundaryOf source) = .ok d ∧
      deliverProof digestOf "proof-1" Stream.Sample.partition.hostId.val positionClose positionReceipt
        positionPolicy (PyDatetime.utcMillis 5000) (PyDatetime.utcMillis 6000) source'
        (positionBoundaryOf source') = .ok d' := by
  obtain ⟨source, d, hattack, hsealId, hemitted, hbinds, hd⟩ := exists_sample_delivery .attack
  obtain ⟨source', d', hnormal, hsealId', hemitted', hbinds', hd'⟩ := exists_sample_delivery .normal
  have hprojection := positionSealProjection_congr hbinds hbinds'
    (Identifier.ext (hsealId.trans hsealId'.symm)) (hemitted.trans hemitted'.symm)
    Stream.Sample.partition.hostId
  exact ⟨source, source', d, d', hprojection, hattack, hnormal, hd, hd'⟩

/-- Over the sample seals Role2 receives different record digests. -/
theorem role2Delivery_interferes_sample :
    ∃ d d' : Role2Delivery PositionDigest,
      d.proof ≠ d'.proof ∧ d.projectionRecordSha256 ≠ d'.projectionRecordSha256 ∧
        d.projectionSha256 = d'.projectionSha256 := by
  obtain ⟨source, source', d, d', hprojection, hattack, hnormal, hd, hd'⟩ := exists_sample_deliveries
  have htruth : source.runType ≠ source'.runType := by
    rw [hattack, hnormal]
    decide
  obtain ⟨hproof, hrecord, -, hsha, -⟩ := role2Delivery_interferes digestOf_positionSeal
    digestOf_projectionRecord hprojection (.inl htruth) hd hd'
  exact ⟨d, d', hproof, hrecord, hsha⟩

/-- Role2 can tell the sample attack Run from the normal one. -/
theorem role2Noninterference_fails : ¬ Role2Noninterference digestOf := by
  intro h
  obtain ⟨source, source', d, d', hprojection, hattack, hnormal, hd, hd'⟩ := exists_sample_deliveries
  have htruth : source.runType ≠ source'.runType := by
    rw [hattack, hnormal]
    decide
  have hsame := h source source' _ hprojection (.inl htruth) _ _ _ _ _ _ _ _ _ d d' hd hd'
  -- Equal deliveries name one record, so one seal.
  obtain ⟨_, _, _, _, hrecorded, _, _, _, _, hrecord⟩ := deliverProof_eq_ok hd
  obtain ⟨_, _, _, _, hrecorded', _, _, _, _, hrecord'⟩ := deliverProof_eq_ok hd'
  obtain rfl := PyDatetime.utcMillis_inj (hrecorded.symm.trans hrecorded')
  rw [hsame, hrecord'] at hrecord
  have hseal := seal_eq_of_projectionRecordSha256 digestOf_positionSeal digestOf_projectionRecord
    hrecord
  rw [hseal] at htruth
  exact htruth rfl

end Sample

end IncidentAwareness.Seal
