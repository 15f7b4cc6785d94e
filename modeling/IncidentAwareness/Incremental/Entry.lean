import IncidentAwareness.Incremental.State
import IncidentAwareness.Lib.Process

/-!
# The calls of the incremental Evidence state

`accept_chunk`, `accept_run_closed`, `accept_verified_close_proof` and
`finalize_at_run_end`, in the order in which they check and write. `IncrementalCall`
is a call with its arguments; between two calls the ingress may be used by others.
-/

namespace IncidentAwareness.Incremental

open IncidentAwareness.Common IncidentAwareness.Lib IncidentAwareness.Stream
open IncidentAwareness.Evidence IncidentAwareness.Seal

variable {D S : Type}

/-- A program of the ingress. -/
def onIngress {α : Type} (x : EStateM PyError (IngressState D S) α) : Method D S α := fun m =>
  match x.run m.ingress with
  | .ok a ingress => .ok a { m with ingress }
  | .error e ingress => .error e { m with ingress }

/-- Writes to the fields of the state. -/
def update (change : IncrementalEvidenceState D → IncrementalEvidenceState D) : Method D S Unit :=
  modify fun m => { m with evidence := change m.evidence }

/-- `self._snapshot = snapshot`, and its return. -/
def setSnapshot (snapshot : IncrementalEvidenceSnapshot D) :
    Method D S (IncrementalEvidenceSnapshot D) := do
  update fun s => { s with snapshot }
  return snapshot

/-- `_fail_closed`. -/
def failClosed (config : IncrementalConfig) (diagnostics : List String) : Method D S Unit :=
  update fun s => { s with snapshot := s.failedClosedSnapshot config diagnostics }

/-- The snapshot is recomputed from the Events and the chunks. -/
def refreshSnapshot (config : IncrementalConfig) : Method D S (IncrementalEvidenceSnapshot D) := do
  let snapshot ← reads fun m =>
    m.evidence.provisionalSnapshot config (m.evidence.chunkCoverageDiagnostics config)
  setSnapshot snapshot

/-! ## Chunks -/

section Chunk

variable [DecidableEq D] (config : IncrementalConfig) (sha256 : CanonicalPayload → D)

/-- What `accept_chunk` requires of a chunk by itself. -/
def requireChunk (chunk : R1EventChunk D) : Except PyError Unit := do
  raiseIf (chunk.partition.runId.val ≠ config.runId.val)
    (.valueError "chunk run_id does not match incremental state")
  raiseIf (config.requiredPartitionContract ≠ none ∧ ¬ config.isSelectorPartition chunk.partition)
    (.valueError "chunk partition is outside the required-partition contract")
  raiseIf (chunkSha256 sha256 chunk ≠ chunk.chunkContentSha256)
    (.valueError "chunk_content_sha256 does not match the canonical chunk payload")

namespace IncrementalEvidenceState

variable (s : IncrementalEvidenceState D)

/-- The chunk was accepted before, with the same content. -/
def isKnownChunk (chunk : R1EventChunk D) : Except PyError Bool :=
  match s.chunkHashes.find (chunk.partition, chunk.chunkId) with
  | none => .ok false
  | some existing => do
    raiseIf (existing ≠ chunkSha256 sha256 chunk)
      (.valueError "chunk identity was reused with different content")
    return true

/-- `_validate_chunk_after_run_closed`, where a close is recorded. -/
def validateChunkAfterRunClosed (chunk : R1EventChunk D) : Except PyError Unit :=
  match s.runClosed with
  | none => .ok ()
  | some runClosed =>
    match runClosed.finalWatermarks.find? fun item => item.partition = chunk.partition with
    | none => .error (.valueError "new chunk partition is not sealed by run_closed")
    | some item =>
      raiseIf (item.coveredThroughChunkSequence < chunk.chunkSequence)
        (.valueError "new chunk sequence exceeds run_closed coverage")

/-- One turn of the loop over the Events of a chunk: the Event, unless it is known. -/
def eventUpdate (partition : R1StreamPartition) (e : NormalizedEvent) :
    Except PyError (Option NormalizedEvent) :=
  match s.eventHashes.find (partition, e.eventId) with
  | none => .ok (some e)
  | some existing => do
    raiseIf (existing ≠ canonicalEventSha256 sha256 e)
      (.valueError "Event identity was reused with different content")
    return none

/-- The checks of a chunk that is not known, and its new Events. -/
def eventUpdates (chunk : R1EventChunk D) : Except PyError (List NormalizedEvent) := do
  raiseIf s.snapshot.isTerminal (.valueError "incremental state is already terminal")
  s.validateChunkAfterRunClosed chunk
  raiseIf (∃ existing ∈ s.chunkSequenceIdentities.find (chunk.partition, chunk.chunkSequence),
      existing ≠ chunk.chunkId)
    (.valueError "chunk sequence was reused by another identity")
  let updates ← chunk.events.mapM (s.eventUpdate sha256 chunk.partition)
  return updates.filterMap id

end IncrementalEvidenceState

/-- The new Events of a chunk are among those that the ingress approved. -/
def requireAdmission (chunk : R1EventChunk D) (updates : List NormalizedEvent)
    (admission : R1StreamDeliveryResult) : Except PyError Unit := do
  let chunkEventIds := chunk.events.map (·.eventId)
  -- A chunk that the ingress has already is the recovery of a lost checkpoint.
  let newEventIds :=
    if admission.disposition = .duplicate then chunkEventIds else admission.newEventIds
  raiseIf (¬ newEventIds ⊆ chunkEventIds)
    (.valueError "ingress approved Event IDs outside this chunk")
  raiseIf (∃ e ∈ updates, e.eventId ∉ newEventIds)
    (.valueError "replayed Event is absent from local state; recover state before replay")

/-- One turn of the loop over the new Events. -/
def recordEvent (partition : R1StreamPartition) (e : NormalizedEvent) : Method D S Unit := do
  update fun s => { s with
    eventHashes := s.eventHashes.set (partition, e.eventId) (canonicalEventSha256 sha256 e) }
  if config.isSelectorPartition partition then
    update fun s => { s with eventsByIdentity := s.eventsByIdentity.set (partition, e.eventId) e }

/-- What `accept_chunk` writes of a chunk. -/
def recordChunk (chunk : R1EventChunk D) (updates : List NormalizedEvent) : Method D S Unit := do
  update fun s => { s with
    chunkHashes := s.chunkHashes.set (chunk.partition, chunk.chunkId) (chunkSha256 sha256 chunk) }
  update fun s => { s with
    chunkSequenceIdentities :=
      s.chunkSequenceIdentities.set (chunk.partition, chunk.chunkSequence) chunk.chunkId }
  update fun s => { s with
    chunksByIdentity := s.chunksByIdentity.set (chunk.partition, chunk.chunkId) chunk }
  updates.forM (recordEvent config sha256 chunk.partition)

/-- `accept_chunk`, where the clock of the ingress would read `now`. -/
def acceptChunk (sink : DeadLetterSink S) (now : PyDatetime) (chunk : R1EventChunk D) :
    Method D S (IncrementalEvidenceSnapshot D) := do
  reads fun _ => requireChunk config sha256 chunk
  let known ← reads fun m => m.evidence.isKnownChunk sha256 chunk
  if known then
    let _ ← onIngress (Stream.acceptChunk sha256 sink now chunk)
    reads fun m => .ok m.evidence.snapshot
  else
    let updates ← reads fun m => m.evidence.eventUpdates sha256 chunk
    let admission ← onIngress (Stream.acceptChunk sha256 sink now chunk)
    reads fun _ => requireAdmission chunk updates admission
    recordChunk config sha256 chunk updates
    refreshSnapshot config

end Chunk

/-! ## The run close -/

section RunClose

variable (config : IncrementalConfig)

/-- The close that is recorded, against another. -/
def requireSameClose (recorded runClosed : R1RunClosed) : Except PyError Unit :=
  raiseIf (recorded ≠ runClosed)
    (.valueError "incremental state already has a different run_closed")

/-- `accept_run_closed`. -/
def acceptRunClosed (runClosed : R1RunClosed) : Method D S (IncrementalEvidenceSnapshot D) := do
  reads fun _ => raiseIf (runClosed.runId.val ≠ config.runId.val)
    (.valueError "run_closed run_id does not match incremental state")
  let m ← get
  match m.evidence.runClosed with
  | some recorded =>
    reads fun _ => requireSameClose recorded runClosed
    return m.evidence.snapshot
  | none =>
    reads fun _ => config.requireClosePartitions runClosed
    update fun s => { s with runClosed := some runClosed }
    refreshSnapshot config

/-- `accept_verified_boundary`, which has no proof to check in v0.1. -/
def acceptVerifiedBoundary (boundary : R1VerifiedCandidateBoundary) :
    Method D S (IncrementalEvidenceSnapshot D) := do
  reads fun _ => raiseIf (boundary.runId ≠ config.runId.val)
    (.valueError "verified boundary run_id does not match incremental state")
  throw (.valueError "Role2-safe verified close proof is not available in v0.1")

end RunClose

/-! ## Finalization -/

section Finalize

variable (config : IncrementalConfig) (casefold : String → String)
  (uuid5 : List IdentityPart → String)

/-- The arguments of `_finalize`. The clock is observed where its reading is given. -/
structure FinalizeArguments where
  boundaryAt : UtcMillis
  availableAt : UtcMillis
  closeMode : IncrementalCloseMode
  diagnostics : List String
  eventCutoff : Option UtcMillis
  availabilityContractVersion : AvailabilityContractVersion
  clock : Option PyDatetime := none

/-- The Events that are finalized. -/
def IncrementalEvidenceState.finalizedEvents (s : IncrementalEvidenceState D)
    (eventCutoff : Option UtcMillis) : List NormalizedEvent :=
  match eventCutoff with
  | none => s.orderedEvents
  | some cutoff => s.eligibleEvents cutoff

/-- The snapshot of a run without a selection or with extraction diagnostics. -/
def unselectedSnapshot (args : FinalizeArguments) (result : R1SelectedEvidencePipelineResult) :
    IncrementalEvidenceSnapshot D where
  status := .failedClosed
  selectorResult := result.selectorResult
  lineageInput := result.lineageInput
  extractionDiagnostics := result.extractionDiagnostics
  closeMode := some args.closeMode
  candidateBoundaryAt := some args.boundaryAt
  availableAt := some args.availableAt
  availabilityContractVersion := some args.availabilityContractVersion
  diagnostics := args.diagnostics ++ result.selectorResult.diagnostics.map (·.value) ++
    result.extractionDiagnostics.map (·.value)

/-- The snapshot of a run with an Evidence after its availability. -/
def untimelySnapshot (args : FinalizeArguments) (availableAt : UtcMillis)
    (result : R1SelectedEvidencePipelineResult) : IncrementalEvidenceSnapshot D where
  status := .failedClosed
  selectorResult := result.selectorResult
  lineageInput := result.lineageInput
  closeMode := some args.closeMode
  candidateBoundaryAt := some args.boundaryAt
  availableAt := some availableAt
  availabilityContractVersion := some args.availabilityContractVersion
  diagnostics := args.diagnostics ++ ["Evidence timestamp must not exceed causal available_at"]

/-- The snapshot of a run whose Evidence is issued. -/
def finalizedSnapshot (closeSha256 : ClosePayload D → D) (s : IncrementalEvidenceState D)
    (args : FinalizeArguments) (availableAt : UtcMillis) (result : R1SelectedEvidencePipelineResult)
    (availability : List R1CausalEvidenceAvailability) : IncrementalEvidenceSnapshot D where
  status := .finalized
  selectorResult := result.selectorResult
  evidences := result.evidences
  availability
  lineageInput := result.lineageInput
  closeMode := some args.closeMode
  candidateBoundaryAt := some args.boundaryAt
  availableAt := some availableAt
  availabilityContractVersion := some args.availabilityContractVersion
  verifiedCloseProofId := s.verifiedProof.map (·.proofId)
  verifiedCloseProofSha256 :=
    s.verifiedProof.map fun proof => closeSha256 (.closeProof proof.toCloseProofContent)
  diagnostics := args.diagnostics

/-- The arguments that an Evidence gives `R1CausalEvidenceAvailability`. -/
def availabilityOf (availableAt : UtcMillis) (contextEventIds : List String)
    (evidence : Evidence R1Features) : AvailabilityFields where
  evidenceId := evidence.evidenceId
  timestamp := evidence.timestamp
  availableAt
  eventIds := evidence.eventIds
  contextEventIds

/-- The observation of `evidence_ready_at`. -/
def observeReadyAt (clock : PyDatetime) (availableAt : UtcMillis) : Method D S UtcMillis := do
  let reading ← reads fun _ => .ok (ceilUtcClockObservation "evidence_ready_at" clock)
  match reading with
  | .error e =>
    if isTypeOrValueError e then
      failClosed config ["Evidence publication readiness clock is invalid: " ++ errorText e]
      throw e
    else throw e
  | .ok readyAt =>
    if readyAt < availableAt * 1000 then
      failClosed config ["evidence_ready_at precedes the verified proof frontier"]
      throw (.valueError "evidence_ready_at must not precede the verified proof frontier")
    else return readyAt / 1000

/-- The time from which the Evidence is available. -/
def publicationTime (args : FinalizeArguments) : Method D S UtcMillis :=
  match args.clock with
  | none => return args.availableAt
  | some clock => observeReadyAt config clock args.availableAt

/-- `_finalize`. -/
def finalize (closeSha256 : ClosePayload D → D) (args : FinalizeArguments) :
    Method D S (IncrementalEvidenceSnapshot D) := do
  let result ← reads fun m => runR1EvidencePipelineWithSelector casefold uuid5
    (m.evidence.finalizedEvents args.eventCutoff) config.selectorPolicy config.approvedPolicy
    (some (PyDatetime.utcMillis config.runStart))
  if result.selectorResult.selection = none ∨ result.extractionDiagnostics ≠ [] then
    setSnapshot (unselectedSnapshot args result)
  else
    let availableAt ← publicationTime config args
    if ∃ evidence ∈ result.evidences, availableAt * 1000 < evidence.timestamp then
      setSnapshot (untimelySnapshot args availableAt result)
    else
      let contextEventIds := (result.lineageInput.map (·.val.contextEventIds)).getD []
      let availability ← reads fun _ => result.evidences.mapM fun evidence =>
        construct AvailabilityFields.validate (availabilityOf availableAt contextEventIds evidence)
      let m ← get
      setSnapshot (finalizedSnapshot closeSha256 m.evidence args availableAt result availability)

/-- The arguments of `accept_verified_close_proof`. -/
structure CloseProofArguments (D : Type) where
  proof : R1Role2VerifiedCloseProof D
  acceptedRunClosed : R1RunClosed
  acceptedCloseReceipt : R1AcceptedRunCloseReceipt D
  candidatePolicy : R1CandidateGenerationPolicy D
  acceptedSourceSealId : String
  acceptedSourceSealProjectionSha256 : D
  proofValidatedAt : PyDatetime

variable [DecidableEq D] (closeSha256 : ClosePayload D → D)

/-- What a terminal state answers to a proof. -/
def IncrementalEvidenceState.replayProof (s : IncrementalEvidenceState D)
    (args : CloseProofArguments D) : Except PyError (IncrementalEvidenceSnapshot D) := do
  raiseIf (s.verifiedProof ≠ some args.proof)
    (.valueError "incremental state is already terminal")
  let mismatch : PyError := .valueError "verified proof replay trusted binding does not match"
  raiseIf (s.runClosed ≠ some args.acceptedRunClosed ∨
    s.acceptedCloseReceipt ≠ some args.acceptedCloseReceipt ∨
    s.candidatePolicy ≠ some args.candidatePolicy ∨
    args.proof.sourceSealId.val ≠ args.acceptedSourceSealId ∨
    args.proof.sourceSealProjectionSha256 ≠ args.acceptedSourceSealProjectionSha256) mismatch
  match s.proofValidation with
  | none => throw mismatch
  | some validation =>
    let validatedAt ← utc "proof_validated_at" args.proofValidatedAt
    raiseIf (validation.proofValidatedAt ≠ validatedAt) mismatch
    return s.snapshot

/-- What a proof is expected to name, for one required partition. -/
def expectationOf (args : CloseProofArguments D) (partition : R1StreamPartition) :
    CloseProofExpectation D where
  runId := config.runId.val
  familyId := config.scenarioFamilyId
  selectorPartition := partition
  acceptedSourceSealId := args.acceptedSourceSealId
  acceptedSourceSealProjectionSha256 := args.acceptedSourceSealProjectionSha256

/-- The validation of a proof for every required partition. -/
def validateForPartitions (args : CloseProofArguments D) :
    Except PyError (R1Role2VerifiedCloseProofValidation D) := do
  let requiredPartitions ← config.requiredStreamPartitions
  config.requireExactTargetPartitions args.proof.sealedPartitions
  let validations ← requiredPartitions.mapM fun partition =>
    validateProof closeSha256 args.proof args.acceptedRunClosed args.acceptedCloseReceipt
      args.candidatePolicy (expectationOf config args partition) args.proofValidatedAt
  match validations with
  | [] => throw (.valueError "required-partition contract must not be empty")
  | validation :: _ =>
    raiseIf (∃ item ∈ validations, item.proofValidatedAt ≠ validation.proofValidatedAt)
      (.valueError "proof validation time changed across required partitions")
    return validation

/-- The `try` of `accept_verified_close_proof`: the validation and the frontier. -/
def IncrementalEvidenceState.validateClose (s : IncrementalEvidenceState D)
    (args : CloseProofArguments D) :
    Except PyError (R1Role2VerifiedCloseProofValidation D × UtcMillis) := do
  let validation ← validateForPartitions config closeSha256 args
  let validatedAt := validation.proofValidatedAt
  s.requireWatermarkCoverage config args.proof.candidateBoundaryAt
  let latestInputTime ← s.latestVerifiedInputIngestTime config
  let availableAt := [args.proof.candidateBoundaryAt, args.proof.verifiedSealAt,
    args.proof.proofCreatedAt, validatedAt, latestInputTime].foldl max
      args.acceptedRunClosed.emittedAt
  raiseIf (availableAt ≠ validatedAt)
    (.valueError "proof_validated_at must not precede any accepted finalization input")
  return (validation, availableAt)

/-- The `try`, with its `except (TypeError, ValueError)`. -/
def verifyClose (args : CloseProofArguments D) :
    Method D S (R1Role2VerifiedCloseProofValidation D × UtcMillis) := do
  let m ← get
  match m.evidence.validateClose config closeSha256 args with
  | .ok accepted => return accepted
  | .error e =>
    if isTypeOrValueError e then
      failClosed config ["verified close proof validation failed: " ++ errorText e]
    throw e

/-- What is recorded of a verified proof. -/
def recordProof (args : CloseProofArguments D)
    (validation : R1Role2VerifiedCloseProofValidation D) : Method D S Unit := do
  update fun s => { s with verifiedProof := some args.proof }
  update fun s => { s with proofValidation := some validation }
  update fun s => { s with acceptedCloseReceipt := some args.acceptedCloseReceipt }
  update fun s => { s with candidatePolicy := some args.candidatePolicy }

/-- What a verified proof gives `_finalize`. -/
def proofFinalization (args : CloseProofArguments D) (availableAt : UtcMillis) (clock : PyDatetime) :
    FinalizeArguments where
  boundaryAt := args.proof.candidateBoundaryAt
  availableAt
  closeMode := .verifiedCloseProof
  diagnostics := ["Role2-safe verified close proof finalized incremental Evidence"]
  eventCutoff := none
  availabilityContractVersion := .v02
  clock := some clock

/-- `accept_verified_close_proof`, where the clock would read `clock`. -/
def acceptVerifiedCloseProof (clock : PyDatetime) (args : CloseProofArguments D) :
    Method D S (IncrementalEvidenceSnapshot D) := do
  reads fun _ => raiseIf (config.requiredPartitionContract = none)
    (.valueError "verified close proof requires an explicit required-partition contract")
  let m ← get
  if m.evidence.snapshot.isTerminal then reads fun _ => m.evidence.replayProof args
  else match m.evidence.runClosed with
  | none => throw (.valueError "accepted run_closed is required before verified proof finalization")
  | some runClosed =>
    if runClosed ≠ args.acceptedRunClosed then
      failClosed config ["verified proof run_closed does not match incremental state"]
      throw (.valueError "verified proof run_closed does not match incremental state")
    else if m.evidence.chunkCoverageDiagnostics config ≠ [] then
      failClosed config (m.evidence.chunkCoverageDiagnostics config)
      reads fun m => .ok m.evidence.snapshot
    else
      let (validation, availableAt) ← verifyClose config closeSha256 args
      recordProof args validation
      finalize config casefold uuid5 closeSha256 (proofFinalization args availableAt clock)

/-- What a terminal state answers to a run end. -/
def IncrementalEvidenceState.replayRunEnd (s : IncrementalEvidenceState D) (runEnd : UtcMillis) :
    Except PyError (IncrementalEvidenceSnapshot D) := do
  raiseIf (s.snapshot.closeMode = some .authoritativeRunEndFallback ∧
      s.snapshot.candidateBoundaryAt ≠ some runEnd)
    (.valueError "incremental state already finalized at a different authoritative_run_end")
  return s.snapshot

/-- What a run end gives `_finalize`. -/
def runEndFinalization (runEnd : UtcMillis) : FinalizeArguments where
  boundaryAt := runEnd
  availableAt := runEnd
  closeMode := .authoritativeRunEndFallback
  diagnostics := ["Role2-safe verified close proof is unavailable; used run_end fallback"]
  eventCutoff := some runEnd
  availabilityContractVersion := .v01

/-- The snapshot of a run end that does not cover the chunks. -/
def uncoveredSnapshot (s : IncrementalEvidenceState D) (runEnd : UtcMillis)
    (diagnostics : List String) : IncrementalEvidenceSnapshot D where
  status := .failedClosed
  selectorResult := s.snapshot.selectorResult
  closeMode := some .authoritativeRunEndFallback
  candidateBoundaryAt := some runEnd
  availableAt := some runEnd
  availabilityContractVersion := some .v01
  diagnostics

/-- `finalize_at_run_end`. -/
def finalizeAtRunEnd (authoritativeRunEnd : PyDatetime) :
    Method D S (IncrementalEvidenceSnapshot D) := do
  let runEnd ← reads fun _ => utc "authoritative_run_end" authoritativeRunEnd
  reads fun _ => raiseIf (runEnd < config.runStart)
    (.valueError "authoritative_run_end must not precede run_start")
  let m ← get
  if m.evidence.snapshot.isTerminal then reads fun _ => m.evidence.replayRunEnd runEnd
  else if m.evidence.runClosed = none then
    throw (.valueError "accepted run_closed is required before stream fallback finalization")
  else if m.evidence.chunkCoverageDiagnostics config ≠ [] then
    setSnapshot (uncoveredSnapshot m.evidence runEnd (m.evidence.chunkCoverageDiagnostics config))
  else
    reads fun m => m.evidence.requireWatermarkCoverage config runEnd
    finalize config casefold uuid5 closeSha256 (runEndFinalization runEnd)

/-! ## Runs -/

variable (sha256 : CanonicalPayload → D) (sink : DeadLetterSink S)

/-- A call of the state with its arguments and what the clock would read; or the
ingress, as other users leave it. -/
inductive IncrementalCall (D S : Type) where
  | acceptChunk (chunk : R1EventChunk D) (now : PyDatetime)
  | acceptRunClosed (runClosed : R1RunClosed)
  | acceptVerifiedBoundary (boundary : R1VerifiedCandidateBoundary)
  | acceptVerifiedCloseProof (args : CloseProofArguments D) (clock : PyDatetime)
  | finalizeAtRunEnd (authoritativeRunEnd : PyDatetime)
  | moveIngress (ingress : IngressState D S)

/-- The method that a call runs. -/
def runCall : IncrementalCall D S → Method D S (Option (IncrementalEvidenceSnapshot D))
  | .acceptChunk chunk now => some <$> acceptChunk config sha256 sink now chunk
  | .acceptRunClosed runClosed => some <$> acceptRunClosed config runClosed
  | .acceptVerifiedBoundary boundary => some <$> acceptVerifiedBoundary config boundary
  | .acceptVerifiedCloseProof args clock =>
    some <$> acceptVerifiedCloseProof config casefold uuid5 closeSha256 clock args
  | .finalizeAtRunEnd runEnd => some <$> finalizeAtRunEnd config casefold uuid5 closeSha256 runEnd
  | .moveIngress ingress => do
    modify fun m => { m with ingress }
    return none

/-- One call, and what it returns or raises. -/
def step (m : Machine D S) (call : IncrementalCall D S) :
    Machine D S × Except PyError (Option (IncrementalEvidenceSnapshot D)) :=
  match (runCall config casefold uuid5 closeSha256 sha256 sink call).run m with
  | .ok snapshot m' => (m', .ok snapshot)
  | .error e m' => (m', .error e)

end Finalize

end IncidentAwareness.Incremental
