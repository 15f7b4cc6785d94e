import IncidentAwareness.Position.Close
import Mathlib.Data.Prod.Lex

/-!
# Issuing a position close

The run spool, the live-side gates of the snapshot contract
(`verifyLiveSnapshotDelivery`), and `issue_r1_record_position_close`, which
re-verifies them over the spool it reads. The gates that compare digests of
files outside the spool (the canonical export, its manifest and the two channel
generation observations) are one input, their outcome; so are the raw segments
and the inventory digest, as the issuer reads them.
-/

namespace IncidentAwareness.Position

open IncidentAwareness.Common IncidentAwareness.Lib IncidentAwareness.Stream

variable {D : Type}

/-! ## The run spool -/

/-- A message of the spool's outbox. -/
inductive SpoolMessage (D : Type) where
  | eventChunk (chunk : R1EventChunk D)
  | sourceWatermark (watermark : R1SourceWatermark)
  | runClosed (close : R1RunClosed)
  deriving DecidableEq

/-- `message_type`. -/
inductive MessageType where
  | eventChunk | sourceWatermark | runClosed
  deriving DecidableEq, Repr

/-- A file of the outbox: its ordinal and its message. -/
structure SpoolFile (D : Type) where
  messageOrdinal : Nat
  message : SpoolMessage D

/-- The name of a file: `{ordinal:012d}-{message_type}.json`. -/
def SpoolFile.name (f : SpoolFile D) : Nat × MessageType :=
  (f.messageOrdinal, match f.message with
    | .eventChunk _ => .eventChunk
    | .sourceWatermark _ => .sourceWatermark
    | .runClosed _ => .runClosed)

/-- A post-commit ack, for the message whose bytes it hashed. -/
structure SpoolAck (D : Type) where
  name : Nat × MessageType
  message : SpoolMessage D
  disposition : R1StreamDeliveryDisposition

/-- The post-commit ack of a position close, with the path that its consumer
resolved for the message. -/
structure PositionCloseAck (D : Type) where
  messagePath : String
  message : R1RecordPositionClose D
  disposition : R1StreamDeliveryDisposition
  ledgerEntryId : Nat
  acceptedAt : UtcMillis
  requiredPartitionContractSha256 : D

/-- The payload of an exported position close. The contract is linked by the
resolved path of its file, the digest of the file's bytes, and its content. -/
structure PositionCloseExport (D : Type) where
  acceptedRecordPositionClose : R1RecordPositionClose D
  acceptanceReceipt : R1AcceptedRecordPositionCloseReceipt D
  contractPath : String
  contractSha256 : D
  contractContentSha256 : D
  targetHost : Identifier
  deriving DecidableEq, Repr

/-- `<spool>/<run_id>`: immutable files, each written once. -/
structure RunSpool (D : Type) where
  outbox : Table (SameKey (SpoolFile.name (D := D)))
  acks : Table (SameKey (SpoolAck.name (D := D)))
  positionClose : Option (R1RecordPositionClose D)
  positionCloseAck : Option (PositionCloseAck D)
  positionCloseExport : Option (PositionCloseExport D)

/-- The spool before any publish. -/
def RunSpool.empty : RunSpool D := ⟨.empty, .empty, none, none, none⟩

/-- The chunk of a chunk file. -/
def SpoolFile.eventChunk? (f : SpoolFile D) : Option (R1EventChunk D) :=
  match f.message with
  | .eventChunk c => some c
  | _ => none

/-- `sorted(outbox.glob("*-event_chunk.json"))`, each with its chunk. -/
def RunSpool.eventChunkFiles (spool : RunSpool D) : List (SpoolFile D × R1EventChunk D) :=
  (sortedBy (·.messageOrdinal) spool.outbox.rows).filterMap fun f =>
    f.eventChunk?.map fun c => (f, c)

/-! ## Raw records -/

/-- A record of a raw Sysmon segment: the fields the gates read, where they are
integers and strings. -/
structure RawRecord where
  recordId : Option Int
  eventId : Option Int
  computer : Option String
  channel : Option String
  deriving DecidableEq, Repr

/-- The code points of the decimal digits zero. -/
def decimalZeros : List Nat :=
  [0x30, 0x660, 0x6F0, 0x7C0, 0x966, 0x9E6, 0xA66, 0xAE6, 0xB66, 0xBE6, 0xC66, 0xCE6, 0xD66, 0xDE6,
    0xE50, 0xED0, 0xF20, 0x1040, 0x1090, 0x17E0, 0x1810, 0x1946, 0x19D0, 0x1A80, 0x1A90, 0x1B50,
    0x1BB0, 0x1C40, 0x1C50, 0xA620, 0xA8D0, 0xA900, 0xA9D0, 0xA9F0, 0xAA50, 0xABF0, 0xFF10,
    0x104A0, 0x10D30, 0x11066, 0x110F0, 0x11136, 0x111D0, 0x112F0, 0x11450, 0x114D0, 0x11650,
    0x116C0, 0x11730, 0x118E0, 0x11950, 0x11C50, 0x11D50, 0x11DA0, 0x11F50, 0x16A60, 0x16AC0,
    0x16B50, 0x1D7CE, 0x1D7D8, 0x1D7E2, 0x1D7EC, 0x1D7F6, 0x1E140, 0x1E2F0, 0x1E4F0, 0x1E950,
    0x1FBF0]

/-- The value of a decimal digit. -/
def decimalDigit (c : Char) : Option Nat :=
  (decimalZeros.find? fun z => z ≤ c.toNat ∧ c.toNat < z + 10).map (c.toNat - ·)

/-- `int(value)` of a string that `isdecimal`. -/
def decimalValue (s : String) : Option Nat :=
  if s.toList.isEmpty then none
  else s.toList.foldl (fun n c => do return 10 * (← n) + (← decimalDigit c)) (some 0)

/-- `_source_record_id`. -/
def sourceRecordId (value : Option String) : Except PyError Nat :=
  match value.bind decimalValue with
  | some n => .ok n
  | none => .error (.valueError "an Event chunk has no decimal source_record_id")

/-- `R1_SNAPSHOT_TARGET_EVENT_IDS`. -/
def targetEventIds : List Int := [1, 3]

/-- `_EVENT_TYPE_BY_EVENT_ID.get`. -/
def eventTypeByEventId : Option Int → Option String
  | some 1 => some "process_create"
  | some 3 => some "network_connection"
  | _ => none

/-- `_record_identity`. -/
def recordIdentity (record : RawRecord) (p : R1StreamPartition) (lower upper : Nat)
    (label : String) : Except PyError SnapshotIdentity :=
  match record.recordId, record.eventId with
  | none, _ => .error (.valueError (label ++ " record has no integer RecordId"))
  | some _, none => .error (.valueError (label ++ " record is not Sysmon EID 1 or 3"))
  | some recordId, some eventId => do
    raiseIf (eventId ∉ targetEventIds) (.valueError (label ++ " record is not Sysmon EID 1 or 3"))
    raiseIf (record.computer ≠ some p.hostId.val)
      (.valueError (label ++ " record belongs to another host"))
    raiseIf (record.channel ≠ some p.sourceChannel.val)
      (.valueError (label ++ " record belongs to another channel"))
    raiseIf (¬ ((lower : Int) ≤ recordId ∧ recordId ≤ upper))
      (.valueError (label ++ " record is outside the RecordId bound"))
    return ⟨p.hostId, p.sourceChannel, recordId, eventId⟩

/-- `_unique_identities`. -/
def uniqueIdentities (identities : List SnapshotIdentity) (label : String) :
    Except PyError (List SnapshotIdentity) := do
  raiseIf (¬ (identities.map (·.recordId)).Nodup)
    (.valueError (label ++ " contains a duplicate RecordId"))
  return identities

/-- `_live_identities`, of the covered segments in order. -/
def liveIdentities (segments : List (List RawRecord)) (p : R1StreamPartition) (lower upper : Nat) :
    Except PyError (List SnapshotIdentity) := do
  let identities ← segments.flatten.mapM fun r => recordIdentity r p lower upper "live raw segment"
  uniqueIdentities identities "live raw segments"

/-- `_read_canonical_identities`. -/
def readCanonicalIdentities (records : List RawRecord) (p : R1StreamPartition)
    (lower upper : Nat) : Except PyError (List SnapshotIdentity) := do
  let identities ← records.mapM fun r => do
    raiseIf (r.channel ≠ some p.sourceChannel.val)
      (.valueError "canonical JSONL record belongs to another channel")
    recordIdentity r p lower upper "canonical JSONL"
  uniqueIdentities identities "canonical JSONL"

/-- `_read_covered_segments`. -/
def readCoveredSegments (segments : Nat → Option (List RawRecord)) (coveredThrough : Nat) :
    Except PyError (List (List RawRecord)) :=
  (List.range' 1 coveredThrough).mapM fun n =>
    match segments n with
    | some records => .ok records
    | none => .error (.valueError "covered live raw segment or capture metadata is missing")

/-- Equality of the sets of two lists. -/
def sameElements (xs ys : List SnapshotIdentity) : Bool :=
  xs.all (· ∈ ys) && ys.all (· ∈ xs)

/-! ## Chunks -/

/-- `R1CoveredChunk`, without the digest of its file. -/
structure R1CoveredChunk (D : Type) where
  chunkSequence : Nat
  chunkId : Identifier
  chunkContentSha256 : D
  deriving DecidableEq, Repr

/-- `R1LiveSnapshotDelivery`, without the inventory digest. -/
structure R1LiveSnapshotDelivery (D : Type) where
  eventCount : Nat
  coveredChunks : List (R1CoveredChunk D)
  postBoundChunkSequences : List Nat
  identities : List SnapshotIdentity

/-- `_chunk_event_identity`. -/
def chunkEventIdentity (e : NormalizedEvent) (chunkSequence : Nat) (segments : List (List RawRecord))
    (p : R1StreamPartition) : Except PyError SnapshotIdentity := do
  raiseIf (e.rawRef.segmentNo ≠ chunkSequence)
    (.valueError "a covered Event references a raw segment other than its chunk")
  match (segments.getD (e.rawRef.segmentNo - 1) [])[e.rawRef.recordNo - 1]? with
  | none => .error (.valueError "a covered Event references a missing raw record")
  | some record =>
    raiseIf (record.channel ≠ some p.sourceChannel.val)
      (.valueError "a covered Event raw record belongs to another channel")
    let recordId ← sourceRecordId e.rawRef.sourceRecordId
    raiseIf (record.recordId ≠ some (recordId : Int))
      (.valueError "a covered Event does not match its raw record")
    raiseIf (eventTypeByEventId record.eventId ≠ some e.eventType)
      (.valueError "a covered Event type does not match its raw record")
    return ⟨p.hostId, p.sourceChannel, recordId, record.eventId.getD 0⟩

/-- The post-bound Event check of `_verify_chunks`. -/
def verifyPostBoundEvents (upper : Nat) : List NormalizedEvent → Except PyError Unit
  | [] => .ok ()
  | e :: rest => do
    let recordId ← sourceRecordId e.rawRef.sourceRecordId
    raiseIf (recordId ≤ upper) (.valueError
      "an Event inside the RecordId bound was published after the covered chunks")
    verifyPostBoundEvents upper rest

/-- The post-bound loop of `_verify_chunks`. -/
def verifyPostBound (upper coveredThrough : Nat) :
    List (SpoolFile D × R1EventChunk D) → Except PyError (List Nat)
  | [] => .ok []
  | (_, c) :: rest =>
    if c.chunkSequence ≤ coveredThrough then verifyPostBound upper coveredThrough rest
    else do
      verifyPostBoundEvents upper c.events
      let sequences ← verifyPostBound upper coveredThrough rest
      return c.chunkSequence :: sequences

variable [DecidableEq D]

/-- `_require_post_commit_ack`. -/
def requirePostCommitAck (spool : RunSpool D) (f : SpoolFile D) : Except PyError Unit :=
  match spool.acks.get f.name with
  | none => .error (.valueError "covered chunk has no post-commit Role3 ack")
  | some ack => raiseIf (ack.message ≠ f.message)
    (.valueError "Role3 ack does not match the chunk bytes")

/-- The load loop of `_verify_chunks`. -/
def verifyChunkFiles (sha : CanonicalPayload → D) (p : R1StreamPartition) :
    List Nat → List (SpoolFile D × R1EventChunk D) → Except PyError Unit
  | _, [] => .ok ()
  | seen, (_, c) :: rest => do
    raiseIf (c.partition ≠ p) (.valueError "an Event chunk belongs to another partition")
    raiseIf (c.chunkSequence ∈ seen)
      (.valueError "two spool files publish the same chunk sequence")
    raiseIf (chunkSha256 sha c ≠ c.chunkContentSha256)
      (.valueError "Event chunk content digest does not match")
    verifyChunkFiles sha p (c.chunkSequence :: seen) rest

/-- The Event loop over one covered chunk, after the identities seen before. -/
def coveredIdentities (chunkSequence : Nat) (segments : List (List RawRecord))
    (p : R1StreamPartition) :
    List SnapshotIdentity → List NormalizedEvent → Except PyError (List SnapshotIdentity)
  | seen, [] => .ok seen
  | seen, e :: rest => do
    let identity ← chunkEventIdentity e chunkSequence segments p
    raiseIf (identity ∈ seen) (.valueError "a covered Event was published twice")
    coveredIdentities chunkSequence segments p (seen ++ [identity]) rest

/-- The covered loop of `_verify_chunks`. -/
def verifyCovered (spool : RunSpool D) (segments : List (List RawRecord)) (p : R1StreamPartition)
    (files : List (SpoolFile D × R1EventChunk D)) :
    List SnapshotIdentity → List Nat →
      Except PyError (List (R1CoveredChunk D) × List SnapshotIdentity)
  | seen, [] => .ok ([], seen)
  | seen, sequence :: rest =>
    match files.find? fun f => f.2.chunkSequence = sequence with
    | none => .error (.valueError "covered chunk sequence has a gap")
    | some (f, c) => do
      requirePostCommitAck spool f
      let identities ← coveredIdentities c.chunkSequence segments p seen c.events
      let (chunks, identities) ← verifyCovered spool segments p files identities rest
      return (⟨sequence, c.chunkId, c.chunkContentSha256⟩ :: chunks, identities)

/-- `_verify_chunks`. -/
def verifyChunks (sha : CanonicalPayload → D) (spool : RunSpool D) (p : R1StreamPartition)
    (coveredThrough : Nat) (segments : List (List RawRecord)) (upper : Nat) :
    Except PyError (List (R1CoveredChunk D) × List SnapshotIdentity × List Nat) := do
  let files := spool.eventChunkFiles
  verifyChunkFiles sha p [] files
  raiseIf (∃ n ∈ List.range' 1 coveredThrough, n ∉ files.map (·.2.chunkSequence))
    (.valueError "covered chunk sequence has a gap")
  let (covered, identities) ←
    verifyCovered spool segments p files [] (List.range' 1 coveredThrough)
  let postBound ← verifyPostBound upper coveredThrough
    (sortedBy (·.2.chunkSequence) files)
  return (covered, identities, postBound)

/-- `verify_r1_live_snapshot_delivery`, with the inventory digest that the
covered segments have and the one that the freeze ack expects. -/
def verifyLiveSnapshotDelivery (sha : CanonicalPayload → D) (spool : RunSpool D)
    (segmentFiles : Nat → Option (List RawRecord)) (inventorySha256 : D) (p : R1StreamPartition)
    (lower upper coveredThrough : Nat) (expectedInventorySha256 : D) (expectedEventCount : Nat) :
    Except PyError (R1LiveSnapshotDelivery D) := do
  raiseIf (¬ (1 ≤ lower ∧ lower ≤ upper))
    (.valueError "the RecordId bound must satisfy 1 <= lower <= upper")
  raiseIf (coveredThrough < 1) (.valueError "at least one covered chunk is required")
  let segments ← readCoveredSegments segmentFiles coveredThrough
  raiseIf (inventorySha256 ≠ expectedInventorySha256)
    (.valueError "live raw segment inventory does not match the freeze ack")
  let live ← liveIdentities segments p lower upper
  raiseIf (live.length ≠ expectedEventCount)
    (.valueError "live raw event count does not match the freeze ack")
  let (covered, identities, postBound) ← verifyChunks sha spool p coveredThrough segments upper
  raiseIf (sameElements identities live = false)
    (.valueError "covered chunks do not contain exactly the live raw Event identities")
  return ⟨live.length, covered, postBound, live⟩

/-! ## The snapshot artifacts -/

/-- `R1CollectionFreezeRequest`. -/
structure R1CollectionFreezeRequest where
  requestId : Identifier
  partition : R1StreamPartition
  candidateBoundaryAt : UtcMillis
  observationBoundaryAt : UtcMillis
  requestedAt : UtcMillis
  candidate_le_observation : candidateBoundaryAt ≤ observationBoundaryAt
  observation_le_requested : observationBoundaryAt ≤ requestedAt

/-- `R1CollectionFreezeAck`. -/
structure R1CollectionFreezeAck (D : Type) where
  requestId : Identifier
  partition : R1StreamPartition
  sourceLowerRecordId : Nat
  sourceUpperRecordId : Nat
  targetEventCount : Nat
  targetIdentitySha256 : D
  coveredThroughChunkSequence : Nat
  rawSegmentInventorySha256 : D
  ackedAt : UtcMillis
  lower_pos : 1 ≤ sourceLowerRecordId
  lower_le_upper : sourceLowerRecordId ≤ sourceUpperRecordId
  targetEventCount_pos : 1 ≤ targetEventCount
  covered_pos : 1 ≤ coveredThroughChunkSequence

/-- `R1SysmonRunFinalized`. -/
structure R1SysmonRunFinalized (D : Type) where
  requestId : Identifier
  partition : R1StreamPartition
  sourceLowerRecordId : Nat
  sourceUpperRecordId : Nat
  canonicalEventCount : Nat
  canonicalIdentitySha256 : D
  finalizedAt : UtcMillis

/-- What the issuer reads beside the spool. -/
structure R1SnapshotSources (D : Type) where
  request : R1CollectionFreezeRequest
  ack : R1CollectionFreezeAck D
  finalized : R1SysmonRunFinalized D
  contract : R1RequiredPartitionContract
  canonicalRecords : List RawRecord
  segments : Nat → Option (List RawRecord)
  inventorySha256 : D
  /-- The outcome of the gates over the canonical files, the stored reconciliation
  and the channel generation. -/
  fileGates : Except PyError Unit
  reconciledAt : UtcMillis
  channelGenerationId : D
  freezeRequestSha256 : D
  freezeAckSha256 : D
  runFinalizedSha256 : D
  reconciliationSha256 : D
  freezeGenerationObservationSha256 : D
  exportGenerationObservationSha256 : D

/-- `_verify_artifact_bindings`. -/
def verifyArtifactBindings (request : R1CollectionFreezeRequest) (ack : R1CollectionFreezeAck D)
    (finalized : R1SysmonRunFinalized D) : Except PyError Unit := do
  raiseIf (¬ (request.requestId = ack.requestId ∧ ack.requestId = finalized.requestId))
    (.valueError "freeze request, ack and finalization use different IDs")
  raiseIf (¬ (request.partition = ack.partition ∧ ack.partition = finalized.partition))
    (.valueError "freeze request, ack and finalization bind different partitions")
  raiseIf ((ack.sourceLowerRecordId, ack.sourceUpperRecordId) ≠
      (finalized.sourceLowerRecordId, finalized.sourceUpperRecordId))
    (.valueError "canonical export RecordId bound differs from the freeze ack")
  raiseIf (¬ (request.requestedAt ≤ ack.ackedAt ∧ ack.ackedAt ≤ finalized.finalizedAt))
    (.valueError "freeze request, ack and finalization are out of order")
  raiseIf (ack.targetEventCount ≠ finalized.canonicalEventCount)
    (.valueError "live and canonical event counts differ")
  raiseIf (ack.targetIdentitySha256 ≠ finalized.canonicalIdentitySha256)
    (.valueError "live and canonical identity digests differ")

omit [DecidableEq D] in
/-- `_load_contract`, of a contract that is valid. -/
def loadContract (contract : R1RequiredPartitionContract) (p : R1StreamPartition) :
    Except PyError Unit := do
  raiseIf (contract.targetHost ≠ p.hostId)
    (.valueError "required-partition contract does not bind the snapshot host")
  raiseIf (contract.partitionIdentities ≠ [(p.source.val, p.sourceChannel.val)])
    (.valueError "a single-partition snapshot must cover every required partition of the contract")

/-- `verify_r1_record_bounded_snapshot`. -/
def verifySnapshot (sha : CanonicalPayload → D) (spool : RunSpool D)
    (sources : R1SnapshotSources D) : Except PyError (R1LiveSnapshotDelivery D) := do
  let p := sources.request.partition
  let ack := sources.ack
  loadContract sources.contract p
  verifyArtifactBindings sources.request ack sources.finalized
  let canonical ← readCanonicalIdentities sources.canonicalRecords p ack.sourceLowerRecordId
    ack.sourceUpperRecordId
  raiseIf (canonical.length ≠ sources.finalized.canonicalEventCount)
    (.valueError "canonical JSONL event count does not match run-finalized")
  let delivery ← verifyLiveSnapshotDelivery sha spool sources.segments sources.inventorySha256 p
    ack.sourceLowerRecordId ack.sourceUpperRecordId ack.coveredThroughChunkSequence
    ack.rawSegmentInventorySha256 ack.targetEventCount
  raiseIf (sameElements delivery.identities canonical = false)
    (.valueError "live raw and canonical snapshots do not contain the same Event identities")
  return delivery

theorem identity_ne_empty {value : String} (h : ¬ (value = "" ∨ isPadded value = true)) :
    value ≠ "" := (not_or.mp h).1

theorem identity_not_padded {value : String} (h : ¬ (value = "" ∨ isPadded value = true)) :
    isPadded value = false := by
  simpa using (not_or.mp h).2

omit [DecidableEq D] in
/-- The validator of an identity. -/
def validateIdentity (value : String) : Except PyError Identifier :=
  if h : value = "" ∨ isPadded value = true then
    .error (.valueError "identity must be non-blank without surrounding whitespace")
  else .ok ⟨value, identity_ne_empty h, identity_not_padded h⟩

/-- `issue_r1_record_position_close`, where the clock would read `now`. -/
def issuePositionClose (sha : CanonicalPayload → D) (sha256 : PositionPayload D → D)
    (spool : RunSpool D) (sources : R1SnapshotSources D) (now : PyDatetime) :
    Except PyError (R1RecordPositionClose D) := do
  let delivery ← verifySnapshot sha spool sources
  sources.fileGates
  let emittedAt ← utcMilliseconds now
  raiseIf (emittedAt < sources.reconciledAt)
    (.valueError "a position close cannot precede its reconciliation")
  let p := sources.request.partition
  let closeId ← validateIdentity (p.runId.val ++ "-record-position-close-v0.1")
  if h : 1 ≤ delivery.eventCount ∧ sources.contract.targetHost = p.hostId ∧
      sources.ack.targetIdentitySha256 = sources.finalized.canonicalIdentitySha256 ∧
      delivery.coveredChunks.length = sources.ack.coveredThroughChunkSequence ∧
      sources.request.observationBoundaryAt ≤ emittedAt then
    return {
      closeId
      runId := p.runId
      partition := p
      requiredPartitionContract :=
        ⟨sources.contract.targetHost, requiredPartitionContractSha256 sha256 sources.contract⟩
      positionFrontier :=
        { lowerRecordId := sources.ack.sourceLowerRecordId
          upperRecordId := sources.ack.sourceUpperRecordId
          channelGenerationId := sources.channelGenerationId
          lowerRecordId_pos := sources.ack.lower_pos
          lower_le_upper := sources.ack.lower_le_upper }
      coveredThroughChunkSequence := sources.ack.coveredThroughChunkSequence
      coveredChunksSha256 := coveredChunkListSha256 sha256
        (delivery.coveredChunks.map fun c => (c.chunkSequence, c.chunkId, c.chunkContentSha256))
      postCommitAckCount := delivery.coveredChunks.length
      eventCount := delivery.eventCount
      sourceNativeIdentitySha256 := sha256 (.snapshotIdentities
        (sortedBy (fun i => toLex (i.recordId, i.eventId)) delivery.identities))
      liveIdentitySha256 := sources.ack.targetIdentitySha256
      canonicalIdentitySha256 := sources.finalized.canonicalIdentitySha256
      sourceSnapshot :=
        { requestId := sources.request.requestId
          freezeRequestSha256 := sources.freezeRequestSha256
          freezeAckSha256 := sources.freezeAckSha256
          runFinalizedSha256 := sources.runFinalizedSha256
          reconciliationSha256 := sources.reconciliationSha256
          freezeGenerationObservationSha256 := sources.freezeGenerationObservationSha256
          exportGenerationObservationSha256 := sources.exportGenerationObservationSha256 }
      candidateBoundaryAt := sources.request.candidateBoundaryAt
      observationBoundaryAt := sources.request.observationBoundaryAt
      emittedAt
      covered_pos := sources.ack.covered_pos
      eventCount_pos := h.1
      partition_runId := rfl
      contract_host := h.2.1
      live_eq_canonical := h.2.2.1
      ackCount_eq_covered := h.2.2.2.1
      candidate_le_observation := sources.request.candidate_le_observation
      observation_le_emitted := h.2.2.2.2 }
  else .error (.valueError "position close bindings are inconsistent")

end IncidentAwareness.Position
