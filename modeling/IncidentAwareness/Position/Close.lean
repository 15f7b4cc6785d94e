import IncidentAwareness.Common.RequiredPartition
import IncidentAwareness.Lib.Canonical
import IncidentAwareness.Stream.Ingress

/-!
# The position-close ledger

The position close of one Run, its accepted receipt, and
`R1PositionCloseRepository` and `R1RecordPositionCloseIngress` over the stream
ledger. What a validator checks is a field of the structure. The literal fields
(`schema`, `contract_version`, `message_type`, `finality_kind`,
`target_event_ids`, `guarantee`, `non_guarantees`) have one value each and are
left out. The content digests are a parameter, as those of the stream are.
-/

namespace IncidentAwareness.Position

open IncidentAwareness.Common IncidentAwareness.Lib IncidentAwareness.Stream

variable {D : Type}

/-! ## Messages -/

/-- `R1RecordPositionFrontier`. -/
structure R1RecordPositionFrontier (D : Type) where
  lowerRecordId : Nat
  upperRecordId : Nat
  channelGenerationId : D
  lowerRecordId_pos : 1 ≤ lowerRecordId
  lower_le_upper : lowerRecordId ≤ upperRecordId
  deriving Repr

instance [DecidableEq D] : DecidableEq (R1RecordPositionFrontier D) := fun a b =>
  decidable_of_iff (a.lowerRecordId = b.lowerRecordId ∧ a.upperRecordId = b.upperRecordId ∧
      a.channelGenerationId = b.channelGenerationId)
    (by cases a; cases b; simp)

/-- `R1RequiredPartitionContractBinding`. -/
structure R1RequiredPartitionContractBinding (D : Type) where
  targetHost : Identifier
  contentSha256 : D
  deriving DecidableEq, Repr

/-- `R1RecordBoundedSnapshotSourceBinding`. -/
structure R1RecordBoundedSnapshotSourceBinding (D : Type) where
  requestId : Identifier
  freezeRequestSha256 : D
  freezeAckSha256 : D
  runFinalizedSha256 : D
  reconciliationSha256 : D
  freezeGenerationObservationSha256 : D
  exportGenerationObservationSha256 : D
  deriving DecidableEq, Repr

/-- `R1RecordPositionClose`. -/
structure R1RecordPositionClose (D : Type) where
  closeId : Identifier
  runId : RunId
  partition : R1StreamPartition
  requiredPartitionContract : R1RequiredPartitionContractBinding D
  positionFrontier : R1RecordPositionFrontier D
  coveredThroughChunkSequence : Nat
  coveredChunksSha256 : D
  postCommitAckCount : Nat
  eventCount : Nat
  sourceNativeIdentitySha256 : D
  liveIdentitySha256 : D
  canonicalIdentitySha256 : D
  sourceSnapshot : R1RecordBoundedSnapshotSourceBinding D
  candidateBoundaryAt : UtcMillis
  observationBoundaryAt : UtcMillis
  emittedAt : UtcMillis
  covered_pos : 1 ≤ coveredThroughChunkSequence
  eventCount_pos : 1 ≤ eventCount
  partition_runId : partition.runId = runId
  contract_host : requiredPartitionContract.targetHost = partition.hostId
  live_eq_canonical : liveIdentitySha256 = canonicalIdentitySha256
  ackCount_eq_covered : postCommitAckCount = coveredThroughChunkSequence
  candidate_le_observation : candidateBoundaryAt ≤ observationBoundaryAt
  observation_le_emitted : observationBoundaryAt ≤ emittedAt
  deriving Repr

instance [DecidableEq D] : DecidableEq (R1RecordPositionClose D) := fun a b =>
  decidable_of_iff (a.closeId = b.closeId ∧ a.runId = b.runId ∧ a.partition = b.partition ∧
      a.requiredPartitionContract = b.requiredPartitionContract ∧
      a.positionFrontier = b.positionFrontier ∧
      a.coveredThroughChunkSequence = b.coveredThroughChunkSequence ∧
      a.coveredChunksSha256 = b.coveredChunksSha256 ∧
      a.postCommitAckCount = b.postCommitAckCount ∧ a.eventCount = b.eventCount ∧
      a.sourceNativeIdentitySha256 = b.sourceNativeIdentitySha256 ∧
      a.liveIdentitySha256 = b.liveIdentitySha256 ∧
      a.canonicalIdentitySha256 = b.canonicalIdentitySha256 ∧
      a.sourceSnapshot = b.sourceSnapshot ∧ a.candidateBoundaryAt = b.candidateBoundaryAt ∧
      a.observationBoundaryAt = b.observationBoundaryAt ∧ a.emittedAt = b.emittedAt)
    (by cases a; cases b; simp)

/-- `R1AcceptedRecordPositionCloseReceipt`. -/
structure R1AcceptedRecordPositionCloseReceipt (D : Type) where
  closeId : Identifier
  partition : R1StreamPartition
  closeContentSha256 : D
  ledgerEntryId : Nat
  acceptedAt : UtcMillis
  ledgerEntryId_pos : 1 ≤ ledgerEntryId
  deriving Repr

instance [DecidableEq D] : DecidableEq (R1AcceptedRecordPositionCloseReceipt D) := fun a b =>
  decidable_of_iff (a.closeId = b.closeId ∧ a.partition = b.partition ∧
      a.closeContentSha256 = b.closeContentSha256 ∧ a.ledgerEntryId = b.ledgerEntryId ∧
      a.acceptedAt = b.acceptedAt)
    (by cases a; cases b; simp)

/-- `run_id` of a receipt, which is that of its partition. -/
def R1AcceptedRecordPositionCloseReceipt.runId (r : R1AcceptedRecordPositionCloseReceipt D) :
    RunId :=
  r.partition.runId

/-- An entry of the covered chunk list: sequence, chunk id and content digest. -/
abbrev CoveredChunkEntry (D : Type) := Nat × Identifier × D

/-- An Event identity of a snapshot: host, channel, RecordId and Event id. -/
structure SnapshotIdentity where
  hostId : Identifier
  sourceChannel : Identifier
  recordId : Int
  eventId : Int
  deriving DecidableEq, Repr

/-- The payloads of the position-finality digests. -/
inductive PositionPayload (D : Type) where
  | positionClose (close : R1RecordPositionClose D)
  | coveredChunks (entries : List (CoveredChunkEntry D))
  | snapshotIdentities (identities : List SnapshotIdentity)
  | requiredPartitionContract (contract : R1RequiredPartitionContract)

/-- `record_position_close_sha256`. -/
def recordPositionCloseSha256 (sha256 : PositionPayload D → D) (close : R1RecordPositionClose D) :
    D :=
  sha256 (.positionClose close)

/-- `covered_chunk_list_sha256`. -/
def coveredChunkListSha256 (sha256 : PositionPayload D → D)
    (entries : List (CoveredChunkEntry D)) : D :=
  sha256 (.coveredChunks entries)

/-- `required_partition_contract_sha256`. -/
def requiredPartitionContractSha256 (sha256 : PositionPayload D → D)
    (contract : R1RequiredPartitionContract) : D :=
  sha256 (.requiredPartitionContract contract)

/-! ## The repository -/

instance : DecidableRel (PositionCloseRow.Conflict (D := D)) := fun _ _ =>
  inferInstanceAs (Decidable (_ = _))

/-- The greatest value of a BIGINT column. -/
def bigintMax : Nat := 9223372036854775807

/-- `_receipt`, of a ledger row. The identity column numbers the rows. -/
def receipt (ledgerEntryId : Nat) (hpos : 1 ≤ ledgerEntryId) (row : PositionCloseRow D) :
    R1AcceptedRecordPositionCloseReceipt D where
  closeId := row.closeId
  partition := row.partition
  closeContentSha256 := row.contentSha256
  ledgerEntryId := ledgerEntryId
  acceptedAt := row.acceptedAt
  ledgerEntryId_pos := hpos

/-- `load_accepted_position_close_receipt`. -/
def loadAcceptedPositionCloseReceipt (l : Ledger D) (runId : RunId) :
    Option (R1AcceptedRecordPositionCloseReceipt D) :=
  (l.positionCloses.rows.find? (·.partition.runId = runId)).map
    (receipt (l.positionCloses.rows.findIdx (·.partition.runId = runId) + 1) (Nat.succ_pos _))

/-- `_SELECT_COVERED_CHUNKS`, ordered by sequence, as entries of the covered list. -/
def selectCoveredChunks (l : Ledger D) (p : R1StreamPartition) (covered : Nat) :
    List (CoveredChunkEntry D) :=
  (sortedBy (·.chunkSequence)
    (l.chunks.rows.filter fun r => r.partition = p ∧ r.chunkSequence ≤ covered)).map
    fun r => (r.chunkSequence, r.chunkId, r.contentSha256)

/-- `R1PositionCloseAdmission`. -/
structure R1PositionCloseAdmission (D : Type) where
  accepted : Bool
  receipt : R1AcceptedRecordPositionCloseReceipt D

variable [DecidableEq D] (sha256 : PositionPayload D → D)

/-- `_require_committed_covered_chunks`. -/
def requireCommittedCoveredChunks (l : Ledger D) (close : R1RecordPositionClose D) :
    Except PyError Unit := do
  checkTexts close.partition.texts
  let entries := selectCoveredChunks l close.partition close.coveredThroughChunkSequence
  raiseIf (entries.map Prod.fst ≠ List.range' 1 close.coveredThroughChunkSequence)
    (.valueError "Role3 ledger has a gap in the covered chunk sequence")
  raiseIf (coveredChunkListSha256 sha256 entries ≠ close.coveredChunksSha256)
    (.valueError "Role3 ledger chunks do not match the position close")

/-- `_resolve_replay`. -/
def resolveReplay (existing : R1AcceptedRecordPositionCloseReceipt D)
    (close : R1RecordPositionClose D) :
    Except PyError (R1AcceptedRecordPositionCloseReceipt D) := do
  raiseIf (existing.closeId ≠ close.closeId)
    (.valueError "run already has a different accepted position close")
  raiseIf (existing.partition ≠ close.partition)
    (.valueError "position close identity conflicts with another partition")
  raiseIf (existing.closeContentSha256 ≠ recordPositionCloseSha256 sha256 close)
    (.valueError "position close identity conflicts with previously accepted content")
  return existing

/-- The row of a position close. -/
def positionCloseRow (close : R1RecordPositionClose D) (contentSha256 : D)
    (acceptedAt : UtcMillis) : PositionCloseRow D where
  partition := close.partition
  closeId := close.closeId
  contentSha256 := contentSha256
  lowerRecordId := close.positionFrontier.lowerRecordId
  upperRecordId := close.positionFrontier.upperRecordId
  coveredThroughChunkSequence := close.coveredThroughChunkSequence
  coveredChunksSha256 := close.coveredChunksSha256
  acceptedAt := acceptedAt
  recordIdBounds := ⟨close.positionFrontier.lowerRecordId_pos, close.positionFrontier.lower_le_upper⟩
  covered_pos := close.covered_pos

omit [DecidableEq D] in
/-- `_INSERT_POSITION_CLOSE`, with its BIGINT and INTEGER columns: the identity
of the new row, unless a row conflicts. -/
def insertPositionClose (row : PositionCloseRow D) :
    EStateM PyError (Ledger D) (Option Nat) := do
  reads fun _ => checkTexts (row.closeId.val :: row.partition.texts)
  reads fun _ => raiseIf (bigintMax < row.lowerRecordId ∨ bigintMax < row.upperRecordId)
    (.databaseError "bigint out of range")
  reads fun _ => raiseIf (Ledger.integerMax < row.coveredThroughChunkSequence)
    (.databaseError "integer out of range")
  let index ← reads fun l => .ok l.positionCloses.rows.length
  let inserted ← Ledger.insertRow fun l =>
    (l.positionCloses.insert? row).map fun positionCloses => { l with positionCloses }
  return if inserted then some index else none

/-- What `save_position_close` answers when the Run has a close already. -/
def replayAdmission (existing : R1AcceptedRecordPositionCloseReceipt D)
    (close : R1RecordPositionClose D) : Except PyError (R1PositionCloseAdmission D) := do
  let stored ← resolveReplay sha256 existing close
  return ⟨false, stored⟩

/-- `save_position_close`. -/
def savePositionClose (close : R1RecordPositionClose D) (contentSha256 : D)
    (acceptedAt : UtcMillis) : EStateM PyError (Ledger D) (R1PositionCloseAdmission D) := do
  reads fun _ => raiseIf (contentSha256 ≠ recordPositionCloseSha256 sha256 close)
    (.valueError "content_sha256 does not match the canonical position close")
  match ← reads fun l => .ok (loadAcceptedPositionCloseReceipt l close.runId) with
  | some existing => reads fun _ => replayAdmission sha256 existing close
  | none =>
    reads fun l => requireCommittedCoveredChunks sha256 l close
    let row := positionCloseRow close contentSha256 acceptedAt
    match ← insertPositionClose row with
    | some index => return ⟨true, receipt (index + 1) (Nat.succ_pos _) row⟩
    | none => reads fun l =>
      match loadAcceptedPositionCloseReceipt l close.runId with
      | none => .error (.valueError "position close conflicts with an unavailable ledger record")
      | some concurrent => replayAdmission sha256 concurrent close

/-! ## The ingress -/

/-- `_require_contract_binding`. -/
def requireContractBinding (close : R1RecordPositionClose D)
    (contract : R1RequiredPartitionContract) : Except PyError Unit := do
  raiseIf (contract.targetHost ≠ close.partition.hostId)
    (.valueError "position close host does not match the contract")
  raiseIf (contract.partitionIdentities ≠
      [(close.partition.source.val, close.partition.sourceChannel.val)])
    (.valueError "position close partition does not cover the required partitions")
  raiseIf (close.requiredPartitionContract.contentSha256 ≠
      requiredPartitionContractSha256 sha256 contract)
    (.valueError "position close was issued for another contract")

/-- `R1RecordPositionCloseIngress.accept`, where the clock would read `now`. -/
def acceptPositionClose (now : PyDatetime) (contract : R1RequiredPartitionContract)
    (close : R1RecordPositionClose D) :
    EStateM PyError (Ledger D) (R1PositionCloseAdmission D) := do
  reads fun _ => requireContractBinding sha256 close contract
  let acceptedAt ← reads fun _ => utcMilliseconds now
  savePositionClose sha256 close (recordPositionCloseSha256 sha256 close) acceptedAt

/-- `require_receipt_binds_close`. -/
def requireReceiptBindsClose (receipt : R1AcceptedRecordPositionCloseReceipt D)
    (close : R1RecordPositionClose D) : Except PyError Unit := do
  raiseIf ((receipt.runId, receipt.closeId, receipt.partition) ≠
      (close.runId, close.closeId, close.partition))
    (.valueError "position-close receipt is bound to another run, close or partition")
  raiseIf (receipt.closeContentSha256 ≠ recordPositionCloseSha256 sha256 close)
    (.valueError "position-close receipt does not match the close content")
  raiseIf (receipt.acceptedAt < close.emittedAt)
    (.valueError "a position close cannot be accepted before it was emitted")

/-! ## Sample digests

Digests of the payloads that a sample run hashes, each with what tells it apart. -/

namespace Sample

inductive Digest where
  | stream (payload : CanonicalPayload)
  | positionClose (closeId : Identifier) (upperRecordId : Nat) (emittedAt : UtcMillis)
  | coveredChunks (entries : List (Nat × Identifier))
  | snapshotIdentities (identities : List SnapshotIdentity)
  | contract (targetHost : Identifier)
  | file (number : Nat)
  deriving DecidableEq

def positionSha256 : PositionPayload Digest → Digest
  | .positionClose c => .positionClose c.closeId c.positionFrontier.upperRecordId c.emittedAt
  | .coveredChunks entries => .coveredChunks (entries.map fun e => (e.1, e.2.1))
  | .snapshotIdentities identities => .snapshotIdentities identities
  | .requiredPartitionContract c => .contract c.targetHost

theorem stream_injective : Function.Injective Digest.stream := fun _ _ h => Digest.stream.inj h

/-- The sample partition's contract. -/
def contract : R1RequiredPartitionContract where
  targetHost := Stream.Sample.partition.hostId
  requiredPartitions := [.sysmonOperational]

/-- An Event of the sample partition, with a RecordId and the place of its raw record. -/
def recordedEvent (eventId recordId : String) (segmentNo : Nat) (hne : eventId ≠ "" := by decide)
    (hdot : eventId ≠ "." ∧ eventId ≠ ".." := by decide) (hpos : 1 ≤ segmentNo := by decide) :
    NormalizedEvent :=
  { Stream.Sample.event eventId 1000 hne hdot with
    rawRef := { rawLogId := "raw-recorded", sourceRecordId := some recordId, segmentNo, recordNo := 1
                segmentNo_pos := hpos, recordNo_pos := Nat.one_pos } }

def chunk (chunkId : Identifier) (sequence : Nat) (events : List NormalizedEvent)
    (hpos : 1 ≤ sequence := by decide) (hne : events ≠ [] := by decide)
    (hnd : (events.map (·.eventId)).Nodup := by decide)
    (hscope : ∀ e ∈ events, e.runId = Stream.Sample.partition.runId.val ∧
      e.hostId = Stream.Sample.partition.hostId.val ∧
      e.source = Stream.Sample.partition.source.val := by decide) : R1EventChunk Digest :=
  let c := Stream.Sample.chunk chunkId sequence events hpos hne hnd hscope
  { c with chunkContentSha256 := .stream c.chunkContentSha256 }

theorem one_le_two : 1 ≤ 2 := by decide

theorem one_le_five : 1 ≤ 5 := by decide

theorem five_le_five : 5 ≤ 5 := by decide

theorem candidate_le_observation : (1000 : UtcMillis) ≤ 2000 := by decide

def event₁ : NormalizedEvent :=
  recordedEvent "evt-5" "5" 1 (by decide) (by decide) Nat.one_pos

theorem event₂Id_ne_empty : "evt-4" ≠ "" := by decide

theorem event₂Id_ne_dot : "evt-4" ≠ "." ∧ "evt-4" ≠ ".." := by decide

def event₂ : NormalizedEvent :=
  recordedEvent "evt-4" "4" 2 event₂Id_ne_empty event₂Id_ne_dot one_le_two

/-- A chunk with the record of RecordId 5. -/
def chunk₁ : R1EventChunk Digest :=
  chunk ⟨"covered-1", by decide, by decide⟩ 1 [event₁] Nat.one_pos

/-- A chunk beyond it, with the record of RecordId 4. -/
def chunk₂ : R1EventChunk Digest :=
  chunk ⟨"beyond-2", by decide, by decide⟩ 2 [event₂] one_le_two

theorem event₃Id_ne_empty : "evt-6" ≠ "" := by decide

theorem event₃Id_ne_dot : "evt-6" ≠ "." ∧ "evt-6" ≠ ".." := by decide

def event₃ : NormalizedEvent :=
  recordedEvent "evt-6" "6" 2 event₃Id_ne_empty event₃Id_ne_dot one_le_two

/-- A chunk beyond `chunk₁`, with the record of RecordId 6. -/
def chunk₃ : R1EventChunk Digest :=
  chunk ⟨"past-2", by decide, by decide⟩ 2 [event₃] one_le_two

def requestId : Identifier := ⟨"request-1", by decide, by decide⟩

/-- A position close over `chunk₁`. -/
def close : R1RecordPositionClose Digest where
  closeId := ⟨"position-1", by decide, by decide⟩
  runId := Stream.Sample.runId
  partition := Stream.Sample.partition
  requiredPartitionContract := ⟨contract.targetHost, .contract contract.targetHost⟩
  positionFrontier :=
    { lowerRecordId := 5, upperRecordId := 5, channelGenerationId := .file 0
      lowerRecordId_pos := one_le_five, lower_le_upper := five_le_five }
  coveredThroughChunkSequence := 1
  coveredChunksSha256 := .coveredChunks [(1, chunk₁.chunkId)]
  postCommitAckCount := 1
  eventCount := 1
  sourceNativeIdentitySha256 := .file 1
  liveIdentitySha256 := .file 2
  canonicalIdentitySha256 := .file 2
  sourceSnapshot := ⟨requestId, .file 3, .file 4, .file 5, .file 6, .file 7,
    .file 8⟩
  candidateBoundaryAt := 1000
  observationBoundaryAt := 2000
  emittedAt := 3000
  covered_pos := Nat.one_pos
  eventCount_pos := Nat.one_pos
  partition_runId := rfl
  contract_host := rfl
  live_eq_canonical := rfl
  ackCount_eq_covered := rfl
  candidate_le_observation := candidate_le_observation
  observation_le_emitted := by decide

end Sample

end IncidentAwareness.Position
