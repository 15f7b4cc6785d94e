import IncidentAwareness.Lib.Table
import IncidentAwareness.Stream.Messages
import Mathlib.Data.List.MinMax
import Mathlib.Data.List.Dedup

/-!
# The R1 delivery ledger

The tables of the stream ledger, with their unique and check constraints, and
`R1StreamDeliveryRepository` over them. A method that only reads is an
`Except`; one that writes is an `EStateM`, so what a raising call had already
written is visible. Advisory locks and row locks serialize the transactions of
one Run and are left out: a run of the model is a sequence of transactions.
-/

namespace IncidentAwareness.Stream

open IncidentAwareness.Common IncidentAwareness.Lib

variable {D : Type}

/-! ## Rows and tables -/

/-- A row of `r1_stream_chunks`. -/
structure ChunkRow (D : Type) where
  partition : R1StreamPartition
  chunkId : Identifier
  chunkSequence : Nat
  contentSha256 : D
  chunkSequence_pos : 1 ≤ chunkSequence
  deriving Repr

/-- Primary key `(partition, chunk_id)`, unique `(partition, chunk_sequence)`. -/
def ChunkRow.Conflict (a b : ChunkRow D) : Prop :=
  a.partition = b.partition ∧ (a.chunkId = b.chunkId ∨ a.chunkSequence = b.chunkSequence)

/-- A row of `r1_stream_events`. -/
structure EventRow (D : Type) where
  partition : R1StreamPartition
  eventId : String
  contentSha256 : D
  deriving Repr

/-- Primary key `(partition, event_id)`. -/
def EventRow.Conflict (a b : EventRow D) : Prop :=
  a.partition = b.partition ∧ a.eventId = b.eventId

/-- A row of `r1_stream_watermarks`. -/
structure WatermarkRow (D : Type) where
  partition : R1StreamPartition
  watermarkId : Identifier
  watermarkSequence : Nat
  contentSha256 : D
  watermarkAt : UtcMillis
  allowedLatenessMs : Nat
  coveredThroughChunkSequence : Nat
  covered_pos : 1 ≤ coveredThroughChunkSequence
  deriving Repr

/-- Primary key `(partition, watermark_id)`, unique `(partition, watermark_sequence)`. -/
def WatermarkRow.Conflict (a b : WatermarkRow D) : Prop :=
  a.partition = b.partition ∧
    (a.watermarkId = b.watermarkId ∨ a.watermarkSequence = b.watermarkSequence)

/-- A row of `r1_stream_run_closes`. -/
structure RunCloseRow (D : Type) where
  runId : RunId
  closeId : Identifier
  contentSha256 : D
  deriving Repr

/-- Unique `run_id`. -/
def RunCloseRow.Conflict (a b : RunCloseRow D) : Prop := a.runId = b.runId

/-- A row of `r1_stream_position_closes`. -/
structure PositionCloseRow (D : Type) where
  partition : R1StreamPartition
  closeId : Identifier
  contentSha256 : D
  lowerRecordId : Nat
  upperRecordId : Nat
  coveredThroughChunkSequence : Nat
  coveredChunksSha256 : D
  acceptedAt : UtcMillis
  recordIdBounds : 1 ≤ lowerRecordId ∧ lowerRecordId ≤ upperRecordId
  covered_pos : 1 ≤ coveredThroughChunkSequence
  deriving Repr

/-- Unique `run_id`. -/
def PositionCloseRow.Conflict (a b : PositionCloseRow D) : Prop :=
  a.partition.runId = b.partition.runId

instance : DecidableRel (ChunkRow.Conflict (D := D)) := fun _ _ =>
  inferInstanceAs (Decidable (_ ∧ _))

instance : DecidableRel (EventRow.Conflict (D := D)) := fun _ _ =>
  inferInstanceAs (Decidable (_ ∧ _))

instance : DecidableRel (WatermarkRow.Conflict (D := D)) := fun _ _ =>
  inferInstanceAs (Decidable (_ ∧ _))

instance : DecidableRel (RunCloseRow.Conflict (D := D)) := fun _ _ =>
  inferInstanceAs (Decidable (_ = _))

instance : Std.Symm (ChunkRow.Conflict (D := D)) :=
  ⟨fun _ _ h => ⟨h.1.symm, h.2.imp Eq.symm Eq.symm⟩⟩

instance : Std.Symm (EventRow.Conflict (D := D)) := ⟨fun _ _ h => ⟨h.1.symm, h.2.symm⟩⟩

instance : Std.Symm (WatermarkRow.Conflict (D := D)) :=
  ⟨fun _ _ h => ⟨h.1.symm, h.2.imp Eq.symm Eq.symm⟩⟩

instance : Std.Symm (RunCloseRow.Conflict (D := D)) := ⟨fun _ _ h => Eq.symm h⟩

instance : Std.Symm (PositionCloseRow.Conflict (D := D)) := ⟨fun _ _ h => Eq.symm h⟩

/-- The tables of the ledger. -/
structure Ledger (D : Type) where
  chunks : Table (ChunkRow.Conflict (D := D))
  events : Table (EventRow.Conflict (D := D))
  watermarks : Table (WatermarkRow.Conflict (D := D))
  runCloses : Table (RunCloseRow.Conflict (D := D))
  positionCloses : Table (PositionCloseRow.Conflict (D := D))

/-- The ledger before any delivery. -/
def Ledger.empty : Ledger D := ⟨.empty, .empty, .empty, .empty, .empty⟩

/-- `R1AcceptedWatermark`. -/
structure R1AcceptedWatermark where
  watermarkId : Identifier
  watermarkSequence : Nat
  watermarkAt : UtcMillis
  allowedLatenessMs : Nat
  coveredThroughChunkSequence : Nat
  deriving DecidableEq, Repr

/-- `_accepted_watermark_from_row`. -/
def WatermarkRow.accepted (w : WatermarkRow D) : R1AcceptedWatermark where
  watermarkId := w.watermarkId
  watermarkSequence := w.watermarkSequence
  watermarkAt := w.watermarkAt
  allowedLatenessMs := w.allowedLatenessMs
  coveredThroughChunkSequence := w.coveredThroughChunkSequence

/-- `R1ChunkAdmission`. -/
structure R1ChunkAdmission where
  isExactChunkReplay : Bool
  newEventIds : List String
  latestWatermark : Option R1AcceptedWatermark
  deriving DecidableEq, Repr

/-- `R1AcceptedRunCloseReceipt`. -/
structure R1AcceptedRunCloseReceipt (D : Type) where
  runId : RunId
  closeId : Identifier
  contentSha256 : D
  deriving DecidableEq, Repr

/-! ## Text parameters -/

/-- The texts that the columns of a partition hold, its run id aside: a run id
has no U+0000. -/
def R1StreamPartition.texts (p : R1StreamPartition) : List String :=
  [p.hostId.val, p.source.val, p.sourceChannel.val]

/-- No text has U+0000. -/
def Storable (texts : List String) : Prop := ∀ t ∈ texts, '\x00' ∉ t.toList

instance (texts : List String) : Decidable (Storable texts) :=
  inferInstanceAs (Decidable (∀ t ∈ texts, _))

/-- psycopg refuses a parameter with U+0000 and sends no query. -/
def checkTexts (texts : List String) : Except PyError Unit :=
  raiseIf (¬ Storable texts)
    (.databaseError "PostgreSQL text fields cannot contain NUL (0x00) bytes")

namespace Ledger

/-! ## Queries

No row has U+0000, so psycopg's refusal shows where a query finds no row. -/

/-- `_SELECT_CHUNK_BY_ID`. The identity of a chunk row is never blank, so the
row always becomes a delivery. -/
def chunkById (l : Ledger D) (p : R1StreamPartition) (chunkId : Identifier) :
    Option (ChunkRow D) :=
  l.chunks.rows.find? fun r => r.partition = p ∧ r.chunkId = chunkId

/-- `_SELECT_CHUNK_BY_SEQUENCE`. -/
def chunkBySequence (l : Ledger D) (p : R1StreamPartition) (sequence : Nat) :
    Option (ChunkRow D) :=
  l.chunks.rows.find? fun r => r.partition = p ∧ r.chunkSequence = sequence

/-- `_SELECT_EVENT_BY_ID` and `_row_to_delivery`, which refuses a blank identity. -/
def eventById (l : Ledger D) (p : R1StreamPartition) (eventId : String) :
    Except PyError (Option (EventRow D)) :=
  match l.events.rows.find? fun r => r.partition = p ∧ r.eventId = eventId with
  | none => do
    checkTexts (eventId :: p.texts)
    return none
  | some row =>
    if isBlank row.eventId then
      .error (.typeError "event ledger identity must be a non-blank string")
    else .ok (some row)

/-- `_SELECT_WATERMARK_BY_ID`. -/
def watermarkById (l : Ledger D) (p : R1StreamPartition) (watermarkId : Identifier) :
    Option (WatermarkRow D) :=
  l.watermarks.rows.find? fun r => r.partition = p ∧ r.watermarkId = watermarkId

/-- `_SELECT_WATERMARK_BY_SEQUENCE`. -/
def watermarkBySequence (l : Ledger D) (p : R1StreamPartition) (sequence : Nat) :
    Option (WatermarkRow D) :=
  l.watermarks.rows.find? fun r => r.partition = p ∧ r.watermarkSequence = sequence

/-- `_SELECT_LATEST_WATERMARK_FOR_UPDATE`: the partition's greatest sequence. -/
def latestWatermark (l : Ledger D) (p : R1StreamPartition) : Option (WatermarkRow D) :=
  (l.watermarks.rows.filter fun r => r.partition = p).argmax (·.watermarkSequence)

/-- `_protect_run`: whether a close already made the Run immutable. -/
def protectRun (l : Ledger D) (runId : RunId) : Bool := l.runCloses.rows.any (·.runId = runId)

/-- `_SELECT_COVERED_CHUNK_SEQUENCES`. -/
def coveredChunkSequences (l : Ledger D) (p : R1StreamPartition) (covered : Nat) : List Nat :=
  (l.chunks.rows.filter fun r => r.partition = p ∧ r.chunkSequence ≤ covered).map (·.chunkSequence)

/-- `_watermark_covers_received_chunks`: the frontier is active once all chunks
that the watermark covers are present. -/
def watermarkCoversReceivedChunks (l : Ledger D) (p : R1StreamPartition)
    (w : R1AcceptedWatermark) : Bool :=
  let received := (l.coveredChunkSequences p w.coveredThroughChunkSequence).dedup
  received.length = w.coveredThroughChunkSequence && received.min?.getD 0 = 1 &&
    received.max?.getD 0 = w.coveredThroughChunkSequence

/-- `_SELECT_STREAM_PARTITION_COUNT_FOR_RUN`: the partitions of the run that
have a chunk or a watermark. -/
def streamPartitionsForRun (l : Ledger D) (runId : RunId) : List R1StreamPartition :=
  (((l.chunks.rows.filter (·.partition.runId = runId)).map (·.partition)) ++
    ((l.watermarks.rows.filter (·.partition.runId = runId)).map (·.partition))).dedup

/-! ## Chunk admission -/

/-- `_position_close_frontier`. -/
def positionCloseFrontier (l : Ledger D) (p : R1StreamPartition) : Except PyError (Option Nat) :=
  match l.positionCloses.rows.find? (·.partition.runId = p.runId) with
  | none => .ok none
  | some row => do
    raiseIf ((row.partition.hostId, row.partition.source, row.partition.sourceChannel) ≠
        (p.hostId, p.source, p.sourceChannel))
      (.valueError "position close is bound to another stream partition")
    raiseIf (row.lowerRecordId < 1 ∨ row.upperRecordId < row.lowerRecordId)
      (.valueError "position close frontier has invalid RecordId bounds")
    return some row.upperRecordId

/-- A canonical decimal RecordId: ASCII digits that `str(int(value))` reproduces. -/
def isCanonicalRecordId (value : Option String) : Bool :=
  match value with
  | none => false
  | some v => isAsciiDecimal v && decimalStr (decimalInt v) = v.toList

/-- The Event loop of `_assert_events_are_post_position_close`. -/
def assertRecordIdsAfter (upperRecordId : Nat) :
    List (String × Option String) → Except PyError Unit
  | [] => .ok ()
  | (eventId, sourceRecordId) :: rest => do
    raiseIf (isCanonicalRecordId sourceRecordId = false)
      (.valueErrorQuoting "position-closed Event " eventId " has no canonical decimal RecordId")
    raiseIf (decimalInt (sourceRecordId.getD "") ≤ upperRecordId)
      (.valueErrorQuoting "position-closed Event " eventId
        " is not strictly after the RecordId frontier")
    assertRecordIdsAfter upperRecordId rest

/-- `_assert_events_are_post_position_close`. -/
def assertEventsArePostPositionClose (eventContentSha256s : List (String × D))
    (eventSourceRecordIds : List (String × Option String)) (upperRecordId : Nat) :
    Except PyError Unit := do
  raiseIf (eventSourceRecordIds.map Prod.fst ≠ eventContentSha256s.map Prod.fst ∨
      ¬ (eventSourceRecordIds.map Prod.fst).Nodup)
    (.valueError "position-closed chunk has incomplete Event RecordId bindings")
  assertRecordIdsAfter upperRecordId eventSourceRecordIds

/-- The position-close check of `inspect_chunk_admission`, when there is a frontier. -/
def assertPastFrontier (eventContentSha256s : List (String × D))
    (eventSourceRecordIds : List (String × Option String)) :
    Option Nat → Except PyError Unit
  | none => .ok ()
  | some upperRecordId =>
    assertEventsArePostPositionClose eventContentSha256s eventSourceRecordIds upperRecordId

variable [DecidableEq D]

/-- The Event loop of `inspect_chunk_admission`: the ids the ledger does not
have; a known id must have the same content. -/
def newEventIds (l : Ledger D) (p : R1StreamPartition) :
    List (String × D) → Except PyError (List String)
  | [] => .ok []
  | (eventId, contentSha256) :: rest => do
    match ← l.eventById p eventId with
    | none =>
      let ids ← newEventIds l p rest
      return eventId :: ids
    | some row =>
      raiseIf (row.contentSha256 ≠ contentSha256)
        (.valueError "event identity conflicts with previously accepted content")
      newEventIds l p rest

/-- `inspect_chunk_admission`. -/
def inspectChunkAdmission (l : Ledger D) (p : R1StreamPartition) (chunkId : Identifier)
    (sequence : Nat) (contentSha256 : D) (eventContentSha256s : List (String × D))
    (eventSourceRecordIds : List (String × Option String)) : Except PyError R1ChunkAdmission :=
  match l.chunkById p chunkId with
  | some row =>
    if row.chunkSequence = sequence ∧ row.contentSha256 = contentSha256 then
      .ok ⟨true, [], none⟩
    else .error (.valueError "chunk identity conflicts with previously accepted content")
  | none => do
    checkTexts (chunkId.val :: p.texts)
    raiseIf (l.chunkBySequence p sequence).isSome
      (.valueError "chunk sequence conflicts with previously accepted identity")
    raiseIf (l.protectRun p.runId = true)
      (.valueError "cannot accept a new chunk after run_closed is accepted")
    let frontier ← l.positionCloseFrontier p
    assertPastFrontier eventContentSha256s eventSourceRecordIds frontier
    let ids ← l.newEventIds p eventContentSha256s
    let latest := (l.latestWatermark p).map (·.accepted)
    return ⟨false, ids, latest.filter (l.watermarkCoversReceivedChunks p)⟩

/-! ## Chunk and Event writes -/

/-- `ON CONFLICT DO NOTHING RETURNING`: whether the row was inserted. -/
def insertRow (insert : Ledger D → Option (Ledger D)) : EStateM PyError (Ledger D) Bool := fun l =>
  match insert l with
  | some l' => .ok true l'
  | none => .ok false l

/-- The greatest value of an INTEGER column. -/
def integerMax : Nat := 2147483647

/-- `_INSERT_EVENT`, with the check constraint on `event_id`. -/
def insertEvent (row : EventRow D) : EStateM PyError (Ledger D) Bool := do
  reads fun _ => checkTexts (row.eventId :: row.partition.texts)
  reads fun _ => raiseIf (isBtrimEmpty row.eventId = true)
    (.databaseError "new row violates check constraint on event_id")
  insertRow fun l => (l.events.insert? row).map fun events => { l with events }

/-- `_assert_closed_run_event_replays`. -/
def assertClosedRunEventReplays (l : Ledger D) (p : R1StreamPartition) :
    List (String × D) → Except PyError Unit
  | [] => .ok ()
  | (eventId, contentSha256) :: rest => do
    match ← l.eventById p eventId with
    | none => .error (.valueError "cannot accept a new event after run_closed is accepted")
    | some row =>
      raiseIf (row.contentSha256 ≠ contentSha256)
        (.valueError "event identity conflicts with previously accepted content")
      assertClosedRunEventReplays l p rest

/-- The insertion loop of `save_events`. -/
def insertEvents (p : R1StreamPartition) :
    List (String × D) → EStateM PyError (Ledger D) (List String)
  | [] => pure []
  | (eventId, contentSha256) :: rest => do
    if ← insertEvent ⟨p, eventId, contentSha256⟩ then
      let ids ← insertEvents p rest
      return eventId :: ids
    else
      reads fun l => do
        match ← l.eventById p eventId with
        | none =>
          .error (.valueError "event delivery conflicts with an unavailable ledger record")
        | some row =>
          raiseIf (row.contentSha256 ≠ contentSha256)
            (.valueError "event identity conflicts with previously accepted content")
      insertEvents p rest

/-- `save_events`. -/
def saveEvents (p : R1StreamPartition) (eventContentSha256s : List (String × D)) :
    EStateM PyError (Ledger D) (List String) := do
  if ← reads fun l => .ok (l.protectRun p.runId) then
    reads fun l => l.assertClosedRunEventReplays p eventContentSha256s
    return []
  else insertEvents p eventContentSha256s

/-- `_INSERT_CHUNK`, whose `chunk_sequence` column is an INTEGER. -/
def insertChunk (row : ChunkRow D) : EStateM PyError (Ledger D) Bool := do
  reads fun _ => checkTexts (row.chunkId.val :: row.partition.texts)
  reads fun _ => raiseIf (integerMax < row.chunkSequence) (.databaseError "integer out of range")
  insertRow fun l => (l.chunks.insert? row).map fun chunks => { l with chunks }

/-- `_resolve_partition_conflict` on the rows with the identity, by their
sequence and digest. -/
def resolvePartitionConflict (existing : Option (Nat × D)) (sequence : Nat) (contentSha256 : D)
    (label : String) : Except PyError Bool :=
  match existing with
  | some (existingSequence, existingSha256) =>
    if existingSequence = sequence ∧ existingSha256 = contentSha256 then .ok false
    else .error (.valueError (label ++ " identity conflicts with previously accepted content"))
  | none =>
    .error (.valueError (label ++ " sequence conflicts with previously accepted identity"))

/-- `_resolve_closed_chunk_replay`. -/
def resolveClosedChunkReplay (l : Ledger D) (p : R1StreamPartition) (chunkId : Identifier)
    (sequence : Nat) (contentSha256 : D) : Except PyError Bool :=
  match l.chunkById p chunkId with
  | some row =>
    if row.chunkSequence = sequence ∧ row.contentSha256 = contentSha256 then .ok false
    else .error (.valueError "chunk identity conflicts with previously accepted content")
  | none => do
    checkTexts (chunkId.val :: p.texts)
    raiseIf (l.chunkBySequence p sequence).isSome
      (.valueError "chunk sequence conflicts with previously accepted identity")
    .error (.valueError "cannot accept a new chunk after run_closed is accepted")

/-- `save_chunk`. -/
def saveChunk (row : ChunkRow D) : EStateM PyError (Ledger D) Bool := do
  if ← reads fun l => .ok (l.protectRun row.partition.runId) then
    reads fun l =>
      l.resolveClosedChunkReplay row.partition row.chunkId row.chunkSequence row.contentSha256
  else if ← insertChunk row then
    return true
  else
    reads fun l => resolvePartitionConflict
      ((l.chunkById row.partition row.chunkId).map fun r => (r.chunkSequence, r.contentSha256))
      row.chunkSequence row.contentSha256 "chunk"

/-! ## Watermarks -/

/-- `_INSERT_WATERMARK`, with its INTEGER columns. -/
def insertWatermark (row : WatermarkRow D) : EStateM PyError (Ledger D) Bool := do
  reads fun _ => checkTexts (row.watermarkId.val :: row.partition.texts)
  reads fun _ => raiseIf (integerMax < row.watermarkSequence ∨ integerMax < row.allowedLatenessMs ∨
      integerMax < row.coveredThroughChunkSequence) (.databaseError "integer out of range")
  insertRow fun l => (l.watermarks.insert? row).map fun watermarks => { l with watermarks }

/-- The row of a watermark message. -/
def watermarkRow (w : R1SourceWatermark) (contentSha256 : D) : WatermarkRow D where
  partition := w.partition
  watermarkId := w.watermarkId
  watermarkSequence := w.watermarkSequence
  contentSha256 := contentSha256
  watermarkAt := w.watermarkAt
  allowedLatenessMs := w.allowedLatenessMs
  coveredThroughChunkSequence := w.coveredThroughChunkSequence
  covered_pos := w.covered_pos

/-- The checks of `save_watermark` against the latest durable watermark. -/
def assertAdvances (w : R1SourceWatermark) (latest : Option R1AcceptedWatermark) :
    Except PyError Unit :=
  match latest with
  | none => .ok ()
  | some latest => do
    raiseIf (w.watermarkSequence ≤ latest.watermarkSequence)
      (.valueError "watermark sequence must advance beyond the latest durable watermark")
    raiseIf (w.watermarkAt < latest.watermarkAt)
      (.valueError "watermark_at must not move backwards from the latest durable watermark")
    raiseIf (w.allowedLatenessMs ≠ latest.allowedLatenessMs)
      (.valueError "allowed_lateness_ms must remain constant within a partition")

/-- What `save_watermark` decides before its insert: `true` for a new
watermark, `false` for an exact replay. -/
def inspectWatermark (l : Ledger D) (w : R1SourceWatermark) (contentSha256 : D) :
    Except PyError Bool :=
  match l.watermarkById w.partition w.watermarkId with
  | some row =>
    if row.watermarkSequence = w.watermarkSequence ∧ row.contentSha256 = contentSha256 then
      .ok false
    else .error (.valueError "watermark identity conflicts with previously accepted content")
  | none => do
    checkTexts (w.watermarkId.val :: w.partition.texts)
    raiseIf (l.protectRun w.partition.runId = true)
      (.valueError "cannot accept a watermark after run_closed is accepted")
    raiseIf (l.watermarkBySequence w.partition w.watermarkSequence).isSome
      (.valueError "watermark sequence conflicts with previously accepted identity")
    assertAdvances w ((l.latestWatermark w.partition).map (·.accepted))
    return true

/-- `save_watermark`. -/
def saveWatermark (w : R1SourceWatermark) (contentSha256 : D) :
    EStateM PyError (Ledger D) Bool := do
  if ← reads fun l => l.inspectWatermark w contentSha256 then
    if ← insertWatermark (watermarkRow w contentSha256) then
      return true
    else
      reads fun l => resolvePartitionConflict
        ((l.watermarkById w.partition w.watermarkId).map fun r =>
          (r.watermarkSequence, r.contentSha256))
        w.watermarkSequence contentSha256 "watermark"
  else return false

/-! ## Run closes -/

/-- The values of a final watermark that its accepted row must reproduce. -/
def finalAccepted (w : R1FinalPartitionWatermark) : R1AcceptedWatermark where
  watermarkId := w.watermarkId
  watermarkSequence := w.watermarkSequence
  watermarkAt := w.watermarkAt
  allowedLatenessMs := w.allowedLatenessMs
  coveredThroughChunkSequence := w.coveredThroughChunkSequence

/-- The loop of `assert_final_watermarks_match`. -/
def assertLatestWatermarks (l : Ledger D) : List R1FinalPartitionWatermark → Except PyError Unit
  | [] => .ok ()
  | final :: rest =>
    match l.latestWatermark final.partition with
    | none => do
      checkTexts final.partition.texts
      .error (.valueError "run close references a source watermark not accepted for its partition")
    | some existing => do
      raiseIf (existing.accepted ≠ finalAccepted final)
        (.valueError
          "run close final watermark does not match its latest accepted partition watermark")
      assertLatestWatermarks l rest

/-- `assert_final_watermarks_match`. -/
def assertFinalWatermarksMatch (l : Ledger D) (finals : List R1FinalPartitionWatermark) :
    Except PyError Unit :=
  match finals with
  | [] => .error (.valueError "run close must contain at least one final watermark")
  | first :: rest => do
    raiseIf (∃ w ∈ rest, w.partition.runId ≠ first.partition.runId)
      (.valueError "run close final watermarks must belong to one run")
    l.assertLatestWatermarks finals
    raiseIf ((l.streamPartitionsForRun first.partition.runId).length ≠ finals.length)
      (.valueError "run close final watermarks do not cover every accepted partition")

/-- `_INSERT_CLOSE`. -/
def insertClose (row : RunCloseRow D) : EStateM PyError (Ledger D) Bool := do
  reads fun _ => checkTexts [row.closeId.val]
  insertRow fun l => (l.runCloses.insert? row).map fun runCloses => { l with runCloses }

/-- `_SELECT_CLOSE_BY_ID`. -/
def closeById (l : Ledger D) (runId : RunId) (closeId : Identifier) : Option (RunCloseRow D) :=
  l.runCloses.rows.find? fun r => r.runId = runId ∧ r.closeId = closeId

/-- What `save_run_close` answers when the Run has a close already. -/
def resolveRunCloseConflict (existing : Option (RunCloseRow D)) (contentSha256 : D) :
    Except PyError Bool :=
  match existing with
  | some existing =>
    if existing.contentSha256 = contentSha256 then .ok false
    else .error (.valueError "run close identity conflicts with previously accepted content")
  | none => .error (.valueError "run already has a different accepted close_id")

/-- `save_run_close`. -/
def saveRunClose (row : RunCloseRow D) : EStateM PyError (Ledger D) Bool := do
  if ← insertClose row then
    return true
  else
    reads fun l => resolveRunCloseConflict (l.closeById row.runId row.closeId) row.contentSha256

omit [DecidableEq D] in
/-- `load_accepted_run_close_receipt`, of a run id that is neither blank nor padded. -/
def loadAcceptedRunCloseReceipt (l : Ledger D) (runId : RunId) :
    Option (R1AcceptedRunCloseReceipt D) :=
  (l.runCloses.rows.find? (·.runId = runId)).map fun r => ⟨runId, r.closeId, r.contentSha256⟩

end Ledger

end IncidentAwareness.Stream
