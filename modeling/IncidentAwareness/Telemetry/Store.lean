import IncidentAwareness.Lib.Canonical
import IncidentAwareness.Lib.Run
import IncidentAwareness.Lib.Table
import IncidentAwareness.Telemetry.Snapshot

/-!
# The telemetry store

`PipelineTelemetryRepository.save_snapshot` over its two tables: a row of metadata
for each execution and a row for each of its buckets. An update keeps the identity
columns of an execution's row and writes the others from the snapshot, as its
payload; a bucket's row is written whole. One save is one transaction under the
execution's lock: where it raises, the tables stay as they were (`step`).
-/

namespace IncidentAwareness.Telemetry

open IncidentAwareness.Common IncidentAwareness.Lib

/-- What reading and saving telemetry raises: a `PipelineTelemetryIntegrityError`, a
`PipelineTelemetryInputConflictError`, what validating a value raised, or an error of the
database. -/
inductive TelemetryError where
  | integrity (text : String)
  | inputConflict
  | invalid (error : PyError)
  | database (text : String)
  deriving DecidableEq, Repr

/-! ## Rows -/

/-- A row of `pipeline_telemetry_executions`: the columns that an update keeps, and the
payload, whose fields the other columns repeat. -/
structure ExecutionRow where
  executionId : String
  snapshotId : String
  runId : String
  entityId : String
  inputIdentity : Option PipelineTelemetryInputIdentity
  payload : SnapshotMetadata
  updatedAt : Int
  deriving DecidableEq, Repr

/-- The `CHECK`s that compare the payload with the columns that an update keeps. -/
def ExecutionRow.PayloadAgrees (row : ExecutionRow) : Prop :=
  row.payload.executionId = row.executionId ∧ row.payload.snapshotId = row.snapshotId ∧
    row.payload.runId = row.runId ∧ row.payload.entityId = row.entityId ∧
    row.payload.inputIdentity = row.inputIdentity

instance (row : ExecutionRow) : Decidable row.PayloadAgrees := by
  unfold ExecutionRow.PayloadAgrees; infer_instance

/-- A row of `pipeline_telemetry_buckets`: its columns repeat the fields of the payload. -/
structure BucketRow where
  executionId : String
  payload : PipelineTelemetryBucket
  deriving DecidableEq, Repr

/-- `(execution_id, bucket_start)`. -/
def BucketRow.key (row : BucketRow) : String × Int := (row.executionId, row.payload.val.bucketStart)

/-- The two tables. -/
structure TelemetryStore where
  executions : Table (SameKey ExecutionRow.executionId)
  buckets : Table (SameKey BucketRow.key)

namespace TelemetryStore

/-- The tables after the migrations. -/
def empty : TelemetryStore := ⟨.empty, .empty⟩

/-- `get_execution`: the payload with the buckets of the execution, in their order. -/
def getExecution (store : TelemetryStore) (executionId : String) :
    Except PyError (Option PipelineTelemetrySnapshot) :=
  match store.executions.get executionId with
  | none => .ok none
  | some row =>
    let rows := store.buckets.rows.filter fun b => b.executionId = row.executionId
    let buckets := sortedBy (fun b => b.val.bucketStart) (rows.map BucketRow.payload)
    some <$> construct SnapshotFields.validate { row.payload with buckets := buckets }

/-! ## Saving -/

/-- The greatest `BIGINT`. -/
def maxBigint : Nat := 9223372036854775807

/-- What every `BIGINT` column requires of a counter. -/
def checkBigint (value : Nat) : Except TelemetryError Unit :=
  raiseIf (maxBigint < value) (.database "bigint out of range")

/-- What a `TEXT` parameter requires of a string. -/
def checkText (value : String) : Except TelemetryError Unit :=
  raiseIf ( '\x00' ∈ value.toList) (.database "PostgreSQL text fields cannot contain NUL bytes")

/-- `date_trunc('milliseconds', clock_timestamp())`. -/
def truncMillis (now : Int) : Int := now - now % 1000

/-- What the tables require of a snapshot's metadata. -/
def checkMetadata (s : SnapshotMetadata) : Except TelemetryError Unit := do
  checkText s.executionId
  checkText s.runId
  checkText s.entityId
  checkBigint s.revision
  s.inputTotal.toList.forM checkBigint
  raiseIf (∃ accepted ∈ s.inputAcceptedAt, ∃ last ∈ s.lastObservedAt, last < accepted)
    (.database "CHECK (last_observed_at >= input_accepted_at)")

/-- The row that `_UPSERT_EXECUTION` writes. -/
def executionRow (stored : Option ExecutionRow) (s : SnapshotMetadata) (now : Int) :
    Except TelemetryError ExecutionRow :=
  match stored with
  | none => .ok {
      executionId := s.executionId
      snapshotId := s.snapshotId
      runId := s.runId
      entityId := s.entityId
      inputIdentity := s.inputIdentity
      payload := s
      updatedAt := truncMillis now }
  | some row => do
    raiseIf (¬ row.payload.revision < s.revision)
      (.integrity "execution revision changed outside its lock")
    return { row with payload := s, updatedAt := truncMillis now }

/-- `_UPSERT_EXECUTION`. -/
def upsertExecution (store : TelemetryStore) (s : SnapshotMetadata) (now : Int) :
    Except TelemetryError TelemetryStore := do
  checkMetadata s
  let row ← executionRow (store.executions.get s.executionId) s now
  raiseIf (¬ row.PayloadAgrees) (.database "CHECK (payload ->> column IS NOT DISTINCT FROM column)")
  return { store with executions := store.executions.upsert row }

/-- What the tables require of a bucket. -/
def checkBucket (b : BucketFields) : Except TelemetryError Unit :=
  [b.revision, b.inputAcceptedCount, b.processingCompletedCount, b.processingFailedCount,
    b.latencySampleCount, b.latencySumNs].forM checkBigint

/-- `_UPSERT_BUCKET`. -/
def upsertBucket (executionId : String) (store : TelemetryStore) (b : PipelineTelemetryBucket) :
    Except TelemetryError TelemetryStore := do
  checkBucket b.val
  raiseIf (∃ row ∈ store.buckets.get (executionId, b.val.bucketStart),
      ¬ row.payload.val.revision < b.val.revision)
    (.integrity "bucket revision changed outside its lock")
  return { store with buckets := store.buckets.upsert ⟨executionId, b⟩ }

/-- `_validate_scope`. -/
def validateScope (previous incoming : SnapshotMetadata) : Except TelemetryError Unit :=
  raiseIf (previous.snapshotId ≠ incoming.snapshotId ∨ previous.executionId ≠ incoming.executionId ∨
      previous.runId ≠ incoming.runId ∨ previous.entityId ≠ incoming.entityId ∨
      previous.inputIdentity ≠ incoming.inputIdentity)
    (.integrity "execution identity or measurement scope changed")

/-- The bucket of a second (`buckets.get(start)`). -/
def bucketAt (buckets : List PipelineTelemetryBucket) (start : Int) :
    Option PipelineTelemetryBucket :=
  buckets.find? fun b => b.val.bucketStart = start

/-- The check of one bucket in `_validate_replacement`. -/
def validateSuccessor (incoming : SnapshotFields) (prior : PipelineTelemetryBucket) :
    Except TelemetryError Unit :=
  match bucketAt incoming.buckets prior.val.bucketStart with
  | none => .error (.integrity "replacement omits a previously observed bucket")
  | some candidate => do
    raiseIf (candidate.val.revision < prior.val.revision)
      (.integrity "bucket revision regressed in newer snapshot")
    raiseIf (candidate.val.revision = prior.val.revision ∧ candidate ≠ prior)
      (.integrity "same bucket revision has different payload")

/-- `_validate_replacement`. -/
def validateReplacement (previous incoming : SnapshotFields) : Except TelemetryError Unit := do
  raiseIf (previous.inputTotal ≠ none ∧ (previous.inputTotal ≠ incoming.inputTotal ∨
      previous.inputAcceptedAt ≠ incoming.inputAcceptedAt))
    (.integrity "accepted batch changed within execution")
  previous.buckets.forM (validateSuccessor incoming)

/-- What `save_snapshot` does with the stored snapshot: whether there is something to
write. -/
def comparePrevious (previous incoming : PipelineTelemetrySnapshot) : Except TelemetryError Bool := do
  validateScope previous.val.toSnapshotMetadata incoming.val.toSnapshotMetadata
  if incoming.val.revision < previous.val.revision then return false
  if incoming.val.revision = previous.val.revision then
    raiseIf (incoming ≠ previous) (.integrity "same snapshot revision has different payload")
    return false
  validateReplacement previous.val incoming.val
  return true

/-- The buckets to write: those that differ from the stored ones. -/
def changedBuckets (previous : Option PipelineTelemetrySnapshot)
    (incoming : PipelineTelemetrySnapshot) : List PipelineTelemetryBucket :=
  let stored := (previous.map fun s => s.val.buckets).getD []
  incoming.val.buckets.filter fun b => bucketAt stored b.val.bucketStart ≠ some b

/-- `save_snapshot`, at the time the database's clock shows: the tables it commits, and
whether it wrote. -/
def saveSnapshot (store : TelemetryStore) (snapshot : PipelineTelemetrySnapshot) (now : Int) :
    Except TelemetryError (TelemetryStore × Bool) := do
  checkText snapshot.val.executionId
  let previous ← (store.getExecution snapshot.val.executionId).mapError .invalid
  let write ← match previous with
    | none => pure true
    | some previous => comparePrevious previous snapshot
  if write then
    let store ← store.upsertExecution snapshot.val.toSnapshotMetadata now
    let store ← (changedBuckets previous snapshot).foldlM
      (upsertBucket snapshot.val.executionId) store
    return (store, true)
  else return (store, false)

/-- One call of `save_snapshot` and the commit after it: a call that raises is rolled
back. -/
def step (store : TelemetryStore) (call : PipelineTelemetrySnapshot × Int) :
    TelemetryStore × Except TelemetryError Bool :=
  match store.saveSnapshot call.1 call.2 with
  | .ok (saved, wrote) => (saved, .ok wrote)
  | .error e => (store, .error e)

end TelemetryStore

end IncidentAwareness.Telemetry
