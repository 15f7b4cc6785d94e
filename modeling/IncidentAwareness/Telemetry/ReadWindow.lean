import IncidentAwareness.Lib.Query
import IncidentAwareness.Telemetry.Store
import Mathlib.Data.Prod.Lex
import Mathlib.Data.String.Basic

/-!
# Reading a telemetry window

`PipelineTelemetryRepository.read_window`: one statement (`_READ_WINDOW`) that sums
the buckets of the executions in scope for every second of a half-open window, and
counts the executions by the quality of their observations. Integers and instants
that PostgreSQL returns as JSON are read back as they were.
-/

namespace IncidentAwareness.Telemetry

open IncidentAwareness.Common IncidentAwareness.Lib

/-- The scope of a read: the arguments `execution_id`, `run_id`, `entity_id` and `reported`. -/
structure WindowScope where
  executionId : Option String := none
  runId : Option String := none
  entityId : Option String := none
  reported : Bool := false
  deriving DecidableEq, Repr

/-- A row of `points`. -/
structure PointRow where
  bucketStart : Int
  bucketEnd : Int
  executionsCount : Nat
  inputAcceptedCount : Nat
  processingCompletedCount : Nat
  processingFailedCount : Nat
  processingLatencySampleCount : Nat
  processingLatencySumNs : Nat
  observedAt : Option Int
  deriving DecidableEq, Repr

/-- What `read_window` returns. -/
structure WindowData where
  points : List PointRow
  executionsCount : Nat
  observedExecutions : Nat
  partialExecutions : Nat
  unavailableExecutions : Nat
  disabledExecutions : Nat
  lastObservedAt : Option Int
  persistedAt : Option Int
  observationIssues : List TelemetryObservationIssue
  deriving DecidableEq, Repr

namespace TelemetryStore

/-- The bucket starts in the window. -/
def InWindow (start ends : Int) (row : BucketRow) : Prop :=
  start ≤ row.payload.val.bucketStart ∧ row.payload.val.bucketStart < ends

instance (start ends : Int) (row : BucketRow) : Decidable (InWindow start ends row) := by
  unfold InWindow; infer_instance

/-- `%s::text IS NULL OR column = %s`. -/
def matchesText (parameter : Option String) (column : String) : Bool :=
  parameter.all fun value => column = value

/-- The `WHERE` of `scoped`. -/
def inScope (store : TelemetryStore) (scope : WindowScope) (start ends : Int) (row : ExecutionRow) :
    Bool :=
  matchesText scope.executionId row.executionId && matchesText scope.runId row.runId &&
    matchesText scope.entityId row.entityId &&
    (!scope.reported ||
      store.buckets.rows.any fun b => b.executionId = row.executionId ∧ InWindow start ends b)

/-- `scoped`. -/
def scopedRows (store : TelemetryStore) (scope : WindowScope) (start ends : Int) : List ExecutionRow :=
  store.executions.rows.filter (store.inScope scope start ends)

/-- `input_check`: whether the rows of a run, of all entities and times, may be of different
inputs. No run is compared with none. -/
def inputConflict (store : TelemetryStore) (runId : Option String) : Bool :=
  let rows := store.executions.rows.filter fun row => runId = some row.runId
  let identities := rows.filterMap ExecutionRow.inputIdentity
  decide (1 < rows.length) &&
    (decide (identities.length ≠ rows.length) || decide (identities.dedup.length ≠ 1))

/-- `(bucket_start, bucket_end)`. -/
def bucketKey (row : BucketRow) : Int ×ₗ Int :=
  toLex (row.payload.val.bucketStart, row.payload.val.bucketEnd)

/-- `sum(column)` of a group. -/
def total (column : BucketFields → Nat) (group : List BucketRow) : Nat :=
  (group.map fun row => column row.payload.val).sum

/-- The columns of `points` of one group. -/
def pointOf (key : Int ×ₗ Int) (group : List BucketRow) : PointRow where
  bucketStart := (ofLex key).1
  bucketEnd := (ofLex key).2
  executionsCount := group.length
  inputAcceptedCount := total BucketFields.inputAcceptedCount group
  processingCompletedCount := total BucketFields.processingCompletedCount group
  processingFailedCount := total BucketFields.processingFailedCount group
  processingLatencySampleCount := total BucketFields.latencySampleCount group
  processingLatencySumNs := total BucketFields.latencySumNs group
  observedAt := (group.map fun row => row.payload.val.lastObservedAt).max?

/-- `points`, where the inputs do not conflict. -/
def points (store : TelemetryStore) (scope : WindowScope) (start ends : Int) : List PointRow :=
  groupBy bucketKey pointOf
    ((joinOn BucketRow.executionId ExecutionRow.executionId store.buckets.rows
      (store.scopedRows scope start ends)).filter (InWindow start ends))

/-- `GREATEST(a, b)`, which ignores nulls. -/
def greatest : Option Int → Option Int → Option Int
  | some a, some b => some (max a b)
  | some a, none => some a
  | none, b => b

/-- The text of an issue, by which `jsonb_agg(DISTINCT issue ORDER BY issue)` orders. -/
def issueText : TelemetryObservationIssue → String
  | .wallClockRegression => "wall_clock_regression"
  | .monotonicClockError => "monotonic_clock_error"
  | .invalidMonotonicDuration => "invalid_monotonic_duration"
  | .invalidCallback => "invalid_callback"
  | .internalError => "internal_error"
  | .storageError => "storage_error"
  | .bufferLimit => "buffer_limit"

/-- `metadata` with the points. -/
def windowData (store : TelemetryStore) (scope : WindowScope) (start ends : Int) : WindowData :=
  let rows := store.scopedRows scope start ends
  let points := store.points scope start ends
  let count status := (rows.filter fun row => row.payload.observationStatus = status).length
  { points := points
    executionsCount := rows.length
    observedExecutions := count .observed
    partialExecutions := count .partially
    unavailableExecutions := count .unavailable
    disabledExecutions := (rows.filter fun row => row.payload.collectionDisabled).length
    lastObservedAt := greatest
      (((rows.filterMap fun row => row.payload.lastObservedAt).filter fun t => t < ends).max?)
      ((points.filterMap PointRow.observedAt).max?)
    persistedAt := (rows.map ExecutionRow.updatedAt).max?
    observationIssues :=
      sortedBy issueText (rows.flatMap fun row => row.payload.observationIssues).dedup }

/-- What `read_window` requires of a boundary of the window. -/
def checkBoundary (name : String) (value : Int) : Except PyError Unit := do
  validateTelemetryDatetime name value
  raiseIf (value % oneSecond ≠ 0) (.valueError "telemetry window boundaries must be UTC seconds")

/-- A text argument that counts as given. -/
def given (parameter : Option String) : Bool := parameter.any fun value => value ≠ ""

/-- What `read_window` requires of the scope. -/
def checkScope (scope : WindowScope) : Except PyError Unit :=
  raiseIf (
      (scope.reported = true ∧
        (given scope.executionId ∨ given scope.runId ∨ given scope.entityId)) ∨
      (scope.executionId ≠ none ∧ (given scope.runId ∨ given scope.entityId)) ∨
      (scope.reported = false ∧ scope.executionId = none ∧ scope.runId = none))
    (.valueError "invalid telemetry scope")

/-- `_read_utc_datetime` of an instant. -/
def readUtcDatetime : Option Int → Except PyError Unit := validateOptionalDatetime "stored timestamp"

/-- `read_window`. -/
def readWindow (store : TelemetryStore) (scope : WindowScope) (start ends : Int) :
    Except TelemetryError WindowData := do
  let invalid : Except PyError Unit → Except TelemetryError Unit := fun x => x.mapError .invalid
  invalid (checkBoundary "start" start)
  invalid (checkBoundary "end" ends)
  invalid (raiseIf (¬ (0 < ends - start ∧ ends - start ≤ 300 * oneSecond))
    (.valueError "telemetry window must span 1 to 300 seconds"))
  invalid (checkScope scope)
  [scope.executionId, scope.runId, scope.entityId].forM fun value => value.toList.forM checkText
  raiseIf (store.inputConflict scope.runId = true) .inputConflict
  let data := store.windowData scope start ends
  invalid (readUtcDatetime data.lastObservedAt)
  invalid (readUtcDatetime data.persistedAt)
  invalid (data.points.forM fun point => do
    readUtcDatetime (some point.bucketStart)
    readUtcDatetime (some point.bucketEnd)
    readUtcDatetime point.observedAt)
  return data

end TelemetryStore

end IncidentAwareness.Telemetry
