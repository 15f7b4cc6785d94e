import IncidentAwareness.Lib.Canonical
import IncidentAwareness.Telemetry.Snapshot

/-!
# The telemetry collector

`PipelineTelemetryCollector`: the observations of one execution, counted by the UTC
second they fall in, and the snapshots it publishes of them. A call is given what
the clocks show; a reading is missing where the clock raises or shows something
that is no reading. What a call raises is marked as an issue and disables the
collector (`_best_effort`). A published bucket is kept under its revision, which
every change of its counters raises, so publishing is building.
-/

namespace IncidentAwareness.Telemetry

open IncidentAwareness.Common IncidentAwareness.Lib

/-- `_BucketCounters`. -/
structure BucketCounters where
  bucketStart : Int
  firstObservedAt : Int
  lastObservedAt : Int
  revision : Nat := 0
  inputAcceptedCount : Nat := 0
  processingCompletedCount : Nat := 0
  processingFailedCount : Nat := 0
  latencySampleCount : Nat := 0
  latencySumNs : Nat := 0
  deriving DecidableEq, Repr

/-- The fields that `publish` validates. -/
def BucketCounters.fields (b : BucketCounters) : BucketFields where
  bucketStart := b.bucketStart
  bucketEnd := b.bucketStart + oneSecond
  firstObservedAt := b.firstObservedAt
  lastObservedAt := b.lastObservedAt
  revision := b.revision
  inputAcceptedCount := b.inputAcceptedCount
  processingCompletedCount := b.processingCompletedCount
  processingFailedCount := b.processingFailedCount
  latencySampleCount := b.latencySampleCount
  latencySumNs := b.latencySumNs

/-- `publish`. -/
def BucketCounters.publish (b : BucketCounters) : Except PyError PipelineTelemetryBucket := do
  let _ ← addTimedelta b.bucketStart oneSecond
  construct BucketFields.validate b.fields

/-- The increments of one observation. -/
structure Observation where
  inputAcceptedCount : Nat := 0
  processingCompletedCount : Nat := 0
  processingFailedCount : Nat := 0
  latencySampleCount : Nat := 0
  latencySumNs : Nat := 0
  deriving DecidableEq, Repr

/-- A bucket after one more observation. -/
def BucketCounters.add (b : BucketCounters) (now : Int) (o : Observation) : BucketCounters where
  bucketStart := b.bucketStart
  firstObservedAt := b.firstObservedAt
  lastObservedAt := now
  revision := b.revision + 1
  inputAcceptedCount := b.inputAcceptedCount + o.inputAcceptedCount
  processingCompletedCount := b.processingCompletedCount + o.processingCompletedCount
  processingFailedCount := b.processingFailedCount + o.processingFailedCount
  latencySampleCount := b.latencySampleCount + o.latencySampleCount
  latencySumNs := b.latencySumNs + o.latencySumNs

/-- A completion token: the `RecordMeasurement` that `begin_record` returned for an ordinal, or
another object. -/
inductive RecordToken where
  | issued (recordNo : Nat)
  | elsewhere
  deriving DecidableEq, Repr

/-- `PipelineTelemetryCollector`; a record is an ordinal with the time it started at. -/
structure PipelineTelemetryCollector where
  published : PipelineTelemetrySnapshot
  buckets : List BucketCounters := []
  records : List (Nat × Option Nat) := []
  finished : List Nat := []
  inputTotal : Option Nat := none
  inputAcceptedAt : Option Int := none
  lastObservedAt : Option Int := none
  revision : Nat := 0
  issues : List TelemetryObservationIssue := []
  disabled : Bool := false
  maxBuckets : Option Nat := none
  maxRecords : Option Nat := none
  deriving DecidableEq

namespace PipelineTelemetryCollector

/-- The snapshot of a collector without observations. -/
def initialFields (executionId runId entityId : String)
    (inputIdentity : Option PipelineTelemetryInputIdentity) : SnapshotFields where
  snapshotId := snapshotIdOf executionId
  executionId := executionId
  runId := runId
  entityId := entityId
  inputIdentity := inputIdentity
  revision := 0
  observationStatus := .unavailable

/-- `PipelineTelemetryCollector(…)`. -/
def create (executionId runId entityId : String)
    (inputIdentity : Option PipelineTelemetryInputIdentity) (maxBuckets maxRecords : Option Nat) :
    Except PyError PipelineTelemetryCollector := do
  raiseIf (maxBuckets = some 0 ∨ maxRecords = some 0)
    (.valueError "telemetry buffer limits must be positive integers")
  let snapshot ← construct SnapshotFields.validate
    (initialFields executionId runId entityId inputIdentity)
  return { published := snapshot, maxBuckets := maxBuckets, maxRecords := maxRecords }

/-- `_mark_issue`. -/
def markIssue (c : PipelineTelemetryCollector) (issue : TelemetryObservationIssue) :
    PipelineTelemetryCollector :=
  if issue ∈ c.issues then c
  else { c with issues := c.issues ++ [issue], revision := c.revision + 1 }

/-- `self._disabled = True`, which is a change once. -/
def disable (c : PipelineTelemetryCollector) : PipelineTelemetryCollector :=
  if c.disabled then c else { c with disabled := true, revision := c.revision + 1 }

/-- What `_best_effort` makes of an action that raised. -/
def failed (c : PipelineTelemetryCollector) (issue : TelemetryObservationIssue) :
    PipelineTelemetryCollector := (c.markIssue issue).disable

/-- `mark_observation_issue`. -/
def markObservationIssue (c : PipelineTelemetryCollector) (issue : TelemetryObservationIssue)
    (disable : Bool) : PipelineTelemetryCollector :=
  if disable then (c.markIssue issue).disable else c.markIssue issue

/-- `_observe_time`. -/
def observeTime (c : PipelineTelemetryCollector) (clock : Option Int) :
    Except TelemetryObservationIssue Int :=
  match clock with
  | none => .error .internalError
  | some now => do
    raiseIf (now % 1000 ≠ 0) .internalError
    raiseIf (∃ last ∈ c.lastObservedAt, now < last) .wallClockRegression
    return now

/-- `_read_monotonic`. -/
def readMonotonic (c : PipelineTelemetryCollector) (monotonic : Option Nat) :
    PipelineTelemetryCollector :=
  if monotonic = none then c.markIssue .monotonicClockError else c

/-- The buckets with one more observation, in the bucket of its second. -/
def observed (buckets : List BucketCounters) (now : Int) (o : Observation) : List BucketCounters :=
  if buckets.any fun b => b.bucketStart = secondOf now then
    buckets.map fun b => if b.bucketStart = secondOf now then b.add now o else b
  else
    buckets ++ [BucketCounters.add
      { bucketStart := secondOf now, firstObservedAt := now, lastObservedAt := now } now o]

/-- `_record_observation`. -/
def recordObservation (c : PipelineTelemetryCollector) (now : Int) (o : Observation) :
    Except TelemetryObservationIssue PipelineTelemetryCollector := do
  raiseIf ((¬ c.buckets.any fun b => b.bucketStart = secondOf now) ∧
    ∃ limit ∈ c.maxBuckets, limit ≤ c.buckets.length) .bufferLimit
  raiseIf (o.inputAcceptedCount = 0 ∧ o.processingCompletedCount = 0 ∧ o.processingFailedCount = 0)
    .internalError
  raiseIf (o.processingCompletedCount < o.latencySampleCount ∨
    o.latencySumNs ≠ 0 ∧ o.latencySampleCount = 0) .internalError
  return { c with
    buckets := observed c.buckets now o
    lastObservedAt := some now
    revision := c.revision + 1 }

/-- `_accept_batch`. -/
def accept (c : PipelineTelemetryCollector) (inputTotal : Int) (clock : Option Int) :
    Except TelemetryObservationIssue PipelineTelemetryCollector := do
  raiseIf (inputTotal < 1) .invalidCallback
  match c.inputTotal with
  | some total =>
    raiseIf (inputTotal ≠ total) .invalidCallback
    return c
  | none =>
    let now ← c.observeTime clock
    let c ← c.recordObservation now { inputAcceptedCount := inputTotal.toNat }
    return { c with inputTotal := some inputTotal.toNat, inputAcceptedAt := some now }

/-- `accept_batch`. -/
def acceptBatch (c : PipelineTelemetryCollector) (inputTotal : Int) (clock : Option Int) :
    PipelineTelemetryCollector :=
  if c.disabled then c
  else match c.accept inputTotal clock with
    | .ok c' => c'
    | .error issue => c.failed issue

/-- The record of an ordinal. -/
def recordOf (c : PipelineTelemetryCollector) (recordNo : Nat) : Option (Nat × Option Nat) :=
  c.records.find? fun r => r.1 = recordNo

/-- `_begin_record`. -/
def start (c : PipelineTelemetryCollector) (recordNo : Int) (monotonic : Option Nat) :
    Except TelemetryObservationIssue (PipelineTelemetryCollector × Option RecordToken) := do
  raiseIf (¬ ∃ total ∈ c.inputTotal, 1 ≤ recordNo ∧ recordNo ≤ total) .invalidCallback
  if (c.recordOf recordNo.toNat).isSome then return (c, none)
  raiseIf (∃ limit ∈ c.maxRecords, limit ≤ c.records.length) .bufferLimit
  let c := c.readMonotonic monotonic
  return ({ c with records := c.records ++ [(recordNo.toNat, monotonic)] },
    some (.issued recordNo.toNat))

/-- `begin_record`. -/
def beginRecord (c : PipelineTelemetryCollector) (recordNo : Int) (monotonic : Option Nat) :
    PipelineTelemetryCollector × Option RecordToken :=
  if c.disabled then (c, none)
  else match c.start recordNo monotonic with
    | .ok r => r
    | .error issue => (c.failed issue, none)

/-- The measured duration of a record that ended, when both readings are there and in
order. -/
def durationOf (started ended : Option Nat) : Option Nat := do
  let s ← started
  let e ← ended
  if e < s then none else some (e - s)

/-- Whether both readings are there and out of order. -/
def Reversed (started ended : Option Nat) : Prop := ∃ s ∈ started, ∃ e ∈ ended, e < s

instance (started ended : Option Nat) : Decidable (Reversed started ended) := by
  unfold Reversed; infer_instance

/-- The observation of a record that ended. -/
def completion (succeeded : Bool) (duration : Option Nat) : Observation where
  processingCompletedCount := if succeeded then 1 else 0
  processingFailedCount := if succeeded then 0 else 1
  latencySampleCount := if duration.isSome then 1 else 0
  latencySumNs := duration.getD 0

/-- The collector after the monotonic timing of a record was ended. -/
def endTiming (c : PipelineTelemetryCollector) (started : Option Nat) (monotonic : Option Nat) :
    PipelineTelemetryCollector :=
  let c := c.readMonotonic monotonic
  if Reversed started monotonic then c.markIssue .invalidMonotonicDuration else c

/-- The end of a record that is under way: the collector, and what was raised. -/
def complete (c : PipelineTelemetryCollector) (record : Nat × Option Nat) (succeeded : Bool)
    (monotonic : Option Nat) (clock : Option Int) :
    PipelineTelemetryCollector × Except TelemetryObservationIssue Unit :=
  let c := if succeeded then c.endTiming record.2 monotonic else c
  let duration := if succeeded then durationOf record.2 monotonic else none
  match (do c.recordObservation (← c.observeTime clock) (completion succeeded duration)) with
  | .ok c => ({ c with finished := record.1 :: c.finished }, .ok ())
  | .error issue => (c, .error issue)

/-- `_finish_record`: the collector it leaves, and what it raises. -/
def finish (c : PipelineTelemetryCollector) (token : Option RecordToken) (succeeded : Bool)
    (monotonic : Option Nat) (clock : Option Int) :
    PipelineTelemetryCollector × Except TelemetryObservationIssue Unit :=
  match token with
  | none => (c, .ok ())
  | some .elsewhere => (c, .error .invalidCallback)
  | some (.issued recordNo) =>
    match c.recordOf recordNo with
    | none => (c, .error .invalidCallback)
    | some record =>
      if recordNo ∈ c.finished then (c, .ok ())
      else c.complete record succeeded monotonic clock

/-- `record_success` and `record_failure`. -/
def finishRecord (c : PipelineTelemetryCollector) (token : Option RecordToken) (succeeded : Bool)
    (monotonic : Option Nat) (clock : Option Int) : PipelineTelemetryCollector :=
  if c.disabled then c
  else match c.finish token succeeded monotonic clock with
    | (c', .ok ()) => c'
    | (c', .error issue) => c'.failed issue

/-- The fields of `_build_snapshot` over published buckets. -/
def snapshotFields (c : PipelineTelemetryCollector) (buckets : List PipelineTelemetryBucket) :
    SnapshotFields where
  snapshotId := c.published.val.snapshotId
  executionId := c.published.val.executionId
  runId := c.published.val.runId
  entityId := c.published.val.entityId
  inputIdentity := c.published.val.inputIdentity
  revision := c.revision
  inputTotal := c.inputTotal
  inputAcceptedAt := c.inputAcceptedAt
  lastObservedAt := c.lastObservedAt
  observationStatus :=
    if c.buckets = [] then .unavailable else if c.issues ≠ [] then .partially else .observed
  observationIssues := c.issues
  collectionDisabled := c.disabled
  buckets := buckets

/-- `_build_snapshot`. -/
def buildSnapshot (c : PipelineTelemetryCollector) : Except PyError PipelineTelemetrySnapshot := do
  let buckets ← (sortedBy BucketCounters.bucketStart c.buckets).mapM BucketCounters.publish
  construct SnapshotFields.validate (c.snapshotFields buckets)

/-- The fields of a snapshot that retains the published values. -/
def retainedFields (c : PipelineTelemetryCollector) : SnapshotFields :=
  { c.published.val with
    revision := c.revision
    observationStatus := if c.published.val.buckets = [] then .unavailable else .partially
    observationIssues := c.issues
    collectionDisabled := c.disabled }

/-- `snapshot`: the collector after it, and the snapshot or what was raised. -/
def snapshot (c : PipelineTelemetryCollector) :
    PipelineTelemetryCollector × Except PyError PipelineTelemetrySnapshot :=
  if c.published.val.revision = c.revision then (c, .ok c.published)
  else match c.buildSnapshot with
    | .ok s => ({ c with published := s }, .ok s)
    | .error _ =>
      let c := c.failed .internalError
      match construct SnapshotFields.validate c.retainedFields with
      | .ok s => ({ c with published := s }, .ok s)
      | .error e => (c, .error e)

end PipelineTelemetryCollector

end IncidentAwareness.Telemetry
