import IncidentAwareness.Telemetry.ReadWindow
import Mathlib.Data.Rat.Defs
import Mathlib.Algebra.Order.Ring.Rat

/-!
# The telemetry read model

`DashboardTelemetryReader.get_telemetry`: the window before `end_at`, or before now,
read from the store, validated again and summed over its last 60 seconds. A mean is
the exact quotient, of which the response shows the nearest float.
-/

namespace IncidentAwareness.Dashboard

open IncidentAwareness.Common IncidentAwareness.Lib IncidentAwareness.Telemetry

/-! ## Queries -/

/-- The values of `TelemetryQuery.scope`. -/
inductive TelemetryScope where
  | execution | run | reported
  deriving DecidableEq, Repr

/-- The fields of `TelemetryQuery`. -/
structure TelemetryQueryFields where
  scope : TelemetryScope := .reported
  executionId : Option String := none
  runId : Option String := none
  entityId : Option String := none
  endAt : Option Int := none
  windowSeconds : Nat := 300
  deriving DecidableEq, Repr

/-- `Field(min_length=1, max_length=512)` and `validate_identifier`. -/
def validateQueryIdentifier : Option String → Except PyError Unit
  | none => .ok ()
  | some value => do
    raiseIf (value = "") (.valueError "String should have at least 1 character")
    raiseIf (512 < value.length) (.valueError "String should have at most 512 characters")
    raiseIf (isBlank value ∨ isPadded value)
      (.valueError "telemetry identifiers must be nonblank without surrounding whitespace")

namespace TelemetryQueryFields

/-- The identifiers that `validate_scope` allows a scope. -/
def ScopeMatches (q : TelemetryQueryFields) : Prop :=
  match q.scope with
  | .execution => q.executionId ≠ none ∧ q.runId = none ∧ q.entityId = none
  | .run => q.runId ≠ none ∧ q.executionId = none
  | .reported => q.executionId = none ∧ q.runId = none ∧ q.entityId = none

instance (q : TelemetryQueryFields) : Decidable q.ScopeMatches := by
  unfold ScopeMatches; split <;> infer_instance

/-- The validation of `TelemetryQuery`. -/
def validate (q : TelemetryQueryFields) : Except PyError Unit := do
  validateQueryIdentifier q.executionId
  validateQueryIdentifier q.runId
  validateQueryIdentifier q.entityId
  validateOptionalDatetime "end_at" q.endAt
  raiseIf (q.windowSeconds < 60) (.valueError "Input should be greater than or equal to 60")
  raiseIf (300 < q.windowSeconds) (.valueError "Input should be less than or equal to 300")
  raiseIf (¬ q.ScopeMatches) (.valueError "identifiers must match the requested telemetry scope")

/-- The arguments that the reader passes on. -/
def windowScope (q : TelemetryQueryFields) : WindowScope where
  executionId := q.executionId
  runId := q.runId
  entityId := q.entityId
  reported := q.scope = .reported

end TelemetryQueryFields

/-- `TelemetryQuery`. -/
abbrev TelemetryQuery := Validated TelemetryQueryFields.validate

/-! ## Points -/

/-- The fields of `TelemetryPoint`. -/
structure PointFields where
  bucketStart : Int
  bucketEnd : Int
  observedAt : Int
  executionsCount : Nat
  inputAcceptedCount : Nat
  processingCompletedCount : Nat
  processingFailedCount : Nat
  processingLatencySampleCount : Nat
  processingLatencySumNs : Nat
  processingLatencyMeanMs : Option ℚ := none
  deriving DecidableEq

namespace PointFields

/-- `validate_point`. -/
def validatePoint (p : PointFields) : Except PyError Unit := do
  let after ← addTimedelta p.bucketStart oneSecond
  raiseIf (p.bucketStart % oneSecond ≠ 0 ∨ p.bucketEnd ≠ after)
    (.valueError "point must describe a UTC-second half-open bucket")
  raiseIf (¬ (p.bucketStart ≤ p.observedAt ∧ p.observedAt < p.bucketEnd))
    (.valueError "observation must be inside its bucket")
  raiseIf (p.processingCompletedCount < p.processingLatencySampleCount)
    (.valueError "latency sample count exceeds successful records")
  raiseIf (p.processingLatencySampleCount = 0 ∧ p.processingLatencySumNs ≠ 0)
    (.valueError "latency sum requires samples")
  raiseIf (p.inputAcceptedCount = 0 ∧ p.processingCompletedCount = 0 ∧ p.processingFailedCount = 0)
    (.valueError "a stored point requires a real observation")

/-- `Field(ge=0)` of a mean. -/
def validateMean (mean : Option ℚ) : Except PyError Unit :=
  raiseIf (∃ m ∈ mean, m < 0) (.valueError "Input should be greater than or equal to 0")

/-- The validation of `TelemetryPoint`. -/
def validate (p : PointFields) : Except PyError Unit := do
  validateTelemetryDatetime "bucket_start" p.bucketStart
  validateTelemetryDatetime "bucket_end" p.bucketEnd
  validateTelemetryDatetime "observed_at" p.observedAt
  raiseIf (p.executionsCount < 1) (.valueError "Input should be greater than or equal to 1")
  validateMean p.processingLatencyMeanMs
  p.validatePoint

/-- The fields of a row of the window. A point has the time of an observation. -/
def ofRow (row : PointRow) : Except PyError PointFields :=
  match row.observedAt with
  | none => .error (.valueError "Input should be a valid datetime")
  | some observedAt => .ok {
      bucketStart := row.bucketStart
      bucketEnd := row.bucketEnd
      observedAt := observedAt
      executionsCount := row.executionsCount
      inputAcceptedCount := row.inputAcceptedCount
      processingCompletedCount := row.processingCompletedCount
      processingFailedCount := row.processingFailedCount
      processingLatencySampleCount := row.processingLatencySampleCount
      processingLatencySumNs := row.processingLatencySumNs }

end PointFields

/-- `TelemetryPoint`. -/
abbrev TelemetryPoint := Validated PointFields.validate

/-- `_mean_ms`. -/
def meanMs (total count : Nat) : Option ℚ :=
  if count = 0 then none else some (total / count / 1000000)

/-- `TelemetryPoint.model_validate` of a row of the window. -/
def pointOfRow (row : PointRow) : Except PyError TelemetryPoint := do
  let fields ← PointFields.ofRow row
  construct PointFields.validate fields

/-- A point with its mean, validated again. -/
def withMean (p : TelemetryPoint) : Except PyError TelemetryPoint :=
  construct PointFields.validate { p.val with
    processingLatencyMeanMs :=
      meanMs p.val.processingLatencySumNs p.val.processingLatencySampleCount }

/-! ## Responses -/

/-- `TelemetrySummary`. -/
structure TelemetrySummary where
  rangeStart : Int
  rangeEnd : Int
  observedBucketCount : Nat
  missingBucketCount : Int
  inputAcceptedCount : Option Nat
  processingCompletedCount : Option Nat
  processingFailedCount : Option Nat
  processingLatencySampleCount : Option Nat
  processingLatencySumNs : Option Nat
  processingLatencyMeanMs : Option ℚ
  deriving DecidableEq

/-- The validation of `TelemetrySummary`. -/
def TelemetrySummary.validate (s : TelemetrySummary) : Except PyError Unit := do
  validateTelemetryDatetime "range_start" s.rangeStart
  validateTelemetryDatetime "range_end" s.rangeEnd
  raiseIf (60 < s.observedBucketCount) (.valueError "Input should be less than or equal to 60")
  raiseIf (s.missingBucketCount < 0) (.valueError "Input should be greater than or equal to 0")
  raiseIf (60 < s.missingBucketCount) (.valueError "Input should be less than or equal to 60")
  PointFields.validateMean s.processingLatencyMeanMs

/-- The values of `TelemetryQuality.status`. -/
inductive QualityStatus where
  | noSamples | observed | partially
  deriving DecidableEq, Repr

/-- `TelemetryQuality`. -/
structure TelemetryQuality where
  status : QualityStatus
  observedExecutions : Nat
  partialExecutions : Nat
  unavailableExecutions : Nat
  disabledExecutions : Nat
  observationIssues : List TelemetryObservationIssue
  deriving DecidableEq, Repr

/-- The values of `TelemetryFreshness.status`. -/
inductive FreshnessStatus where
  | unknown | recent | stale
  deriving DecidableEq, Repr

/-- `PipelineTelemetryResponse`, its freshness by its status and age. -/
structure PipelineTelemetryResponse where
  query : TelemetryQuery
  rangeStart : Int
  rangeEnd : Int
  executionsCount : Nat
  points : List TelemetryPoint
  recent60sSummary : TelemetrySummary
  lastObservedAt : Option Int
  persistedAt : Option Int
  responseGeneratedAt : Int
  observationQuality : TelemetryQuality
  freshness : FreshnessStatus
  age : Option Int

/-- The validation of `PipelineTelemetryResponse`. -/
def PipelineTelemetryResponse.validate (r : PipelineTelemetryResponse) : Except PyError Unit := do
  validateTelemetryDatetime "range_start" r.rangeStart
  validateTelemetryDatetime "range_end" r.rangeEnd
  raiseIf (300 < r.points.length) (.valueError "Tuple should have at most 300 items")
  validateOptionalDatetime "last_observed_at" r.lastObservedAt
  validateOptionalDatetime "persisted_at" r.persistedAt
  validateTelemetryDatetime "response_generated_at" r.responseGeneratedAt

/-! ## The reader -/

/-- What the reader raises: a `ValueError` about the request, a
`PipelineTelemetryInputConflictError`, `StoredTelemetryInvalidError`, or what
`translate_telemetry_database_error` makes of an error of the database. -/
inductive TelemetryReadError where
  | request (error : PyError)
  | inputConflict
  | storedInvalid
  | database (text : String)
  deriving DecidableEq, Repr

/-- What `get_telemetry` makes of an error of `read_window`. -/
def ofReadError : TelemetryError → TelemetryReadError
  | .integrity _ => .storedInvalid
  | .inputConflict => .inputConflict
  | .invalid _ => .storedInvalid
  | .database text => .database text

/-- The sum of a counter over the recent points, when there are any. -/
def recentTotal (column : PointFields → Nat) (recent : List TelemetryPoint) : Option Nat :=
  if recent = [] then none else some (recent.map fun p => column p.val).sum

/-- The points of the last 60 seconds. -/
def recentPoints (points : List TelemetryPoint) (ends : Int) : List TelemetryPoint :=
  points.filter fun p => ends - 60 * oneSecond ≤ p.val.bucketStart

/-- `recent_60s_summary`. -/
def summaryOf (points : List TelemetryPoint) (ends : Int) : TelemetrySummary :=
  let recent := recentPoints points ends
  let sum := recentTotal PointFields.processingLatencySumNs recent
  let count := recentTotal PointFields.processingLatencySampleCount recent
  { rangeStart := ends - 60 * oneSecond
    rangeEnd := ends
    observedBucketCount := recent.length
    missingBucketCount := 60 - recent.length
    inputAcceptedCount := recentTotal PointFields.inputAcceptedCount recent
    processingCompletedCount := recentTotal PointFields.processingCompletedCount recent
    processingFailedCount := recentTotal PointFields.processingFailedCount recent
    processingLatencySampleCount := count
    processingLatencySumNs := sum
    processingLatencyMeanMs := do meanMs (← sum) (← count) }

/-- `observation_quality`. -/
def qualityOf (data : WindowData) (points : List TelemetryPoint) : TelemetryQuality where
  status :=
    if data.partialExecutions ≠ 0 ∨ data.observationIssues ≠ [] ∨ data.disabledExecutions ≠ 0 ∨
      data.unavailableExecutions ≠ 0 then .partially
    else if points ≠ [] then .observed
    else .noSamples
  observedExecutions := data.observedExecutions
  partialExecutions := data.partialExecutions
  unavailableExecutions := data.unavailableExecutions
  disabledExecutions := data.disabledExecutions
  observationIssues := data.observationIssues

/-- `age` and the status it gives. -/
def freshnessOf (last : Option Int) (ends : Int) : FreshnessStatus × Option Int :=
  match last with
  | none => (.unknown, none)
  | some last => (if 15 * oneSecond < ends - last then .stale else .recent, some (ends - last))

/-- `_build_response`. -/
def buildResponse (query : TelemetryQuery) (data : WindowData) (start ends now : Int) :
    Except PyError PipelineTelemetryResponse := do
  let points ← data.points.mapM pointOfRow
  raiseIf (query.val.windowSeconds < points.length ∨
      (∃ p ∈ points, ¬ (start ≤ p.val.bucketStart ∧ p.val.bucketStart < ends)) ∨
      ¬ (points.map fun p => p.val.bucketStart).IsChain (· < ·))
    (.valueError "duplicate, unordered or out-of-range telemetry buckets")
  let points ← points.mapM withMean
  let summary := summaryOf points ends
  summary.validate
  validateOptionalDatetime "last_observed_at" data.lastObservedAt
  raiseIf (∃ last ∈ data.lastObservedAt, ends ≤ last)
    (.valueError "last observation must precede the completed-window end")
  let response : PipelineTelemetryResponse := {
    query := query
    rangeStart := start
    rangeEnd := ends
    executionsCount := data.executionsCount
    points := points
    recent60sSummary := summary
    lastObservedAt := data.lastObservedAt
    persistedAt := data.persistedAt
    responseGeneratedAt := now
    observationQuality := qualityOf data points
    freshness := (freshnessOf data.lastObservedAt ends).1
    age := (freshnessOf data.lastObservedAt ends).2 }
  response.validate
  return response

/-- The end of the window of a query. -/
def windowEnd (query : TelemetryQuery) (now : Int) : Int := secondOf (query.val.endAt.getD now)

/-- The start of the window of a query. -/
def windowStart (query : TelemetryQuery) (now : Int) : Int :=
  windowEnd query now - query.val.windowSeconds * oneSecond

/-- `get_telemetry`, at the time the clock shows. -/
def getTelemetry (store : TelemetryStore) (query : TelemetryQuery) (now : Int) :
    Except TelemetryReadError PipelineTelemetryResponse := do
  (validateTelemetryDatetime "response_generated_at" now).mapError .request
  raiseIf (∃ endAt ∈ query.val.endAt, now < endAt)
    (.request (.valueError "end_at must not be in the future"))
  let ends := windowEnd query now
  let start := windowStart query now
  raiseIf (start < datetimeMin)
    (.request (.valueError "end_at is too early for the requested window"))
  let data ← (store.readWindow query.val.windowScope start ends).mapError ofReadError
  (buildResponse query data start ends now).mapError fun _ => .storedInvalid

end IncidentAwareness.Dashboard
