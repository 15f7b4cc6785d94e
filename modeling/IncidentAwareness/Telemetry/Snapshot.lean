import IncidentAwareness.Common.Datetime
import Mathlib.Algebra.GroupWithZero.Nat

/-!
# Telemetry snapshots

The immutable records of execution-attempt telemetry: a bucket holds the counters
of one observed UTC second, a snapshot the observations of one execution under a
revision. Datetimes are aware UTC instants in microseconds, counters natural
numbers (`ge=0`). The aggregation basis and the latency scope have one value each
and are left out.
-/

namespace IncidentAwareness.Telemetry

open IncidentAwareness.Common IncidentAwareness.Lib

/-- `TelemetryObservationIssue`. -/
inductive TelemetryObservationIssue where
  | wallClockRegression | monotonicClockError | invalidMonotonicDuration | invalidCallback
  | internalError | storageError | bufferLimit
  deriving DecidableEq, Repr

/-- `timedelta(seconds=1)`. -/
def oneSecond : Int := 1000000

/-- `value.replace(microsecond=0)`. -/
def secondOf (value : Int) : Int := value - value % oneSecond

/-- `_validate_telemetry_datetime` of a UTC instant. -/
def validateTelemetryDatetime (fieldName : String) (value : Int) : Except PyError Unit :=
  raiseIf (value % 1000 ≠ 0)
    (.valueError (fieldName ++ " must be aligned to millisecond precision"))

/-- `_validate_telemetry_datetime` of an optional field. -/
def validateOptionalDatetime (fieldName : String) : Option Int → Except PyError Unit
  | none => .ok ()
  | some value => validateTelemetryDatetime fieldName value

/-! ## Buckets -/

/-- The fields of `PipelineTelemetryBucket`. -/
structure BucketFields where
  bucketStart : Int
  bucketEnd : Int
  firstObservedAt : Int
  lastObservedAt : Int
  revision : Nat
  inputAcceptedCount : Nat := 0
  processingCompletedCount : Nat := 0
  processingFailedCount : Nat := 0
  latencySampleCount : Nat := 0
  latencySumNs : Nat := 0
  deriving DecidableEq, Repr

namespace BucketFields

/-- `validate_bucket`. -/
def validateBucket (b : BucketFields) : Except PyError Unit := do
  raiseIf (b.bucketStart % oneSecond ≠ 0)
    (.valueError "bucket_start must be aligned to a UTC second")
  let after ← addTimedelta b.bucketStart oneSecond
  raiseIf (b.bucketEnd ≠ after)
    (.valueError "bucket_end must be exactly one second after bucket_start")
  raiseIf (¬ (b.bucketStart ≤ b.firstObservedAt ∧ b.firstObservedAt ≤ b.lastObservedAt ∧
      b.lastObservedAt < b.bucketEnd))
    (.valueError "observations must be ordered within the half-open bucket")
  raiseIf (b.processingCompletedCount < b.latencySampleCount)
    (.valueError "latency samples must not exceed successful records")
  raiseIf (b.latencySampleCount = 0 ∧ b.latencySumNs ≠ 0)
    (.valueError "latency sum requires a measured sample")
  raiseIf (b.inputAcceptedCount = 0 ∧ b.processingCompletedCount = 0 ∧ b.processingFailedCount = 0)
    (.valueError "an unobserved bucket must not be generated")

/-- The validation of `PipelineTelemetryBucket`. -/
def validate (b : BucketFields) : Except PyError Unit := do
  validateTelemetryDatetime "bucket_start" b.bucketStart
  validateTelemetryDatetime "bucket_end" b.bucketEnd
  validateTelemetryDatetime "first_observed_at" b.firstObservedAt
  validateTelemetryDatetime "last_observed_at" b.lastObservedAt
  raiseIf (b.revision < 1) (.valueError "Input should be greater than or equal to 1")
  b.validateBucket

/-- `processing_completed_count + processing_failed_count`. -/
def processed (b : BucketFields) : Nat := b.processingCompletedCount + b.processingFailedCount

end BucketFields

/-- `PipelineTelemetryBucket`. -/
abbrev PipelineTelemetryBucket := Validated BucketFields.validate

/-- What a valid bucket is. -/
structure BucketFields.Valid (b : BucketFields) : Prop where
  start : b.bucketStart % oneSecond = 0
  ends : b.bucketEnd = b.bucketStart + oneSecond
  range : datetimeMin ≤ b.bucketEnd ∧ b.bucketEnd ≤ datetimeMax
  first : b.bucketStart ≤ b.firstObservedAt
  last : b.firstObservedAt ≤ b.lastObservedAt
  before : b.lastObservedAt < b.bucketEnd
  aligned : b.firstObservedAt % 1000 = 0 ∧ b.lastObservedAt % 1000 = 0
  revised : 1 ≤ b.revision
  samples : b.latencySampleCount ≤ b.processingCompletedCount
  sum : b.latencySampleCount = 0 → b.latencySumNs = 0
  observed : ¬ (b.inputAcceptedCount = 0 ∧ b.processingCompletedCount = 0 ∧
    b.processingFailedCount = 0)

/-- An addition that let the rest of the program return stayed in the supported years. -/
theorem addTimedelta_bind_eq_ok {value delta : Int} {α : Type} {f : Int → Except PyError α} {a : α} :
    (addTimedelta value delta >>= f) = .ok a ↔
      (datetimeMin ≤ value + delta ∧ value + delta ≤ datetimeMax) ∧ f (value + delta) = .ok a := by
  rw [Except.bind_eq_ok]
  constructor
  · rintro ⟨t, ht, hf⟩
    obtain ⟨rfl, hrange⟩ := addTimedelta_eq_ok.mp ht
    exact ⟨hrange, hf⟩
  · exact fun ⟨hrange, hf⟩ => ⟨_, addTimedelta_eq_ok.mpr ⟨rfl, hrange⟩, hf⟩

theorem BucketFields.validate_eq_ok {b : BucketFields} : b.validate = .ok () ↔ b.Valid := by
  simp only [validate, validateBucket, validateTelemetryDatetime, Except.unit_bind_eq_ok,
    addTimedelta_bind_eq_ok, raiseIf_eq_ok, not_not, ne_eq]
  constructor
  · rintro ⟨-, -, hfirst, hlast, hrev, hstart, hrange, hend, hobs, hsamples, hsum, hobserved⟩
    refine ⟨hstart, hend, hend ▸ hrange, hobs.1, hobs.2.1, hobs.2.2, ⟨hfirst, hlast⟩, ?_, ?_, ?_,
      hobserved⟩
    · omega
    · omega
    · intro h
      by_contra hne
      exact hsum ⟨h, hne⟩
  · intro h
    have hstart : b.bucketStart % 1000 = 0 := by
      have := h.start
      unfold oneSecond at this
      omega
    have hend : b.bucketEnd % 1000 = 0 := by
      have hs := h.start
      have he := h.ends
      unfold oneSecond at hs he
      omega
    refine ⟨hstart, hend, h.aligned.1, h.aligned.2, ?_, h.start, h.ends ▸ h.range, h.ends,
      ⟨h.first, h.last, h.before⟩, ?_, fun hz => hz.2 (h.sum hz.1), h.observed⟩
    · have := h.revised
      omega
    · have := h.samples
      omega

/-- A bucket that was accepted is valid. -/
theorem PipelineTelemetryBucket.valid (b : PipelineTelemetryBucket) : b.val.Valid :=
  BucketFields.validate_eq_ok.mp b.property

/-! ## Snapshots -/

/-- The kinds of `PipelineTelemetryInputIdentity`. -/
inductive InputIdentityKind where
  | fileContentSha256V1 | s3ObjectSha256V1
  deriving DecidableEq, Repr

/-- The fields of `PipelineTelemetryInputIdentity`. -/
structure InputIdentityFields where
  kind : InputIdentityKind
  sha256 : String
  deriving DecidableEq, Repr

/-- A lower-case hexadecimal digit. -/
def isLowerHex (c : Char) : Bool := c.isDigit || (97 ≤ c.toNat && c.toNat ≤ 102)

/-- The validation of `PipelineTelemetryInputIdentity`. -/
def InputIdentityFields.validate (i : InputIdentityFields) : Except PyError Unit := do
  raiseIf (i.sha256.toList.length < 64) (.valueError "String should have at least 64 characters")
  raiseIf (64 < i.sha256.toList.length) (.valueError "String should have at most 64 characters")
  raiseIf (¬ i.sha256.toList.all isLowerHex)
    (.valueError "String should match pattern '^[0-9a-f]\x7b64\x7d$'")

/-- `PipelineTelemetryInputIdentity`. -/
abbrev PipelineTelemetryInputIdentity := Validated InputIdentityFields.validate

/-- The values of `observation_status`; `partially` is `partial`. -/
inductive ObservationStatus where
  | unavailable | partially | observed
  deriving DecidableEq, Repr

/-- The fields of `PipelineTelemetrySnapshot` but for the buckets. -/
structure SnapshotMetadata where
  snapshotId : String
  executionId : String
  runId : String
  entityId : String
  inputIdentity : Option PipelineTelemetryInputIdentity := none
  revision : Nat
  inputTotal : Option Nat := none
  inputAcceptedAt : Option Int := none
  lastObservedAt : Option Int := none
  observationStatus : ObservationStatus
  observationIssues : List TelemetryObservationIssue := []
  collectionDisabled : Bool := false
  deriving DecidableEq, Repr

/-- The fields of `PipelineTelemetrySnapshot`. -/
structure SnapshotFields extends SnapshotMetadata where
  buckets : List PipelineTelemetryBucket := []
  deriving DecidableEq, Repr

/-- `f"pipeline-telemetry:\x7bexecution_id\x7d"`. -/
def snapshotIdOf (executionId : String) : String := "pipeline-telemetry:" ++ executionId

/-- `Field(min_length=1)` and `validate_identifier`. -/
def validateTelemetryIdentifier (value : String) : Except PyError Unit := do
  raiseIf (value = "") (.valueError "String should have at least 1 character")
  raiseIf (isBlank value ∨ isPadded value)
    (.valueError "telemetry identifiers must be nonblank without surrounding whitespace")

namespace SnapshotFields

/-- `sum(bucket.input_accepted_count for bucket in self.buckets)`. -/
def accepted (s : SnapshotFields) : Nat := (s.buckets.map fun b => b.val.inputAcceptedCount).sum

/-- The completed and the failed records of all buckets. -/
def processed (s : SnapshotFields) : Nat := (s.buckets.map fun b => b.val.processed).sum

/-- The bucket of the admission, when it is one. -/
def AdmittedOnce (s : SnapshotFields) : Prop :=
  match s.buckets.filter fun b => b.val.inputAcceptedCount ≠ 0, s.inputAcceptedAt with
  | [b], some t => b.val.bucketStart ≤ t ∧ t < b.val.bucketEnd
  | _, _ => False

instance (s : SnapshotFields) : Decidable s.AdmittedOnce := by
  unfold AdmittedOnce; split <;> infer_instance

/-- The `observation_status` that the observations call for. -/
def expectedStatus (s : SnapshotFields) : ObservationStatus :=
  if s.buckets = [] then .unavailable
  else if s.observationIssues ≠ [] then .partially
  else .observed

/-- What `validate_snapshot` requires of the batch admission. -/
def validateAdmission (s : SnapshotFields) : Except PyError Unit :=
  match s.inputTotal with
  | none =>
    raiseIf (s.buckets ≠ [] ∨ s.inputAcceptedAt ≠ none)
      (.valueError "observations require an accepted batch")
  | some inputTotal => do
    raiseIf (s.accepted ≠ inputTotal ∨ inputTotal < s.processed)
      (.valueError "batch counts must match admission and not exceed input_total")
    raiseIf (s.inputAcceptedAt = none)
      (.valueError "an accepted batch requires input_accepted_at")

/-- What `validate_snapshot` requires of the last observation. -/
def validateLastObserved (s : SnapshotFields) : Except PyError Unit :=
  match s.buckets.getLast? with
  | none =>
    raiseIf (s.lastObservedAt ≠ none) (.valueError "last_observed_at requires observations")
  | some last => do
    raiseIf (s.lastObservedAt ≠ some last.val.lastObservedAt)
      (.valueError "last_observed_at must match the last bucket")
    raiseIf (¬ s.AdmittedOnce) (.valueError "batch admission must occur in exactly one bucket")

/-- `validate_snapshot`. -/
def validateSnapshot (s : SnapshotFields) : Except PyError Unit := do
  raiseIf (s.snapshotId ≠ snapshotIdOf s.executionId)
    (.valueError "snapshot_id must identify the supplied execution")
  raiseIf (¬ (s.buckets.map fun b => b.val.bucketStart).IsChain (· < ·))
    (.valueError "buckets must be unique and strictly increasing")
  raiseIf (∃ b ∈ s.buckets, s.revision < b.val.revision)
    (.valueError "bucket revision must not exceed snapshot revision")
  s.validateAdmission
  s.validateLastObserved
  raiseIf (s.observationStatus ≠ s.expectedStatus)
    (.valueError "observation_status must describe the recorded observations")
  raiseIf (s.collectionDisabled = true ∧ s.observationIssues = [])
    (.valueError "disabled collection requires an observation issue")

/-- The validation of `PipelineTelemetrySnapshot`. -/
def validate (s : SnapshotFields) : Except PyError Unit := do
  validateTelemetryIdentifier s.executionId
  validateTelemetryIdentifier s.runId
  validateTelemetryIdentifier s.entityId
  raiseIf (s.inputTotal = some 0) (.valueError "Input should be greater than or equal to 1")
  validateOptionalDatetime "input_accepted_at" s.inputAcceptedAt
  validateOptionalDatetime "last_observed_at" s.lastObservedAt
  s.validateSnapshot

end SnapshotFields

/-- `PipelineTelemetrySnapshot`. -/
abbrev PipelineTelemetrySnapshot := Validated SnapshotFields.validate

/-- What a valid snapshot is. -/
structure SnapshotFields.Valid (s : SnapshotFields) : Prop where
  identifiers : ∀ value ∈ [s.executionId, s.runId, s.entityId],
    validateTelemetryIdentifier value = .ok ()
  named : s.snapshotId = snapshotIdOf s.executionId
  acceptedAt : ∀ t, s.inputAcceptedAt = some t → t % 1000 = 0
  increasing : (s.buckets.map fun b => b.val.bucketStart).IsChain (· < ·)
  revisions : ∀ b ∈ s.buckets, b.val.revision ≤ s.revision
  noBatch : s.inputTotal = none → s.buckets = [] ∧ s.inputAcceptedAt = none
  batch : ∀ n, s.inputTotal = some n →
    1 ≤ n ∧ s.accepted = n ∧ s.processed ≤ n ∧ s.inputAcceptedAt ≠ none
  last : s.lastObservedAt = s.buckets.getLast?.map fun b => b.val.lastObservedAt
  admitted : s.buckets ≠ [] → s.AdmittedOnce
  status : s.observationStatus = s.expectedStatus
  disabled : s.collectionDisabled = true → s.observationIssues ≠ []

namespace SnapshotFields

variable {s : SnapshotFields}

theorem validateOptionalDatetime_eq_ok {fieldName : String} {value : Option Int} :
    validateOptionalDatetime fieldName value = .ok () ↔ ∀ t, value = some t → t % 1000 = 0 := by
  cases value with
  | none => exact ⟨fun _ t ht => (by cases ht), fun _ => rfl⟩
  | some t =>
    simp only [validateOptionalDatetime, validateTelemetryDatetime, raiseIf_eq_ok, not_not, ne_eq,
      Option.some.injEq, forall_eq']

theorem validateAdmission_eq_ok : s.validateAdmission = .ok () ↔
    (s.inputTotal = none → s.buckets = [] ∧ s.inputAcceptedAt = none) ∧
      ∀ n, s.inputTotal = some n → s.accepted = n ∧ s.processed ≤ n ∧ s.inputAcceptedAt ≠ none := by
  unfold validateAdmission
  cases s.inputTotal with
  | none => simp only [raiseIf_eq_ok, not_or, not_not, ne_eq, true_imp_iff, reduceCtorEq,
      false_imp_iff, implies_true, and_true]
  | some n =>
    simp only [Except.unit_bind_eq_ok, raiseIf_eq_ok, not_or, not_not, ne_eq, reduceCtorEq,
      false_imp_iff, true_and, Option.some.injEq, forall_eq', Nat.not_lt, and_assoc]

theorem validateLastObserved_eq_ok : s.validateLastObserved = .ok () ↔
    (s.lastObservedAt = s.buckets.getLast?.map fun b => b.val.lastObservedAt) ∧
      (s.buckets ≠ [] → s.AdmittedOnce) := by
  unfold validateLastObserved
  cases hlast : s.buckets.getLast? with
  | none =>
    have hnil : s.buckets = [] := List.getLast?_eq_none_iff.mp hlast
    simp only [raiseIf_eq_ok, not_not, ne_eq, Option.map_none, hnil, not_true_eq_false,
      false_imp_iff, and_true]
  | some b =>
    have hne : s.buckets ≠ [] := by
      intro hnil
      rw [hnil] at hlast
      exact absurd hlast (by simp)
    simp only [Except.unit_bind_eq_ok, raiseIf_eq_ok, not_not, ne_eq, Option.map_some, hne,
      not_false_eq_true, true_imp_iff]

theorem validate_eq_ok : s.validate = .ok () ↔ s.Valid := by
  simp only [validate, validateSnapshot, Except.unit_bind_eq_ok, raiseIf_eq_ok, not_not, ne_eq,
    validateOptionalDatetime_eq_ok, validateAdmission_eq_ok, validateLastObserved_eq_ok]
  constructor
  · rintro ⟨hexec, hrun, hentity, hzero, haccepted, -, hnamed, hinc, hrev, ⟨hnone, hbatch⟩,
      ⟨hlast, hadmitted⟩, hstatus, hdisabled⟩
    refine ⟨?_, hnamed, haccepted, hinc, ?_, hnone, ?_, hlast, hadmitted, hstatus,
      fun hd hn => hdisabled ⟨hd, hn⟩⟩
    · intro value hvalue
      simp only [List.mem_cons, List.not_mem_nil, or_false] at hvalue
      rcases hvalue with rfl | rfl | rfl
      · exact hexec
      · exact hrun
      · exact hentity
    · intro b hb
      by_contra hlt
      exact hrev ⟨b, hb, by omega⟩
    · intro n hn
      refine ⟨?_, hbatch n hn⟩
      by_contra hlt
      obtain rfl : n = 0 := by omega
      exact hzero hn
  · intro h
    refine ⟨h.identifiers _ (by simp), h.identifiers _ (by simp), h.identifiers _ (by simp), ?_,
      h.acceptedAt, ?_, h.named, h.increasing, ?_, ⟨h.noBatch, fun n hn => (h.batch n hn).2⟩,
      ⟨h.last, h.admitted⟩, h.status, fun hd => h.disabled hd.1 hd.2⟩
    · intro hz
      exact absurd (h.batch 0 hz).1 (by omega)
    · intro t ht
      rw [h.last] at ht
      obtain ⟨b, -, rfl⟩ := Option.map_eq_some_iff.mp ht
      exact b.valid.aligned.2
    · rintro ⟨b, hb, hlt⟩
      have := h.revisions b hb
      omega

end SnapshotFields

/-- A snapshot that was accepted is valid. -/
theorem PipelineTelemetrySnapshot.valid (s : PipelineTelemetrySnapshot) : s.val.Valid :=
  SnapshotFields.validate_eq_ok.mp s.property

end IncidentAwareness.Telemetry
