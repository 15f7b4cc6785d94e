import IncidentAwareness.Common.Event
import IncidentAwareness.Lib.Raise

/-!
# The messages of the R1 incremental stream

Chunks, source watermarks and run closes, each as its validators accept it: what
a validator checks is a field of the structure, so a message that the source's
model rejects cannot be built. The literal fields (`schema`, `contract_version`,
`message_type`, `event_contract_version`) have one value each and are left out.

A content digest is the hash of a canonical payload (`CanonicalPayload`); the
hash itself is a parameter, a function to a type `D` of digests.
-/

namespace IncidentAwareness.Stream

open IncidentAwareness.Common IncidentAwareness.Lib

/-! ## Partitions -/

/-- The days of month `m` in year `y`. -/
def daysInMonth (y m : Nat) : Nat :=
  if m = 2 then if y % 4 = 0 ∧ (y % 100 ≠ 0 ∨ y % 400 = 0) then 29 else 28
  else if m = 4 ∨ m = 6 ∨ m = 9 ∨ m = 11 then 30 else 31

/-- The value of ASCII digits. -/
def digitsValue (cs : List Char) : Nat := cs.foldl (fun n c => 10 * n + (c.toNat - '0'.toNat)) 0

/-- `YYYYMMDD` names a date. -/
def isIsoDate (cs : List Char) : Bool :=
  let y := digitsValue (cs.take 4)
  let m := digitsValue ((cs.drop 4).take 2)
  let d := digitsValue (cs.drop 6)
  cs.length = 8 && cs.all Char.isDigit && 1 ≤ y && 1 ≤ m && m ≤ 12 && 1 ≤ d && d ≤ daysInMonth y m

/-- `RunMetadata.validate_run_id`: `RUN-YYYYMMDD-NNN` with a valid date. -/
def isRunId (s : String) : Bool :=
  let cs := s.toList
  cs.take 4 = ['R', 'U', 'N', '-'] && isIsoDate ((cs.drop 4).take 8) &&
    (cs.drop 12).take 1 = ['-'] && (cs.drop 13).length = 3 && (cs.drop 13).all Char.isDigit

/-- A run id that the validator accepted. -/
structure RunId where
  val : String
  valid : isRunId val = true
  deriving Repr

instance : DecidableEq RunId := fun a b =>
  decidable_of_iff (a.val = b.val)
    (by cases a; cases b; simp)

/-- `R1StreamPartition`. -/
structure R1StreamPartition where
  runId : RunId
  hostId : Identifier
  source : Identifier
  sourceChannel : Identifier
  deriving DecidableEq, Repr

/-! ## Chunks, watermarks and closes -/

/-- What a chunk's content digest covers: `R1EventChunk` without
`chunk_content_sha256`. -/
structure R1EventChunkPayload where
  chunkId : Identifier
  partition : R1StreamPartition
  chunkSequence : Nat
  events : List NormalizedEvent
  chunkSequence_pos : 1 ≤ chunkSequence := by decide
  events_ne_nil : events ≠ [] := by simp
  eventIds_nodup : (events.map (·.eventId)).Nodup := by decide
  events_scope : ∀ e ∈ events, e.runId = partition.runId.val ∧ e.hostId = partition.hostId.val ∧
    e.source = partition.source.val := by decide
  deriving Repr

instance : DecidableEq R1EventChunkPayload := fun a b =>
  decidable_of_iff (a.chunkId = b.chunkId ∧ a.partition = b.partition ∧
      a.chunkSequence = b.chunkSequence ∧ a.events = b.events)
    (by cases a; cases b; simp)

/-- `R1EventChunk`. -/
structure R1EventChunk (D : Type) extends R1EventChunkPayload where
  chunkContentSha256 : D
  deriving DecidableEq, Repr

/-- `R1SourceWatermark`. -/
structure R1SourceWatermark where
  watermarkId : Identifier
  partition : R1StreamPartition
  watermarkSequence : Nat
  watermarkAt : UtcMillis
  allowedLatenessMs : Nat
  coveredThroughChunkSequence : Nat
  emittedAt : UtcMillis
  watermarkSequence_pos : 1 ≤ watermarkSequence := by decide
  covered_pos : 1 ≤ coveredThroughChunkSequence := by decide
  deriving Repr

instance : DecidableEq R1SourceWatermark := fun a b =>
  decidable_of_iff (a.watermarkId = b.watermarkId ∧ a.partition = b.partition ∧
      a.watermarkSequence = b.watermarkSequence ∧ a.watermarkAt = b.watermarkAt ∧
      a.allowedLatenessMs = b.allowedLatenessMs ∧
      a.coveredThroughChunkSequence = b.coveredThroughChunkSequence ∧ a.emittedAt = b.emittedAt)
    (by cases a; cases b; simp)

/-- `R1FinalPartitionWatermark`. -/
structure R1FinalPartitionWatermark where
  partition : R1StreamPartition
  watermarkId : Identifier
  watermarkSequence : Nat
  watermarkAt : UtcMillis
  allowedLatenessMs : Nat
  coveredThroughChunkSequence : Nat
  watermarkSequence_pos : 1 ≤ watermarkSequence := by decide
  covered_pos : 1 ≤ coveredThroughChunkSequence := by decide
  deriving Repr

instance : DecidableEq R1FinalPartitionWatermark := fun a b =>
  decidable_of_iff (a.partition = b.partition ∧ a.watermarkId = b.watermarkId ∧
      a.watermarkSequence = b.watermarkSequence ∧ a.watermarkAt = b.watermarkAt ∧
      a.allowedLatenessMs = b.allowedLatenessMs ∧
      a.coveredThroughChunkSequence = b.coveredThroughChunkSequence)
    (by cases a; cases b; simp)

/-- `R1RunClosed`. -/
structure R1RunClosed where
  closeId : Identifier
  runId : RunId
  finalWatermarks : List R1FinalPartitionWatermark
  emittedAt : UtcMillis
  finalWatermarks_ne_nil : finalWatermarks ≠ [] := by simp
  partitions_nodup : (finalWatermarks.map (·.partition)).Nodup := by decide
  partitions_scope : ∀ w ∈ finalWatermarks, w.partition.runId = runId := by decide
  deriving Repr

instance : DecidableEq R1RunClosed := fun a b =>
  decidable_of_iff (a.closeId = b.closeId ∧ a.runId = b.runId ∧
      a.finalWatermarks = b.finalWatermarks ∧ a.emittedAt = b.emittedAt)
    (by cases a; cases b; simp)

/-! ## Content digests -/

/-- The payloads whose canonical JSON is hashed. -/
inductive CanonicalPayload where
  | chunk (chunk : R1EventChunkPayload)
  | event (event : NormalizedEvent)
  | watermark (watermark : R1SourceWatermark)
  | runClosed (close : R1RunClosed)
  deriving DecidableEq, Repr

variable {D : Type}

/-- `_canonical_sha256` of a chunk. -/
def chunkSha256 (sha256 : CanonicalPayload → D) (c : R1EventChunk D) : D :=
  sha256 (.chunk c.toR1EventChunkPayload)

/-- `_canonical_event_sha256`. -/
def canonicalEventSha256 (sha256 : CanonicalPayload → D) (e : NormalizedEvent) : D :=
  sha256 (.event e)

/-- `event_content_sha256s` of a chunk: its Event ids with their digests. -/
def eventContentSha256s (sha256 : CanonicalPayload → D) (c : R1EventChunk D) : List (String × D) :=
  c.events.map fun e => (e.eventId, canonicalEventSha256 sha256 e)

/-- `event_source_record_ids` of a chunk. -/
def eventSourceRecordIds (c : R1EventChunk D) : List (String × Option String) :=
  c.events.map fun e => (e.eventId, e.rawRef.sourceRecordId)

/-- Chunks with one content digest, both as their own digest states it, are equal. -/
theorem chunk_eq_of_sha256 {sha256 : CanonicalPayload → D} (hinj : Function.Injective sha256)
    {c c' : R1EventChunk D} (hc : chunkSha256 sha256 c = c.chunkContentSha256)
    (hc' : chunkSha256 sha256 c' = c'.chunkContentSha256)
    (h : chunkSha256 sha256 c = chunkSha256 sha256 c') : c = c' := by
  have hp : c.toR1EventChunkPayload = c'.toR1EventChunkPayload := by
    simpa using hinj h
  cases c; cases c'
  simp_all

theorem map_fst_eventContentSha256s (sha256 : CanonicalPayload → D) (c : R1EventChunk D) :
    (eventContentSha256s sha256 c).map Prod.fst = c.events.map (·.eventId) := by
  simp [eventContentSha256s, Function.comp_def]

/-! ## Dead letters -/

/-- `R1LateEventDeadLetter`. -/
structure R1LateEventDeadLetter where
  chunkId : Identifier
  partition : R1StreamPartition
  watermarkId : Identifier
  watermarkAt : UtcMillis
  violatingEventIds : List String
  rejectedAt : UtcMillis
  violatingEventIds_ne_nil : violatingEventIds ≠ []
  violatingEventIds_unpadded : ∀ i ∈ violatingEventIds, isBlank i = false ∧ isPadded i = false
  violatingEventIds_nodup : violatingEventIds.Nodup
  deriving Repr

/-- The dead letter's validators, in their order. -/
def R1LateEventDeadLetter.validate (chunkId : Identifier) (partition : R1StreamPartition)
    (watermarkId : Identifier) (watermarkAt : UtcMillis) (violatingEventIds : List String)
    (rejectedAt : UtcMillis) : Except PyError R1LateEventDeadLetter :=
  if h₁ : violatingEventIds = [] then
    .error (.valueError "violating_event_ids: Tuple should have at least 1 item after validation")
  else if h₂ : ∃ i ∈ violatingEventIds, isBlank i = true ∨ isPadded i = true then
    .error (.valueError "violating_event_ids must contain only non-blank unpadded values")
  else if h₃ : ¬ violatingEventIds.Nodup then
    .error (.valueError "violating_event_ids must not contain duplicates")
  else
    .ok { chunkId, partition, watermarkId, watermarkAt, violatingEventIds, rejectedAt
          violatingEventIds_ne_nil := h₁
          violatingEventIds_unpadded := by
            intro i hi
            simp only [not_exists, not_and, not_or, Bool.not_eq_true] at h₂
            exact h₂ i hi
          violatingEventIds_nodup := not_not.mp h₃ }

/-! ## A sample stream

Messages of one partition, with payloads as their own digests. -/

namespace Sample

def runId : RunId := ⟨"RUN-20260101-001", by decide⟩

def partition : R1StreamPartition where
  runId := runId
  hostId := ⟨"host-a", by decide, by decide⟩
  source := ⟨"sysmon", by decide, by decide⟩
  sourceChannel := ⟨"Microsoft-Windows-Sysmon/Operational", by decide, by decide⟩

def event (eventId : String) (timestamp : UtcMillis) (hne : eventId ≠ "" := by decide)
    (hdot : eventId ≠ "." ∧ eventId ≠ ".." := by decide) : NormalizedEvent where
  eventId := eventId
  runId := "RUN-20260101-001"
  timestamp := timestamp
  timestampSource := .eventTime
  eventTime := some timestamp
  hostId := "host-a"
  source := "sysmon"
  sourceLayer := .rawTelemetry
  sourceEventId := "1"
  eventType := "process_create"
  rawRef := { rawLogId := "raw-1", segmentNo := 1, recordNo := 1 }
  eventId_nonempty := hne
  eventId_ne_dot := hdot

def chunk (chunkId : Identifier) (sequence : Nat) (events : List NormalizedEvent)
    (hpos : 1 ≤ sequence := by decide) (hne : events ≠ [] := by decide)
    (hnd : (events.map (·.eventId)).Nodup := by decide)
    (hscope : ∀ e ∈ events, e.runId = partition.runId.val ∧ e.hostId = partition.hostId.val ∧
      e.source = partition.source.val := by decide) : R1EventChunk CanonicalPayload :=
  let payload : R1EventChunkPayload :=
    { chunkId, partition, chunkSequence := sequence, events, chunkSequence_pos := hpos
      events_ne_nil := hne, eventIds_nodup := hnd, events_scope := hscope }
  { payload with chunkContentSha256 := .chunk payload }

def watermark (watermarkId : Identifier) (sequence : Nat) (watermarkAt : UtcMillis) (covered : Nat)
    (hpos : 1 ≤ sequence := by decide) (hcov : 1 ≤ covered := by decide) : R1SourceWatermark where
  watermarkId := watermarkId
  partition := partition
  watermarkSequence := sequence
  watermarkAt := watermarkAt
  allowedLatenessMs := 0
  coveredThroughChunkSequence := covered
  emittedAt := watermarkAt
  watermarkSequence_pos := hpos
  covered_pos := hcov

/-- The final watermark that names a source watermark. -/
def final (w : R1SourceWatermark) : R1FinalPartitionWatermark where
  partition := w.partition
  watermarkId := w.watermarkId
  watermarkSequence := w.watermarkSequence
  watermarkAt := w.watermarkAt
  allowedLatenessMs := w.allowedLatenessMs
  coveredThroughChunkSequence := w.coveredThroughChunkSequence
  watermarkSequence_pos := w.watermarkSequence_pos
  covered_pos := w.covered_pos

def chunk₁ : R1EventChunk CanonicalPayload :=
  chunk ⟨"chunk-1", by decide, by decide⟩ 1 [event "evt-1" 1000]

/-- Another chunk under the sequence of `chunk₁`. -/
def chunk₁' : R1EventChunk CanonicalPayload :=
  chunk ⟨"chunk-1b", by decide, by decide⟩ 1 [event "evt-9" 1000]

/-- A chunk whose Event id is one space. -/
def blankChunk : R1EventChunk CanonicalPayload :=
  chunk ⟨"chunk-1", by decide, by decide⟩ 1 [event " " 1000]

def watermark₁ : R1SourceWatermark := watermark ⟨"wm-1", by decide, by decide⟩ 1 2000 1

/-- A chunk with an Event before `watermark₁`. -/
def chunk₂ : R1EventChunk CanonicalPayload :=
  chunk ⟨"chunk-2", by decide, by decide⟩ 2 [event "evt-2" 1500]

/-- A chunk after `watermark₁`. -/
def laterChunk : R1EventChunk CanonicalPayload :=
  chunk ⟨"chunk-2", by decide, by decide⟩ 2 [event "evt-2" 2001]

/-- A watermark that covers chunks 2 and 3 as well. -/
def watermark₂ : R1SourceWatermark := watermark ⟨"wm-2", by decide, by decide⟩ 2 3000 3

/-- A watermark that covers chunks 1 and 2. -/
def watermark₁₂ : R1SourceWatermark := watermark ⟨"wm-1", by decide, by decide⟩ 1 2000 2

def close : R1RunClosed where
  closeId := ⟨"close-1", by decide, by decide⟩
  runId := runId
  finalWatermarks := [final watermark₁₂]
  emittedAt := 3000

end Sample

end IncidentAwareness.Stream
