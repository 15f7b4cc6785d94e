import IncidentAwareness.Common.Python

/-!
# Normalized events

`NormalizedEvent` with every field of the source's model, since a content digest
reads them all. Datetimes are validated to UTC milliseconds, and `timestamp` is
the time its source names.
-/

namespace IncidentAwareness.Common

/-- `ProcessInfo`. -/
structure ProcessInfo where
  pid : Option Int := none
  processGuid : Option String := none
  name : Option String := none
  path : Option String := none
  commandLine : Option String := none
  parentPid : Option Int := none
  parentProcessGuid : Option String := none
  parentName : Option String := none
  processGuid_nonblank : ∀ g ∈ processGuid, isBlank g = false := by decide
  parentProcessGuid_nonblank : ∀ g ∈ parentProcessGuid, isBlank g = false := by decide
  deriving Repr

instance : DecidableEq ProcessInfo := fun a b =>
  decidable_of_iff (a.pid = b.pid ∧ a.processGuid = b.processGuid ∧ a.name = b.name ∧
      a.path = b.path ∧ a.commandLine = b.commandLine ∧ a.parentPid = b.parentPid ∧
      a.parentProcessGuid = b.parentProcessGuid ∧ a.parentName = b.parentName)
    (by cases a; cases b; simp)

/-- `NetworkInfo`. -/
structure NetworkInfo where
  protocol : Option String := none
  srcIp : Option String := none
  srcPort : Option (Fin 65536) := none
  dstIp : Option String := none
  dstPort : Option (Fin 65536) := none
  deriving DecidableEq, Repr

/-- `RawLogReference`. -/
structure RawLogReference where
  rawLogId : String
  sourceRecordId : Option String := none
  segmentNo : Nat
  recordNo : Nat
  parserId : Option String := none
  parserVersion : Option String := none
  rawLogId_nonblank : isBlank rawLogId = false := by decide
  segmentNo_pos : 1 ≤ segmentNo := by decide
  recordNo_pos : 1 ≤ recordNo := by decide
  deriving Repr

instance : DecidableEq RawLogReference := fun a b =>
  decidable_of_iff (a.rawLogId = b.rawLogId ∧ a.sourceRecordId = b.sourceRecordId ∧
      a.segmentNo = b.segmentNo ∧ a.recordNo = b.recordNo ∧ a.parserId = b.parserId ∧
      a.parserVersion = b.parserVersion)
    (by cases a; cases b; simp)

/-- `timestamp_source`. -/
inductive TimestampSource where
  | eventTime | recordTime | ingestTime
  deriving DecidableEq, Repr

/-- `source_layer`. -/
inductive SourceLayer where
  | rawTelemetry | detectorOutput
  deriving DecidableEq, Repr

/-- The time field that `timestamp_source` names. -/
def sourceTime (eventTime recordTime ingestTime : Option UtcMillis) :
    TimestampSource → Option UtcMillis
  | .eventTime => eventTime
  | .recordTime => recordTime
  | .ingestTime => ingestTime

/-- `NormalizedEvent`. -/
structure NormalizedEvent where
  eventId : String
  runId : String
  timestamp : UtcMillis
  timestampSource : TimestampSource
  eventTime : Option UtcMillis := none
  recordTime : Option UtcMillis := none
  ingestTime : Option UtcMillis := none
  hostId : String
  source : String
  sourceLayer : SourceLayer
  sourceEventId : String
  eventType : String
  rawRef : RawLogReference
  user : Option String := none
  process : Option ProcessInfo := none
  network : Option NetworkInfo := none
  eventId_nonempty : eventId ≠ "" := by decide
  eventId_ne_dot : eventId ≠ "." ∧ eventId ≠ ".." := by decide
  timestamp_eq : sourceTime eventTime recordTime ingestTime timestampSource = some timestamp := by
    rfl
  deriving Repr

instance : DecidableEq NormalizedEvent := fun a b =>
  decidable_of_iff (a.eventId = b.eventId ∧ a.runId = b.runId ∧ a.timestamp = b.timestamp ∧
      a.timestampSource = b.timestampSource ∧ a.eventTime = b.eventTime ∧
      a.recordTime = b.recordTime ∧ a.ingestTime = b.ingestTime ∧ a.hostId = b.hostId ∧
      a.source = b.source ∧ a.sourceLayer = b.sourceLayer ∧ a.sourceEventId = b.sourceEventId ∧
      a.eventType = b.eventType ∧ a.rawRef = b.rawRef ∧ a.user = b.user ∧ a.process = b.process ∧
      a.network = b.network)
    (by cases a; cases b; simp)

/-- The instant of an Event, in microseconds. -/
def eventInstant (e : NormalizedEvent) : Int := e.timestamp * 1000

end IncidentAwareness.Common
