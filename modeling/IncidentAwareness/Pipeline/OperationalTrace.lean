import IncidentAwareness.Common.Datetime
import IncidentAwareness.Lib.Json
import IncidentAwareness.Lib.Run

/-!
# The operational trace

`R1OperationalTrace`: one JSON record a line, each with the digest of the line before.
A file is its bytes, or `none` where it does not exist. The SHA-256 digest, the
reading of a record from a line and the text of a time come from libraries and are
fields of the trace. A crash cuts an append off after some bytes of its write.
-/

namespace IncidentAwareness.Pipeline

open IncidentAwareness.Common IncidentAwareness.Lib

/-- `R1OperationalStage`. -/
inductive R1OperationalStage where
  | chunkReceived | chunkAccepted | chunkRejected | incrementalStateUpdated
  | provisionalCandidate | finalizationBlocked | finalizationFailedClosed | evidenceFinalized
  | evidencePublished | handoffRejected | handoffAccepted | fusionProcessingStarted
  | fusionProcessingFailed | fusionProcessingCompleted | decisionRecorded
  deriving DecidableEq, Repr

def R1OperationalStage.text : R1OperationalStage → String
  | .chunkReceived => "chunk_received"
  | .chunkAccepted => "chunk_accepted"
  | .chunkRejected => "chunk_rejected"
  | .incrementalStateUpdated => "incremental_state_updated"
  | .provisionalCandidate => "provisional_candidate"
  | .finalizationBlocked => "finalization_blocked"
  | .finalizationFailedClosed => "finalization_failed_closed"
  | .evidenceFinalized => "evidence_finalized"
  | .evidencePublished => "evidence_published"
  | .handoffRejected => "handoff_rejected"
  | .handoffAccepted => "handoff_accepted"
  | .fusionProcessingStarted => "fusion_processing_started"
  | .fusionProcessingFailed => "fusion_processing_failed"
  | .fusionProcessingCompleted => "fusion_processing_completed"
  | .decisionRecorded => "decision_recorded"

/-! ## Records -/

/-- The fields of `R1OperationalTraceRecord`; the details are JSON. -/
structure TraceFields where
  sequence : Nat
  previousRecordSha256 : Option String
  runId : String
  stage : R1OperationalStage
  observedAt : String
  details : List (String × Json)

/-- The validation of `R1OperationalTraceRecord`. -/
def TraceFields.validate (r : TraceFields) : Except PyError Unit := do
  raiseIf (r.sequence < 1) (.valueError "Input should be greater than or equal to 1")
  raiseIf (r.runId = "") (.valueError "String should have at least 1 character")
  raiseIf (r.observedAt = "") (.valueError "String should have at least 1 character")

/-- `R1OperationalTraceRecord`. -/
abbrev R1OperationalTraceRecord := Validated TraceFields.validate

/-- `model_dump(mode="json")`, its keys sorted. -/
def TraceFields.json (r : TraceFields) : List (String × Json) :=
  [("details", .obj r.details),
    ("observed_at", .str r.observedAt),
    ("previous_record_sha256", .strOrNull r.previousRecordSha256),
    ("record_type", .str "r1_operational_trace"),
    ("run_id", .str r.runId),
    ("sequence", .nat r.sequence),
    ("stage", .str r.stage.text)]

/-- `_encode`. -/
def encode (record : R1OperationalTraceRecord) : List UInt8 := dumps (.obj record.val.json)

/-! ## Lines -/

/-- `bytes.splitlines()`. -/
def splitlines : List UInt8 → List (List UInt8)
  | [] => []
  | 10 :: bytes => [] :: splitlines bytes
  | 13 :: 10 :: bytes => [] :: splitlines bytes
  | 13 :: bytes => [] :: splitlines bytes
  | b :: bytes =>
    match splitlines bytes with
    | [] => [[b]]
    | line :: lines => (b :: line) :: lines

/-! ## The trace -/

/-- `R1OperationalTrace`, with what it takes from the libraries: `sha256(…).hexdigest()`,
`model_validate_json`, and the text of a UTC time. -/
structure R1OperationalTrace where
  path : String
  sha256 : List UInt8 → String
  modelValidateJson : List UInt8 → Option R1OperationalTraceRecord
  isoformat : Int → String

/-- How deep the details of a call are nested at most; `model_validate_json` reads deeper ones. -/
def detailsDepth : Nat := 100

/-- A call of `append`: what it is given, what the clock shows, and after how many bytes of its
write it is cut off. -/
structure Append where
  stage : R1OperationalStage
  runId : String
  details : List (String × Json) := []
  clock : PyDatetime
  cut : Option Nat := none
  details_depth : (Json.obj details).depth ≤ detailsDepth

/-- How an append ended. -/
inductive Appended where
  | returned (record : R1OperationalTraceRecord)
  | cutOff (record : R1OperationalTraceRecord) (written : Nat)
  | raised (error : PyError)

namespace R1OperationalTrace

variable (trace : R1OperationalTrace)

/-- One line of `records`: the records so far, and the digest of the line before. -/
def readLine (state : List R1OperationalTraceRecord × Option String) (line : List UInt8) :
    Except PyError (List R1OperationalTraceRecord × Option String) :=
  match trace.modelValidateJson line with
  | none => .error (.valueError ("operational trace is corrupted: " ++ trace.path))
  | some record => do
    raiseIf (record.val.sequence ≠ state.1.length + 1 ∨ record.val.previousRecordSha256 ≠ state.2)
      (.valueError ("operational trace chain is broken: " ++ trace.path))
    return (state.1 ++ [record], some (trace.sha256 line))

/-- The lines of a file. -/
def lines (file : Option (List UInt8)) : List (List UInt8) := splitlines (file.getD [])

/-- `records`. -/
def records (file : Option (List UInt8)) : Except PyError (List R1OperationalTraceRecord) :=
  Prod.fst <$> (lines file).foldlM trace.readLine ([], none)

/-- The record that `append` writes. -/
def nextRecord (file : Option (List UInt8)) (call : Append) :
    Except PyError R1OperationalTraceRecord := do
  let existing ← trace.records file
  let previous := existing.getLast?.map fun record => trace.sha256 (encode record)
  let observedAt ← ceilUtcClockObservation "observed_at" call.clock
  construct TraceFields.validate {
    sequence := existing.length + 1
    previousRecordSha256 := previous
    runId := call.runId
    stage := call.stage
    observedAt := trace.isoformat observedAt
    details := call.details }

/-- `append`: the file after it, and how it ended. -/
def append (file : Option (List UInt8)) (call : Append) : Option (List UInt8) × Appended :=
  match trace.nextRecord file call with
  | .error e => (file, .raised e)
  | .ok record =>
    let written := encode record ++ [10]
    match call.cut with
    | none => (some (file.getD [] ++ written), .returned record)
    | some n => (some (file.getD [] ++ written.take n), .cutOff record n)

end R1OperationalTrace

end IncidentAwareness.Pipeline
