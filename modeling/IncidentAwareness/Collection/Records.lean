import IncidentAwareness.Common.Datetime
import IncidentAwareness.Common.PyValue
import IncidentAwareness.Persistence.Results
import IncidentAwareness.Stream.Messages

/-!
# The files of a collected run, as they are read

Raw Sysmon JSONL, `RunMetadata` and the rows of an execution record. What the
standard library and pydantic's own parsers return for a text is theirs: a
`Host` holds these functions, and everything that reads a file takes one.
-/

namespace IncidentAwareness.Collection

open IncidentAwareness.Common IncidentAwareness.Lib IncidentAwareness.Persistence
open IncidentAwareness.Stream (isRunId)

/-- The functions of Python and pydantic that the readers call, over the bytes
`B` of a file. `none` is the error the callers catch. -/
structure Host (B : Type) where
  /-- `raw.decode("utf-8")`. -/
  decodeUtf8 : B → Option String
  /-- What a file opened in text mode with `encoding="utf-8"` reads: `raw` decoded, with
  the line ends of every platform as newlines. -/
  textMode : B → Option String
  /-- `raw.startswith(b"\xef\xbb\xbf")`. -/
  startsWithBom : B → Bool
  /-- `hashlib.sha256(raw).hexdigest()`. -/
  sha256 : B → String
  /-- `json.loads`. -/
  jsonLoads : String → Option PyValue
  /-- The JSON parser behind pydantic's `model_validate_json`. -/
  fromJson : String → Option PyValue
  /-- `list(csv.reader(io.StringIO(text, newline=""), strict=True))`. -/
  csvReader : String → Option (List (List String))
  /-- `yaml.safe_load`. -/
  yamlSafeLoad : String → Option PyValue
  /-- `datetime.fromisoformat`. -/
  fromIsoformat : String → Option PyDatetime
  /-- What pydantic reads as a `datetime`. -/
  parseDatetime : PyValue → Option PyDatetime
  /-- Whether pydantic reads the value as an `int`. -/
  isInt : PyValue → Bool
  /-- Whether `float` reads the text. -/
  isFloat : String → Bool
  /-- `str(value)`. -/
  str : PyValue → String
  /-- `value.upper()`. -/
  upper : String → String

/-! ## Files -/

/-- A path: no file, a file the operating system refuses to read, or its bytes. -/
inductive File (B : Type) where
  | absent
  | unreadable
  | content (bytes : B)

/-- `path.is_file()`. -/
def File.isFile {B : Type} : File B → Bool
  | .absent => false
  | .unreadable | .content _ => true

/-- What reading a file raises. -/
inductive ReadError where
  | osError
  | unicodeDecodeError
  | jsonDecodeError
  | yamlError
  | sysmonJsonlReadError (recordNo : Nat) (message : String)
  deriving DecidableEq, Repr

variable {B : Type} (h : Host B)

/-- `path.read_bytes()`. -/
def File.readBytes : File B → Except ReadError B
  | .content bytes => .ok bytes
  | .absent | .unreadable => .error .osError

/-- `path.read_text(encoding="utf-8")`. -/
def File.readText (file : File B) : Except ReadError String := do
  match h.textMode (← file.readBytes) with
  | none => .error .unicodeDecodeError
  | some text => .ok text

/-- `json.loads(path.read_text(encoding="utf-8"))`. -/
def File.loadJson (file : File B) : Except ReadError PyValue := do
  match h.jsonLoads (← file.readText h) with
  | none => .error .jsonDecodeError
  | some value => .ok value

/-! ## Raw Sysmon records -/

/-- `SysmonJsonlRecord`. -/
structure SysmonJsonlRecord where
  recordNo : Nat
  data : PyDict

/-- The lines of a text, with their ends. -/
def lines : List Char → List (List Char)
  | [] => []
  | c :: cs =>
    if c = '\n' then [c] :: lines cs
    else
      match lines cs with
      | [] => [[c]]
      | l :: ls => (c :: l) :: ls

/-- One turn of `read_sysmon_jsonl`. -/
def readRecord (recordNo : Nat) (line : String) : Except ReadError SysmonJsonlRecord := do
  raiseIf (isBlank line)
    (.sysmonJsonlReadError recordNo "blank lines are not valid JSONL records")
  match h.jsonLoads line with
  | none => .error (.sysmonJsonlReadError recordNo "invalid JSON")
  | some (.dict data) => .ok ⟨recordNo, data⟩
  | some _ =>
    .error (.sysmonJsonlReadError recordNo "a Sysmon JSONL record must be a JSON object")

/-- The turns of `read_sysmon_jsonl` from a record number on. -/
def readRecords : Nat → List (List Char) → Except ReadError (List SysmonJsonlRecord)
  | _, [] => .ok []
  | recordNo, line :: rest => do
    let record ← readRecord h recordNo (String.ofList line)
    return record :: (← readRecords (recordNo + 1) rest)

/-- `list(read_sysmon_jsonl(path))`. -/
def readSysmonJsonl (file : File B) : Except ReadError (List SysmonJsonlRecord) := do
  readRecords h 1 (lines (← file.readText h).toList)

/-! ## `RunMetadata` -/

/-- `RunMetadata`, with the fields of its reference. -/
structure RunMetadata extends Persistence.RunMetadata where
  referenceTime : Option UtcMicros := none
  referenceActionId : Option String := none
  referenceSourceEventId : Option String := none
  runId_valid : isRunId runId = true
  normal_reference : runType = .normal → referenceTime = none
  time_order : ∀ e ∈ endTime, startTime ≤ e

/-- `RunType(value)`. -/
def runTypeOf : String → Option RunType
  | "normal" => some .normal
  | "attack" => some .attack
  | _ => none

/-- `RunType.value`. -/
def runTypeValue : RunType → String
  | .normal => "normal"
  | .attack => "attack"

/-- The fields `RunMetadata` declares; it forbids others. -/
def runMetadataFields : List String :=
  ["run_id", "scenario_id", "run_type", "target_host", "start_time", "end_time", "family_id",
    "variation_id", "repetition", "reference_time", "reference_action_id",
    "reference_source_event_id", "vm_snapshot", "sysmon_config_version", "detector_set_version",
    "scenario_version", "schema_versions", "reference_policy_version"]

/-- The fields of `SchemaVersions`; it forbids others. -/
def schemaVersionsFields : List String :=
  ["run_metadata", "event", "evidence", "fast_hit", "detection_result", "fusion_result",
    "decision_result", "execution_record", "evaluation_input"]

/-- A field declared `str = Field(min_length=1)`. -/
def requiredStr (fields : PyDict) (name : String) : Option String := do
  let value ← (fields.get name).str?
  guard (value ≠ "")
  return value

/-- A required string that `validate_required_identifier` accepts. -/
def requiredIdentifier (fields : PyDict) (name : String) : Option String := do
  let value ← requiredStr fields name
  guard (isPadded value = false)
  return value

/-- A field declared `str | None = None`. -/
def optionalStr (fields : PyDict) (name : String) : Option (Option String) :=
  match fields.get name with
  | .none => some none
  | .str value => some (some value)
  | _ => none

/-- `validate_utc_datetime`, on what pydantic read. -/
def utcDatetime : Option PyDatetime → Option UtcMicros
  | some (.aware instant 0) => some instant
  | _ => none

/-- A field declared `datetime | None = None`. -/
def optionalDatetime (fields : PyDict) (name : String) : Option (Option UtcMicros) :=
  match fields.get name with
  | .none => some none
  | value => (utcDatetime (h.parseDatetime value)).map some

/-- `SchemaVersions.model_validate`. -/
def schemaVersionsValid (value : PyValue) : Bool :=
  match value.dict? with
  | some fields =>
    fields.all (fun field => schemaVersionsFields.contains field.1) &&
      schemaVersionsFields.all fun name => (requiredStr fields name).isSome
  | none => false

/-- `RunMetadata.model_validate`; `none` is a `ValidationError`. -/
def validateRunMetadata (payload : PyValue) : Option RunMetadata := do
  let fields ← payload.dict?
  guard (fields.all fun field => runMetadataFields.contains field.1)
  let runId ← requiredIdentifier fields "run_id"
  let scenarioId ← requiredIdentifier fields "scenario_id"
  let runType ← (fields.get "run_type").str?.bind runTypeOf
  let targetHost ← requiredIdentifier fields "target_host"
  let startTime ← utcDatetime (h.parseDatetime (fields.get "start_time"))
  let endTime ← optionalDatetime h fields "end_time"
  let _ ← optionalStr fields "family_id"
  let _ ← optionalStr fields "variation_id"
  guard ((fields.get "repetition") matches .none || h.isInt (fields.get "repetition"))
  let referenceTime ← optionalDatetime h fields "reference_time"
  let referenceActionId ← optionalStr fields "reference_action_id"
  let referenceSourceEventId ← optionalStr fields "reference_source_event_id"
  let _ ← optionalStr fields "vm_snapshot"
  let _ ← optionalStr fields "sysmon_config_version"
  let _ ← optionalStr fields "detector_set_version"
  let _ ← optionalStr fields "scenario_version"
  guard (schemaVersionsValid (fields.get "schema_versions"))
  let _ ← optionalStr fields "reference_policy_version"
  if hvalid : isRunId runId = true then
    if hnormal : runType = .normal → referenceTime = none then
      if horder : ∀ e ∈ endTime, startTime ≤ e then
        return {
          runId, scenarioId, runType, targetHost, startTime, endTime, referenceTime,
          referenceActionId, referenceSourceEventId
          runId_valid := hvalid, normal_reference := hnormal, time_order := horder }
      else none
    else none
  else none

/-! ## `ExecutionRecordRow` -/

/-- `ExecutionRecordRow`. -/
structure ExecutionRecordRow where
  runId : String
  actionId : String
  timestamp : UtcMicros
  actionType : String
  description : String
  deriving DecidableEq, Repr

/-- `ExecutionRecordRow.model_validate`, on the strings of one CSV row. -/
def validateExecutionRecord (runId actionId timestamp actionType description : String) :
    Option ExecutionRecordRow := do
  guard (isRunId runId)
  guard (actionId ≠ "" ∧ isPadded actionId = false)
  guard (!h.isFloat timestamp)
  let time ← utcDatetime (h.parseDatetime (.str timestamp))
  guard (actionType ≠ "" ∧ isPadded actionType = false)
  guard (isBlank description = false)
  return ⟨runId, actionId, time, actionType, description⟩

end IncidentAwareness.Collection
