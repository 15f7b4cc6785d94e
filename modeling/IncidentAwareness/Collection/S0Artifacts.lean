import IncidentAwareness.Collection.S0Validation

/-!
# Loading a collected S0 run into the pipeline

`load_s0_pipeline_artifacts` checks the manifest again, by rules of its own, and
binds the Sysmon records to the raw log id and the digest the manifest gives them.
-/

namespace IncidentAwareness.Collection

open IncidentAwareness.Common IncidentAwareness.Lib IncidentAwareness.Persistence

/-- What the loader raises. Each is a `ValueError` but where it says `TypeError`. -/
inductive S0LoadError where
  /-- `run_metadata is not a valid RunMetadata artifact: …`. -/
  | runMetadata
  /-- `manifest is not valid JSON: …`. -/
  | manifestNotJson (error : ReadError)
  /-- `manifest must be a JSON object: …`, a `TypeError`. -/
  | manifestNotObject
  /-- `manifest run_id must match run_metadata run_id: … != …`. -/
  | runId (manifest : PyValue) (runMetadata : String)
  /-- `manifest items must be an array`, a `TypeError`. -/
  | itemsNotArray
  /-- `manifest items[…] must be a JSON object`, a `TypeError`. -/
  | itemNotObject (index : Nat)
  /-- `manifest item path is invalid: …`. -/
  | itemPath (error : ManifestPathError)
  /-- `manifest must contain exactly one Sysmon JSONL item`. -/
  | notOneJsonlItem
  /-- `sysmon_jsonl path must name sysmon-0001.jsonl`. -/
  | jsonlName
  /-- `Sysmon JSONL manifest item must be raw_telemetry from sysmon`. -/
  | jsonlLayerSource
  /-- `Sysmon JSONL manifest item must define a non-blank raw_log_id`. -/
  | rawLogId
  /-- `Sysmon JSONL manifest item must derive from sysmon-0001.evtx`. -/
  | derivedFrom
  /-- `Sysmon JSONL derived_from must resolve to exactly one EVTX manifest item`. -/
  | notOneParent
  /-- `Sysmon JSONL parent EVTX must be raw_telemetry from sysmon`. -/
  | parentLayerSource
  /-- `Sysmon JSONL manifest item must define a SHA-256 value`. -/
  | sha256
  /-- What reading the bytes of the JSONL raises. -/
  | osError
  /-- `Sysmon JSONL SHA-256 must match the manifest`. -/
  | sha256Mismatch
  /-- `Sysmon JSONL is not readable: …`. -/
  | jsonlNotReadable (error : ReadError)
  /-- `Sysmon JSONL must contain at least one record`. -/
  | noRecords

/-- The inputs of the pipeline that the loader reads; a path is its name and its file. -/
structure PipelineInputs (B : Type) where
  runMetadata : File B
  manifest : File B
  sysmonJsonlName : String
  sysmonJsonl : File B

/-- `SysmonNormalizationContext`. -/
structure SysmonNormalizationContext where
  runId : String
  rawLogId : String
  segmentNo : Nat
  deriving DecidableEq, Repr

/-- `S0PipelineArtifacts`. -/
structure S0PipelineArtifacts where
  runMetadata : RunMetadata
  sysmonRecords : List SysmonJsonlRecord
  sysmonContentSha256 : String
  normalizationContext : SysmonNormalizationContext

variable {B : Type} (h : Host B)

/-- `RunMetadata.model_validate_json`, of a file: `model_validate` of what pydantic's own
parser reads. -/
def loadRunMetadata (file : File B) : Except S0LoadError RunMetadata :=
  match file.readText h with
  | .error _ => .error .runMetadata
  | .ok text =>
    match (h.fromJson text).bind (validateRunMetadata h) with
    | none => .error .runMetadata
    | some metadata => .ok metadata

/-- `_read_json_object`. -/
def readJsonObject (file : File B) : Except S0LoadError PyDict :=
  match file.loadJson h with
  | .error error => .error (.manifestNotJson error)
  | .ok value =>
    match value.dict? with
    | some manifest => .ok manifest
    | none => .error .manifestNotObject

/-- The loop of `_validate_sysmon_manifest_item`: the items of the JSONL, and
those of the EVTX. -/
def sortItems (runId : String) :
    Nat → List PyValue → Except S0LoadError (List PyDict × List PyDict)
  | _, [] => .ok ([], [])
  | index, value :: rest => do
    match value.dict? with
    | none => .error (.itemNotObject index)
    | some item =>
      let name ← (manifestArtifactName (item.get "path") runId).mapError .itemPath
      let (candidates, evtxItems) ← sortItems runId (index + 1) rest
      if name = jsonlFilename then return (item :: candidates, evtxItems)
      else if name = evtxFilename then return (candidates, item :: evtxItems)
      else return (candidates, evtxItems)

/-- `item.get("layer") != "raw_telemetry" or item.get("source") != "sysmon"` is false. -/
def fromSysmon (item : PyDict) : Bool :=
  (item.get "layer").str? = some "raw_telemetry" && (item.get "source").str? = some "sysmon"

/-- The raw log id, of a string that is neither blank nor padded. -/
def rawLogId? (value : PyValue) : Option String :=
  value.str?.filter fun rawLogId => !isBlank rawLogId && !isPadded rawLogId

/-- The part of `_validate_sysmon_manifest_item` that resolves `derived_from`. -/
def checkParent (runId : String) (item : PyDict) (evtxItems : List PyDict) :
    Except S0LoadError Unit := do
  let derivedFrom := item.get "derived_from"
  let name ← (manifestArtifactName derivedFrom runId).mapError fun _ => .derivedFrom
  raiseIf (name ≠ evtxFilename) .derivedFrom
  match evtxItems.filter fun parent => (parent.get "path").str? = derivedFrom.str? with
  | [parent] => raiseIf (fromSysmon parent = false) .parentLayerSource
  | _ => .error .notOneParent

/-- `_validate_sysmon_manifest_item`: the raw log id and the actual digest. -/
def validateSysmonManifestItem (inputs : PipelineInputs B) (manifest : PyDict) (runId : String) :
    Except S0LoadError (String × String) := do
  match manifest.get "items" with
  | .list items =>
    let (candidates, evtxItems) ← sortItems runId 0 items
    match candidates with
    | [item] =>
      raiseIf (inputs.sysmonJsonlName ≠ jsonlFilename) .jsonlName
      raiseIf (fromSysmon item = false) .jsonlLayerSource
      match rawLogId? (item.get "raw_log_id") with
      | none => .error .rawLogId
      | some rawLogId =>
        checkParent runId item evtxItems
        match sha256Hex? (item.get "sha256") with
        | none => .error .sha256
        | some expected =>
          let raw ← inputs.sysmonJsonl.readBytes.mapError fun _ => .osError
          raiseIf (h.sha256 raw ≠ lower expected) .sha256Mismatch
          return (rawLogId, h.sha256 raw)
    | _ => .error .notOneJsonlItem
  | _ => .error .itemsNotArray

/-- `_read_sysmon_records` of the loader. -/
def loadSysmonRecords (file : File B) : Except S0LoadError (List SysmonJsonlRecord) :=
  match readSysmonJsonl h file with
  | .error error => .error (.jsonlNotReadable error)
  | .ok [] => .error .noRecords
  | .ok records => .ok records

/-- `load_s0_pipeline_artifacts`. -/
def loadS0PipelineArtifacts (inputs : PipelineInputs B) :
    Except S0LoadError S0PipelineArtifacts := do
  let runMetadata ← loadRunMetadata h inputs.runMetadata
  let manifest ← readJsonObject h inputs.manifest
  raiseIf ((manifest.get "run_id").str? ≠ some runMetadata.runId)
    (.runId (manifest.get "run_id") runMetadata.runId)
  let (rawLogId, sysmonContentSha256) ←
    validateSysmonManifestItem h inputs manifest runMetadata.runId
  let sysmonRecords ← loadSysmonRecords h inputs.sysmonJsonl
  return {
    runMetadata, sysmonRecords, sysmonContentSha256
    normalizationContext := { runId := runMetadata.runId, rawLogId, segmentNo := 1 } }

end IncidentAwareness.Collection
