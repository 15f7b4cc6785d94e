import IncidentAwareness.Collection.Scenario
import IncidentAwareness.Lib.Findings
import Mathlib.Data.List.Basic

/-!
# Validating the artifacts of one S0 run

`validate_s0_run` reads the files a run left and reports everything it finds.
Each check below is one function of the source, with the findings it adds to the
report in the order the source adds them. A failure keeps the data its text
shows; the text itself stands beside its constructor.
-/

namespace IncidentAwareness.Collection

open IncidentAwareness.Common IncidentAwareness.Lib IncidentAwareness.Persistence
open IncidentAwareness.Stream (isIsoDate)

def evtxFilename : String := "sysmon-0001.evtx"

def jsonlFilename : String := "sysmon-0001.jsonl"

/-- `ALLOWED_TELEMETRY_FILENAMES`, sorted. -/
def allowedTelemetryFilenames : List String := [evtxFilename, jsonlFilename]

/-- `CSV_HEADER`. -/
def csvHeader : List String := ["run_id", "action_id", "timestamp", "action_type", "description"]

def manifestTopLevelFields : List String := ["run_id", "generated_at", "sysmon", "items"]

def manifestSysmonFields : List String := ["config_version", "config_sha256", "config_hash"]

def manifestItemFields : List String := ["raw_log_id", "path", "sha256", "layer", "source"]

/-! ## What the report says -/

/-- Why a run id is refused: `check_run_id`. -/
inductive RunIdProblem where
  /-- `run_id must not carry leading or trailing whitespace: …`. -/
  | padded
  /-- `run_id must not contain a path separator: …`. -/
  | separator
  /-- `run_id must not contain a relative path segment: …`. -/
  | relativeSegment
  /-- `run_id must match RUN-YYYYMMDD-NNN with a three digit sequence: …`. -/
  | pattern
  /-- `run_id must carry a real calendar date: …`. -/
  | date
  deriving DecidableEq, Repr

/-- `ManifestPathError`. -/
inductive ManifestPathError where
  /-- `path must be a non-empty string`. -/
  | notNonEmptyStr
  /-- `path must not contain relative segments: …`. -/
  | relativeSegments (path : String)
  /-- `path must not end with a separator: …`. -/
  | endsWithSeparator (path : String)
  /-- `unexpected artifact file name: …`. -/
  | unexpectedName (name : String)
  /-- `path must end with raw/<run_id>/telemetry/<name>, found …`. -/
  | unexpectedTail (path runId name : String)
  deriving DecidableEq, Repr

/-- A failure of the report. The failures of one manifest item carry its index,
which their text shows as `manifest.json items[…]`. -/
inductive S0Failure where
  | runId (problem : RunIdProblem)
  /-- `rehearsal artifacts cannot be validated as a formal S0 collection; marker=…
  path_isolated=…. Re-run with --rehearsal.` -/
  | rehearsalArtifacts (hasMarker inRehearsalDir : Bool)
  /-- `--rehearsal given but REHEARSAL.txt is missing under …`. -/
  | rehearsalMarkerMissing
  /-- `--rehearsal given but … is not under a _rehearsal directory`. -/
  | rehearsalNotIsolated
  /-- `required artifact is missing: …`. -/
  | missingArtifact (name : String)
  /-- `run_metadata.json is not readable JSON: …`. -/
  | metadataNotJson (error : ReadError)
  /-- `run_metadata.json does not satisfy RunMetadata: …`. -/
  | metadataInvalid
  /-- `execution_record.csv is not readable: …`. -/
  | csvNotReadable (error : ReadError)
  /-- `execution_record.csv starts with a UTF-8 BOM; …`. -/
  | csvBom
  /-- `execution_record.csv is not valid UTF-8: …`. -/
  | csvNotUtf8
  /-- `execution_record.csv is not parsable CSV: …`. -/
  | csvNotParsable
  /-- `execution_record.csv is empty`. -/
  | csvEmpty
  /-- `execution_record.csv header must be exactly … in this order, found …`. -/
  | csvHeader (found : List String)
  /-- `execution_record.csv has a header but no rows`. -/
  | csvNoRows
  /-- `execution_record.csv line … has … fields, expected 5`. -/
  | csvFieldCount (lineNo fields : Nat)
  /-- `execution_record.csv line … does not satisfy ExecutionRecordRow: …`. -/
  | csvRowInvalid (lineNo : Nat)
  /-- `run_metadata.json run_id is …, expected …`. -/
  | metadataRunId (found expected : String)
  /-- `execution_record.csv carries run_id(s) other than …: …`. -/
  | recordRunIds (expected : String) (found : List String)
  /-- `manifest.json is not readable JSON: …`. -/
  | manifestNotJson (error : ReadError)
  /-- `manifest.json must be a JSON object`. -/
  | manifestNotObject
  /-- `manifest.json is missing top-level field(s): …`. -/
  | manifestMissing (fields : List String)
  /-- `manifest.json run_id is …, expected …`. -/
  | manifestRunId (found : PyValue) (expected : String)
  /-- `manifest.json sysmon must be an object`. -/
  | sysmonNotObject
  /-- `manifest.json sysmon is missing field(s): …`. -/
  | sysmonMissing (fields : List String)
  /-- `manifest.json sysmon.config_sha256 is not a SHA-256 value: …`. -/
  | configSha256 (found : PyValue)
  /-- `manifest.json sysmon.config_hash is empty; …`. -/
  | configHashEmpty
  /-- `manifest.json sysmon.config_hash uses …; …`. -/
  | configHashAlgorithm (algorithm : String)
  /-- `manifest.json sysmon.config_hash is not a SHA-256 value: …`. -/
  | configHashInvalid (found : String)
  /-- `manifest.json sysmon config hashes differ. config_sha256=… config_hash=…`. -/
  | configHashesDiffer (configSha256 configHash : String)
  /-- `manifest.json items must be a non-empty array`. -/
  | itemsNotArray
  /-- `… must be an object`. -/
  | itemNotObject (index : Nat)
  /-- `… is missing field(s): …`. -/
  | itemMissing (index : Nat) (fields : List String)
  /-- `… layer is …, expected 'raw_telemetry'`. -/
  | itemLayer (index : Nat) (found : PyValue)
  /-- `… source is …, expected 'sysmon'`. -/
  | itemSource (index : Nat) (found : PyValue)
  /-- `… raw_log_id must be a non-empty string, found …`. -/
  | itemRawLogId (index : Nat) (found : PyValue)
  /-- `… repeats raw_log_id …`. -/
  | itemRepeatsRawLogId (index : Nat) (rawLogId : String)
  /-- `… path rejected: …`. -/
  | itemPath (index : Nat) (error : ManifestPathError)
  /-- `… repeats the artifact …`. -/
  | itemRepeatsArtifact (index : Nat) (name : String)
  /-- `… sha256 is not a SHA-256 value: …`. -/
  | itemSha256 (index : Nat) (found : PyValue)
  /-- `… maps to …, which does not exist`. -/
  | itemFileMissing (index : Nat) (name : String)
  /-- `… could not read … to recompute its SHA-256: …`. -/
  | itemFileNotReadable (index : Nat) (name : String)
  /-- `… sha256 mismatch for …. recorded=… actual=…`. -/
  | itemSha256Mismatch (index : Nat) (name recorded actual : String)
  /-- `manifest.json does not describe this run's artifact(s): …`. -/
  | artifactsNotDescribed (names : List String)
  /-- `manifest.json must hold exactly 2 items (…), found …`. -/
  | itemCount (found : Nat)
  /-- `manifest.json sysmon-0001.evtx declares derived_from (…); the EVTX is the source artifact`. -/
  | evtxDerived (found : PyValue)
  /-- `manifest.json sysmon-0001.jsonl must declare derived_from pointing at sysmon-0001.evtx`. -/
  | jsonlNotDerived
  /-- `manifest.json sysmon-0001.jsonl derived_from rejected: …`. -/
  | derivedFromPath (error : ManifestPathError)
  /-- `manifest.json sysmon-0001.jsonl derived_from points at …, expected sysmon-0001.evtx`. -/
  | derivedFromName (found : String)
  /-- `manifest.json sysmon-0001.jsonl derived_from points at …, which is not a manifest item`. -/
  | derivedFromNotItem (parent : String)
  /-- `sysmon-0001.jsonl is not readable: …`. -/
  | jsonlNotReadable (error : ReadError)
  /-- `sysmon-0001.jsonl holds no records; an empty capture is not a collection`. -/
  | jsonlNoRecords
  /-- `a normal run must leave … null`. -/
  | normalReference (names : List String)
  /-- `an attack run must set …`. -/
  | attackReference (names : List String)
  /-- `reference_action_id is …, but the scenario anchors the attack run to …`. -/
  | referenceAction (found : String) (scenario : Option String)
  /-- `reference_action_id … must appear exactly once in execution_record, found … (…)`. -/
  | referenceRows (actionId : String) (count : Nat) (recorded : List String)
  /-- `reference_time … is before start_time …`. -/
  | referenceBeforeStart (referenceTime startTime : UtcMicros)
  /-- `reference_time … is after end_time …`. -/
  | referenceAfterEnd (referenceTime endTime : UtcMicros)
  /-- `reference_time … is earlier than … ran (…)`. -/
  | referenceBeforeAction (referenceTime : UtcMicros) (actionId : String) (ran : UtcMicros)
  /-- `no sysmon-0001.jsonl record has RecordId …; reference_source_event_id is not traceable`. -/
  | referenceNotTraceable (recordId : String)
  /-- `reference_source_event_id … matches … sysmon-0001.jsonl records; expected exactly one`. -/
  | referenceAmbiguous (recordId : String) (count : Nat)
  /-- `RecordId … is EventId …, expected 1`. -/
  | referenceEventId (recordId : String) (found : PyValue)
  /-- `RecordId … has an unusable TimeCreated: …`. -/
  | referenceTimeCreated (recordId : String) (found : PyValue)
  /-- `reference_time … does not match the TimeCreated of RecordId … (…)`. -/
  | referenceTimeMismatch (referenceTime : UtcMicros) (recordId : String) (observed : PyDatetime)
  /-- `… ran at …, before start_time …`. -/
  | ranBeforeStart (actionId : String) (ran startTime : UtcMicros)
  /-- `… ran at …, after end_time …`. -/
  | ranAfterEnd (actionId : String) (ran endTime : UtcMicros)
  /-- `scenario definition is not usable (…): …`. -/
  | scenarioNotUsable (error : ScenarioError)
  /-- `a finished run must record end_time`. -/
  | noEndTime
  /-- `end_time … is before … + evaluation_horizon_sec (…s), which ends at …`. -/
  | endBeforeHorizon (endTime : UtcMicros) (anchorName : String) (horizonSec : Int) (due : UtcMicros)
  /-- `run_metadata.json scenario_id is …, but the scenario definition is …`. -/
  | scenarioId (found expected : String)
  /-- `execution_record records action_id(s) more than once: …`. -/
  | duplicateActions (actionIds : List String)
  /-- `execution_record has action_id(s) the scenario does not define: …`. -/
  | unknownActions (actionIds : List String)
  /-- `execution_record is missing action_id(s): …`. -/
  | absentActions (actionIds : List String)
  /-- `execution_record action_type does not match the scenario: … is …, scenario says …`. -/
  | actionType (actionId found expected : String)

/-- What the report lists as verified. -/
inductive S0Check where
  /-- `no rehearsal marker or _rehearsal path component`. -/
  | noRehearsal
  /-- `REHEARSAL.txt present and artifact root is isolated under _rehearsal`. -/
  | rehearsalIsolated
  /-- `all five required artifacts exist`. -/
  | artifactsExist
  /-- `run_metadata.json satisfies RunMetadata`. -/
  | runMetadata
  /-- `execution_record.csv header and … row(s) satisfy ExecutionRecordRow`. -/
  | executionRecords (rows : Nat)
  /-- `every execution_record row carries run_id …`. -/
  | recordRunIds (runId : String)
  /-- `Sysmon config file and applied config agree (…)`. -/
  | configHash (value : String)
  /-- `sysmon-0001.jsonl is recorded as derived from sysmon-0001.evtx`. -/
  | derivation
  /-- `… manifest item hash(es) match the local artifacts`. -/
  | itemHashes (verified : Nat)
  /-- `sysmon-0001.jsonl holds … record(s), each a JSON object`. -/
  | sysmonRecords (count : Nat)
  /-- `normal run carries no Ground Truth reference`. -/
  | noReference
  /-- `reference_time is the Sysmon EID 1 of RecordId …, inside the run and not before … ran`. -/
  | reference (recordId actionId : String)
  /-- `every execution_record timestamp lies inside the run window`. -/
  | times
  /-- `end_time recorded; horizon length not checked (rehearsal skips the wait)`. -/
  | endTimeRecorded
  /-- `the run stayed open for the …s horizon after …`. -/
  | horizon (horizonSec : Int) (anchorName : String)
  /-- `execution_record matches the scenario actions for …`, with the external
  actions a rehearsal skipped. -/
  | actions (runType : RunType) (skipped : List String)

abbrev S0Finding := Finding S0Failure S0Check

/-- `S0ValidationReport`. -/
structure S0ValidationReport where
  runId : String
  rehearsal : Bool
  runType : Option RunType
  errors : List S0Failure
  checks : List S0Check

/-- `report.ok`. -/
def S0ValidationReport.ok (report : S0ValidationReport) : Bool := report.errors.isEmpty

/-- The report of the findings, in the order they were added. -/
def reportOf (runId : String) (rehearsal : Bool) (runType : Option RunType)
    (findings : List S0Finding) : S0ValidationReport where
  runId
  rehearsal
  runType
  errors := findings.filterMap Finding.failure?
  checks := findings.filterMap Finding.check?

/-! ## The artifacts -/

/-- What the validator finds under an artifact root for one run: the files at
the five required paths, whether `REHEARSAL.txt` is there, and whether the
resolved root has a `_rehearsal` component. -/
structure ArtifactRoot (B : Type) where
  evtx : File B
  jsonl : File B
  manifest : File B
  executionRecord : File B
  runMetadata : File B
  hasMarker : Bool := false
  inRehearsalDir : Bool := false

variable {B : Type} (h : Host B)

/-- `telemetry_dir / name`, of an allowed file name. -/
def ArtifactRoot.telemetry (root : ArtifactRoot B) (name : String) : File B :=
  if name = evtxFilename then root.evtx
  else if name = jsonlFilename then root.jsonl
  else .absent

/-- The required paths without a file, in the order of `required_files`. -/
def ArtifactRoot.absentFiles (root : ArtifactRoot B) : List String :=
  ([(evtxFilename, root.evtx), (jsonlFilename, root.jsonl), ("manifest.json", root.manifest),
    ("execution_record.csv", root.executionRecord),
    ("run_metadata.json", root.runMetadata)].filter fun file => !file.2.isFile).map Prod.fst

/-! ## Identifiers, digests and paths -/

/-- `_RUN_ID_PATTERN.fullmatch`. -/
def matchesRunIdPattern (cs : List Char) : Bool :=
  cs.take 4 = ['R', 'U', 'N', '-'] && ((cs.drop 4).take 8).length = 8 &&
    ((cs.drop 4).take 8).all Char.isDigit && (cs.drop 12).take 1 = ['-'] &&
    (cs.drop 13).length = 3 && (cs.drop 13).all Char.isDigit

/-- `".." in value`. -/
def containsDots : List Char → Bool
  | '.' :: '.' :: _ => true
  | _ :: cs => containsDots cs
  | [] => false

/-- `check_run_id`, of a string. -/
def checkRunId (runId : String) : Option RunIdProblem :=
  if isPadded runId then some .padded
  else if runId.toList.contains '/' || runId.toList.contains '\\' then some .separator
  else if runId = "." || runId = ".." || containsDots runId.toList then some .relativeSegment
  else if !matchesRunIdPattern runId.toList then some .pattern
  else if !isIsoDate ((runId.toList.drop 4).take 8) then some .date
  else none

/-- `value.lower()`, of the characters a digest can have. -/
def lower (s : String) : String := String.ofList (s.toList.map Char.toLower)

/-- `_HEX_DIGITS`. -/
def hexDigits : List Char := "0123456789abcdef".toList

/-- `_is_sha256_hex`, of a string. No character but a hex digit becomes one in
lower case. -/
def isSha256Hex (s : String) : Bool :=
  s.toList.length = 64 && (lower s).toList.all hexDigits.contains

/-- The digest, of a value that `_is_sha256_hex` accepts. -/
def sha256Hex? (value : PyValue) : Option String :=
  value.str?.filter isSha256Hex

/-- `raw_path.replace("\\", "/").split("/")`. -/
def pathSegments (path : String) : List (List Char) :=
  (path.toList.map fun c => if c = '\\' then '/' else c).splitOn '/'

/-- `manifest_artifact_name`. -/
def manifestArtifactName (rawPath : PyValue) (runId : String) : Except ManifestPathError String := do
  match rawPath with
  | .str path =>
    raiseIf (isBlank path) .notNonEmptyStr
    let segments := pathSegments path
    raiseIf (['.', '.'] ∈ segments ∨ ['.'] ∈ segments) (.relativeSegments path)
    let name := String.ofList (segments.getLastD [])
    raiseIf (name = "") (.endsWithSeparator path)
    raiseIf (name ∉ allowedTelemetryFilenames) (.unexpectedName name)
    let expectedTail := ["raw".toList, runId.toList, "telemetry".toList, name.toList]
    raiseIf (segments.drop (segments.length - 4) ≠ expectedTail) (.unexpectedTail path runId name)
    return name
  | _ => .error .notNonEmptyStr

/-! ## The Ground Truth files -/

/-- `_check_rehearsal_isolation`. -/
def checkRehearsalIsolation (root : ArtifactRoot B) (rehearsal : Bool) : List S0Finding :=
  if !rehearsal then
    if root.hasMarker || root.inRehearsalDir then
      [.fail (.rehearsalArtifacts root.hasMarker root.inRehearsalDir)]
    else [.passed .noRehearsal]
  else
    (if !root.hasMarker then [.fail .rehearsalMarkerMissing] else []) ++
    (if !root.inRehearsalDir then [.fail .rehearsalNotIsolated] else []) ++
    (if root.hasMarker && root.inRehearsalDir then [.passed .rehearsalIsolated] else [])

/-- `_read_run_metadata`. -/
def readRunMetadata (file : File B) : Option RunMetadata × List S0Finding :=
  match file.loadJson h with
  | .error error => (none, [.fail (.metadataNotJson error)])
  | .ok payload =>
    match validateRunMetadata h payload with
    | none => (none, [.fail .metadataInvalid])
    | some metadata => (some metadata, [.passed .runMetadata])

/-- One data row of `_read_execution_records`. -/
def readExecutionRow (lineNo : Nat) : List String → Option ExecutionRecordRow × List S0Finding
  | [runId, actionId, timestamp, actionType, description] =>
    match validateExecutionRecord h runId actionId timestamp actionType description with
    | none => (none, [.fail (.csvRowInvalid lineNo)])
    | some row => (some row, [])
  | row => (none, [.fail (.csvFieldCount lineNo row.length)])

/-- `_read_execution_records`. -/
def readExecutionRecords (file : File B) : Option (List ExecutionRecordRow) × List S0Finding :=
  match file.readBytes with
  | .error error => (none, [.fail (.csvNotReadable error)])
  | .ok raw =>
    if h.startsWithBom raw then (none, [.fail .csvBom])
    else
      match h.decodeUtf8 raw with
      | none => (none, [.fail .csvNotUtf8])
      | some text =>
        match h.csvReader text with
        | none => (none, [.fail .csvNotParsable])
        | some [] => (none, [.fail .csvEmpty])
        | some (header :: rows) =>
          if header ≠ csvHeader then (none, [.fail (.csvHeader header)])
          else
            let dataRows := rows.filter fun row => !row.isEmpty
            if dataRows = [] then (none, [.fail .csvNoRows])
            else
              let read := dataRows.zipIdx.map fun row => readExecutionRow h (row.2 + 2) row.1
              let records := read.filterMap Prod.fst
              let failures := read.flatMap Prod.snd
              if records = [] then (none, failures)
              else (some records, failures ++ [.passed (.executionRecords records.length)])

/-! ## The manifest -/

/-- `_check_manifest_sysmon`. -/
def checkManifestSysmon (value : PyValue) : List S0Finding :=
  match value.dict? with
  | some sysmon =>
    let missing := sysmon.missing manifestSysmonFields
    if missing ≠ [] then [.fail (.sysmonMissing missing)]
    else
      match sha256Hex? (sysmon.get "config_sha256"), (sysmon.get "config_hash").str? with
      | none, _ => [.fail (.configSha256 (sysmon.get "config_sha256"))]
      | some _, none => [.fail .configHashEmpty]
      | some configSha256, some applied =>
        if isBlank applied then [.fail .configHashEmpty]
        else
          let stripped := strip applied
          let algorithm := stripped.takeWhile (· ≠ '=')
          let value :=
            String.ofList (if '=' ∈ stripped then stripped.drop (algorithm.length + 1) else stripped)
          let named := String.ofList (strip (String.ofList algorithm))
          if '=' ∈ stripped ∧ h.upper named ≠ "SHA256" then
            [.fail (.configHashAlgorithm named)]
          else if !isSha256Hex value then [.fail (.configHashInvalid applied)]
          else if lower value ≠ lower configSha256 then
            [.fail (.configHashesDiffer (lower configSha256) (lower value))]
          else [.passed (.configHash (lower value))]
  | none => [.fail .sysmonNotObject]

/-- What the loop of `_check_manifest_items` keeps: the item of each artifact
name, the raw log ids it has seen and the number of hashes that matched. -/
structure ItemsState where
  resolved : List (String × PyDict) := []
  seenRawLogIds : List String := []
  verified : Nat := 0

/-- The part of the loop that recomputes a digest, once the item is resolved. -/
def checkItemSha256 (root : ArtifactRoot B) (s : ItemsState) (index : Nat) (item : PyDict)
    (name : String) : ItemsState × List S0Finding :=
  match sha256Hex? (item.get "sha256") with
  | none => (s, [.fail (.itemSha256 index (item.get "sha256"))])
  | some recorded =>
    match root.telemetry name with
    | .absent => (s, [.fail (.itemFileMissing index name)])
    | .unreadable => (s, [.fail (.itemFileNotReadable index name)])
    | .content raw =>
      if h.sha256 raw ≠ lower recorded then
        (s, [.fail (.itemSha256Mismatch index name (lower recorded) (h.sha256 raw))])
      else ({ s with verified := s.verified + 1 }, [])

/-- The part of the loop that resolves an item, once its raw log id is new. -/
def resolveItem (root : ArtifactRoot B) (runId : String) (s : ItemsState) (index : Nat)
    (item : PyDict) : ItemsState × List S0Finding :=
  match manifestArtifactName (item.get "path") runId with
  | .error error => (s, [.fail (.itemPath index error)])
  | .ok name =>
    if name ∈ s.resolved.map Prod.fst then (s, [.fail (.itemRepeatsArtifact index name)])
    else checkItemSha256 h root { s with resolved := s.resolved ++ [(name, item)] } index item name

/-- One turn of the loop of `_check_manifest_items`. -/
def checkItem (root : ArtifactRoot B) (runId : String) (s : ItemsState) (index : Nat)
    (value : PyValue) : ItemsState × List S0Finding :=
  match value.dict? with
  | some item =>
    let missing := item.missing manifestItemFields
    if missing ≠ [] then (s, [.fail (.itemMissing index missing)])
    else if (item.get "layer").str? ≠ some "raw_telemetry" then
      (s, [.fail (.itemLayer index (item.get "layer"))])
    else if (item.get "source").str? ≠ some "sysmon" then
      (s, [.fail (.itemSource index (item.get "source"))])
    else
      match (item.get "raw_log_id").str? with
      | none => (s, [.fail (.itemRawLogId index (item.get "raw_log_id"))])
      | some rawLogId =>
        if isBlank rawLogId then (s, [.fail (.itemRawLogId index (item.get "raw_log_id"))])
        else if rawLogId ∈ s.seenRawLogIds then (s, [.fail (.itemRepeatsRawLogId index rawLogId)])
        else
          resolveItem h root runId { s with seenRawLogIds := rawLogId :: s.seenRawLogIds } index item
  | none => (s, [.fail (.itemNotObject index)])

/-- `_check_manifest_derivation`: only the JSONL is derived, and from the EVTX. -/
def checkManifestDerivation (resolved : List (String × PyDict)) (runId : String) :
    List S0Finding :=
  (match resolved.lookup evtxFilename with
    | none => []
    | some evtxItem =>
      match evtxItem.lookup "derived_from" with
      | none => []
      | some found => [.fail (.evtxDerived found)]) ++
  (match resolved.lookup jsonlFilename with
    | none => []
    | some jsonlItem =>
      match jsonlItem.lookup "derived_from" with
      | none => [.fail .jsonlNotDerived]
      | some derivedFrom =>
        match manifestArtifactName derivedFrom runId with
        | .error error => [.fail (.derivedFromPath error)]
        | .ok parent =>
          if parent ≠ evtxFilename then [.fail (.derivedFromName parent)]
          else if parent ∉ resolved.map Prod.fst then [.fail (.derivedFromNotItem parent)]
          else [.passed .derivation])

/-- What `_check_manifest_items` keeps of the items, and what its loop reports. -/
def scanItems (root : ArtifactRoot B) (runId : String) (items : List PyValue) :
    ItemsState × List S0Finding :=
  scan (checkItem h root runId) {} 0 items

/-- `_check_manifest_items`. -/
def checkManifestItems (root : ArtifactRoot B) (runId : String) : PyValue → List S0Finding
  | .list (item :: items) =>
    let scanned := scanItems h root runId (item :: items)
    let resolved := scanned.1.resolved
    let absent := allowedTelemetryFilenames.filter fun name => !(resolved.map Prod.fst).contains name
    scanned.2 ++
    (if absent ≠ [] then [.fail (.artifactsNotDescribed absent)] else []) ++
    (if (item :: items).length ≠ 2 then [.fail (.itemCount (item :: items).length)] else []) ++
    checkManifestDerivation resolved runId ++
    (if scanned.1.verified ≠ 0 then [.passed (.itemHashes scanned.1.verified)] else [])
  | _ => [.fail .itemsNotArray]

/-- `_check_manifest`. -/
def checkManifest (root : ArtifactRoot B) (runId : String) : List S0Finding :=
  match root.manifest.loadJson h with
  | .error error => [.fail (.manifestNotJson error)]
  | .ok value =>
    match value.dict? with
    | none => [.fail .manifestNotObject]
    | some manifest =>
      let missing := manifest.missing manifestTopLevelFields
      if missing ≠ [] then [.fail (.manifestMissing missing)]
      else
        (if (manifest.get "run_id").str? ≠ some runId then
          [.fail (.manifestRunId (manifest.get "run_id") runId)] else []) ++
        checkManifestSysmon h (manifest.get "sysmon") ++
        checkManifestItems h root runId (manifest.get "items")

/-- `_read_sysmon_records`. -/
def readSysmonRecords (file : File B) : Option (List SysmonJsonlRecord) × List S0Finding :=
  match readSysmonJsonl h file with
  | .error error => (none, [.fail (.jsonlNotReadable error)])
  | .ok [] => (none, [.fail .jsonlNoRecords])
  | .ok records => (some records, [.passed (.sysmonRecords records.length)])

/-! ## The reference, the times and the actions -/

/-- `_truncate_to_milliseconds`, in the zone of the value. -/
def truncateToMilliseconds (instant utcoffset : Int) : Int :=
  (instant + utcoffset) / 1000 * 1000 - utcoffset

/-- `_parse_jsonl_timestamp`. -/
def parseJsonlTimestamp (value : PyValue) : Option (Int × Int) := do
  let text ← value.str?
  let text := if text.toList.getLast? = some 'Z' then
    String.ofList (text.toList.dropLast ++ "+00:00".toList) else text
  match ← h.fromIsoformat text with
  | .aware instant utcoffset => some (instant, utcoffset)
  | .naive => none

/-- `value == 1`. -/
def isProcessCreate : PyValue → Bool
  | .int 1 | .bool true | .float "1.0" => true
  | _ => false

/-- The part of `_check_reference` that traces the Sysmon record. -/
def checkAnchor (sysmonRecords : Option (List SysmonJsonlRecord)) (referenceTime : UtcMicros)
    (actionId sourceEventId : String) (consistent : Bool) : List S0Finding :=
  match sysmonRecords with
  | none => []
  | some records =>
    match records.filter fun record => h.str (record.data.get "RecordId") = sourceEventId with
    | [] => [.fail (.referenceNotTraceable sourceEventId)]
    | [anchor] =>
      if !isProcessCreate (anchor.data.get "EventId") then
        [.fail (.referenceEventId sourceEventId (anchor.data.get "EventId"))]
      else
        match parseJsonlTimestamp h (anchor.data.get "TimeCreated") with
        | none => [.fail (.referenceTimeCreated sourceEventId (anchor.data.get "TimeCreated"))]
        | some (instant, utcoffset) =>
          if truncateToMilliseconds instant utcoffset ≠ truncateToMilliseconds referenceTime 0 then
            [.fail (.referenceTimeMismatch referenceTime sourceEventId (.aware instant utcoffset))]
          else if consistent then [.passed (.reference sourceEventId actionId)]
          else []
    | anchors => [.fail (.referenceAmbiguous sourceEventId anchors.length)]

/-- The checks of `_check_reference` that a reference can be inconsistent with. -/
def inconsistencies (metadata : RunMetadata) (records : List ExecutionRecordRow)
    (scenario : Option ScenarioRun) (referenceTime : UtcMicros) (actionId : String) :
    List S0Failure :=
  let rows := records.filter fun row => row.actionId = actionId
  (match scenario with
    | none => []
    | some s =>
      if some actionId ≠ s.referenceActionId then [.referenceAction actionId s.referenceActionId]
      else []) ++
  (if rows.length ≠ 1 then [.referenceRows actionId rows.length (records.map (·.actionId)).dedup]
    else []) ++
  (if referenceTime < metadata.startTime then
    [.referenceBeforeStart referenceTime metadata.startTime] else []) ++
  (match metadata.endTime with
    | none => []
    | some endTime =>
      if endTime < referenceTime then [.referenceAfterEnd referenceTime endTime] else []) ++
  (match rows with
    | [row] =>
      if referenceTime < row.timestamp then
        [.referenceBeforeAction referenceTime actionId row.timestamp] else []
    | _ => [])

/-- `_check_reference`. -/
def checkReference (metadata : RunMetadata) (sysmonRecords : Option (List SysmonJsonlRecord))
    (records : List ExecutionRecordRow) (scenario : Option ScenarioRun) : List S0Finding :=
  let fields := [("reference_time", metadata.referenceTime.isSome),
    ("reference_action_id", metadata.referenceActionId.isSome),
    ("reference_source_event_id", metadata.referenceSourceEventId.isSome)]
  match metadata.runType with
  | .normal =>
    let unexpected := (fields.filter (·.2)).map Prod.fst
    if unexpected ≠ [] then [.fail (.normalReference unexpected)] else [.passed .noReference]
  | .attack =>
    match metadata.referenceTime, metadata.referenceActionId, metadata.referenceSourceEventId with
    | some referenceTime, some actionId, some sourceEventId =>
      let found := inconsistencies metadata records scenario referenceTime actionId
      found.map .fail ++
      checkAnchor h sysmonRecords referenceTime actionId sourceEventId found.isEmpty
    | _, _, _ => [.fail (.attackReference ((fields.filter fun f => !f.2).map Prod.fst))]

/-- `_check_times`. -/
def checkTimes (metadata : RunMetadata) (records : List ExecutionRecordRow) : List S0Finding :=
  let outside := records.flatMap fun record =>
    if record.timestamp < metadata.startTime then
      [S0Failure.ranBeforeStart record.actionId record.timestamp metadata.startTime]
    else
      match metadata.endTime with
      | none => []
      | some endTime =>
        if endTime < record.timestamp then
          [.ranAfterEnd record.actionId record.timestamp endTime] else []
  outside.map .fail ++ (if outside.isEmpty then [.passed .times] else [])

/-- `timedelta(seconds=n)`, in microseconds. -/
def timedeltaSeconds (n : Int) : Except PyError Int := do
  raiseIf (999999999 < n / 86400)
    (.overflowError ("days=" ++ toString (n / 86400) ++ "; must have magnitude <= 999999999"))
  return n * 1000000

/-- `_check_observation_window`; adding the horizon can raise. -/
def checkObservationWindow (metadata : RunMetadata) (scenario : ScenarioRun) (rehearsal : Bool) :
    Except PyError (List S0Finding) := do
  match metadata.endTime with
  | none => return [.fail .noEndTime]
  | some endTime =>
    if rehearsal then return [.passed .endTimeRecorded]
    let (anchorName, anchor) :=
      match metadata.runType with
      | .attack => ("reference_time", metadata.referenceTime)
      | .normal => ("start_time", some metadata.startTime)
    match anchor with
    | none => return []
    | some anchor =>
      let due ← addTimedelta anchor (← timedeltaSeconds scenario.evaluationHorizonSec)
      if endTime < due then
        return [.fail (.endBeforeHorizon endTime anchorName scenario.evaluationHorizonSec due)]
      return [.passed (.horizon scenario.evaluationHorizonSec anchorName)]

/-- `_check_actions`. -/
def checkActions (metadata : RunMetadata) (records : List ExecutionRecordRow)
    (scenario : ScenarioRun) (rehearsal : Bool) : List S0Finding :=
  let actionIds := (records.map (·.actionId)).dedup
  let duplicates := actionIds.filter fun id => 1 < (records.map (·.actionId)).count id
  let unknown := actionIds.filter fun id => id ∉ scenario.actionIds
  let required := if rehearsal then
    scenario.actionIds.filter fun id => id ∉ scenario.externalActionIds else scenario.actionIds
  let absent := required.filter fun id => id ∉ actionIds
  let mismatched := records.flatMap fun record =>
    match scenario.actions.find? (·.actionId = record.actionId) with
    | none => []
    | some action =>
      if record.actionType ≠ action.actionType then
        [S0Failure.actionType record.actionId record.actionType action.actionType] else []
  let skipped := scenario.actionIds.filter fun id => id ∉ actionIds
  (if metadata.scenarioId ≠ scenario.scenarioId then
    [.fail (.scenarioId metadata.scenarioId scenario.scenarioId)] else []) ++
  (if duplicates ≠ [] then [.fail (.duplicateActions duplicates)] else []) ++
  (if unknown ≠ [] then [.fail (.unknownActions unknown)] else []) ++
  (if absent ≠ [] then [.fail (.absentActions absent)] else []) ++
  mismatched.map .fail ++
  (if duplicates = [] ∧ unknown = [] ∧ absent = [] ∧ mismatched.isEmpty then
    [.passed (.actions metadata.runType skipped)] else [])

/-! ## The run -/

/-- The checks of `validate_s0_run` that compare run ids. -/
def checkRunIds (runId : String) (metadata : RunMetadata) (records : List ExecutionRecordRow) :
    List S0Finding :=
  let mismatched := ((records.map (·.runId)).filter (· ≠ metadata.runId)).dedup
  (if metadata.runId ≠ runId then [.fail (.metadataRunId metadata.runId runId)] else []) ++
  (if mismatched ≠ [] then [.fail (.recordRunIds metadata.runId mismatched)]
    else [.passed (.recordRunIds metadata.runId)])

/-- The part of `validate_s0_run` after both Ground Truth files were read. -/
def checkRun (root : ArtifactRoot B) (runId : String) (rehearsal : Bool) (scenario : File B)
    (metadata : RunMetadata) (records : List ExecutionRecordRow) :
    Except PyError (List S0Finding) := do
  let sysmon := readSysmonRecords h root.jsonl
  let loaded := loadScenarioRun h scenario metadata.runType
  let findings := checkRunIds runId metadata records ++ checkManifest h root runId ++ sysmon.2 ++
    checkReference h metadata sysmon.1 records loaded.toOption ++ checkTimes metadata records
  match loaded with
  | .error error => return findings ++ [.fail (.scenarioNotUsable error)]
  | .ok scenarioRun =>
    let window ← checkObservationWindow metadata scenarioRun rehearsal
    return findings ++ window ++ checkActions metadata records scenarioRun rehearsal

/-- `validate_s0_run`. -/
def validateS0Run (root : ArtifactRoot B) (runId : String) (rehearsal : Bool) (scenario : File B) :
    Except PyError S0ValidationReport := do
  match checkRunId runId with
  | some problem => return reportOf runId rehearsal none [.fail (.runId problem)]
  | none =>
    let isolation := checkRehearsalIsolation root rehearsal
    if root.absentFiles ≠ [] then
      return reportOf runId rehearsal none
        (isolation ++ root.absentFiles.map fun name => .fail (.missingArtifact name))
    let metadata := readRunMetadata h root.runMetadata
    let records := readExecutionRecords h root.executionRecord
    let read := isolation ++ .passed .artifactsExist :: (metadata.2 ++ records.2)
    match metadata.1, records.1 with
    | some metadata, some records =>
      let checked ← checkRun h root runId rehearsal scenario metadata records
      return reportOf runId rehearsal (some metadata.runType) (read ++ checked)
    | _, _ => return reportOf runId rehearsal none read

end IncidentAwareness.Collection
