import IncidentAwareness.Preservation.Bundle

/-!
# Preserving a run

`preserve_s0_run`: the checks of its inputs and the plan of the copies (`checkInputs`),
the staging directory (`assemble`), and its move to the place of the run. What is in the
staging directory is the call's own, so it is a tree of its own while it is assembled; it
stands below the formal root where a call that raises leaves it. What the operating system
refuses, a source that changes or a copy that is damaged, and what `rmtree` leaves, is a
`Fault`. An asynchronous exception strikes a call at one of its operations.
-/

namespace IncidentAwareness.Preservation

open IncidentAwareness.Common IncidentAwareness.Lib
open IncidentAwareness.Stream (isRunId)

/-- `PreservationInputs`. -/
structure PreservationInputs where
  runId : String
  artifactRoot : PyStr
  formalRoot : PyStr
  snapshot : PyStr
  scenarioJson : PyStr
  sysmonConfig : PyStr
  runCommon : PyStr
  runScript : PyStr
  executionLog : PyStr
  validatorOutput : PyStr
  firewallRemoval : PyStr
  approvalRecord : PyStr

/-- `PreservationResult`. -/
structure PreservationResult where
  runDir : PyStr
  fileCount : Nat
  deriving DecidableEq

/-- `path / name`. -/
def child (path : PyStr) (name : PyStr) : PyStr := path ++ .char '/' :: name

/-- `path.is_relative_to(root)`, or `path == root`. -/
def isRelativeTo (path root : PyStr) : Bool :=
  path = root || (Tree.below (.char '/') root path).isSome

/-- `_reject_rehearsal_path`. -/
def rejectRehearsalPath (path : PyStr) (label : String) : Except PreservationError Unit :=
  raiseIf (py "_rehearsal" ∈ pathParts path) (.rehearsalPath label)

/-- `value.strip()` is empty. -/
def isBlankPy (s : PyStr) : Bool :=
  s.all fun
    | .char c => isSpace c
    | .surrogate _ => false

section Plan

variable (lib : StandardLibrary)

/-- `_read_run_id_field`: the `run_id` of a JSON object, if it has a string there. -/
def readRunIdField (t : FileTree) (path : PyStr) (label : String) :
    Except PreservationError (Option String) := do
  let content ← requireRegularFile t path label false
  match lib.loads content with
  | none => .error (.unreadableJson label)
  | some (.obj members) => return (member members "run_id").bind jsonString?
  | some _ => .error (.notObject label)

/-- The destination of a file in the tree of a layer. -/
def layerPath (layer runId : String) (relative : PyStr) : PyStr :=
  child (child (py layer) (py runId)) relative

/-- The directory of a run in a layer of the artifact root. -/
def sourceDir (inputs : PreservationInputs) (layer : String) : PyStr :=
  child (child inputs.artifactRoot (py layer)) (py inputs.runId)

/-- The copies of one layer of `_plan_copies`. -/
def planLayer (t : FileTree) (inputs : PreservationInputs) (layer : String)
    (required : List String) : Except PreservationError (List (PyStr × PyStr)) := do
  let files ← collectTree t (sourceDir inputs layer) (layer ++ "/" ++ inputs.runId)
  let missing := (required.map py).filter (· ∉ files)
  raiseIf (missing ≠ []) (.missingRequired (layer ++ "/" ++ inputs.runId) missing)
  return files.map fun relative =>
    (layerPath layer inputs.runId relative, child (sourceDir inputs layer) relative)

/-- The identity check of `_plan_copies`. -/
def checkRecordedRunId (t : FileTree) (inputs : PreservationInputs) (layer name : String) :
    Except PreservationError Unit := do
  let recorded ← readRunIdField lib t (child (sourceDir inputs layer) (py name)) name
  raiseIf (recorded ≠ some inputs.runId) (.otherRunId name)

/-- One of the `single_files`: its destination, its source, its label, and whether it must not
be empty. -/
structure SingleFile where
  destination : PyStr
  source : PyStr
  label : String
  nonEmpty : Bool

/-- The `single_files` of `_plan_copies`. -/
def singleFiles (inputs : PreservationInputs) : List SingleFile :=
  [⟨py "support/scenario.json", inputs.scenarioJson, "scenario.json", false⟩,
    ⟨child (py "support") (baseName inputs.sysmonConfig), inputs.sysmonConfig, "Sysmon config",
      false⟩,
    ⟨py "support/run-common.ps1", inputs.runCommon, "run-common.ps1", false⟩,
    ⟨py "support/run.ps1", inputs.runScript, "run.ps1", false⟩,
    ⟨py "verification/execution-log.txt", inputs.executionLog, "execution log", true⟩,
    ⟨py "verification/validator-output.txt", inputs.validatorOutput, "validator output", true⟩,
    ⟨py "verification/firewall-removal.txt", inputs.firewallRemoval, "firewall removal evidence",
      true⟩,
    ⟨py "verification/approval-record.txt", inputs.approvalRecord, "approval record", true⟩]

/-- The loop of `_plan_copies` over the `single_files`. -/
def planSingleFiles (t : FileTree) (plan : List (PyStr × PyStr)) :
    List SingleFile → Except PreservationError (List (PyStr × PyStr))
  | [] => .ok plan
  | file :: files => do
    let _ ← requireRegularFile t file.source file.label file.nonEmpty
    rejectRehearsalPath file.source file.label
    raiseIf (file.destination ∈ plan.map Prod.fst) (.sameDestination file.destination)
    planSingleFiles t (plan ++ [(file.destination, file.source)]) files

/-- `_plan_copies`: every destination with its source. -/
def planCopies (t : FileTree) (inputs : PreservationInputs) :
    Except PreservationError (List (PyStr × PyStr)) := do
  requireRealDirectory t inputs.artifactRoot "artifact root"
  rejectRehearsalPath inputs.artifactRoot "artifact root"
  raiseIf (t.isThere (.char '/') (child inputs.artifactRoot rehearsalMarker))
    (.rehearsalMarker "artifact root")
  requireRealDirectory t (child inputs.artifactRoot (py "raw")) "raw directory"
  requireRealDirectory t (child inputs.artifactRoot (py "ground_truth")) "ground_truth directory"
  let raw ← planLayer t inputs "raw" requiredRawFiles
  let groundTruth ← planLayer t inputs "ground_truth" requiredGroundTruthFiles
  checkRecordedRunId lib t inputs "raw" "manifest.json"
  checkRecordedRunId lib t inputs "ground_truth" "run_metadata.json"
  planSingleFiles t (raw ++ groundTruth) (singleFiles inputs)

/-- The directory a run is preserved in. -/
def finalDir (inputs : PreservationInputs) : PyStr := child inputs.formalRoot (py inputs.runId)

/-- The check of the formal root, which is made if it is not there. -/
def checkFormalRoot (t : FileTree) (inputs : PreservationInputs) : Except PreservationError Unit :=
  if t.isThere (.char '/') inputs.formalRoot then
    requireRealDirectory t inputs.formalRoot "formal root"
  else .ok ()

/-- The checks of `preserve_s0_run` before it writes anything, and its plan. -/
def checkInputs (t : FileTree) (inputs : PreservationInputs) :
    Except PreservationError (List (PyStr × PyStr)) := do
  raiseIf (isRunId inputs.runId = false) .runIdPattern
  raiseIf (isBlankPy inputs.snapshot) .blankSnapshot
  rejectRehearsalPath inputs.formalRoot "formal root"
  checkFormalRoot t inputs
  raiseIf (isRelativeTo inputs.artifactRoot inputs.formalRoot ||
    isRelativeTo inputs.formalRoot inputs.artifactRoot) .overlappingRoots
  raiseIf (t.isThere (.char '/') (finalDir inputs)) .alreadyPreserved
  planCopies lib t inputs

end Plan

/-! ## Staging -/

/-- Where the operating system can refuse, or an exception can strike. -/
inductive Site where
  | formalRoot
  | staging
  | copy (destination : PyStr)
  | record
  | hashing
  | sums
  | rename
  deriving DecidableEq

/-- What `_copy_verified` reads: the source before the copy, the copy, and the source after it. -/
structure CopyReads where
  before : List UInt8
  copied : List UInt8
  after : List UInt8
  deriving DecidableEq

/-- What a call meets: what raises at which place, what is read of a copy that does not go as it
should, by its destination, what `rmtree` leaves of the staging directory, if it leaves it, and
the state of the generator that names it. -/
structure Fault where
  raises : Site → Option PreservationError := fun _ => none
  copying : PyStr → Option CopyReads := fun _ => none
  leaves : Option FileTree := none
  draw : Nat := 0

/-- Nothing goes wrong. -/
def noFault : Fault := {}

/-- A place where something can go wrong. -/
def Fault.check (fault : Fault) (site : Site) : Except PreservationError Unit :=
  match fault.raises site with
  | none => .ok ()
  | some e => .error e

/-- `write_text(text, encoding="utf-8", newline="\n")`, as the bytes of the file. -/
def encodeUtf8 (text : PyStr) : Except PreservationError (List UInt8) :=
  match unicode? text with
  | none => .error .unicodeEncodeError
  | some cs => .ok (utf8Bytes cs)

/-- A string as it is written to JSON in UTF-8. -/
def encodable (text : PyStr) : Except PreservationError String :=
  match unicode? text with
  | none => .error .unicodeEncodeError
  | some cs => .ok (String.ofList cs)

/-- What is read of the copy of a file with the given content. -/
def Fault.copyReads (fault : Fault) (destination : PyStr) (content : List UInt8) : CopyReads :=
  (fault.copying destination).getD ⟨content, content, content⟩

/-- `_copy_verified`: the file as it is in the staging directory. -/
def copyVerified (lib : StandardLibrary) (fault : Fault) (t : FileTree)
    (destination source : PyStr) : Except PreservationError (PyStr × Entry) := do
  fault.check (.copy destination)
  let content ← requireRegularFile t source "source" false
  let reads := fault.copyReads destination content
  let before := sha256Of lib reads.before
  let copied := sha256Of lib reads.copied
  let after := sha256Of lib reads.after
  raiseIf (after ≠ before) (.sourceChanged source)
  raiseIf (copied ≠ before) (.copyDiffers source)
  return (destination, .file reads.copied)

/-- The record of a preservation, with its sorted files. -/
def recordMembers (runId preservedAt snapshot : String) (files : List String) :
    List (String × Json) :=
  [("record_version", .str recordVersion),
    ("run_id", .str runId),
    ("preserved_at", .str preservedAt),
    ("snapshot", .str snapshot),
    ("tool", .obj [("name", .str "preserve_s0_run"), ("version", .str "0.1.0")]),
    ("file_count", .nat files.length),
    ("hash_verification", .obj
      [("method", .str "sha256"), ("compared_files", .nat files.length),
        ("all_match", .bool true)]),
    ("files", .arr (files.map .str)),
    ("evidence", .obj (evidencePaths.map (fun e => (e.1, .str e.2)) ++
      [("validator_output_interpreted", .bool false)])),
    ("sha256sums", .obj
      [("path", .str "SHA256SUMS.csv"),
        ("format", .str "UTF-8 CSV without BOM, LF, header path,sha256, rows sorted by path"),
        ("excludes_itself", .bool true), ("includes_record", .bool true)])]

section Assemble

variable (lib : StandardLibrary) (fault : Fault)

/-- The text of the record. -/
def recordText (inputs : PreservationInputs) (preservedAt : String) (paths : List PyStr) :
    Except PreservationError (List UInt8) := do
  let snapshot ← encodable inputs.snapshot
  let files ← (sortedBy codes paths).mapM encodable
  return lib.dumps (.obj (recordMembers inputs.runId preservedAt snapshot files))

/-- The staging directory, from the copies to its verification, with the listed files. -/
def assemble (t : FileTree) (inputs : PreservationInputs) (preservedAt : String)
    (plan : List (PyStr × PyStr)) : Except PreservationError (FileTree × Nat) := do
  let copies ← (sortedBy (fun e => pathOrder e.1) plan).mapM fun e =>
    copyVerified lib fault t e.1 e.2
  let copied : FileTree := copies.foldl (fun staging e => Tree.put staging e.1 e.2) .empty
  fault.check .record
  let record ← recordText lib inputs preservedAt (plan.map Prod.fst)
  let staging : FileTree := Tree.put copied recordFilename (.file record)
  fault.check .hashing
  let hashes ← hashTree lib staging
  copies.forM fun e => raiseIf
    ((e.1, sha256Of lib (e.2.content?.getD [])) ∉ hashes) (.stagedFileChanged e.1)
  fault.check .sums
  let sums ← encodeUtf8 (renderSha256sums hashes)
  let staging : FileTree := Tree.put staging sha256sumsFilename (.file sums)
  let fileCount ← verifyPreservedRun lib staging (py inputs.runId)
  return (staging, fileCount)

/-- `mkdir(parents=True, exist_ok=True)`. -/
def makeDirectory (t : FileTree) (path : PyStr) : FileTree :=
  if t.isThere (.char '/') path then t else Tree.put t path .directory

/-- The prefix of `mkdtemp`. -/
def stagingPrefix (formalRoot : PyStr) (runId : String) : PyStr :=
  child formalRoot (py "." ++ py runId ++ py ".staging-")

/-- The staging directory that `mkdtemp` makes. -/
def stagingDir (t : FileTree) (inputs : PreservationInputs) : PyStr :=
  stagingPrefix inputs.formalRoot inputs.runId ++
    lib.randomName fault.draw t (stagingPrefix inputs.formalRoot inputs.runId)

/-- `rmtree(staging, ignore_errors=True)`, where `t` is the tree without the directory. -/
def rmtree (t : FileTree) (staging : PyStr) : FileTree :=
  match fault.leaves with
  | none => t
  | some left => (Tree.put t staging .directory).graft (.char '/') staging left

/-- The `try` of `preserve_s0_run`: the staging directory that is renamed at its end. -/
def stageRun (t : FileTree) (inputs : PreservationInputs) (preservedAt : String)
    (plan : List (PyStr × PyStr)) : Except PreservationError (FileTree × Nat) := do
  let staged ← assemble lib fault t inputs preservedAt plan
  raiseIf (t.isThere (.char '/') (finalDir inputs)) .alreadyPreserved
  fault.check .rename
  return staged

/-- `preserve_s0_run`: what it returns or raises, and the tree it leaves. -/
def preserveS0Run (t : FileTree) (inputs : PreservationInputs) (preservedAt : String) :
    Except PreservationError PreservationResult × FileTree :=
  match checkInputs lib t inputs with
  | .error e => (.error e, t)
  | .ok plan =>
    match fault.check .formalRoot with
    | .error e => (.error e, t)
    | .ok () =>
      let t : FileTree := makeDirectory t inputs.formalRoot
      match fault.check .staging with
      | .error e => (.error e, t)
      | .ok () =>
        match stageRun lib fault t inputs preservedAt plan with
        | .error e => (.error e, rmtree fault t (stagingDir lib fault t inputs))
        | .ok (staging, fileCount) =>
          (.ok ⟨finalDir inputs, fileCount⟩, t.graft (.char '/') (finalDir inputs) staging)

end Assemble

end IncidentAwareness.Preservation
