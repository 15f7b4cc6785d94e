import IncidentAwareness.Common.Python
import IncidentAwareness.Lib.Canonical
import IncidentAwareness.Lib.Csv
import IncidentAwareness.Lib.Json
import IncidentAwareness.Lib.Raise
import IncidentAwareness.Lib.Trees
import IncidentAwareness.Stream.Messages
import Mathlib.Data.List.Lex

/-!
# Preserved runs

A preserved run of `preserve_s0_run.py` is a directory: the copied files, the record of
the preservation, and `SHA256SUMS.csv` with the hash of every other file. This module has
what the verification of one reads and checks (`verifyPreservedRun`).

A Python string can hold lone surrogates, which UTF-8 cannot write; a file name that is not
valid UTF-8 is such a string. Paths are resolved, and a directory is there where something is
below it, or as an entry of its own if it is empty.
-/

namespace IncidentAwareness.Preservation

open IncidentAwareness.Common IncidentAwareness.Lib
open IncidentAwareness.Stream (isRunId)

/-! ## Texts -/

/-- A code point of a Python string. -/
inductive PyChar where
  | char (c : Char)
  | surrogate (n : Fin 2048)
  deriving DecidableEq

/-- A Python string. -/
abbrev PyStr := List PyChar

instance instLawfulBEqPyStr : LawfulBEq PyStr := inferInstance

instance instLawfulBEqPaths : LawfulBEq (PyStr × PyStr) := inferInstance

/-- A text without lone surrogates. -/
def py (s : String) : PyStr := s.toList.map .char

/-- The number of a code point, by which Python orders strings. -/
def PyChar.code : PyChar → Nat
  | .char c => c.toNat
  | .surrogate n => 0xD800 + n

/-- The numbers of the code points of a string. -/
def codes (s : PyStr) : List Nat := s.map PyChar.code

/-- The characters of a string without lone surrogates. -/
def unicode? (s : PyStr) : Option (List Char) :=
  s.mapM fun
    | .char c => some c
    | .surrogate _ => none

/-- `data.decode("utf-8")`. -/
def decodeUtf8 (bytes : List UInt8) : Option PyStr :=
  (ByteArray.mk bytes.toArray).utf8Decode?.map fun cs => cs.toList.map .char

/-- The bytes of a text in UTF-8. -/
def utf8Bytes (cs : List Char) : List UInt8 := utf8 (String.ofList cs)

/-- The parts of a path text. -/
def pathParts (path : PyStr) : List PyStr :=
  (path.splitOn (.char '/')).filter fun part => part ≠ [] && part ≠ py "."

/-- `path.name`. -/
def baseName (path : PyStr) : PyStr := (pathParts path).getLastD []

/-- `PurePosixPath(name).suffix` of a name. -/
def suffix (name : PyStr) : PyStr :=
  let tail := (name.reverse.takeWhile (· ≠ .char '.')).reverse
  if tail ≠ [] ∧ tail.length + 1 < name.length then .char '.' :: tail else []

/-- `lower()`, as far as it is compared with an ASCII text. -/
def lower (s : PyStr) : PyStr :=
  s.map fun
    | .char c => .char c.toLower
    | .surrogate n => .surrogate n

/-! ## The outside -/

/-- What is at a path. -/
inductive Entry where
  | file (content : List UInt8)
  | directory
  | link
  | special
  deriving DecidableEq

/-- The content of a regular file. -/
def Entry.content? : Entry → Option (List UInt8)
  | .file content => some content
  | _ => none

/-- A directory tree. -/
abbrev FileTree := Tree PyChar Entry

/-- What the tool takes from the standard library: `sha256(data).hexdigest()`; JSON from and
to bytes (`loads` reads UTF-8; `dumps` is `json.dumps(…, ensure_ascii=False, indent=2)` with
a line end, in UTF-8); and what `tempfile.mkdtemp` appends to a prefix in a state of its
generator, so that nothing is at the path. -/
structure StandardLibrary where
  hexdigest : List UInt8 → List Char
  hexdigest_hex : ∀ bytes, ∀ c ∈ hexdigest bytes, c ∈ "0123456789abcdef".toList
  loads : List UInt8 → Option Json
  dumps : Json → List UInt8
  loads_dumps : ∀ value, loads (dumps value) = some value
  randomName : Nat → FileTree → PyStr → PyStr
  randomName_plain : ∀ draw t path, PyChar.char '/' ∉ randomName draw t path
  randomName_new : ∀ draw (t : FileTree) path,
    t.isThere (.char '/') (path ++ randomName draw t path) = false

/-- `PreservationError` by what it reports, and the errors that reach the caller as they are. -/
inductive PreservationError where
  | runIdPattern
  | blankSnapshot
  | missing (label : String)
  | linkOrReparsePoint (label : String)
  | notRegularFile (label : String)
  | notDirectory (label : String)
  | emptyFile (label : String)
  | rehearsalPath (label : String)
  | rehearsalMarker (label : String)
  | overlappingRoots
  | alreadyPreserved
  | missingRequired (label : String) (names : List PyStr)
  | unreadableJson (label : String)
  | notObject (label : String)
  | otherRunId (label : String)
  | sameDestination (path : PyStr)
  | sourceChanged (path : PyStr)
  | copyDiffers (path : PyStr)
  | stagedFileChanged (path : PyStr)
  | listsNoFiles
  | recordNotListed
  | notExactlyListed
  | mismatch (paths : List PyStr)
  | byteOrderMark
  | carriageReturn
  | notUtf8
  | header
  | columns
  | listedTwice (path : PyStr)
  | notSorted
  | recordVersion
  | recordFiles
  | sysmonConfigs (paths : List PyStr)
  | recordEvidence
  | recordFileCount
  | recordHashVerification
  | recordSums
  | unicodeEncodeError
  | osError (text : String)
  deriving DecidableEq

/-! ## Names -/

/-- `RECORD_FILENAME`. -/
def recordFilename : PyStr := py "preservation_record.json"

/-- `SHA256SUMS_FILENAME`. -/
def sha256sumsFilename : PyStr := py "SHA256SUMS.csv"

/-- `SHA256SUMS_HEADER`. -/
def sha256sumsHeader : PyStr × PyStr := (py "path", py "sha256")

/-- `REHEARSAL_MARKER`. -/
def rehearsalMarker : PyStr := py "REHEARSAL.txt"

/-- `REQUIRED_RAW_FILES`. -/
def requiredRawFiles : List String :=
  ["manifest.json", "telemetry/sysmon-0001.evtx", "telemetry/sysmon-0001.jsonl"]

/-- `REQUIRED_GROUND_TRUTH_FILES`. -/
def requiredGroundTruthFiles : List String := ["execution_record.csv", "run_metadata.json"]

/-- `EVIDENCE_PATHS`. -/
def evidencePaths : List (String × String) :=
  [("execution_log", "verification/execution-log.txt"),
    ("validator_output", "verification/validator-output.txt"),
    ("firewall_removal", "verification/firewall-removal.txt"),
    ("approval_record", "verification/approval-record.txt")]

/-- `REQUIRED_BUNDLE_FILES` of a run. -/
def requiredBundleFiles (runId : String) : List PyStr :=
  requiredRawFiles.map (fun name => py "raw/" ++ py runId ++ py "/" ++ py name) ++
    requiredGroundTruthFiles.map (fun name =>
      py "ground_truth/" ++ py runId ++ py "/" ++ py name) ++
    [py "support/scenario.json", py "support/run-common.ps1", py "support/run.ps1"] ++
    evidencePaths.map (fun e => py e.2) ++ [recordFilename]

/-! ## Files -/

/-- The entry at a path. -/
def entryAt (t : FileTree) (path : PyStr) : Option Entry :=
  match t.node path with
  | some entry => some entry
  | none => if t.isThere (.char '/') path then some .directory else none

/-- `_require_regular_file`, and the content of the file. -/
def requireRegularFile (t : FileTree) (path : PyStr) (label : String) (nonEmpty : Bool) :
    Except PreservationError (List UInt8) :=
  match entryAt t path with
  | none => .error (.missing label)
  | some .link => .error (.linkOrReparsePoint label)
  | some .directory | some .special => .error (.notRegularFile label)
  | some (.file content) =>
    if nonEmpty && content = [] then .error (.emptyFile label) else .ok content

/-- `_require_real_directory`. -/
def requireRealDirectory (t : FileTree) (path : PyStr) (label : String) :
    Except PreservationError Unit :=
  match entryAt t path with
  | none => .error (.missing label)
  | some .link => .error (.linkOrReparsePoint label)
  | some (.file _) | some .special => .error (.notDirectory label)
  | some .directory => .ok ()

/-- The check of `_collect_tree` on one entry below its root. -/
def checkEntry (label : String) (path : PyStr) : Entry → Except PreservationError Unit
  | .link => .error (.linkOrReparsePoint label)
  | .special => .error (.notRegularFile label)
  | .directory => .ok ()
  | .file _ => raiseIf (baseName path = rehearsalMarker) (.rehearsalMarker label)

/-- The order of `PurePosixPath`s. -/
def pathOrder (path : PyStr) : List (List Nat) := (pathParts path).map codes

/-- The walk of `_collect_tree` in what is below its root. -/
def collectEntries (t : FileTree) (label : String) : Except PreservationError (List PyStr) := do
  t.rows.forM fun r => checkEntry label r.1 r.2
  return sortedBy pathOrder ((t.rows.filter fun r => r.2.content?.isSome).map Prod.fst)

/-- `_collect_tree`. -/
def collectTree (t : FileTree) (sourceDir : PyStr) (label : String) :
    Except PreservationError (List PyStr) := do
  requireRealDirectory t sourceDir label
  collectEntries (t.subtree (.char '/') sourceDir) label

section Verify

variable (lib : StandardLibrary)

/-- The hash of a file. -/
def sha256Of (content : List UInt8) : PyStr := (lib.hexdigest content).map .char

/-- `_hash_tree` of the directory `t`. -/
def hashTree (t : FileTree) : Except PreservationError (List (PyStr × PyStr)) := do
  let paths ← collectEntries t "preserved run"
  return (paths.filter (· ≠ sha256sumsFilename)).map fun path =>
    (path, sha256Of lib (((t.node path).bind Entry.content?).getD []))

/-! ## SHA256SUMS.csv -/

/-- Where `str.splitlines` ends a line. -/
def isLineBreak : PyChar → Bool
  | .char c => c.toNat ∈ [10, 11, 12, 13, 28, 29, 30, 0x85, 0x2028, 0x2029]
  | .surrogate _ => false

theorem isLineBreak_lf : isLineBreak (.char '\n') = true := by decide

theorem lf_ne_cr : PyChar.char '\n' ≠ PyChar.char '\r' := by decide

/-- The line boundaries of `str.splitlines`. -/
def lineBreaks : LineBreaks PyChar where
  isBreak := isLineBreak
  cr := .char '\r'
  lf := .char '\n'
  isBreak_lf := isLineBreak_lf
  lf_ne_cr := lf_ne_cr

theorem comma_ne_quote : PyChar.char ',' ≠ PyChar.char '"' := by decide

/-- The `excel` dialect of `csv`. -/
def csvFormat : CsvFormat PyChar where
  delimiter := .char ','
  quote := .char '"'
  isQuoted := fun c => c = .char '\n' || c = .char '\r'
  delimiter_ne_quote := comma_ne_quote

/-- `_render_sha256sums`. -/
def renderSha256sums (hashes : List (PyStr × PyStr)) : PyStr :=
  (sha256sumsHeader :: sortedBy (fun e => codes e.1) hashes).flatMap
    fun e => csvFormat.writeRow [e.1, e.2] ++ [.char '\n']

/-- `codecs.BOM_UTF8`. -/
def bomUtf8 : List UInt8 := [0xEF, 0xBB, 0xBF]

/-- `_decode_sha256sums_bytes`. -/
def decodeSha256sumsBytes (raw : List UInt8) : Except PreservationError PyStr := do
  raiseIf (bomUtf8 <+: raw) .byteOrderMark
  raiseIf (13 ∈ raw) .carriageReturn
  match decodeUtf8 raw with
  | none => .error .notUtf8
  | some text => .ok text

/-- The loop of `_read_sha256sums` over the rows behind the header. -/
def listRows (listed : List (PyStr × PyStr)) :
    List (List PyStr) → Except PreservationError (List (PyStr × PyStr))
  | [] => .ok listed
  | [path, digest] :: rows =>
    if path ∈ listed.map Prod.fst then .error (.listedTwice path)
    else listRows (listed ++ [(path, digest)]) rows
  | _ :: _ => .error .columns

/-- `_read_sha256sums` from the text of the file. -/
def readRows (text : PyStr) : Except PreservationError (List (PyStr × PyStr)) :=
  match csvFormat.readRows (splitLines lineBreaks text) with
  | [] => .error .header
  | header :: rows =>
    if header ≠ [sha256sumsHeader.1, sha256sumsHeader.2] then .error .header
    else do
      let listed ← listRows [] rows
      raiseIf (listed.map Prod.fst ≠ sortedBy codes (listed.map Prod.fst)) .notSorted
      return listed

/-- `_read_sha256sums`. -/
def readSha256sums (t : FileTree) : Except PreservationError (List (PyStr × PyStr)) := do
  let raw ← requireRegularFile t sha256sumsFilename "SHA256SUMS.csv" false
  let text ← decodeSha256sumsBytes raw
  readRows text

/-! ## The record -/

/-- The last member of a key, which `json.loads` keeps. -/
def member (members : List (String × Json)) (key : String) : Option Json :=
  (members.reverse.find? fun m => m.1 = key).map Prod.snd

/-- `_read_record`. -/
def readRecord (content : List UInt8) : Except PreservationError (List (String × Json)) :=
  match lib.loads content with
  | none => .error (.unreadableJson "preservation_record.json")
  | some (.obj members) => .ok members
  | some _ => .error (.notObject "preservation_record.json")

/-- A JSON string. -/
def jsonString? : Json → Option String
  | .str s => some s
  | _ => none

/-- The strings of a JSON list of strings. -/
def jsonStrings? : Json → Option (List String)
  | .arr items => items.mapM jsonString?
  | _ => none

/-- The members of a JSON object. -/
def jsonMembers? : Json → Option (List (String × Json))
  | .obj members => some members
  | _ => none

/-- A JSON value that is the text of `n`. -/
def isJsonNat (n : Nat) : Json → Prop
  | .atom token => token.val = natToken n
  | _ => False

instance (n : Nat) : (value : Json) → Decidable (isJsonNat n value)
  | .atom token => inferInstanceAs (Decidable (token.val = natToken n))
  | .str _ => isFalse id
  | .arr _ => isFalse id
  | .obj _ => isFalse id

/-- A JSON value that is written as `token`. -/
def isToken (token : List UInt8) : Json → Prop
  | .atom t => t.val = token
  | _ => False

instance (token : List UInt8) : (value : Json) → Decidable (isToken token value)
  | .atom t => inferInstanceAs (Decidable (t.val = token))
  | .str _ => isFalse id
  | .arr _ => isFalse id
  | .obj _ => isFalse id

/-- `RECORD_VERSION`. -/
def recordVersion : String := "s0-preservation-record-v0.1"

/-- A Sysmon config: an XML file in `support`. -/
def isSysmonConfig (path : PyStr) : Bool :=
  (pathParts path).dropLast = [py "support"] && lower (suffix (baseName path)) = py ".xml"

/-- The part of `evidence` that the tool checks. -/
def evidenceHolds (evidence : List (String × Json)) : Bool :=
  evidencePaths.all fun e => (member evidence e.1).bind jsonString? = some e.2

/-- `_check_record`. -/
def checkRecord (record : List (String × Json)) (listedPaths : List PyStr)
    (directoryRunId : PyStr) : Except PreservationError Unit := do
  raiseIf ((member record "record_version").bind jsonString? ≠ some recordVersion) .recordVersion
  match (member record "run_id").bind jsonString? with
  | none => .error .runIdPattern
  | some runId => do
    raiseIf (isRunId runId = false) .runIdPattern
    raiseIf (py runId ≠ directoryRunId) (.otherRunId "preservation_record.json")
    match (member record "files").bind jsonStrings? with
    | none => .error .recordFiles
    | some files => do
      raiseIf (files.map py ≠ sortedBy codes (listedPaths.filter (· ≠ recordFilename)))
        .recordFiles
      let missing := (requiredBundleFiles runId).filter (· ∉ listedPaths)
      raiseIf (missing ≠ []) (.missingRequired "preserved run" missing)
      let sysmonConfigs := listedPaths.filter isSysmonConfig
      raiseIf (sysmonConfigs.length ≠ 1) (.sysmonConfigs sysmonConfigs)
      raiseIf (¬ ((member record "evidence").bind jsonMembers?).any (fun evidence =>
        evidenceHolds evidence &&
          (member evidence "validator_output_interpreted").any (isToken falseToken ·)))
        .recordEvidence
      raiseIf (¬ (member record "file_count").any (isJsonNat files.length ·)) .recordFileCount
      raiseIf (¬ ((member record "hash_verification").bind jsonMembers?).any (fun verification =>
        (member verification "method").bind jsonString? = some "sha256" &&
          (member verification "all_match").any (isToken trueToken ·) &&
          (member verification "compared_files").any (isJsonNat files.length ·)))
        .recordHashVerification
      raiseIf (¬ ((member record "sha256sums").bind jsonMembers?).any (fun sums =>
        (member sums "path").bind jsonString? = some "SHA256SUMS.csv" &&
          (member sums "excludes_itself").any (isToken trueToken ·) &&
          (member sums "includes_record").any (isToken trueToken ·)))
        .recordSums

/-! ## Verification -/

/-- Two lists with the same elements. -/
def sameElements (l l' : List PyStr) : Bool := l.all (· ∈ l') && l'.all (· ∈ l)

/-- The listed paths whose hash is another one. -/
def mismatched (listed actual : List (PyStr × PyStr)) : List PyStr :=
  (listed.filter fun e => e ∉ actual).map Prod.fst

/-- `verify_preserved_run` of the directory `t`: `directoryRunId` is its name, or the
expected run id of a staging directory. -/
def verifyPreservedRun (t : FileTree) (directoryRunId : PyStr) : Except PreservationError Nat := do
  let listed ← readSha256sums t
  raiseIf (listed = []) .listsNoFiles
  raiseIf (recordFilename ∉ listed.map Prod.fst) .recordNotListed
  let content ← requireRegularFile t recordFilename "preservation_record.json" false
  let actual ← hashTree lib t
  raiseIf (sameElements (actual.map Prod.fst) (listed.map Prod.fst) = false) .notExactlyListed
  raiseIf (mismatched listed actual ≠ []) (.mismatch (mismatched listed actual))
  let record ← readRecord lib content
  checkRecord record (listed.map Prod.fst) directoryRunId
  return listed.length

end Verify

end IncidentAwareness.Preservation
