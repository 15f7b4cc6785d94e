import IncidentAwareness.Common.Python
import IncidentAwareness.Common.PyValue
import IncidentAwareness.Lib.Canonical
import IncidentAwareness.Lib.Json
import IncidentAwareness.Lib.Raise
import IncidentAwareness.Stream.Messages
import Mathlib.Data.List.Dedup
import Mathlib.Data.String.Basic

/-!
# Dataset usage

Which runs a dataset may use for which split: a `UsagePolicy`, its canonical form, and
the sidecars that it is loaded from. The first of the errors that pydantic lists is the
one that is raised; the types of a canonical policy in a sidecar are already checked.
-/

namespace IncidentAwareness.Evaluation

open IncidentAwareness.Common IncidentAwareness.Lib
open IncidentAwareness.Stream (isRunId)

/-- What the validation of usage and of manifests raises. -/
inductive DatasetError where
  | valueError (text : String)
  | typeError (text : String)
  | keyError (key : String)
  | runId
  | pattern (field : String)
  | tooShort (field : String)
  | usageMissing (runIds : List String)
  deriving DecidableEq, Repr

/-- A whitespace character of a pattern. -/
def isPatternSpace (c : Char) : Bool := isSpace c && !(28 ≤ c.toNat && c.toNat ≤ 31)

/-- A string that matches `^\S(?:.*\S)?$`. -/
def isDatasetIdentifier (s : String) : Bool :=
  s.toList.head?.any (!isPatternSpace ·) && s.toList.getLast?.any (!isPatternSpace ·) &&
    s.toList.all (· ≠ '\n')

/-- The validation of an `Identifier`. -/
def requireDatasetIdentifier (field value : String) : Except DatasetError Unit :=
  raiseIf (isDatasetIdentifier value = false) (.pattern field)

/-- `RunMetadata.validate_run_id`. -/
def requireRunId (value : String) : Except DatasetError Unit :=
  raiseIf (isRunId value = false) .runId

/-- A string that matches `^[0-9a-f]{64}$`. -/
def isDigest (s : String) : Bool :=
  s.toList.length == 64 && s.toList.all fun c => c.isDigit || 'a' ≤ c && c ≤ 'f'

/-- `Split`. -/
inductive Split where
  | train | validation | test
  deriving DecidableEq, Repr

/-- The text of a split. -/
def Split.text : Split → String
  | .train => "train"
  | .validation => "validation"
  | .test => "test"

/-- `SPLITS`. -/
def splits : List Split := [.train, .validation, .test]

/-- `RunUsage`. -/
structure RunUsage where
  runId : String
  pairId : Option String
  eligibleSplits : List Split
  usedForTuning : Bool
  reason : String
  deriving DecidableEq, Repr

/-- The validation of a `RunUsage`. -/
def RunUsage.validate (row : RunUsage) : Except DatasetError Unit := do
  requireDatasetIdentifier "run_id" row.runId
  requireRunId row.runId
  (row.pairId.toList).forM (requireDatasetIdentifier "pair_id")
  requireDatasetIdentifier "reason" row.reason
  raiseIf (¬ row.eligibleSplits.Nodup) (.valueError "duplicate eligible split")
  raiseIf (row.usedForTuning ∧ row.eligibleSplits ≠ [])
    (.valueError "tuning-only records cannot permit formal splits")

/-- The fields of a `UsagePolicy`. -/
structure UsagePolicyFields where
  policyVersion : String
  sourceSha256 : List String
  runs : List RunUsage
  deriving DecidableEq, Repr

/-- The validation of a `UsagePolicy`. -/
def UsagePolicyFields.validate (policy : UsagePolicyFields) : Except DatasetError Unit := do
  requireDatasetIdentifier "policy_version" policy.policyVersion
  policy.sourceSha256.forM fun digest => raiseIf (isDigest digest = false) (.pattern "source_sha256")
  raiseIf (policy.sourceSha256 = []) (.tooShort "source_sha256")
  policy.runs.forM RunUsage.validate
  raiseIf (policy.runs = []) (.tooShort "runs")
  raiseIf (¬ (policy.runs.map (·.runId)).Nodup)
    (.valueError "duplicate or conflicting usage records for Run")

/-- `UsagePolicy`. -/
abbrev UsagePolicy := Validated UsagePolicyFields.validate

/-- `{row.run_id: row for row in policy.runs}.get(run_id)`. -/
def UsagePolicyFields.usage (policy : UsagePolicyFields) (runId : String) : Option RunUsage :=
  policy.runs.find? fun row => row.runId = runId

/-! ## The canonical form -/

/-- A row of `canonical_usage`, its keys sorted. -/
def RunUsage.canonical (row : RunUsage) : Json :=
  .obj [("eligible_splits", .arr ((sortedBy id (row.eligibleSplits.map Split.text)).map .str)),
    ("pair_id", .strOrNull row.pairId),
    ("reason", .str row.reason),
    ("run_id", .str row.runId),
    ("used_for_tuning", .bool row.usedForTuning)]

/-- `canonical_usage`, its keys sorted. -/
def canonicalUsage (policy : UsagePolicyFields) : Json :=
  .obj [("policy_version", .str policy.policyVersion),
    ("runs", .arr ((sortedBy (·.runId) policy.runs).map RunUsage.canonical)),
    ("schema_version", .str "dataset-usage-v0.1"),
    ("source_sha256", .arr ((sortedBy id policy.sourceSha256.dedup).map .str))]

/-- `usage_digest`. -/
def usageDigest {D : Type} (sha256 : List UInt8 → D) (policy : UsagePolicyFields) : D :=
  sha256 (dumps (canonicalUsage policy))

/-! ## Sidecars -/

/-- The JSON value of a sidecar: a canonical policy (it has a `schema_version`), another
object, or no object. -/
inductive SidecarData where
  | policy (fields : UsagePolicyFields)
  | pair (members : PyDict)
  | notObject

/-- A usage sidecar. -/
structure UsageSidecar where
  content : List UInt8
  data : SidecarData

/-- `data[key]`. -/
def requireKey (data : PyDict) (key : String) : Except DatasetError PyValue :=
  match data.lookup key with
  | none => .error (.keyError key)
  | some value => .ok value

/-- `data[f"eligible_for_{split}"]`, which must be a boolean. -/
def eligibleFor (data : PyDict) (split : Split) : Except DatasetError Bool := do
  match ← requireKey data ("eligible_for_" ++ split.text) with
  | .bool value => return value
  | _ => .error (.typeError "eligibility flags must be booleans")

/-- The loop of `load_usage_policy` over the splits. -/
def eligibleSplitsOf (data : PyDict) : List Split → Except DatasetError (List Split)
  | [] => .ok []
  | split :: rest => do
    let value ← eligibleFor data split
    let eligible ← eligibleSplitsOf data rest
    return if value then split :: eligible else eligible

/-- The strings of a list of strings. -/
def strings? : PyValue → Option (List String)
  | .list items => items.mapM PyValue.str?
  | _ => none

/-- A strict string of a `RunUsage`. -/
def requireString (field : String) : PyValue → Except DatasetError String
  | .str value => .ok value
  | _ => .error (.typeError field)

/-- A strict boolean of a `RunUsage`. -/
def requireBool (field : String) : PyValue → Except DatasetError Bool
  | .bool value => .ok value
  | _ => .error (.typeError field)

/-- `RunUsage(...)` for one of the runs of a historical Pair sidecar. -/
def pairRun (data : PyDict) (pairId : String) (eligible : List Split) (field : String) :
    Except DatasetError RunUsage := do
  let runIdValue ← requireKey data field
  let tuningValue ← requireKey data "used_for_tuning"
  let reasonValue ← requireKey data "reason"
  -- Pydantic checks the fields in order, before what relates them.
  let runId ← requireString "run_id" runIdValue
  requireDatasetIdentifier "run_id" runId
  requireRunId runId
  requireDatasetIdentifier "pair_id" pairId
  let usedForTuning ← requireBool "used_for_tuning" tuningValue
  let reason ← requireString "reason" reasonValue
  let row : RunUsage := ⟨runId, some pairId, eligible, usedForTuning, reason⟩
  row.validate
  return row

/-- `pair_id` of a historical Pair sidecar. -/
def requirePairId (data : PyDict) : Except DatasetError String :=
  match data.get "pair_id" with
  | .str pairId =>
    if isBlank pairId then .error (.valueError "historical Pair sidecar requires pair_id")
    else .ok pairId
  | _ => .error (.valueError "historical Pair sidecar requires pair_id")

/-- The check of an `eligible_splits` beside the flags. -/
def requireSameSplits (data : PyDict) (eligible : List Split) : Except DatasetError Unit :=
  match data.lookup "eligible_splits" with
  | none => .ok ()
  | some value => raiseIf (strings? value ≠ some (eligible.map Split.text))
      (.valueError "conflicting eligibility fields")

/-- The runs of a historical Pair sidecar. -/
def pairRuns (data : PyDict) : Except DatasetError (List RunUsage) := do
  let pairId ← requirePairId data
  let eligible ← eligibleSplitsOf data splits
  requireSameSplits data eligible
  ["normal_run_id", "attack_run_id"].mapM (pairRun data pairId eligible)

section Load

variable (hexdigest : List UInt8 → String)

/-- The runs and the hashes of one sidecar. -/
def loadSidecar (file : UsageSidecar) : Except DatasetError (List RunUsage × List String) :=
  match file.data with
  | .notObject => .error (.typeError "usage sidecar must be an object")
  | .policy fields => do
    fields.validate
    return (fields.runs, hexdigest file.content :: fields.sourceSha256)
  | .pair data => do
    let runs ← pairRuns data
    return (runs, [hexdigest file.content])

/-- `load_usage_policy`. -/
def loadUsagePolicy (files : List UsageSidecar) (policyVersion : String) :
    Except DatasetError UsagePolicy := do
  let loaded ← files.mapM (loadSidecar hexdigest)
  construct UsagePolicyFields.validate
    ⟨policyVersion, loaded.flatMap Prod.snd, loaded.flatMap Prod.fst⟩

end Load

end IncidentAwareness.Evaluation
