import IncidentAwareness.Evaluation.DatasetUsage
import IncidentAwareness.Lib.FirstSeen

/-!
# Split manifests

The assignment of an inventory of runs to the splits (`SplitManifest`), the audit that
hashes its canonical form, and the manifest of an inventory with a loaded policy. A
`dict` is its items, with distinct keys.
-/

namespace IncidentAwareness.Evaluation

open IncidentAwareness.Common IncidentAwareness.Lib

/-- `SplitAssignment`. -/
structure SplitAssignment where
  runId : String
  groupId : String
  split : Split
  deriving DecidableEq, Repr

/-- The validation of a `SplitAssignment`. -/
def SplitAssignment.validate (row : SplitAssignment) : Except DatasetError Unit := do
  requireDatasetIdentifier "run_id" row.runId
  requireRunId row.runId
  requireDatasetIdentifier "group_id" row.groupId

/-- The fields of a `SplitManifest`. -/
structure SplitManifestFields where
  usagePolicy : UsagePolicy
  manifestVersion : String
  groupingPolicyVersion : String
  inventoryRunIds : List String
  inventoryFamilyIds : List (String × String)
  assignments : List SplitAssignment
  /-- A `dict` has a key once. -/
  familyKeys_nodup : (inventoryFamilyIds.map Prod.fst).Nodup

namespace SplitManifestFields

/-- `inventory_family_ids[run_id]`. -/
def family (manifest : SplitManifestFields) (runId : String) : Option String :=
  manifest.inventoryFamilyIds.lookup runId

/-- The `pair_id` of the usage record of an assignment. -/
def pair (manifest : SplitManifestFields) (row : SplitAssignment) : Option String :=
  (manifest.usagePolicy.val.usage row.runId).bind (·.pairId)

/-- The loop over the assignments that checks usage and Pairs. -/
def checkUsage (manifest : SplitManifestFields) (pairs : Seen String Split) :
    List SplitAssignment → Except DatasetError Unit
  | [] => .ok ()
  | row :: rows =>
    match manifest.usagePolicy.val.usage row.runId with
    | none => .error (.keyError row.runId)
    | some record => do
      raiseIf (row.split ∉ record.eligibleSplits) (.valueError
        ("Run " ++ row.runId ++ " excluded from " ++ row.split.text ++ ": " ++ record.reason))
      let pairs ← pairs.claim record.pairId row.split
        (.valueError "a usage Pair must not cross split boundaries")
      checkUsage manifest pairs rows

/-- The loop over the assignments that checks families and groups. -/
def checkFamilies (manifest : SplitManifestFields) (families groups : Seen String Split) :
    List SplitAssignment → Except DatasetError Unit
  | [] => .ok ()
  | row :: rows =>
    match manifest.family row.runId with
    | none => .error (.keyError row.runId)
    | some family => do
      let families ← families.claim (some family) row.split
        (.valueError "a family must not cross split boundaries")
      let groups ← groups.claim (some row.groupId) row.split
        (.valueError "a group must not cross split boundaries")
      checkFamilies manifest families groups rows

/-- `set(l) == set(l')`. -/
def sameSet (l l' : List String) : Bool := l.all (· ∈ l') && l'.all (· ∈ l)

/-- `valid_partition`. -/
def validPartition (manifest : SplitManifestFields) : Except DatasetError Unit := do
  let assigned := manifest.assignments.map (·.runId)
  raiseIf (¬ assigned.Nodup) (.valueError "each Run must have exactly one assignment")
  raiseIf (¬ sameSet assigned manifest.inventoryRunIds)
    (.valueError "assignments must exactly cover inventory")
  raiseIf (¬ ∀ split ∈ splits, split ∈ manifest.assignments.map (·.split))
    (.valueError "train, validation and test must each contain a Run")
  raiseIf (¬ sameSet (manifest.inventoryFamilyIds.map Prod.fst) manifest.inventoryRunIds)
    (.valueError "family inventory must exactly cover Run inventory")
  let missing := manifest.inventoryRunIds.filter
    (· ∉ manifest.usagePolicy.val.runs.map (·.runId))
  raiseIf (missing ≠ []) (.usageMissing (sortedBy id missing))
  manifest.checkUsage [] manifest.assignments
  manifest.checkFamilies [] [] manifest.assignments

/-- The validation of the fields of a `SplitManifest`. -/
def checkFields (manifest : SplitManifestFields) : Except DatasetError Unit := do
  requireDatasetIdentifier "manifest_version" manifest.manifestVersion
  requireDatasetIdentifier "grouping_policy_version" manifest.groupingPolicyVersion
  manifest.inventoryRunIds.forM (requireDatasetIdentifier "inventory_run_ids")
  raiseIf (manifest.inventoryRunIds = []) (.tooShort "inventory_run_ids")
  manifest.inventoryRunIds.forM requireRunId
  raiseIf (¬ manifest.inventoryRunIds.Nodup) (.valueError "duplicate inventory Run")
  manifest.inventoryFamilyIds.forM fun item => do
    requireDatasetIdentifier "inventory_family_ids" item.1
    requireDatasetIdentifier "inventory_family_ids" item.2
  manifest.assignments.forM SplitAssignment.validate
  raiseIf (manifest.assignments = []) (.tooShort "assignments")

/-- The validation of a `SplitManifest`. -/
def validate (manifest : SplitManifestFields) : Except DatasetError Unit := do
  manifest.checkFields
  manifest.validPartition

end SplitManifestFields

/-- `SplitManifest`. -/
abbrev SplitManifest := Validated SplitManifestFields.validate

/-! ## The canonical form -/

/-- An assignment as it is dumped, its keys sorted. -/
def SplitAssignment.canonical (row : SplitAssignment) : Json :=
  .obj [("group_id", .str row.groupId), ("run_id", .str row.runId), ("split", .str row.split.text)]

/-- The canonical manifest of `audit_split_manifest`, its keys sorted. -/
def canonicalManifest (manifest : SplitManifestFields) : Json :=
  .obj [("assignments",
      .arr ((sortedBy (·.runId) manifest.assignments).map SplitAssignment.canonical)),
    ("grouping_policy_version", .str manifest.groupingPolicyVersion),
    ("inventory_family_ids",
      .obj ((sortedBy Prod.fst manifest.inventoryFamilyIds).map fun item => (item.1, .str item.2))),
    ("inventory_run_ids", .arr ((sortedBy id manifest.inventoryRunIds).map .str)),
    ("manifest_version", .str manifest.manifestVersion),
    ("usage_policy", canonicalUsage manifest.usagePolicy.val)]

/-! ## The audit -/

/-- What an audit lists of a split. -/
structure SplitReport where
  runIds : List String
  familyIds : List String
  groupIds : List String
  deriving DecidableEq, Repr

/-- What an audit returns. -/
structure SplitAudit (D : Type) where
  usagePolicyVersion : String
  usageSha256 : D
  manifestSha256 : D
  manifest : Json
  report : Split → SplitReport

/-- The lists of a split. -/
def SplitManifestFields.report (manifest : SplitManifestFields) (split : Split) : SplitReport :=
  let rows := manifest.assignments.filter (·.split = split)
  ⟨sortedBy id (rows.map (·.runId)),
    sortedBy id (rows.filterMap fun row => manifest.family row.runId).dedup,
    sortedBy id (rows.map (·.groupId)).dedup⟩

/-- `audit_split_manifest`. -/
def auditSplitManifest {D : Type} (sha256 : List UInt8 → D) (manifest : SplitManifestFields) :
    Except DatasetError (SplitAudit D) := do
  manifest.validate
  return {
    usagePolicyVersion := manifest.usagePolicy.val.policyVersion
    usageSha256 := usageDigest sha256 manifest.usagePolicy.val
    manifestSha256 := sha256 (dumps (canonicalManifest manifest))
    manifest := canonicalManifest manifest
    report := manifest.report }

/-- The inventory that `build_split_manifest` reads, with the policy that is embedded in it. -/
structure SplitInventory where
  embedded : Option UsagePolicyFields
  manifestVersion : String
  groupingPolicyVersion : String
  inventoryRunIds : List String
  inventoryFamilyIds : List (String × String)
  assignments : List SplitAssignment
  familyKeys_nodup : (inventoryFamilyIds.map Prod.fst).Nodup

/-- The check of an embedded policy; the canonical forms are compared by their texts. -/
def requireSamePolicy (policy : UsagePolicy) : Option UsagePolicyFields → Except DatasetError Unit
  | none => .ok ()
  | some embedded => do
    embedded.validate
    raiseIf (dumps (canonicalUsage embedded) ≠ dumps (canonicalUsage policy.val))
      (.valueError "embedded and supplied usage policy conflict")

/-- The manifest of an inventory with a policy. -/
def SplitInventory.manifest (inventory : SplitInventory) (policy : UsagePolicy) :
    SplitManifestFields where
  usagePolicy := policy
  manifestVersion := inventory.manifestVersion
  groupingPolicyVersion := inventory.groupingPolicyVersion
  inventoryRunIds := inventory.inventoryRunIds
  inventoryFamilyIds := inventory.inventoryFamilyIds
  assignments := inventory.assignments
  familyKeys_nodup := inventory.familyKeys_nodup

/-- `build_split_manifest`. -/
def buildSplitManifest (inventory : SplitInventory) (policy : UsagePolicy) :
    Except DatasetError SplitManifest := do
  requireSamePolicy policy inventory.embedded
  construct SplitManifestFields.validate (inventory.manifest policy)

end IncidentAwareness.Evaluation
