import IncidentAwareness.Evidence.Pipeline
import IncidentAwareness.Common.RequiredPartition
import IncidentAwareness.Seal.CloseProof
import IncidentAwareness.Stream.Ingress

/-!
# The incremental Evidence state

`R1IncrementalEvidenceState`: it gathers the Events of the chunks that the ingress
accepted, keeps a provisional selection of them, and issues Evidence once a verified
close proof or the run end is given. Its methods write their fields one after the
other, so that an exception leaves what was written before it: each is a program on
the state and the ingress (`Machine`).

The clock is what a call of it reads. The checkpoint that the state exports is a
function of its fields and is left out.
-/

namespace IncidentAwareness.Incremental

open IncidentAwareness.Common IncidentAwareness.Lib IncidentAwareness.Stream
open IncidentAwareness.Evidence IncidentAwareness.Seal

variable {D S : Type}

/-! ## The snapshot -/

/-- `R1IncrementalStatus`. -/
inductive IncrementalStatus where
  | accumulating | provisional | finalized | failedClosed
  deriving DecidableEq, Repr

/-- `R1IncrementalCloseMode`. -/
inductive IncrementalCloseMode where
  | authoritativeRunEndFallback | verifiedCloseProof
  deriving DecidableEq, Repr

/-- `availability_contract_version`. -/
inductive AvailabilityContractVersion where
  | v01 | v02
  deriving DecidableEq, Repr

/-- The arguments of `R1CausalEvidenceAvailability`. -/
structure AvailabilityFields where
  evidenceId : String
  timestamp : Int
  availableAt : UtcMillis
  eventIds : List String
  contextEventIds : List String
  deriving DecidableEq, Repr

/-- `validate_event_ids`. -/
def validateAvailabilityEventIds (values : List String) : Except PyError Unit := do
  raiseIf (∃ value ∈ values, isBlank value ∨ isPadded value)
    (.valueError "Event IDs must be non-blank and unpadded")
  raiseIf (¬ values.Nodup) (.valueError "Event IDs must be unique within each provenance field")

/-- The validators of `R1CausalEvidenceAvailability`, in their order. -/
def AvailabilityFields.validate (fields : AvailabilityFields) : Except PyError Unit := do
  raiseIf (isBlank fields.evidenceId ∨ isPadded fields.evidenceId)
    (.valueError "evidence_id must be non-blank and unpadded")
  raiseIf (fields.eventIds = [])
    (.valueError "event_ids: Tuple should have at least 1 item after validation")
  validateAvailabilityEventIds fields.eventIds
  validateAvailabilityEventIds fields.contextEventIds

/-- `R1CausalEvidenceAvailability`. -/
abbrev R1CausalEvidenceAvailability := Validated AvailabilityFields.validate

/-- `R1IncrementalEvidenceSnapshot`. -/
structure IncrementalEvidenceSnapshot (D : Type) where
  status : IncrementalStatus
  selectorResult : R1SelectorResult
  evidences : List (Evidence R1Features) := []
  availability : List R1CausalEvidenceAvailability := []
  lineageInput : Option R1LineageInput := none
  extractionDiagnostics : List R1ExtractionDiagnostic := []
  closeMode : Option IncrementalCloseMode := none
  candidateBoundaryAt : Option UtcMillis := none
  availableAt : Option UtcMillis := none
  availabilityContractVersion : Option AvailabilityContractVersion := none
  verifiedCloseProofId : Option Identifier := none
  verifiedCloseProofSha256 : Option D := none
  diagnostics : List String := []

/-- The status is `finalized` or `failed_closed`. -/
def IncrementalEvidenceSnapshot.isTerminal (snapshot : IncrementalEvidenceSnapshot D) : Bool :=
  snapshot.status = .finalized || snapshot.status = .failedClosed

/-! ## The state -/

/-- A dict, in insertion order. -/
abbrev Dict (κ ν : Type) := Table (SameKey (Prod.fst : κ × ν → κ))

/-- `d.get(key)`. -/
def Dict.find {κ ν : Type} [DecidableEq κ] (d : Dict κ ν) (key : κ) : Option ν :=
  (Table.get d key).map Prod.snd

/-- `d[key] = value`. -/
def Dict.set {κ ν : Type} [DecidableEq κ] (d : Dict κ ν) (key : κ) (value : ν) : Dict κ ν :=
  Table.upsert d (key, value)

/-- `_ChunkIdentity`, without its literals. -/
abbrev ChunkIdentity := R1StreamPartition × Identifier

/-- `_ChunkSequenceIdentity`, without its literals. -/
abbrev ChunkSequenceIdentity := R1StreamPartition × Nat

/-- `_EventIdentity`, without its literals. -/
abbrev EventIdentity := R1StreamPartition × String

/-- What the constructor of the state was given and accepted. -/
structure IncrementalConfig where
  runId : Identifier
  entityId : Identifier
  runStart : UtcMillis
  scenarioFamilyId : String
  selectorPolicy : R1SelectorPolicy
  approvedPolicy : ApprovedLineagePolicy
  requiredPartitionContract : Option R1RequiredPartitionContract
  lineageEventCount_eq : selectorPolicy.lineageEventCount = approvedPolicy.approvedLineage.length
  targetHost_eq : ∀ contract ∈ requiredPartitionContract, contract.targetHost = entityId

/-- `R1IncrementalEvidenceState`. -/
structure IncrementalEvidenceState (D : Type) where
  eventsByIdentity : Dict EventIdentity NormalizedEvent
  eventHashes : Dict EventIdentity D
  chunkHashes : Dict ChunkIdentity D
  chunkSequenceIdentities : Dict ChunkSequenceIdentity Identifier
  chunksByIdentity : Dict ChunkIdentity (R1EventChunk D)
  runClosed : Option R1RunClosed
  verifiedProof : Option (R1Role2VerifiedCloseProof D)
  proofValidation : Option (R1Role2VerifiedCloseProofValidation D)
  acceptedCloseReceipt : Option (R1AcceptedRunCloseReceipt D)
  candidatePolicy : Option (R1CandidateGenerationPolicy D)
  snapshot : IncrementalEvidenceSnapshot D

/-- The state and the ingress that it was given. -/
structure Machine (D S : Type) where
  evidence : IncrementalEvidenceState D
  ingress : IngressState D S

/-- A program of the state. -/
abbrev Method (D S α : Type) := EStateM PyError (Machine D S) α

instance [DecidableEq D] : DecidableEq (R1Role2VerifiedCloseProof D) := fun a b =>
  decidable_of_iff (a.toCloseProofContent = b.toCloseProofContent ∧
      a.proofContentSha256 = b.proofContentSha256)
    (by cases a; cases b; simp)

instance [DecidableEq D] : DecidableEq (R1CandidateGenerationPolicy D) := fun a b =>
  decidable_of_iff (a.canonicalPath = b.canonicalPath ∧ a.configHash = b.configHash ∧
      a.policyId = b.policyId ∧ a.version = b.version ∧ a.familyId = b.familyId ∧
      a.normalBoundary = b.normalBoundary ∧ a.attackBoundary = b.attackBoundary ∧
      a.normalOwnedProcesses = b.normalOwnedProcesses ∧
      a.attackOwnedProcesses = b.attackOwnedProcesses ∧
      a.acceptedTerminalStates = b.acceptedTerminalStates ∧
      a.protectedNonOwnedProcessNames = b.protectedNonOwnedProcessNames)
    (by cases a; cases b; simp)

/-! ## Required partitions -/

/-- `_R1_SOURCE` and `_R1_SOURCE_CHANNEL`. -/
def fallbackPartition : String × String := ("sysmon", "Microsoft-Windows-Sysmon/Operational")

namespace IncrementalConfig

variable (config : IncrementalConfig)

/-- `_required_partition_identities`. -/
def requiredPartitionIdentities : List (String × String) :=
  match config.requiredPartitionContract with
  | some contract => contract.partitionIdentities
  | none => [fallbackPartition]

/-- `_is_selector_partition`. -/
def isSelectorPartition (partition : R1StreamPartition) : Bool :=
  partition.runId.val = config.runId.val && partition.hostId = config.entityId &&
    (partition.source.val, partition.sourceChannel.val) ∈ config.requiredPartitionIdentities

/-- `_is_required_partition_key`. -/
def isRequiredPartitionKey (partition : R1StreamPartition) : Bool :=
  config.requiredPartitionContract.isNone || config.isSelectorPartition partition

/-- `R1StreamPartition(...)` of a required source and channel. -/
def requiredStreamPartition (identity : String × String) : Except PyError R1StreamPartition := do
  let runId ← validateRunId config.runId.val
  let source ← validateUnpadded "partition identity must be non-blank and unpadded" identity.1
  let channel ← validateUnpadded "partition identity must be non-blank and unpadded" identity.2
  return ⟨runId, config.entityId, source, channel⟩

/-- `_required_stream_partitions`. -/
def requiredStreamPartitions : Except PyError (List R1StreamPartition) :=
  (sortedBy (fun identity : String × String => toLex identity)
    config.requiredPartitionIdentities.dedup).mapM config.requiredStreamPartition

/-- `_require_exact_target_partitions`. -/
def requireExactTargetPartitions (finalWatermarks : List R1FinalPartitionWatermark) :
    Except PyError Unit :=
  let actual := (finalWatermarks.filter fun item => item.partition.runId.val = config.runId.val ∧
    item.partition.hostId = config.entityId).map fun item =>
      (item.partition.source.val, item.partition.sourceChannel.val)
  raiseIf (¬ ((∀ identity ∈ actual, identity ∈ config.requiredPartitionIdentities) ∧
      ∀ identity ∈ config.requiredPartitionIdentities, identity ∈ actual))
    (.valueError "verified proof target partitions must exactly match required-partition contract")

/-- `_require_entity_partition`. -/
def requireEntityPartition (runClosed : R1RunClosed) : Except PyError Unit :=
  raiseIf (¬ ∃ item ∈ runClosed.finalWatermarks, config.isSelectorPartition item.partition)
    (.valueError "run_closed does not contain a final watermark for the R1 Sysmon partition")

/-- What `accept_run_closed` requires of the partitions of a close. -/
def requireClosePartitions (runClosed : R1RunClosed) : Except PyError Unit :=
  match config.requiredPartitionContract with
  | none => config.requireEntityPartition runClosed
  | some _ => config.requireExactTargetPartitions runClosed.finalWatermarks

end IncrementalConfig

/-! ## Texts -/

/-- `_partition_key`, as it is compared. -/
def partitionKey (partition : R1StreamPartition) : String ×ₗ String ×ₗ String ×ₗ String :=
  toLex (partition.runId.val, toLex (partition.hostId.val,
    toLex (partition.source.val, partition.sourceChannel.val)))

/-- `_format_partition_key`. -/
def formatPartitionKey (partition : R1StreamPartition) : String :=
  "/".intercalate [partition.runId.val, partition.hostId.val, partition.source.val,
    partition.sourceChannel.val]

/-- A tuple of integers in a text. -/
def tupleText : List Nat → String
  | [n] => "(" ++ toString n ++ ",)"
  | ns => "(" ++ ", ".intercalate (ns.map toString) ++ ")"

/-- `str(error)`. -/
def errorText : PyError → String
  | .valueError text | .typeError text | .databaseError text | .overflowError text => text
  | .valueErrorQuoting head quoted tail => head ++ quoted ++ tail
  | .lateStreamEventError chunkId watermarkId =>
    "chunk " ++ chunkId ++ " contains Event(s) at or before watermark " ++ watermarkId
  | .assertionError => ""

/-- `except (TypeError, ValueError)`. -/
def isTypeOrValueError : PyError → Bool
  | .valueError _ | .valueErrorQuoting _ _ _ | .typeError _ | .lateStreamEventError _ _ => true
  | .databaseError _ | .overflowError _ | .assertionError => false

/-- `_utc`. -/
def utc (fieldName : String) (value : PyDatetime) : Except PyError UtcMillis :=
  requireUtcMilliseconds " must include timezone information" fieldName value

/-! ## Views of the state -/

namespace IncrementalEvidenceState

variable (config : IncrementalConfig) (s : IncrementalEvidenceState D)

/-- The sort key `(timestamp, event_id, identity)`. -/
def orderedEventKey (item : EventIdentity × NormalizedEvent) :
    Int ×ₗ String ×ₗ (String ×ₗ String ×ₗ String ×ₗ String) ×ₗ String :=
  toLex (item.2.timestamp, toLex (item.2.eventId, toLex (partitionKey item.1.1, item.1.2)))

/-- `_ordered_events`. -/
def orderedEvents : List NormalizedEvent :=
  (sortedBy orderedEventKey s.eventsByIdentity.rows).map Prod.snd

/-- `_eligible_events`. -/
def eligibleEvents (boundaryAt : UtcMillis) : List NormalizedEvent :=
  s.orderedEvents.filter fun e => e.timestamp ≤ boundaryAt

/-- The sequences that are accepted of a partition. -/
def acceptedSequences (partition : R1StreamPartition) : List Nat :=
  sortedBy id ((s.chunkSequenceIdentities.rows.filter fun item => item.1.1 = partition).map
    fun item => item.1.2).dedup

/-- The diagnostics of one final watermark. -/
def watermarkDiagnostics (item : R1FinalPartitionWatermark) : List String :=
  let sequences := s.acceptedSequences item.partition
  let covered := item.coveredThroughChunkSequence
  let excess := sequences.filter fun sequence => covered < sequence
  let missing := (List.range' 1 covered).filter fun sequence => sequence ∉ sequences
  (if excess = [] then [] else
    ["accepted chunk sequence exceeds run_closed coverage for " ++
      formatPartitionKey item.partition ++ ": " ++ tupleText excess]) ++
  if missing = [] then [] else
    ["run_closed covered chunk sequence is missing for " ++
      formatPartitionKey item.partition ++ ": " ++ tupleText missing]

/-- `_chunk_coverage_diagnostics`. -/
def chunkCoverageDiagnostics : List String :=
  match s.runClosed with
  | none => []
  | some runClosed =>
    let finals := runClosed.finalWatermarks.filter fun item =>
      config.isRequiredPartitionKey item.partition
    let accepted := ((s.chunkSequenceIdentities.rows.map fun item => item.1.1).filter
      config.isRequiredPartitionKey).dedup
    ((sortedBy partitionKey accepted).filter fun partition =>
        partition ∉ finals.map (·.partition)).map (fun partition =>
      "accepted chunk partition is absent from run_closed: " ++ formatPartitionKey partition) ++
    (sortedBy (fun item => partitionKey item.partition) finals).flatMap s.watermarkDiagnostics

/-- `_require_watermark_coverage`. -/
def requireWatermarkCoverage (boundaryAt : UtcMillis) : Except PyError Unit :=
  match s.runClosed with
  | none => .error .assertionError
  | some runClosed => do
    let entityWatermarks := runClosed.finalWatermarks.filter fun item =>
      config.isSelectorPartition item.partition
    raiseIf (entityWatermarks = [])
      (.valueError "run_closed does not contain a final watermark for entity_id")
    raiseIf (∃ item ∈ entityWatermarks, item.watermarkAt < boundaryAt)
      (.valueError "every entity final watermark must cover the candidate boundary")

/-- `_latest_verified_input_ingest_time`. -/
def latestVerifiedInputIngestTime : Except PyError UtcMillis := do
  let ingestTimes ← s.orderedEvents.mapM fun e =>
    match e.ingestTime with
    | some ingestTime => Except.ok ingestTime
    | none => .error (.valueError "missing_or_invalid_ingest_time")
  return ingestTimes.max?.getD config.runStart

/-- `_provisional_snapshot`. -/
def provisionalSnapshot (diagnostics : List String := []) :
    Except PyError (IncrementalEvidenceSnapshot D) := do
  let selectorResult ← selectR1Lineage config.selectorPolicy (some (Seal.PyDatetime.utcMillis config.runStart))
    s.orderedEvents
  return {
    status := if selectorResult.selection ≠ none then .provisional else .accumulating
    selectorResult
    diagnostics }

/-- The snapshot of `_fail_closed`. -/
def failedClosedSnapshot (diagnostics : List String) : IncrementalEvidenceSnapshot D where
  status := .failedClosed
  selectorResult := s.snapshot.selectorResult
  closeMode := if config.requiredPartitionContract ≠ none then some .verifiedCloseProof
    else s.snapshot.closeMode
  availabilityContractVersion :=
    if config.requiredPartitionContract ≠ none then some .v02 else none
  diagnostics

/-- The state before any chunk, but for its snapshot. -/
def empty (snapshot : IncrementalEvidenceSnapshot D) : IncrementalEvidenceState D where
  eventsByIdentity := .empty
  eventHashes := .empty
  chunkHashes := .empty
  chunkSequenceIdentities := .empty
  chunksByIdentity := .empty
  runClosed := none
  verifiedProof := none
  proofValidation := none
  acceptedCloseReceipt := none
  candidatePolicy := none
  snapshot := snapshot

/-- `__init__`, of what it accepts. -/
def init : Except PyError (IncrementalEvidenceState D) := do
  let snapshot ← (empty ⟨.accumulating, ⟨none, []⟩, [], [], none, [], none, none, none, none, none,
    none, []⟩ : IncrementalEvidenceState D).provisionalSnapshot config
  return empty snapshot

end IncrementalEvidenceState

end IncidentAwareness.Incremental
