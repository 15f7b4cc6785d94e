import IncidentAwareness.Lib.Transaction
import IncidentAwareness.Persistence.Database
import Mathlib.Data.List.Dedup

/-!
# Persisting one execution

`persist_s0_results` and `persist_r1_results` as transaction programs, one
statement of the source a statement of the program. A transaction is READ
COMMITTED with autocommit off (what `_validate_decision_transaction_contract`
requires), so a read sees what others have committed before it, and an exception
rolls back. PostgreSQL's `hashtext` is a parameter.

A call with `commit=True` ends its transaction; with `commit=False` the caller
goes on (`next`).
-/

namespace IncidentAwareness.Persistence

open IncidentAwareness.Common IncidentAwareness.Lib

/-- An advisory lock: of one `bigint` key, or of two `integer` keys. -/
inductive AdvisoryLock where
  | bigint (key : Int)
  | pair (key₁ key₂ : Int)
  deriving DecidableEq, Repr

/-- A transaction on the result tables. -/
abbrev Transaction := Txn AdvisoryLock Database PersistenceError

/-- What a persistence call submits. -/
structure Submission where
  runMetadata : RunMetadata
  events : List NormalizedEvent
  fusionResult : FusionResult
  stoppingTrace : FusionStoppingTrace
  runtimeConfigSnapshot : FusionRuntimeConfigSnapshot
  fastResult : FastDetectionAdapterResult
  decisionResult : DecisionResult

namespace Submission

variable (s : Submission)

/-- The run ids and entity ids of the five results. -/
def resultScopes : List Scope :=
  [s.fusionResult.scope, s.stoppingTrace.scope, s.runtimeConfigSnapshot.scope,
    s.fastResult.detectionResult.scope, s.decisionResult.scope]

/-- `_validate_result_scope`. -/
def validateResultScope : Except PersistenceError Unit := do
  raiseIf (∃ e ∈ s.events, e.runId ≠ s.runMetadata.runId)
    (.valueError "NormalizedEvent run_id must match RunMetadata before persistence")
  raiseIf (∃ e ∈ s.events, e.hostId ≠ s.runMetadata.targetHost)
    (.valueError "NormalizedEvent host_id must match RunMetadata target_host")
  raiseIf (∃ r ∈ s.resultScopes, r.1 ≠ s.runMetadata.runId)
    (.valueError "result run_id must match RunMetadata before persistence")
  raiseIf (∃ r ∈ s.resultScopes, r.2 ≠ s.runMetadata.targetHost)
    (.valueError "result entity_id must match RunMetadata target_host")
  raiseIf ((s.resultScopes.map (·.2)).dedup.length ≠ 1)
    (.valueError "Fusion Runtime, Detection, and Decision results must share one entity_id")
  raiseIf (s.stoppingTrace.scoringConfigVersion ≠ s.fusionResult.scoringConfigVersion)
    (.valueError ("FusionStoppingTrace scoring_config_version must match " ++
      "FusionResult scoring_config_version before persistence"))
  validateRuntimeConfig s.fusionResult s.stoppingTrace s.runtimeConfigSnapshot
    " before persistence"
  validateTracePoints s.fusionResult s.stoppingTrace

/-- The Runtime snapshot of the Decision. -/
def runtimeSnapshot : Except PersistenceError DecisionRuntimeSnapshot :=
  buildDecisionRuntimeSnapshot s.decisionResult s.fastResult.detectionResult s.fusionResult
    s.stoppingTrace s.runtimeConfigSnapshot

/-- The writes before the Decision. -/
def detailStatements (saveRun : Bool) : List Statement :=
  (if saveRun then [RunRepository.save s.runMetadata] else []) ++
    s.events.map EventRepository.save ++
    [FusionResultRepository.save s.fusionResult,
      FusionStoppingTraceRepository.save s.stoppingTrace,
      FusionRuntimeConfigSnapshotRepository.save s.runtimeConfigSnapshot,
      DetectionResultRepository.save s.fastResult.detectionResult]

/-- The writes of a submission, in order. -/
def statements (saveRun : Bool) (snapshot : DecisionRuntimeSnapshot) : List Statement :=
  s.detailStatements saveRun ++
    [DecisionRepository.save s.decisionResult, DecisionRuntimeSnapshotRepository.save snapshot]

end Submission

/-- `_validate_existing_decision_scope`. -/
def validateExistingDecisionScope (existing : DecisionResult) (runId entityId : String) :
    Except PersistenceError Unit :=
  raiseIf (existing.runId ≠ runId ∨ existing.entityId ≠ entityId)
    (.decisionIntegrityError "decision_id already exists in a different scope: "
      [("decision_id", existing.decisionId)])

/-- `_persist` behind the current head that was read: the expected head, the
snapshot and the writes. -/
def persistBehind (s : Submission) (saveRun : Bool) (next : Transaction) :
    Except PersistenceError (Option DecisionResult) → Transaction
  | .error e => .raise e
  | .ok currentHead =>
    let actualHeadId := currentHead.map (·.decisionId)
    if actualHeadId ≠ s.decisionResult.supersedesDecisionId then
      .raise (.decisionConflictError s.decisionResult.supersedesDecisionId actualHeadId)
    else
      match s.runtimeSnapshot with
      | .error e => .raise e
      | .ok snapshot => .writes (s.statements saveRun snapshot) next

/-- `_persist` once no Decision has the id: the read of the current head. -/
def persistNew (s : Submission) (saveRun : Bool) (next : Transaction) : Transaction :=
  .read fun db => persistBehind s saveRun next
    (db.getCurrentHead s.decisionResult.runId s.decisionResult.entityId)

/-- `_persist` when the id has a Decision: the same one, or an error. -/
def persistExisting (s : Submission) (existing : DecisionResult) (next : Transaction) :
    Transaction :=
  match validateExistingDecisionScope existing s.decisionResult.runId s.decisionResult.entityId with
  | .error e => .raise e
  | .ok () =>
    if existing = s.decisionResult then next
    else .raise (.decisionIntegrityError "decision_id already exists with different content: "
      [("decision_id", s.decisionResult.decisionId)])

/-- `_persist` on the Decision that its id was found to have. -/
def persistFound (s : Submission) (saveRun : Bool) (next : Transaction) :
    Option DecisionResult → Transaction
  | some existing => persistExisting s existing next
  | none => persistNew s saveRun next

/-- `_persist` under its locks: the read of the Decision with the id. -/
def persistLocked (s : Submission) (saveRun : Bool) (next : Transaction) : Transaction :=
  .read fun db => persistFound s saveRun next (db.decisions.get s.decisionResult.decisionId)

section Persist

variable (hashtext : String → Int)

/-- The lock of a Decision id. -/
def decisionIdLock (decisionId : String) : AdvisoryLock := .bigint (hashtext decisionId)

/-- The lock of a Decision scope. -/
def decisionScopeLock (runId entityId : String) : AdvisoryLock :=
  .pair (hashtext runId) (hashtext entityId)

/-- `_persist`. -/
def persist (s : Submission) (saveRun : Bool) (next : Transaction) : Transaction :=
  .lock (decisionIdLock hashtext s.decisionResult.decisionId) <|
    .lock (decisionScopeLock hashtext s.decisionResult.runId s.decisionResult.entityId) <|
      persistLocked s saveRun next

/-- A transaction that validates its submission first. -/
def validated (s : Submission) (next : Transaction) : Transaction :=
  match s.validateResultScope with
  | .error e => .raise e
  | .ok () => next

/-- `persist_s0_results`. -/
def persistS0Results (s : Submission) (next : Transaction) : Transaction :=
  validated s (persist hashtext s true next)

/-- `_require_registered_r1_run`. -/
def requireRegisteredR1Run (db : Database) (run : RunMetadata) : Except PersistenceError Unit :=
  match db.runs.get run.runId with
  | none => .error (.r1RunRegistrationError "R1 results require a Run registered by its owner: "
      (some run.runId))
  | some registered =>
    raiseIf (registered.targetHost ≠ run.targetHost ∨ registered.startTime ≠ run.startTime ∨
        registered.endTime ≠ run.endTime)
      (.r1RunRegistrationError "registered Run host or bounds differ from the R1 input" none)

/-- `persist_r1_results`. -/
def persistR1Results (s : Submission) : Transaction :=
  .read fun db =>
    match requireRegisteredR1Run db s.runMetadata with
    | .error e => .raise e
    | .ok () => validated s (persist hashtext s false .commit)

/-- A persistence call that is a transaction of its own. -/
inductive PersistenceCall where
  | s0 (s : Submission)
  | r1 (s : Submission)

namespace PersistenceCall

/-- What a call submits. -/
def submission : PersistenceCall → Submission
  | s0 s => s
  | r1 s => s

/-- Whether the call saves the `runs` row too. -/
def saveRun : PersistenceCall → Bool
  | s0 _ => true
  | r1 _ => false

/-- The transaction of a call. -/
def transaction : PersistenceCall → Transaction
  | s0 s => persistS0Results hashtext s .commit
  | r1 s => persistR1Results hashtext s

end PersistenceCall

end Persist

/-- `resolve_expected_supersedes_decision_id`, on what its reads see. -/
def resolveExpectedSupersedesDecisionId (db : Database) (decisionId runId entityId : String) :
    Except PersistenceError (Option String) :=
  match db.decisions.get decisionId with
  | some existing => do
    validateExistingDecisionScope existing runId entityId
    return existing.supersedesDecisionId
  | none => do
    let currentHead ← db.getCurrentHead runId entityId
    return currentHead.map (·.decisionId)

end IncidentAwareness.Persistence
