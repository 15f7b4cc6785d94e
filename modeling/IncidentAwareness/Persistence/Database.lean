import IncidentAwareness.Lib.Table
import IncidentAwareness.Persistence.Results

/-!
# The result tables

The PostgreSQL tables of the First Cycle with their primary keys, foreign keys
and checks, and the repositories that read and write them. A write is one
statement: it gives the tables after it, or the constraint it breaks.
-/

namespace IncidentAwareness.Persistence

open IncidentAwareness.Common IncidentAwareness.Lib

/-- The scope `(run_id, entity_id)` of a result. -/
abbrev Scope := String × String

def FusionResult.scope (r : FusionResult) : Scope := (r.runId, r.entityId)
def FusionStoppingTrace.scope (r : FusionStoppingTrace) : Scope := (r.runId, r.entityId)
def FusionRuntimeConfigSnapshot.scope (r : FusionRuntimeConfigSnapshot) : Scope :=
  (r.runId, r.entityId)
def DetectionResult.scope (r : DetectionResult) : Scope := (r.runId, r.entityId)
def DecisionResult.scope (r : DecisionResult) : Scope := (r.runId, r.entityId)

/-- An immutable S3 object version. -/
structure S3Object where
  bucket : String
  key : String
  eTag : String
  deriving DecidableEq, Repr

/-- A row of `s3_object_receipts`. -/
structure S3ObjectReceipt where
  object : S3Object
  runId : String
  deriving DecidableEq, Repr

/-- The payload of a row of `r1_archive_publications`. -/
structure R1ArchivePublication where
  runId : String
  bucket : String
  objectPrefix : String
  evidenceContent : List UInt8
  evidenceSha256 : String
  summaryContent : List UInt8
  summarySha256 : String
  deriving DecidableEq, Repr

/-- The tables. -/
structure Database where
  runs : Table (SameKey RunMetadata.runId)
  events : Table (SameKey NormalizedEvent.eventId)
  fusionResults : Table (SameKey FusionResult.scope)
  fusionStoppingTraces : Table (SameKey FusionStoppingTrace.scope)
  fusionRuntimeConfigSnapshots : Table (SameKey FusionRuntimeConfigSnapshot.scope)
  detectionResults : Table (SameKey DetectionResult.scope)
  decisions : Table (SameKey DecisionResult.decisionId)
  decisionRuntimeSnapshots : Table (SameKey DecisionRuntimeSnapshot.decisionId)
  s3ObjectReceipts : Table (SameKey S3ObjectReceipt.object)
  r1ArchivePublications : Table (SameKey R1ArchivePublication.runId)

/-- The migrated database. -/
def Database.empty : Database where
  runs := .empty
  events := .empty
  fusionResults := .empty
  fusionStoppingTraces := .empty
  fusionRuntimeConfigSnapshots := .empty
  detectionResults := .empty
  decisions := .empty
  decisionRuntimeSnapshots := .empty
  s3ObjectReceipts := .empty
  r1ArchivePublications := .empty

/-- The database without its Decisions. -/
def Database.withoutDecisions (db : Database) : Database :=
  { db with decisions := .empty, decisionRuntimeSnapshots := .empty }

/-- A write statement. -/
abbrev Statement := Database → Except PersistenceError Database

/-- The `CHECK` constraints of a table. -/
def check (table : String) (p : Prop) [Decidable p] : Except PersistenceError Unit :=
  raiseIf (¬ p) (.databaseError "check" table)

/-- The foreign key to `runs`. -/
def Database.requireRun (db : Database) (table runId : String) : Except PersistenceError Unit :=
  raiseIf (db.runs.get runId = none) (.databaseError "foreign key" table)

/-- `btrim(value) <> ''`. -/
abbrev NotBlank (value : String) : Prop := isBtrimEmpty value = false

/-- A status with its time: `(status = 'detected') = (time IS NOT NULL)`. -/
abbrev StatusTime {τ : Type} (status : DetectorStatus) (time : Option τ) : Prop :=
  time.isSome = decide (status = .detected)

/-! ## Repositories -/

/-- `RunRepository.save`. -/
def RunRepository.save (run : RunMetadata) : Statement := fun db => do
  check "runs" (NotBlank run.runId ∧ NotBlank run.scenarioId ∧ NotBlank run.targetHost ∧
    ∀ t ∈ run.endTime, run.startTime ≤ t)
  return { db with runs := db.runs.upsert run }

/-- The `INSERT … ON CONFLICT DO UPDATE` of a table whose rows belong to a run. -/
def saveOwned (table : String) (checks : Prop) [Decidable checks] (runId : String)
    (upsert : Database → Database) : Statement := fun db => do
  check table checks
  db.requireRun table runId
  return upsert db

/-- `EventRepository.save`. -/
def EventRepository.save (event : NormalizedEvent) : Statement :=
  saveOwned "events"
    (NotBlank event.eventId ∧ NotBlank event.hostId ∧ NotBlank event.eventType) event.runId
    fun db => { db with events := db.events.upsert event }

/-- `FusionResultRepository.save`. -/
def FusionResultRepository.save (result : FusionResult) : Statement :=
  saveOwned "fusion_results"
    (NotBlank result.entityId ∧ StatusTime result.fusionStatus result.fusionTime) result.runId
    fun db => { db with fusionResults := db.fusionResults.upsert result }

/-- `FusionStoppingTraceRepository.save`. -/
def FusionStoppingTraceRepository.save (trace : FusionStoppingTrace) : Statement :=
  saveOwned "fusion_stopping_traces"
    (NotBlank trace.entityId ∧ NotBlank trace.scoringConfigVersion) trace.runId
    fun db => { db with fusionStoppingTraces := db.fusionStoppingTraces.upsert trace }

/-- `FusionRuntimeConfigSnapshotRepository.save`. -/
def FusionRuntimeConfigSnapshotRepository.save (snapshot : FusionRuntimeConfigSnapshot) :
    Statement :=
  saveOwned "fusion_runtime_config_snapshots"
    (NotBlank snapshot.entityId ∧ NotBlank snapshot.configVersion) snapshot.runId
    fun db => { db with
      fusionRuntimeConfigSnapshots := db.fusionRuntimeConfigSnapshots.upsert snapshot }

/-- `DetectionResultRepository.save`. -/
def DetectionResultRepository.save (result : DetectionResult) : Statement :=
  saveOwned "detection_results"
    (NotBlank result.entityId ∧ StatusTime result.detectorStatus result.detectorTime ∧
      (result.detectorStatus = .detected → result.detectorId.isSome)) result.runId
    fun db => { db with detectionResults := db.detectionResults.upsert result }

/-- `DecisionRepository.save`: an `INSERT` that no conflict clause softens. -/
def DecisionRepository.save (decision : DecisionResult) : Statement := fun db => do
  check "decisions" (NotBlank decision.decisionId ∧ NotBlank decision.entityId ∧
    StatusTime decision.fastStatus decision.detectorTime ∧
    StatusTime decision.fusionStatus decision.fusionTime)
  match db.decisions.insert? decision with
  | none => .error (.databaseError "unique" "decisions")
  | some decisions => do
    db.requireRun "decisions" decision.runId
    return { db with decisions := decisions }

/-- `DecisionRuntimeSnapshotRepository.save`. -/
def DecisionRuntimeSnapshotRepository.save (snapshot : DecisionRuntimeSnapshot) :
    Statement := fun db => do
  check "decision_runtime_snapshots" (NotBlank snapshot.decisionId ∧ NotBlank snapshot.runId ∧
    NotBlank snapshot.entityId)
  match db.decisionRuntimeSnapshots.insert? snapshot with
  | none => .error (.databaseError "unique" "decision_runtime_snapshots")
  | some snapshots => do
    raiseIf (∀ d ∈ db.decisions.get snapshot.decisionId,
      d.scope ≠ (snapshot.runId, snapshot.entityId))
      (.databaseError "foreign key" "decision_runtime_snapshots")
    return { db with decisionRuntimeSnapshots := snapshots }

namespace Database

variable (db : Database)

/-- `DecisionRepository.list_by_scope`. -/
def scopeDecisions (runId entityId : String) : List DecisionResult :=
  db.decisions.rows.filter fun d => d.scope = (runId, entityId)

/-- The rows of the current head query: no Decision of the scope supersedes them,
and two are enough. -/
def currentDecisionHeads (runId entityId : String) : List DecisionResult :=
  let scope := db.scopeDecisions runId entityId
  (scope.filter fun d => ∀ successor ∈ scope,
    successor.supersedesDecisionId ≠ some d.decisionId).take 2

/-- `DecisionRepository.get_current_head`. -/
def getCurrentHead (runId entityId : String) : Except PersistenceError (Option DecisionResult) :=
  match db.currentDecisionHeads runId entityId with
  | [] =>
    if db.scopeDecisions runId entityId = [] then .ok none
    else .error (.decisionIntegrityError "no current Decision head for "
      [("run_id", runId), ("entity_id", entityId)])
  | [d] => .ok (some d)
  | _ => .error (.decisionIntegrityError "multiple current Decision heads for "
      [("run_id", runId), ("entity_id", entityId)])

end Database

/-! ## Receipts and publications -/

/-- `S3ObjectReceiptRepository.save_success`: `ON CONFLICT DO NOTHING`. -/
def S3ObjectReceiptRepository.saveSuccess (receipt : S3ObjectReceipt) : Statement := fun db => do
  check "s3_object_receipts" (NotBlank receipt.object.bucket ∧ NotBlank receipt.object.key ∧
    NotBlank receipt.object.eTag ∧ NotBlank receipt.runId)
  db.requireRun "s3_object_receipts" receipt.runId
  match db.s3ObjectReceipts.insert? receipt with
  | none => return db
  | some receipts => return { db with s3ObjectReceipts := receipts }

/-- `R1ArchivePublicationRepository.save_pending`. -/
def R1ArchivePublicationRepository.savePending (publication : R1ArchivePublication) :
    Statement := fun db => do
  check "r1_archive_publications" (NotBlank publication.runId ∧ NotBlank publication.bucket ∧
    NotBlank publication.objectPrefix)
  db.requireRun "r1_archive_publications" publication.runId
  match db.r1ArchivePublications.insert? publication with
  | some publications => return { db with r1ArchivePublications := publications }
  | none => do
    raiseIf (db.r1ArchivePublications.get publication.runId ≠ some publication)
      (.valueError "R1 archive publication conflicts with the existing run_id payload")
    return db

end IncidentAwareness.Persistence
