import IncidentAwareness.Archive.Worker
import IncidentAwareness.Lib.Program

/-!
# Workers that run at the same time

`run_worker` of any number of Workers on one database, one archive and one queue.
Every call of `_process_message` is one atomic step, under a fault that the
environment decides, and the steps of different Workers interleave.

A Worker's connection sees the committed tables with its own pending writes, which a
commit applies and a rollback drops. A transaction holds the advisory lock of the
object that it acquired and the rows of `r1_archive_publications` that it inserted or
updated; another Worker's statement on them waits.

The Runtime snapshots of the standalone pipeline's stages are saved on connections of
their own: they come from outside (`FleetStep.observe`).

The deliveries to one Worker (`deliver`) are runs of this fleet (`exists_steps_of_run`).
-/

namespace IncidentAwareness.Archive

open IncidentAwareness.Common IncidentAwareness.Lib IncidentAwareness.Persistence

variable {ι : Type}

/-! ## The world -/

/-- A statement that changes the tables. -/
inductive TableWrite where
  | insertRun (runId : String)
  | savePending (publication : ArchivePublication)
  | saveSuccess (receipt : S3ObjectReceipt)
  | updateStatus (runId : String) (status : PublicationStatus)
      (errorType errorMessage : Option String)
  | saveRuntime (status : PipelineRuntimeStatus)

/-- What a statement does to the tables as it finds them. -/
def TableWrite.apply (d : Stores) : TableWrite → Stores
  | insertRun runId => { d with runIds := d.runIds ++ [runId] }
  | savePending publication =>
    match d.publications.insert? { payload := publication.payload } with
    | some publications => { d with publications := publications }
    | none => d
  | saveSuccess receipt => d.saveSuccess receipt
  | updateStatus runId status errorType errorMessage =>
    match d.updateStatus runId status errorType errorMessage with
    | .ok d => d
    | .error _ => d
  | saveRuntime status => d.saveRuntime status

/-- The tables after some statements. -/
def Stores.applyAll (d : Stores) (writes : List TableWrite) : Stores :=
  writes.foldl TableWrite.apply d

/-- The database with its open transactions, the S3 objects under the archive prefix,
and the queue. -/
structure World (ι : Type) where
  committed : Stores
  pending : ι → List TableWrite
  objectLock : Int → Option ι
  rowLock : String → Option ι
  archive : ObjectKey → Option Bytes
  queue : List Message

namespace World

variable (w : World ι) (i : ι)

/-- The tables as a Worker's connection sees them. -/
def view : Stores := w.committed.applyAll (w.pending i)

section Locks

variable [DecidableEq ι]

/-- The Worker owns the lock, or no one does. -/
def objectFree (lockKey : Int) : Prop := w.objectLock lockKey = none ∨ w.objectLock lockKey = some i

/-- The Worker has written the row, or no one has, in an open transaction. -/
def rowFree (runId : String) : Prop := w.rowLock runId = none ∨ w.rowLock runId = some i

instance (lockKey : Int) : Decidable (w.objectFree i lockKey) := inferInstanceAs (Decidable (_ ∨ _))

instance (runId : String) : Decidable (w.rowFree i runId) := inferInstanceAs (Decidable (_ ∨ _))

/-- `pg_advisory_xact_lock`. -/
def lockObject (lockKey : Int) : World ι :=
  { w with objectLock := Function.update w.objectLock lockKey (some i) }

/-- The lock of a row that a statement wrote. -/
def lockRow (runId : String) : World ι :=
  { w with rowLock := Function.update w.rowLock runId (some i) }

/-- A statement becomes part of the transaction. -/
def push (write : TableWrite) : World ι :=
  { w with pending := Function.update w.pending i (w.pending i ++ [write]) }

/-- `connection.rollback()`, or a connection that is lost. -/
def rollback : World ι :=
  { w with
    pending := Function.update w.pending i []
    objectLock := fun k => if w.objectLock k = some i then none else w.objectLock k
    rowLock := fun k => if w.rowLock k = some i then none else w.rowLock k }

/-- `connection.commit()`. -/
def commit : World ι := { w.rollback i with committed := w.view i }

end Locks

end World

/-- The calls of a Worker. -/
inductive Site where
  | acquireExecution (object : S3Object)
  | getPublication (runId : String)
  | releaseExecution
  | makeDirectory
  | download (object : S3Object)
  | standalone (object : S3Object)
  | readArchive
  | savePending (runId : String)
  | saveReceipt (object : S3Object)
  | commitReceipt (object : S3Object) (runId : String)
  | putObject (key : ObjectKey)
  | getObject (key : ObjectKey)
  | recordError (runId : String) (status : PublicationStatus)
  | commitError (runId : String) (status : PublicationStatus)
  | updateStatus (runId : String)
  | listRuntimes (runId : String)
  | saveRuntime (entityId : String)
  | commitStatus (runId : String)
  | observe
  deriving DecidableEq, Repr

/-- A part of a Worker. -/
abbrev Job (ι α : Type) := Program Site WorkerError (World ι) α

/-- A tracker at the end of the standalone pipeline, and how the pipeline ended. -/
structure StandaloneRun where
  tracker : Option RuntimeTracker
  result : Except ExternalError (Option R1GeneratedArchive)

/-- The configuration of a Worker, and what its pipeline and its clock give. -/
structure FleetEnvironment where
  publicationStore : Bool := true
  date : String
  standalone : S3Object → String → StandaloneRun
  clock : S3Object → UtcMillis

section Worker

variable [DecidableEq ι] (sha256 : Sha256) (receiptLockKey : S3Object → Int) (self : ι)

/-! ## Statements -/

/-- A statement that only reads. -/
def query {α : Type} (site : Site) (q : Stores → Except WorkerError α) : Job ι α :=
  .request site fun w => some (q (w.view self), w)

/-- A statement that writes no row that another Worker may hold. -/
def execute (site : Site) (write : TableWrite) : Job ι Unit :=
  .request site fun w => some (.ok (), w.push self write)

/-- `connection.commit()`. -/
def commitTransaction (site : Site) : Job ι Unit :=
  .request site fun w => some (.ok (), w.commit self)

/-- A call that changes nothing here. -/
def unchanged (site : Site) : Job ι Unit := .request site fun w => some (.ok (), w)

/-- `acquire_execution`: the advisory lock of the object, then its receipt. -/
def acquireExecution (object : S3Object) : Job ι (Option String) :=
  .request (.acquireExecution object) fun w =>
    if w.objectFree self (receiptLockKey object) then
      some ((w.view self).getSuccessfulRunId object, w.lockObject self (receiptLockKey object))
    else none

/-- `save_pending`. The insert waits for another Worker's insert of the row. -/
def savePending (publication : ArchivePublication) : Job ι ArchivePublication :=
  .request (.savePending publication.runId) fun w =>
    match (w.view self).savePending publication with
    | .error e => some (.error e, w)
    | .ok (_, saved) =>
      if (w.view self).publications.get publication.runId ≠ none then some (.ok saved, w)
      else if w.rowFree self publication.runId then
        some (.ok saved, (w.lockRow self publication.runId).push self (.savePending publication))
      else none

/-- `update_status`. The update waits for another Worker's write of the row. -/
def updateStatus (site : Site) (runId : String) (status : PublicationStatus)
    (errorType errorMessage : Option String := none) : Job ι Unit :=
  .request site fun w =>
    match (w.view self).updateStatus runId status errorType errorMessage with
    | .error e => some (.error e, w)
    | .ok _ =>
      if w.rowFree self runId then
        some (.ok (), (w.lockRow self runId).push self
          (.updateStatus runId status errorType errorMessage))
      else none

/-- `PipelineRuntimeStatusRepository.save`: whether the status was stored. -/
def saveRuntime (status : PipelineRuntimeStatus) : Job ι Bool :=
  .request (.saveRuntime status.val.entityId) fun w =>
    some (.ok ((w.view self).runtimes.save status).2, w.push self (.saveRuntime status))

/-! ## The archive -/

/-- `put_object` with `IfNoneMatch="*"`. -/
def putArchiveObject (key : ObjectKey) (content : Bytes) : Job ι Unit :=
  .request (.putObject key) fun w =>
    match w.archive key with
    | some _ => some (.error (.external (.clientError "PreconditionFailed")), w)
    | none => some (.ok (), { w with archive := Function.update w.archive key (some content) })

/-- `get_object` and its body. -/
def getArchiveObject (key : ObjectKey) : Job ι Bytes :=
  .request (.getObject key) fun w =>
    match w.archive key with
    | none => some (.error (.external (.clientError "NoSuchKey")), w)
    | some content => some (.ok content, w)

/-- The `except` clauses of `_read_s3_object`. -/
def objectNotRead (key : ObjectKey) : WorkerError → Job ι (Option Bytes)
  | .external (.clientError code) =>
    if code ∈ missingObjectCodes then pure none
    else .raise (.archiveUpload ("R1 S3 read failed for " ++ key.key ++ ": " ++ code))
  | .external (.botoCoreError _) =>
    .raise (.archiveUpload ("R1 S3 read failed for " ++ key.key))
  | e => .raise e

/-- What `_read_s3_object` makes of the call. -/
def objectRead (key : ObjectKey) : Except WorkerError Bytes → Job ι (Option Bytes)
  | .ok content => pure (some content)
  | .error e => objectNotRead key e

/-- `_read_s3_object`. -/
def readArchiveObject (key : ObjectKey) : Job ι (Option Bytes) :=
  (getArchiveObject key).attempt >>= objectRead key

/-- `_validate_existing_content`, of what was read. -/
def validateContent (key : ObjectKey) (entry : ArchiveEntry) (missing : String) :
    Option Bytes → Job ι Unit
  | none => .raise (.archiveUpload missing)
  | some content =>
    if sha256.hexdigest content ≠ entry.expectedSha256 then
      .raise (.archiveConflict ("R1 archive content conflict for " ++ key.key))
    else pure ()

/-- Read the object back and compare it with what was to be uploaded. -/
def verifyArchiveObject (key : ObjectKey) (entry : ArchiveEntry) (missing : String) : Job ι Unit :=
  readArchiveObject key >>= validateContent sha256 key entry missing

/-- The `except` clauses of `_put_immutable_object`. -/
def objectNotPut (key : ObjectKey) (entry : ArchiveEntry) : WorkerError → Job ι Unit
  | .external (.clientError code) =>
    if code ∈ preconditionCodes then
      verifyArchiveObject sha256 key entry
        ("R1 S3 conditional upload failed but " ++ key.key ++ " is not readable")
    else .raise (.archiveUpload ("R1 S3 upload failed for " ++ key.key ++ ": " ++ code))
  | .external (.botoCoreError _) =>
    .raise (.archiveUpload ("R1 S3 upload failed for " ++ key.key))
  | e => .raise e

/-- What `_put_immutable_object` makes of the upload. -/
def objectPut (key : ObjectKey) (entry : ArchiveEntry) : Except WorkerError Unit → Job ι Unit
  | .ok () => verifyArchiveObject sha256 key entry
      ("R1 S3 upload verification found no object for " ++ key.key)
  | .error e => objectNotPut sha256 key entry e

/-- `_put_immutable_object`. Whether the object was uploaded or there already is only logged. -/
def putImmutableArchiveObject (key : ObjectKey) (entry : ArchiveEntry) : Job ι Unit :=
  (putArchiveObject key entry.content).attempt >>= objectPut sha256 key entry

/-- `publish_r1_archive`. -/
def publishArchive (publication : ArchivePublication) : Job ι Unit := do
  Program.done (validatePublication sha256 publication)
  (archiveEntries publication.payload).forM fun entry =>
    putImmutableArchiveObject sha256 (archiveKey publication.payload entry.filename) entry

/-! ## The publication store -/

/-- `mark_retryable` and `mark_failed`. -/
def markPublicationError (runId : String) (status : PublicationStatus) (error : WorkerError) :
    Job ι Unit := do
  updateStatus self (.recordError runId status) runId status (some error.typeName) (some error.text)
  commitTransaction self (.commitError runId status)

/-- Whether `mark_published` could store the completion of a Runtime. -/
def runtimeSaved : Bool → Job ι Unit
  | true => pure ()
  | false => .raise (.external (.osError
      "R1 archive was published but its running Runtime could not be completed"))

/-- The body of the loop of `mark_published`. -/
def completeRuntimeStatus (completedAt : UtcMillis) (runtimeStatus : PipelineRuntimeStatus) :
    Job ι Unit :=
  match runtimeStatus.val.status with
  | .failed => .raise (.external (.osError
      "R1 archive cannot be finalized while its Runtime is terminal failed"))
  | .completed => pure ()
  | .running =>
    match construct RuntimeStatusFields.validate
        (runtimeStatus.val.complete (max completedAt runtimeStatus.val.updatedAt)) with
    | .error e => .raise (.python e)
    | .ok completedStatus => saveRuntime self completedStatus >>= runtimeSaved

/-- `mark_published`. -/
def markArchivePublished (completedAt : UtcMillis) (runId : String) : Job ι Unit := do
  updateStatus self (.updateStatus runId) runId .published
  let statuses ← query self (.listRuntimes runId) fun d => .ok (d.runtimes.listForRun runId)
  statuses.forM (completeRuntimeStatus self completedAt)
  commitTransaction self (.commitStatus runId)

/-- `_record_publication_failure`: an exception of the recorder is only noted. -/
def recordFailure (runId : String) (status : PublicationStatus) (error : WorkerError) : Job ι Unit := do
  let _ ← (markPublicationError self runId status error).attempt
  return ()

/-- The end of `_publish_durable_r1_archive` after `mark_published`. -/
def archiveMarked : Except WorkerError Unit → Job ι Unit
  | .ok () => pure ()
  | .error e =>
    if e.isOperational then
      .raise (.retryable "R1 archive objects were verified but the published state commit failed")
    else .raise e

/-- What `_publish_durable_r1_archive` makes of the upload. -/
def archivePublished (completedAt : UtcMillis) (runId : String) : Except WorkerError Unit → Job ι Unit
  | .error (.archiveConflict text) => do
    recordFailure self runId .failed (.archiveConflict text)
    .raise (.permanent text)
  | .error (.archiveUpload text) => do
    recordFailure self runId .retryable (.archiveUpload text)
    .raise (.retryable text)
  | .error e => .raise e
  | .ok () => (markArchivePublished self completedAt runId).attempt >>= archiveMarked

/-- `_publish_durable_r1_archive`. -/
def publishDurableArchive (completedAt : UtcMillis) (publication : ArchivePublication) : Job ι Unit :=
  if publication.status = .failed then
    .raise (.permanent "R1 archive publication is in terminal failed state")
  else (publishArchive sha256 publication).attempt >>= archivePublished self completedAt publication.runId

/-! ## One input -/

variable (env : FleetEnvironment)

/-- A Runtime snapshot on a connection of its own, where an exception is only logged. -/
def observeRuntime : Option PipelineRuntimeStatus → Job ι Unit
  | none => pure ()
  | some status => do
    let _ ← (Program.request (α := Unit) .observe fun (w : World ι) =>
      some (.ok (), { w with committed := w.committed.saveRuntime status })).attempt
    return ()

/-- The last call of a tracker, if there is one. -/
def endTracker (tracker : Option RuntimeTracker) (trackerCall : TrackerCall) : Job ι Unit :=
  match tracker with
  | none => pure ()
  | some tracker => observeRuntime (tracker.apply trackerCall).2

/-- The `except` clauses of `_download_sysmon_jsonl`. -/
def objectDownloaded (object : S3Object) : Except WorkerError Unit → Job ι Unit
  | .ok () => pure ()
  | .error (.external (.clientError code)) =>
    if code ∈ permanentS3ErrorCodes then
      .raise (.permanent ("S3 object cannot be read for " ++ object.bucket ++ "/" ++ object.key ++
        ": " ++ code))
    else .raise (.retryable ("S3 download failed for " ++ object.bucket ++ "/" ++ object.key ++
      ": " ++ code))
  | .error (.external (.botoCoreError _)) =>
    .raise (.retryable ("S3 download failed for " ++ object.bucket ++ "/" ++ object.key))
  | .error e => .raise e

/-- `_download_sysmon_jsonl`. -/
def downloadObject (object : S3Object) : Job ι Unit :=
  (unchanged (.download object)).attempt >>= objectDownloaded object

/-- `run_standalone_sysmon_jsonl`: a run id that the connection sees no row of, and the
rows of its run. -/
def runStandaloneJob (object : S3Object) : Job ι StandaloneExecution :=
  .request (.standalone object) fun w =>
    match allocateRunId (w.view self).runIds env.date 1 999 with
    | none => some (.error (.runtimeError
        "no unused standalone run_id remains for the current UTC date"), w)
    | some runId =>
      match (env.standalone object runId).result with
      | .error e => some (.error (.external e), w)
      | .ok r1Archive => some (.ok
          { runId := runId
            r1Archive := r1Archive
            runtimeTracker := (env.standalone object runId).tracker.map fun t => { t with runId := runId } },
          w.push self (.insertRun runId))

/-- The exceptions of `run_standalone`. -/
def standaloneEnded : Except WorkerError StandaloneExecution → Job ι StandaloneExecution
  | .ok execution => pure execution
  | .error e =>
    if e.isValueError then .raise (.permanent e.text)
    else if e.isOperational then .raise (.retryable e.text)
    else .raise e

/-- `save_pending` of the archive. -/
def insertArchive (runId : String) (r1Archive : R1GeneratedArchive) : Job ι ArchivePublication := do
  unchanged .readArchive
  savePending self (r1Archive.toPublication sha256 runId)

/-- The exceptions of `save_pending`. -/
def archiveInserted : Except WorkerError ArchivePublication → Job ι (Option ArchivePublication)
  | .ok publication => pure (some publication)
  | .error e => if e.isValueError then .raise (.permanent e.text) else .raise e

/-- The pending publication of an execution, if it has an archive. -/
def savePendingArchive (execution : StandaloneExecution) : Job ι (Option ArchivePublication) :=
  match execution.r1Archive with
  | none => pure none
  | some r1Archive =>
    if env.publicationStore = false then
      .raise (.retryable "R1 production requires durable receipt and publication stores")
    else (insertArchive sha256 self execution.runId r1Archive).attempt >>= archiveInserted

/-- What an execution needs before its results are durable: the pending publication,
the receipt and the commit. -/
def commitExecution (object : S3Object) (execution : StandaloneExecution) :
    Job ι (Option ArchivePublication) :=
  if isBlank execution.runId then
    .raise (.retryable "standalone First Cycle returned a blank run_id")
  else do
    let publication ← savePendingArchive sha256 self env execution
    execute self (.saveReceipt object) (.saveSuccess ⟨object, execution.runId⟩)
    commitTransaction self (.commitReceipt object execution.runId)
    return publication

/-- The publication of a pending archive, if there is one. -/
def publishPendingArchive (completedAt : UtcMillis) : Option ArchivePublication → Job ι Unit
  | none => pure ()
  | some publication => publishDurableArchive sha256 self completedAt publication

/-- The end of an input after its receipt is committed: a retryable error leaves the
Runtime as it is, and every other one fails it. -/
def executionPublished (object : S3Object) (execution : StandaloneExecution) :
    Except WorkerError Unit → Job ι Unit
  | .ok () => endTracker execution.runtimeTracker (.complete (env.clock object))
  | .error (.retryable text) => .raise (.retryable text)
  | .error e => do
    endTracker execution.runtimeTracker (.fail .persistence (env.clock object))
    .raise e

/-- The end of an input after its execution: before the receipt is committed every
error fails the Runtime. -/
def executionCommitted (object : S3Object) (execution : StandaloneExecution) :
    Except WorkerError (Option ArchivePublication) → Job ι Unit
  | .error e => do
    endTracker execution.runtimeTracker (.fail .persistence (env.clock object))
    .raise e
  | .ok publication =>
    (publishPendingArchive sha256 self (env.clock object) publication).attempt >>=
      executionPublished env object execution

/-- An input without a receipt. -/
def executeObject (object : S3Object) : Job ι Unit := do
  unchanged .makeDirectory
  downloadObject object
  let execution ← (runStandaloneJob self env object).attempt >>= standaloneEnded
  (commitExecution sha256 self env object execution).attempt >>=
    executionCommitted sha256 self env object execution

/-- What a skipped input does with the publication of its run. -/
def publicationFound (object : S3Object) : Option ArchivePublication → Job ι Unit
  | some publication => publishDurableArchive sha256 self (env.clock object) publication
  | none => commitTransaction self .releaseExecution

/-- An input whose receipt names a run. -/
def skipObject (object : S3Object) (priorRunId : String) : Job ι Unit :=
  if env.publicationStore then
    (query self (.getPublication priorRunId) fun d =>
      (d.getPublication priorRunId).mapError .python) >>= publicationFound sha256 self env object
  else commitTransaction self .releaseExecution

/-- What the receipt of an input decides. -/
def processAcquired (object : S3Object) : Option String → Job ι Unit
  | some priorRunId => skipObject sha256 self env object priorRunId
  | none => executeObject sha256 self env object

/-- The body of the loop of `_process_message`. -/
def processObject (object : S3Object) : Job ι Unit :=
  acquireExecution receiptLockKey self object >>= processAcquired sha256 self env object

end Worker

/-! ## The fleet -/

/-- The processing of a message: the input in work, and the inputs after it. -/
structure Attempt (ι : Type) where
  message : Message
  env : FleetEnvironment
  object : S3Object
  job : Job ι Unit
  remaining : List S3Object

/-- What a Worker does. -/
inductive Activity (ι : Type) where
  | idle
  | processing (attempt : Attempt ι)
  | deleting (message : Message) (env : FleetEnvironment)
  | rollingBack

/-- The world and its Workers. -/
structure Fleet (ι : Type) where
  world : World ι
  activity : ι → Activity ι

/-- What happens: a Worker receives a message or takes its next step, a notification
arrives, or the telemetry of a pipeline saves a Runtime status. -/
inductive FleetStep (ι : Type) where
  | receive (worker : ι) (message : Message) (env : FleetEnvironment)
  | advance (worker : ι) (fault : Fault ExternalError)
  | send (message : Message)
  | observe (status : PipelineRuntimeStatus)

/-- How a step ends. -/
inductive FleetAnswer where
  | ignored
  | waits
  | received (message : Message)
  | called (site : Site) (applied : Bool)
  | processed (object : S3Object)
  | failed (object : Option S3Object)
  | deleted (message : Message)
  | rolledBack
  | outside
  deriving DecidableEq, Repr

namespace Fleet

variable [DecidableEq ι] (sha256 : Sha256) (receiptLockKey : S3Object → Int)

/-- A Worker turns to something else. -/
def become (s : Fleet ι) (i : ι) (activity : Activity ι) : Fleet ι :=
  { s with activity := Function.update s.activity i activity }

/-- The inputs of a message that are left, by the loop of `_process_message`. -/
def nextInput (i : ι) (message : Message) (env : FleetEnvironment) : List S3Object → Activity ι
  | [] => .deleting message env
  | object :: remaining =>
    .processing ⟨message, env, object, processObject sha256 receiptLockKey i env object, remaining⟩

/-- `_process_message` up to its loop; of equal inputs the first counts (`_unique_inputs`). -/
def receive (s : Fleet ι) (i : ι) (message : Message) (env : FleetEnvironment) :
    Fleet ι × FleetAnswer :=
  match message.body with
  | .testEvent => (s.become i (.deleting message env), .received message)
  | .invalid _ => (s.become i .rollingBack, .failed none)
  | .records inputs =>
    (s.become i (nextInput sha256 receiptLockKey i message env inputs.eraseDups), .received message)

/-- A Worker whose process ends: its connection is lost. -/
def stop (s : Fleet ι) (i : ι) : Fleet ι :=
  { s.become i .idle with world := s.world.rollback i }

/-- The next call of the input in work. -/
def advanceJob (s : Fleet ι) (i : ι) (attempt : Attempt ι) (fault : Fault WorkerError) :
    Fleet ι × FleetAnswer :=
  match attempt.job.advance fault s.world with
  | .finished => (s, .ignored)
  | .blocked => (s, .waits)
  | .called site applied (some job) w =>
    ({ s.become i (.processing { attempt with job := job }) with world := w }, .called site applied)
  | .called site applied none w => ({ s with world := w }.stop i, .called site applied)

/-- A step of the loop of `_process_message`. -/
def advanceAttempt (s : Fleet ι) (i : ι) (attempt : Attempt ι) (fault : Fault WorkerError) :
    Fleet ι × FleetAnswer :=
  match attempt.job with
  | .done (.ok ()) =>
    (s.become i (nextInput sha256 receiptLockKey i attempt.message attempt.env attempt.remaining),
      .processed attempt.object)
  | .done (.error _) => (s.become i .rollingBack, .failed (some attempt.object))
  | .call .. => s.advanceJob i attempt fault

/-- `delete_message`, whose exceptions end the process. -/
def delete (s : Fleet ι) (i : ι) (message : Message) (fault : Fault WorkerError) :
    Fleet ι × FleetAnswer :=
  let deleted : Fleet ι :=
    { s with world := { s.world with queue := s.world.queue.filter (· ≠ message) } }
  match fault with
  | .none => (deleted.become i .idle, .deleted message)
  | .raises _ true | .crash true => (deleted.stop i, .deleted message)
  | .raises _ false | .crash false => (s.stop i, .ignored)

/-- The next step of a Worker. A rollback that fails ends the process. -/
def advance (s : Fleet ι) (i : ι) (fault : Fault WorkerError) : Fleet ι × FleetAnswer :=
  match s.activity i with
  | .idle => (s, .ignored)
  | .processing attempt => s.advanceAttempt sha256 receiptLockKey i attempt fault
  | .deleting message _ => s.delete i message fault
  | .rollingBack => (s.stop i, .rolledBack)

/-- One step. A Worker receives messages of the queue, one at a time. -/
def step (s : Fleet ι) : FleetStep ι → Fleet ι × FleetAnswer
  | .receive i message env =>
    match s.activity i with
    | .idle => if message ∈ s.world.queue then s.receive sha256 receiptLockKey i message env
        else (s, .ignored)
    | _ => (s, .ignored)
  | .advance i fault => s.advance sha256 receiptLockKey i (fault.map .external)
  | .send message =>
    ({ s with world := { s.world with queue := s.world.queue ++ [message] } }, .outside)
  | .observe status =>
    ({ s with world := { s.world with committed := s.world.committed.saveRuntime status } }, .outside)

/-- Idle Workers on empty tables, with nothing under the archive prefix. -/
def initial (runIds : List String) (runtimes : RuntimeTable) (queue : List Message) : Fleet ι where
  world :=
    { committed := ⟨runIds, .empty, .empty, runtimes⟩
      pending := fun _ => []
      objectLock := fun _ => none
      rowLock := fun _ => none
      archive := fun _ => none
      queue := queue }
  activity _ := .idle

end Fleet

end IncidentAwareness.Archive
