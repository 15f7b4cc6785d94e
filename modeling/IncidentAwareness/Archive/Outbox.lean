import IncidentAwareness.Archive.Runtime
import IncidentAwareness.Lib.Process
import IncidentAwareness.Persistence.Database

/-!
# The archive outbox

The tables and the S3 objects that the SQS Worker publishes an R1 archive with,
the repository of `r1_archive_publications`, `publish_r1_archive` and the
publication store. Every database and S3 call is a `call` under the fault that
the environment decides for its `CallSite`; in the processing of one input each
is made at most once.

The Worker's connection sees the committed tables with its own writes
(`System.session`); `commit` and `rollback` move between the two.
-/

namespace IncidentAwareness.Archive

open IncidentAwareness.Common IncidentAwareness.Lib IncidentAwareness.Persistence

/-! ## Exceptions -/

/-- What the database driver, the S3 client and the file system raise. -/
inductive ExternalError where
  | operationalError (text : String)
  | osError (text : String)
  | valueError (text : String)
  | clientError (code : String)
  | botoCoreError (text : String)
  | other (name text : String)
  deriving DecidableEq, Repr

/-- What the Worker's code raises or passes on. -/
inductive WorkerError where
  | permanent (text : String)
  | retryable (text : String)
  | archiveConflict (text : String)
  | archiveUpload (text : String)
  | runtimeError (text : String)
  | python (e : PyError)
  | external (e : ExternalError)
  deriving DecidableEq, Repr

/-- `except ValueError`. -/
def WorkerError.isValueError : WorkerError → Bool
  | .python (.valueError _) => true
  | .python (.valueErrorQuoting _ _ _) => true
  | .external (.valueError _) => true
  | _ => false

/-- `except (OperationalError, OSError)`. -/
def WorkerError.isOperational : WorkerError → Bool
  | .external (.operationalError _) => true
  | .external (.osError _) => true
  | _ => false

/-- `str(error)`. -/
def WorkerError.text : WorkerError → String
  | .permanent text | .retryable text | .archiveConflict text | .archiveUpload text
  | .runtimeError text => text
  | .python (.valueError text) | .python (.typeError text) => text
  | .python (.valueErrorQuoting head quoted tail) => head ++ quoted ++ tail
  | .python _ => ""
  | .external (.operationalError text) | .external (.osError text) | .external (.valueError text)
  | .external (.botoCoreError text) | .external (.other _ text) => text
  | .external (.clientError code) => code

/-- `type(error).__name__` of the two errors that a publication records. -/
def WorkerError.typeName : WorkerError → String
  | .archiveConflict _ => "R1ArchiveConflictError"
  | .archiveUpload _ => "R1ArchiveUploadError"
  | _ => "Exception"

/-! ## Publications -/

/-- Object content. -/
abbrev Bytes := List UInt8

/-- `hashlib.sha256(content).hexdigest()`. -/
structure Sha256 where
  hexdigest : Bytes → String
  nonblank : ∀ content, isBlank (hexdigest content) = false

/-- `R1ArchivePublicationStatus`. -/
inductive PublicationStatus where
  | pending | retryable | published | failed
  deriving DecidableEq, Repr

/-- `R1ArchivePublication`: a row of `r1_archive_publications`. -/
structure ArchivePublication where
  payload : R1ArchivePublication
  status : PublicationStatus := .pending
  attemptCount : Nat := 0
  lastErrorType : Option String := none
  lastErrorMessage : Option String := none
  deriving DecidableEq, Repr

/-- The run of a publication. -/
abbrev ArchivePublication.runId (p : ArchivePublication) : String := p.payload.runId

/-- The tables. `runIds` are those of the rows of `runs` and `decisions`. -/
structure Stores where
  runIds : List String
  receipts : Table (SameKey S3ObjectReceipt.object)
  publications : Table (SameKey ArchivePublication.runId)
  runtimes : RuntimeTable

namespace Stores

variable (d : Stores)

/-- `_required_string` and `_optional_string`. -/
def requiredString (value fieldName : String) : Except PyError Unit :=
  raiseIf (isBlank value)
    (.typeError ("R1 archive publication " ++ fieldName ++ " must be a non-blank string"))

/-- `_publication_from_row`. -/
def publicationFromRow (row : ArchivePublication) : Except PyError ArchivePublication := do
  requiredString row.payload.runId "run_id"
  requiredString row.payload.bucket "bucket"
  requiredString row.payload.objectPrefix "object_prefix"
  requiredString row.payload.evidenceSha256 "evidence_sha256"
  requiredString row.payload.summarySha256 "summary_sha256"
  row.lastErrorType.forM fun value => requiredString value "last_error_type"
  row.lastErrorMessage.forM fun value => requiredString value "last_error_message"
  return row

/-- `R1ArchivePublicationRepository.get`. -/
def getPublication (runId : String) : Except PyError (Option ArchivePublication) :=
  match d.publications.get runId with
  | none => .ok none
  | some row => do
    let publication ← publicationFromRow row
    return some publication

/-- `R1ArchivePublicationRepository.save_pending`. -/
def savePending (publication : ArchivePublication) :
    Except WorkerError (Stores × ArchivePublication) :=
  match d.publications.insert? { payload := publication.payload } with
  | some publications => .ok ({ d with publications := publications }, publication)
  | none =>
    match d.getPublication publication.runId with
    | .error e => .error (.python e)
    | .ok none => .error (.runtimeError "R1 archive publication conflict lookup returned no row")
    | .ok (some existing) =>
      if existing.payload ≠ publication.payload then
        .error (.python (.valueError
          "R1 archive publication conflicts with the existing run_id payload"))
      else .ok (d, existing)

/-- `R1ArchivePublicationRepository.update_status`. -/
def updateStatus (runId : String) (status : PublicationStatus)
    (errorType : Option String := none) (errorMessage : Option String := none) :
    Except WorkerError Stores :=
  match d.publications.get runId with
  | none => .error (.runtimeError "R1 archive publication status update found no row")
  | some row => .ok { d with
      publications := d.publications.upsert { row with
        status := status
        attemptCount := row.attemptCount + 1
        lastErrorType := errorType
        lastErrorMessage := errorMessage } }

/-- `S3ObjectReceiptRepository.get_successful_run_id`. -/
def getSuccessfulRunId (object : S3Object) : Except WorkerError (Option String) :=
  match d.receipts.get object with
  | none => .ok none
  | some receipt =>
    if isBlank receipt.runId then
      .error (.python (.typeError "s3_object_receipts.run_id must be a non-blank string"))
    else .ok (some receipt.runId)

/-- `S3ObjectReceiptRepository.save_success`: `ON CONFLICT DO NOTHING`. -/
def saveSuccess (receipt : S3ObjectReceipt) : Stores :=
  match d.receipts.insert? receipt with
  | none => d
  | some receipts => { d with receipts := receipts }

/-- `PipelineRuntimeStatusRepository.save`. -/
def saveRuntime (status : PipelineRuntimeStatus) : Stores :=
  { d with runtimes := (d.runtimes.save status).1 }

end Stores

/-! ## The system -/

/-- The place of an S3 object. -/
structure ObjectKey where
  bucket : String
  key : String
  deriving DecidableEq, Repr

/-- What an SQS message holds. -/
inductive MessageBody where
  | testEvent
  | invalid (text : String)
  | records (inputs : List S3Object)
  deriving DecidableEq, Repr

/-- An SQS message. -/
structure Message where
  receiptHandle : String
  body : MessageBody
  deriving DecidableEq, Repr

/-- The database, the S3 archive and the queue. -/
structure System where
  committed : Stores
  session : Stores
  archive : ObjectKey → Option Bytes
  queue : List Message

/-- A part of the Worker. -/
abbrev Worker (α : Type) := Process WorkerError System α

/-- The calls that the Worker makes for one input. -/
inductive CallSite where
  | acquireExecution | getPublication | releaseExecution | makeDirectory | download | readArchive
  | savePending | saveReceipt | commitReceipt
  | putObject (filename : String) | getObject (filename : String)
  | recordError | commitError
  | updateStatus | listRuntimes | saveRuntime (entityId : String) | commitStatus
  | completeRuntime | failRuntime
  deriving DecidableEq, Repr

/-- The faults of the calls for one input. -/
abbrev Faults := CallSite → Fault ExternalError

/-- `connection.commit()`. -/
def commit : Worker Unit := modify fun s => { s with committed := s.session }

/-- `connection.rollback()`, or a new connection. -/
def System.rollback (s : System) : System := { s with session := s.committed }

/-- A statement on the Worker's connection. -/
def statement (write : Stores → Except WorkerError (Stores × α)) : Worker α := do
  let s ← get
  match write s.session with
  | .error e => raise e
  | .ok (session, a) => do
    set { s with session := session }
    return a

section Publish

variable (sha256 : Sha256) (faults : Faults)

/-- A call of the Worker. -/
def external (site : CallSite) (body : Worker α) : Worker α :=
  call ((faults site).map .external) body

/-- `R1_ARCHIVE_PREFIX`. -/
def r1ArchivePrefix : String := "archive/first-cycle/r1"

/-- `R1_EVIDENCE_FILENAME`. -/
def r1EvidenceFilename : String := "r1_evidence.jsonl"

/-- `R1_EXTRACTION_SUMMARY_FILENAME`. -/
def r1ExtractionSummaryFilename : String := "r1_extraction_summary.json"

/-- `_MISSING_OBJECT_CODES`. -/
def missingObjectCodes : List String := ["NoSuchKey", "404", "NotFound"]

/-- `_PRECONDITION_CODES`. -/
def preconditionCodes : List String := ["PreconditionFailed", "412"]

/-- `put_object` with `IfNoneMatch="*"`. -/
def putObject (key : ObjectKey) (content : Bytes) : Worker Unit := do
  let s ← get
  match s.archive key with
  | some _ => raise (.external (.clientError "PreconditionFailed"))
  | none => set { s with archive := Function.update s.archive key (some content) }

/-- `get_object` and its body. -/
def getObject (key : ObjectKey) : Worker Bytes := do
  let s ← get
  match s.archive key with
  | none => raise (.external (.clientError "NoSuchKey"))
  | some content => return content

/-- The `except` clauses of `_read_s3_object`. -/
def readFailed (key : ObjectKey) : WorkerError → Worker (Option Bytes)
  | .external (.clientError code) =>
    if code ∈ missingObjectCodes then return none
    else raise (.archiveUpload ("R1 S3 read failed for " ++ key.key ++ ": " ++ code))
  | .external (.botoCoreError _) =>
    raise (.archiveUpload ("R1 S3 read failed for " ++ key.key))
  | e => raise e

/-- `_read_s3_object`. -/
def readS3Object (filename : String) (key : ObjectKey) : Worker (Option Bytes) := do
  match ← attempt (external faults (.getObject filename) (getObject key)) with
  | .ok content => return some content
  | .error e => readFailed key e

/-- `_validate_existing_content`. -/
def validateExistingContent (content : Bytes) (key : ObjectKey) (expectedSha256 : String) :
    Worker Unit :=
  if sha256.hexdigest content ≠ expectedSha256 then
    raise (.archiveConflict ("R1 archive content conflict for " ++ key.key))
  else return ()

/-- `{object_prefix}/{filename}`. -/
def archiveKey (payload : R1ArchivePublication) (filename : String) : ObjectKey :=
  ⟨payload.bucket, payload.objectPrefix ++ "/" ++ filename⟩

/-- One of the two objects of an archive. -/
structure ArchiveEntry where
  filename : String
  content : Bytes
  expectedSha256 : String

/-- The objects of an archive: the Evidence first, the summary last. -/
def archiveEntries (payload : R1ArchivePublication) : List ArchiveEntry :=
  [⟨r1EvidenceFilename, payload.evidenceContent, payload.evidenceSha256⟩,
    ⟨r1ExtractionSummaryFilename, payload.summaryContent, payload.summarySha256⟩]

/-- Read the object back and compare it with what was to be uploaded. -/
def verifyObject (key : ObjectKey) (entry : ArchiveEntry) (missing : String) : Worker Unit := do
  match ← readS3Object faults entry.filename key with
  | none => raise (.archiveUpload missing)
  | some content => validateExistingContent sha256 content key entry.expectedSha256

/-- The `except` clauses of `_put_immutable_object`. -/
def putFailed (key : ObjectKey) (entry : ArchiveEntry) : WorkerError → Worker Bool
  | .external (.clientError code) =>
    if code ∈ preconditionCodes then do
      verifyObject sha256 faults key entry
        ("R1 S3 conditional upload failed but " ++ key.key ++ " is not readable")
      return false
    else raise (.archiveUpload ("R1 S3 upload failed for " ++ key.key ++ ": " ++ code))
  | .external (.botoCoreError _) =>
    raise (.archiveUpload ("R1 S3 upload failed for " ++ key.key))
  | e => raise e

/-- `_put_immutable_object`: whether the object was uploaded. -/
def putImmutableObject (key : ObjectKey) (entry : ArchiveEntry) : Worker Bool := do
  match ← attempt (external faults (.putObject entry.filename) (putObject key entry.content)) with
  | .error e => putFailed sha256 faults key entry e
  | .ok () => do
    verifyObject sha256 faults key entry
      ("R1 S3 upload verification found no object for " ++ key.key)
    return true

/-- The checks of `publish_r1_archive`. -/
def validatePublication (publication : ArchivePublication) : Except WorkerError Unit := do
  let payload := publication.payload
  raiseIf (publication.status = .failed)
    (.archiveConflict "failed R1 archive publication cannot be retried")
  raiseIf (payload.objectPrefix ≠ r1ArchivePrefix ++ "/" ++ payload.runId) (.archiveConflict
    ("R1 archive object prefix must be " ++ r1ArchivePrefix ++ "/" ++ payload.runId))
  (archiveEntries payload).forM fun entry =>
    raiseIf (sha256.hexdigest entry.content ≠ entry.expectedSha256)
      (.archiveConflict ("R1 durable payload hash mismatch for " ++ entry.filename))

/-- `publish_r1_archive`. Its result, the keys that were uploaded or there already, is
only logged. -/
def publishR1Archive (publication : ArchivePublication) : Worker Unit :=
  match validatePublication sha256 publication with
  | .error e => raise e
  | .ok () => (archiveEntries publication.payload).forM fun entry => do
    let _ ← putImmutableObject sha256 faults (archiveKey publication.payload entry.filename) entry

/-! ## The publication store -/

/-- `mark_retryable` and `mark_failed`. -/
def markError (runId : String) (status : PublicationStatus) (error : WorkerError) : Worker Unit := do
  external faults .recordError (statement fun d => do
    let d ← d.updateStatus runId status (some error.typeName) (some error.text)
    return (d, ()))
  external faults .commitError commit

/-- The body of the loop of `mark_published`. -/
def completeRunningRuntime (completedAt : UtcMillis) (runtimeStatus : PipelineRuntimeStatus) :
    Worker Unit :=
  match runtimeStatus.val.status with
  | .failed =>
    raise (.external (.osError "R1 archive cannot be finalized while its Runtime is terminal failed"))
  | .completed => return ()
  | .running =>
    match construct RuntimeStatusFields.validate
        (runtimeStatus.val.complete (max completedAt runtimeStatus.val.updatedAt)) with
    | .error e => raise (.python e)
    | .ok completedStatus => do
      let saved ← external faults (.saveRuntime runtimeStatus.val.entityId) (statement fun d =>
        .ok (d.saveRuntime completedStatus, (d.runtimes.save completedStatus).2))
      if saved then return ()
      else raise (.external (.osError
        "R1 archive was published but its running Runtime could not be completed"))

/-- `mark_published`. -/
def markPublished (completedAt : UtcMillis) (runId : String) : Worker Unit := do
  external faults .updateStatus (statement fun d => do
    let d ← d.updateStatus runId .published
    return (d, ()))
  let statuses ← external faults .listRuntimes (statement fun d =>
    .ok (d, d.runtimes.listForRun runId))
  statuses.forM (completeRunningRuntime faults completedAt)
  external faults .commitStatus commit

/-- `_record_publication_failure`: an exception of the recorder is only noted. -/
def recordPublicationFailure (runId : String) (status : PublicationStatus) (error : WorkerError) :
    Worker Unit := do
  let _ ← attempt (markError faults runId status error)

/-- `_publish_durable_r1_archive`. -/
def publishDurableR1Archive (completedAt : UtcMillis) (publication : ArchivePublication) :
    Worker Unit := do
  if publication.status = .failed then
    raise (.permanent "R1 archive publication is in terminal failed state")
  match ← attempt (publishR1Archive sha256 faults publication) with
  | .error (.archiveConflict text) => do
    recordPublicationFailure faults publication.runId .failed (.archiveConflict text)
    raise (.permanent text)
  | .error (.archiveUpload text) => do
    recordPublicationFailure faults publication.runId .retryable (.archiveUpload text)
    raise (.retryable text)
  | .error e => raise e
  | .ok () =>
    match ← attempt (markPublished faults completedAt publication.runId) with
    | .ok () => return ()
    | .error e =>
      if e.isOperational then
        raise (.retryable
          "R1 archive objects were verified but the published state commit failed")
      else raise e

end Publish

end IncidentAwareness.Archive
