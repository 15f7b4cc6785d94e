import IncidentAwareness.Archive.Outbox
import IncidentAwareness.Lib.Run
import IncidentAwareness.Worker.Standalone

/-!
# The Worker with its archive

`_process_message` and `run_worker` with an R1 archive: an input without a receipt
runs the standalone pipeline, commits its results with the receipt and the pending
publication, and publishes the archive; an input with a receipt only publishes.

What the standalone pipeline does to one input is the environment's choice
(`StandaloneOutcome`): the calls of its Runtime tracker, each of which may be
lost, and then a crash, an exception or an execution. Of the rows that it saves
only the run id is kept.
-/

namespace IncidentAwareness.Archive

open IncidentAwareness.Common IncidentAwareness.Lib IncidentAwareness.Persistence

/-! ## The standalone pipeline -/

/-- `R1GeneratedArchive`, read by `to_publication`. -/
structure R1GeneratedArchive where
  bucket : String
  evidenceContent : Bytes
  summaryContent : Bytes
  bucket_nonblank : isBlank bucket = false := by decide

/-- `StandaloneExecution`. -/
structure StandaloneExecution where
  runId : String
  r1Archive : Option R1GeneratedArchive
  runtimeTracker : Option RuntimeTracker

/-- How the standalone pipeline ends: an exception comes with the stage that the
tracker reports as failed, if it does. -/
inductive StandaloneResult where
  | crashed
  | raised (e : ExternalError) (failed : Option (PipelineStage × UtcMillis × Fault ExternalError))
  | returned (r1Archive : Option R1GeneratedArchive)

/-- What the standalone pipeline does to one input: the calls of its tracker with
the faults of their snapshots, and how it ends. On the way to an execution the
tracker starts stages and records progress. -/
structure StandaloneOutcome where
  tracker : Option RuntimeTracker
  stages : List ((PipelineStage ⊕ Nat) × UtcMillis × Fault ExternalError)
  result : StandaloneResult

/-- The environment of one delivery. -/
structure Environment where
  publicationStore : Bool := true
  date : String
  standalone : S3Object → String → StandaloneOutcome
  clock : S3Object → CallSite → UtcMillis
  faults : S3Object → Faults
  rollback : Fault ExternalError := .none
  deleteMessage : Fault ExternalError := .none

/-- The first run id of the date that is not used. -/
def allocateRunId (used : List String) (date : String) (sequence : Nat) : Nat → Option String
  | 0 => none
  | remaining + 1 =>
    let runId := Worker.allocatedRunId date sequence
    if runId ∈ used then allocateRunId used date (sequence + 1) remaining else some runId

/-- `PostgresPipelineRuntimeObserver`: a snapshot saved on a connection of its own,
where an exception is only logged. -/
def observe (fault : Fault ExternalError) (status : PipelineRuntimeStatus) : Worker Unit := do
  let _ ← attempt (call (fault.map .external) (modify fun s => { s with
    committed := s.committed.saveRuntime status
    session := s.session.saveRuntime status }))

/-- The publication of a tracker's snapshot, if it made one. -/
def publishSnapshot (fault : Fault ExternalError) : Option PipelineRuntimeStatus → Worker Unit
  | none => return ()
  | some status => observe fault status

/-- One call of a tracker. -/
def track (tracker : RuntimeTracker) (trackerCall : TrackerCall) (fault : Fault ExternalError) :
    Worker RuntimeTracker := do
  publishSnapshot fault (tracker.apply trackerCall).2
  return (tracker.apply trackerCall).1

/-- The call of a stage or of progress. -/
def stageCall (stage : PipelineStage ⊕ Nat) (now : UtcMillis) : TrackerCall :=
  match stage with
  | .inl stage => .startStage stage now
  | .inr processedCount => .recordNormalizationProgress processedCount now

/-- The snapshots of the stages. -/
def trackStages (tracker : RuntimeTracker) :
    List ((PipelineStage ⊕ Nat) × UtcMillis × Fault ExternalError) → Worker RuntimeTracker
  | [] => return tracker
  | (stage, now, fault) :: stages => do
    let tracker ← track tracker (stageCall stage now) fault
    trackStages tracker stages

section Worker

variable (sha256 : Sha256) (env : Environment)

/-- The tracker of an execution reports under the run id of its reservation. -/
def StandaloneOutcome.trackerOf (outcome : StandaloneOutcome) (runId : String) :
    Option RuntimeTracker :=
  outcome.tracker.map fun tracker => { tracker with runId := runId }

/-- The snapshots of an outcome under a run id. -/
def trackOutcome (runId : String) (outcome : StandaloneOutcome) : Worker (Option RuntimeTracker) :=
  match outcome.trackerOf runId with
  | none => return none
  | some tracker => do
    let tracker ← trackStages tracker outcome.stages
    return some tracker

/-- The last call of a tracker, if there is one. -/
def finishTracker (tracker : Option RuntimeTracker) (trackerCall : TrackerCall)
    (fault : Fault ExternalError) : Worker Unit :=
  match tracker with
  | none => return ()
  | some tracker => do
    let _ ← track tracker trackerCall fault

/-- The report of the stage that failed, if there is one. -/
def reportFailedStage (tracker : Option RuntimeTracker) :
    Option (PipelineStage × UtcMillis × Fault ExternalError) → Worker Unit
  | none => return ()
  | some (stage, now, fault) => finishTracker tracker (.fail stage now) fault

/-- `run_standalone_sysmon_jsonl` under an allocated run id. -/
def runUnder (runId : String) (outcome : StandaloneOutcome) : Worker StandaloneExecution := do
  let tracker ← trackOutcome runId outcome
  match outcome.result with
  | .crashed => throw .crashed
  | .raised e failed => do
    reportFailedStage tracker failed
    raise (.external e)
  | .returned r1Archive => do
    modify fun s => { s with session := { s.session with runIds := s.session.runIds ++ [runId] } }
    return { runId := runId, r1Archive := r1Archive, runtimeTracker := tracker }

/-- `run_standalone_sysmon_jsonl`. -/
def runStandalone (object : S3Object) : Worker StandaloneExecution := do
  let s ← get
  match allocateRunId s.session.runIds env.date 1 999 with
  | none =>
    raise (.runtimeError "no unused standalone run_id remains for the current UTC date")
  | some runId => runUnder runId (env.standalone object runId)

/-- The call of `run_standalone`, with its exceptions. -/
def callStandalone (object : S3Object) : Worker StandaloneExecution := do
  match ← attempt (runStandalone env object) with
  | .ok execution => return execution
  | .error e =>
    if e.isValueError then raise (.permanent e.text)
    else if e.isOperational then raise (.retryable e.text)
    else raise e

/-! ## One input -/

/-- `_PERMANENT_S3_ERROR_CODES`. -/
def permanentS3ErrorCodes : List String :=
  ["AccessDenied", "NoSuchBucket", "NoSuchKey", "403", "404"]

/-- `_download_sysmon_jsonl`. -/
def downloadSysmonJsonl (object : S3Object) : Worker Unit := do
  match ← attempt (external (env.faults object) .download (pure ())) with
  | .ok () => return ()
  | .error (.external (.clientError code)) =>
    if code ∈ permanentS3ErrorCodes then
      raise (.permanent ("S3 object cannot be read for " ++ object.bucket ++ "/" ++ object.key ++
        ": " ++ code))
    else raise (.retryable ("S3 download failed for " ++ object.bucket ++ "/" ++ object.key ++
      ": " ++ code))
  | .error (.external (.botoCoreError _)) =>
    raise (.retryable ("S3 download failed for " ++ object.bucket ++ "/" ++ object.key))
  | .error e => raise e

/-- `to_publication`, under the object prefix of the run. -/
def R1GeneratedArchive.toPublication (r1Archive : R1GeneratedArchive) (runId : String) :
    ArchivePublication where
  payload :=
    { runId := runId
      bucket := r1Archive.bucket
      objectPrefix := r1ArchivePrefix ++ "/" ++ runId
      evidenceContent := r1Archive.evidenceContent
      evidenceSha256 := sha256.hexdigest r1Archive.evidenceContent
      summaryContent := r1Archive.summaryContent
      summarySha256 := sha256.hexdigest r1Archive.summaryContent }

/-- `save_pending` of the archive. -/
def insertPublication (object : S3Object) (runId : String) (r1Archive : R1GeneratedArchive) :
    Worker ArchivePublication := do
  let publication ← external (env.faults object) .readArchive
    (pure (r1Archive.toPublication sha256 runId))
  external (env.faults object) .savePending (statement fun d => d.savePending publication)

/-- The pending publication of an execution, if it has an archive. -/
def savePendingPublication (object : S3Object) (execution : StandaloneExecution) :
    Worker (Option ArchivePublication) :=
  match execution.r1Archive with
  | none => return none
  | some r1Archive => do
    if env.publicationStore = false then
      raise (.retryable "R1 production requires durable receipt and publication stores")
    match ← attempt (insertPublication sha256 env object execution.runId r1Archive) with
    | .ok publication => return some publication
    | .error e => if e.isValueError then raise (.permanent e.text) else raise e

/-- What an execution needs before its results are durable: the pending publication,
the receipt and the commit. -/
def commitSuccess (object : S3Object) (execution : StandaloneExecution) :
    Worker (Option ArchivePublication) := do
  if isBlank execution.runId then
    raise (.retryable "standalone First Cycle returned a blank run_id")
  let publication ← savePendingPublication sha256 env object execution
  external (env.faults object) .saveReceipt (statement fun d =>
    .ok (d.saveSuccess ⟨object, execution.runId⟩, ()))
  external (env.faults object) .commitReceipt commit
  return publication

/-- `fail_runtime`. -/
def failRuntime (object : S3Object) (execution : StandaloneExecution) : Worker Unit :=
  finishTracker execution.runtimeTracker (.fail .persistence (env.clock object .failRuntime))
    (env.faults object .failRuntime)

/-- `complete_runtime`. -/
def completeRuntime (object : S3Object) (execution : StandaloneExecution) : Worker Unit :=
  finishTracker execution.runtimeTracker (.complete (env.clock object .completeRuntime))
    (env.faults object .completeRuntime)

/-- The publication of a pending archive, if there is one. -/
def publishPending (object : S3Object) : Option ArchivePublication → Worker Unit
  | none => return ()
  | some publication =>
    publishDurableR1Archive sha256 (env.faults object) (env.clock object .updateStatus) publication

/-- An input without a receipt. After the receipt is committed, a retryable error
leaves the Runtime as it is, and every other one fails it. -/
def executeInput (object : S3Object) : Worker Unit := do
  external (env.faults object) .makeDirectory (pure ())
  downloadSysmonJsonl env object
  let execution ← callStandalone env object
  match ← attempt (commitSuccess sha256 env object execution) with
  | .error e => do
    failRuntime env object execution
    raise e
  | .ok publication =>
    match ← attempt (publishPending sha256 env object publication) with
    | .error (.retryable text) => raise (.retryable text)
    | .error e => do
      failRuntime env object execution
      raise e
    | .ok () => completeRuntime env object execution

/-- An input whose receipt names a run. -/
def skipInput (object : S3Object) (priorRunId : String) : Worker Unit :=
  if env.publicationStore then do
    match ← external (env.faults object) .getPublication (statement fun d =>
        match d.getPublication priorRunId with
        | .error e => .error (.python e)
        | .ok publication => .ok (d, publication)) with
    | some publication =>
      publishDurableR1Archive sha256 (env.faults object) (env.clock object .updateStatus) publication
    | none => external (env.faults object) .releaseExecution commit
  else external (env.faults object) .releaseExecution commit

/-- The body of the loop of `_process_message`. -/
def processInput (object : S3Object) : Worker Unit := do
  match ← external (env.faults object) .acquireExecution (statement fun d => do
      let priorRunId ← d.getSuccessfulRunId object
      return (d, priorRunId)) with
  | some priorRunId => skipInput sha256 env object priorRunId
  | none => executeInput sha256 env object

/-! ## One message -/

/-- `_process_message`; of equal inputs the first counts (`_unique_inputs`). -/
def processMessage (message : Message) : Worker Unit :=
  match message.body with
  | .testEvent => return ()
  | .invalid text => raise (.permanent text)
  | .records inputs => inputs.eraseDups.forM (processInput sha256 env)

/-- The body of the loop of `run_worker`: a message whose processing raised is retained. -/
def handleMessage (message : Message) : Worker Unit := do
  match ← attempt (processMessage sha256 env message) with
  | .error _ => call (env.rollback.map .external) (modify System.rollback)
  | .ok () => call (env.deleteMessage.map .external) (modify fun s =>
      { s with queue := s.queue.filter (· ≠ message) })

/-- The system after a program, however it ended. -/
def System.after (s : System) (x : Worker Unit) : System :=
  match x.run s with
  | .ok _ s' => s'
  | .error _ s' => s'

/-- One delivery of a message to a Worker without a transaction. -/
def deliver (message : Message) (s : System) : System :=
  s.rollback.after (handleMessage sha256 env message)

end Worker

/-- What happens to the system. -/
inductive WorkerStep where
  | send (message : Message)
  | deliver (message : Message) (env : Environment)
  | writeArchive (key : ObjectKey) (content : Option Bytes)

/-- One step. Anyone may write to the archive bucket. -/
def System.step (sha256 : Sha256) (s : System) : WorkerStep → System × Unit
  | .send message => ({ s with queue := s.queue ++ [message] }, ())
  | .deliver message env => (Archive.deliver sha256 env message s, ())
  | .writeArchive key content =>
    ({ s with archive := Function.update s.archive key content }, ())

/-- A system without receipts and publications. -/
def System.initial (runIds : List String) (runtimes : RuntimeTable)
    (archive : ObjectKey → Option Bytes) (queue : List Message) : System where
  committed := ⟨runIds, .empty, .empty, runtimes⟩
  session := ⟨runIds, .empty, .empty, runtimes⟩
  archive := archive
  queue := queue

end IncidentAwareness.Archive
