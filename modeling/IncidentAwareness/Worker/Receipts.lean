import IncidentAwareness.Worker.Standalone

/-!
# The SQS Worker

`_process_message` for one input: a transaction that locks and reads the input's
receipt, allocates a run id, runs the standalone pipeline, persists its results
without a commit, and commits them with the success receipt. An exception rolls
back (`run_worker`).

Each input has a temporary output root of its own, so the directory that
`_allocate_identifiers` makes there always is new: what it reserves is visible to
no other Worker, and only its reads of committed rows refuse a run id.
-/

namespace IncidentAwareness.Worker

open IncidentAwareness.Common IncidentAwareness.Lib IncidentAwareness.Persistence

/-- `SELECT EXISTS (runs) OR EXISTS (decisions)`. -/
def identifiersExist (db : Database) (runId : String) : Bool :=
  (db.runs.get runId).isSome || (db.decisions.get (allocatedDecisionId runId)).isSome

/-- `_allocate_identifiers` from a sequence on: one read for each run id tried. -/
def allocateIdentifiers (date : String) (next : String → Transaction) (sequence : Nat) :
    Nat → Transaction
  | 0 => .raise (.runtimeError "no unused standalone run_id remains for the current UTC date")
  | remaining + 1 => .read fun db =>
    if identifiersExist db (allocatedRunId date sequence) then
      allocateIdentifiers date next (sequence + 1) remaining
    else next (allocatedRunId date sequence)

/-- `save_pending`, when the execution has an R1 archive. -/
def savePublication (publication : Option R1ArchivePublication) : List Statement :=
  publication.toList.map R1ArchivePublicationRepository.savePending

/-- The end of a successful input: the publication, the receipt and the commit. -/
def recordSuccess (object : S3Object) (runId : String) (publication : Option R1ArchivePublication) :
    Transaction :=
  .writes (savePublication publication ++ [S3ObjectReceiptRepository.saveSuccess ⟨object, runId⟩])
    .commit

section Worker

variable (hashtext : String → Int) (receiptLockKey : S3Object → Int) (stages : StandaloneStages)

/-- What a Worker is asked to process: an object version, and the UTC date at the
time, `YYYYMMDD`. -/
structure WorkerInput where
  object : S3Object
  date : String

/-- `run_standalone_sysmon_jsonl` under an allocated run id, with what the Worker
does after it. -/
def runStandalone (object : S3Object) (runId : String) : Transaction :=
  match standaloneResults stages object runId with
  | .error e => .raise e
  | .ok (submission, publication) =>
    persistS0Results hashtext submission (recordSuccess object runId publication)

/-- `_process_message` on the receipt it has read: skip, or run. -/
def processUnreceipted (input : WorkerInput) : Option S3ObjectReceipt → Transaction
  | some _ => .commit
  | none => allocateIdentifiers input.date (runStandalone hashtext stages input.object) 1 999

/-- `_process_message`, one input. -/
def processInput (input : WorkerInput) : Transaction :=
  .lock (.bigint (receiptLockKey input.object)) <| .read fun db =>
    processUnreceipted hashtext stages input (db.s3ObjectReceipts.get input.object)

end Worker

end IncidentAwareness.Worker
