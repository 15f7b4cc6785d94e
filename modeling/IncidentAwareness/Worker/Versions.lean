import IncidentAwareness.Lib.Focus
import IncidentAwareness.Worker.DistinctRuns

/-!
# The version that a receipt names

The input bucket beside the tables. A notification names a version of an object by
its ETag, and `_unique_inputs` and the receipts take bucket, key and ETag as the
identity of an immutable version. `_download_sysmon_jsonl` asks for the key alone:
it gets the version that is there at the time.

`receiptsNameVersions_fails`: where the key is overwritten between the notification
and the download, the receipt names a version whose content was never processed.
`receiptsNameVersions_of_downloads`: where every download finds the version notified,
the rows under the run of a receipt are those computed from the version it names.
-/

namespace IncidentAwareness.Worker

open IncidentAwareness.Common IncidentAwareness.Lib IncidentAwareness.Persistence Txn Spec

/-! ## The bucket -/

/-- The ETag of the current version of each object, by bucket and key. -/
abbrev InputBucket := String → String → Option String

/-- The tables and the input bucket. -/
abbrev World := Database × InputBucket

/-- Someone puts a version of an object, or deletes the object. -/
def putVersion (bucket key : String) (eTag : Option String) : Txn AdvisoryLock World PersistenceError :=
  .write (fun w => .ok (w.1, fun b k => if b = bucket ∧ k = key then eTag else w.2 b k)) .commit

section Worker

variable (hashtext : String → Int) (receiptLockKey : S3Object → Int) (stages : StandaloneStages)

/-- The stages, for a file that holds a version of an object. -/
def StandaloneStages.ofFile (version : S3Object) : StandaloneStages :=
  { stages with read := fun _ => stages.read version }

/-- The rest of an input, with the version that `_download_sysmon_jsonl` got. -/
def runDownloaded (input : WorkerInput) : Option String → Txn AdvisoryLock World PersistenceError
  | none => .raise (.runtimeError ("S3 object cannot be read for " ++ input.object.bucket ++ "/" ++
      input.object.key ++ ": 404"))
  | some eTag => onFst (allocateIdentifiers input.date
      (runStandalone hashtext (stages.ofFile { input.object with eTag := eTag }) input.object) 1 999)

/-- `_download_sysmon_jsonl` and the rest of an input: the bucket is asked for the
key, without the ETag. -/
def downloadAndRun (input : WorkerInput) : Txn AdvisoryLock World PersistenceError :=
  .read fun w => runDownloaded hashtext stages input (w.2 input.object.bucket input.object.key)

/-- The body of the loop of `_process_message` after `acquire_execution`. -/
def processAcquired (input : WorkerInput) :
    Option S3ObjectReceipt → Txn AdvisoryLock World PersistenceError
  | some _ => .commit
  | none => downloadAndRun hashtext stages input

/-- What happens: an object changes, or a Worker processes a notified version. -/
inductive BucketRequest where
  | put (bucket key : String) (eTag : Option String)
  | process (input : WorkerInput)

/-- The transaction of a request. -/
def bucketProgram : BucketRequest → Txn AdvisoryLock World PersistenceError
  | .put bucket key eTag => putVersion bucket key eTag
  | .process input => .lock (.bigint (receiptLockKey input.object)) <| .read fun w =>
      processAcquired hashtext stages input (w.1.s3ObjectReceipts.get input.object)

/-! ## The law and its condition -/

/-- The rows under the run of a receipt are those computed from the version that the
receipt names, and an object that has a receipt, and so is skipped, was processed. -/
structure VersionLaw (db : Database) : Prop where
  exact : ∀ receipt ∈ db.s3ObjectReceipts, Exact stages db receipt
  skipped : ∀ object, db.s3ObjectReceipts.get object ≠ none →
    ∃ runId, ⟨object, runId⟩ ∈ db.s3ObjectReceipts ∧ Exact stages db ⟨object, runId⟩

/-- The program downloads an input of which the bucket has the version notified, or none. -/
def DownloadsVersion (p : Txn AdvisoryLock World PersistenceError) (w : World) : Prop :=
  ∃ input, p = downloadAndRun hashtext stages input ∧ ∀ eTag,
    w.2 input.object.bucket input.object.key = some eTag → eTag = input.object.eTag

/-- A program about to download finds the version notified, or none, and one about to
look for its Decision finds none equal to it stored. -/
def FindsNotified (p : Txn AdvisoryLock World PersistenceError) (w : World) : Prop :=
  (∀ input, p = downloadAndRun hashtext stages input → DownloadsVersion hashtext stages p w) ∧
  ∀ s saveRun next, p = onFst (persistLocked s saveRun next) →
    w.1.decisions.get s.decisionResult.decisionId ≠ some s.decisionResult

/-- What Workers promise each other, under the condition. -/
def versionSpec : Spec BucketRequest AdvisoryLock World PersistenceError where
  inv w := WorkerInv stages w.1
  guarantee held w w' := Keeps hashtext held w.1 w'.1
  raises _ _ _ := True
  commits _ _ _ := True
  proviso := FindsNotified hashtext stages

theorem versionSpec_focuses :
    Focuses (versionSpec hashtext stages) (workerSpec hashtext stages) where
  inv _ := Iff.rfl
  guarantee _ _ _ := Iff.rfl
  raises _ _ _ := trivial
  commits _ _ _ := trivial
  proviso _ _ h s saveRun next' hp := h.2 s saveRun next' (congrArg onFst hp)

variable {hashtext receiptLockKey stages}

/-- A file with the version notified gives the results of that version. -/
theorem runStandalone_ofFile (object : S3Object) :
    runStandalone hashtext (stages.ofFile object) object = runStandalone hashtext stages object := rfl

theorem safe_downloadAndRun (hid : CollisionFree stages.uuid5) (input : WorkerInput)
    {a : BucketRequest} {held : Set AdvisoryLock} {w : World} (hw : WorkerInv stages w.1) :
    (versionSpec hashtext stages).Safe a (downloadAndRun hashtext stages input) held [] w := by
  intro w' hi hp
  have hw' : WorkerInv stages w'.1 := inv_of_interferes (S := versionSpec hashtext stages) hw hi
  rw [view_nil] at hp ⊢
  obtain ⟨notified, hprogram, hcurrent⟩ := hp.1 input rfl
  injection hprogram with hnext
  rw [hnext]
  show (versionSpec hashtext stages).Safe a (runDownloaded hashtext stages notified _) held [] w'
  cases hget : w'.2 notified.object.bucket notified.object.key with
  | none => exact fun _ _ => trivial
  | some eTag =>
    obtain rfl : eTag = notified.object.eTag := hcurrent eTag hget
    refine safe_onFst_nil (versionSpec_focuses hashtext stages) (a := notified) ?_
    rw [runStandalone_ofFile]
    exact safe_allocateIdentifiers _ (fun runId d hd => safe_runStandalone hid _ runId hd) _ _ hw'

/-- Every request is safe. -/
theorem safe_bucketProgram (hid : CollisionFree stages.uuid5) (a : BucketRequest) (w : World)
    (hw : WorkerInv stages w.1) :
    (versionSpec hashtext stages).Safe a (bucketProgram hashtext receiptLockKey stages a) ∅ [] w := by
  cases a with
  | put bucket key eTag =>
    refine Safe.write (P := fun w => WorkerInv stages w.1) stable_inv ?_ (fun _ _ _ _ => trivial) w hw
    rintro w v hw -
    refine Safe.commit (P := fun w => WorkerInv stages w.1) stable_inv ?_ w hw
    exact fun w hw => ⟨hw, Keeps.refl _ w.1, trivial⟩
  | process input =>
    refine Safe.lock (P := fun w => WorkerInv stages w.1) stable_inv (fun w hw => ?_) w hw
    refine Safe.read (P := fun w => WorkerInv stages w.1) stable_inv (fun w hw _ => ?_) w hw
    rw [view_nil]
    cases w.1.s3ObjectReceipts.get input.object with
    | some receipt =>
      refine Safe.commit (P := fun w => WorkerInv stages w.1) stable_inv (fun w hw => ?_) w hw
      exact ⟨hw, Keeps.refl _ w.1, trivial⟩
    | none => exact safe_downloadAndRun hid input hw

theorem WorkerInv.versionLaw {db : Database} (h : WorkerInv stages db) : VersionLaw stages db where
  exact := h.exact
  skipped object hget := by
    obtain ⟨receipt, hreceipt⟩ := Option.ne_none_iff_exists'.mp hget
    obtain ⟨hmem, rfl⟩ := Table.get_eq_some.mp hreceipt
    exact ⟨receipt.runId, hmem, h.exact receipt hmem⟩

/-! ## Runs -/

section Runs

variable {ι : Type} [DecidableEq ι] (hashtext receiptLockKey stages)

/-- One step of a Worker or of someone who changes the bucket. -/
abbrev bucketStep (s : TxnSystem ι BucketRequest AdvisoryLock World PersistenceError)
    (x : ι × Action BucketRequest) :
    TxnSystem ι BucketRequest AdvisoryLock World PersistenceError ×
      Response BucketRequest PersistenceError :=
  s.step (bucketProgram hashtext receiptLockKey stages) x

/-- The system after a run on empty tables, with any objects in the bucket. -/
abbrev bucketAfter (bucket : InputBucket) (xs : List (ι × Action BucketRequest)) :
    TxnSystem ι BucketRequest AdvisoryLock World PersistenceError :=
  after (bucketStep hashtext receiptLockKey stages) (.initial (.empty, bucket)) xs

/-- The condition, on the state before a step. -/
def DownloadsNotified (s : TxnSystem ι BucketRequest AdvisoryLock World PersistenceError)
    (x : ι × Action BucketRequest) : Prop :=
  x.2 = .advance → ∀ t, s.session x.1 = some t →
    FindsNotified hashtext stages t.program (view t.writes s.db)

/-- **A receipt names the version that was processed**, in every run of Workers and of
changes to the bucket in which every download finds the version notified and no check
of `_persist` finds an equal Decision stored. -/
theorem receiptsNameVersions_of_downloads (hid : CollisionFree stages.uuid5) (bucket : InputBucket)
    (xs : List (ι × Action BucketRequest))
    (hx : Meets (bucketStep hashtext receiptLockKey stages) (DownloadsNotified hashtext stages)
      (.initial (.empty, bucket)) xs) :
    VersionLaw stages (bucketAfter hashtext receiptLockKey stages bucket xs).db.1 := by
  have hrun := run_serial (S := versionSpec hashtext stages)
    (fun a w hw => safe_bucketProgram hid a w hw) (d := (.empty, bucket)) (workerInv_empty stages) hx
  exact WorkerInv.versionLaw hrun.1.inv

end Runs

end Worker

/-! ## A key that is overwritten -/

/-- A version of an uploaded object. -/
def uploaded (eTag : String) : S3Object where
  bucket := "telemetry"
  key := "incoming/first-cycle/sysmon/ING-00000000-0000-4000-8000-000000000001/sysmon.jsonl"
  eTag := eTag

/-- Stages that read two versions, each too short for Fusion to evaluate. -/
def versionStages : StandaloneStages :=
  { shortStages with read := fun object => .ok (oneRecord (if object.eTag = "etag-1" then 1000 else 2000)) }

def objectWorker : Fin 2 := ⟨0, Nat.two_pos⟩

def uploader : Fin 2 := ⟨1, Nat.one_lt_two⟩

/-- A version is put. -/
def putUploaded (eTag : String) : List (Fin 2 × Action BucketRequest) :=
  [(uploader, .begin (.put (uploaded eTag).bucket (uploaded eTag).key (some eTag))),
    (uploader, .advance), (uploader, .advance)]

/-- The next steps of the Worker. -/
def workerAdvances (n : Nat) : List (Fin 2 × Action BucketRequest) :=
  List.replicate n (objectWorker, .advance)

/-- One version is put and processed, and overwritten after the download. -/
def putAndProcess : List (Fin 2 × Action BucketRequest) :=
  putUploaded "etag-1" ++ (objectWorker, .begin (.process ⟨uploaded "etag-1", "20260101"⟩)) ::
    workerAdvances 3 ++ putUploaded "etag-2" ++ workerAdvances 15

/-- The Worker is notified of the first version, which is overwritten before the download. -/
def overwrittenRun : List (Fin 2 × Action BucketRequest) :=
  putUploaded "etag-1" ++ (objectWorker, .begin (.process ⟨uploaded "etag-1", "20260101"⟩)) ::
    workerAdvances 2 ++ putUploaded "etag-2" ++ workerAdvances 16

/-- The tables after a run on an empty bucket. -/
abbrev tablesAfter (xs : List (Fin 2 × Action BucketRequest)) : Database :=
  (bucketAfter (fun _ => 0) (fun _ => 1) versionStages (fun _ _ => none) xs).db.1

/-- The Events of the first version have its time. -/
theorem events_of_uploaded {s : Submission} {archive : Option R1ArchivePublication}
    (h : standaloneResults versionStages (uploaded "etag-1") "RUN-20260101-001" = .ok (s, archive)) :
    ∀ e ∈ s.events, e.timestamp = 1000 := by
  have htimes : (standaloneResults versionStages (uploaded "etag-1") "RUN-20260101-001").map
      (fun x => x.1.events.map (·.timestamp)) = .ok [1000] := by
    decide +kernel
  rw [h] at htimes
  have hevents : s.events.map (·.timestamp) = [1000] := Except.ok.inj htimes
  intro e he
  have hmem := List.mem_map_of_mem (f := (·.timestamp)) he
  rw [hevents] at hmem
  exact List.mem_singleton.mp hmem

/-- A receipt names a version that was overwritten before it was downloaded. -/
theorem receiptsNameVersions_fails :
    CollisionFree versionStages.uuid5 ∧ ¬ VersionLaw versionStages (tablesAfter overwrittenRun) := by
  refine ⟨collisionFree_spelledUuid5, fun h => ?_⟩
  have hreceipts : (tablesAfter overwrittenRun).s3ObjectReceipts.rows =
      [⟨uploaded "etag-1", "RUN-20260101-001"⟩] := by
    decide +kernel
  have hevents : (tablesAfter overwrittenRun).events.rows.map (fun e => (e.timestamp, e.runId)) =
      [(2000, "RUN-20260101-001")] := by
    decide +kernel
  have hreceipt : ⟨uploaded "etag-1", "RUN-20260101-001"⟩ ∈ (tablesAfter overwrittenRun).s3ObjectReceipts := by
    rw [Table.mem_def, hreceipts]
    exact List.mem_singleton_self _
  obtain ⟨s, archive, snapshot, hresults, -, hcontains⟩ := h.exact _ hreceipt
  have hrow : (2000, "RUN-20260101-001") ∈
      (tablesAfter overwrittenRun).events.rows.map (fun e => (e.timestamp, e.runId)) := by
    rw [hevents]
    exact List.mem_singleton_self _
  obtain ⟨e, he, hfields⟩ := List.mem_map.mp hrow
  obtain ⟨htime, hrun⟩ := Prod.mk.inj hfields
  have hsubmitted : e ∈ s.events := (hcontains.events e).mp ⟨he, hrun⟩
  have hfirst := events_of_uploaded hresults e hsubmitted
  rw [htime] at hfirst
  exact absurd hfirst (by decide)

/-- The program stops where the bucket is empty. -/
def stopsOnEmptyBucket : Txn AdvisoryLock World PersistenceError → Bool
  | .read next =>
    match next (.empty, fun _ _ => none) with
    | .raise _ => true
    | _ => false
  | _ => false

/-- A read of tables without Decisions that is no download. -/
theorem downloadsNotified_of_read
    {s : TxnSystem (Fin 2) BucketRequest AdvisoryLock World PersistenceError}
    {x : Fin 2 × Action BucketRequest}
    (h : (s.session x.1).all fun t => stopsOnEmptyBucket t.program = false ∧
      (t.program.isRead → (view t.writes s.db).1.decisions.rows.isEmpty)) :
    DownloadsNotified (fun _ => 0) versionStages s x := by
  intro _ t ht
  rw [ht, Option.all_some, decide_eq_true_iff] at h
  refine ⟨fun input hp => ?_, fun s' saveRun next hp => ?_⟩
  · rw [hp] at h
    cases h.1
  · have hempty := h.2 (by rw [hp]; rfl)
    rw [List.isEmpty_iff] at hempty
    simp [Table.get, hempty]

/-- The steps up to the download, and those after it. -/
theorem meets_putAndProcess :
    Meets (bucketStep (fun _ => 0) (fun _ => 1) versionStages) (DownloadsNotified (fun _ => 0) versionStages)
      (.initial (.empty, fun _ _ => none)) putAndProcess := by
  have hsplit : putAndProcess =
      (putUploaded "etag-1" ++ (0, .begin (.process ⟨uploaded "etag-1", "20260101"⟩)) :: workerAdvances 2) ++
        (0, .advance) :: (putUploaded "etag-2" ++ workerAdvances 15) := rfl
  rw [hsplit]
  refine meets_append (Meets.imp (fun _ _ => downloadsNotified_of_read) (by decide +kernel)) ?_
  refine meets_cons (fun _ t ht => ?_)
    (Meets.imp (fun _ _ => downloadsNotified_of_read) (by decide +kernel))
  cases ht
  refine ⟨fun input _ => ⟨⟨uploaded "etag-1", "20260101"⟩, rfl, fun eTag he => ?_⟩, fun s' saveRun next _ => ?_⟩
  · cases he
    rfl
  · intro h
    cases h

theorem receiptsNameVersions_of_downloads_overwritten :
    (tablesAfter putAndProcess).s3ObjectReceipts.rows = [⟨uploaded "etag-1", "RUN-20260101-001"⟩] ∧
      VersionLaw versionStages (tablesAfter putAndProcess) :=
  ⟨by decide +kernel,
    receiptsNameVersions_of_downloads (fun _ => 0) (fun _ => 1) versionStages
      collisionFree_spelledUuid5 (fun _ _ => none) putAndProcess meets_putAndProcess⟩

end IncidentAwareness.Worker
