import IncidentAwareness.Archive.OutboxSpec

/-!
# What S3 answers to the upload of an archive

Whether `publish_r1_archive` raises one of its two errors is decided by the objects that
are in the archive and by the answers of S3 to two calls of each upload:

* `putOutcome`: `put_object`, and `readOutcome`: the `get_object` after it;
* `RefusesArchive`: the publication is invalid, or an upload is refused;
* `publishR1Archive_outcome`: that is when `publish_r1_archive` raises such an error.
-/

namespace IncidentAwareness.Archive

open IncidentAwareness.Common IncidentAwareness.Lib IncidentAwareness.Persistence

variable {sha256 : Sha256} {faults : Faults} {s : System}

/-- What an upload comes to: the object is there, it is refused with an error of
`publish_r1_archive`, or it is stopped by something else. -/
inductive UploadOutcome where
  | uploaded | refused | interrupted
  deriving DecidableEq, Repr

section Outcome

variable (sha256 faults) (archive : ObjectKey → Option Bytes) (key : ObjectKey) (entry : ArchiveEntry)

/-- Reading an object back. The object is refused where it is missing or another, and where the
call raises a `ClientError` or a `BotoCoreError`. -/
def readOutcome : UploadOutcome :=
  match faults (.getObject entry.filename) with
  | .none =>
    match archive key with
    | none => .refused
    | some content => if sha256.hexdigest content = entry.expectedSha256 then .uploaded else .refused
  | .raises e applied =>
    if e.isClient || applied && (archive key).isNone then .refused else .interrupted
  | .crash applied => if applied && (archive key).isNone then .refused else .interrupted

/-- The objects after `put_object`, which writes only where there is none. -/
def archiveAfterPut : ObjectKey → Option Bytes :=
  if (faults (.putObject entry.filename)).applied && (archive key).isNone then
    Function.update archive key (some entry.content)
  else archive

/-- An upload. What S3 has under the key is read back where `put_object` returns or says that
there is an object. -/
def putOutcome : UploadOutcome :=
  let read := readOutcome sha256 faults (archiveAfterPut faults archive key entry) key entry
  match faults (.putObject entry.filename) with
  | .none => read
  | .raises e applied =>
    if applied && (archive key).isSome then read
    else match e with
      | .clientError code => if code ∈ preconditionCodes then read else .refused
      | .botoCoreError _ => .refused
      | _ => .interrupted
  | .crash applied => if applied && (archive key).isSome then read else .interrupted

end Outcome

/-- The uploads of an archive, up to the first that is not there. -/
def uploadsOutcome (sha256 : Sha256) (faults : Faults) (payload : R1ArchivePublication) :
    List ArchiveEntry → (ObjectKey → Option Bytes) → UploadOutcome
  | [], _ => .uploaded
  | entry :: entries, archive =>
    let key := archiveKey payload entry.filename
    match putOutcome sha256 faults archive key entry with
    | .uploaded => uploadsOutcome sha256 faults payload entries (archiveAfterPut faults archive key entry)
    | outcome => outcome

/-- The publication is invalid, or one of its uploads is refused. -/
def RefusesArchive (sha256 : Sha256) (faults : Faults) (p : ArchivePublication) (s : System) : Prop :=
  (validatePublication sha256 p).isOk = false ∨
    uploadsOutcome sha256 faults p.payload (archiveEntries p.payload) s.archive = .refused

instance (p : ArchivePublication) (s : System) : Decidable (RefusesArchive sha256 faults p s) :=
  inferInstanceAs (Decidable (_ ∨ _))

/-- The errors of `publish_r1_archive` that the publication records. -/
def isPublicationError : Stop WorkerError → Bool
  | .raised (.archiveConflict _) => true
  | .raised (.archiveUpload _) => true
  | _ => false

/-- What an upload comes to that something stops. -/
def outcomeOf (stop : Stop WorkerError) : UploadOutcome :=
  if isPublicationError stop then .refused else .interrupted

theorem outcomeOf_eq_refused {stop : Stop WorkerError} :
    outcomeOf stop = .refused ↔ isPublicationError stop = true := by
  rw [outcomeOf]
  by_cases h : isPublicationError stop = true
  · simp [h]
  · simp [h]

theorem outcomeOf_ne_uploaded (stop : Stop WorkerError) : outcomeOf stop ≠ .uploaded := by
  rw [outcomeOf]
  split
  · simp
  · simp

/-! ## The calls -/

theorem wp_getObject {key : ObjectKey} {Q : Bytes → System → Prop}
    {R : Stop WorkerError → System → Prop} :
    wp (getObject key) Q R s ↔ match s.archive key with
      | none => R (.raised (.external (.clientError "NoSuchKey"))) s
      | some content => Q content s := by
  rw [getObject, wp_bind, wp_get]
  cases s.archive key with
  | none => exact Iff.rfl
  | some content => exact Iff.rfl

theorem wp_putObject {key : ObjectKey} {content : Bytes} {Q : Unit → System → Prop}
    {R : Stop WorkerError → System → Prop} :
    wp (putObject key content) Q R s ↔ match s.archive key with
      | none => Q () { s with archive := Function.update s.archive key (some content) }
      | some _ => R (.raised (.external (.clientError "PreconditionFailed"))) s := by
  rw [putObject, wp_bind, wp_get]
  cases s.archive key with
  | none => exact Iff.rfl
  | some content => exact Iff.rfl

section Entry

variable {key : ObjectKey} {entry : ArchiveEntry}

/-- What a `try` does with an exception. -/
theorem attempt_raised {P : WorkerError → Prop} {C : Prop} {e : WorkerError} (h : P e) :
    (∀ e', Stop.raised e = .raised e' → P e') ∧ (Stop.raised e = .crashed → C) :=
  ⟨fun _ he => Stop.raised.inj he ▸ h, fun hcrash => by cases hcrash⟩

/-- What a `try` does with a crash. -/
theorem attempt_crashed {P : WorkerError → Prop} {C : Prop} (h : C) :
    (∀ e, Stop.crashed = .raised e → P e) ∧ ((.crashed : Stop WorkerError) = .crashed → C) :=
  ⟨fun _ he => (by cases he), fun _ => h⟩

/-- A read that raises finds no object, or raises on. -/
theorem readFailed_outcome {Q : Option Bytes → System → Prop} {R : Stop WorkerError → System → Prop}
    (e : ExternalError) (hnone : e.isClient = true → Q none s)
    (hraise : ∀ stop, outcomeOf stop = (if e.isClient then .refused else .interrupted) → R stop s) :
    wp (readFailed key (.external e)) Q R s := by
  cases e with
  | clientError code =>
    rw [readFailed]
    split
    · exact hnone rfl
    · exact hraise _ rfl
  | botoCoreError text => exact hraise _ rfl
  | operationalError text => exact hraise _ rfl
  | osError text => exact hraise _ rfl
  | valueError text => exact hraise _ rfl
  | other name text => exact hraise _ rfl

/-- The object that is read back is the one that was to be uploaded, or it is refused. -/
theorem verifyObject_outcome (missing : String) :
    wp (verifyObject sha256 faults key entry missing)
      (fun _ s' => readOutcome sha256 faults s.archive key entry = .uploaded ∧ s' = s)
      (fun stop _ => readOutcome sha256 faults s.archive key entry = outcomeOf stop) s := by
  rw [verifyObject, wp_bind, readS3Object, wp_bind, wp_attempt, external, readOutcome]
  cases faults (.getObject entry.filename) with
  | none =>
    rw [Fault.map, call_none, wp_getObject]
    cases s.archive key with
    | none =>
      exact attempt_raised (readFailed_outcome _ (fun _ => rfl) fun stop hstop => hstop.symm)
    | some content =>
      show wp (validateExistingContent sha256 content key entry.expectedSha256) _ _ s
      rw [validateExistingContent]
      by_cases hdigest : sha256.hexdigest content = entry.expectedSha256
      · rw [if_neg (not_not.mpr hdigest)]
        exact ⟨if_pos hdigest, rfl⟩
      · rw [if_pos hdigest]
        exact if_neg hdigest
  | raises e applied =>
    cases applied with
    | false =>
      refine attempt_raised (readFailed_outcome _ (fun hclient => ?_) fun stop hstop => ?_)
      · simp [hclient, outcomeOf, isPublicationError]
      · simp [hstop]
    | true =>
      rw [Fault.map, call, wp_bind, wp_getObject]
      cases s.archive key with
      | none =>
        refine attempt_raised (readFailed_outcome _ (fun _ => ?_) fun stop hstop => ?_)
        · simp [outcomeOf, isPublicationError]
        · simp [hstop, ExternalError.isClient]
      | some content =>
        refine attempt_raised (readFailed_outcome _ (fun hclient => ?_) fun stop hstop => ?_)
        · simp [hclient, outcomeOf, isPublicationError]
        · simp [hstop]
  | crash applied =>
    cases applied with
    | false => exact attempt_crashed rfl
    | true =>
      rw [Fault.map, call, wp_bind, wp_getObject]
      cases s.archive key with
      | none =>
        refine attempt_raised (readFailed_outcome _ (fun _ => ?_) fun stop hstop => ?_)
        · simp [outcomeOf, isPublicationError]
        · simp [hstop, ExternalError.isClient]
      | some content => exact attempt_crashed rfl

/-- What `put_object` leaves is read back. -/
theorem verifyPut_outcome {s' : System} {missing : String} {b : Bool}
    (harchive : s'.archive = archiveAfterPut faults s.archive key entry)
    (hput : putOutcome sha256 faults s.archive key entry =
      readOutcome sha256 faults (archiveAfterPut faults s.archive key entry) key entry) :
    wp (do verifyObject sha256 faults key entry missing; return b)
      (fun _ s'' => putOutcome sha256 faults s.archive key entry = .uploaded ∧
        s''.archive = archiveAfterPut faults s.archive key entry)
      (fun stop _ => putOutcome sha256 faults s.archive key entry = outcomeOf stop) s' := by
  rw [wp_bind, hput, ← harchive]
  refine wp_mono (verifyObject_outcome missing) (fun _ s'' h => ?_) fun stop _ h => h
  obtain ⟨houtcome, rfl⟩ := h
  exact ⟨houtcome, rfl⟩

/-- An upload that raises is read back where there is an object, or it is refused or raises on. -/
theorem putFailed_outcome {s' : System} (e : ExternalError)
    (harchive : s'.archive = archiveAfterPut faults s.archive key entry)
    (hput : putOutcome sha256 faults s.archive key entry = match e with
      | .clientError code =>
        if code ∈ preconditionCodes then
          readOutcome sha256 faults (archiveAfterPut faults s.archive key entry) key entry
        else .refused
      | .botoCoreError _ => .refused
      | _ => .interrupted) :
    wp (putFailed sha256 faults key entry (.external e))
      (fun _ s'' => putOutcome sha256 faults s.archive key entry = .uploaded ∧
        s''.archive = archiveAfterPut faults s.archive key entry)
      (fun stop _ => putOutcome sha256 faults s.archive key entry = outcomeOf stop) s' := by
  cases e with
  | clientError code =>
    rw [putFailed]
    by_cases hcode : code ∈ preconditionCodes
    · rw [if_pos hcode]
      exact verifyPut_outcome harchive (hput.trans (if_pos hcode))
    · rw [if_neg hcode]
      exact hput.trans (if_neg hcode)
  | botoCoreError text => exact hput
  | operationalError text => exact hput
  | osError text => exact hput
  | valueError text => exact hput
  | other name text => exact hput

/-- `_put_immutable_object` returns where the upload is there, and leaves the archive after it. -/
theorem putImmutableObject_outcome :
    wp (putImmutableObject sha256 faults key entry)
      (fun _ s' => putOutcome sha256 faults s.archive key entry = .uploaded ∧
        s'.archive = archiveAfterPut faults s.archive key entry)
      (fun stop _ => putOutcome sha256 faults s.archive key entry = outcomeOf stop) s := by
  rw [putImmutableObject, wp_bind, wp_attempt, external]
  -- The object that is there already stays.
  have hkept : s.archive key ≠ none → s.archive = archiveAfterPut faults s.archive key entry := by
    intro hsome
    rw [archiveAfterPut, if_neg]
    simp [hsome]
  cases hfault : faults (.putObject entry.filename) with
  | none =>
    have hput : putOutcome sha256 faults s.archive key entry =
        readOutcome sha256 faults (archiveAfterPut faults s.archive key entry) key entry := by
      rw [putOutcome, hfault]
    rw [Fault.map, call_none, wp_putObject]
    cases hobject : s.archive key with
    | none =>
      refine verifyPut_outcome ?_ hput
      rw [archiveAfterPut, if_pos]
      simp [hfault, Fault.applied, hobject]
    | some content =>
      refine attempt_raised (putFailed_outcome _ (hkept ?_) (hput.trans (if_pos (by decide)).symm))
      simp [hobject]
  | raises e applied =>
    cases applied with
    | false =>
      refine attempt_raised (putFailed_outcome e ?_ ?_)
      · rw [archiveAfterPut, hfault]
        rfl
      · rw [putOutcome, hfault]
        rfl
    | true =>
      rw [Fault.map, call, wp_bind, wp_putObject]
      cases hobject : s.archive key with
      | none =>
        refine attempt_raised (putFailed_outcome e ?_ ?_)
        · rw [archiveAfterPut, if_pos]
          simp [hfault, Fault.applied, hobject]
        · rw [putOutcome, hfault, hobject]
          rfl
      | some content =>
        refine attempt_raised (putFailed_outcome _ (hkept ?_) ?_)
        · simp [hobject]
        · rw [putOutcome, hfault, hobject]
          exact (if_pos (by decide)).symm
  | crash applied =>
    cases applied with
    | false =>
      refine attempt_crashed ?_
      rw [putOutcome, hfault]
      rfl
    | true =>
      rw [Fault.map, call, wp_bind, wp_putObject]
      cases hobject : s.archive key with
      | none =>
        refine attempt_crashed ?_
        rw [putOutcome, hfault, hobject]
        rfl
      | some content =>
        refine attempt_raised (putFailed_outcome _ (hkept ?_) ?_)
        · simp [hobject]
        · rw [putOutcome, hfault, hobject]
          exact (if_pos (by decide)).symm

end Entry

/-- The uploads of an archive, in their order. -/
theorem uploads_outcome {payload : R1ArchivePublication} (entries : List ArchiveEntry) :
    wp (entries.forM fun entry => do
        let _ ← putImmutableObject sha256 faults (archiveKey payload entry.filename) entry)
      (fun _ _ => uploadsOutcome sha256 faults payload entries s.archive = .uploaded)
      (fun stop _ => uploadsOutcome sha256 faults payload entries s.archive = outcomeOf stop) s := by
  induction entries generalizing s with
  | nil => exact rfl
  | cons entry entries ih =>
    show wp ((do let _ ← putImmutableObject sha256 faults (archiveKey payload entry.filename) entry) >>=
      fun _ => entries.forM _) _ _ s
    rw [wp_bind, wp_bind]
    refine wp_mono putImmutableObject_outcome (fun _ s' h => ?_) fun stop _ h => ?_
    · obtain ⟨hput, harchive⟩ := h
      rw [uploadsOutcome, hput, ← harchive]
      exact ih
    · rw [uploadsOutcome, h]
      cases houtcome : outcomeOf stop with
      | uploaded => exact absurd houtcome (outcomeOf_ne_uploaded stop)
      | refused => rfl
      | interrupted => rfl

theorem outcomeOf_validatePublication {p : ArchivePublication} {e : WorkerError}
    (h : validatePublication sha256 p = .error e) : isPublicationError (.raised e) = true := by
  have hraises : RaisesOnly (fun e => isPublicationError (.raised e) = true)
      (validatePublication sha256 p) := by
    refine raisesOnly_bind (raisesOnly_raiseIf rfl) fun _ => ?_
    refine raisesOnly_bind (raisesOnly_raiseIf rfl) fun _ => ?_
    exact raisesOnly_forM fun _ _ => raisesOnly_raiseIf rfl
  exact hraises e h

variable (sha256 faults) in
/-- `publish_r1_archive` raises an error that the publication records exactly where it refuses. -/
theorem publishR1Archive_outcome (p : ArchivePublication) (s : System) :
    wp (publishR1Archive sha256 faults p) (fun _ _ => ¬ RefusesArchive sha256 faults p s)
      (fun stop _ => isPublicationError stop = true ↔ RefusesArchive sha256 faults p s) s := by
  rw [publishR1Archive, RefusesArchive]
  cases hvalid : validatePublication sha256 p with
  | error e => exact ⟨fun _ => .inl rfl, fun _ => outcomeOf_validatePublication hvalid⟩
  | ok u =>
    refine wp_mono (uploads_outcome (archiveEntries p.payload)) (fun _ _ h => ?_) fun stop _ h => ?_
    · rw [h]
      simp [Except.isOk, Except.toBool]
    · rw [h, outcomeOf_eq_refused]
      simp [Except.isOk, Except.toBool]

end IncidentAwareness.Archive
