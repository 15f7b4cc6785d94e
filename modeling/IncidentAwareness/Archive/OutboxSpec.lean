import IncidentAwareness.Archive.Worker

/-!
# What the outbox keeps

* `Stores.Sound`: every publication is one that `to_publication` made, under a run
  with rows; every statement of the publication store keeps it;
* `publishR1Archive_spec`: `publish_r1_archive` uploads objects of its archive only,
  leaves the tables alone, and meets no conflict where what the archive holds agrees
  with it (`Agrees`);
* `markPublished_spec`: `mark_published` under any faults, and what it does to the
  statuses of the run.
-/

namespace IncidentAwareness.Archive

open IncidentAwareness.Common IncidentAwareness.Lib IncidentAwareness.Persistence

/-! ## Sound tables -/

/-- A publication that `to_publication` made, with the errors that were recorded. -/
structure ArchivePublication.WellFormed (sha256 : Sha256) (p : ArchivePublication) : Prop where
  runId : isBlank p.runId = false
  bucket : isBlank p.payload.bucket = false
  objectPrefix : p.payload.objectPrefix = r1ArchivePrefix ++ "/" ++ p.runId
  evidenceSha256 : sha256.hexdigest p.payload.evidenceContent = p.payload.evidenceSha256
  summarySha256 : sha256.hexdigest p.payload.summaryContent = p.payload.summarySha256
  lastErrorType : ∀ value ∈ p.lastErrorType, isBlank value = false
  lastErrorMessage : ∀ value ∈ p.lastErrorMessage, isBlank value = false

/-- The receipts and the publications belong to runs with rows, and are well formed. -/
structure Stores.Sound (sha256 : Sha256) (d : Stores) : Prop where
  receipts : ∀ r ∈ d.receipts, r.runId ∈ d.runIds ∧ isBlank r.runId = false
  publications : ∀ p ∈ d.publications, p.runId ∈ d.runIds ∧ p.WellFormed sha256

section Stores

variable {sha256 : Sha256} {d d' : Stores} {p : ArchivePublication}

theorem requiredString_eq {value : String} (h : isBlank value = false) (fieldName : String) :
    Stores.requiredString value fieldName = .ok () := by
  rw [Stores.requiredString, raiseIf_of_not]
  simp [h]

theorem optionalString_eq {value : Option String} (h : ∀ v ∈ value, isBlank v = false)
    (fieldName : String) :
    (value.forM fun v => Stores.requiredString v fieldName) = .ok () := by
  cases value with
  | none => rfl
  | some v => exact requiredString_eq (h v rfl) fieldName

theorem isBlank_archivePrefix (text : String) : isBlank (r1ArchivePrefix ++ text) = false := by
  have hmem : 'a' ∈ (r1ArchivePrefix ++ text).toList := by simp [r1ArchivePrefix]
  exact Worker.isBlank_eq_false hmem rfl

/-- A well-formed row is read as it is. -/
theorem publicationFromRow_eq (h : p.WellFormed sha256) :
    Stores.publicationFromRow p = .ok p := by
  have hpre : isBlank p.payload.objectPrefix = false := by
    rw [h.objectPrefix, String.append_assoc]
    exact isBlank_archivePrefix _
  have hevidence : isBlank p.payload.evidenceSha256 = false := by
    rw [← h.evidenceSha256]
    exact sha256.nonblank _
  have hsummary : isBlank p.payload.summarySha256 = false := by
    rw [← h.summarySha256]
    exact sha256.nonblank _
  rw [Stores.publicationFromRow, requiredString_eq h.runId, Except.ok_bind',
    requiredString_eq h.bucket, Except.ok_bind', requiredString_eq hpre, Except.ok_bind',
    requiredString_eq hevidence, Except.ok_bind', requiredString_eq hsummary, Except.ok_bind',
    optionalString_eq h.lastErrorType, Except.ok_bind', optionalString_eq h.lastErrorMessage]
  rfl

namespace Stores

theorem Sound.getPublication_eq (h : d.Sound sha256) (runId : String) :
    d.getPublication runId = .ok (d.publications.get runId) := by
  unfold getPublication
  cases hget : d.publications.get runId with
  | none => rfl
  | some row =>
    have hrow : row ∈ d.publications := (Table.get_eq_some.mp hget).1
    show (publicationFromRow row >>= fun publication => .ok (some publication)) = _
    rw [publicationFromRow_eq (h.publications row hrow).2]
    rfl

theorem Sound.getSuccessfulRunId_eq (h : d.Sound sha256) (object : S3Object) :
    d.getSuccessfulRunId object = .ok ((d.receipts.get object).map (·.runId)) := by
  unfold getSuccessfulRunId
  cases hget : d.receipts.get object with
  | none => rfl
  | some receipt =>
    have hreceipt : receipt ∈ d.receipts := (Table.get_eq_some.mp hget).1
    simp [(h.receipts receipt hreceipt).2]

/-- What a status update does: it found the row of the run. -/
theorem updateStatus_eq_ok {runId : String} {status : PublicationStatus}
    {errorType errorMessage : Option String} :
    d.updateStatus runId status errorType errorMessage = .ok d' ↔
      ∃ row ∈ d.publications, row.runId = runId ∧ d' = { d with
        publications := d.publications.upsert { row with
          status := status
          attemptCount := row.attemptCount + 1
          lastErrorType := errorType
          lastErrorMessage := errorMessage } } := by
  unfold updateStatus
  cases hget : d.publications.get runId with
  | none =>
    have hnone := Table.get_eq_none.mp hget
    constructor
    · intro h
      cases h
    · rintro ⟨row, hrow, hrun, -⟩
      exact absurd hrun (hnone row hrow)
  | some row =>
    obtain ⟨hrow, hrun⟩ := Table.get_eq_some.mp hget
    constructor
    · intro h
      exact ⟨row, hrow, hrun, (Except.ok.inj h).symm⟩
    · rintro ⟨row', hrow', hrun', rfl⟩
      obtain rfl : row = row' := Table.eq_of_conflict hrow hrow' (hrun.trans hrun'.symm)
      rfl

theorem Sound.updateStatus (h : d.Sound sha256) {runId : String} {status : PublicationStatus}
    {errorType errorMessage : Option String} (htype : ∀ v ∈ errorType, isBlank v = false)
    (hmessage : ∀ v ∈ errorMessage, isBlank v = false)
    (hd : d.updateStatus runId status errorType errorMessage = .ok d') : d'.Sound sha256 := by
  obtain ⟨row, hrow, -, rfl⟩ := updateStatus_eq_ok.mp hd
  refine ⟨h.receipts, fun p hp => ?_⟩
  rcases Table.mem_upsert.mp hp with rfl | ⟨hp, -⟩
  · obtain ⟨hrun, hwf⟩ := h.publications row hrow
    exact ⟨hrun, ⟨hwf.runId, hwf.bucket, hwf.objectPrefix, hwf.evidenceSha256, hwf.summarySha256,
      htype, hmessage⟩⟩
  · exact h.publications p hp

/-- What `save_pending` does with a publication of a sound table. -/
theorem Sound.savePending_eq (h : d.Sound sha256) :
    (∃ publications, d.publications.insert? { payload := p.payload } = some publications ∧
      d.savePending p = .ok ({ d with publications := publications }, p)) ∨
    ∃ existing ∈ d.publications, existing.runId = p.runId ∧
      ((existing.payload = p.payload ∧ d.savePending p = .ok (d, existing)) ∨
        existing.payload ≠ p.payload ∧ d.savePending p = .error (.python (.valueError
          "R1 archive publication conflicts with the existing run_id payload"))) := by
  unfold savePending
  cases hinsert : d.publications.insert? { payload := p.payload } with
  | some publications => exact .inl ⟨publications, rfl, rfl⟩
  | none =>
    obtain ⟨existing, hexisting, hrun⟩ := Table.insert?_eq_none.mp hinsert
    have hget : d.publications.get p.runId = some existing :=
      Table.get_eq_some.mpr ⟨hexisting, hrun⟩
    refine .inr ⟨existing, hexisting, hrun, ?_⟩
    rw [h.getPublication_eq, hget]
    by_cases hpayload : existing.payload = p.payload
    · exact .inl ⟨hpayload, by simp [hpayload]⟩
    · exact .inr ⟨hpayload, by simp [hpayload]⟩

theorem Sound.savePending (h : d.Sound sha256) (hwf : p.WellFormed sha256) (hrun : p.runId ∈ d.runIds)
    {q : ArchivePublication} (hd : d.savePending p = .ok (d', q)) : d'.Sound sha256 := by
  rcases h.savePending_eq (p := p) with ⟨publications, hinsert, hok⟩ | ⟨existing, -, -, hcase⟩
  · obtain ⟨rfl, -⟩ := Prod.mk.inj (Except.ok.inj (hok.symm.trans hd))
    refine ⟨h.receipts, fun r hr => ?_⟩
    rcases (Table.mem_of_insert? hinsert).mp hr with hr | rfl
    · exact h.publications r hr
    · exact ⟨hrun, ⟨hwf.runId, hwf.bucket, hwf.objectPrefix, hwf.evidenceSha256, hwf.summarySha256,
        (fun v hv => nomatch hv), fun v hv => nomatch hv⟩⟩
  · rcases hcase with ⟨-, hok⟩ | ⟨-, herror⟩
    · obtain ⟨rfl, -⟩ := Prod.mk.inj (Except.ok.inj (hok.symm.trans hd))
      exact h
    · rw [herror] at hd
      cases hd

theorem Sound.saveSuccess (h : d.Sound sha256) {receipt : S3ObjectReceipt}
    (hrun : receipt.runId ∈ d.runIds) (hblank : isBlank receipt.runId = false) :
    (d.saveSuccess receipt).Sound sha256 := by
  unfold Stores.saveSuccess
  cases hinsert : d.receipts.insert? receipt with
  | none => exact h
  | some receipts =>
    refine ⟨fun r hr => ?_, h.publications⟩
    rcases (Table.mem_of_insert? hinsert).mp hr with hr | rfl
    · exact h.receipts r hr
    · exact ⟨hrun, hblank⟩

theorem Sound.saveRuntime (h : d.Sound sha256) (status : PipelineRuntimeStatus) :
    (d.saveRuntime status).Sound sha256 := ⟨h.receipts, h.publications⟩

end Stores

end Stores

/-! ## What the repositories read -/

section Reads

variable {d d' : Stores} {p q row : ArchivePublication} {object : S3Object} {runId : String}

theorem publicationFromRow_eq_ok (h : Stores.publicationFromRow row = .ok q) : q = row := by
  simp only [Stores.publicationFromRow, Except.unit_bind_eq_ok] at h
  exact (Except.ok.inj h.2.2.2.2.2.2.2).symm

theorem getPublication_eq_some (h : d.getPublication runId = .ok (some p)) :
    p ∈ d.publications ∧ p.runId = runId := by
  unfold Stores.getPublication at h
  cases hget : d.publications.get runId with
  | none =>
    rw [hget] at h
    cases h
  | some row =>
    rw [hget] at h
    obtain ⟨q, hq, hpure⟩ := Except.bind_eq_ok.mp h
    obtain rfl := publicationFromRow_eq_ok hq
    obtain rfl := Option.some.inj (Except.ok.inj hpure)
    exact Table.get_eq_some.mp hget

theorem getPublication_eq_none (h : d.getPublication runId = .ok none) :
    ∀ p ∈ d.publications, p.runId ≠ runId := by
  unfold Stores.getPublication at h
  cases hget : d.publications.get runId with
  | none => exact Table.get_eq_none.mp hget
  | some row =>
    rw [hget] at h
    obtain ⟨q, -, hpure⟩ := Except.bind_eq_ok.mp h
    cases hpure

/-- `save_pending` inserts the row, or returns the one that is there. -/
theorem savePending_eq_ok (h : d.savePending p = .ok (d', q)) :
    d.publications.get p.runId = none ∧ q = p ∨ q ∈ d.publications ∧ q.runId = p.runId := by
  unfold Stores.savePending at h
  cases hinsert : d.publications.insert? { payload := p.payload } with
  | some publications =>
    rw [hinsert] at h
    obtain ⟨-, rfl⟩ := Prod.mk.inj (Except.ok.inj h)
    refine .inl ⟨Table.get_eq_none.mpr fun r hr hsame => ?_, rfl⟩
    have hnone : d.publications.insert? { payload := p.payload } = none :=
      Table.insert?_eq_none.mpr ⟨r, hr, hsame⟩
    rw [hnone] at hinsert
    cases hinsert
  | none =>
    rw [hinsert] at h
    cases hget : d.getPublication p.runId with
    | error e =>
      simp only [hget] at h
      cases h
    | ok found =>
      cases found with
      | none =>
        simp only [hget] at h
        cases h
      | some existing =>
        simp only [hget] at h
        split at h
        · cases h
        · obtain ⟨-, rfl⟩ := Prod.mk.inj (Except.ok.inj h)
          exact .inr (getPublication_eq_some hget)

theorem getSuccessfulRunId_eq_some (h : d.getSuccessfulRunId object = .ok (some runId)) :
    ⟨object, runId⟩ ∈ d.receipts := by
  unfold Stores.getSuccessfulRunId at h
  cases hget : d.receipts.get object with
  | none =>
    rw [hget] at h
    cases h
  | some receipt =>
    simp only [hget] at h
    obtain ⟨hreceipt, rfl⟩ := Table.get_eq_some.mp hget
    split at h
    · cases h
    · obtain rfl := Option.some.inj (Except.ok.inj h)
      exact hreceipt

theorem getSuccessfulRunId_eq_none (h : d.getSuccessfulRunId object = .ok none) :
    ∀ r ∈ d.receipts, r.object ≠ object := by
  unfold Stores.getSuccessfulRunId at h
  cases hget : d.receipts.get object with
  | none => exact Table.get_eq_none.mp hget
  | some receipt =>
    simp only [hget] at h
    split at h
    · cases h
    · cases h

end Reads

/-! ## The archive objects -/

section Uploads

variable {sha256 : Sha256} {payload : R1ArchivePublication} {s s' s'' : System}

/-- What the archive holds under the keys of a publication is its objects, by digest. -/
def Agrees (sha256 : Sha256) (archive : ObjectKey → Option Bytes) (payload : R1ArchivePublication) :
    Prop :=
  ∀ entry ∈ archiveEntries payload, ∀ content,
    archive (archiveKey payload entry.filename) = some content →
      sha256.hexdigest content = entry.expectedSha256

/-- Objects of the archive were uploaded, and nothing else changed. -/
def Uploads (payload : R1ArchivePublication) (s s' : System) : Prop :=
  ∃ archive, s' = { s with archive := archive } ∧ ∀ key, archive key = s.archive key ∨
    ∃ entry ∈ archiveEntries payload, key = archiveKey payload entry.filename ∧
      archive key = some entry.content

theorem Uploads.refl (payload : R1ArchivePublication) (s : System) : Uploads payload s s :=
  ⟨s.archive, rfl, fun _ => .inl rfl⟩

theorem Uploads.trans (h : Uploads payload s s') (h' : Uploads payload s' s'') :
    Uploads payload s s'' := by
  obtain ⟨archive, rfl, harchive⟩ := h
  obtain ⟨archive', rfl, harchive'⟩ := h'
  refine ⟨archive', rfl, fun key => ?_⟩
  rcases harchive' key with hkey | hentry
  · rw [hkey]
    exact harchive key
  · exact .inr hentry

theorem uploads_update {entry : ArchiveEntry} (h : entry ∈ archiveEntries payload) :
    Uploads payload s { s with
      archive := Function.update s.archive (archiveKey payload entry.filename) (some entry.content) } := by
  refine ⟨_, rfl, fun key => ?_⟩
  by_cases hkey : key = archiveKey payload entry.filename
  · rw [hkey, Function.update_self]
    exact .inr ⟨entry, h, rfl, rfl⟩
  · exact .inl (Function.update_of_ne hkey _ _)

/-- An entry is known by its filename. -/
theorem entry_eq {entry entry' : ArchiveEntry} (h : entry ∈ archiveEntries payload)
    (h' : entry' ∈ archiveEntries payload) (hname : entry.filename = entry'.filename) :
    entry = entry' := by
  have hne : r1EvidenceFilename ≠ r1ExtractionSummaryFilename := by decide
  simp only [archiveEntries, List.mem_cons, List.not_mem_nil, or_false] at h h'
  rcases h with rfl | rfl <;> rcases h' with rfl | rfl
  · rfl
  · exact absurd hname hne
  · exact absurd hname.symm hne
  · rfl

theorem filename_of_mem {entry : ArchiveEntry} (h : entry ∈ archiveEntries payload) :
    entry.filename = r1EvidenceFilename ∨ entry.filename = r1ExtractionSummaryFilename := by
  simp only [archiveEntries, List.mem_cons, List.not_mem_nil, or_false] at h
  rcases h with rfl | rfl
  · exact .inl rfl
  · exact .inr rfl

theorem ArchivePublication.WellFormed.digest {p : ArchivePublication} (h : p.WellFormed sha256)
    {entry : ArchiveEntry} (hentry : entry ∈ archiveEntries p.payload) :
    sha256.hexdigest entry.content = entry.expectedSha256 := by
  simp only [archiveEntries, List.mem_cons, List.not_mem_nil, or_false] at hentry
  rcases hentry with rfl | rfl
  · exact h.evidenceSha256
  · exact h.summarySha256

/-- The two filenames end differently. -/
theorem append_filename_ne (a b : String) :
    a ++ "/" ++ r1EvidenceFilename ≠ b ++ "/" ++ r1ExtractionSummaryFilename := by
  intro h
  have hlast := congrArg (fun t : String => t.toList.getLast?) h
  simp [r1EvidenceFilename, r1ExtractionSummaryFilename, List.getLast?_append] at hlast

/-- Archives of different runs have different keys, and so have the objects of one. -/
theorem archiveKey_inj {p q : R1ArchivePublication}
    (hp : p.objectPrefix = r1ArchivePrefix ++ "/" ++ p.runId)
    (hq : q.objectPrefix = r1ArchivePrefix ++ "/" ++ q.runId) {entry entry' : ArchiveEntry}
    (h : entry ∈ archiveEntries p) (h' : entry' ∈ archiveEntries q)
    (hkey : archiveKey p entry.filename = archiveKey q entry'.filename) :
    p.runId = q.runId ∧ entry.filename = entry'.filename := by
  have hpath : p.objectPrefix ++ "/" ++ entry.filename = q.objectPrefix ++ "/" ++ entry'.filename :=
    (ObjectKey.mk.inj hkey).2
  have hname : entry.filename = entry'.filename := by
    rcases filename_of_mem h with hf | hf <;> rcases filename_of_mem h' with hf' | hf'
    · rw [hf, hf']
    · rw [hf, hf'] at hpath
      exact absurd hpath (append_filename_ne _ _)
    · rw [hf, hf'] at hpath
      exact absurd hpath.symm (append_filename_ne _ _)
    · rw [hf, hf']
  refine ⟨?_, hname⟩
  have hlist := congrArg String.toList hpath
  rw [hname] at hlist
  simp only [String.toList_append, List.append_cancel_right_eq, hp, hq,
    List.append_cancel_left_eq] at hlist
  exact String.toList_injective hlist

/-- Uploads of one publication agree with every other. -/
theorem Uploads.agrees {p q : ArchivePublication} (hp : p.WellFormed sha256)
    (hq : q.WellFormed sha256) (hsame : p.runId = q.runId → p.payload = q.payload)
    (h : Uploads p.payload s s') (ha : Agrees sha256 s.archive q.payload) :
    Agrees sha256 s'.archive q.payload := by
  obtain ⟨archive, rfl, harchive⟩ := h
  intro entry hentry content hcontent
  rcases harchive (archiveKey q.payload entry.filename) with hold | ⟨entry', hentry', hkey, hnew⟩
  · exact ha entry hentry content (hold ▸ hcontent)
  · obtain ⟨hrun, hname⟩ := archiveKey_inj hq.objectPrefix hp.objectPrefix hentry hentry' hkey
    rw [hsame hrun.symm] at hentry'
    obtain rfl : entry = entry' := entry_eq hentry hentry' hname
    obtain rfl : content = entry.content :=
      Option.some.inj (hcontent.symm.trans hnew)
    exact hq.digest hentry

end Uploads

/-! ## Publishing -/

/-- The calls of the S3 client. -/
def CallSite.IsS3 : CallSite → Prop
  | .putObject _ | .getObject _ => True
  | _ => False

/-- `except ClientError` and `except BotoCoreError`. -/
def ExternalError.isClient : ExternalError → Bool
  | .clientError _ | .botoCoreError _ => true
  | _ => false

/-- What publishing raises: its own errors, and what an S3 call raises that is no
error of the client. -/
inductive ArchiveRaises (faults : Faults) : WorkerError → Prop where
  | upload {text : String} (h : isBlank text = false) : ArchiveRaises faults (.archiveUpload text)
  | conflict {text : String} (h : isBlank text = false) :
    ArchiveRaises faults (.archiveConflict text)
  | other {site : CallSite} {e : ExternalError} {applied : Bool} (hsite : site.IsS3)
    (h : faults site = .raises e applied) (hclient : e.isClient = false) :
    ArchiveRaises faults (.external e)

/-- The error is no conflict. -/
def NoConflict (e : WorkerError) : Prop := ∀ text, e ≠ .archiveConflict text

theorem isBlank_append_of_head {c : Char} {head : String} (hc : c ∈ head.toList)
    (hspace : isSpace c = false) (text : String) : isBlank (head ++ text) = false := by
  refine Worker.isBlank_eq_false ?_ hspace
  rw [String.toList_append]
  exact List.mem_append_left _ hc

section Publish

variable {sha256 : Sha256} {faults : Faults} {s : System} {site : CallSite}

/-- A call succeeds as its body does, or its fault stops it before or after the body. -/
theorem wp_external {body : Worker α} {Q : α → System → Prop} {R : Stop WorkerError → System → Prop}
    (hbody : wp body Q R s)
    (hbefore : ∀ stop, ((faults site).map .external).Interrupts false stop → R stop s)
    (hafter : ∀ stop, ((faults site).map .external).Interrupts true stop →
      wp body (fun _ s' => R stop s') R s) :
    wp (external faults site body) Q R s := wp_call hbody hbefore hafter

/-- The exception of a fault. -/
theorem interrupts_raised {applied : Bool} {e : WorkerError}
    (h : ((faults site).map .external).Interrupts applied (.raised e)) :
    ∃ x, e = .external x ∧ faults site = .raises x applied := by
  rcases h with ⟨e', hfault, he⟩ | ⟨-, he⟩
  · obtain rfl := Stop.raised.inj he
    cases hsite : faults site with
    | none =>
      rw [hsite] at hfault
      cases hfault
    | raises x a =>
      rw [hsite] at hfault
      obtain ⟨hx, rfl⟩ := Fault.raises.inj hfault
      exact ⟨x, hx.symm, rfl⟩
    | crash a =>
      rw [hsite] at hfault
      cases hfault
  · cases he

theorem getObject_spec (key : ObjectKey) :
    wp (getObject key) (fun content s' => s' = s ∧ s.archive key = some content)
      (fun stop s' => s' = s ∧ stop = .raised (.external (.clientError "NoSuchKey"))) s := by
  rw [getObject, wp_bind, wp_get]
  cases hkey : s.archive key with
  | none => exact ⟨rfl, rfl⟩
  | some content => exact ⟨rfl, rfl⟩

/-- The exceptions of a call: those of its fault, and errors of the client. -/
def CallRaises (faults : Faults) (site : CallSite) (stop : Stop WorkerError) : Prop :=
  ∀ e, stop = .raised e → ∃ x, e = .external x ∧
    (x.isClient = false → ∃ applied, faults site = .raises x applied)

theorem callRaises_client {x : ExternalError} (h : x.isClient = true) :
    CallRaises faults site (.raised (.external x)) := by
  intro e he
  refine ⟨x, (Stop.raised.inj he).symm, fun hclient => ?_⟩
  rw [h] at hclient
  cases hclient

theorem callRaises_interrupts {applied : Bool} {stop : Stop WorkerError}
    (h : ((faults site).map .external).Interrupts applied stop) : CallRaises faults site stop := by
  rintro e rfl
  obtain ⟨x, he, hsite⟩ := interrupts_raised h
  exact ⟨x, he, fun _ => ⟨applied, hsite⟩⟩

/-- A call whose body raises errors of the client only. -/
theorem external_spec {body : Worker α} {Q : α → System → Prop} {I : System → Prop}
    (hbody : wp body Q (fun stop s' => I s' ∧ ∃ x : ExternalError, x.isClient = true ∧
      stop = .raised (.external x)) s)
    (hbefore : I s) (hafter : ∀ a s', Q a s' → I s') :
    wp (external faults site body) Q (fun stop s' => I s' ∧ CallRaises faults site stop) s := by
  have hclient : ∀ {stop : Stop WorkerError}, (∃ x : ExternalError, x.isClient = true ∧
      stop = .raised (.external x)) → CallRaises faults site stop := by
    rintro stop ⟨x, hx, rfl⟩
    exact callRaises_client hx
  refine wp_external ?_ ?_ ?_
  · exact wp_mono hbody (fun _ _ h => h) fun _ _ h => ⟨h.1, hclient h.2⟩
  · exact fun stop hstop => ⟨hbefore, callRaises_interrupts hstop⟩
  · intro stop hstop
    exact wp_mono hbody (fun a s' h => ⟨hafter a s' h, callRaises_interrupts hstop⟩)
      fun _ _ h => ⟨h.1, hclient h.2⟩

/-- An upload error of this text. -/
theorem raises_upload {text : String} {stop : Stop WorkerError}
    (hstop : stop = .raised (.archiveUpload text)) (h : isBlank text = false) :
    ∀ e, stop = .raised e → ArchiveRaises faults e ∧ NoConflict e := by
  rintro e he
  obtain rfl := Stop.raised.inj (hstop.symm.trans he)
  exact ⟨.upload h, fun text h => nomatch h⟩

/-- An exception of an S3 call that is no error of the client. -/
theorem raises_other {x : ExternalError} {stop : Stop WorkerError} (hsite : site.IsS3)
    (hstop : stop = .raised (.external x)) (hclient : x.isClient = false)
    (h : x.isClient = false → ∃ applied, faults site = .raises x applied) :
    ∀ e, stop = .raised e → ArchiveRaises faults e ∧ NoConflict e := by
  rintro e he
  obtain rfl := Stop.raised.inj (hstop.symm.trans he)
  obtain ⟨applied, hfault⟩ := h hclient
  exact ⟨.other hsite hfault hclient, fun text h => nomatch h⟩

/-- What a reading part of `publish_r1_archive` raises, and that it writes nothing. -/
abbrev ReadStop (faults : Faults) (s : System) (stop : Stop WorkerError) (s' : System) : Prop :=
  s' = s ∧ ∀ e, stop = .raised e → ArchiveRaises faults e ∧ NoConflict e

theorem readFailed_spec {filename : String} {key : ObjectKey} {x : ExternalError}
    (h : x.isClient = false → ∃ applied, faults (.getObject filename) = .raises x applied) :
    wp (readFailed key (.external x)) (fun content s' => s' = s ∧ content = none)
      (ReadStop faults s) s := by
  have hblank : ∀ text, isBlank ("R1 S3 read failed for " ++ text) = false :=
    isBlank_append_of_head (by decide : 'R' ∈ "R1 S3 read failed for ".toList) rfl
  have hother : x.isClient = false → readFailed key (.external x) = raise (.external x) →
      wp (readFailed key (.external x)) (fun content s' => s' = s ∧ content = none)
        (ReadStop faults s) s := by
    intro hclient heq
    rw [heq, wp_raise]
    exact ⟨rfl, @raises_other _ (.getObject filename) _ _ trivial rfl hclient h⟩
  cases x with
  | clientError code =>
    rw [readFailed]
    split
    · exact ⟨rfl, rfl⟩
    · refine ⟨rfl, raises_upload rfl ?_⟩
      rw [String.append_assoc, String.append_assoc]
      exact hblank _
  | botoCoreError text => exact ⟨rfl, raises_upload rfl (hblank _)⟩
  | operationalError text => exact hother rfl rfl
  | osError text => exact hother rfl rfl
  | valueError text => exact hother rfl rfl
  | other name text => exact hother rfl rfl

/-- `_read_s3_object` reads what is there. -/
theorem readS3Object_spec (filename : String) (key : ObjectKey) :
    wp (readS3Object faults filename key)
      (fun content s' => s' = s ∧ ∀ c, content = some c → s.archive key = some c)
      (ReadStop faults s) s := by
  have hget : wp (external faults (.getObject filename) (getObject key))
      (fun content s' => s' = s ∧ s.archive key = some content)
      (fun stop s' => s' = s ∧ CallRaises faults (.getObject filename) stop) s := by
    refine external_spec (wp_mono (getObject_spec key) (fun _ _ h => h) ?_) rfl fun _ _ h => h.1
    exact fun stop s' h => ⟨h.1, _, rfl, h.2⟩
  rw [readS3Object, wp_bind, wp_attempt]
  refine wp_mono hget ?_ ?_
  · rintro content s' ⟨rfl, hcontent⟩
    exact ⟨rfl, fun c hc => Option.some.inj hc ▸ hcontent⟩
  · rintro stop s' ⟨rfl, hraises⟩
    refine ⟨?_, fun _ => ⟨rfl, fun e he => nomatch he⟩⟩
    intro e he
    obtain ⟨x, rfl, hx⟩ := hraises e he
    refine wp_mono (readFailed_spec hx) ?_ fun _ _ h => h
    rintro content s'' ⟨rfl, rfl⟩
    exact ⟨rfl, fun c hc => nomatch hc⟩

/-- An object that agrees passes its verification. -/
theorem verifyObject_spec {key : ObjectKey} {entry : ArchiveEntry} {missing : String}
    (hmissing : isBlank missing = false) :
    wp (verifyObject sha256 faults key entry missing) (fun _ s' => s' = s)
      (fun stop s' => s' = s ∧ ∀ e, stop = .raised e → ArchiveRaises faults e ∧
        ((∀ c, s.archive key = some c → sha256.hexdigest c = entry.expectedSha256) → NoConflict e))
      s := by
  rw [verifyObject, wp_bind]
  refine wp_mono (readS3Object_spec entry.filename key) ?_ ?_
  · rintro content s' ⟨rfl, hcontent⟩
    cases content with
    | none =>
      refine ⟨rfl, fun e he => ?_⟩
      obtain ⟨hraises, hno⟩ := @raises_upload faults _ _ rfl hmissing e he
      exact ⟨hraises, fun _ => hno⟩
    | some c =>
      show wp (validateExistingContent sha256 c key entry.expectedSha256) _ _ _
      unfold validateExistingContent
      by_cases hdigest : sha256.hexdigest c ≠ entry.expectedSha256
      · rw [if_pos hdigest]
        refine ⟨rfl, fun e he => ?_⟩
        obtain rfl := Stop.raised.inj he
        refine ⟨.conflict (isBlank_append_of_head (by decide : 'R' ∈ _) rfl _), fun hagrees => ?_⟩
        exact absurd (hagrees c (hcontent c rfl)) hdigest
      · rw [if_neg hdigest]
        rfl
  · rintro stop s' ⟨rfl, hraises⟩
    exact ⟨rfl, fun e he => ⟨(hraises e he).1, fun _ => (hraises e he).2⟩⟩

/-- What an object's entry may leave: the object as it was, or uploaded. -/
def EntryUploaded (key : ObjectKey) (entry : ArchiveEntry) (s s' : System) : Prop :=
  s' = s ∨ s' = { s with archive := Function.update s.archive key (some entry.content) }

/-- The object under a key is the one of an entry, by digest. -/
def EntryAgrees (sha256 : Sha256) (key : ObjectKey) (entry : ArchiveEntry) (s : System) : Prop :=
  ∀ c, s.archive key = some c → sha256.hexdigest c = entry.expectedSha256

theorem EntryUploaded.agrees {key : ObjectKey} {entry : ArchiveEntry} {s' : System}
    (h : EntryUploaded key entry s s')
    (hdigest : sha256.hexdigest entry.content = entry.expectedSha256)
    (ha : EntryAgrees sha256 key entry s) : EntryAgrees sha256 key entry s' := by
  rcases h with rfl | rfl
  · exact ha
  · intro c hc
    have hupdate : some entry.content = some c := by
      rw [← hc]
      exact (Function.update_self key (some entry.content) s.archive).symm
    exact Option.some.inj hupdate ▸ hdigest

theorem putObject_spec (key : ObjectKey) (entry : ArchiveEntry) :
    wp (putObject key entry.content) (fun _ s' => EntryUploaded key entry s s')
      (fun stop s' => EntryUploaded key entry s s' ∧ ∃ x : ExternalError, x.isClient = true ∧
        stop = .raised (.external x)) s := by
  rw [putObject, wp_bind, wp_get]
  cases s.archive key with
  | none => exact .inr rfl
  | some content => exact ⟨.inl rfl, _, rfl, rfl⟩

/-- The stops of `_put_immutable_object`. -/
abbrev PutStop (sha256 : Sha256) (faults : Faults) (key : ObjectKey) (entry : ArchiveEntry)
    (s : System) (stop : Stop WorkerError) (s' : System) : Prop :=
  EntryUploaded key entry s s' ∧ ∀ e, stop = .raised e →
    ArchiveRaises faults e ∧ (EntryAgrees sha256 key entry s → NoConflict e)

/-- Both ends of `_put_immutable_object`: verify what is there. -/
theorem verifyUploaded_spec {key : ObjectKey} {entry : ArchiveEntry} {missing : String} {b : Bool}
    {s' : System} (hmissing : isBlank missing = false)
    (hdigest : sha256.hexdigest entry.content = entry.expectedSha256)
    (h : EntryUploaded key entry s s') :
    wp (do verifyObject sha256 faults key entry missing; return b)
      (fun _ s'' => EntryUploaded key entry s s'') (PutStop sha256 faults key entry s) s' := by
  rw [wp_bind]
  refine wp_mono (verifyObject_spec hmissing) ?_ ?_
  · rintro _ s'' rfl
    exact h
  · rintro stop s'' ⟨rfl, hraises⟩
    exact ⟨h, fun e he => ⟨(hraises e he).1, fun ha => (hraises e he).2 (h.agrees hdigest ha)⟩⟩

theorem putFailed_spec {key : ObjectKey} {entry : ArchiveEntry} {s' : System} {x : ExternalError}
    (hdigest : sha256.hexdigest entry.content = entry.expectedSha256)
    (h : EntryUploaded key entry s s')
    (hx : x.isClient = false → ∃ applied, faults (.putObject entry.filename) = .raises x applied) :
    wp (putFailed sha256 faults key entry (.external x))
      (fun _ s'' => EntryUploaded key entry s s'') (PutStop sha256 faults key entry s) s' := by
  have hstop : ∀ {stop : Stop WorkerError},
      (∀ e, stop = .raised e → ArchiveRaises faults e ∧ NoConflict e) →
        PutStop sha256 faults key entry s stop s' := fun hraises =>
    ⟨h, fun e he => ⟨(hraises e he).1, fun _ => (hraises e he).2⟩⟩
  have hblank : ∀ text, isBlank ("R1 S3 upload failed for " ++ text) = false :=
    isBlank_append_of_head (by decide : 'R' ∈ "R1 S3 upload failed for ".toList) rfl
  have hother : x.isClient = false →
      wp (raise (.external x)) (fun (_ : Bool) s'' => EntryUploaded key entry s s'')
        (PutStop sha256 faults key entry s) s' := fun hclient =>
    hstop (@raises_other _ (.putObject entry.filename) _ _ trivial rfl hclient hx)
  cases x with
  | clientError code =>
    rw [putFailed]
    split
    · refine verifyUploaded_spec ?_ hdigest h
      rw [String.append_assoc]
      exact isBlank_append_of_head (by decide : 'R' ∈ _) rfl _
    · refine hstop (raises_upload rfl ?_)
      rw [String.append_assoc, String.append_assoc]
      exact hblank _
  | botoCoreError text => exact hstop (raises_upload rfl (hblank _))
  | operationalError text => exact hother rfl
  | osError text => exact hother rfl
  | valueError text => exact hother rfl
  | other name text => exact hother rfl

/-- `_put_immutable_object` uploads its object at most, and meets no conflict with an
object that agrees. -/
theorem putImmutableObject_spec {key : ObjectKey} {entry : ArchiveEntry}
    (hdigest : sha256.hexdigest entry.content = entry.expectedSha256) :
    wp (putImmutableObject sha256 faults key entry) (fun _ s' => EntryUploaded key entry s s')
      (PutStop sha256 faults key entry s) s := by
  have hput : wp (external faults (.putObject entry.filename) (putObject key entry.content))
      (fun _ s' => EntryUploaded key entry s s')
      (fun stop s' => EntryUploaded key entry s s' ∧
        CallRaises faults (.putObject entry.filename) stop) s :=
    external_spec (putObject_spec key entry) (.inl rfl) fun _ _ h => h
  rw [putImmutableObject, wp_bind, wp_attempt]
  refine wp_mono hput ?_ ?_
  · intro u s' h
    exact verifyUploaded_spec (isBlank_append_of_head (by decide : 'R' ∈ _) rfl _) hdigest h
  · rintro stop s' ⟨h, hraises⟩
    refine ⟨?_, fun _ => ⟨h, fun e he => nomatch he⟩⟩
    intro e he
    obtain ⟨x, rfl, hx⟩ := hraises e he
    exact putFailed_spec hdigest h hx

theorem Uploads.trans_entry {payload : R1ArchivePublication} {entry : ArchiveEntry} {s' s'' : System}
    (h : Uploads payload s s') (hentry : entry ∈ archiveEntries payload)
    (h' : EntryUploaded (archiveKey payload entry.filename) entry s' s'') : Uploads payload s s'' := by
  rcases h' with rfl | rfl
  · exact h
  · exact h.trans (uploads_update hentry)

theorem validatePublication_eq {p : ArchivePublication} (hwf : p.WellFormed sha256)
    (hstatus : p.status ≠ .failed) : validatePublication sha256 p = .ok () := by
  simp only [validatePublication, Except.unit_bind_eq_ok, raiseIf_eq_ok, forM_eq_ok, not_not]
  exact ⟨hstatus, hwf.objectPrefix, fun entry hentry => hwf.digest hentry⟩

/-- `publish_r1_archive` uploads objects of its archive only. It raises a conflict
only where an object in its place differs. -/
theorem publishR1Archive_spec {p : ArchivePublication} (hwf : p.WellFormed sha256)
    (hstatus : p.status ≠ .failed) :
    wp (publishR1Archive sha256 faults p) (fun _ s' => Uploads p.payload s s')
      (fun stop s' => Uploads p.payload s s' ∧ ∀ e, stop = .raised e →
        ArchiveRaises faults e ∧ (Agrees sha256 s.archive p.payload → NoConflict e)) s := by
  have hvalid := validatePublication_eq hwf hstatus
  rw [publishR1Archive, hvalid]
  refine wp_forM ?_ (.refl _ s)
  intro entry hentry s' h
  have hagrees : Agrees sha256 s.archive p.payload →
      EntryAgrees sha256 (archiveKey p.payload entry.filename) entry s' := by
    intro ha c hc
    exact h.agrees hwf hwf (fun _ => rfl) ha entry hentry c hc
  rw [wp_bind]
  refine wp_mono (putImmutableObject_spec (hwf.digest hentry)) ?_ ?_
  · exact fun _ s'' hs'' => h.trans_entry hentry hs''
  · rintro stop s'' ⟨hs'', hraises⟩
    refine ⟨h.trans_entry hentry hs'', fun e he => ⟨(hraises e he).1, fun ha => ?_⟩⟩
    exact (hraises e he).2 (hagrees ha)

end Publish

/-! ## The publication store -/

section Mark

variable {faults : Faults} {s : System} {P : Stores → Prop}

theorem wp_statement {write : Stores → Except WorkerError (Stores × α)}
    {Q : α → System → Prop} {R : Stop WorkerError → System → Prop} :
    wp (statement write) Q R s ↔ (∀ d a, write s.session = .ok (d, a) → Q a { s with session := d }) ∧
      ∀ e, write s.session = .error e → R (.raised e) s := by
  rw [statement, wp_bind, wp_get]
  cases write s.session with
  | error e => simp
  | ok r =>
    obtain ⟨d, a⟩ := r
    constructor
    · intro h
      refine ⟨fun d' a' hd => ?_, fun e he => nomatch he⟩
      obtain ⟨rfl, rfl⟩ := Prod.mk.inj (Except.ok.inj hd)
      exact h
    · exact fun h => h.1 d a rfl

theorem wp_commit {Q : Unit → System → Prop} {R : Stop WorkerError → System → Prop} :
    wp commit Q R s ↔ Q () { s with committed := s.session } := Iff.rfl

/-- A property of the committed tables and of what the Worker sees. -/
def Both (P : Stores → Prop) (s : System) : Prop := P s.committed ∧ P s.session

theorem keeps_external {I : System → Prop} {site : CallSite} {body : Worker α} (h : Keeps I body) :
    Keeps I (external faults site body) := keeps_call h

theorem keeps_statement {write : Stores → Except WorkerError (Stores × α)}
    (h : ∀ d d' a, P d → write d = .ok (d', a) → P d') : Keeps (Both P) (statement write) :=
  fun s hs => wp_statement.mpr ⟨fun d a hd => ⟨hs.1, h s.session d a hs.2 hd⟩, fun _ _ => hs⟩

theorem keeps_commit : Keeps (Both P) commit := fun _ hs => ⟨hs.2, hs.2⟩

/-- `mark_retryable` and `mark_failed` keep what their update keeps. -/
theorem keeps_markError {runId : String} {status : PublicationStatus} {e : WorkerError}
    (h : ∀ d d', P d → d.updateStatus runId status (some e.typeName) (some e.text) = .ok d' → P d') :
    Keeps (Both P) (markError faults runId status e) := by
  refine keeps_bind (keeps_external (keeps_statement ?_)) fun _ => keeps_external keeps_commit
  intro d d' u hd hwrite
  obtain ⟨d₁, hd₁, hpure⟩ := Except.bind_eq_ok.mp hwrite
  obtain ⟨rfl, -⟩ := Prod.mk.inj (Except.pure_eq_ok.mp hpure)
  exact h d d' hd hd₁

theorem keeps_completeRunningRuntime {t : UtcMillis} {status : PipelineRuntimeStatus}
    (hruntime : ∀ d status, P d → status.val.status = .completed → P (d.saveRuntime status)) :
    Keeps (Both P) (completeRunningRuntime faults t status) := by
  unfold completeRunningRuntime
  split
  · exact keeps_throw _
  · exact keeps_pure _
  · split
    · exact keeps_throw _
    · next completed hcompleted =>
      refine keeps_bind (keeps_external (keeps_statement ?_)) fun saved => ?_
      · intro d d' saved hd hwrite
        obtain ⟨rfl, -⟩ := Prod.mk.inj (Except.ok.inj hwrite)
        refine hruntime d completed hd ?_
        rw [val_of_construct hcompleted]
        rfl
      · cases saved with
        | true => exact keeps_pure _
        | false => exact keeps_throw _

/-- What keeps an update to `published` and a completed status is kept by `mark_published`. -/
theorem keeps_markPublished {t : UtcMillis} {runId : String}
    (hstatus : ∀ d d', P d → d.updateStatus runId .published = .ok d' → P d')
    (hruntime : ∀ d status, P d → status.val.status = .completed → P (d.saveRuntime status)) :
    Keeps (Both P) (markPublished faults t runId) := by
  refine keeps_bind (keeps_external (keeps_statement ?_)) fun _ =>
    keeps_bind (keeps_external (keeps_statement ?_)) fun statuses =>
      keeps_bind (keeps_forM fun status _ => keeps_completeRunningRuntime hruntime) fun _ =>
        keeps_external keeps_commit
  · intro d d' u hd hwrite
    obtain ⟨d₁, hd₁, hpure⟩ := Except.bind_eq_ok.mp hwrite
    obtain ⟨rfl, -⟩ := Prod.mk.inj (Except.pure_eq_ok.mp hpure)
    exact hstatus d d' hd hd₁
  · intro d d' statuses hd hread
    obtain ⟨rfl, -⟩ := Prod.mk.inj (Except.ok.inj hread)
    exact hd

/-! ### What `mark_published` does -/

/-- A fault of the calls for one input stopped the Worker. -/
def Interrupted (faults : Faults) (stop : Stop WorkerError) : Prop :=
  ∃ site applied, ((faults site).map .external).Interrupts applied stop

/-- The queue and the archive are as they were. -/
def Outside (s s' : System) : Prop := s'.queue = s.queue ∧ s'.archive = s.archive

theorem Outside.trans {s' s'' : System} (h : Outside s s') (h' : Outside s' s'') : Outside s s'' :=
  ⟨h'.1.trans h.1, h'.2.trans h.2⟩

/-- Statuses of the session were completed: what is failed is what was. -/
def Completed (s s' : System) : Prop :=
  ∃ runtimes, s' = { s with session := { s.session with runtimes := runtimes } } ∧
    ∀ status : PipelineRuntimeStatus, status.val.status = .failed →
      (status ∈ runtimes ↔ status ∈ s.session.runtimes)

theorem Completed.refl (s : System) : Completed s s := ⟨s.session.runtimes, rfl, fun _ _ => Iff.rfl⟩

theorem Completed.trans {s' s'' : System} (h : Completed s s') (h' : Completed s' s'') :
    Completed s s'' := by
  obtain ⟨runtimes, rfl, hfailed⟩ := h
  obtain ⟨runtimes', rfl, hfailed'⟩ := h'
  exact ⟨runtimes', rfl, fun status hs => (hfailed' status hs).trans (hfailed status hs)⟩

theorem Completed.outside {s' : System} (h : Completed s s') : Outside s s' := by
  obtain ⟨runtimes, rfl, -⟩ := h
  exact ⟨rfl, rfl⟩

/-- A running status is replaced by its completion. -/
theorem save_complete {t : RuntimeTable} {status completed : PipelineRuntimeStatus} {now : UtcMillis}
    (h : status ∈ t) (hrunning : status.val.status = .running)
    (hcompleted : completed.val = status.val.complete (max now status.val.updatedAt)) :
    t.save completed = (t.upsert completed, true) := by
  have hscope : completed.scope = status.scope := by
    rw [PipelineRuntimeStatus.scope, hcompleted]
    rfl
  have hreplaces : completed.Replaces status := by
    refine .inl ⟨?_, ?_, ?_, .inl hrunning⟩
    · rw [hcompleted]
      rfl
    · rw [hcompleted]
      rfl
    · rw [hcompleted]
      exact le_max_right _ _
  rw [RuntimeTable.save, hscope, Table.get_of_mem h]
  exact if_pos hreplaces

/-- The stops of the loop of `mark_published`. -/
abbrev MarkStop (faults : Faults) (failed : Prop) (stop : Stop WorkerError) : Prop :=
  Interrupted faults stop ∨ failed ∧ ∃ text, stop = .raised (.external (.osError text))

theorem completeRunningRuntime_spec {t : UtcMillis} {status : PipelineRuntimeStatus}
    (h : status ∈ s.session.runtimes) :
    wp (completeRunningRuntime faults t status)
      (fun _ s' => Completed s s' ∧ status.val.status ≠ .failed ∧
        ∀ other ∈ s.session.runtimes, other.scope ≠ status.scope → other ∈ s'.session.runtimes)
      (fun stop s' => Completed s s' ∧ MarkStop faults (status.val.status = .failed) stop) s := by
  unfold completeRunningRuntime
  split
  · next hfailed => exact ⟨.refl s, .inr ⟨hfailed, _, rfl⟩⟩
  · next hcompleted =>
    refine ⟨.refl s, fun hfailed => ?_, fun other hother _ => hother⟩
    rw [hcompleted] at hfailed
    cases hfailed
  · next hrunning =>
    have hvalid := RuntimeStatusFields.validate_complete status.2
      (le_max_right t status.val.updatedAt)
    rw [construct_eq_ok hvalid]
    have hsave := @save_complete _ status ⟨_, hvalid⟩ t h hrunning rfl
    have hne : status.val.status ≠ .failed := by
      rw [hrunning]
      decide
    have hdone : Completed s { s with session := s.session.saveRuntime ⟨_, hvalid⟩ } := by
      refine ⟨_, rfl, fun other hother => ?_⟩
      show other ∈ (s.session.runtimes.save ⟨_, hvalid⟩).1 ↔ _
      rw [hsave, Table.mem_upsert]
      constructor
      · rintro (rfl | ⟨hmem, -⟩)
        · cases hother
        · exact hmem
      · intro hmem
        refine .inr ⟨hmem, fun hscope => ?_⟩
        have heq : other = status := Table.eq_of_conflict hmem h hscope
        exact hne (heq ▸ hother)
    have hothers : ∀ other ∈ s.session.runtimes, other.scope ≠ status.scope →
        other ∈ (s.session.saveRuntime ⟨_, hvalid⟩).runtimes := by
      intro other hmem hscope
      show other ∈ (s.session.runtimes.save ⟨_, hvalid⟩).1
      rw [hsave, Table.mem_upsert]
      exact .inr ⟨hmem, hscope⟩
    rw [wp_bind]
    refine wp_external ?_ ?_ ?_
    · rw [wp_statement]
      refine ⟨fun d saved hwrite => ?_, fun e he => nomatch he⟩
      obtain ⟨rfl, rfl⟩ := Prod.mk.inj (Except.ok.inj hwrite)
      rw [hsave]
      exact ⟨hdone, hne, hothers⟩
    · exact fun stop hstop => ⟨.refl s, .inl ⟨_, _, hstop⟩⟩
    · intro stop hstop
      rw [wp_statement]
      refine ⟨fun d saved hwrite => ?_, fun e he => nomatch he⟩
      obtain ⟨rfl, -⟩ := Prod.mk.inj (Except.ok.inj hwrite)
      exact ⟨hdone, .inl ⟨_, _, hstop⟩⟩

/-- The loop of `mark_published`, by induction on the statuses that are left. -/
theorem completeStatuses_spec {t : UtcMillis} {statuses : List PipelineRuntimeStatus}
    (hnodup : statuses.Pairwise fun a b => b.scope ≠ a.scope)
    (h : ∀ status ∈ statuses, status ∈ s.session.runtimes) :
    wp (statuses.forM (completeRunningRuntime faults t))
      (fun _ s' => Completed s s' ∧ ∀ status ∈ statuses, status.val.status ≠ .failed)
      (fun stop s' => Completed s s' ∧
        MarkStop faults (∃ status ∈ statuses, status.val.status = .failed) stop) s := by
  induction statuses generalizing s with
  | nil => exact ⟨.refl s, fun status hs => absurd hs List.not_mem_nil⟩
  | cons status statuses ih =>
    rw [List.pairwise_cons] at hnodup
    show wp (completeRunningRuntime faults t status >>= fun _ =>
      statuses.forM (completeRunningRuntime faults t)) _ _ s
    rw [wp_bind]
    refine wp_mono (completeRunningRuntime_spec (h status List.mem_cons_self)) ?_ ?_
    · rintro _ s₁ ⟨hdone, hne, hothers⟩
      have hrest : ∀ other ∈ statuses, other ∈ s₁.session.runtimes := fun other hother =>
        hothers other (h other (List.mem_cons_of_mem _ hother)) (hnodup.1 other hother)
      refine wp_mono (ih hnodup.2 hrest) ?_ ?_
      · rintro _ s₂ ⟨hdone', hne'⟩
        exact ⟨hdone.trans hdone', List.forall_mem_cons.mpr ⟨hne, hne'⟩⟩
      · rintro stop s₂ ⟨hdone', hstop⟩
        refine ⟨hdone.trans hdone', hstop.imp_right fun ⟨⟨other, hother, hfailed⟩, htext⟩ => ?_⟩
        exact ⟨⟨other, List.mem_cons_of_mem _ hother, hfailed⟩, htext⟩
    · rintro stop s₁ ⟨hdone, hstop⟩
      refine ⟨hdone, hstop.imp_right fun ⟨hfailed, htext⟩ => ?_⟩
      exact ⟨⟨status, List.mem_cons_self, hfailed⟩, htext⟩

theorem mem_listForRun {t : RuntimeTable} {runId : String} {status : PipelineRuntimeStatus} :
    status ∈ t.listForRun runId ↔ status ∈ t ∧ status.val.runId = runId := by
  rw [RuntimeTable.listForRun, mem_sortedBy, List.mem_filter, decide_eq_true_eq]
  exact Iff.rfl

theorem listForRun_pairwise (t : RuntimeTable) (runId : String) :
    (t.listForRun runId).Pairwise fun a b => b.scope ≠ a.scope := by
  have hfilter : (t.rows.filter fun s => s.val.runId = runId).Pairwise fun a b => b.scope ≠ a.scope :=
    (t.unique.filter _).imp fun hab h => hab h.symm
  have hsymm : ∀ a b : PipelineRuntimeStatus, b.scope ≠ a.scope → a.scope ≠ b.scope :=
    fun a b h => h.symm
  exact ((sortedBy_perm _ _).pairwise_iff fun {a b} h => hsymm a b h).mpr hfilter

/-- The publication is marked as published and its run has no failed status. -/
structure Marked (p : ArchivePublication) (s s' : System) : Prop where
  session : s'.session = s'.committed
  outside : Outside s s'
  runIds : s'.committed.runIds = s.session.runIds
  receipts : s'.committed.receipts = s.session.receipts
  publications : s'.committed.publications = s.session.publications.upsert { p with
    status := .published
    attemptCount := p.attemptCount + 1
    lastErrorType := none
    lastErrorMessage := none }
  failed : ∀ status : PipelineRuntimeStatus, status.val.status = .failed →
    (status ∈ s'.committed.runtimes ↔ status ∈ s.session.runtimes)
  noFailed : s.session.runtimes.NoFailed p.runId

/-- `mark_published` returns where no status of the run is failed, and is stopped by
a fault or a failed status. What it commits is all that it does. -/
theorem markPublished_spec {t : UtcMillis} {p : ArchivePublication}
    (hp : p ∈ s.session.publications) :
    wp (markPublished faults t p.runId) (fun _ s' => Marked p s s')
      (fun stop s' => Outside s s' ∧ MarkStop faults (¬ s.session.runtimes.NoFailed p.runId) stop ∧
        (s'.committed = s.committed ∨ Marked p s s')) s := by
  let marked : ArchivePublication := { p with
    status := .published
    attemptCount := p.attemptCount + 1
    lastErrorType := none
    lastErrorMessage := none }
  let d : Stores := { s.session with publications := s.session.publications.upsert marked }
  let s₁ : System := { s with session := d }
  have hwrite : s.session.updateStatus p.runId .published = .ok d := by
    rw [Stores.updateStatus, Table.get_of_mem hp]
  have hstatements : ∀ status ∈ s.session.runtimes.listForRun p.runId, status ∈ s₁.session.runtimes :=
    fun status hstatus => (mem_listForRun.mp hstatus).1
  have hfailed : (∃ status ∈ s.session.runtimes.listForRun p.runId, status.val.status = .failed) →
      ¬ s.session.runtimes.NoFailed p.runId := by
    rintro ⟨status, hstatus, hf⟩ hno
    obtain ⟨hmem, hrun⟩ := mem_listForRun.mp hstatus
    exact hno status hmem hrun hf
  rw [markPublished, wp_bind]
  refine wp_external ?_ ?_ ?_
  · rw [wp_statement, hwrite]
    refine ⟨fun d' u hd => ?_, fun e he => nomatch he⟩
    obtain ⟨rfl, -⟩ := Prod.mk.inj (Except.ok.inj hd)
    rw [wp_bind]
    refine wp_external ?_ ?_ ?_
    · rw [wp_statement]
      refine ⟨fun d' statuses hread => ?_, fun e he => nomatch he⟩
      obtain ⟨rfl, rfl⟩ := Prod.mk.inj (Except.ok.inj hread)
      rw [wp_bind]
      refine wp_mono (completeStatuses_spec (s := s₁) (listForRun_pairwise _ _) hstatements) ?_ ?_
      · rintro _ s₂ ⟨hdone, hne⟩
        have houtside : Outside s s₂ := hdone.outside
        obtain ⟨runtimes, rfl, hruntimes⟩ := hdone
        have hnoFailed : s.session.runtimes.NoFailed p.runId := fun status hmem hrun =>
          hne status (mem_listForRun.mpr ⟨hmem, hrun⟩)
        refine wp_external ?_ ?_ ?_
        · exact ⟨rfl, houtside, rfl, rfl, rfl, hruntimes, hnoFailed⟩
        · exact fun stop hstop => ⟨houtside, .inl ⟨_, _, hstop⟩, .inl rfl⟩
        · exact fun stop hstop => ⟨houtside, .inl ⟨_, _, hstop⟩,
            .inr ⟨rfl, houtside, rfl, rfl, rfl, hruntimes, hnoFailed⟩⟩
      · rintro stop s₂ ⟨hdone, hstop⟩
        refine ⟨hdone.outside, hstop.imp_right (And.imp_left hfailed), .inl ?_⟩
        obtain ⟨runtimes, rfl, -⟩ := hdone
        rfl
    · exact fun stop hstop => ⟨⟨rfl, rfl⟩, .inl ⟨_, _, hstop⟩, .inl rfl⟩
    · intro stop hstop
      rw [wp_statement]
      exact ⟨fun _ _ _ => ⟨⟨rfl, rfl⟩, .inl ⟨_, _, hstop⟩, .inl rfl⟩, fun e he => nomatch he⟩
  · exact fun stop hstop => ⟨⟨rfl, rfl⟩, .inl ⟨_, _, hstop⟩, .inl rfl⟩
  · intro stop hstop
    rw [wp_statement, hwrite]
    exact ⟨fun _ _ _ => ⟨⟨rfl, rfl⟩, .inl ⟨_, _, hstop⟩, .inl rfl⟩, fun e he => nomatch he⟩

end Mark

end IncidentAwareness.Archive
