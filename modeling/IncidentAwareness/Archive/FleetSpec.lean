import IncidentAwareness.Archive.FleetProtocol

/-!
# What a Worker keeps while the others run

Every part of `_process_message` follows the protocol, whatever the other Workers do
and whatever its calls raise:

* `sat_publishArchive`: `publish_r1_archive` returns with both objects in the archive;
* `sat_publishDurableArchive`: the publication store returns with the run published;
* `sat_processObject`: an input that is processed has its receipt, and the row of its
  run, if there is one, is published.
-/

namespace IncidentAwareness.Archive

open IncidentAwareness.Common IncidentAwareness.Lib IncidentAwareness.Persistence

variable {ι : Type}

/-! ## Rules -/

section Rules

variable {strict : Prop} {receiptLockKey : S3Object → Int} {i : ι} {w : World ι} {α β : Type}

/-- How a part of a Worker ends: `I` holds however it ended, and what it returned is as
asserted. -/
def Ends (I : World ι → Prop) (A : α → World ι → Prop) (r : Except WorkerError α) (w : World ι) :
    Prop := I w ∧ ∀ a, r = .ok a → A a w

variable {I : World ι → Prop}

theorem kept_ends {A : α → World ι → Prop} (hI : Kept receiptLockKey strict i I)
    (hA : ∀ a, Kept receiptLockKey strict i (A a)) (r : Except WorkerError α) :
    Kept receiptLockKey strict i (Ends I A r) :=
  fun w w' h hr => ⟨hI w w' h.1 hr, fun a ha => hA a w w' (h.2 a ha) hr⟩

theorem ends_ok {A : α → World ι → Prop} {a : α} (hw : I w) (h : A a w) : Ends I A (.ok a) w := by
  refine ⟨hw, fun b hb => ?_⟩
  obtain rfl := Except.ok.inj hb
  exact h

theorem ends_error {A : α → World ι → Prop} {e : WorkerError} (hw : I w) :
    Ends I A (.error e) w := ⟨hw, fun _ h => by cases h⟩

theorem sat_raise {A : α → World ι → Prop} {e : WorkerError} (hI : Kept receiptLockKey strict i I)
    (hw : I w) : Sat (workerProtocol receiptLockKey strict i) (Ends I A) (.done (.error e)) w :=
  fun w' hr => ends_error (hI w w' hw hr)

theorem sat_pure {A : α → World ι → Prop} {a : α} (hI : Kept receiptLockKey strict i I)
    (hA : Kept receiptLockKey strict i (A a)) (hw : I w) (h : A a w) :
    Sat (workerProtocol receiptLockKey strict i) (Ends I A) (pure a) w :=
  fun w' hr => ends_ok (hI w w' hw hr) (hA w w' h hr)

theorem sat_seq {A : α → World ι → Prop} {B : β → World ι → Prop} {p : Job ι α} {f : α → Job ι β}
    (hI : Kept receiptLockKey strict i I)
    (h : Sat (workerProtocol receiptLockKey strict i) (Ends I A) p w)
    (hf : ∀ a w, I w → A a w → Sat (workerProtocol receiptLockKey strict i) (Ends I B) (f a) w) :
    Sat (workerProtocol receiptLockKey strict i) (Ends I B) (p >>= f) w :=
  sat_bind h (fun a w' h' => hf a w' h'.1 (h'.2 a rfl)) fun _ _ h' => sat_raise hI h'.1

theorem sat_try {A : α → World ι → Prop} {Q : Except WorkerError β → World ι → Prop} {p : Job ι α}
    {f : Except WorkerError α → Job ι β}
    (h : Sat (workerProtocol receiptLockKey strict i) (Ends I A) p w)
    (hok : ∀ a w, I w → A a w → Sat (workerProtocol receiptLockKey strict i) Q (f (.ok a)) w)
    (herror : ∀ e w, I w → Sat (workerProtocol receiptLockKey strict i) Q (f (.error e)) w) :
    Sat (workerProtocol receiptLockKey strict i) Q (p.attempt >>= f) w := by
  refine sat_attempt h fun r w' h' => ?_
  cases r with
  | ok a => exact hok a w' h'.1 (h'.2 a rfl)
  | error e => exact herror e w' h'.1

/-- A call from an assertion on a sound world. -/
theorem sat_call {P : World ι → Prop} {A : α → World ι → Prop} {site : Site}
    {body : World ι → Option (Except WorkerError α × World ι)}
    (hP : Kept receiptLockKey strict i P) (hA : ∀ a, Kept receiptLockKey strict i (A a))
    (hbody : ∀ w r w', w.Sound → P w → (strict → site.Clean w) → body w = some (r, w') →
      Guarantee receiptLockKey strict i site w w' ∧ ∀ a, r = .ok a → A a w')
    (hw : w.Sound) (h : P w) :
    Sat (workerProtocol receiptLockKey strict i) (Ends World.Sound A) (.request site body) w := by
  refine sat_request (kept_sound.and hP) (kept_ends kept_sound hA) (fun w e hp _ => ends_error hp.1) ?_
    ⟨hw, h⟩
  intro w r w' hp hclean hb
  obtain ⟨hg, ha⟩ := hbody w r w' hp.1 hp.2 hclean hb
  have hsound := hg.progress.sound hp.1
  exact ⟨hg, ⟨hsound, ha⟩, fun e _ => ends_error hsound⟩

/-- A call that changes no more than the transaction of the Worker. -/
theorem sat_local {P : World ι → Prop} {A : α → World ι → Prop} {site : Site}
    {body : World ι → Option (Except WorkerError α × World ι)} (hsite : site.receipt = none)
    (hP : Kept receiptLockKey strict i P) (hA : ∀ a, Kept receiptLockKey strict i (A a))
    (hbody : ∀ w r w', w.Sound → P w → body w = some (r, w') →
      Local i w w' ∧ ∀ a, r = .ok a → A a w')
    (hw : w.Sound) (h : P w) :
    Sat (workerProtocol receiptLockKey strict i) (Ends World.Sound A) (.request site body) w := by
  refine sat_call hP hA (fun w r w' hw hp _ hb => ?_) hw h
  obtain ⟨hlocal, ha⟩ := hbody w r w' hw hp hb
  exact ⟨hlocal.guarantee hsite, ha⟩

theorem sat_unchanged {P : World ι → Prop} {site : Site} (hsite : site.receipt = none)
    (hP : Kept receiptLockKey strict i P) (hw : w.Sound) (h : P w) :
    Sat (workerProtocol receiptLockKey strict i) (Ends World.Sound fun _ => P) (unchanged site) w := by
  refine sat_local hsite hP (fun _ => hP) (fun w r w' _ hp hb => ?_) hw h
  obtain ⟨-, rfl⟩ := Prod.mk.inj (Option.some.inj hb)
  exact ⟨.refl w, fun _ _ => hp⟩

theorem sat_query {P : World ι → Prop} {A : α → World ι → Prop} {site : Site}
    {q : Stores → Except WorkerError α} (hsite : site.receipt = none)
    (hP : Kept receiptLockKey strict i P) (hA : ∀ a, Kept receiptLockKey strict i (A a))
    (hq : ∀ w a, w.Sound → P w → q (w.view i) = .ok a → A a w) (hw : w.Sound) (h : P w) :
    Sat (workerProtocol receiptLockKey strict i) (Ends World.Sound A) (query i site q) w := by
  refine sat_local hsite hP hA (fun w r w' hw hp hb => ?_) hw h
  obtain ⟨hr, rfl⟩ := Prod.mk.inj (Option.some.inj hb)
  exact ⟨.refl w, fun a ha => hq w a hw hp (hr.trans ha)⟩

/-- A statement becomes the last of the transaction. -/
theorem sat_execute [DecidableEq ι] {P : World ι → Prop} {site : Site} {writes : List TableWrite}
    {write : TableWrite} (hsite : site.receipt = none) (hP : Kept receiptLockKey strict i P)
    (hpush : ∀ w, P w → P (w.push i write)) (hw : w.Sound) (h : P w)
    (hpending : w.pending i = writes) :
    Sat (workerProtocol receiptLockKey strict i)
      (Ends World.Sound fun _ w => P w ∧ w.pending i = writes ++ [write]) (execute i site write) w := by
  refine sat_local hsite (hP.and (kept_pending writes)) (fun _ => hP.and (kept_pending _))
    (fun w r w' _ hp hb => ?_) hw ⟨h, hpending⟩
  obtain ⟨-, rfl⟩ := Prod.mk.inj (Option.some.inj hb)
  refine ⟨local_push write, fun _ _ => ⟨hpush w hp.1, ?_⟩⟩
  rw [pending_push, hp.2]

end Rules

/-! ## The archive -/

section Archive

variable {sha256 : Sha256} {strict : Prop} {receiptLockKey : S3Object → Int} {i : ι}
  {w : World ι} {payload : R1ArchivePublication} {entry : ArchiveEntry} {P : World ι → Prop}

theorem sat_putArchiveObject (hP : Kept receiptLockKey strict i P)
    (hstored : ∀ w, P w → w.Stored payload) (hentry : entry ∈ archiveEntries payload)
    (hevidence : ∀ w, P w → entry.filename = r1ExtractionSummaryFilename →
      w.archive (archiveKey payload r1EvidenceFilename) ≠ none)
    (hw : w.Sound) (h : P w) :
    Sat (workerProtocol receiptLockKey strict i) (fun _ w => w.Sound ∧ P w)
      (putArchiveObject (archiveKey payload entry.filename) entry.content) w := by
  refine sat_request (kept_sound.and hP) (fun _ => kept_sound.and hP) (fun _ _ hp _ => hp) ?_ ⟨hw, h⟩
  intro w r w' hp _ hb
  cases hcontent : w.archive (archiveKey payload entry.filename) with
  | some content =>
    simp only [hcontent] at hb
    obtain ⟨-, rfl⟩ := Prod.mk.inj (Option.some.inj hb)
    exact ⟨(Local.refl w).guarantee rfl, hp, fun _ _ => hp⟩
  | none =>
    simp only [hcontent] at hb
    obtain ⟨-, rfl⟩ := Prod.mk.inj (Option.some.inj hb)
    have hprogress := @put_progress _ strict _ _ _ (hstored w hp.2) hentry (hevidence w hp.2)
      hcontent
    have hapart : ∀ j, Apart receiptLockKey j w { w with
        archive := Function.update w.archive (archiveKey payload entry.filename)
          (some entry.content) } := fun j =>
      ⟨rfl, fun _ h => h, fun _ h => h, fun _ _ h => h, fun _ _ h => h⟩
    have hkept := (kept_sound.and hP) _ _ hp ⟨hprogress, hapart i⟩
    exact ⟨⟨hprogress, fun j _ => hapart j, .none rfl⟩, hkept, fun _ _ => hkept⟩

/-- Reading an object changes nothing. -/
theorem sat_getArchiveObject {I : World ι → Prop} (key : ObjectKey) (hI : Kept receiptLockKey strict i I)
    (hw : I w) :
    Sat (workerProtocol receiptLockKey strict i) (Ends I fun content w => w.archive key = some content)
      (getArchiveObject key) w := by
  refine sat_request hI (kept_ends hI (kept_object key)) (fun _ _ hw _ => ends_error hw) ?_ hw
  intro w r w' hw _ hb
  have hguarantee : Guarantee receiptLockKey strict i (.getObject key) w w :=
    (Local.refl w).guarantee rfl
  cases hcontent : w.archive key with
  | none =>
    simp only [hcontent] at hb
    obtain ⟨rfl, rfl⟩ := Prod.mk.inj (Option.some.inj hb)
    exact ⟨hguarantee, ends_error hw, fun _ _ => ends_error hw⟩
  | some content =>
    simp only [hcontent] at hb
    obtain ⟨rfl, rfl⟩ := Prod.mk.inj (Option.some.inj hb)
    exact ⟨hguarantee, ends_ok hw hcontent, fun _ _ => ends_error hw⟩

theorem sat_readArchiveObject {I : World ι → Prop} (key : ObjectKey)
    (hI : Kept receiptLockKey strict i I) (hw : I w) :
    Sat (workerProtocol receiptLockKey strict i)
      (Ends I fun content w => ∀ c, content = some c → w.archive key = some c)
      (readArchiveObject key) w := by
  have hkept : ∀ content : Option Bytes, Kept receiptLockKey strict i fun w =>
      ∀ c, content = some c → w.archive key = some c :=
    fun _ w w' h hr c hc => kept_object key c w w' (h c hc) hr
  refine sat_try (sat_getArchiveObject key hI hw) (fun content w hw hcontent => ?_) (fun e w hw => ?_)
  · refine sat_pure hI (hkept _) hw fun c hc => ?_
    obtain rfl := Option.some.inj hc
    exact hcontent
  · show Sat _ _ (objectNotRead key e) w
    unfold objectNotRead
    split
    · split
      · exact sat_pure hI (hkept none) hw fun c hc => by cases hc
      · exact sat_raise hI hw
    · exact sat_raise hI hw
    · exact sat_raise hI hw

/-- An object that is verified has the bytes of the row. -/
theorem sat_verifyArchiveObject {missing : String} (hP : Kept receiptLockKey strict i P)
    (hstored : ∀ w, P w → w.Stored payload) (hentry : entry ∈ archiveEntries payload)
    (hw : w.Sound ∧ P w) :
    Sat (workerProtocol receiptLockKey strict i)
      (Ends (fun w => w.Sound ∧ P w) fun _ w =>
        w.archive (archiveKey payload entry.filename) = some entry.content)
      (verifyArchiveObject sha256 (archiveKey payload entry.filename) entry missing) w := by
  have hI := kept_sound.and hP
  refine sat_seq hI (sat_readArchiveObject _ hI hw) fun content w hw hp => ?_
  cases content with
  | none => exact sat_raise hI hw
  | some content =>
    show Sat _ _ (if _ then _ else _) w
    split
    · exact sat_raise hI hw
    · refine sat_pure hI (kept_object _ _) hw ?_
      obtain ⟨p, hp', rfl⟩ := hstored w hw.2
      rw [hp content rfl, hw.1.content_eq hp' hentry (hp content rfl)]

theorem sat_putImmutableArchiveObject (hP : Kept receiptLockKey strict i P)
    (hstored : ∀ w, P w → w.Stored payload) (hentry : entry ∈ archiveEntries payload)
    (hevidence : ∀ w, P w → entry.filename = r1ExtractionSummaryFilename →
      w.archive (archiveKey payload r1EvidenceFilename) ≠ none)
    (hw : w.Sound ∧ P w) :
    Sat (workerProtocol receiptLockKey strict i)
      (Ends (fun w => w.Sound ∧ P w) fun _ w =>
        w.archive (archiveKey payload entry.filename) = some entry.content)
      (putImmutableArchiveObject sha256 (archiveKey payload entry.filename) entry) w := by
  have hI := kept_sound.and hP
  refine sat_attempt (sat_putArchiveObject hP hstored hentry hevidence hw.1 hw.2) fun r w hw => ?_
  cases r with
  | ok u => exact sat_verifyArchiveObject hP hstored hentry hw
  | error e =>
    show Sat _ _ (objectNotPut sha256 _ entry e) w
    unfold objectNotPut
    split
    · split
      · exact sat_verifyArchiveObject hP hstored hentry hw
      · exact sat_raise hI hw
    · exact sat_raise hI hw
    · exact sat_raise hI hw

/-- `publish_r1_archive` returns with both objects in the archive. -/
theorem sat_publishArchive {publication : ArchivePublication} (hP : Kept receiptLockKey strict i P)
    (hstored : ∀ w, P w → w.Stored publication.payload) (hw : w.Sound ∧ P w) :
    Sat (workerProtocol receiptLockKey strict i)
      (Ends (fun w => w.Sound ∧ P w) fun _ w => w.Archived publication.payload)
      (publishArchive sha256 publication) w := by
  let evidence : ArchiveEntry :=
    ⟨r1EvidenceFilename, publication.payload.evidenceContent, publication.payload.evidenceSha256⟩
  let summary : ArchiveEntry := ⟨r1ExtractionSummaryFilename, publication.payload.summaryContent,
    publication.payload.summarySha256⟩
  have hevidence : evidence ∈ archiveEntries publication.payload := mem_archiveEntries.mpr (.inl rfl)
  have hsummary : summary ∈ archiveEntries publication.payload := mem_archiveEntries.mpr (.inr rfl)
  have hnames : r1EvidenceFilename ≠ r1ExtractionSummaryFilename := by decide
  have hI := kept_sound.and hP
  unfold publishArchive
  cases validatePublication sha256 publication with
  | error e => exact sat_raise hI hw
  | ok u =>
    -- the Evidence is verified before the summary is uploaded
    show Sat _ _ (putImmutableArchiveObject sha256 _ evidence >>= fun _ =>
      putImmutableArchiveObject sha256 _ summary >>= fun _ => pure ()) w
    refine sat_seq hI (sat_putImmutableArchiveObject hP hstored hevidence
      (fun _ _ hname => absurd hname hnames) hw) fun _ w hw hput => ?_
    let P' : World ι → Prop := fun w => P w ∧
      w.archive (archiveKey publication.payload evidence.filename) = some evidence.content
    have hP' : Kept receiptLockKey strict i P' := hP.and (kept_object _ _)
    refine sat_mono (Q := Ends (fun w => w.Sound ∧ P' w) fun _ w => w.Archived publication.payload)
      (fun r w h => ⟨⟨h.1.1, h.1.2.1⟩, h.2⟩) ?_
    refine sat_seq (kept_sound.and hP') (sat_putImmutableArchiveObject hP'
      (fun w hp => hstored w hp.1) hsummary (fun w hp _ => ?_) ⟨hw.1, hw.2, hput⟩)
      fun _ w hw hput => ?_
    · rw [hp.2]
      exact Option.some_ne_none _
    · refine sat_pure (kept_sound.and hP') (kept_archived _) hw fun entry hentry => ?_
      rcases mem_archiveEntries.mp hentry with rfl | rfl
      · exact hw.2.2
      · exact hput

end Archive

/-! ## The publication store -/

section Store

variable [DecidableEq ι] {sha256 : Sha256} {strict : Prop} {receiptLockKey : S3Object → Int} {i : ι}
  {w : World ι} {runId : String} {status : PublicationStatus} {P : World ι → Prop}

/-- An assertion on what is committed and on the archive. -/
def Committed (i : ι) (P : World ι → Prop) : Prop := ∀ w w', Local i w w' → P w → P w'

theorem sat_updateStatus {site : Site} {errorType errorMessage : Option String}
    (hsite : site.receipt = none) (hP : Kept receiptLockKey strict i P) (hcommitted : Committed i P)
    (hw : w.Sound) (h : P w) (hpending : w.pending i = []) :
    Sat (workerProtocol receiptLockKey strict i) (Ends World.Sound fun _ w => P w ∧ Updates i runId status w)
      (updateStatus i site runId status errorType errorMessage) w := by
  refine sat_local hsite (hP.and (kept_pending [])) (fun _ => hP.and kept_updates)
    (fun w r w' _ hp hb => ?_) hw ⟨h, hpending⟩
  cases hupdate : (w.view i).updateStatus runId status errorType errorMessage with
  | error e =>
    simp only [hupdate] at hb
    obtain ⟨rfl, rfl⟩ := Prod.mk.inj (Option.some.inj hb)
    exact ⟨.refl w, fun _ h => by cases h⟩
  | ok d =>
    simp only [hupdate] at hb
    split at hb
    · next hfree =>
      obtain ⟨rfl, rfl⟩ := Prod.mk.inj (Option.some.inj hb)
      have hlocal := (local_lockRow hfree).trans
        (local_push (.updateStatus runId status errorType errorMessage))
      refine ⟨hlocal, fun _ _ => ⟨hcommitted _ _ hlocal hp.1, errorType, errorMessage, [], ?_, ?_⟩⟩
      · exact fun x hx => absurd hx List.not_mem_nil
      · rw [pending_push]
        exact congrArg (· ++ _) hp.2
    · cases hb

/-- `mark_retryable` and `mark_failed`. -/
theorem sat_markPublicationError {error : WorkerError} (hstatus : status ≠ .published)
    (hw : w.Sound) (hpending : w.pending i = []) :
    Sat (workerProtocol receiptLockKey strict i) (Ends World.Sound fun _ _ => True)
      (markPublicationError i runId status error) w := by
  refine sat_seq kept_sound (sat_updateStatus (P := fun _ => True) rfl (fun _ _ h _ => h) (fun _ _ _ h => h) hw
    trivial hpending) fun _ w hw hp => ?_
  refine sat_call kept_updates (fun _ _ _ h _ => h) (fun w r w' hw hupdates hclean hb => ?_) hw hp.2
  obtain ⟨rfl, rfl⟩ := Prod.mk.inj (Option.some.inj hb)
  exact ⟨guarantee_updates rfl hupdates (fun h => absurd h hstatus) fun hs _ => hclean hs,
    fun _ _ => trivial⟩

theorem sat_recordFailure {error : WorkerError} {e : WorkerError} {A : Unit → World ι → Prop}
    (hstatus : status ≠ .published) (hw : w.Sound) (hpending : w.pending i = []) :
    Sat (workerProtocol receiptLockKey strict i) (Ends World.Sound A)
      (recordFailure i runId status error >>= fun _ => .raise e) w := by
  refine sat_seq kept_sound (A := fun _ _ => True) ?_ fun _ w hw _ => sat_raise kept_sound hw
  refine sat_try (sat_markPublicationError hstatus hw hpending) ?_ ?_
  · exact fun _ w hw _ => sat_pure kept_sound (fun _ _ h _ => h) hw trivial
  · exact fun _ w hw => sat_pure kept_sound (fun _ _ h _ => h) hw trivial

theorem sat_saveRuntime {s : PipelineRuntimeStatus} (hP : Kept receiptLockKey strict i P)
    (hcommitted : Committed i P) (hw : w.Sound) (h : P w) (hupdates : Updates i runId status w) :
    Sat (workerProtocol receiptLockKey strict i) (Ends World.Sound fun _ w => P w ∧ Updates i runId status w)
      (saveRuntime i s) w := by
  refine sat_local rfl (hP.and kept_updates) (fun _ => hP.and kept_updates)
    (fun w r w' _ hp hb => ?_) hw ⟨h, hupdates⟩
  obtain ⟨rfl, rfl⟩ := Prod.mk.inj (Option.some.inj hb)
  have hlocal : Local i w (w.push i (.saveRuntime s)) := local_push _
  obtain ⟨errorType, errorMessage, writes, hsaves, hpending⟩ := hp.2
  refine ⟨hlocal, fun _ _ => ⟨hcommitted _ _ hlocal hp.1, errorType, errorMessage,
    writes ++ [.saveRuntime s], fun x hx => ?_, ?_⟩⟩
  · rcases List.mem_append.mp hx with hx | hx
    · exact hsaves x hx
    · exact ⟨s, List.mem_singleton.mp hx⟩
  · rw [pending_push, hpending]
    rfl

theorem sat_completeRuntimeStatus {t : UtcMillis} {s : PipelineRuntimeStatus}
    (hP : Kept receiptLockKey strict i P) (hcommitted : Committed i P) (hw : w.Sound) (h : P w)
    (hupdates : Updates i runId status w) :
    Sat (workerProtocol receiptLockKey strict i) (Ends World.Sound fun _ w => P w ∧ Updates i runId status w)
      (completeRuntimeStatus i t s) w := by
  unfold completeRuntimeStatus
  split
  · exact sat_raise kept_sound hw
  · exact sat_pure kept_sound (hP.and kept_updates) hw ⟨h, hupdates⟩
  · split
    · exact sat_raise kept_sound hw
    · refine sat_seq kept_sound (sat_saveRuntime hP hcommitted hw h hupdates) fun saved w hw hp => ?_
      cases saved with
      | false => exact sat_raise kept_sound hw
      | true => exact sat_pure kept_sound (hP.and kept_updates) hw hp

/-- `mark_published` returns with the run published. -/
theorem sat_markArchivePublished {t : UtcMillis} {object : S3Object}
    {publication : ArchivePublication} (store : Bool) (hw : w.Sound) (hpending : w.pending i = [])
    (hreceipt : ⟨object, publication.runId⟩ ∈ w.committed.receipts)
    (hstored : w.Stored publication.payload) (harchived : w.Archived publication.payload) :
    Sat (workerProtocol receiptLockKey strict i)
      (Ends World.Sound fun _ w => w.pending i = [] ∧ SettledUnder strict store object publication.runId w)
      (markArchivePublished i t publication.runId) w := by
  let P : World ι → Prop := fun w => ⟨object, publication.runId⟩ ∈ w.committed.receipts ∧
    w.Stored publication.payload ∧ w.Archived publication.payload
  have hP : Kept receiptLockKey strict i P :=
    (kept_receipt _).and ((kept_stored _).and (kept_archived _))
  have hcommitted : Committed i P := by
    rintro w w' hlocal ⟨hreceipt, hstored, harchived⟩
    refine ⟨?_, ?_, ?_⟩
    · rwa [hlocal.receipts]
    · rwa [World.Stored, hlocal.publications]
    · rwa [World.Archived, hlocal.archive]
  refine sat_seq kept_sound (sat_updateStatus rfl hP hcommitted hw ⟨hreceipt, hstored, harchived⟩ hpending)
    fun _ w hw hp => ?_
  refine sat_seq kept_sound (sat_query (A := fun _ w => P w ∧ Updates i publication.runId .published w) rfl
    (hP.and kept_updates) (fun _ => hP.and kept_updates) (fun w _ _ hp _ => hp) hw hp)
    fun statuses w hw hp => ?_
  refine sat_seq kept_sound (sat_forM (kept_ends kept_sound (fun _ => hP.and kept_updates) _)
    (fun _ _ h => sat_raise kept_sound h.1) (fun s _ w hp => ?_) (ends_ok hw hp)) fun _ w hw hp => ?_
  · obtain ⟨hp', hupdates⟩ := hp.2 _ rfl
    exact sat_completeRuntimeStatus hP hcommitted hp.1 hp' hupdates
  · refine sat_call (hP.and kept_updates)
      (fun _ => (kept_pending []).and (kept_settledUnder store object _))
      (fun w r w' hw hp _ hb => ?_) hw hp
    obtain ⟨rfl, rfl⟩ := Prod.mk.inj (Option.some.inj hb)
    obtain ⟨⟨hreceipt, ⟨row, hrow, hpayload⟩, harchived⟩, hupdates⟩ := hp
    obtain ⟨hrestated, hreceipts⟩ := view_of_updates hupdates
    refine ⟨guarantee_updates rfl hupdates (fun _ p hp hrun => ?_) (fun _ h => absurd rfl h),
      fun _ _ => ⟨pending_commit, ?_, fun _ _ q hq hrun => ?_⟩⟩
    · obtain rfl : p = row :=
        Table.eq_of_conflict hp hrow (hrun.trans (congrArg R1ArchivePublication.runId hpayload).symm)
      rwa [hpayload]
    · show _ ∈ (w.view i).receipts
      rwa [hreceipts]
    · rcases hrestated.origin q hq with ⟨-, hne⟩ | ⟨p, hp, -, -, hstatus⟩
      · exact absurd hrun hne
      · exact hstatus

/-- `_publish_durable_r1_archive` returns with the run published. -/
theorem sat_publishDurableArchive {t : UtcMillis} {object : S3Object}
    {publication : ArchivePublication} (store : Bool) (hw : w.Sound) (hpending : w.pending i = [])
    (hreceipt : ⟨object, publication.runId⟩ ∈ w.committed.receipts)
    (hstored : w.Stored publication.payload) :
    Sat (workerProtocol receiptLockKey strict i)
      (Ends World.Sound fun _ w => w.pending i = [] ∧ SettledUnder strict store object publication.runId w)
      (publishDurableArchive sha256 i t publication) w := by
  let P : World ι → Prop := fun w => w.pending i = [] ∧
    ⟨object, publication.runId⟩ ∈ w.committed.receipts ∧ w.Stored publication.payload
  have hP : Kept receiptLockKey strict i P :=
    (kept_pending []).and ((kept_receipt _).and (kept_stored _))
  unfold publishDurableArchive
  split
  · exact sat_raise kept_sound hw
  · refine sat_try (sat_publishArchive hP (fun w hp => hp.2.2) ⟨hw, hpending, hreceipt, hstored⟩)
      (fun _ w hw harchived => ?_) (fun e w hw => ?_)
    · refine sat_try (sat_markArchivePublished store hw.1 hw.2.1 hw.2.2.1 hw.2.2.2 harchived) ?_ ?_
      · exact fun _ w hw hp =>
          sat_pure kept_sound ((kept_pending []).and (kept_settledUnder store object _)) hw hp
      · intro e w hw
        show Sat _ _ (archiveMarked (.error e)) w
        unfold archiveMarked
        split
        · contradiction
        · split
          · exact sat_raise kept_sound hw
          · exact sat_raise kept_sound hw
    · show Sat _ _ (archivePublished i t publication.runId (.error e)) w
      unfold archivePublished
      split
      · exact sat_recordFailure (by decide) hw.1 hw.2.1
      · exact sat_recordFailure (by decide) hw.1 hw.2.1
      · exact sat_raise kept_sound hw.1
      · contradiction

end Store

/-! ## One input -/

section Input

variable {sha256 : Sha256} {strict : Prop} {receiptLockKey : S3Object → Int} {i : ι}
  {w : World ι} {env : FleetEnvironment} {object : S3Object} {runId : String}

theorem view_of_pending (h : w.pending i = []) : w.view i = w.committed := by
  rw [World.view, h]
  rfl

/-- A Runtime snapshot of the Worker is no step of its transaction. -/
theorem sat_observeRuntime {I : World ι → Prop} {status : Option PipelineRuntimeStatus}
    (hI : Kept receiptLockKey strict i I) (hw : I w) :
    Sat (workerProtocol receiptLockKey strict i) (fun _ => I) (observeRuntime status) w := by
  cases status with
  | none => exact sat_done hI hw
  | some status =>
    refine sat_attempt (Q := fun _ => I) ?_ fun _ w hw => sat_done hI hw
    refine sat_request hI (fun _ => hI) (fun _ _ hw _ => hw) (fun w r w' hw _ hb => ?_) hw
    obtain ⟨-, rfl⟩ := Prod.mk.inj (Option.some.inj hb)
    have hprogress : Progress strict w { w with committed := w.committed.saveRuntime status } :=
      .of_eq rfl rfl rfl
    have hapart : ∀ j, Apart receiptLockKey j w
        { w with committed := w.committed.saveRuntime status } := fun _ =>
      ⟨rfl, fun _ h => h, fun _ h => h, fun _ _ h => h, fun _ _ h => h⟩
    have hkept := hI _ _ hw ⟨hprogress, hapart i⟩
    exact ⟨⟨hprogress, fun j _ => hapart j, .none rfl⟩, hkept, fun _ _ => hkept⟩

theorem sat_endTracker {P : World ι → Prop} {tracker : Option RuntimeTracker}
    {trackerCall : TrackerCall} (hP : Kept receiptLockKey strict i P) (hw : w.Sound) (h : P w) :
    Sat (workerProtocol receiptLockKey strict i) (Ends World.Sound fun _ => P)
      (endTracker tracker trackerCall) w := by
  have hI := kept_sound.and hP
  refine sat_mono (Q := fun _ w => w.Sound ∧ P w) (fun _ _ h => ⟨h.1, fun _ _ => h.2⟩) ?_
  cases tracker with
  | none => exact sat_done hI ⟨hw, h⟩
  | some tracker => exact sat_observeRuntime hI ⟨hw, h⟩

theorem kept_settledInput :
    Kept receiptLockKey strict i fun w => w.pending i = [] ∧ Settled strict env.publicationStore object w :=
  (kept_pending []).and (kept_settled _ object)

/-- What an execution has in its transaction. -/
def Executing (receiptLockKey : S3Object → Int) (i : ι) (object : S3Object) (runId : String)
    (w : World ι) : Prop :=
  w.pending i = [.insertRun runId] ∧ Acquired receiptLockKey i object w

theorem kept_executing : Kept receiptLockKey strict i (Executing receiptLockKey i object runId) :=
  (kept_pending _).and (kept_acquired object)

/-- What a transaction has before its receipt. -/
def Pending (receiptLockKey : S3Object → Int) (i : ι) (object : S3Object) (runId : String)
    (publication : Option ArchivePublication) (w : World ι) : Prop :=
  Acquired receiptLockKey i object w ∧ Staged i runId publication (w.pending i) w

theorem kept_pendingReceipt {publication : Option ArchivePublication} :
    Kept receiptLockKey strict i (Pending receiptLockKey i object runId publication) := by
  rintro w w' ⟨hacquired, hstaged⟩ hr
  refine ⟨kept_acquired object w w' hacquired hr, ?_⟩
  rw [hr.2.pending]
  exact kept_staged w w' hstaged hr

/-- What is durable with a receipt: the row of a publication, and without one no row of
the run that is not published. -/
def Durable (strict : Prop) (i : ι) (object : S3Object) (runId : String)
    (publication : Option ArchivePublication) (w : World ι) : Prop :=
  w.pending i = [] ∧ SettledUnder strict publication.isNone object runId w ∧
    ∀ p, publication = some p → p.runId = runId ∧ w.Stored p.payload

theorem kept_durable {publication : Option ArchivePublication} :
    Kept receiptLockKey strict i (Durable strict i object runId publication) := by
  rintro w w' ⟨hpending, hsettled, hstored⟩ hr
  refine ⟨kept_pending [] w w' hpending hr, kept_settledUnder _ object runId w w' hsettled hr,
    fun p hp => ⟨(hstored p hp).1, kept_stored _ w w' (hstored p hp).2 hr⟩⟩

variable [DecidableEq ι]

theorem sat_acquireExecution (hw : w.Sound) (hpending : w.pending i = []) :
    Sat (workerProtocol receiptLockKey strict i)
      (Ends World.Sound fun prior w => w.pending i = [] ∧
        (∀ runId, prior = some runId → ⟨object, runId⟩ ∈ w.committed.receipts) ∧
        (prior = none → Acquired receiptLockKey i object w))
      (acquireExecution receiptLockKey i object) w := by
  refine sat_local rfl (kept_pending []) (fun prior => (kept_pending []).and
    (.and (fun w w' h hr runId hrun => hr.1.receipts _ (h runId hrun))
      (.imp fun _ => kept_acquired object))) (fun w r w' _ hp hb => ?_) hw hpending
  split at hb
  · next hfree =>
    obtain ⟨rfl, rfl⟩ := Prod.mk.inj (Option.some.inj hb)
    refine ⟨local_lockObject hfree, fun prior hprior => ⟨hp, fun runId hrun => ?_, fun hnone => ?_⟩⟩
    · rw [view_of_pending hp, hrun] at hprior
      exact getSuccessfulRunId_eq_some hprior
    · rw [view_of_pending hp, hnone] at hprior
      exact ⟨Function.update_self .., getSuccessfulRunId_eq_none hprior⟩
  · cases hb

/-- A commit of a transaction without statements. -/
theorem sat_releaseExecution {P : World ι → Prop} (hP : Kept receiptLockKey strict i P)
    (hcommitted : Committed i P) (hw : w.Sound) (h : P w) (hpending : w.pending i = []) :
    Sat (workerProtocol receiptLockKey strict i) (Ends World.Sound fun _ w => w.pending i = [] ∧ P w)
      (commitTransaction i .releaseExecution) w := by
  refine sat_local rfl ((kept_pending []).and hP) (fun _ => (kept_pending []).and hP)
    (fun w r w' _ hp hb => ?_) hw ⟨hpending, h⟩
  obtain ⟨-, rfl⟩ := Prod.mk.inj (Option.some.inj hb)
  have hview : w.commit i = w.rollback i := by
    rw [World.commit, view_of_pending hp.1]
    rfl
  rw [hview]
  exact ⟨local_rollback, fun _ _ => ⟨pending_rollback, hcommitted _ _ local_rollback hp.2⟩⟩

/-- A skipped input returns settled. -/
theorem sat_skipObject (hw : w.Sound) (hpending : w.pending i = [])
    (hreceipt : ⟨object, runId⟩ ∈ w.committed.receipts) :
    Sat (workerProtocol receiptLockKey strict i)
      (Ends World.Sound fun _ w => w.pending i = [] ∧ Settled strict env.publicationStore object w)
      (skipObject sha256 i env object runId) w := by
  have hcommitted : ∀ store : Bool, Committed i (SettledUnder strict store object runId) := by
    rintro store w w' hlocal ⟨hreceipt, hpublished⟩
    refine ⟨by rwa [hlocal.receipts], fun hs hstore => ?_⟩
    rw [World.RunPublished, hlocal.publications]
    exact hpublished hs hstore
  have hrelease : ∀ w : World ι, w.Sound → w.pending i = [] →
      SettledUnder strict env.publicationStore object runId w →
      Sat (workerProtocol receiptLockKey strict i)
        (Ends World.Sound fun _ w => w.pending i = [] ∧ Settled strict env.publicationStore object w)
        (commitTransaction i .releaseExecution) w := by
    intro w hw hpending hsettled
    refine sat_mono ?_ (sat_releaseExecution (kept_settledUnder _ _ _) (hcommitted _) hw hsettled
      hpending)
    exact fun r w h => ⟨h.1, fun a ha => ⟨(h.2 a ha).1, runId, (h.2 a ha).2⟩⟩
  unfold skipObject
  split
  · next hstore =>
    -- the row of the run, or the reason that there is none
    let Found : Option ArchivePublication → World ι → Prop := fun found w => w.pending i = [] ∧
      (∀ p, found = some p → p.runId = runId ∧ w.Stored p.payload) ∧
      SettledUnder strict (found.isNone) object runId w
    have hkept : ∀ found, Kept receiptLockKey strict i (Found found) := fun found =>
      (kept_pending []).and (.and (fun w w' h hr p hp => ⟨(h p hp).1, kept_stored _ w w' (h p hp).2 hr⟩)
        (kept_settledUnder _ _ _))
    refine sat_seq kept_sound (sat_query (A := Found) rfl ((kept_pending []).and (kept_receipt _)) hkept
      (fun w found hw hp hq => ?_) hw ⟨hpending, hreceipt⟩) fun found w hw hp => ?_
    · rw [view_of_pending hp.1] at hq
      have hget : w.committed.getPublication runId = .ok found := Except.mapError_eq_ok.mp hq
      refine ⟨hp.1, fun p hfound => ?_, hp.2, fun _ hnone p hmem hrun => ?_⟩
      · rw [hfound] at hget
        obtain ⟨hmem, hrun⟩ := getPublication_eq_some hget
        exact ⟨hrun, p, hmem, rfl⟩
      · rw [Option.isNone_iff_eq_none.mp hnone] at hget
        exact absurd hrun (getPublication_eq_none hget p hmem)
    · cases found with
      | none => exact hrelease w hw hp.1 ⟨hp.2.2.1, fun hs _ => hp.2.2.2 hs rfl⟩
      | some p =>
        obtain ⟨rfl, hstored⟩ := hp.2.1 p rfl
        refine sat_mono ?_ (sat_publishDurableArchive env.publicationStore hw hp.1
          hp.2.2.1 hstored)
        exact fun r w h => ⟨h.1, fun a ha => ⟨(h.2 a ha).1, p.runId, (h.2 a ha).2⟩⟩
  · next hstore =>
    refine hrelease w hw hpending ⟨hreceipt, fun _ h => absurd h hstore⟩

theorem sat_savePending {publication : ArchivePublication}
    (hrun : publication.runId = runId)
    (hpre : publication.payload.objectPrefix = r1ArchivePrefix ++ "/" ++ runId) (hw : w.Sound)
    (h : Executing receiptLockKey i object runId w) :
    Sat (workerProtocol receiptLockKey strict i)
      (Ends World.Sound fun saved => Pending receiptLockKey i object runId (some saved))
      (savePending i publication) w := by
  refine sat_local rfl kept_executing (fun _ => kept_pendingReceipt) (fun w r w' _ hp hb => ?_) hw h
  obtain ⟨hpending, hacquired⟩ := hp
  have hview : (w.view i).publications = w.committed.publications := by
    rw [World.view, hpending]
    rfl
  cases hsave : (w.view i).savePending publication with
  | error e =>
    simp only [hsave] at hb
    obtain ⟨rfl, rfl⟩ := Prod.mk.inj (Option.some.inj hb)
    exact ⟨.refl w, fun _ h => by cases h⟩
  | ok x =>
    obtain ⟨d, saved⟩ := x
    simp only [hsave] at hb
    have hsaved := savePending_eq_ok hsave
    rw [hview, hrun] at hsaved
    rw [hview, hrun] at hb
    split at hb
    · next hpresent =>
      -- the row of the run is there, with the payload
      obtain ⟨rfl, rfl⟩ := Prod.mk.inj (Option.some.inj hb)
      refine ⟨.refl w, fun saved' hs => ?_⟩
      obtain rfl := Except.ok.inj hs
      obtain ⟨hmem, hsame⟩ := hsaved.resolve_left fun h => hpresent h.1
      refine ⟨hacquired, .inl ⟨hpending, fun p hp => ?_⟩⟩
      obtain rfl := Option.some.inj hp
      exact ⟨hsame, _, hmem, rfl⟩
    · next habsent =>
      have hrows := Table.get_eq_none.mp (not_not.mp habsent)
      split at hb
      · next hfree =>
        obtain ⟨rfl, rfl⟩ := Prod.mk.inj (Option.some.inj hb)
        refine ⟨(local_lockRow hfree).trans (local_push _), fun saved' hs => ?_⟩
        obtain rfl := Except.ok.inj hs
        obtain ⟨-, rfl⟩ := hsaved.resolve_right fun h => hrows _ h.1 h.2
        refine ⟨hacquired, .inr ⟨_, rfl, hrun, hpre, ?_, Function.update_self .., hrows⟩⟩
        rw [pending_push]
        exact congrArg (· ++ _) hpending
      · cases hb

theorem sat_savePendingArchive {execution : StandaloneExecution} (hw : w.Sound)
    (h : Executing receiptLockKey i object execution.runId w) :
    Sat (workerProtocol receiptLockKey strict i)
      (Ends World.Sound fun publication => Pending receiptLockKey i object execution.runId publication)
      (savePendingArchive sha256 i env execution) w := by
  unfold savePendingArchive
  split
  · refine sat_pure kept_sound kept_pendingReceipt hw ⟨h.2, .inl ⟨h.1, fun p hp => ?_⟩⟩
    cases hp
  · next r1Archive _ =>
    split
    · exact sat_raise kept_sound hw
    · have hinsert : Sat (workerProtocol receiptLockKey strict i)
          (Ends World.Sound fun saved => Pending receiptLockKey i object execution.runId (some saved))
          (insertArchive sha256 i execution.runId r1Archive) w :=
        sat_seq kept_sound (sat_unchanged rfl kept_executing hw h) fun _ w hw h =>
          sat_savePending rfl rfl hw h
      refine sat_try hinsert (fun saved w hw hp => ?_) (fun e w hw => ?_)
      · exact sat_pure kept_sound kept_pendingReceipt hw hp
      · show Sat _ _ (archiveInserted (.error e)) w
        unfold archiveInserted
        split
        · contradiction
        · split
          · exact sat_raise kept_sound hw
          · exact sat_raise kept_sound hw

/-- The commit of a receipt. -/
theorem sat_commitReceipt {publication : Option ArchivePublication} {writes : List TableWrite}
    (hw : w.Sound) (hacquired : Acquired receiptLockKey i object w)
    (hstaged : Staged i runId publication writes w)
    (hpending : w.pending i = writes ++ [.saveSuccess ⟨object, runId⟩]) :
    Sat (workerProtocol receiptLockKey strict i)
      (Ends World.Sound fun _ => Durable strict i object runId publication)
      (commitTransaction i (.commitReceipt object runId)) w := by
  refine sat_call ((kept_acquired object).and (kept_staged.and (kept_pending _)))
    (fun _ => kept_durable) (fun w r w' hw hp hclean hb => ?_) hw ⟨hacquired, hstaged, hpending⟩
  obtain ⟨-, rfl⟩ := Prod.mk.inj (Option.some.inj hb)
  obtain ⟨hacquired, hstaged, hpending⟩ := hp
  have hreceipted := view_of_staged hacquired hstaged hpending
  refine ⟨guarantee_receipt hacquired hreceipted hclean, fun _ _ => ⟨pending_commit, ⟨?_, ?_⟩,
    hreceipted.publication⟩⟩
  · exact (hreceipted.receipts _).mpr (.inr rfl)
  · intro hs hnone q hq hrun
    rcases hreceipted.new q hq with hq | ⟨hsome, -⟩
    · -- a row of the run would have a receipt that names it
      obtain ⟨r, hr, hname⟩ := hw.named q hq
      exact absurd (hname.trans hrun) (hclean hs r hr)
    · exact absurd (Option.isNone_iff_eq_none.mp hnone) hsome

theorem sat_commitExecution {execution : StandaloneExecution} (hw : w.Sound)
    (h : Executing receiptLockKey i object execution.runId w) :
    Sat (workerProtocol receiptLockKey strict i)
      (Ends World.Sound fun publication => Durable strict i object execution.runId publication)
      (commitExecution sha256 i env object execution) w := by
  unfold commitExecution
  split
  · exact sat_raise kept_sound hw
  · refine sat_seq kept_sound (sat_savePendingArchive hw h) fun publication w hw hp => ?_
    let P : World ι → Prop := fun w' => Acquired receiptLockKey i object w' ∧
      Staged i execution.runId publication (w.pending i) w'
    have hP : Kept receiptLockKey strict i P := (kept_acquired object).and kept_staged
    refine sat_seq kept_sound (sat_execute rfl hP (fun _ h => h) hw hp rfl) fun _ w' hw' hp' => ?_
    refine sat_seq kept_sound (sat_commitReceipt hw' hp'.1.1 hp'.1.2 hp'.2) fun _ w hw hp => ?_
    exact sat_pure kept_sound kept_durable hw hp

/-- What follows the commit of a receipt. -/
theorem sat_executionCommitted {execution : StandaloneExecution}
    {publication : Option ArchivePublication} (hw : w.Sound)
    (h : Durable strict i object execution.runId publication w) :
    Sat (workerProtocol receiptLockKey strict i)
      (Ends World.Sound fun _ w => w.pending i = [] ∧ Settled strict env.publicationStore object w)
      (executionCommitted sha256 i env object execution (.ok publication)) w := by
  have hpublish : Sat (workerProtocol receiptLockKey strict i)
      (Ends World.Sound fun _ w => w.pending i = [] ∧ Settled strict env.publicationStore object w)
      (publishPendingArchive sha256 i (env.clock object) publication) w := by
    obtain ⟨hpending, hsettled, hstored⟩ := h
    cases publication with
    | none =>
      refine sat_pure kept_sound kept_settledInput hw ⟨hpending, execution.runId, hsettled.1, ?_⟩
      exact fun hs _ => hsettled.2 hs rfl
    | some p =>
      obtain ⟨hrun, hstored⟩ := hstored p rfl
      have hreceipt : ⟨object, p.runId⟩ ∈ w.committed.receipts := hrun ▸ hsettled.1
      refine sat_mono ?_ (sat_publishDurableArchive env.publicationStore hw hpending hreceipt hstored)
      exact fun r w h => ⟨h.1, fun a ha => ⟨(h.2 a ha).1, p.runId, (h.2 a ha).2⟩⟩
  refine sat_try hpublish (fun _ w hw hp => sat_endTracker kept_settledInput hw hp) (fun e w hw => ?_)
  show Sat _ _ (executionPublished env object execution (.error e)) w
  unfold executionPublished
  split
  · contradiction
  · exact sat_raise kept_sound hw
  · refine sat_seq kept_sound (sat_endTracker (P := fun _ => True) (fun _ _ h _ => h) hw trivial) ?_
    exact fun _ w hw _ => sat_raise kept_sound hw

theorem sat_runStandaloneJob (hw : w.Sound) (hpending : w.pending i = [])
    (h : Acquired receiptLockKey i object w) :
    Sat (workerProtocol receiptLockKey strict i)
      (Ends World.Sound fun execution => Executing receiptLockKey i object execution.runId)
      (runStandaloneJob i env object) w := by
  refine sat_local rfl ((kept_pending []).and (kept_acquired object)) (fun _ => kept_executing)
    (fun w r w' _ hp hb => ?_) hw ⟨hpending, h⟩
  split at hb
  · obtain ⟨rfl, rfl⟩ := Prod.mk.inj (Option.some.inj hb)
    exact ⟨.refl w, fun _ h => by cases h⟩
  · split at hb
    · obtain ⟨rfl, rfl⟩ := Prod.mk.inj (Option.some.inj hb)
      exact ⟨.refl w, fun _ h => by cases h⟩
    · obtain ⟨rfl, rfl⟩ := Prod.mk.inj (Option.some.inj hb)
      refine ⟨local_push _, fun execution hexecution => ?_⟩
      obtain rfl := Except.ok.inj hexecution
      refine ⟨?_, hp.2⟩
      rw [pending_push, hp.1]
      rfl

/-- An input without a receipt returns settled. -/
theorem sat_executeObject (hw : w.Sound) (hpending : w.pending i = [])
    (h : Acquired receiptLockKey i object w) :
    Sat (workerProtocol receiptLockKey strict i)
      (Ends World.Sound fun _ w => w.pending i = [] ∧ Settled strict env.publicationStore object w)
      (executeObject sha256 i env object) w := by
  let P : World ι → Prop := fun w => w.pending i = [] ∧ Acquired receiptLockKey i object w
  have hP : Kept receiptLockKey strict i P := (kept_pending []).and (kept_acquired object)
  have hdownload : ∀ w : World ι, w.Sound → P w → Sat (workerProtocol receiptLockKey strict i)
      (Ends World.Sound fun _ => P) (downloadObject object) w := by
    intro w hw hp
    refine sat_try (sat_unchanged rfl hP hw hp) (fun _ w hw hp => sat_pure kept_sound hP hw hp)
      (fun e w hw => ?_)
    show Sat _ _ (objectDownloaded object (.error e)) w
    unfold objectDownloaded
    split
    · contradiction
    · split
      · exact sat_raise kept_sound hw
      · exact sat_raise kept_sound hw
    · exact sat_raise kept_sound hw
    · exact sat_raise kept_sound hw
  refine sat_seq kept_sound (sat_unchanged rfl hP hw ⟨hpending, h⟩) fun _ w hw hp => ?_
  refine sat_seq kept_sound (hdownload w hw hp) fun _ w hw hp => ?_
  have hstandalone : Sat (workerProtocol receiptLockKey strict i)
      (Ends World.Sound fun execution => Executing receiptLockKey i object execution.runId)
      ((runStandaloneJob i env object).attempt >>= standaloneEnded) w := by
    refine sat_try (sat_runStandaloneJob hw hp.1 hp.2)
      (fun execution w hw hp => sat_pure kept_sound kept_executing hw hp) (fun e w hw => ?_)
    show Sat _ _ (standaloneEnded (.error e)) w
    unfold standaloneEnded
    split
    · contradiction
    · split
      · exact sat_raise kept_sound hw
      · split
        · exact sat_raise kept_sound hw
        · exact sat_raise kept_sound hw
  refine sat_seq kept_sound hstandalone fun execution w hw hp => ?_
  refine sat_try (sat_commitExecution hw hp) (fun publication w hw hp => sat_executionCommitted hw hp)
    (fun e w hw => ?_)
  refine sat_seq kept_sound (sat_endTracker (P := fun _ => True) (fun _ _ h _ => h) hw trivial) ?_
  exact fun _ w hw _ => sat_raise kept_sound hw

/-- A processed input is settled. -/
theorem sat_processObject (hw : w.Sound) (hpending : w.pending i = []) :
    Sat (workerProtocol receiptLockKey strict i)
      (Ends World.Sound fun _ w => w.pending i = [] ∧ Settled strict env.publicationStore object w)
      (processObject sha256 receiptLockKey i env object) w := by
  refine sat_seq kept_sound (sat_acquireExecution hw hpending) fun prior w hw hp => ?_
  cases prior with
  | some runId => exact sat_skipObject hw hp.1 (hp.2.1 runId rfl)
  | none => exact sat_executeObject hw hp.1 (hp.2.2 rfl)

end Input

end IncidentAwareness.Archive
