import IncidentAwareness.Archive.PublicationStates

/-!
# Failed Runtimes and sound tables over redeliveries

A failed Runtime of a run with rows stays, and while it is there the archive of the run is not
published:

* `Stores.Stranded`: sound tables with failed Runtimes over archives that are not published; what
  a statement asks so that they stay (`Stranded.updateStatus`, `stranded_rowInvariant`);
* `markPublished_commits`: `mark_published` commits the row of its run or nothing;
* `publishDurableR1Archive_stranded`, `processInput_stranded`: one input;
* `stranded_after`: every run keeps them, and its tables are sound (`sound_after`).
-/

namespace IncidentAwareness.Archive

open IncidentAwareness.Common IncidentAwareness.Lib IncidentAwareness.Persistence

variable {sha256 : Sha256} {faults : Faults} {F : PipelineRuntimeStatus → Prop}

/-! ## Failed Runtimes -/

/-- Sound tables with the failed Runtimes of `F`, whose archives are not published. -/
structure Stores.Stranded (sha256 : Sha256) (F : PipelineRuntimeStatus → Prop) (d : Stores) : Prop where
  sound : d.Sound sha256
  failed : ∀ status, F status → status ∈ d.runtimes ∧ status.val.status = .failed ∧
    status.val.runId ∈ d.runIds ∧ ¬ d.InState status.val.runId .published

namespace Stores

variable {d d' : Stores} {p q : ArchivePublication}

/-- The row of a scope is changed by a snapshot of that scope only. -/
theorem mem_saveRuntime {status new : PipelineRuntimeStatus} (hscope : status.scope ≠ new.scope) :
    status ∈ (d.saveRuntime new).runtimes ↔ status ∈ d.runtimes := by
  have hupsert : status ∈ d.runtimes.upsert new ↔ status ∈ d.runtimes := by
    rw [Table.mem_upsert]
    constructor
    · rintro (rfl | h)
      · exact absurd rfl hscope
      · exact h.1
    · exact fun h => .inr ⟨h, hscope⟩
  show status ∈ (d.runtimes.save new).1 ↔ _
  unfold RuntimeTable.save
  split
  · exact hupsert
  · split
    · exact hupsert
    · exact Iff.rfl

theorem saveSuccess_eq (d : Stores) (receipt : S3ObjectReceipt) :
    ∃ receipts, d.saveSuccess receipt = { d with receipts := receipts } ∧
      ∀ r ∈ d.receipts, r ∈ receipts := by
  unfold Stores.saveSuccess
  cases hinsert : d.receipts.insert? receipt with
  | none => exact ⟨d.receipts, rfl, fun r hr => hr⟩
  | some receipts => exact ⟨receipts, rfl, fun r hr => (Table.mem_of_insert? hinsert).mpr (.inl hr)⟩

theorem Sound.insertRun (h : d.Sound sha256) (runId : String) :
    Sound sha256 { d with runIds := d.runIds ++ [runId] } :=
  ⟨fun r hr => (h.receipts r hr).imp_left (List.mem_append_left _),
    fun p hp => (h.publications p hp).imp_left (List.mem_append_left _)⟩

/-- An update to another status than `published` publishes no archive. -/
theorem not_inState_updateStatus {runId r : String} {status : PublicationStatus}
    {errorType errorMessage : Option String} (h : ¬ d.InState r .published)
    (hd : d.updateStatus runId status errorType errorMessage = .ok d')
    (hne : status ≠ .published ∨ r ≠ runId) : ¬ d'.InState r .published := by
  obtain ⟨row, hrow, hrun, rfl⟩ := updateStatus_eq_ok.mp hd
  rintro ⟨p, hp, hprun, hpublished⟩
  rcases Table.mem_upsert.mp hp with rfl | ⟨hp, -⟩
  · rcases hne with hne | hne
    · exact hne hpublished
    · exact hne (hprun.symm.trans hrun)
  · exact h ⟨p, hp, hprun, hpublished⟩

theorem Stranded.updateStatus (h : d.Stranded sha256 F) {runId : String} {status : PublicationStatus}
    {errorType errorMessage : Option String} (htype : ∀ v ∈ errorType, isBlank v = false)
    (hmessage : ∀ v ∈ errorMessage, isBlank v = false) (hne : status ≠ .published)
    (hd : d.updateStatus runId status errorType errorMessage = .ok d') : d'.Stranded sha256 F := by
  refine ⟨h.sound.updateStatus htype hmessage hd, fun st hst => ?_⟩
  obtain ⟨hmem, hfailed, hrun, hnot⟩ := h.failed st hst
  have hnot' := not_inState_updateStatus hnot hd (.inl hne)
  obtain ⟨row, -, -, rfl⟩ := updateStatus_eq_ok.mp hd
  exact ⟨hmem, hfailed, hrun, hnot'⟩

/-- The writes of a new run are none of the runs of `F`. -/
theorem stranded_rowInvariant : RowInvariant sha256 (Stranded sha256 F) fun runId =>
    ∀ status, F status → status.val.runId ≠ runId where
  fresh d runId hd hrun := fun status hst heq => hrun (heq ▸ (hd.failed status hst).2.2.1)
  saveRuntime d new hd hfresh := by
    refine ⟨hd.sound.saveRuntime new, fun st hst => ?_⟩
    obtain ⟨hmem, hrest⟩ := hd.failed st hst
    refine ⟨(mem_saveRuntime fun hscope => ?_).mpr hmem, hrest⟩
    exact hfresh st hst (congrArg Prod.fst hscope)
  insertRun d runId hd := by
    refine ⟨hd.sound.insertRun runId, fun st hst => ?_⟩
    obtain ⟨hmem, hfailed, hrun, hnot⟩ := hd.failed st hst
    exact ⟨hmem, hfailed, List.mem_append_left _ hrun, hnot⟩
  savePending d d' p q hd hwf _ hrun hwrite := by
    obtain ⟨⟨hruns, hruntimes, -⟩, -, hnew⟩ := mem_of_savePending hwrite
    refine ⟨hd.sound.savePending hwf hrun hwrite, fun st hst => ?_⟩
    obtain ⟨hmem, hfailed, hlisted, hnot⟩ := hd.failed st hst
    refine ⟨hruntimes ▸ hmem, hfailed, hruns ▸ hlisted, ?_⟩
    rintro ⟨r, hr, hrrun, hpublished⟩
    rcases hnew r hr with hr | rfl
    · exact hnot ⟨r, hr, hrrun, hpublished⟩
    · cases hpublished
  saveSuccess d receipt hd hrun hblank := by
    refine ⟨hd.sound.saveSuccess hrun hblank, fun st hst => ?_⟩
    obtain ⟨receipts, heq, -⟩ := saveSuccess_eq d receipt
    rw [heq]
    exact hd.failed st hst

end Stores

/-! ## What a delivery keeps -/

section Delivery

variable {s s' : System} {p : ArchivePublication} {t : UtcMillis}

/-- A publication is marked only where its run has no failed Runtime. -/
theorem Marked.stranded (h : Marked p s s') (hp : p ∈ s.session.publications)
    (hs : s.session.Stranded sha256 F) : s'.committed.Stranded sha256 F := by
  refine ⟨⟨fun r hr => ?_, fun q hq => ?_⟩, fun st hst => ?_⟩
  · rw [h.receipts] at hr
    rw [h.runIds]
    exact hs.sound.receipts r hr
  · rw [h.publications] at hq
    rw [h.runIds]
    cases Table.mem_upsert.mp hq with
    | inr hq => exact hs.sound.publications q hq.1
    | inl heq =>
      obtain ⟨hrun, hwf⟩ := hs.sound.publications p hp
      rw [heq]
      exact ⟨hrun, hwf.runId, hwf.bucket, hwf.objectPrefix, hwf.evidenceSha256, hwf.summarySha256,
        (fun _ hv => by cases hv), fun _ hv => by cases hv⟩
  · obtain ⟨hmem, hfailed, hrun, hnot⟩ := hs.failed st hst
    refine ⟨(h.failed st hfailed).mpr hmem, hfailed, h.runIds ▸ hrun, ?_⟩
    rintro ⟨q, hq, hqrun, hpublished⟩
    rw [h.publications] at hq
    rcases Table.mem_upsert.mp hq with rfl | ⟨hq, -⟩
    · exact h.noFailed st hmem hqrun.symm hfailed
    · exact hnot ⟨q, hq, hqrun, hpublished⟩

/-- What `mark_published` commits: the row of its run, if there is one. -/
theorem markPublished_commits {runId : String} :
    wp (markPublished faults t runId)
      (fun _ s' => ∃ q ∈ s.session.publications, q.runId = runId ∧ Marked q s s')
      (fun _ s' => Outside s s' ∧ (s'.committed = s.committed ∨
        ∃ q ∈ s.session.publications, q.runId = runId ∧ Marked q s s')) s := by
  cases hget : s.session.publications.get runId with
  | none =>
    have hmissing : ∃ e, s.session.updateStatus runId .published = .error e := by
      rw [Stores.updateStatus, hget]
      exact ⟨_, rfl⟩
    obtain ⟨e, hmissing⟩ := hmissing
    have hkept : Outside s s ∧ (s.committed = s.committed ∨
        ∃ q ∈ s.session.publications, q.runId = runId ∧ Marked q s s) := ⟨⟨rfl, rfl⟩, .inl rfl⟩
    have hstatement (Q : Unit → System → Prop) : wp (statement fun d => do
        let d ← d.updateStatus runId .published
        return (d, ())) Q (fun _ s' => Outside s s' ∧ (s'.committed = s.committed ∨
          ∃ q ∈ s.session.publications, q.runId = runId ∧ Marked q s s')) s := by
      rw [wp_statement, hmissing]
      exact ⟨fun _ _ h => (by cases h), fun _ _ => hkept⟩
    rw [markPublished, wp_bind]
    exact wp_external (hstatement _) (fun _ _ => hkept) fun _ _ => hstatement _
  | some p =>
    obtain ⟨hp, rfl⟩ := Table.get_eq_some.mp hget
    refine wp_mono (markPublished_spec hp) (fun _ s' h => ⟨p, hp, rfl, h⟩) fun stop s' h => ?_
    exact ⟨h.1, h.2.2.imp_right fun hmarked => ⟨p, hp, rfl, hmarked⟩⟩

theorem markPublished_stranded {runId : String} (hs : Both (Stores.Stranded sha256 F) s) :
    wp (markPublished faults t runId) (fun _ => Both (Stores.Stranded sha256 F))
      (fun _ s' => s'.committed.Stranded sha256 F) s := by
  refine wp_mono markPublished_commits (fun _ s' h => ?_) fun stop s' h => ?_
  · obtain ⟨q, hq, -, hmarked⟩ := h
    have hcommitted := hmarked.stranded hq hs.2
    exact ⟨hcommitted, hmarked.session ▸ hcommitted⟩
  · rcases h.2 with heq | ⟨q, hq, -, hmarked⟩
    · exact heq ▸ hs.1
    · exact hmarked.stranded hq hs.2

theorem conflictName_nonblank : isBlank "R1ArchiveConflictError" = false := by decide

theorem uploadName_nonblank : isBlank "R1ArchiveUploadError" = false := by decide

/-- A recorded error publishes nothing. -/
theorem recordFailure_stranded {runId : String} {status : PublicationStatus} {e e' : WorkerError}
    (hs : Both (Stores.Stranded sha256 F) s) (hne : status ≠ .published)
    (htype : isBlank e.typeName = false) (htext : isBlank e.text = false) :
    wp (do recordPublicationFailure faults runId status e; raise e' : Worker Unit)
      (fun _ => Both (Stores.Stranded sha256 F)) (fun _ s' => s'.committed.Stranded sha256 F) s := by
  have hmark : Keeps (Both (Stores.Stranded sha256 F)) (markError faults runId status e) := by
    refine keeps_markError fun d d' hd hwrite => hd.updateStatus ?_ ?_ hne hwrite
    · exact fun v hv => Option.some.inj hv ▸ htype
    · exact fun v hv => Option.some.inj hv ▸ htext
  rw [wp_bind, recordPublicationFailure, wp_bind, wp_attempt]
  exact wp_mono (hmark s hs) (fun _ _ hs' => hs'.1) fun _ _ hs' => ⟨fun _ _ => hs'.1, fun _ => hs'.1⟩

theorem ArchiveRaises.text_nonblank {text : String}
    (h : ArchiveRaises faults (.archiveConflict text) ∨ ArchiveRaises faults (.archiveUpload text)) :
    isBlank text = false := by
  rcases h with h | h
  · cases h with
    | conflict hblank => exact hblank
  · cases h with
    | upload hblank => exact hblank

theorem publishDurableR1Archive_stranded (hs : Both (Stores.Stranded sha256 F) s)
    (hwf : p.WellFormed sha256) :
    wp (publishDurableR1Archive sha256 faults t p) (fun _ => Both (Stores.Stranded sha256 F))
      (fun _ s' => s'.committed.Stranded sha256 F) s := by
  unfold publishDurableR1Archive
  by_cases hfailed : p.status = .failed
  · rw [if_pos hfailed]
    exact hs.1
  · have hkeep : Keeps (Both (Stores.Stranded sha256 F)) (publishR1Archive sha256 faults p) :=
      keeps_publishR1Archive (fun _ _ h => h) p
    rw [if_neg hfailed]
    show wp (attempt (publishR1Archive sha256 faults p) >>= _) _ _ s
    rw [wp_bind, wp_attempt]
    refine wp_mono (wp_and (hkeep s hs) (publishR1Archive_spec hwf hfailed)) (fun _ s₁ h => ?_)
      fun stop s₁ h => ⟨fun e he => ?_, fun _ => h.1.1⟩
    · show wp (attempt (markPublished faults t p.runId) >>= _) _ _ s₁
      rw [wp_bind, wp_attempt]
      refine wp_mono (markPublished_stranded h.1) (fun _ _ h => h) fun stop s₂ h => ⟨fun e _ => ?_, fun _ => h⟩
      dsimp only
      split
      · exact h
      · exact h
    · obtain ⟨hs₁, -, hraises⟩ := h
      obtain ⟨hraises, -⟩ := hraises e he
      split
      · next text heq =>
        obtain rfl := Except.error.inj heq
        exact recordFailure_stranded hs₁ (by decide) conflictName_nonblank
          (ArchiveRaises.text_nonblank (.inl hraises))
      · next text heq =>
        obtain rfl := Except.error.inj heq
        exact recordFailure_stranded hs₁ (by decide) uploadName_nonblank
          (ArchiveRaises.text_nonblank (.inr hraises))
      · exact hs₁.1
      · contradiction

theorem processInput_stranded {env : Environment} {object : S3Object}
    (hs : Both (Stores.Stranded sha256 F) s) :
    wp (processInput sha256 env object) (fun _ => Both (Stores.Stranded sha256 F))
      (fun _ s' => s'.committed.Stranded sha256 F) s := by
  have hI := (@Stores.stranded_rowInvariant sha256 F).both
  refine processInput_kept hI hs (executeInput_kept hI ?_ hs) ?_
  · exact fun s' p hs' hwf _ => publishDurableR1Archive_stranded hs' hwf
  · intro runId _ _
    refine skipInput_kept hI hs fun p hp _ _ _ => ?_
    exact publishDurableR1Archive_stranded hs (hs.2.sound.publications p hp).2

theorem stranded_step (hs : s.committed.Stranded sha256 F) (step : WorkerStep) :
    (s.step sha256 step).1.committed.Stranded sha256 F := by
  cases step with
  | send message => exact hs
  | writeArchive key content => exact hs
  | deliver message env =>
    refine deliver_kept hs fun inputs _ => ?_
    exact wp_forM_prefix (C := fun _ _ => True) (I := fun _ => Both (Stores.Stranded sha256 F))
      (fun _ _ _ _ _ hs' _ => processInput_stranded hs') ⟨hs, hs⟩ (along_of_forall (fun _ _ => trivial) _ _)

theorem stranded_after (hs : s.committed.Stranded sha256 F) (steps : List WorkerStep) :
    (after (System.step sha256) s steps).committed.Stranded sha256 F :=
  run_induction (System.step sha256) (P := fun s => s.committed.Stranded sha256 F)
    (fun _ step hs => stranded_step hs step) hs steps

/-- The tables of every reachable state are sound. -/
theorem sound_after (runIds : List String) (runtimes : RuntimeTable)
    (archive : ObjectKey → Option Bytes) (queue : List Message) (steps : List WorkerStep) :
    (after (System.step sha256) (System.initial runIds runtimes archive queue)
      steps).committed.Sound sha256 := by
  refine (stranded_after (F := fun _ => False) ⟨⟨?_, ?_⟩, fun _ h => h.elim⟩ steps).sound
  · exact fun r hr => absurd hr (Table.not_mem_empty r)
  · exact fun p hp => absurd hp (Table.not_mem_empty p)

end Delivery

end IncidentAwareness.Archive
