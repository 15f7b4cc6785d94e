import IncidentAwareness.Archive.RuntimeConvergence
import IncidentAwareness.Archive.S3Outcome

/-!
# What the processing of an input keeps

The standalone pipeline runs under a run id that has no rows yet. A property of the system
that the writes of such a run keep (`RunInvariant`, and `RowInvariant` for one of the tables)
is kept by everything that the Worker does to an input, if it is kept by the publication of
the archive:

* `runStandalone_kept`, `commitSuccess_kept`, `executeInput_kept`: an input without a receipt;
* `skipInput_kept`: an input whose receipt names a run;
* `processInput_kept`, `deliver_kept`: an input, and a delivery.

Where the Worker stops, less is left of it: the session is rolled back.
-/

namespace IncidentAwareness.Archive

open IncidentAwareness.Common IncidentAwareness.Lib IncidentAwareness.Persistence

variable {sha256 : Sha256} {faults : Faults}

/-! ## `publish_r1_archive` writes to S3 only -/

section Publish

variable {I : System → Prop} (hI : ∀ s archive, I s → I { s with archive := archive })

theorem keeps_getObject (key : ObjectKey) : Keeps I (getObject key) := by
  refine keeps_bind keeps_get fun s => ?_
  cases s.archive key with
  | none => exact keeps_throw _
  | some content => exact keeps_pure _

theorem keeps_readFailed (key : ObjectKey) (e : WorkerError) : Keeps I (readFailed key e) := by
  unfold readFailed
  split
  · split
    · exact keeps_pure _
    · exact keeps_throw _
  · exact keeps_throw _
  · exact keeps_throw _

theorem keeps_verifyObject (key : ObjectKey) (entry : ArchiveEntry) (missing : String) :
    Keeps I (verifyObject sha256 faults key entry missing) := by
  refine keeps_bind ?_ fun content => ?_
  · refine keeps_bind (keeps_attempt (keeps_external (keeps_getObject key))) fun r => ?_
    cases r with
    | ok content => exact keeps_pure _
    | error e => exact keeps_readFailed key e
  · cases content with
    | none => exact keeps_throw _
    | some content =>
      show Keeps I (validateExistingContent sha256 content key entry.expectedSha256)
      unfold validateExistingContent
      split
      · exact keeps_throw _
      · exact keeps_pure _

theorem keeps_putFailed (key : ObjectKey) (entry : ArchiveEntry) (e : WorkerError) :
    Keeps I (putFailed sha256 faults key entry e) := by
  unfold putFailed
  split
  · split
    · exact keeps_bind (keeps_verifyObject key entry _) fun _ => keeps_pure _
    · exact keeps_throw _
  · exact keeps_throw _
  · exact keeps_throw _

include hI

theorem keeps_putObject (key : ObjectKey) (content : Bytes) : Keeps I (putObject key content) := by
  intro s hs
  rw [putObject, wp_bind, wp_get]
  cases s.archive key with
  | none => exact hI s _ hs
  | some _ => exact hs

theorem keeps_publishR1Archive (p : ArchivePublication) :
    Keeps I (publishR1Archive sha256 faults p) := by
  unfold publishR1Archive
  split
  · exact keeps_throw _
  · refine keeps_forM fun entry _ => keeps_bind ?_ fun _ => keeps_pure _
    refine keeps_bind (keeps_attempt (keeps_external (keeps_putObject hI _ _))) fun r => ?_
    cases r with
    | error e => exact keeps_putFailed _ entry e
    | ok u => exact keeps_bind (keeps_verifyObject _ entry _) fun _ => keeps_pure _

end Publish

/-! ## The snapshots of a tracker -/

/-- A snapshot is saved on the connection of the observer. -/
def System.observed (s : System) (status : PipelineRuntimeStatus) : System :=
  { s with
    committed := s.committed.saveRuntime status
    session := s.session.saveRuntime status }

section Tracker

variable {I : System → Prop} {Fresh : String → Prop}
  (hI : ∀ s (status : PipelineRuntimeStatus), I s → Fresh status.val.runId → I (s.observed status))

include hI

/-- A snapshot has the run id of its tracker. -/
theorem track_kept {tracker : RuntimeTracker} (hfresh : Fresh tracker.runId)
    (trackerCall : TrackerCall) (fault : Fault ExternalError) {s : System} (hs : I s) :
    wp (track tracker trackerCall fault) (fun tracker' s' => I s' ∧ Fresh tracker'.runId)
      (fun _ => I) s := by
  have hsnapshot : Keeps I (publishSnapshot fault (tracker.apply trackerCall).2) := by
    cases hstatus : (tracker.apply trackerCall).2 with
    | none => exact keeps_pure _
    | some status =>
      have hrun : status.val.runId = tracker.runId :=
        congrArg (fun i => i.1.1) (RuntimeTracker.snapshot_invocation hstatus)
      refine keeps_bind (keeps_attempt (keeps_call ?_)) fun _ => keeps_pure _
      exact keeps_modify fun s hs => hI s status hs (hrun ▸ hfresh)
  have hrun : (tracker.apply trackerCall).1.runId = tracker.runId :=
    congrArg (fun i => i.1.1) (RuntimeTracker.apply_invocation tracker trackerCall)
  rw [track, wp_bind]
  exact wp_mono (hsnapshot s hs) (fun _ s' hs' => ⟨hs', hrun ▸ hfresh⟩) fun _ _ hs' => hs'

theorem keeps_finishTracker {tracker : Option RuntimeTracker}
    (hfresh : ∀ t ∈ tracker, Fresh t.runId) (trackerCall : TrackerCall) (fault : Fault ExternalError) :
    Keeps I (finishTracker tracker trackerCall fault) := by
  intro s hs
  cases tracker with
  | none => exact hs
  | some tracker =>
    show wp (track tracker trackerCall fault >>= fun _ => pure ()) _ _ s
    rw [wp_bind]
    exact wp_mono (track_kept hI (hfresh tracker rfl) trackerCall fault hs) (fun _ _ h => h.1)
      fun _ _ h => h

theorem trackStages_kept {tracker : RuntimeTracker} (hfresh : Fresh tracker.runId)
    (stages : List ((PipelineStage ⊕ Nat) × UtcMillis × Fault ExternalError)) {s : System} (hs : I s) :
    wp (trackStages tracker stages) (fun tracker' s' => I s' ∧ Fresh tracker'.runId)
      (fun _ => I) s := by
  induction stages generalizing tracker s with
  | nil => exact ⟨hs, hfresh⟩
  | cons stage stages ih =>
    show wp (track tracker (stageCall stage.1 stage.2.1) stage.2.2 >>= fun tracker =>
      trackStages tracker stages) _ _ s
    rw [wp_bind]
    exact wp_mono (track_kept hI hfresh _ _ hs) (fun _ _ h => ih h.2 h.1) fun _ _ h => h

theorem trackOutcome_kept {runId : String} (hfresh : Fresh runId) (outcome : StandaloneOutcome)
    {s : System} (hs : I s) :
    wp (trackOutcome runId outcome) (fun tracker s' => I s' ∧ ∀ t ∈ tracker, Fresh t.runId)
      (fun _ => I) s := by
  unfold trackOutcome StandaloneOutcome.trackerOf
  cases outcome.tracker with
  | none => exact ⟨hs, fun t ht => by cases ht⟩
  | some tracker =>
    show wp (trackStages { tracker with runId := runId } outcome.stages >>= fun tracker =>
      pure (some tracker)) _ _ s
    rw [wp_bind]
    refine wp_mono (trackStages_kept hI hfresh outcome.stages hs) (fun tracker' s' h => ?_) fun _ _ h => h
    exact ⟨h.1, fun t ht => Option.some.inj ht ▸ h.2⟩

end Tracker

/-! ## Rows of a new run -/

theorem not_mem_of_allocateRunId {used : List String} {date runId : String} {sequence n : Nat}
    (h : allocateRunId used date sequence n = some runId) : runId ∉ used := by
  induction n generalizing sequence with
  | zero => cases h
  | succ n ih =>
    rw [allocateRunId] at h
    split at h
    · exact ih h
    · next hfree =>
      rw [← Option.some.inj h]
      exact hfree

/-- A property `I` of the system that the writes of a run keep which has no rows when it starts,
and what a stop leaves of it. -/
structure RunInvariant (sha256 : Sha256) (I J : System → Prop) (Fresh : String → Prop) : Prop where
  stopped : ∀ s, I s → J s
  fresh : ∀ s runId, I s → runId ∉ s.session.runIds → Fresh runId
  observed : ∀ s (status : PipelineRuntimeStatus), I s → Fresh status.val.runId → I (s.observed status)
  observedStopped : ∀ s (status : PipelineRuntimeStatus), J s → Fresh status.val.runId →
    J (s.observed status)
  insertRun : ∀ s runId, I s →
    I { s with session := { s.session with runIds := s.session.runIds ++ [runId] } }
  savePending : ∀ s d p q, I s → p.WellFormed sha256 → Fresh p.runId → p.runId ∈ s.session.runIds →
    s.session.savePending p = .ok (d, q) → I { s with session := d }
  saveSuccess : ∀ s receipt, I s → receipt.runId ∈ s.session.runIds → isBlank receipt.runId = false →
    I { s with session := s.session.saveSuccess receipt }
  commit : ∀ s, I s → I { s with committed := s.session }

/-- A property of the tables that these writes keep. -/
structure RowInvariant (sha256 : Sha256) (P : Stores → Prop) (Fresh : String → Prop) : Prop where
  fresh : ∀ d runId, P d → runId ∉ d.runIds → Fresh runId
  saveRuntime : ∀ d (status : PipelineRuntimeStatus), P d → Fresh status.val.runId →
    P (d.saveRuntime status)
  insertRun : ∀ d runId, P d → P { d with runIds := d.runIds ++ [runId] }
  savePending : ∀ d d' p q, P d → p.WellFormed sha256 → Fresh p.runId → p.runId ∈ d.runIds →
    d.savePending p = .ok (d', q) → P d'
  saveSuccess : ∀ d receipt, P d → receipt.runId ∈ d.runIds → isBlank receipt.runId = false →
    P (d.saveSuccess receipt)

theorem RowInvariant.both {P : Stores → Prop} {Fresh : String → Prop}
    (h : RowInvariant sha256 P Fresh) : RunInvariant sha256 (Both P) (fun s => P s.committed) Fresh where
  stopped _ hs := hs.1
  fresh _ runId hs hrun := h.fresh _ runId hs.2 hrun
  observed _ status hs hfresh := ⟨h.saveRuntime _ status hs.1 hfresh, h.saveRuntime _ status hs.2 hfresh⟩
  observedStopped _ status hs hfresh := h.saveRuntime _ status hs hfresh
  insertRun _ runId hs := ⟨hs.1, h.insertRun _ runId hs.2⟩
  savePending _ d p q hs hwf hfresh hrun hwrite := ⟨hs.1, h.savePending _ d p q hs.2 hwf hfresh hrun hwrite⟩
  saveSuccess _ receipt hs hrun hblank := ⟨hs.1, h.saveSuccess _ receipt hs.2 hrun hblank⟩
  commit _ hs := ⟨hs.2, hs.2⟩

theorem toPublication_wellFormed {runId : String} (h : isBlank runId = false)
    (r1Archive : R1GeneratedArchive) : (r1Archive.toPublication sha256 runId).WellFormed sha256 :=
  ⟨h, r1Archive.bucket_nonblank, rfl, rfl, rfl, (fun _ hv => by cases hv), fun _ hv => by cases hv⟩

theorem nonblank_of_optionalString {value : Option String} {fieldName : String}
    (h : (value.forM fun v => Stores.requiredString v fieldName) = .ok ()) :
    ∀ v ∈ value, isBlank v = false := by
  intro v hv
  rw [Option.mem_def.mp hv] at h
  rw [← Bool.not_eq_true]
  exact raiseIf_eq_ok.mp h

/-- `save_pending` changes no row that is there. -/
theorem Stores.mem_of_savePending {d d' : Stores} {p q : ArchivePublication}
    (h : d.savePending p = .ok (d', q)) :
    (d'.runIds = d.runIds ∧ d'.runtimes = d.runtimes ∧ d'.receipts = d.receipts) ∧
      (∀ r ∈ d.publications, r ∈ d'.publications) ∧
      ∀ r ∈ d'.publications, r ∈ d.publications ∨ r = { payload := p.payload } := by
  unfold savePending at h
  cases hinsert : d.publications.insert? { payload := p.payload } with
  | some publications =>
    rw [hinsert] at h
    obtain ⟨rfl, -⟩ := Prod.mk.inj (Except.ok.inj h)
    exact ⟨⟨rfl, rfl, rfl⟩, fun r hr => (Table.mem_of_insert? hinsert).mpr (.inl hr), fun r hr =>
      (Table.mem_of_insert? hinsert).mp hr⟩
  | none =>
    rw [hinsert] at h
    cases hget : d.getPublication p.runId with
    | error e =>
      simp only [hget] at h
      cases h
    | ok found =>
      cases found with
      | none =>
        simp only [hget] at h
        cases h
      | some existing =>
        simp only [hget] at h
        split at h
        · cases h
        · obtain ⟨rfl, -⟩ := Prod.mk.inj (Except.ok.inj h)
          exact ⟨⟨rfl, rfl, rfl⟩, fun r hr => hr, fun r hr => .inl hr⟩

/-- What `save_pending` returns is well formed: an existing row is read with its checks. -/
theorem wellFormed_of_savePending {d d' : Stores} {p q : ArchivePublication}
    (hp : p.WellFormed sha256) (h : d.savePending p = .ok (d', q)) :
    q.WellFormed sha256 ∧ q.runId = p.runId := by
  unfold Stores.savePending at h
  cases hinsert : d.publications.insert? { payload := p.payload } with
  | some publications =>
    rw [hinsert] at h
    obtain ⟨-, rfl⟩ := Prod.mk.inj (Except.ok.inj h)
    exact ⟨hp, rfl⟩
  | none =>
    rw [hinsert] at h
    cases hget : d.getPublication p.runId with
    | error e =>
      simp only [hget] at h
      cases h
    | ok found =>
      cases found with
      | none =>
        simp only [hget] at h
        cases h
      | some existing =>
        simp only [hget] at h
        split at h
        · cases h
        · next hpayload =>
          obtain ⟨-, rfl⟩ := Prod.mk.inj (Except.ok.inj h)
          have hsame : existing.payload = p.payload := not_not.mp hpayload
          have hrow : Stores.publicationFromRow existing = .ok existing := by
            unfold Stores.getPublication at hget
            split at hget
            · cases hget
            · obtain ⟨q, hq, hpure⟩ := Except.bind_eq_ok.mp hget
              obtain rfl := Option.some.inj (Except.ok.inj hpure)
              obtain rfl := publicationFromRow_eq_ok hq
              exact hq
          simp only [Stores.publicationFromRow, Except.unit_bind_eq_ok] at hrow
          refine ⟨⟨?_, ?_, ?_, ?_, ?_, nonblank_of_optionalString hrow.2.2.2.2.2.1,
            nonblank_of_optionalString hrow.2.2.2.2.2.2.1⟩, congrArg (·.runId) hsame⟩
          · rw [ArchivePublication.runId, hsame]
            exact hp.runId
          · rw [hsame]
            exact hp.bucket
          · rw [ArchivePublication.runId, hsame]
            exact hp.objectPrefix
          · rw [hsame]
            exact hp.evidenceSha256
          · rw [hsame]
            exact hp.summarySha256

section Input

variable {I J : System → Prop} {P : Stores → Prop} {Fresh : String → Prop} {env : Environment}
  {object : S3Object} {s : System} (hI : RunInvariant sha256 I J Fresh)

theorem keeps_commitOf (hcommit : ∀ s, I s → I { s with committed := s.session }) : Keeps I commit :=
  fun s hs => hcommit s hs

include hI

/-- The standalone pipeline runs under a run id without rows. -/
theorem runStandalone_kept (hs : I s) :
    wp (runStandalone env object)
      (fun execution s' => I s' ∧ execution.runId ∈ s'.session.runIds ∧ Fresh execution.runId ∧
        ∀ t ∈ execution.runtimeTracker, Fresh t.runId)
      (fun _ => J) s := by
  rw [runStandalone, wp_bind, wp_get]
  cases hallocate : allocateRunId s.session.runIds env.date 1 999 with
  | none => exact hI.stopped s hs
  | some runId =>
    have hfresh : Fresh runId := hI.fresh _ runId hs (not_mem_of_allocateRunId hallocate)
    show wp (runUnder runId (env.standalone object runId)) _ _ s
    rw [runUnder, wp_bind]
    refine wp_mono (trackOutcome_kept hI.observed hfresh _ hs) (fun tracker s₁ h => ?_)
      fun _ _ h => hI.stopped _ h
    obtain ⟨hs₁, htracker⟩ := h
    cases (env.standalone object runId).result with
    | crashed => exact hI.stopped s₁ hs₁
    | raised e failed =>
      have hreport : Keeps I (reportFailedStage tracker failed) := by
        cases failed with
        | none => exact keeps_pure _
        | some failed => exact keeps_finishTracker hI.observed htracker _ _
      show wp (reportFailedStage tracker failed >>= fun _ => raise (.external e)) _ _ s₁
      rw [wp_bind]
      exact wp_mono (hreport s₁ hs₁) (fun _ _ h => hI.stopped _ h) fun _ _ h => hI.stopped _ h
    | returned r1Archive =>
      refine ⟨hI.insertRun s₁ runId hs₁, ?_, hfresh, htracker⟩
      exact List.mem_append_right _ (List.mem_singleton_self runId)

theorem callStandalone_kept (hs : I s) :
    wp (callStandalone env object)
      (fun execution s' => I s' ∧ execution.runId ∈ s'.session.runIds ∧ Fresh execution.runId ∧
        ∀ t ∈ execution.runtimeTracker, Fresh t.runId)
      (fun _ => J) s := by
  rw [callStandalone, wp_bind, wp_attempt]
  refine wp_mono (runStandalone_kept hI hs) (fun _ _ h => h) fun stop s' h => ⟨fun e _ => ?_, fun _ => h⟩
  dsimp only
  split
  · exact h
  · split
    · exact h
    · exact h

theorem insertPublication_kept {runId : String} {r1Archive : R1GeneratedArchive} (hs : I s)
    (hrun : runId ∈ s.session.runIds) (hfresh : Fresh runId) (hblank : isBlank runId = false) :
    wp (insertPublication sha256 env object runId r1Archive)
      (fun p s' => I s' ∧ s'.session.runIds = s.session.runIds ∧ p.WellFormed sha256 ∧
        p.runId = runId)
      (fun _ => J) s := by
  have hread : wp (external (env.faults object) .readArchive
      (pure (r1Archive.toPublication sha256 runId)))
      (fun p s' => s' = s ∧ p = r1Archive.toPublication sha256 runId) (fun _ => J) s :=
    wp_call ⟨rfl, rfl⟩ (fun _ _ => hI.stopped s hs) fun _ _ => hI.stopped s hs
  rw [insertPublication, wp_bind]
  refine wp_mono hread ?_ fun _ _ h => h
  intro p s' h
  obtain ⟨rfl, rfl⟩ := h
  have hwf := @toPublication_wellFormed sha256 _ hblank r1Archive
  have hwrite : ∀ d q, s'.session.savePending (r1Archive.toPublication sha256 runId) = .ok (d, q) →
      I { s' with session := d } ∧ d.runIds = s'.session.runIds ∧ q.WellFormed sha256 ∧
        q.runId = runId := fun d q hd =>
    ⟨hI.savePending _ _ _ _ hs hwf hfresh hrun hd, (Stores.mem_of_savePending hd).1.1,
      wellFormed_of_savePending hwf hd⟩
  refine wp_call ?_ (fun _ _ => hI.stopped s' hs) fun _ _ => ?_
  · exact wp_statement.mpr ⟨hwrite, fun _ _ => hI.stopped s' hs⟩
  · exact wp_statement.mpr ⟨fun d q hd => hI.stopped _ (hwrite d q hd).1, fun _ _ => hI.stopped s' hs⟩

theorem savePendingPublication_kept {execution : StandaloneExecution} (hs : I s)
    (hrun : execution.runId ∈ s.session.runIds) (hfresh : Fresh execution.runId)
    (hblank : isBlank execution.runId = false) :
    wp (savePendingPublication sha256 env object execution)
      (fun publication s' => I s' ∧ s'.session.runIds = s.session.runIds ∧
        ∀ p ∈ publication, p.WellFormed sha256 ∧ p.runId = execution.runId)
      (fun _ => J) s := by
  unfold savePendingPublication
  split
  · exact ⟨hs, rfl, fun p hp => by cases hp⟩
  · split
    · exact hI.stopped s hs
    · show wp (attempt _ >>= _) _ _ s
      rw [wp_bind, wp_attempt]
      refine wp_mono (insertPublication_kept hI hs hrun hfresh hblank) (fun p s' h => ?_)
        fun stop s' h => ⟨fun e _ => ?_, fun _ => h⟩
      · exact ⟨h.1, h.2.1, fun q hq => Option.some.inj hq ▸ h.2.2⟩
      · dsimp only
        split
        · exact h
        · exact h

/-- What an execution needs before it is durable. -/
theorem commitSuccess_kept {execution : StandaloneExecution} (hs : I s)
    (hrun : execution.runId ∈ s.session.runIds) (hfresh : Fresh execution.runId) :
    wp (commitSuccess sha256 env object execution)
      (fun publication s' => I s' ∧
        ∀ p ∈ publication, p.WellFormed sha256 ∧ p.runId = execution.runId)
      (fun _ => J) s := by
  unfold commitSuccess
  split
  · exact hI.stopped s hs
  · next hblank =>
    show wp (savePendingPublication sha256 env object execution >>= _) _ _ s
    rw [wp_bind]
    have hnonblank : isBlank execution.runId = false := by
      rw [← Bool.not_eq_true]
      exact hblank
    refine wp_mono (savePendingPublication_kept hI hs hrun hfresh hnonblank) (fun publication s₁ h => ?_)
      fun _ _ h => h
    obtain ⟨hs₁, hruns, hpublication⟩ := h
    have hwrite : ∀ d, (.ok (s₁.session.saveSuccess ⟨object, execution.runId⟩, ()) :
        Except WorkerError (Stores × Unit)) = .ok (d, ()) → I { s₁ with session := d } := by
      intro d hd
      obtain ⟨rfl, -⟩ := Prod.mk.inj (Except.ok.inj hd)
      exact hI.saveSuccess _ _ hs₁ (hruns ▸ hrun) hnonblank
    have hreceipt : wp (external (env.faults object) .saveReceipt (statement fun d =>
        .ok (d.saveSuccess ⟨object, execution.runId⟩, ()))) (fun _ => I) (fun _ => I) s₁ := by
      refine wp_call ?_ (fun _ _ => hs₁) fun _ _ => ?_
      · exact wp_statement.mpr ⟨fun d _ hd => hwrite d hd, fun _ _ => hs₁⟩
      · exact wp_statement.mpr ⟨fun d _ hd => hwrite d hd, fun _ _ => hs₁⟩
    rw [wp_bind]
    refine wp_mono hreceipt (fun _ s₂ hs₂ => ?_) fun _ _ h => hI.stopped _ h
    rw [wp_bind]
    have hcommit : Keeps I (external (env.faults object) .commitReceipt commit) :=
      keeps_external (keeps_commitOf hI.commit)
    exact wp_mono (hcommit s₂ hs₂) (fun _ _ hs₃ => ⟨hs₃, hpublication⟩) fun _ _ h => hI.stopped _ h

/-- An input without a receipt. -/
theorem executeInput_kept
    (hpublish : ∀ s p, I s → p.WellFormed sha256 → Fresh p.runId →
      wp (publishDurableR1Archive sha256 (env.faults object) (env.clock object .updateStatus) p)
        (fun _ => I) (fun _ => J) s)
    (hs : I s) :
    wp (executeInput sha256 env object) (fun _ => I) (fun _ => J) s := by
  have hdirectory : Keeps I (external (env.faults object) .makeDirectory (pure ())) :=
    keeps_external (keeps_pure ())
  have hdownload : Keeps I (downloadSysmonJsonl env object) := by
    refine keeps_bind (keeps_attempt (keeps_external (keeps_pure ()))) fun r => ?_
    split
    · exact keeps_pure _
    · split
      · exact keeps_throw _
      · exact keeps_throw _
    · exact keeps_throw _
    · exact keeps_throw _
  rw [executeInput, wp_bind]
  refine wp_mono (hdirectory s hs) (fun _ s₁ hs₁ => ?_) fun _ _ h => hI.stopped _ h
  rw [wp_bind]
  refine wp_mono (hdownload s₁ hs₁) (fun _ s₂ hs₂ => ?_) fun _ _ h => hI.stopped _ h
  rw [wp_bind]
  refine wp_mono (callStandalone_kept hI hs₂) (fun execution s₃ h => ?_) fun _ _ h => h
  obtain ⟨hs₃, hrun, hfresh, htracker⟩ := h
  have hcomplete : Keeps I (completeRuntime env object execution) :=
    keeps_finishTracker hI.observed htracker _ _
  have hfail : Keeps J (failRuntime env object execution) :=
    keeps_finishTracker hI.observedStopped htracker _ _
  have hraise (e : WorkerError) (s' : System) (h : J s') :
      wp (do failRuntime env object execution; raise e : Worker Unit) (fun _ => I) (fun _ => J) s' := by
    rw [wp_bind]
    exact wp_mono (hfail s' h) (fun _ _ h => h) fun _ _ h => h
  rw [wp_bind, wp_attempt]
  refine wp_mono (commitSuccess_kept hI hs₃ hrun hfresh) (fun publication s₄ h => ?_) fun stop s₄ hs₄ =>
    ⟨fun e _ => hraise e s₄ hs₄, fun _ => hs₄⟩
  obtain ⟨hs₄, hpublication⟩ := h
  have hpending : wp (publishPending sha256 env object publication) (fun _ => I) (fun _ => J) s₄ := by
    cases publication with
    | none => exact hs₄
    | some p =>
      obtain ⟨hwf, hsame⟩ := hpublication p rfl
      exact hpublish s₄ p hs₄ hwf (hsame ▸ hfresh)
  show wp (attempt (publishPending sha256 env object publication) >>= _) _ _ s₄
  rw [wp_bind, wp_attempt]
  refine wp_mono hpending (fun _ s₅ hs₅ => ?_) fun stop s₅ hs₅ => ⟨fun e _ => ?_, fun _ => hs₅⟩
  · exact wp_mono (hcomplete s₅ hs₅) (fun _ _ h => h) fun _ _ h => hI.stopped _ h
  · split
    · exact hs₅
    · exact hraise _ s₅ hs₅
    · contradiction

/-- An input with a receipt publishes the row of its run, if there is one. -/
theorem skipInput_kept {runId : String} (hs : I s)
    (hpublish : ∀ p ∈ s.session.publications, p.runId = runId → env.publicationStore = true →
      env.faults object .getPublication = .none →
      wp (publishDurableR1Archive sha256 (env.faults object) (env.clock object .updateStatus) p)
        (fun _ => I) (fun _ => J) s) :
    wp (skipInput sha256 env object runId) (fun _ => I) (fun _ => J) s := by
  have hstop := hI.stopped s hs
  have hrelease : wp (external (env.faults object) .releaseExecution commit)
      (fun _ => I) (fun _ => J) s := by
    have hkeep : Keeps I (external (env.faults object) .releaseExecution commit) :=
      keeps_external (keeps_commitOf hI.commit)
    exact wp_mono (hkeep s hs) (fun _ _ h => h) fun _ _ h => hI.stopped _ h
  unfold skipInput
  split
  · next hstore =>
    rw [wp_bind]
    refine wp_call_of_none (fun hnone => ?_) (fun _ _ => hstop) fun _ _ => ?_
    · rw [wp_statement]
      refine ⟨fun d found hread => ?_, fun _ _ => hstop⟩
      cases hget : s.session.getPublication runId with
      | error e =>
        rw [hget] at hread
        cases hread
      | ok publication =>
        rw [hget] at hread
        obtain ⟨rfl, rfl⟩ := Prod.mk.inj (Except.ok.inj hread)
        cases publication with
        | none => exact hrelease
        | some p =>
          obtain ⟨hp, hrun⟩ := getPublication_eq_some hget
          exact hpublish p hp hrun hstore (Fault.map_eq_none.mp hnone)
    · rw [wp_statement]
      refine ⟨fun d found hread => ?_, fun _ _ => hstop⟩
      cases hget : s.session.getPublication runId with
      | error e =>
        rw [hget] at hread
        cases hread
      | ok publication =>
        rw [hget] at hread
        obtain ⟨rfl, -⟩ := Prod.mk.inj (Except.ok.inj hread)
        exact hstop
  · exact hrelease

/-- One input, by whether it has a receipt. -/
theorem processInput_kept (hs : I s)
    (hexecute : wp (executeInput sha256 env object) (fun _ => I) (fun _ => J) s)
    (hskip : ∀ runId, env.faults object .acquireExecution = .none →
      ⟨object, runId⟩ ∈ s.session.receipts →
      wp (skipInput sha256 env object runId) (fun _ => I) (fun _ => J) s) :
    wp (processInput sha256 env object) (fun _ => I) (fun _ => J) s := by
  have hstop := hI.stopped s hs
  rw [processInput, wp_bind]
  refine wp_call_of_none (fun hnone => ?_) (fun _ _ => hstop) fun _ _ => ?_
  · rw [wp_statement]
    refine ⟨fun d prior hread => ?_, fun _ _ => hstop⟩
    obtain ⟨found, hfound, hpure⟩ := Except.bind_eq_ok.mp hread
    obtain ⟨rfl, rfl⟩ := Prod.mk.inj (Except.pure_eq_ok.mp hpure)
    cases prior with
    | none => exact hexecute
    | some runId =>
      exact hskip runId (Fault.map_eq_none.mp hnone) (getSuccessfulRunId_eq_some hfound)
  · rw [wp_statement]
    refine ⟨fun d prior hread => ?_, fun _ _ => hstop⟩
    obtain ⟨found, -, hpure⟩ := Except.bind_eq_ok.mp hread
    obtain ⟨rfl, -⟩ := Prod.mk.inj (Except.pure_eq_ok.mp hpure)
    exact hstop

omit hI in
/-- One delivery. Whatever stopped it, its transaction is not committed. -/
theorem deliver_kept {message : Message} (h : P s.committed)
    (hinputs : ∀ inputs, message.body = .records inputs →
      wp (inputs.eraseDups.forM (processInput sha256 env)) (fun _ => Both P)
        (fun _ s' => P s'.committed) s.rollback) :
    P (deliver sha256 env message s).committed := by
  have hs : Both P s.rollback := ⟨h, h⟩
  have hmessage : wp (processMessage sha256 env message) (fun _ => Both P)
      (fun _ s' => P s'.committed) s.rollback := by
    unfold processMessage
    split
    · exact hs
    · exact hs.1
    · next inputs hbody => exact hinputs inputs hbody
  have hhandle : wp (handleMessage sha256 env message) (fun _ s' => P s'.committed)
      (fun _ s' => P s'.committed) s.rollback := by
    rw [handleMessage, wp_bind, wp_attempt]
    refine wp_mono hmessage (fun _ s' hs' => ?_) fun stop s' hs' => ⟨fun e _ => ?_, fun _ => hs'⟩
    · exact wp_call hs'.1 (fun _ _ => hs'.1) fun _ _ => hs'.1
    · exact wp_call hs' (fun _ _ => hs') fun _ _ => hs'
  unfold wp at hhandle
  unfold deliver System.after
  split
  · next hrun => rwa [hrun] at hhandle
  · next hrun => rwa [hrun] at hhandle

end Input

end IncidentAwareness.Archive
