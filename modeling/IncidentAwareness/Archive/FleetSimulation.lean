import IncidentAwareness.Archive.FleetSpec
import IncidentAwareness.Lib.Simulation

/-!
# The fleet does what the process does

The Worker is modelled twice: alone, as a process that a delivery runs through (`processInput`), and
as a program of the fleet, one call at a time (`processObject`). The program follows the process,
whatever the faults:

* `Sees`: the world looks to a Worker as the system of the process;
* the lemmas `follows_…`, one for each function, up to `follows_processInput`;
* `Observes`: what the process does for the snapshots of the standalone pipeline, which the fleet
  leaves to others.
-/

namespace IncidentAwareness.Archive

open IncidentAwareness.Common IncidentAwareness.Lib IncidentAwareness.Persistence

variable {ι : Type}

/-- What surrounds a Worker that runs alone: the snapshots of its tracker, and the faults of the
environment. -/
def observers : Surroundings WorkerError (World ι) where
  others w w' := ∃ status, w' = { w with committed := w.committed.saveRuntime status }
  faults fault := ∃ f : Fault ExternalError, fault = f.map .external

/-- A snapshot of the tracker, outside the transaction. -/
def System.observe (s : System) (status : PipelineRuntimeStatus) : System :=
  { s with committed := s.committed.saveRuntime status, session := s.session.saveRuntime status }

section Relation

/-- The tables, the objects and the queue are those of the system, and no lock of another Worker is
in the way. -/
structure Shares (i : ι) (w : World ι) (s : System) : Prop where
  committed : w.committed = s.committed
  archive : w.archive = s.archive
  queue : w.queue = s.queue
  objectFree : ∀ k, w.objectFree i k
  rowFree : ∀ runId, w.rowFree i runId

/-- The Worker's connection sees the session of the system as well. -/
structure Sees (i : ι) (w : World ι) (s : System) : Prop extends Shares i w s where
  session : w.view i = s.session

/-- The Worker has no open transaction. -/
def AtRest (i : ι) (w : World ι) (s : System) : Prop := Sees i w s ∧ w.pending i = []

variable {i : ι} {w : World ι} {s : System}

theorem AtRest.send (h : AtRest i w s.rollback) (message : Message) :
    AtRest i { w with queue := w.queue ++ [message] }
      { s with queue := s.queue ++ [message] }.rollback :=
  ⟨{ h.1 with queue := congrArg (· ++ [message]) h.1.queue }, h.2⟩

theorem AtRest.delete (h : AtRest i w s) (message : Message) :
    AtRest i { w with queue := w.queue.filter (· ≠ message) }
      { s.rollback with queue := s.queue.filter (· ≠ message) } := by
  refine ⟨⟨{ h.1.toShares with queue := by rw [h.1.queue] }, ?_⟩, h.2⟩
  exact (view_of_pending h.2).trans h.1.committed

theorem Shares.observe (h : Shares i w s) (status : PipelineRuntimeStatus) :
    Shares i { w with committed := w.committed.saveRuntime status } (s.observe status) :=
  { h with committed := congrArg (fun d : Stores => d.saveRuntime status) h.committed }

theorem AtRest.observe (h : AtRest i w s) (status : PipelineRuntimeStatus) :
    AtRest i { w with committed := w.committed.saveRuntime status } (s.observe status) := by
  refine ⟨⟨h.1.toShares.observe status, ?_⟩, h.2⟩
  have hsession : w.committed = s.session := (view_of_pending h.2).symm.trans h.1.session
  have hview : World.view { w with committed := w.committed.saveRuntime status } i =
      w.committed.saveRuntime status := view_of_pending h.2
  exact hview.trans (congrArg (fun d : Stores => d.saveRuntime status) hsession)

theorem Shares.rowFree_lockRow (h : Shares i w s) (runId runId' : String) :
    (w.lockRow i runId).rowFree i runId' := by
  by_cases hrun : runId' = runId
  · exact .inr (hrun ▸ Function.update_self ..)
  · simp only [World.rowFree, World.lockRow, Function.update_of_ne hrun]
    exact h.rowFree runId'

theorem Shares.objectFree_lockObject (h : Shares i w s) (lockKey lockKey' : Int) :
    (w.lockObject i lockKey).objectFree i lockKey' := by
  by_cases hkey : lockKey' = lockKey
  · exact .inr (hkey ▸ Function.update_self ..)
  · simp only [World.objectFree, World.lockObject, Function.update_of_ne hkey]
    exact h.objectFree lockKey'

theorem Sees.lockObject (h : Sees i w s) (lockKey : Int) : Sees i (w.lockObject i lockKey) s :=
  { h with objectFree := h.objectFree_lockObject lockKey }

theorem Sees.lockRow (h : Sees i w s) (runId : String) : Sees i (w.lockRow i runId) s :=
  { h with rowFree := h.rowFree_lockRow runId }

variable [DecidableEq ι]

theorem view_push (write : TableWrite) : (w.push i write).view i = write.apply (w.view i) := by
  rw [World.view, pending_push, Stores.applyAll, List.foldl_append]
  rfl

theorem Sees.push (h : Sees i w s) (write : TableWrite) :
    Sees i (w.push i write) { s with session := write.apply s.session } :=
  { h with session := by rw [view_push, h.session] }

theorem Shares.rollback (h : Shares i w s) : AtRest i (w.rollback i) s.rollback := by
  refine ⟨⟨⟨h.committed, h.archive, h.queue, fun k => ?_, fun runId => ?_⟩, ?_⟩, pending_rollback⟩
  · rcases h.objectFree k with hnone | hown
    · exact .inl (by simp only [World.rollback, hnone, ite_self])
    · exact .inl (by simp only [World.rollback, hown, if_true])
  · rcases h.rowFree runId with hnone | hown
    · exact .inl (by simp only [World.rollback, hnone, ite_self])
    · exact .inl (by simp only [World.rollback, hown, if_true])
  · rw [view_of_pending pending_rollback]
    exact h.committed

theorem Sees.commit (h : Sees i w s) : AtRest i (w.commit i) { s with committed := s.session } := by
  have hrollback := h.toShares.rollback
  refine ⟨⟨{ hrollback.1.toShares with committed := h.session }, ?_⟩, pending_commit⟩
  rw [view_of_pending pending_commit]
  exact h.session

end Relation

/-! ## The calls -/

section Calls

variable {i : ι} {w : World ι} {s : System} {α β : Type} {faults : Faults} {site : Site}
  {csite : CallSite}

theorem follows_external {P : World ι → System → Prop} {Q : α → β → World ι → System → Prop}
    {body : World ι → Option (Except WorkerError α × World ι)} {x : Worker β} (h : P w s)
    (hQ : ∀ a b w s, Q a b w s → P w s)
    (hbody : wp x (fun b s' => ∃ a w', body w = some (.ok a, w') ∧ Q a b w' s')
      (fun stop s' => ∃ e w', stop = .raised e ∧ body w = some (.error e, w') ∧ P w' s') s) :
    Follows observers (.request site body) (external faults csite x) Q (fun _ => P) w s := by
  refine follows_request ⟨faults csite, rfl⟩ (wp_mono hbody ?_ fun _ _ h => h) fun _ _ => h
  rintro b s' ⟨a, w', hb, hq⟩
  exact ⟨a, w', hb, hq, fun _ _ => hQ a b w' s' hq⟩

/-- A statement of the transaction. -/
theorem follows_statement {P : World ι → System → Prop} {Q : α → World ι → System → Prop}
    {body : World ι → Option (Except WorkerError α × World ι)}
    {write : Stores → Except WorkerError (Stores × α)} (h : P w s) (hQ : ∀ a w s, Q a w s → P w s)
    (hok : ∀ d a, write s.session = .ok (d, a) →
      ∃ w', body w = some (.ok a, w') ∧ Q a w' { s with session := d })
    (herror : ∀ e, write s.session = .error e → ∃ w', body w = some (.error e, w') ∧ P w' s) :
    Follows observers (.request site body) (external faults csite (statement write))
      (fun a b w s => a = b ∧ Q b w s) (fun _ => P) w s := by
  refine follows_external h (fun _ b w s hq => hQ b w s hq.2) (wp_statement.mpr ⟨?_, ?_⟩)
  · intro d a hwrite
    obtain ⟨w', hb, hq⟩ := hok d a hwrite
    exact ⟨a, w', hb, rfl, hq⟩
  · intro e hwrite
    obtain ⟨w', hb, hp⟩ := herror e hwrite
    exact ⟨e, w', rfl, hb, hp⟩

/-- A call that changes nothing here. -/
theorem follows_unchanged {P : World ι → System → Prop} {b : β} (h : P w s) :
    Follows observers (unchanged site) (external faults csite (pure b))
      (fun _ b' w s => b' = b ∧ P w s) (fun _ => P) w s :=
  follows_external h (fun _ _ _ _ h => h.2) ⟨(), w, rfl, rfl, h⟩

/-- A statement that only reads. -/
theorem follows_query {P : World ι → System → Prop} {q : Stores → Except WorkerError α}
    {write : Stores → Except WorkerError (Stores × α)} (h : P w s) (hsees : P w s → Sees i w s)
    (hwrite : ∀ d, write d = (q d).map fun a => (d, a)) :
    Follows observers (query i site q) (external faults csite (statement write))
      (fun a b w s => a = b ∧ P w s) (fun _ => P) w s := by
  have hview := (hsees h).session
  have hread := hwrite s.session
  cases hq : q s.session with
  | ok a =>
    rw [hq] at hread
    refine follows_statement (Q := fun _ => P) h (fun _ _ _ h => h) ?_ ?_
    · intro d a' ha
      obtain ⟨rfl, rfl⟩ := Prod.mk.inj (Except.ok.inj (hread.symm.trans ha))
      exact ⟨w, by rw [hview, hq], h⟩
    · intro e he
      cases hread.symm.trans he
  | error e =>
    rw [hq] at hread
    refine follows_statement (Q := fun _ => P) h (fun _ _ _ h => h) ?_ ?_
    · intro d a ha
      cases hread.symm.trans ha
    · intro e' he
      obtain rfl := Except.error.inj (hread.symm.trans he)
      exact ⟨w, by rw [hview, hq], h⟩

variable [DecidableEq ι]

/-- A statement that always succeeds. -/
theorem follows_execute {write : TableWrite} (h : Sees i w s) :
    Follows observers (execute i site write)
      (external faults csite (statement fun d => .ok (write.apply d, ())))
      (fun _ _ => Sees i) (fun _ => Sees i) w s := by
  refine (follows_statement (Q := fun _ => Sees i) h (fun _ _ _ h => h) ?_ ?_).mono
    (fun _ _ _ _ h => h.2) fun _ _ _ h => h
  · intro d a ha
    obtain ⟨rfl, rfl⟩ := Prod.mk.inj (Except.ok.inj ha)
    exact ⟨_, rfl, h.push write⟩
  · intro e he
    cases he

theorem follows_commit (h : Sees i w s) :
    Follows observers (commitTransaction i site) (external faults csite commit)
      (fun _ _ => AtRest i) (fun _ => Sees i) w s :=
  follows_external h (fun _ _ _ _ h => h.1) (wp_commit.mpr ⟨(), _, rfl, h.commit⟩)

theorem follows_updateStatus {runId : String} {status : PublicationStatus}
    {errorType errorMessage : Option String} (h : Sees i w s) :
    Follows observers (updateStatus i site runId status errorType errorMessage)
      (external faults csite (statement fun d => do
        let d ← d.updateStatus runId status errorType errorMessage
        return (d, ()))) (fun _ _ => Sees i) (fun _ => Sees i) w s := by
  refine (follows_statement (Q := fun _ => Sees i) h (fun _ _ _ h => h) ?_ ?_).mono
    (fun _ _ _ _ h => h.2) fun _ _ _ h => h
  · intro d a ha
    obtain ⟨d', hd', hpair⟩ := Except.bind_eq_ok.mp ha
    obtain ⟨rfl, rfl⟩ := Prod.mk.inj (Except.ok.inj hpair)
    refine ⟨(w.lockRow i runId).push i (.updateStatus runId status errorType errorMessage), ?_, ?_⟩
    · simp only [h.session, hd', if_pos (h.rowFree runId)]
    · have hpush := (h.lockRow runId).push (.updateStatus runId status errorType errorMessage)
      simp only [TableWrite.apply, hd'] at hpush
      exact hpush
  · intro e he
    refine ⟨w, ?_, h⟩
    cases hd : s.session.updateStatus runId status errorType errorMessage with
    | ok d => rw [hd] at he; cases he
    | error e' => rw [hd] at he; cases he; simp only [h.session, hd]

end Calls

/-! ## The archive -/

section Archive

variable {i : ι} {w : World ι} {s : System} {sha256 : Sha256} {faults : Faults}

theorem Sees.put (h : Sees i w s) (key : ObjectKey) (content : Bytes) :
    Sees i { w with archive := Function.update w.archive key (some content) }
      { s with archive := Function.update s.archive key (some content) } :=
  { h with archive := by rw [h.archive] }

theorem follows_putObject (filename : String) (key : ObjectKey) (content : Bytes) (h : Sees i w s) :
    Follows observers (putArchiveObject key content)
      (external faults (.putObject filename) (putObject key content)) (fun _ _ => Sees i)
      (fun _ => Sees i) w s := by
  refine follows_external h (fun _ _ _ _ h => h) ?_
  rw [putObject, wp_bind, wp_get]
  cases hobject : s.archive key with
  | some content' => exact ⟨_, w, rfl, by rw [h.archive, hobject], h⟩
  | none => exact ⟨(), _, by rw [h.archive, hobject], h.archive ▸ h.put key content⟩

theorem follows_getObject (filename : String) (key : ObjectKey) (h : Sees i w s) :
    Follows observers (getArchiveObject key) (external faults (.getObject filename) (getObject key))
      (fun a b w s => a = b ∧ Sees i w s) (fun _ => Sees i) w s := by
  refine follows_external h (fun _ _ _ _ h => h.2) ?_
  rw [getObject, wp_bind, wp_get]
  cases hobject : s.archive key with
  | none => exact ⟨_, w, rfl, by rw [h.archive, hobject], h⟩
  | some content => exact ⟨content, w, by rw [h.archive, hobject], rfl, h⟩

theorem follows_readFailed (key : ObjectKey) (e : WorkerError) (h : Sees i w s) :
    Follows observers (objectNotRead key e) (readFailed key e)
      (fun a b w s => a = b ∧ Sees i w s) (fun _ => Sees i) w s := by
  cases e with
  | external x =>
    cases x with
    | clientError code =>
      rw [objectNotRead, readFailed]
      split
      · exact follows_pure ⟨rfl, h⟩
      · exact follows_raise h
    | _ => exact follows_raise h
  | _ => exact follows_raise h

/-- `_read_s3_object`. -/
theorem follows_readS3Object (filename : String) (key : ObjectKey) (h : Sees i w s) :
    Follows observers (readArchiveObject key) (readS3Object faults filename key)
      (fun a b w s => a = b ∧ Sees i w s) (fun _ => Sees i) w s := by
  refine follows_bind (follows_attempt_eq (follows_getObject filename key h) fun _ _ h => h) ?_
  rintro r r' w s ⟨rfl, h, -⟩
  cases r with
  | ok content => exact follows_pure ⟨rfl, h⟩
  | error e => exact follows_readFailed key e h

theorem follows_verifyObject (key : ObjectKey) (entry : ArchiveEntry) (missing : String)
    (h : Sees i w s) :
    Follows observers (verifyArchiveObject sha256 key entry missing)
      (verifyObject sha256 faults key entry missing) (fun _ _ => Sees i) (fun _ => Sees i) w s := by
  refine follows_bind (follows_readS3Object entry.filename key h) ?_
  rintro r - w s ⟨rfl, h⟩
  cases r with
  | none => exact follows_raise h
  | some content =>
    show Follows observers (validateContent sha256 key entry missing (some content))
      (validateExistingContent sha256 content key entry.expectedSha256) _ _ w s
    unfold validateContent validateExistingContent
    by_cases hdigest : sha256.hexdigest content ≠ entry.expectedSha256
    · simp only [if_pos hdigest]
      exact follows_raise h
    · simp only [if_neg hdigest]
      exact follows_pure h

theorem follows_putFailed (key : ObjectKey) (entry : ArchiveEntry) (e : WorkerError)
    (h : Sees i w s) :
    Follows observers (objectNotPut sha256 key entry e) (putFailed sha256 faults key entry e)
      (fun _ _ => Sees i) (fun _ => Sees i) w s := by
  cases e with
  | external x =>
    cases x with
    | clientError code =>
      rw [objectNotPut, putFailed]
      split
      · exact follows_map (follows_verifyObject key entry _ h) fun _ _ _ _ h => h
      · exact follows_raise h
    | _ => exact follows_raise h
  | _ => exact follows_raise h

/-- `_put_immutable_object`. -/
theorem follows_putImmutableObject (key : ObjectKey) (entry : ArchiveEntry) (h : Sees i w s) :
    Follows observers (putImmutableArchiveObject sha256 key entry)
      (putImmutableObject sha256 faults key entry) (fun _ _ => Sees i) (fun _ => Sees i) w s := by
  refine follows_bind (follows_attempt_eq (follows_putObject entry.filename key entry.content h).unit
    fun _ _ h => h) ?_
  rintro r r' w s ⟨rfl, h, -⟩
  cases r with
  | ok u => exact follows_map (follows_verifyObject key entry _ h) fun _ _ _ _ h => h
  | error e => exact follows_putFailed key entry e h

/-- `publish_r1_archive`. -/
theorem follows_publishR1Archive (publication : ArchivePublication) (h : Sees i w s) :
    Follows observers (publishArchive sha256 publication) (publishR1Archive sha256 faults publication)
      (fun _ _ => Sees i) (fun _ => Sees i) w s := by
  unfold publishArchive publishR1Archive
  cases hvalid : validatePublication sha256 publication with
  | error e => exact follows_raise h
  | ok u =>
    refine follows_forM (fun entry _ w s h => ?_) h
    exact follows_map (follows_putImmutableObject _ entry h) fun _ _ _ _ h => h

end Archive

/-! ## The publication store -/

section Store

variable [DecidableEq ι] {i : ι} {w : World ι} {s : System} {sha256 : Sha256} {faults : Faults}

theorem follows_markError (runId : String) (status : PublicationStatus) (e : WorkerError)
    (h : Sees i w s) :
    Follows observers (markPublicationError i runId status e) (markError faults runId status e)
      (fun _ _ => Sees i) (fun _ => Sees i) w s := by
  refine follows_bind (follows_updateStatus h) fun _ _ w s h => ?_
  exact (follows_commit h).mono (fun _ _ _ _ h => h.1) fun _ _ _ h => h

theorem follows_saveRuntime (csite : CallSite) (status : PipelineRuntimeStatus) (h : Sees i w s) :
    Follows observers (saveRuntime i status) (external faults csite (statement fun d =>
        .ok (d.saveRuntime status, (d.runtimes.save status).2)))
      (fun a b w s => a = b ∧ Sees i w s) (fun _ => Sees i) w s := by
  refine follows_statement h (fun _ _ _ h => h) ?_ ?_
  · intro d a ha
    obtain ⟨rfl, rfl⟩ := Prod.mk.inj (Except.ok.inj ha)
    exact ⟨_, by rw [h.session], h.push (.saveRuntime status)⟩
  · intro e he
    cases he

theorem follows_completeRunningRuntime (t : UtcMillis) (status : PipelineRuntimeStatus)
    (h : Sees i w s) :
    Follows observers (completeRuntimeStatus i t status) (completeRunningRuntime faults t status)
      (fun _ _ => Sees i) (fun _ => Sees i) w s := by
  unfold completeRuntimeStatus completeRunningRuntime
  cases status.val.status with
  | failed => exact follows_raise h
  | completed => exact follows_pure h
  | running =>
    cases construct RuntimeStatusFields.validate
        (status.val.complete (max t status.val.updatedAt)) with
    | error e => exact follows_raise h
    | ok completedStatus =>
      refine follows_bind (follows_saveRuntime _ completedStatus h) ?_
      rintro saved - w s ⟨rfl, h⟩
      cases saved with
      | true => exact follows_pure h
      | false => exact follows_raise h

/-- `mark_published`. -/
theorem follows_markPublished (t : UtcMillis) (runId : String) (h : Sees i w s) :
    Follows observers (markArchivePublished i t runId) (markPublished faults t runId)
      (fun _ _ => AtRest i) (fun _ => Sees i) w s := by
  refine follows_bind (follows_updateStatus h) fun _ _ w s h => ?_
  refine follows_bind (follows_query h id fun _ => rfl) ?_
  rintro statuses - w s ⟨rfl, h⟩
  refine follows_bind (follows_forM (fun status _ w s h => ?_) h) fun _ _ w s h => follows_commit h
  exact follows_completeRunningRuntime t status h

theorem follows_recordPublicationFailure (runId : String) (status : PublicationStatus)
    (e : WorkerError) (h : Sees i w s) :
    Follows observers (recordFailure i runId status e) (recordPublicationFailure faults runId status e)
      (fun _ _ => Sees i) (fun _ => Sees i) w s := by
  refine follows_bind (follows_attempt_eq (follows_markError runId status e h).unit fun _ _ h => h) ?_
  exact fun _ _ _ _ h => follows_pure h.2.1

/-- `_publish_durable_r1_archive`. -/
theorem follows_publishDurableR1Archive (t : UtcMillis) (publication : ArchivePublication)
    (h : Sees i w s) :
    Follows observers (publishDurableArchive sha256 i t publication)
      (publishDurableR1Archive sha256 faults t publication) (fun _ _ => AtRest i) (fun _ => Sees i)
      w s := by
  unfold publishDurableArchive publishDurableR1Archive
  split
  · exact follows_raise h
  · refine follows_bind (follows_attempt_eq (follows_publishR1Archive publication h).unit
      fun _ _ h => h) ?_
    rintro r r' w s ⟨rfl, h, -⟩
    cases r with
    | ok u =>
      refine follows_bind (follows_attempt_eq (follows_markPublished t publication.runId h).unit
        fun _ _ h => h.1) ?_
      rintro r r' w s ⟨rfl, h, hrest⟩
      cases r with
      | ok u => exact follows_pure (hrest rfl)
      | error e =>
        show Follows observers (archiveMarked (.error e))
          (if e.isOperational then raise _ else raise e) _ _ w s
        by_cases hoperational : e.isOperational = true
        · simp only [archiveMarked, if_pos hoperational]
          exact follows_raise h
        · simp only [archiveMarked, if_neg hoperational]
          exact follows_raise h
    | error e =>
      cases e with
      | archiveConflict text =>
        refine follows_bind (follows_recordPublicationFailure _ _ _ h) fun _ _ _ _ h => ?_
        exact follows_raise h
      | archiveUpload text =>
        refine follows_bind (follows_recordPublicationFailure _ _ _ h) fun _ _ _ _ h => ?_
        exact follows_raise h
      | _ => exact follows_raise h

end Store

/-! ## The snapshots of the tracker -/

/-- Only snapshots were saved. -/
abbrev Observed : System → System → Prop :=
  Relation.ReflTransGen fun s s' => ∃ status, s' = s.observe status

/-- The process only saves snapshots, and returns `a` where it does not crash. -/
def Observes {α : Type} (x : Worker α) (a : α) : Prop :=
  ∀ s, wp x (fun b s' => b = a ∧ Observed s s') (fun stop s' => stop = .crashed ∧ Observed s s') s

section Tracker

variable {i : ι} {w w' : World ι} {s s' : System} {α β γ : Type}

theorem observes_pure (a : α) : Observes (pure a) a := fun _ => ⟨rfl, .refl⟩

theorem observes_bind {x : Worker α} {f : α → Worker β} {a : α} {b : β} (h : Observes x a)
    (hf : Observes (f a) b) : Observes (x >>= f) b := by
  refine fun s => wp_bind.mpr (wp_mono (h s) ?_ fun _ _ h => h)
  rintro a' s' ⟨rfl, hs⟩
  exact wp_mono (hf s') (fun _ _ h => ⟨h.1, hs.trans h.2⟩) fun _ _ h => ⟨h.1, hs.trans h.2⟩

theorem observes_observe (fault : Fault ExternalError) (status : PipelineRuntimeStatus) :
    Observes (observe fault status) () := by
  have hcall : ∀ s, wp (call (fault.map WorkerError.external) (modify fun s : System => s.observe status))
      (fun _ => Observed s) (fun _ => Observed s) s := fun s =>
    wp_call (.single ⟨status, rfl⟩) (fun _ _ => .refl) fun _ _ => .single ⟨status, rfl⟩
  intro s
  refine wp_bind.mpr (wp_attempt.mpr (wp_mono (hcall s) (fun _ _ h => ⟨rfl, h⟩) fun _ _ h => ?_))
  exact ⟨fun _ _ => ⟨rfl, h⟩, fun _ => ⟨rfl, h⟩⟩

theorem observes_track (tracker : RuntimeTracker) (trackerCall : TrackerCall)
    (fault : Fault ExternalError) :
    Observes (track tracker trackerCall fault) (tracker.apply trackerCall).1 := by
  refine observes_bind (a := ()) ?_ (observes_pure _)
  cases (tracker.apply trackerCall).2 with
  | none => exact observes_pure ()
  | some status => exact observes_observe fault status

theorem observes_finishTracker (tracker : Option RuntimeTracker) (trackerCall : TrackerCall)
    (fault : Fault ExternalError) : Observes (finishTracker tracker trackerCall fault) () := by
  cases tracker with
  | none => exact observes_pure ()
  | some tracker => exact observes_bind (observes_track tracker trackerCall fault) (observes_pure ())

theorem observes_reportFailedStage (tracker : Option RuntimeTracker)
    (failed : Option (PipelineStage × UtcMillis × Fault ExternalError)) :
    Observes (reportFailedStage tracker failed) () := by
  cases failed with
  | none => exact observes_pure ()
  | some failed => exact observes_finishTracker tracker _ _

/-- The tracker after its stages. -/
def RuntimeTracker.staged (tracker : RuntimeTracker) :
    List ((PipelineStage ⊕ Nat) × UtcMillis × Fault ExternalError) → RuntimeTracker
  | [] => tracker
  | (stage, now, _) :: stages => ((tracker.apply (stageCall stage now)).1).staged stages

theorem observes_trackStages (tracker : RuntimeTracker)
    (stages : List ((PipelineStage ⊕ Nat) × UtcMillis × Fault ExternalError)) :
    Observes (trackStages tracker stages) (tracker.staged stages) := by
  induction stages generalizing tracker with
  | nil => exact observes_pure tracker
  | cons stage stages ih => exact observes_bind (observes_track tracker _ _) (ih _)

theorem runId_apply (tracker : RuntimeTracker) (trackerCall : TrackerCall) :
    (tracker.apply trackerCall).1.runId = tracker.runId := by
  have hmoved : (tracker.moved trackerCall).runId = tracker.runId := by cases trackerCall <;> rfl
  unfold RuntimeTracker.apply
  split
  · rfl
  · split
    · rfl
    · split
      · exact hmoved
      · exact hmoved

theorem runId_staged (tracker : RuntimeTracker)
    (stages : List ((PipelineStage ⊕ Nat) × UtcMillis × Fault ExternalError)) :
    (tracker.staged stages).runId = tracker.runId := by
  induction stages generalizing tracker with
  | nil => rfl
  | cons stage stages ih => exact (ih _).trans (runId_apply ..)

/-- The others can save the snapshots. -/
theorem AtRest.observed (h : AtRest i w s) (hobserved : Observed s s') :
    ∃ w', Relation.ReflTransGen observers.others w w' ∧ AtRest i w' s' := by
  induction hobserved with
  | refl => exact ⟨w, .refl, h⟩
  | tail _ hlast ih =>
    obtain ⟨status, rfl⟩ := hlast
    obtain ⟨w', hothers, hrest⟩ := ih
    exact ⟨_, hothers.tail ⟨status, rfl⟩, hrest.observe status⟩

/-- Snapshots that the process saves before the program's next call. -/
theorem follows_observes {p : Job ι γ} {x : Worker α} {a : α} {g : α → Worker β}
    {Q : γ → β → World ι → System → Prop} {R : Stop WorkerError → World ι → System → Prop}
    (h : AtRest i w s) (hx : Observes x a)
    (hg : ∀ w s', AtRest i w s' → Observed s s' → Follows observers p (g a) Q R w s')
    (hcrash : ∀ w s, AtRest i w s → ∃ w', Runs observers p w (.error .crashed) w' ∧ R .crashed w' s) :
    Follows observers p (x >>= g) Q R w s := by
  refine wp_bind.mpr (wp_mono (hx s) ?_ ?_)
  · rintro a' s' ⟨rfl, hobserved⟩
    obtain ⟨w', hothers, hrest⟩ := h.observed hobserved
    exact (hg w' s' hrest hobserved).others hothers
  · rintro stop s' ⟨rfl, hobserved⟩
    obtain ⟨w', hothers, hrest⟩ := h.observed hobserved
    obtain ⟨w'', hrun, hr⟩ := hcrash w' s' hrest
    exact ⟨w'', hrun.others hothers, hr⟩

theorem runs_crash (site : Site) (body : World ι → Option (Except WorkerError α × World ι))
    (w : World ι) : Runs observers (Program.request site body) w (.error .crashed) w :=
  .crashed (.before ⟨.crash false, rfl⟩ (.inr ⟨rfl, rfl⟩))

end Tracker

/-! ## One input -/

/-- What the standalone pipeline gives that crashes in no stage. -/
def StandaloneResult.result : StandaloneResult → Except ExternalError (Option R1GeneratedArchive)
  | .crashed => .ok none
  | .raised e _ => .error e
  | .returned r1Archive => .ok r1Archive

/-- The environment of a delivery, as the fleet has it. -/
def Environment.fleet (env : Environment) : FleetEnvironment where
  publicationStore := env.publicationStore
  date := env.date
  standalone object runId :=
    { tracker := ((env.standalone object runId).trackerOf runId).map fun t =>
        t.staged (env.standalone object runId).stages
      result := (env.standalone object runId).result.result }
  clock object := env.clock object .updateStatus

/-- In one delivery of an object the clock reads the same at every call. -/
def Environment.OneClock (env : Environment) : Prop :=
  ∀ object site, env.clock object site = env.clock object .updateStatus

section Input

variable {i : ι} {w : World ι} {s s' : System} {sha256 : Sha256} {env : Environment}

theorem Observed.runIds (h : Observed s s') : s'.session.runIds = s.session.runIds := by
  induction h with
  | refl => rfl
  | tail _ hlast ih =>
    obtain ⟨status, rfl⟩ := hlast
    exact ih

/-- `_download_sysmon_jsonl`. -/
theorem follows_downloadSysmonJsonl (object : S3Object) (h : AtRest i w s) :
    Follows observers (downloadObject object) (downloadSysmonJsonl env object) (fun _ _ => AtRest i)
      (fun _ => AtRest i) w s := by
  refine follows_bind (follows_attempt_eq (follows_unchanged h) fun _ _ h => h) ?_
  rintro r r' w s ⟨rfl, h, -⟩
  cases r with
  | ok u => exact follows_pure h
  | error e =>
    cases e with
    | external x =>
      cases x with
      | clientError code =>
        show Follows observers (objectDownloaded object (.error (.external (.clientError code))))
          (if code ∈ permanentS3ErrorCodes then raise _ else raise _) _ _ w s
        by_cases hcode : code ∈ permanentS3ErrorCodes
        · simp only [objectDownloaded, if_pos hcode]
          exact follows_raise h
        · simp only [objectDownloaded, if_neg hcode]
          exact follows_raise h
      | _ => exact follows_raise h
    | _ => exact follows_raise h

/-- A snapshot that is saved: an exception of the observer is only logged. -/
theorem follows_observe {P : World ι → System → Prop} (status : PipelineRuntimeStatus)
    (csite : CallSite) {faults : Faults}
    (hP : P w s → P { w with committed := w.committed.saveRuntime status } (s.observe status))
    (h : P w s) :
    Follows observers (observeRuntime (some status)) (observe (faults csite) status) (fun _ _ => P)
      (fun _ => P) w s := by
  have hsave : Follows observers (Program.request Site.observe fun w : World ι =>
        some (.ok (), { w with committed := w.committed.saveRuntime status }))
      (external faults csite (modify fun s => s.observe status)) (fun _ _ => P) (fun _ => P) w s :=
    follows_external h (fun _ _ _ _ h => h) ⟨(), _, rfl, hP h⟩
  exact follows_bind (follows_attempt_eq hsave.unit fun _ _ h => h) fun _ _ _ _ h =>
    follows_pure h.2.1

/-- The last call of the tracker. -/
theorem follows_finishTracker {P : World ι → System → Prop} (tracker : Option RuntimeTracker)
    (trackerCall : TrackerCall) (csite : CallSite) {faults : Faults}
    (hP : ∀ w s status, P w s →
      P { w with committed := w.committed.saveRuntime status } (s.observe status)) (h : P w s) :
    Follows observers (endTracker tracker trackerCall) (finishTracker tracker trackerCall (faults csite))
      (fun _ _ => P) (fun _ => P) w s := by
  cases tracker with
  | none => exact follows_pure h
  | some tracker =>
    have hpublish : Follows observers (observeRuntime (tracker.apply trackerCall).2)
        (publishSnapshot (faults csite) (tracker.apply trackerCall).2) (fun _ _ => P) (fun _ => P)
        w s := by
      cases (tracker.apply trackerCall).2 with
      | none => exact follows_pure h
      | some status => exact follows_observe status csite (hP w s status) h
    exact follows_map (follows_map hpublish fun _ _ _ _ h => h) fun _ _ _ _ h => h

theorem tracker_fleet (object : S3Object) (runId : String) :
    ((env.fleet.standalone object runId).tracker.map fun t => { t with runId := runId }) =
      (env.fleet.standalone object runId).tracker := by
  simp only [Environment.fleet, StandaloneOutcome.trackerOf, Option.map_map]
  refine congrArg (fun f => Option.map f _) (funext fun t => ?_)
  have hrun := runId_staged { t with runId := runId } (env.standalone object runId).stages
  exact congrArg (fun id => { RuntimeTracker.staged { t with runId := runId }
    (env.standalone object runId).stages with runId := id }) hrun.symm

variable [DecidableEq ι]

/-- `run_standalone_sysmon_jsonl`. -/
theorem follows_runStandalone (object : S3Object) (h : AtRest i w s) :
    Follows observers (runStandaloneJob i env.fleet object) (runStandalone env object)
      (fun a b w s => a = b ∧ Sees i w s) (fun _ => Shares i) w s := by
  refine follows_get ?_
  have hdate : env.fleet.date = env.date := rfl
  cases halloc : allocateRunId s.session.runIds env.date 1 999 with
  | none =>
    refine follows_of_answers ⟨w, .raised ?_, h.1.toShares⟩
    simp only [h.1.session, hdate, halloc]
  | some runId =>
    -- The body of the call in a world that sees the same run ids.
    have halloc' : ∀ {w : World ι} {s' : System}, AtRest i w s' → Observed s s' →
        allocateRunId (w.view i).runIds env.fleet.date 1 999 = some runId := by
      intro w s' hrest hobserved
      rw [hrest.1.session, hobserved.runIds, hdate, halloc]
    have hcrash : ∀ (w : World ι) (s : System), AtRest i w s → ∃ w', Runs observers
        (runStandaloneJob i env.fleet object) w (.error .crashed) w' ∧ Shares i w' s :=
      fun w s hrest => ⟨w, runs_crash _ _ w, hrest.1.toShares⟩
    have htracker : Observes (trackOutcome runId (env.standalone object runId))
        (env.fleet.standalone object runId).tracker := by
      rw [trackOutcome]
      cases htracker : (env.standalone object runId).trackerOf runId with
      | none =>
        simp only [Environment.fleet, htracker]
        exact observes_pure none
      | some tracker =>
        simp only [Environment.fleet, htracker]
        exact observes_bind (observes_trackStages tracker _) (observes_pure _)
    refine follows_observes h htracker (fun w s' hrest hobserved => ?_) hcrash
    cases hresult : (env.standalone object runId).result with
    | crashed =>
      exact ⟨w, runs_crash _ _ w, hrest.1.toShares⟩
    | raised e failed =>
      refine follows_observes hrest (observes_reportFailedStage _ failed) ?_ hcrash
      intro w s'' hrest' hobserved'
      refine follows_of_answers ⟨w, .raised ?_, hrest'.1.toShares⟩
      have hresult' : (env.fleet.standalone object runId).result = .error e := by
        simp only [Environment.fleet, hresult, StandaloneResult.result]
      simp only [halloc' hrest' (hobserved.trans hobserved'), hresult']
    | returned r1Archive =>
      have hresult' : (env.fleet.standalone object runId).result = .ok r1Archive := by
        simp only [Environment.fleet, hresult, StandaloneResult.result]
      refine follows_of_answers ⟨_, w.push i (.insertRun runId), .returned ?_, rfl,
        hrest.1.push (.insertRun runId)⟩
      simp only [halloc' hrest hobserved, hresult', tracker_fleet]

/-- The exceptions of `run_standalone`. -/
theorem follows_callStandalone (object : S3Object) (h : AtRest i w s) :
    Follows observers ((runStandaloneJob i env.fleet object).attempt >>= standaloneEnded)
      (callStandalone env object) (fun a b w s => a = b ∧ Sees i w s) (fun _ => Shares i) w s := by
  refine follows_bind (follows_attempt_eq (follows_runStandalone object h)
    fun _ _ h => h.toShares) ?_
  rintro r r' w s ⟨rfl, hshares, hsees⟩
  cases r with
  | ok execution => exact follows_pure ⟨rfl, hsees rfl⟩
  | error e =>
    show Follows observers (standaloneEnded (.error e)) (if e.isValueError then raise _
      else if e.isOperational then raise _ else raise e) _ _ w s
    by_cases hvalue : e.isValueError = true
    · simp only [standaloneEnded, if_pos hvalue]
      exact follows_raise hshares
    · by_cases hoperational : e.isOperational = true
      · simp only [standaloneEnded, if_neg hvalue, if_pos hoperational]
        exact follows_raise hshares
      · simp only [standaloneEnded, if_neg hvalue, if_neg hoperational]
        exact follows_raise hshares

theorem savePending_cases {d d' : Stores} {p q : ArchivePublication} (h : d.savePending p = .ok (d', q)) :
    d.publications.get p.runId = none ∧ d' = TableWrite.apply d (.savePending p) ∨
      d.publications.get p.runId ≠ none ∧ d' = d := by
  unfold Stores.savePending at h
  cases hinsert : d.publications.insert? { payload := p.payload } with
  | some publications =>
    rw [hinsert] at h
    obtain ⟨rfl, -⟩ := Prod.mk.inj (Except.ok.inj h)
    refine .inl ⟨Table.get_eq_none.mpr fun r hr hsame => ?_, by simp only [TableWrite.apply, hinsert]⟩
    exact (Table.insert?_eq_some.mp hinsert).1 r hr hsame
  | none =>
    obtain ⟨row, hrow, hrun⟩ := Table.insert?_eq_none.mp hinsert
    refine .inr ⟨fun hget => Table.get_eq_none.mp hget row hrow hrun, ?_⟩
    rw [hinsert] at h
    cases hget : d.getPublication p.runId with
    | error e =>
      simp only [hget] at h
      cases h
    | ok found =>
      cases found with
      | none =>
        simp only [hget] at h
        cases h
      | some existing =>
        simp only [hget] at h
        split at h
        · cases h
        · exact (Prod.mk.inj (Except.ok.inj h)).1.symm

theorem follows_savePending {faults : Faults} (publication : ArchivePublication) (h : Sees i w s) :
    Follows observers (savePending i publication)
      (external faults .savePending (statement fun d => d.savePending publication))
      (fun a b w s => a = b ∧ Sees i w s) (fun _ => Sees i) w s := by
  refine follows_statement (Q := fun _ => Sees i) h (fun _ _ _ h => h) ?_ ?_
  · intro d saved hsaved
    rcases savePending_cases hsaved with ⟨hget, rfl⟩ | ⟨hget, rfl⟩
    · refine ⟨(w.lockRow i publication.runId).push i (.savePending publication), ?_,
        (h.lockRow publication.runId).push (.savePending publication)⟩
      simp only [h.session, hsaved, hget, ne_eq, not_true_eq_false, if_false,
        if_pos (h.rowFree publication.runId)]
    · exact ⟨w, by simp only [h.session, hsaved, if_pos hget], h⟩
  · intro e he
    exact ⟨w, by simp only [h.session, he], h⟩

theorem follows_insertPublication (object : S3Object) (runId : String)
    (r1Archive : R1GeneratedArchive) (h : Sees i w s) :
    Follows observers (insertArchive sha256 i runId r1Archive)
      (insertPublication sha256 env object runId r1Archive) (fun a b w s => a = b ∧ Sees i w s)
      (fun _ => Sees i) w s := by
  refine follows_bind (follows_unchanged h) ?_
  rintro u publication w s ⟨rfl, h⟩
  exact follows_savePending (r1Archive.toPublication sha256 runId) h

/-- The pending publication of an execution. -/
theorem follows_savePendingPublication (object : S3Object) (execution : StandaloneExecution)
    (h : Sees i w s) :
    Follows observers (savePendingArchive sha256 i env.fleet execution)
      (savePendingPublication sha256 env object execution) (fun a b w s => a = b ∧ Sees i w s)
      (fun _ => Sees i) w s := by
  have hstore : env.fleet.publicationStore = env.publicationStore := rfl
  unfold savePendingArchive savePendingPublication
  cases execution.r1Archive with
  | none => exact follows_pure ⟨rfl, h⟩
  | some r1Archive =>
    simp only [hstore]
    split
    · exact follows_raise h
    · refine follows_bind (follows_attempt_eq (follows_insertPublication object _ r1Archive h)
        fun _ _ h => h) ?_
      rintro r r' w s ⟨rfl, h, -⟩
      cases r with
      | ok publication => exact follows_pure ⟨rfl, h⟩
      | error e =>
        show Follows observers (archiveInserted (.error e)) (if e.isValueError then raise _
          else raise e) _ _ w s
        by_cases hvalue : e.isValueError = true
        · simp only [archiveInserted, if_pos hvalue]
          exact follows_raise h
        · simp only [archiveInserted, if_neg hvalue]
          exact follows_raise h

variable (sha256 env) in
/-- What an execution needs before its results are durable. -/
theorem follows_commitSuccess (object : S3Object) (execution : StandaloneExecution) (h : Sees i w s) :
    Follows observers (commitExecution sha256 i env.fleet object execution)
      (commitSuccess sha256 env object execution) (fun a b w s => a = b ∧ AtRest i w s)
      (fun _ => Sees i) w s := by
  unfold commitExecution commitSuccess
  split
  · exact follows_raise h
  · refine follows_bind (follows_savePendingPublication object execution h) ?_
    rintro publication - w s ⟨rfl, h⟩
    refine follows_bind (follows_execute h) fun _ _ w s h => ?_
    exact follows_bind (follows_commit h) fun _ _ w s h => follows_pure ⟨rfl, h⟩

variable (sha256 env) in
theorem follows_publishPending (object : S3Object) (publication : Option ArchivePublication)
    (h : AtRest i w s) :
    Follows observers (publishPendingArchive sha256 i (env.fleet.clock object) publication)
      (publishPending sha256 env object publication) (fun _ _ => AtRest i) (fun _ => Sees i) w s := by
  cases publication with
  | none => exact follows_pure h
  | some publication => exact follows_publishDurableR1Archive _ publication h.1

/-- An input without a receipt. -/
theorem follows_executeInput (hclock : env.OneClock) (object : S3Object) (h : AtRest i w s) :
    Follows observers (executeObject sha256 i env.fleet object) (executeInput sha256 env object)
      (fun _ _ => AtRest i) (fun _ => Shares i) w s := by
  have hfail : ∀ {w s} (execution : StandaloneExecution) (e : WorkerError), Shares i w s →
      Follows observers (endTracker execution.runtimeTracker
          (.fail .persistence (env.fleet.clock object)) >>= fun _ => .raise (α := Unit) e)
        (failRuntime env object execution >>= fun _ => raise (α := Unit) e)
        (fun _ _ => AtRest i) (fun _ => Shares i) w s := by
    intro w s execution e h
    rw [failRuntime, hclock object .failRuntime]
    refine follows_bind (follows_finishTracker (P := Shares i) _ _ .failRuntime ?_ h)
      fun _ _ w s h => follows_raise h
    exact fun _ _ status h => h.observe status
  refine follows_bind ((follows_unchanged h).mono (fun _ _ _ _ h => h.2) fun _ _ _ h => h.1.toShares)
    fun _ _ w s h => ?_
  refine follows_bind ((follows_downloadSysmonJsonl object h).mono (fun _ _ _ _ h => h)
    fun _ _ _ h => h.1.toShares) fun _ _ w s h => ?_
  refine follows_bind (follows_callStandalone object h) ?_
  rintro execution - w s ⟨rfl, h⟩
  have hcommit := (follows_commitSuccess sha256 env object execution h).mono
    (fun _ _ _ _ h => h) fun _ _ _ h => h.toShares
  refine follows_bind (follows_attempt_eq hcommit fun _ _ h => h.1.toShares) ?_
  rintro r r' w s ⟨rfl, hshares, hrest⟩
  cases r with
  | error e => exact hfail execution e hshares
  | ok publication =>
    have hpublish := (follows_publishPending sha256 env object publication
      (hrest rfl)).mono (fun _ _ _ _ h => h) fun _ _ _ h => h.toShares
    refine follows_bind (follows_attempt_eq hpublish.unit fun _ _ h => h.1.toShares) ?_
    rintro r r' w s ⟨rfl, hshares, hrest⟩
    cases r with
    | ok u =>
      show Follows observers (endTracker execution.runtimeTracker
        (.complete (env.fleet.clock object))) (completeRuntime env object execution) _ _ w s
      rw [completeRuntime, hclock object .completeRuntime]
      refine (follows_finishTracker (P := AtRest i) _ _ .completeRuntime ?_ (hrest rfl)).mono
        (fun _ _ _ _ h => h) fun _ _ _ h => h.1.toShares
      exact fun _ _ status h => h.observe status
    | error e =>
      cases e with
      | retryable text => exact follows_raise hshares
      | _ => exact hfail execution _ hshares

/-- An input whose receipt names a run. -/
theorem follows_skipInput (object : S3Object) (priorRunId : String) (h : Sees i w s) :
    Follows observers (skipObject sha256 i env.fleet object priorRunId)
      (skipInput sha256 env object priorRunId) (fun _ _ => AtRest i) (fun _ => Sees i) w s := by
  have hstore : env.fleet.publicationStore = env.publicationStore := rfl
  unfold skipObject skipInput
  simp only [hstore]
  split
  · refine follows_bind (follows_query h id fun d => ?_) ?_
    · cases d.getPublication priorRunId <;> rfl
    · rintro publication - w s ⟨rfl, h⟩
      cases publication with
      | none => exact follows_commit h
      | some publication => exact follows_publishDurableR1Archive _ publication h
  · exact follows_commit h

/-- The body of the loop of `_process_message`. -/
theorem follows_processInput (receiptLockKey : S3Object → Int) (hclock : env.OneClock)
    (object : S3Object) (h : AtRest i w s) :
    Follows observers (processObject sha256 receiptLockKey i env.fleet object)
      (processInput sha256 env object) (fun _ _ => AtRest i) (fun _ => Shares i) w s := by
  have hlock : AtRest i (w.lockObject i (receiptLockKey object)) s :=
    ⟨h.1.lockObject _, h.2⟩
  have hread : ∀ r, s.session.getSuccessfulRunId object = r →
      (if w.objectFree i (receiptLockKey object) then
          some ((w.view i).getSuccessfulRunId object, w.lockObject i (receiptLockKey object))
        else none) = some (r, w.lockObject i (receiptLockKey object)) := by
    intro r hr
    rw [if_pos (h.1.objectFree _), h.1.session, hr]
  have hacquire : Follows observers (acquireExecution receiptLockKey i object)
      (external (env.faults object) .acquireExecution (statement fun d => do
        let priorRunId ← d.getSuccessfulRunId object
        return (d, priorRunId))) (fun a b w s => a = b ∧ AtRest i w s) (fun _ => AtRest i) w s := by
    refine follows_statement (Q := fun _ => AtRest i) h (fun _ _ _ h => h) ?_ ?_
    · intro d prior hprior
      obtain ⟨prior', hget, hpair⟩ := Except.bind_eq_ok.mp hprior
      obtain ⟨rfl, rfl⟩ := Prod.mk.inj (Except.ok.inj hpair)
      exact ⟨_, hread _ hget, hlock⟩
    · intro e he
      refine ⟨_, hread (.error e) ?_, hlock⟩
      cases hget : s.session.getSuccessfulRunId object with
      | ok prior => rw [hget] at he; cases he
      | error e' => rw [hget] at he; cases he; rfl
  refine follows_bind (hacquire.mono (fun _ _ _ _ h => h) fun _ _ _ h => h.1.toShares) ?_
  rintro prior - w s ⟨rfl, h⟩
  cases prior with
  | some priorRunId =>
    exact (follows_skipInput object priorRunId h.1).mono (fun _ _ _ _ h => h) fun _ _ _ h => h.toShares
  | none => exact follows_executeInput hclock object h

end Input

end IncidentAwareness.Archive
