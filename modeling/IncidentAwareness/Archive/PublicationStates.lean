import IncidentAwareness.Archive.WorkerInvariant

/-!
# The states of a publication over redeliveries

A publication that has failed stays failed: a redelivery reads the row and raises. One
that is published is published again at every redelivery, and what that raises is
recorded over the state.

* `Standing`: the publications of `S` have the states of `S`; what a statement asks of
  `S` so that they keep them (`Standing.updateStatus`, `Standing.savePending`);
* `publishDurableR1Archive_standing`, `processInput_standing`: one input, by its branch;
* `Downgrades`: when a redelivery records an error over a published row. There the row
  does not stay published (`processInput_downgrades`), and every run without one keeps
  both states (`statesAbsorbing_of_clean`).
-/

namespace IncidentAwareness.Archive

open IncidentAwareness.Common IncidentAwareness.Lib IncidentAwareness.Persistence

variable {sha256 : Sha256} {faults : Faults} {S : String → PublicationStatus → Prop}

/-! ## Publications in their states -/

/-- The publication of a run is in a state. -/
def Stores.InState (d : Stores) (runId : String) (status : PublicationStatus) : Prop :=
  ∃ p ∈ d.publications, p.runId = runId ∧ p.status = status

/-- Every publication belongs to a run with rows, and those of `S` are in their states. -/
structure Stores.Standing (S : String → PublicationStatus → Prop) (d : Stores) : Prop where
  listed : ∀ p ∈ d.publications, p.runId ∈ d.runIds
  inState : ∀ runId status, S runId status → d.InState runId status

theorem Stores.inState_iff {d : Stores} {runId : String} {status : PublicationStatus} :
    d.InState runId status ↔ (runId, status) ∈ d.publications.rows.map fun p => (p.runId, p.status) := by
  rw [List.mem_map]
  simp only [Prod.mk.injEq]
  exact Iff.rfl

instance (d : Stores) (runId : String) (status : PublicationStatus) :
    Decidable (d.InState runId status) :=
  decidable_of_iff _ Stores.inState_iff.symm

namespace Stores

variable {d d' : Stores} {p q : ArchivePublication} {runId : String} {status : PublicationStatus}

theorem InState.status_eq (h : d.InState runId status) (hp : p ∈ d.publications)
    (hrun : p.runId = runId) : p.status = status := by
  obtain ⟨q, hq, hqrun, rfl⟩ := h
  rw [Table.eq_of_conflict hp hq (hrun.trans hqrun.symm)]

theorem Standing.updateStatus (h : d.Standing S) {errorType errorMessage : Option String}
    (hS : ∀ st, S runId st → st = status)
    (hd : d.updateStatus runId status errorType errorMessage = .ok d') : d'.Standing S := by
  obtain ⟨row, hrow, hrun, rfl⟩ := updateStatus_eq_ok.mp hd
  constructor
  · intro p hp
    rcases Table.mem_upsert.mp hp with rfl | ⟨hp, -⟩
    · exact h.listed row hrow
    · exact h.listed p hp
  · intro r st hst
    obtain ⟨p, hp, hprun, hpst⟩ := h.inState r st hst
    by_cases hsame : p.runId = runId
    · obtain rfl : r = runId := hprun.symm.trans hsame
      exact ⟨_, Table.mem_upsert.mpr (.inl rfl), hrun, (hS st hst).symm⟩
    · refine ⟨p, Table.mem_upsert.mpr (.inr ⟨hp, ?_⟩), hprun, hpst⟩
      exact fun heq => hsame (heq.trans hrun)

theorem Standing.savePending (h : d.Standing S) (hrun : p.runId ∈ d.runIds)
    (hd : d.savePending p = .ok (d', q)) : d'.Standing S := by
  obtain ⟨⟨hruns, -⟩, hkept, hnew⟩ := mem_of_savePending hd
  constructor
  · intro r hr
    rw [hruns]
    cases hnew r hr with
    | inl hr => exact h.listed r hr
    | inr hr =>
      rw [hr]
      exact hrun
  · intro r st hst
    obtain ⟨row, hrow, hrest⟩ := h.inState r st hst
    exact ⟨row, hkept row hrow, hrest⟩

theorem Standing.saveSuccess (h : d.Standing S) (receipt : S3ObjectReceipt) :
    (d.saveSuccess receipt).Standing S := by
  unfold Stores.saveSuccess
  split
  · exact h
  · exact ⟨h.listed, h.inState⟩

theorem Standing.saveRuntime (h : d.Standing S) (status : PipelineRuntimeStatus) :
    (d.saveRuntime status).Standing S := ⟨h.listed, h.inState⟩

theorem Standing.insertRun (h : d.Standing S) (runId : String) :
    Standing S { d with runIds := d.runIds ++ [runId] } :=
  ⟨fun p hp => List.mem_append_left _ (h.listed p hp), h.inState⟩

/-- The runs of `S` have rows. -/
theorem Standing.mem_runIds (h : d.Standing S) (hS : S runId status) : runId ∈ d.runIds := by
  obtain ⟨p, hp, hrun, -⟩ := h.inState runId status hS
  exact hrun ▸ h.listed p hp

end Stores

/-! ## Recording an error -/

/-- The error of a publication that is recorded becomes durable. -/
def ErrorRecorded (faults : Faults) : Prop :=
  faults .recordError = .none ∧ (faults .commitError).applied = true

instance (faults : Faults) : Decidable (ErrorRecorded faults) := inferInstanceAs (Decidable (_ ∧ _))

/-- Without a durable record the committed tables are as they were. -/
theorem markError_unrecorded {runId : String} {status : PublicationStatus} {e : WorkerError}
    {s : System} (h : ¬ ErrorRecorded faults) :
    wp (markError faults runId status e) (fun _ s' => s'.committed = s.committed)
      (fun _ s' => s'.committed = s.committed) s := by
  have hstatement : Keeps (fun s' : System => s'.committed = s.committed) (statement fun d => do
      let d ← d.updateStatus runId status (some e.typeName) (some e.text)
      return (d, ())) := fun s' hs' => wp_statement.mpr ⟨fun _ _ _ => hs', fun _ _ => hs'⟩
  rw [markError, wp_bind]
  refine wp_call_of_none (fun hnone => ?_) (fun _ _ => rfl) fun _ _ => hstatement s rfl
  refine wp_mono (hstatement s rfl) (fun _ s' hs' => ?_) fun _ _ hs' => hs'
  have hnone : faults .recordError = .none := Fault.map_eq_none.mp hnone
  have hcommit : (faults .commitError).applied = false := by
    rw [← Bool.not_eq_true]
    exact fun happlied => h ⟨hnone, happlied⟩
  have happlied : ∀ stop, ¬ ((faults .commitError).map WorkerError.external).Interrupts true stop := by
    intro stop hstop
    rw [← Fault.applied_map (g := WorkerError.external)] at hcommit
    rcases hstop with ⟨x, hx, -⟩ | ⟨hx, -⟩
    · rw [hx] at hcommit
      cases hcommit
    · rw [hx] at hcommit
      cases hcommit
  refine wp_call_of_none (fun hfault => ?_) (fun _ _ => hs') fun stop hstop => ?_
  · rw [← Fault.applied_map (g := WorkerError.external), hfault] at hcommit
    cases hcommit
  · exact absurd hstop (happlied stop)

/-- An error is raised after it was recorded, or not: the publications of `S` keep their
states where the record is not durable, or about another run. -/
theorem recordFailure_standing {runId : String} {status : PublicationStatus} {e e' : WorkerError}
    {s : System} (hs : Both (Stores.Standing S) s)
    (h : ∀ st, S runId st → ¬ ErrorRecorded faults) :
    wp (do recordPublicationFailure faults runId status e; raise e' : Worker Unit)
      (fun _ => Both (Stores.Standing S)) (fun _ s' => s'.committed.Standing S) s := by
  have hmark : wp (markError faults runId status e) (fun _ s' => s'.committed.Standing S)
      (fun _ s' => s'.committed.Standing S) s := by
    by_cases hrecorded : ErrorRecorded faults
    · have hkeep : Keeps (Both (Stores.Standing S)) (markError faults runId status e) :=
        keeps_markError fun d d' hd hwrite =>
          hd.updateStatus (fun st hst => absurd hrecorded (h st hst)) hwrite
      exact wp_mono (hkeep s hs) (fun _ _ hs' => hs'.1) fun _ _ hs' => hs'.1
    · refine wp_mono (markError_unrecorded hrecorded) (fun _ s' hs' => ?_) fun _ s' hs' => ?_
      · exact hs' ▸ hs.1
      · exact hs' ▸ hs.1
  rw [wp_bind, recordPublicationFailure, wp_bind, wp_attempt]
  exact wp_mono hmark (fun _ _ hs' => hs') fun _ _ hs' => ⟨fun _ _ => hs', fun _ => hs'⟩

/-- `_publish_durable_r1_archive` of a row as it stands. -/
theorem publishDurableR1Archive_standing {t : UtcMillis} {p : ArchivePublication} {s : System}
    (hs : Both (Stores.Standing S) s)
    (hstatus : ∀ st, S p.runId st → p.status = st ∧ (st = .failed ∨ st = .published))
    (hclean : S p.runId .published → ¬ (RefusesArchive sha256 faults p s ∧ ErrorRecorded faults)) :
    wp (publishDurableR1Archive sha256 faults t p) (fun _ => Both (Stores.Standing S))
      (fun _ s' => s'.committed.Standing S) s := by
  unfold publishDurableR1Archive
  by_cases hfailed : p.status = .failed
  · rw [if_pos hfailed]
    exact hs.1
  · have hpublished : ∀ st, S p.runId st → st = .published := fun st hst => by
      obtain ⟨heq, hcase⟩ := hstatus st hst
      exact hcase.resolve_left fun h => hfailed (heq.trans h)
    have hkeep : Keeps (Both (Stores.Standing S)) (publishR1Archive sha256 faults p) :=
      keeps_publishR1Archive (fun _ _ h => h) p
    have hpublish := hkeep s hs
    rw [if_neg hfailed]
    show wp (attempt (publishR1Archive sha256 faults p) >>= _) _ _ s
    rw [wp_bind, wp_attempt]
    cases hrun : (publishR1Archive sha256 faults p).run s with
    | ok u s₁ =>
      rw [wp_of_ok hrun] at hpublish ⊢
      have hmark : Keeps (Both (Stores.Standing S)) (markPublished faults t p.runId) :=
        keeps_markPublished (fun d d' hd hwrite => hd.updateStatus hpublished hwrite)
          fun d status hd _ => hd.saveRuntime status
      show wp (attempt (markPublished faults t p.runId) >>= _) _ _ s₁
      rw [wp_bind, wp_attempt]
      refine wp_mono (hmark s₁ hpublish) (fun _ _ h => h) fun stop s₂ h => ?_
      refine ⟨fun e _ => ?_, fun _ => h.1⟩
      dsimp only
      split
      · exact h.1
      · exact h.1
    | error stop s₁ =>
      have houtcome := publishR1Archive_outcome sha256 faults p s
      rw [wp_of_error hrun] at hpublish houtcome ⊢
      refine ⟨fun e he => ?_, fun _ => hpublish.1⟩
      have hunrecorded : isPublicationError stop → ∀ st, S p.runId st → ¬ ErrorRecorded faults := by
        intro hrefused st hst hrecorded
        rw [hpublished st hst] at hst
        exact hclean hst ⟨houtcome.mp hrefused, hrecorded⟩
      subst he
      split
      · next text heq =>
        rw [Except.error.inj heq] at hunrecorded
        exact recordFailure_standing hpublish (hunrecorded rfl)
      · next text heq =>
        rw [Except.error.inj heq] at hunrecorded
        exact recordFailure_standing hpublish (hunrecorded rfl)
      · exact hpublish.1
      · contradiction

/-! ## One input -/

section Input

variable {env : Environment} {object : S3Object} {s : System}

/-- A run without rows is none of `S`. -/
theorem standing_rowInvariant :
    RowInvariant sha256 (Stores.Standing S) fun runId => ∀ st, ¬ S runId st where
  fresh _ _ hd hrun := fun _ hst => hrun (hd.mem_runIds hst)
  saveRuntime _ status hd _ := hd.saveRuntime status
  insertRun _ runId hd := hd.insertRun runId
  savePending _ _ _ _ hd _ _ hrun hwrite := hd.savePending hrun hwrite
  saveSuccess _ receipt hd _ _ := hd.saveSuccess receipt

/-- A redelivery that records an error over a published row: the object's run is
published, `publish_r1_archive` raises, and what it raised becomes durable. -/
structure Downgrades (sha256 : Sha256) (env : Environment) (object : S3Object) (s : System)
    (p : ArchivePublication) : Prop where
  store : env.publicationStore = true
  acquired : env.faults object .acquireExecution = .none
  receipt : ⟨object, p.runId⟩ ∈ s.session.receipts
  read : env.faults object .getPublication = .none
  row : p ∈ s.session.publications
  published : p.status = .published
  refused : RefusesArchive sha256 (env.faults object) p s
  recorded : ErrorRecorded (env.faults object)

/-- One input keeps the publications of `S` in their states, where it does not downgrade
one. -/
theorem processInput_standing (hs : Both (Stores.Standing S) s)
    (hS : ∀ r st, S r st → st = .failed ∨ st = .published)
    (hclean : ∀ p, S p.runId .published → ¬ Downgrades sha256 env object s p) :
    wp (processInput sha256 env object) (fun _ => Both (Stores.Standing S))
      (fun _ s' => s'.committed.Standing S) s := by
  have hI := (@standing_rowInvariant sha256 S).both
  refine processInput_kept hI hs (executeInput_kept hI ?_ hs) ?_
  · intro s' p hs' _ hnot
    exact publishDurableR1Archive_standing hs' (fun st hst => absurd hst (hnot st)) fun hst =>
      absurd hst (hnot _)
  · intro runId hacquired hreceipt
    refine skipInput_kept hI hs fun p hp hrun hstore hread => ?_
    refine publishDurableR1Archive_standing hs (fun st hst => ?_) fun hst hdowngrades => ?_
    · exact ⟨(hs.2.inState p.runId st hst).status_eq hp rfl, hS _ st hst⟩
    · have hpublished := (hs.2.inState p.runId .published hst).status_eq hp rfl
      exact hclean p hst ⟨hstore, hacquired, hrun ▸ hreceipt, hread, hp, hpublished, hdowngrades.1,
        hdowngrades.2⟩

/-- What is recorded replaces the state of the row. -/
theorem markError_recorded {p : ArchivePublication} {status : PublicationStatus} {e : WorkerError}
    (h : ErrorRecorded faults) (hp : p ∈ s.session.publications) (hstatus : status ≠ .published) :
    wp (markError faults p.runId status e)
      (fun _ s' => ¬ s'.committed.InState p.runId .published)
      (fun _ s' => ¬ s'.committed.InState p.runId .published) s := by
  have hupdate : ∃ d, s.session.updateStatus p.runId status (some e.typeName) (some e.text) = .ok d ∧
      ¬ d.InState p.runId .published := by
    refine ⟨_, Stores.updateStatus_eq_ok.mpr ⟨p, hp, rfl, rfl⟩, fun hin => ?_⟩
    have heq := hin.status_eq (Table.mem_upsert.mpr (.inl rfl)) rfl
    exact hstatus heq
  obtain ⟨d, hd, hnot⟩ := hupdate
  rw [markError, wp_bind, external, h.1, Fault.map, call_none, wp_statement, hd]
  refine ⟨fun d' u hwrite => ?_, fun _ he => (by cases he)⟩
  obtain ⟨rfl, -⟩ := Prod.mk.inj (Except.ok.inj hwrite)
  refine wp_call hnot (fun stop hstop => ?_) fun _ _ => hnot
  have happlied : ((faults .commitError).map WorkerError.external).applied = true := by
    rw [Fault.applied_map, h.2]
  rcases hstop with ⟨x, hx, -⟩ | ⟨hx, -⟩
  · rw [hx] at happlied
    cases happlied
  · rw [hx] at happlied
    cases happlied

/-- `Downgrades` is exact: where it holds the row does not stay published. -/
theorem processInput_downgrades {p : ArchivePublication} (hsound : s.session.Sound sha256)
    (h : Downgrades sha256 env object s p) :
    wp (processInput sha256 env object) (fun _ _ => False)
      (fun _ s' => ¬ s'.committed.InState p.runId .published) s := by
  have hprior : s.session.getSuccessfulRunId object = .ok (some p.runId) := by
    have hget : s.session.receipts.get object = some ⟨object, p.runId⟩ :=
      Table.get_eq_some.mpr ⟨h.receipt, rfl⟩
    rw [hsound.getSuccessfulRunId_eq, hget]
    rfl
  have hfound : s.session.getPublication p.runId = .ok (some p) := by
    rw [hsound.getPublication_eq, Table.get_of_mem h.row]
  have hne : p.status ≠ .failed := by
    rw [h.published]
    decide
  have hraise (status : PublicationStatus) (e e' : WorkerError) (hstatus : status ≠ .published)
      (s' : System) (hs' : s'.session = s.session) :
      wp (do recordPublicationFailure (env.faults object) p.runId status e; raise e' : Worker Unit)
        (fun _ _ => False) (fun _ s' => ¬ s'.committed.InState p.runId .published) s' := by
    rw [wp_bind, recordPublicationFailure, wp_bind, wp_attempt]
    refine wp_mono (markError_recorded h.recorded (hs' ▸ h.row) hstatus) (fun _ _ h => h) ?_
    exact fun _ _ h => ⟨fun _ _ => h, fun _ => h⟩
  have hpublish : wp (publishDurableR1Archive sha256 (env.faults object) (env.clock object .updateStatus)
      p) (fun _ _ => False) (fun _ s' => ¬ s'.committed.InState p.runId .published) s := by
    have hkeep : Keeps (fun s' : System => s'.session = s.session)
        (publishR1Archive sha256 (env.faults object) p) := keeps_publishR1Archive (fun _ _ h => h) p
    have hsession := hkeep s rfl
    have houtcome := publishR1Archive_outcome sha256 (env.faults object) p s
    unfold publishDurableR1Archive
    rw [if_neg hne]
    show wp (attempt (publishR1Archive sha256 (env.faults object) p) >>= _) _ _ s
    rw [wp_bind, wp_attempt]
    cases hrun : (publishR1Archive sha256 (env.faults object) p).run s with
    | ok u s₁ =>
      rw [wp_of_ok hrun] at houtcome
      exact absurd h.refused houtcome
    | error stop s₁ =>
      rw [wp_of_error hrun] at houtcome hsession ⊢
      have hrefused : isPublicationError stop = true := houtcome.mpr h.refused
      refine ⟨fun e he => ?_, fun hcrash => ?_⟩
      · subst he
        split
        · exact hraise _ _ _ (by decide) s₁ hsession
        · exact hraise _ _ _ (by decide) s₁ hsession
        · next e' hconflict hupload heq' =>
          obtain rfl : e = e' := Except.error.inj heq'
          unfold isPublicationError at hrefused
          split at hrefused
          · next text heq => exact absurd (Stop.raised.inj heq) (hconflict text)
          · next text heq => exact absurd (Stop.raised.inj heq) (hupload text)
          · cases hrefused
        · contradiction
      · rw [hcrash] at hrefused
        cases hrefused
  rw [processInput, wp_bind, external, h.acquired, Fault.map, call_none, wp_statement, hprior]
  refine ⟨fun d prior hread => ?_, fun _ he => (by cases he)⟩
  obtain ⟨rfl, rfl⟩ := Prod.mk.inj (Except.ok.inj hread)
  show wp (skipInput sha256 env object p.runId) _ _ s
  rw [skipInput, if_pos h.store, wp_bind, external, h.read, Fault.map, call_none, wp_statement, hfound]
  refine ⟨fun d found hread => ?_, fun _ he => (by cases he)⟩
  obtain ⟨rfl, rfl⟩ := Prod.mk.inj (Except.ok.inj hread)
  exact hpublish

end Input

/-! ## Runs -/

/-- No input of the delivery is downgraded when its turn comes. -/
def CleanDelivery (sha256 : Sha256) (message : Message) (env : Environment) (s : System)
    (C : ArchivePublication → Prop) : Prop :=
  ∀ inputs, message.body = .records inputs →
    Along (fun object s => ∀ p, C p → ¬ Downgrades sha256 env object s p)
      (processInput sha256 env) inputs.eraseDups s.rollback

/-- The deliveries of a run that downgrade no publication. -/
def CleanStep (sha256 : Sha256) (s : System) : WorkerStep → Prop
  | .deliver message env => CleanDelivery sha256 message env s fun _ => True
  | _ => True

variable {env : Environment} {message : Message} {s : System}

/-- One delivery. -/
theorem deliver_standing (h : s.committed.Standing S)
    (hS : ∀ r st, S r st → st = .failed ∨ st = .published)
    (hclean : CleanDelivery sha256 message env s fun p => S p.runId .published) :
    (deliver sha256 env message s).committed.Standing S := by
  refine deliver_kept h fun inputs hbody => ?_
  refine wp_forM_prefix (I := fun _ => Both (Stores.Standing S)) ?_ ⟨h, h⟩ (hclean inputs hbody)
  exact fun before object later _ s' hs' hclean => processInput_standing hs' hS hclean

/-- The states of the publications while steps go on: at every later moment a failed row is still
failed, and a published one published. -/
def StatesAbsorbing (sha256 : Sha256) (s : System) (steps : List WorkerStep) : Prop :=
  ∀ before since rest, steps = before ++ since ++ rest → ∀ runId status,
    status = .failed ∨ status = .published →
      (after (System.step sha256) s before).committed.InState runId status →
        (after (System.step sha256) s (before ++ since)).committed.InState runId status

theorem standing_step (h : s.committed.Standing S)
    (hS : ∀ r st, S r st → st = .failed ∨ st = .published) (step : WorkerStep)
    (hclean : ∀ message env, step = .deliver message env →
      CleanDelivery sha256 message env s fun p => S p.runId .published) :
    (s.step sha256 step).1.committed.Standing S := by
  cases step with
  | send message => exact h
  | deliver message env => exact deliver_standing h hS (hclean message env rfl)
  | writeArchive key content => exact h

theorem standing_after (h : s.committed.Standing S)
    (hS : ∀ r st, S r st → st = .failed ∨ st = .published) {steps : List WorkerStep}
    (hclean : Meets (System.step sha256)
      (fun s step => ∀ message env, step = .deliver message env →
        CleanDelivery sha256 message env s fun p => S p.runId .published) s steps) :
    (after (System.step sha256) s steps).committed.Standing S :=
  run_of_meets (System.step sha256) (P := fun s => s.committed.Standing S)
    (fun _ step hs hc => standing_step hs hS step hc) h hclean

section Initial

variable (sha256) (runIds : List String) (runtimes : RuntimeTable)
  (archive : ObjectKey → Option Bytes) (queue : List Message)

/-- In every state of a run each publication belongs to a run with rows. -/
theorem standing_initial (steps : List WorkerStep) :
    (after (System.step sha256) (System.initial runIds runtimes archive queue)
      steps).committed.Standing (fun _ _ => False) := by
  refine standing_after ⟨fun p hp => absurd hp (Table.not_mem_empty p), fun _ _ h => h.elim⟩
    (fun _ _ h => h.elim) ?_
  intro before step since _ message env _ inputs _
  exact along_of_forall (fun _ _ _ h => h.elim) _ _

/-- A failed publication stays failed, whatever is delivered. -/
theorem failed_absorbing (before since : List WorkerStep) {runId : String}
    (h : (after (System.step sha256) (System.initial runIds runtimes archive queue)
      before).committed.InState runId .failed) :
    (after (System.step sha256) (System.initial runIds runtimes archive queue)
      (before ++ since)).committed.InState runId .failed := by
  rw [after_append]
  refine (standing_after (S := fun r st => r = runId ∧ st = .failed) ⟨?_, ?_⟩ ?_ ?_).inState
    runId .failed ⟨rfl, rfl⟩
  · exact (standing_initial sha256 runIds runtimes archive queue before).listed
  · rintro r st ⟨rfl, rfl⟩
    exact h
  · exact fun r st hst => .inl hst.2
  · intro _ _ _ _ message env _ inputs _
    exact along_of_forall (fun _ _ _ hst => by cases hst.2) _ _

/-- In a run whose redeliveries record no error over a published row, the states are
absorbing. -/
theorem statesAbsorbing_of_clean {steps : List WorkerStep}
    (h : Meets (System.step sha256) (CleanStep sha256)
      (System.initial runIds runtimes archive queue) steps) :
    StatesAbsorbing sha256 (System.initial runIds runtimes archive queue) steps := by
  intro before since rest heq runId status hstatus hbefore
  rw [heq] at h
  rw [after_append]
  refine (standing_after (S := fun r st => r = runId ∧ st = status) ⟨?_, ?_⟩ ?_ ?_).inState
    runId status ⟨rfl, rfl⟩
  · exact (standing_initial sha256 runIds runtimes archive queue before).listed
  · rintro r st ⟨rfl, rfl⟩
    exact hbefore
  · exact fun r st hst => hst.2 ▸ hstatus
  · intro pre step post hsince message env hstep inputs hbody
    have hclean := h (before ++ pre) step (post ++ rest) (by rw [hsince]; simp)
    rw [after_append, hstep] at hclean
    exact (hclean inputs hbody).imp fun _ _ hnot p _ => hnot p trivial

end Initial

/-! ## A redelivery whose upload fails -/

namespace Sample

theorem constantDigest_nonblank : ∀ _ : Bytes, isBlank "h" = false := fun _ => by decide

/-- One digest for all contents. -/
def constantDigest : Sha256 := ⟨fun _ => "h", constantDigest_nonblank⟩

theorem emptinessDigest_nonblank : ∀ content : Bytes,
    isBlank (if content = [] then "h" else "k") = false := by
  intro content
  split <;> decide

/-- A digest that tells empty contents from others. -/
def emptinessDigest : Sha256 := ⟨fun content => if content = [] then "h" else "k",
  emptinessDigest_nonblank⟩

/-- A notification of one log. -/
def notification : Message := ⟨"receipt-1", .records [⟨"sysmon-bucket", "a", "etag-1"⟩]⟩

theorem archiveBucket_nonblank : isBlank "archive-bucket" = false := by decide

/-- An archive without content. -/
def emptyArchive : R1GeneratedArchive where
  bucket := "archive-bucket"
  evidenceContent := []
  summaryContent := []
  bucket_nonblank := archiveBucket_nonblank

/-- An environment whose pipeline gives an archive. -/
def environment (faults : Faults) : Environment where
  date := "20260101"
  standalone _ _ := ⟨none, [], .returned (some emptyArchive)⟩
  clock _ _ := 0
  faults _ := faults

def noFaults : Faults := fun _ => .none

/-- The upload of the Evidence raises. -/
def evidenceNotPut : Faults := fun site =>
  if site = .putObject r1EvidenceFilename then .raises (.clientError "InternalError") false else .none

def noRuns : System := System.initial [] .empty (fun _ => none) [notification]

/-- An archive with a byte under every key. -/
def takenArchive (_ : ObjectKey) : Option Bytes := some [1]

/-- The message is processed, and delivered again. -/
def redelivery (faults : Faults) : List WorkerStep :=
  [.deliver notification (environment noFaults), .deliver notification (environment faults)]

end Sample

open Sample

/-- The first delivery finds other content under its keys, and so does the second. -/
theorem failed_absorbing_conflict :
    (after (System.step emptinessDigest) (System.initial [] .empty takenArchive [notification])
      ([.deliver notification (environment noFaults)] ++
        [.deliver notification (environment noFaults)])).committed.InState "RUN-20260101-001"
          .failed :=
  failed_absorbing emptinessDigest [] .empty takenArchive [notification]
    [.deliver notification (environment noFaults)] [.deliver notification (environment noFaults)]
    (by decide +kernel)

/-- A redelivery without faults finds the archive as it is. -/
theorem statesAbsorbing_of_clean_redelivery :
    Meets (System.step constantDigest) (CleanStep constantDigest) noRuns (redelivery noFaults) ∧
      StatesAbsorbing constantDigest noRuns (redelivery noFaults) := by
  have hclean : Meets (System.step constantDigest) (CleanStep constantDigest) noRuns
      (redelivery noFaults) := by
    refine meets_cons (fun inputs hbody => ?_) (meets_cons (fun inputs hbody => ?_) meets_nil)
    · obtain rfl := MessageBody.records.inj hbody
      exact ⟨fun p _ h => absurd h.row (Table.not_mem_empty p), fun _ _ => trivial⟩
    · obtain rfl := MessageBody.records.inj hbody
      refine ⟨fun p _ h => ?_, fun _ _ => trivial⟩
      have hrefuses : ∀ p ∈ (noRuns.step constantDigest
          (.deliver notification (environment noFaults))).1.committed.publications.rows,
          ¬ RefusesArchive constantDigest noFaults p (noRuns.step constantDigest
            (.deliver notification (environment noFaults))).1.rollback := by
        decide +kernel
      exact hrefuses p h.row h.refused
  exact ⟨hclean, statesAbsorbing_of_clean constantDigest [] .empty (fun _ => none) [notification] hclean⟩

/-- The upload of an archive that is published fails, and its row is retryable. -/
theorem statesAbsorbing_fails : ¬ StatesAbsorbing constantDigest noRuns (redelivery evidenceNotPut) := by
  intro h
  have hbefore : (after (System.step constantDigest) noRuns
      [.deliver notification (environment noFaults)]).committed.InState "RUN-20260101-001"
        .published := by
    decide +kernel
  have hafter : ¬ (after (System.step constantDigest) noRuns
      (redelivery evidenceNotPut)).committed.InState "RUN-20260101-001" .published := by
    decide +kernel
  exact hafter (h [.deliver notification (environment noFaults)]
    [.deliver notification (environment evidenceNotPut)] [] rfl _ _ (.inr rfl) hbefore)

end IncidentAwareness.Archive
