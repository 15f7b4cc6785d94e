import IncidentAwareness.Worker.RunContents

/-!
# Distinct inputs and their runs

Workers that process S3 objects in any interleaving, on tables that are empty at
first. `ReceiptLaw`: receipts of distinct objects name distinct runs, and the rows
under the run that a receipt names are those computed from its object.

`distinctRuns_fails`: the law fails. Two Workers can allocate one run id, since
neither sees what the other has reserved; where their Decisions are equal, the
second finds its own stored, writes nothing and records its receipt.
`distinctRuns_of_noEqualDecision`: this is the only way it fails.
-/

namespace IncidentAwareness.Worker

open IncidentAwareness.Common IncidentAwareness.Lib IncidentAwareness.Persistence Txn Spec

variable (hashtext : String → Int) (receiptLockKey : S3Object → Int) (stages : StandaloneStages)

/-- The rows under the run of a receipt are those computed from its object. -/
def Exact (db : Database) (receipt : S3ObjectReceipt) : Prop :=
  ∃ s archive snapshot, standaloneResults stages receipt.object receipt.runId = .ok (s, archive) ∧
    s.runtimeSnapshot = .ok snapshot ∧ Contains db receipt.runId s snapshot

/-- Receipts of distinct objects name distinct runs, with exactly the results
computed from their objects. -/
structure ReceiptLaw (db : Database) : Prop where
  distinct : ∀ a ∈ db.s3ObjectReceipts, ∀ b ∈ db.s3ObjectReceipts, a.object ≠ b.object →
    a.runId ≠ b.runId
  exact : ∀ receipt ∈ db.s3ObjectReceipts, Exact stages db receipt

/-- What the commits of Workers keep: beside the law, every row belongs to a run
whose Decision is stored. -/
structure WorkerInv (db : Database) : Prop where
  distinct : ∀ a ∈ db.s3ObjectReceipts, ∀ b ∈ db.s3ObjectReceipts, a.runId = b.runId → a = b
  exact : ∀ receipt ∈ db.s3ObjectReceipts, Exact stages db receipt
  eventIds : EventIdsOfRuns stages.uuid5 db
  owned : ∀ runId, db.decisions.get (allocatedDecisionId runId) = none → NoRows db runId

theorem workerInv_empty : WorkerInv stages .empty where
  distinct a ha := absurd ha (Table.not_mem_empty a)
  exact a ha := absurd ha (Table.not_mem_empty a)
  eventIds a ha := absurd ha (Table.not_mem_empty a)
  owned _ _ := by constructor <;> exact fun a ha => absurd ha (Table.not_mem_empty a)

variable {stages}

theorem WorkerInv.law {db : Database} (h : WorkerInv stages db) : ReceiptLaw stages db where
  distinct a ha b hb hne hrun := hne (congrArg _ (h.distinct a ha b hb hrun))
  exact := h.exact

section Recorded

variable {object : S3Object} {runId : String} {s : Submission}
  {archive : Option R1ArchivePublication} {snapshot : DecisionRuntimeSnapshot} {d v : Database}

theorem noRows_of_fresh (hinv : WorkerInv stages d) (hs : SubmittedUnder stages runId s)
    (hf : Fresh s snapshot d) : NoRows d runId := by
  apply hinv.owned
  rw [← hs.decisionId]
  exact hf.id_free

/-- A run without rows has no receipt. -/
theorem receipt_runId_ne (hinv : WorkerInv stages d) (hnone : NoRows d runId) :
    ∀ receipt ∈ d.s3ObjectReceipts, receipt.runId ≠ runId := by
  intro receipt hr he
  obtain ⟨s', -, snapshot', -, -, hc⟩ := hinv.exact receipt hr
  obtain ⟨hmem, hrun⟩ := (hc.decision s'.decisionResult).mpr rfl
  exact hnone.decisions _ hmem (hrun.trans he)

variable (hid : CollisionFree stages.uuid5) (hs : SubmittedUnder stages runId s)
  (hv : s.validateResultScope = .ok ()) (hf : Fresh s snapshot d) (hr : Recorded s snapshot d v)
include hid hs hv hf hr

theorem owned_recorded (hinv : WorkerInv stages d) {runId' : String}
    (hfree : v.decisions.get (allocatedDecisionId runId') = none) : NoRows v runId' := by
  obtain ⟨hfusion, htrace, hconfig, hdet, hdec⟩ := runIds hs hv
  rw [Table.get_insert? hr.decisions, hs.decisionId] at hfree
  have hne : runId ≠ runId' := by
    rintro rfl
    simp at hfree
  have hold : NoRows d runId' := by
    apply hinv.owned
    split at hfree
    · cases hfree
    · exact hfree
  have hother : ∀ {x : String}, x = runId → x ≠ runId' := fun h => h ▸ hne
  refine ⟨?_, ?_, ?_, ?_, ?_, ?_, ?_⟩
  · intro e he
    rw [hr.events, Table.mem_foldl_upsert (events_nodup hid hs)] at he
    rcases he with he | ⟨he, -⟩
    · obtain ⟨-, -, hrun, -⟩ := mem_events_identity hs he
      exact hother hrun
    · exact hold.events e he
  · intro x hx
    rw [hr.fusionResults, Table.mem_upsert] at hx
    rcases hx with rfl | ⟨hx, -⟩
    · exact hother hfusion
    · exact hold.fusionResults x hx
  · intro x hx
    rw [hr.stoppingTraces, Table.mem_upsert] at hx
    rcases hx with rfl | ⟨hx, -⟩
    · exact hother htrace
    · exact hold.stoppingTraces x hx
  · intro x hx
    rw [hr.runtimeConfigs, Table.mem_upsert] at hx
    rcases hx with rfl | ⟨hx, -⟩
    · exact hother hconfig
    · exact hold.runtimeConfigs x hx
  · intro x hx
    rw [hr.detectionResults, Table.mem_upsert] at hx
    rcases hx with rfl | ⟨hx, -⟩
    · exact hother hdet
    · exact hold.detectionResults x hx
  · intro x hx
    rw [Table.mem_of_insert? hr.decisions] at hx
    rcases hx with hx | rfl
    · exact hold.decisions x hx
    · exact hother hdec
  · intro x hx
    rw [Table.mem_of_insert? hr.snapshots] at hx
    rcases hx with hx | rfl
    · exact hold.snapshots x hx
    · rw [buildDecisionRuntimeSnapshot_eq_ok hf.snapshot_ok]
      exact hother hdec

/-- The writes of a fresh submission keep the invariant. -/
theorem workerInv_recorded (hinv : WorkerInv stages d) : WorkerInv stages v where
  distinct := by
    rw [hr.receipts]
    exact hinv.distinct
  exact := by
    rw [hr.receipts]
    intro receipt hmem
    obtain ⟨s', archive', snapshot', hres, hsnap', hc⟩ := hinv.exact receipt hmem
    have hne := receipt_runId_ne hinv (noRows_of_fresh hinv hs hf) receipt hmem
    exact ⟨s', archive', snapshot', hres, hsnap', contains_recorded_other hid hs hv hf.snapshot_ok hr
      hinv.eventIds hne.symm hc⟩
  eventIds := by
    intro e he
    rw [hr.events, Table.mem_foldl_upsert (events_nodup hid hs)] at he
    rcases he with he | ⟨he, -⟩
    · obtain ⟨i, hi, hrun, hid⟩ := mem_events_identity hs he
      exact ⟨i, hi.trans hrun.symm, hid⟩
    · exact hinv.eventIds e he
  owned _ hfree := owned_recorded hid hs hv hf hr hinv hfree

/-- The receipt of a fresh submission's object keeps it too. -/
theorem workerInv_receipt (hinv : WorkerInv stages d)
    (hres : standaloneResults stages object runId = .ok (s, archive)) {v' : Database}
    (hsame : ∃ receipts publications, v' = { v with
      s3ObjectReceipts := receipts, r1ArchivePublications := publications })
    (hreceipts : ∀ r ∈ v'.s3ObjectReceipts, r ∈ v.s3ObjectReceipts ∨ r = ⟨object, runId⟩) :
    WorkerInv stages v' := by
  have hv' := workerInv_recorded hid hs hv hf hr hinv
  have hnone := noRows_of_fresh hinv hs hf
  have hne : ∀ r ∈ v.s3ObjectReceipts, r.runId ≠ runId := by
    rw [hr.receipts]
    exact receipt_runId_ne hinv hnone
  have hc := contains_recorded hid hs hv hf.snapshot_ok hr hnone
  obtain ⟨receipts, publications, rfl⟩ := hsame
  refine ⟨?_, ?_, hv'.eventIds, fun r hfree => ?_⟩
  · intro a ha b hb hrun
    rcases hreceipts a ha with ha | rfl
    · rcases hreceipts b hb with hb | rfl
      · exact hv'.distinct a ha b hb hrun
      · exact absurd hrun (hne a ha)
    · rcases hreceipts b hb with hb | rfl
      · exact absurd hrun.symm (hne b hb)
      · rfl
  · intro receipt hmem
    rcases hreceipts receipt hmem with hmem | rfl
    · obtain ⟨s', archive', snapshot', hres', hsnap', hc'⟩ := hv'.exact receipt hmem
      exact ⟨s', archive', snapshot', hres', hsnap', ⟨hc'.run, hc'.events, hc'.fusionResult,
        hc'.stoppingTrace, hc'.runtimeConfig, hc'.detectionResult, hc'.decision, hc'.snapshot⟩⟩
    · exact ⟨s, archive, snapshot, hres, hf.snapshot_ok, ⟨hc.run, hc.events, hc.fusionResult,
        hc.stoppingTrace, hc.runtimeConfig, hc.detectionResult, hc.decision, hc.snapshot⟩⟩
  · have hn := hv'.owned r hfree
    exact ⟨hn.events, hn.fusionResults, hn.stoppingTraces, hn.runtimeConfigs, hn.detectionResults,
      hn.decisions, hn.snapshots⟩

end Recorded

/-! ## The end of a successful input -/

/-- What the statements after `_persist` may change. -/
structure Finishes (receipt : S3ObjectReceipt) (d d' : Database) : Prop where
  same : ∃ receipts publications,
    d' = { d with s3ObjectReceipts := receipts, r1ArchivePublications := publications }
  receipts : ∀ r ∈ d'.s3ObjectReceipts, r ∈ d.s3ObjectReceipts ∨ r = receipt

namespace Finishes

variable {receipt : S3ObjectReceipt} {d d₁ d₂ : Database}

theorem refl (receipt : S3ObjectReceipt) (d : Database) : Finishes receipt d d :=
  ⟨⟨_, _, rfl⟩, fun _ h => .inl h⟩

theorem trans (h₁ : Finishes receipt d d₁) (h₂ : Finishes receipt d₁ d₂) :
    Finishes receipt d d₂ := by
  obtain ⟨⟨rs, ps, rfl⟩, hr₁⟩ := h₁
  obtain ⟨⟨rs', ps', rfl⟩, hr₂⟩ := h₂
  refine ⟨⟨rs', ps', rfl⟩, fun r hr => ?_⟩
  rcases hr₂ r hr with hr | hr
  · exact hr₁ r hr
  · exact .inr hr

theorem keeps {hashtext : String → Int} {held : Set AdvisoryLock} (h : Finishes receipt d d₁)
    (hk : Keeps hashtext held d₂ d) : Keeps hashtext held d₂ d₁ := by
  obtain ⟨⟨rs, ps, rfl⟩, -⟩ := h
  exact ⟨hk.runs, hk.stored, hk.decision, hk.snapshot, hk.scope⟩

end Finishes

theorem finishes_savePending {receipt : S3ObjectReceipt} {publication : R1ArchivePublication}
    {d v : Database} (h : R1ArchivePublicationRepository.savePending publication d = .ok v) :
    Finishes receipt d v := by
  rw [R1ArchivePublicationRepository.savePending, check_bind_eq_ok, requireRun_bind_eq_ok] at h
  obtain ⟨-, -, h⟩ := h
  split at h
  · rw [Except.pure_eq_ok] at h
    rw [h]
    exact ⟨⟨_, _, rfl⟩, fun r hr => .inl hr⟩
  · rw [raiseIf_bind_eq_ok, Except.pure_eq_ok] at h
    rw [h.2]
    exact .refl receipt d

theorem finishes_saveSuccess {receipt : S3ObjectReceipt} {d v : Database}
    (h : S3ObjectReceiptRepository.saveSuccess receipt d = .ok v) : Finishes receipt d v := by
  rw [S3ObjectReceiptRepository.saveSuccess, check_bind_eq_ok, requireRun_bind_eq_ok] at h
  obtain ⟨-, -, h⟩ := h
  split at h
  · rw [Except.pure_eq_ok] at h
    rw [h]
    exact .refl receipt d
  · next receipts hi =>
    rw [Except.pure_eq_ok] at h
    rw [h]
    exact ⟨⟨_, _, rfl⟩, fun r hr => (Table.mem_of_insert? hi).mp hr⟩

theorem finishes_view {receipt : S3ObjectReceipt} {ws : List Statement}
    (hws : ∀ w ∈ ws, ∀ d v, w d = .ok v → Finishes receipt d v) (d : Database) :
    Finishes receipt d (view ws d) := by
  induction ws generalizing d with
  | nil => exact .refl receipt d
  | cons w ws ih =>
    have hw : Finishes receipt d (applied w d) := by
      rw [applied]
      split
      · next v hv => exact hws w (List.mem_cons_self ..) d v hv
      · exact .refl receipt d
    exact hw.trans (ih (fun w' h => hws w' (List.mem_cons_of_mem _ h)) _)

/-- The statements of a success receipt. -/
abbrev successStatements (object : S3Object) (runId : String)
    (publication : Option R1ArchivePublication) : List Statement :=
  savePublication publication ++ [S3ObjectReceiptRepository.saveSuccess ⟨object, runId⟩]

theorem finishes_successStatements (object : S3Object) (runId : String)
    (publication : Option R1ArchivePublication) (d : Database) :
    Finishes ⟨object, runId⟩ d (view (successStatements object runId publication) d) := by
  refine finishes_view (fun w hw d v hv => ?_) d
  rcases List.mem_append.mp hw with hw | hw
  · obtain ⟨p, -, rfl⟩ := List.mem_map.mp hw
    exact finishes_savePending hv
  · rw [List.mem_singleton] at hw
    subst hw
    exact finishes_saveSuccess hv

/-! ## The Worker's transaction -/

/-- A program about to look for its Decision finds none equal to it stored. -/
def FindsNoEqualDecision (p : Transaction) (db : Database) : Prop :=
  ∀ s saveRun next, p = persistLocked s saveRun next →
    db.decisions.get s.decisionResult.decisionId ≠ some s.decisionResult

variable (stages) in
/-- What Workers promise each other, where they find no equal Decision. -/
def workerSpec : Spec WorkerInput AdvisoryLock Database PersistenceError where
  inv := WorkerInv stages
  guarantee := Keeps hashtext
  raises _ _ _ := True
  commits _ _ _ := True
  proviso := FindsNoEqualDecision

section Safe

variable {hashtext} {input : WorkerInput} {held : Set AdvisoryLock} {d : Database}

/-- Behind the writes of a fresh submission the receipt keeps the invariant. -/
theorem safe_recordSuccess (hid : CollisionFree stages.uuid5) {object : S3Object} {runId : String}
    {s : Submission} {archive : Option R1ArchivePublication} {snapshot : DecisionRuntimeSnapshot}
    (hres : standaloneResults stages object runId = .ok (s, archive))
    (hv : s.validateResultScope = .ok ()) (hd : WorkerInv stages d) (hf : Fresh s snapshot d)
    (hex : ∃ v, execWrites (s.statements true snapshot) d = .ok v) :
    (workerSpec hashtext stages).Safe input (recordSuccess object runId archive)
      (persistLocks hashtext s held) (s.statements true snapshot) d := by
  have hkeeps : ∀ held d d', (workerSpec hashtext stages).guarantee held d d' →
      Keeps hashtext held d d' := fun _ _ _ h => h
  have hst : (workerSpec hashtext stages).Stable (persistLocks hashtext s held) fun d =>
      WorkerInv stages d ∧ Fresh s snapshot d ∧ ∃ v, execWrites (s.statements true snapshot) d = .ok v :=
    stable_inv.and (stable_fresh hkeeps (List.prefix_refl _))
  refine Safe.writes_any hst _ (fun _ _ _ => trivial) ?_ d ⟨hd, hf, hex⟩
  refine Safe.commit hst ?_
  rintro d ⟨hd, hf, v, hex⟩
  have hfin := finishes_successStatements object runId archive v
  rw [view_append, view_eq_of_execWrites hex]
  exact ⟨workerInv_receipt hid (standaloneResults_spec hres) hv hf (recorded_of_statements hex) hd
    hres hfin.same hfin.receipts, hfin.keeps (keeps_statements hf hex), trivial⟩

theorem safe_raise (e : PersistenceError) :
    (workerSpec hashtext stages).Safe input (.raise e) held [] d := fun _ _ => trivial

theorem safe_runStandalone (hid : CollisionFree stages.uuid5) (object : S3Object) (runId : String)
    (hd : WorkerInv stages d) :
    (workerSpec hashtext stages).Safe input (runStandalone hashtext stages object runId) held [] d := by
  rw [runStandalone]
  split
  · exact safe_raise _
  · next s archive hres =>
    rw [persistS0Results, validated]
    split
    · exact safe_raise _
    · next hv =>
      refine safe_persist (fun _ _ _ h => h) (K := fun _ => True) (fun _ _ _ _ => trivial)
        (fun _ _ _ _ _ => trivial) ?_ ?_ d ⟨hd, trivial⟩
      · intro d _ _ hget hp
        exact absurd hget (hp s true _ rfl)
      · intro snapshot d hd _ hf hex
        exact safe_recordSuccess hid hres hv hd hf ⟨_, hex⟩

theorem safe_allocateIdentifiers (date : String) {next : String → Transaction}
    (hnext : ∀ runId d, WorkerInv stages d →
      (workerSpec hashtext stages).Safe input (next runId) held [] d)
    (sequence remaining : Nat) (hd : WorkerInv stages d) :
    (workerSpec hashtext stages).Safe input (allocateIdentifiers date next sequence remaining)
      held [] d := by
  induction remaining generalizing sequence d with
  | zero => exact safe_raise _
  | succ remaining ih =>
    refine Safe.read stable_inv (fun d hd _ => ?_) d hd
    rw [view_nil]
    split
    · exact ih (sequence + 1) hd
    · exact hnext _ d hd

/-- Every input of a Worker is processed safely. -/
theorem safe_processInput (hid : CollisionFree stages.uuid5) (input : WorkerInput) (d : Database)
    (hd : WorkerInv stages d) :
    (workerSpec hashtext stages).Safe input (processInput hashtext receiptLockKey stages input) ∅ [] d := by
  refine Safe.lock stable_inv (fun d hd => ?_) d hd
  refine Safe.read stable_inv (fun d hd _ => ?_) d hd
  rw [view_nil]
  cases d.s3ObjectReceipts.get input.object with
  | some receipt =>
    refine Safe.commit stable_inv (fun d hd => ?_) d hd
    exact ⟨hd, Keeps.refl _ d, trivial⟩
  | none =>
    exact safe_allocateIdentifiers _ (fun runId d hd => safe_runStandalone hid _ runId hd) _ _ hd

end Safe

/-! ## Runs -/

section Runs

variable {ι : Type} [DecidableEq ι] (stages)

/-- One step of a Worker. -/
abbrev workerStep (s : TxnSystem ι WorkerInput AdvisoryLock Database PersistenceError)
    (x : ι × Action WorkerInput) :
    TxnSystem ι WorkerInput AdvisoryLock Database PersistenceError ×
      Response WorkerInput PersistenceError :=
  s.step (processInput hashtext receiptLockKey stages) x

/-- The system after a run on empty tables. -/
abbrev workedAfter (xs : List (ι × Action WorkerInput)) :
    TxnSystem ι WorkerInput AdvisoryLock Database PersistenceError :=
  after (workerStep hashtext receiptLockKey stages) (.initial .empty) xs

/-- A Worker that is about to run the check of `_persist` for an existing Decision
finds none equal to its own. -/
def NoEqualDecision (s : TxnSystem ι WorkerInput AdvisoryLock Database PersistenceError)
    (x : ι × Action WorkerInput) : Prop :=
  x.2 = .advance → ∀ t, s.session x.1 = some t → FindsNoEqualDecision t.program (view t.writes s.db)

/-- **Distinct inputs get distinct runs**, in every run of Workers in which no check
of `_persist` finds an equal Decision stored. -/
theorem distinctRuns_of_noEqualDecision (hid : CollisionFree stages.uuid5)
    (xs : List (ι × Action WorkerInput))
    (hx : Meets (workerStep hashtext receiptLockKey stages) NoEqualDecision (.initial .empty) xs) :
    ReceiptLaw stages (workedAfter hashtext receiptLockKey stages xs).db := by
  have hrun := run_serial (S := workerSpec hashtext stages)
    (fun input d hd => safe_processInput receiptLockKey hid input d hd) (workerInv_empty stages) hx
  exact hrun.1.inv.law

end Runs

/-! ## Two objects of one host -/

/-- One process creation on `host-1`. -/
def processCreate (t : UtcMillis) : NormalizedEvent where
  eventId := "evt-host-1"
  runId := "RUN-host-1"
  timestamp := t
  timestampSource := .recordTime
  recordTime := some t
  hostId := "host-1"
  source := "sysmon"
  sourceLayer := .rawTelemetry
  sourceEventId := "1"
  eventType := "process_create"
  rawRef := {
    rawLogId := "RAW-host-1"
    segmentNo := 1
    recordNo := 1
    segmentNo_pos := Nat.one_pos
    recordNo_pos := Nat.one_pos }

/-- An object of one record. -/
def oneRecord (t : UtcMillis) : StandaloneInput where
  targetHost := "host-1"
  startTime := t * 1000
  endTime := t * 1000
  records := [{ recordNo := 1, recordId := 7, event := processCreate t, recordNo_pos := Nat.one_pos }]
  records_host := by simp [processCreate]
  recordNos_nodup := by simp

def firstObject : S3Object := ⟨"telemetry", "host-1/first.jsonl", "etag-1"⟩
def secondObject : S3Object := ⟨"telemetry", "host-1/second.jsonl", "etag-2"⟩

/-- A hash that keeps what it hashes. -/
def spelledUuid5 (i : EventIdentity) : String :=
  String.ofList (List.replicate i.recordNo 'x') ++ "/" ++ i.runId

theorem collisionFree_spelledUuid5 : CollisionFree spelledUuid5 := by
  intro a b h
  have hl := congrArg String.toList h
  simp only [spelledUuid5, String.toList_append, String.toList_ofList] at hl
  have hsplit : ∀ (m n : Nat) (r r' : List Char),
      List.replicate m 'x' ++ "/".toList ++ r = List.replicate n 'x' ++ "/".toList ++ r' →
        m = n ∧ r = r' := by
    intro m
    induction m with
    | zero =>
      intro n r r' h
      cases n with
      | zero => simpa using h
      | succ n => simp [List.replicate_succ] at h
    | succ m ih =>
      intro n r r' h
      cases n with
      | zero => simp [List.replicate_succ] at h
      | succ n =>
        simp only [List.replicate_succ, List.cons_append, List.cons.injEq, true_and] at h
        obtain ⟨hm, hr⟩ := ih n r r' h
        exact ⟨congrArg (· + 1) hm, hr⟩
  obtain ⟨hn, hr⟩ := hsplit _ _ _ _ hl
  exact ⟨String.toList_injective hr, hn⟩

/-- Stages that read the two objects, each too short for Fusion to evaluate. -/
def shortStages : StandaloneStages where
  read object := .ok (oneRecord (if object = firstObject then 1000 else 2000))
  uuid5 := spelledUuid5
  fusion run _ := .ok (
    { runId := run.runId, entityId := run.targetHost, fusionTime := none
      fusionStatus := .notEvaluated, contributingEvidenceIds := []
      scoringConfigVersion := "fusion-config-s0-pair-v0.1", scoringProfileId := "s0-profile"
      scoringMethod := "simple_score", scorerVersion := "simple-score-v0.1" },
    { runId := run.runId, entityId := run.targetHost
      scoringConfigVersion := "fusion-config-s0-pair-v0.1", points := [] },
    { runId := run.runId, entityId := run.targetHost
      configVersion := "fusion-config-s0-pair-v0.1", scoringMethod := "simple_score"
      scoringScorerVersion := "simple-score-v0.1", scoringProfileId := "s0-profile" })
  r1Archive _ _ := .ok none

def objectLockKey (object : S3Object) : Int := if object = firstObject then 1 else 2

def advances (worker : Fin 2) (n : Nat) : List (Fin 2 × Action WorkerInput) :=
  List.replicate n (worker, .advance)

def firstWorker : Fin 2 := ⟨0, Nat.two_pos⟩

def secondWorker : Fin 2 := ⟨1, Nat.one_lt_two⟩

/-- One Worker processes the first object. -/
def firstRun : List (Fin 2 × Action WorkerInput) :=
  (firstWorker, .begin ⟨firstObject, "20260101"⟩) :: advances firstWorker 17

/-- A read of tables without Decisions finds none. -/
theorem noEqualDecision_of_decisions_nil {ι : Type} [DecidableEq ι]
    {s : TxnSystem ι WorkerInput AdvisoryLock Database PersistenceError} {x : ι × Action WorkerInput}
    (h : (s.session x.1).all fun t =>
      t.program.isRead → (view t.writes s.db).decisions.rows.isEmpty) : NoEqualDecision s x := by
  rintro - t ht s' saveRun next hp
  rw [ht, Option.all_some, decide_eq_true_iff, hp, List.isEmpty_iff] at h
  simp [Table.get, h rfl]

/-- A hash of the characters of a text. -/
def sumText (text : String) : Int := Int.ofNat (text.toList.foldl (fun n c => n + c.toNat) 0)

/-- Each of two Workers processes an object, one statement after the other in turn. -/
def twoRuns : List (Fin 2 × Action WorkerInput) :=
  [(firstWorker, .begin ⟨firstObject, "20260101"⟩),
      (secondWorker, .begin ⟨secondObject, "20260102"⟩)] ++
    (List.replicate 17 [(firstWorker, .advance), (secondWorker, .advance)]).flatten

theorem distinctRuns_of_noEqualDecision_twoRuns :
    (workedAfter sumText objectLockKey shortStages twoRuns).db.s3ObjectReceipts.rows =
        [⟨firstObject, "RUN-20260101-001"⟩, ⟨secondObject, "RUN-20260102-001"⟩] ∧
      ReceiptLaw shortStages (workedAfter sumText objectLockKey shortStages twoRuns).db :=
  ⟨by decide +kernel,
    distinctRuns_of_noEqualDecision sumText objectLockKey shortStages collisionFree_spelledUuid5
      twoRuns (Meets.imp (fun _ _ => noEqualDecision_of_decisions_nil) (by decide +kernel))⟩

/-- The second Worker allocates its run id, then the first processes its object
under the same id and commits, then the second goes on. -/
def collidingRun : List (Fin 2 × Action WorkerInput) :=
  (secondWorker, .begin ⟨secondObject, "20260101"⟩) :: advances secondWorker 3 ++ firstRun ++
    advances secondWorker 5

theorem distinctRuns_fails :
    CollisionFree shortStages.uuid5 ∧
      ¬ ReceiptLaw shortStages (workedAfter (fun _ => 0) objectLockKey shortStages collidingRun).db := by
  refine ⟨collisionFree_spelledUuid5, fun h => ?_⟩
  have hrows : (workedAfter (fun _ => 0) objectLockKey shortStages collidingRun).db.s3ObjectReceipts.rows =
      [⟨firstObject, "RUN-20260101-001"⟩, ⟨secondObject, "RUN-20260101-001"⟩] := by
    decide +kernel
  refine h.distinct ⟨firstObject, "RUN-20260101-001"⟩ ?_ ⟨secondObject, "RUN-20260101-001"⟩ ?_
    (by decide) rfl
  · rw [Table.mem_def, hrows]
    simp
  · rw [Table.mem_def, hrows]
    simp

end IncidentAwareness.Worker
