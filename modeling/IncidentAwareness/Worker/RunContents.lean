import IncidentAwareness.Persistence.PersistSpec
import IncidentAwareness.Worker.Receipts

/-!
# The rows under a run id

* `recorded_of_statements`: every table after the writes of a submission;
* `standaloneResults_spec`: the ids in what the standalone pipeline submits;
* `contains_recorded`: a submission under a run id that had no rows gives it
  exactly its own;
* `contains_recorded_other`: it leaves the rows of the other run ids alone.
-/

namespace IncidentAwareness.Worker

open IncidentAwareness.Common IncidentAwareness.Lib IncidentAwareness.Persistence Txn

/-! ## All that a submission writes -/

/-- The tables after the writes of a submission that saves its run. -/
structure Recorded (s : Submission) (snapshot : DecisionRuntimeSnapshot) (d v : Database) :
    Prop where
  runs : v.runs = d.runs.upsert s.runMetadata
  events : v.events = s.events.foldl Table.upsert d.events
  fusionResults : v.fusionResults = d.fusionResults.upsert s.fusionResult
  stoppingTraces : v.fusionStoppingTraces =
    d.fusionStoppingTraces.upsert s.stoppingTrace
  runtimeConfigs : v.fusionRuntimeConfigSnapshots =
    d.fusionRuntimeConfigSnapshots.upsert s.runtimeConfigSnapshot
  detectionResults : v.detectionResults =
    d.detectionResults.upsert s.fastResult.detectionResult
  decisions : d.decisions.insert? s.decisionResult = some v.decisions
  snapshots : d.decisionRuntimeSnapshots.insert? snapshot = some v.decisionRuntimeSnapshots
  receipts : v.s3ObjectReceipts = d.s3ObjectReceipts

theorem execWrites_events {events : List NormalizedEvent} {d v : Database}
    (h : execWrites (events.map EventRepository.save) d = .ok v) :
    v = { d with events := events.foldl Table.upsert d.events } := by
  induction events generalizing d with
  | nil => exact (Except.ok.inj h).symm
  | cons e events ih =>
    obtain ⟨d₁, he, h⟩ := execWrites_cons_eq_ok.mp h
    obtain ⟨-, -, rfl⟩ := saveOwned_eq_ok.mp he
    exact ih h

theorem recorded_of_statements {s : Submission} {snapshot : DecisionRuntimeSnapshot}
    {d v : Database} (h : execWrites (s.statements true snapshot) d = .ok v) :
    Recorded s snapshot d v := by
  obtain ⟨d₆, hdetail, h⟩ := execWrites_append_eq_ok.mp h
  obtain ⟨d₇, hdec, h⟩ := execWrites_cons_eq_ok.mp h
  obtain ⟨d₈, hsnap, h⟩ := execWrites_cons_eq_ok.mp h
  obtain rfl := Except.ok.inj h
  obtain ⟨d₂, hpre, h⟩ := execWrites_append_eq_ok.mp hdetail
  obtain ⟨d₁, hfirst, hevents⟩ := execWrites_append_eq_ok.mp hpre
  obtain ⟨d', hrun, hnil⟩ := execWrites_cons_eq_ok.mp hfirst
  obtain rfl := Except.ok.inj hnil
  obtain ⟨-, rfl⟩ := RunRepository.save_eq_ok.mp hrun
  obtain rfl := execWrites_events hevents
  obtain ⟨d₃, hfusion, h⟩ := execWrites_cons_eq_ok.mp h
  obtain ⟨d₄, htrace, h⟩ := execWrites_cons_eq_ok.mp h
  obtain ⟨d₅, hconfig, h⟩ := execWrites_cons_eq_ok.mp h
  obtain ⟨d₅', hdet, h⟩ := execWrites_cons_eq_ok.mp h
  obtain rfl := Except.ok.inj h
  obtain ⟨-, -, rfl⟩ := saveOwned_eq_ok.mp hfusion
  obtain ⟨-, -, rfl⟩ := saveOwned_eq_ok.mp htrace
  obtain ⟨-, -, rfl⟩ := saveOwned_eq_ok.mp hconfig
  obtain ⟨-, -, rfl⟩ := saveOwned_eq_ok.mp hdet
  obtain ⟨-, -, ds, hds, rfl⟩ := DecisionRepository.save_eq_ok.mp hdec
  obtain ⟨-, -, ss, hss, rfl⟩ := DecisionRuntimeSnapshotRepository.save_eq_ok.mp hsnap
  exact ⟨rfl, rfl, rfl, rfl, rfl, rfl, hds, hss, rfl⟩

/-! ## What the pipeline submits -/

/-- `uuid5` gives different ids to Events of different runs, and to different
lines of one object. -/
def CollisionFree (uuid5 : EventIdentity → String) : Prop :=
  ∀ a b, uuid5 a = uuid5 b → a.runId = b.runId ∧ a.recordNo = b.recordNo

theorem collisionFree_normalizedEventId {uuid5 : EventIdentity → String} (h : CollisionFree uuid5)
    {a b : EventIdentity} (he : normalizedEventId uuid5 a = normalizedEventId uuid5 b) :
    a.runId = b.runId ∧ a.recordNo = b.recordNo := by
  apply h
  have := congrArg String.toList he
  rw [normalizedEventId, normalizedEventId, String.toList_append, String.toList_append,
    List.append_cancel_left_eq] at this
  exact String.toList_injective this

/-- The results of a validated submission carry the run id of its metadata. -/
theorem validateResultScope_eq_ok {s : Submission} (h : s.validateResultScope = .ok ()) :
    (∀ e ∈ s.events, e.runId = s.runMetadata.runId) ∧
      ∀ r ∈ s.resultScopes, r.1 = s.runMetadata.runId := by
  simp only [Submission.validateResultScope, raiseIf_bind_eq_ok] at h
  obtain ⟨he, -, hr, -⟩ := h
  exact ⟨fun e h => by_contra fun hn => he ⟨e, h, hn⟩, fun r h => by_contra fun hn => hr ⟨r, h, hn⟩⟩

/-- The ids in what the standalone pipeline submits under a run id. -/
structure SubmittedUnder (stages : StandaloneStages) (runId : String) (s : Submission) : Prop where
  runMetadata : s.runMetadata.runId = runId
  decisionId : s.decisionResult.decisionId = allocatedDecisionId runId
  events : ∃ records : List StandaloneRecord, (records.map (·.recordNo)).Nodup ∧
    s.events = records.map (·.normalize stages.uuid5 runId)

theorem combineResults_eq_ok {fast : FastDetectionAdapterResult} {fusion : FusionResult}
    {decisionId configVersion : String} {supersedes : Option String} {d : DecisionResult}
    (h : combineResults fast fusion decisionId configVersion supersedes = .ok d) :
    d.decisionId = decisionId ∧ d.supersedesDecisionId = supersedes := by
  simp only [combineResults, requireIdentifier, raiseIf_bind_eq_ok, Except.pure_eq_ok] at h
  obtain ⟨-, -, -, -, rfl⟩ := h
  exact ⟨rfl, rfl⟩

theorem standaloneResults_spec {stages : StandaloneStages} {object : S3Object} {runId : String}
    {s : Submission} {archive : Option R1ArchivePublication}
    (h : standaloneResults stages object runId = .ok (s, archive)) :
    SubmittedUnder stages runId s := by
  simp only [standaloneResults, Except.bind_eq_ok, Except.pure_eq_ok] at h
  obtain ⟨input, -, archive', -, ⟨fusion, trace, config⟩, -, decision, hd, he⟩ := h
  obtain ⟨rfl, -⟩ := Prod.mk.inj he
  exact ⟨rfl, (combineResults_eq_ok hd).1, input.records, input.recordNos_nodup, rfl⟩

/-! ## Rows under a run id -/

/-- No row carries the run id. -/
structure NoRows (db : Database) (runId : String) : Prop where
  events : ∀ e ∈ db.events, e.runId ≠ runId
  fusionResults : ∀ x ∈ db.fusionResults, x.runId ≠ runId
  stoppingTraces : ∀ x ∈ db.fusionStoppingTraces, x.runId ≠ runId
  runtimeConfigs : ∀ x ∈ db.fusionRuntimeConfigSnapshots, x.runId ≠ runId
  detectionResults : ∀ x ∈ db.detectionResults, x.runId ≠ runId
  decisions : ∀ x ∈ db.decisions, x.runId ≠ runId
  snapshots : ∀ x ∈ db.decisionRuntimeSnapshots, x.runId ≠ runId

/-- The rows that carry the run id are those of a submission and its snapshot. -/
structure Contains (db : Database) (runId : String) (s : Submission)
    (snapshot : DecisionRuntimeSnapshot) : Prop where
  run : db.runs.get runId = some s.runMetadata
  events : ∀ e, e ∈ db.events ∧ e.runId = runId ↔ e ∈ s.events
  fusionResult : ∀ x, x ∈ db.fusionResults ∧ x.runId = runId ↔ x = s.fusionResult
  stoppingTrace : ∀ x, x ∈ db.fusionStoppingTraces ∧ x.runId = runId ↔ x = s.stoppingTrace
  runtimeConfig : ∀ x, x ∈ db.fusionRuntimeConfigSnapshots ∧ x.runId = runId ↔
    x = s.runtimeConfigSnapshot
  detectionResult : ∀ x, x ∈ db.detectionResults ∧ x.runId = runId ↔
    x = s.fastResult.detectionResult
  decision : ∀ x, x ∈ db.decisions ∧ x.runId = runId ↔ x = s.decisionResult
  snapshot : ∀ x, x ∈ db.decisionRuntimeSnapshots ∧ x.runId = runId ↔ x = snapshot

/-- The Event ids of the database are those of Events of their runs. -/
def EventIdsOfRuns (uuid5 : EventIdentity → String) (db : Database) : Prop :=
  ∀ e ∈ db.events, ∃ i, i.runId = e.runId ∧ e.eventId = normalizedEventId uuid5 i

section Records

variable {stages : StandaloneStages} {runId : String} {s : Submission}
  {snapshot : DecisionRuntimeSnapshot} {d v : Database}

theorem mem_events_identity (hs : SubmittedUnder stages runId s) {e : NormalizedEvent}
    (he : e ∈ s.events) :
    ∃ i, i.runId = runId ∧ e.runId = runId ∧ e.eventId = normalizedEventId stages.uuid5 i := by
  obtain ⟨records, -, hevents⟩ := hs.events
  rw [hevents, List.mem_map] at he
  obtain ⟨r, -, rfl⟩ := he
  exact ⟨r.identity runId, rfl, rfl, rfl⟩

theorem events_nodup (hid : CollisionFree stages.uuid5) (hs : SubmittedUnder stages runId s) :
    (s.events.map NormalizedEvent.eventId).Nodup := by
  obtain ⟨records, hnd, hevents⟩ := hs.events
  rw [hevents, List.map_map]
  rw [List.Nodup, List.pairwise_map] at hnd ⊢
  exact hnd.imp fun hab he => hab (collisionFree_normalizedEventId hid he).2

/-- Events of two runs have different ids. -/
theorem eventId_ne (hid : CollisionFree stages.uuid5) (hs : SubmittedUnder stages runId s)
    (hd : EventIdsOfRuns stages.uuid5 d) {a e : NormalizedEvent} (ha : a ∈ d.events)
    (hrun : a.runId ≠ runId) (he : e ∈ s.events) : a.eventId ≠ e.eventId := by
  obtain ⟨i, hi, hai⟩ := hd a ha
  obtain ⟨j, hj, -, hej⟩ := mem_events_identity hs he
  intro h
  rw [hai, hej] at h
  apply hrun
  rw [← hi, (collisionFree_normalizedEventId hid h).1, hj]

/-- The results of a validated submission carry its run id. -/
theorem runIds (hs : SubmittedUnder stages runId s) (hv : s.validateResultScope = .ok ()) :
    s.fusionResult.runId = runId ∧ s.stoppingTrace.runId = runId ∧
      s.runtimeConfigSnapshot.runId = runId ∧ s.fastResult.detectionResult.runId = runId ∧
      s.decisionResult.runId = runId := by
  have hscope : ∀ r ∈ s.resultScopes, r.1 = runId :=
    fun r hr => ((validateResultScope_eq_ok hv).2 r hr).trans hs.runMetadata
  simp only [Submission.resultScopes, List.forall_mem_cons] at hscope
  obtain ⟨hfusion, htrace, hconfig, hdet, hdec, -⟩ := hscope
  exact ⟨hfusion, htrace, hconfig, hdet, hdec⟩

variable (hid : CollisionFree stages.uuid5) (hs : SubmittedUnder stages runId s)
  (hv : s.validateResultScope = .ok ()) (hsnap : s.runtimeSnapshot = .ok snapshot)
  (hr : Recorded s snapshot d v)
include hid hs hv hsnap hr

/-- Under a run id that had no rows, a submission's rows are all. -/
theorem contains_recorded (hnone : NoRows d runId) : Contains v runId s snapshot := by
  obtain ⟨hfusion, htrace, hconfig, hdet, hdec⟩ := runIds hs hv
  refine ⟨?_, ?_, ?_, ?_, ?_, ?_, ?_, ?_⟩
  · rw [hr.runs, Table.get_upsert, if_pos hs.runMetadata.symm]
  · rw [hr.events]
    refine Table.mem_foldl_upsert_own NormalizedEvent.runId (events_nodup hid hs) ?_ hnone.events
    intro e he
    obtain ⟨-, -, hrun, -⟩ := mem_events_identity hs he
    exact hrun
  · rw [hr.fusionResults]
    exact Table.mem_upsert_own FusionResult.runId hfusion hnone.fusionResults
  · rw [hr.stoppingTraces]
    exact Table.mem_upsert_own FusionStoppingTrace.runId htrace hnone.stoppingTraces
  · rw [hr.runtimeConfigs]
    exact Table.mem_upsert_own FusionRuntimeConfigSnapshot.runId hconfig hnone.runtimeConfigs
  · rw [hr.detectionResults]
    exact Table.mem_upsert_own DetectionResult.runId hdet hnone.detectionResults
  · intro x
    rw [Table.mem_of_insert? hr.decisions]
    constructor
    · rintro ⟨hx | rfl, hrun⟩
      · exact absurd hrun (hnone.decisions x hx)
      · rfl
    · rintro rfl
      exact ⟨.inr rfl, hdec⟩
  · intro x
    rw [Table.mem_of_insert? hr.snapshots]
    constructor
    · rintro ⟨hx | rfl, hrun⟩
      · exact absurd hrun (hnone.snapshots x hx)
      · rfl
    · rintro rfl
      refine ⟨.inr rfl, ?_⟩
      rw [buildDecisionRuntimeSnapshot_eq_ok hsnap]
      exact hdec

/-- The rows under another run id stay as they are. -/
theorem contains_recorded_other (hd : EventIdsOfRuns stages.uuid5 d) {runId' : String}
    (hne : runId ≠ runId') {s' : Submission} {snapshot' : DecisionRuntimeSnapshot}
    (hc : Contains d runId' s' snapshot') : Contains v runId' s' snapshot' := by
  obtain ⟨hfusion, htrace, hconfig, hdet, hdec⟩ := runIds hs hv
  have hother : ∀ {x : String}, x = runId → x ≠ runId' := fun h => h ▸ hne
  have hsnapRun : snapshot.runId = runId := by
    rw [buildDecisionRuntimeSnapshot_eq_ok hsnap]
    exact hdec
  refine ⟨?_, ?_, ?_, ?_, ?_, ?_, ?_, ?_⟩
  · rw [hr.runs, Table.get_upsert, if_neg (hother hs.runMetadata).symm]
    exact hc.run
  · intro a
    rw [hr.events, Table.mem_foldl_upsert_other NormalizedEvent.runId (events_nodup hid hs)]
    · exact hc.events a
    · intro e he
      obtain ⟨-, -, hrun, -⟩ := mem_events_identity hs he
      exact hother hrun
    · intro a ha hrun e he
      exact eventId_ne hid hs hd ha (by rw [hrun]; exact hne.symm) he
  · intro a
    rw [hr.fusionResults, ← hc.fusionResult a]
    exact Table.mem_upsert_other FusionResult.runId (fun _ _ => congrArg Prod.fst) (hother hfusion) a
  · intro a
    rw [hr.stoppingTraces, ← hc.stoppingTrace a]
    exact Table.mem_upsert_other FusionStoppingTrace.runId (fun _ _ => congrArg Prod.fst)
      (hother htrace) a
  · intro a
    rw [hr.runtimeConfigs, ← hc.runtimeConfig a]
    exact Table.mem_upsert_other FusionRuntimeConfigSnapshot.runId (fun _ _ => congrArg Prod.fst)
      (hother hconfig) a
  · intro a
    rw [hr.detectionResults, ← hc.detectionResult a]
    exact Table.mem_upsert_other DetectionResult.runId (fun _ _ => congrArg Prod.fst) (hother hdet) a
  · intro a
    rw [Table.mem_of_insert? hr.decisions, ← hc.decision a]
    refine and_congr_left fun hrun => or_iff_left ?_
    rintro rfl
    exact hother hdec hrun
  · intro a
    rw [Table.mem_of_insert? hr.snapshots, ← hc.snapshot a]
    refine and_congr_left fun hrun => or_iff_left ?_
    rintro rfl
    exact hother hsnapRun hrun

end Records

end IncidentAwareness.Worker
