import IncidentAwareness.Lib.Chain
import IncidentAwareness.Lib.Transaction
import IncidentAwareness.Persistence.Database

/-!
# What the statements do

One lemma for each kind of statement: when it succeeds, and the tables after it.
Whether it succeeds depends on the database through the runs and the rows of one
Decision id only (`Agree`, `agree_statement`). The head query on a linked scope
gives its last Decision (`getCurrentHead_of_linked`).
-/

namespace IncidentAwareness.Persistence

open IncidentAwareness.Common IncidentAwareness.Lib

variable {α : Type} {db db' : Database}

theorem check_bind_eq_ok {table : String} {p : Prop} [Decidable p]
    {f : Unit → Except PersistenceError α} {a : α} :
    (check table p >>= f) = .ok a ↔ p ∧ f () = .ok a := by
  rw [check, raiseIf_bind_eq_ok, not_not]

theorem requireRun_bind_eq_ok {table runId : String} {f : Unit → Except PersistenceError α} {a : α} :
    (db.requireRun table runId >>= f) = .ok a ↔ db.runs.get runId ≠ none ∧ f () = .ok a := by
  rw [Database.requireRun, raiseIf_bind_eq_ok]

theorem saveOwned_eq_ok {table runId : String} {checks : Prop} [Decidable checks]
    {upsert : Database → Database} :
    saveOwned table checks runId upsert db = .ok db' ↔
      checks ∧ db.runs.get runId ≠ none ∧ db' = upsert db := by
  rw [saveOwned, check_bind_eq_ok, requireRun_bind_eq_ok, Except.pure_eq_ok]

/-- The checks of the `runs` table. -/
abbrev RunRepository.Checks (run : RunMetadata) : Prop :=
  NotBlank run.runId ∧ NotBlank run.scenarioId ∧ NotBlank run.targetHost ∧
    ∀ t ∈ run.endTime, run.startTime ≤ t

theorem RunRepository.save_eq_ok {run : RunMetadata} :
    RunRepository.save run db = .ok db' ↔
      RunRepository.Checks run ∧ db' = { db with runs := db.runs.upsert run } := by
  rw [RunRepository.save, check_bind_eq_ok, Except.pure_eq_ok]

/-- The checks of the `decisions` table. -/
abbrev DecisionRepository.Checks (decision : DecisionResult) : Prop :=
  NotBlank decision.decisionId ∧ NotBlank decision.entityId ∧
    StatusTime decision.fastStatus decision.detectorTime ∧
    StatusTime decision.fusionStatus decision.fusionTime

theorem DecisionRepository.save_eq_ok {decision : DecisionResult} :
    DecisionRepository.save decision db = .ok db' ↔
      DecisionRepository.Checks decision ∧ db.runs.get decision.runId ≠ none ∧
        ∃ decisions, db.decisions.insert? decision = some decisions ∧
          db' = { db with decisions := decisions } := by
  rw [DecisionRepository.save, check_bind_eq_ok]
  cases db.decisions.insert? decision with
  | none => simp
  | some decisions =>
    simp only [requireRun_bind_eq_ok, Except.pure_eq_ok, Option.some.injEq, exists_eq_left']

/-- The checks of the `decision_runtime_snapshots` table. -/
abbrev DecisionRuntimeSnapshotRepository.Checks (snapshot : DecisionRuntimeSnapshot) : Prop :=
  NotBlank snapshot.decisionId ∧ NotBlank snapshot.runId ∧ NotBlank snapshot.entityId

theorem DecisionRuntimeSnapshotRepository.save_eq_ok {snapshot : DecisionRuntimeSnapshot} :
    DecisionRuntimeSnapshotRepository.save snapshot db = .ok db' ↔
      DecisionRuntimeSnapshotRepository.Checks snapshot ∧
        (∃ d ∈ db.decisions.get snapshot.decisionId, d.scope = (snapshot.runId, snapshot.entityId)) ∧
        ∃ snapshots, db.decisionRuntimeSnapshots.insert? snapshot = some snapshots ∧
          db' = { db with decisionRuntimeSnapshots := snapshots } := by
  rw [DecisionRuntimeSnapshotRepository.save, check_bind_eq_ok]
  cases db.decisionRuntimeSnapshots.insert? snapshot with
  | none => simp
  | some snapshots =>
    simp only [raiseIf_bind_eq_ok, Except.pure_eq_ok, Option.some.injEq, exists_eq_left']
    simp

/-! ## What the statements of a submission read -/

/-- Two databases agree, for a Decision id: the second has the runs of the first,
and the same rows of the id. -/
structure Agree (decisionId : String) (d d' : Database) : Prop where
  runs : ∀ r, d.runs.get r ≠ none → d'.runs.get r ≠ none
  decision : d'.decisions.get decisionId = d.decisions.get decisionId
  snapshot : d'.decisionRuntimeSnapshots.get decisionId = d.decisionRuntimeSnapshots.get decisionId

theorem agree_saveRun {decisionId : String} {run : RunMetadata} {d d' v : Database}
    (h : Agree decisionId d d') (hv : RunRepository.save run d = .ok v) :
    ∃ v', RunRepository.save run d' = .ok v' ∧ Agree decisionId v v' := by
  obtain ⟨hc, rfl⟩ := RunRepository.save_eq_ok.mp hv
  refine ⟨_, RunRepository.save_eq_ok.mpr ⟨hc, rfl⟩, ?_, h.decision, h.snapshot⟩
  intro r
  simp only [Table.get_upsert]
  split
  · simp
  · exact h.runs r

/-- Statements that write a table of rows owned by a run agree where their
databases do, when they leave the runs, Decisions and snapshots alone. -/
theorem agree_saveOwned {decisionId table runId : String} {checks : Prop} [Decidable checks]
    {upsert : Database → Database} (hr : ∀ d, (upsert d).runs = d.runs)
    (hd : ∀ d, (upsert d).decisions = d.decisions)
    (hs : ∀ d, (upsert d).decisionRuntimeSnapshots = d.decisionRuntimeSnapshots)
    {d d' v : Database} (h : Agree decisionId d d')
    (hv : saveOwned table checks runId upsert d = .ok v) :
    ∃ v', saveOwned table checks runId upsert d' = .ok v' ∧ Agree decisionId v v' := by
  obtain ⟨hc, hrun, rfl⟩ := saveOwned_eq_ok.mp hv
  refine ⟨_, saveOwned_eq_ok.mpr ⟨hc, h.runs _ hrun, rfl⟩, ?_, ?_, ?_⟩
  · rw [hr, hr]
    exact h.runs
  · rw [hd, hd]
    exact h.decision
  · rw [hs, hs]
    exact h.snapshot

theorem agree_saveDecision {decision : DecisionResult} {d d' v : Database}
    (h : Agree decision.decisionId d d') (hv : DecisionRepository.save decision d = .ok v) :
    ∃ v', DecisionRepository.save decision d' = .ok v' ∧ Agree decision.decisionId v v' := by
  obtain ⟨hc, hrun, ds, hi, rfl⟩ := DecisionRepository.save_eq_ok.mp hv
  have hnone : d'.decisions.get decision.decisionId = none := by
    rw [h.decision, Table.get_eq_none]
    exact (Table.insert?_eq_some.mp hi).1
  obtain ⟨ds', hi'⟩ := Table.exists_insert?_of_get hnone
  refine ⟨_, DecisionRepository.save_eq_ok.mpr ⟨hc, h.runs _ hrun, ds', hi', rfl⟩, h.runs, ?_,
    h.snapshot⟩
  rw [Table.get_insert? hi', Table.get_insert? hi]
  simp

theorem agree_saveSnapshot {snapshot : DecisionRuntimeSnapshot} {d d' v : Database}
    (h : Agree snapshot.decisionId d d')
    (hv : DecisionRuntimeSnapshotRepository.save snapshot d = .ok v) :
    ∃ v', DecisionRuntimeSnapshotRepository.save snapshot d' = .ok v' ∧
      Agree snapshot.decisionId v v' := by
  obtain ⟨hc, hd, ss, hi, rfl⟩ := DecisionRuntimeSnapshotRepository.save_eq_ok.mp hv
  have hnone : d'.decisionRuntimeSnapshots.get snapshot.decisionId = none := by
    rw [h.snapshot, Table.get_eq_none]
    exact (Table.insert?_eq_some.mp hi).1
  obtain ⟨ss', hi'⟩ := Table.exists_insert?_of_get hnone
  rw [← h.decision] at hd
  refine ⟨_, DecisionRuntimeSnapshotRepository.save_eq_ok.mpr ⟨hc, hd, ss', hi', rfl⟩, h.runs,
    h.decision, ?_⟩
  rw [Table.get_insert? hi', Table.get_insert? hi]
  simp

/-! ## The current head -/

/-- The Decisions of a scope form a chain in the order of their rows. -/
abbrev Chained (db : Database) : Prop :=
  ∀ runId entityId, Linked DecisionResult.decisionId DecisionResult.supersedesDecisionId
    (db.scopeDecisions runId entityId)

theorem scopeDecisions_nodup (db : Database) (runId entityId : String) :
    ((db.scopeDecisions runId entityId).map DecisionResult.decisionId).Nodup :=
  db.decisions.key_nodup.sublist (List.filter_sublist.map _)

/-- The head of a chained scope is its last Decision. -/
theorem getCurrentHead_of_linked {runId entityId : String}
    (h : Linked DecisionResult.decisionId DecisionResult.supersedesDecisionId
      (db.scopeDecisions runId entityId)) :
    db.getCurrentHead runId entityId = .ok (db.scopeDecisions runId entityId).getLast? := by
  have hheads : db.currentDecisionHeads runId entityId =
      (db.scopeDecisions runId entityId).getLast?.toList := by
    rw [Database.currentDecisionHeads, h.heads_eq (scopeDecisions_nodup db runId entityId)]
    cases (db.scopeDecisions runId entityId).getLast? <;> rfl
  rw [Database.getCurrentHead, hheads]
  cases hl : (db.scopeDecisions runId entityId).getLast? with
  | none =>
    rw [List.getLast?_eq_none_iff] at hl
    simp [hl]
  | some d => rfl

theorem mem_scopeDecisions {runId entityId : String} {d : DecisionResult} :
    d ∈ db.scopeDecisions runId entityId ↔ d ∈ db.decisions ∧ d.scope = (runId, entityId) := by
  simp [Database.scopeDecisions, Table.mem_def]

/-- The scope after an insert. -/
theorem scopeDecisions_insert? {decision : DecisionResult}
    {decisions : Table (SameKey DecisionResult.decisionId)}
    (h : db.decisions.insert? decision = some decisions) (hdb : db'.decisions = decisions)
    (runId entityId : String) :
    db'.scopeDecisions runId entityId = db.scopeDecisions runId entityId ++
      if decision.scope = (runId, entityId) then [decision] else [] := by
  rw [Database.scopeDecisions, hdb, (Table.insert?_eq_some.mp h).2, List.filter_append]
  simp [Database.scopeDecisions, List.filter_cons]

end IncidentAwareness.Persistence
