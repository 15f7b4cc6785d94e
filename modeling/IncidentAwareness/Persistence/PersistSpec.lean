import IncidentAwareness.Lib.Interleaving
import IncidentAwareness.Persistence.DatabaseSpec
import IncidentAwareness.Persistence.Persist

/-!
# What persisting does

* `statements_eq_ok`: the tables after the writes of a submission;
* `atomically_eq_ok`: a submission run alone either finds its Decision stored and
  writes nothing, or adds it behind the current head of its scope;
* `safe_persist`: the proof rule of `_persist` among other transactions. Under the
  locks of its Decision id and scope, what it has read stays true until it
  commits, whatever the caller does next.
-/

namespace IncidentAwareness.Persistence

open IncidentAwareness.Common IncidentAwareness.Lib Txn Spec

/-! ## The writes -/

/-- A write of rows that belong to a run, beside the runs, Decisions and snapshots. -/
def IsOwned (w : Statement) : Prop :=
  ∃ (table runId : String) (checks : Prop) (_ : Decidable checks) (upsert : Database → Database),
    w = saveOwned table checks runId upsert ∧ (∀ d, (upsert d).runs = d.runs) ∧
      (∀ d, (upsert d).decisions = d.decisions) ∧
      ∀ d, (upsert d).decisionRuntimeSnapshots = d.decisionRuntimeSnapshots

/-- The writes before the Decision are the run and rows that belong to it. -/
theorem mem_detailStatements {s : Submission} {saveRun : Bool} {w : Statement}
    (h : w ∈ s.detailStatements saveRun) : w = RunRepository.save s.runMetadata ∨ IsOwned w := by
  simp only [Submission.detailStatements, List.mem_append, List.mem_map, List.mem_cons,
    List.not_mem_nil, or_false] at h
  rcases h with (h | ⟨e, -, rfl⟩) | rfl | rfl | rfl | rfl
  · split at h
    · exact .inl (List.mem_singleton.mp h)
    · simp at h
  all_goals exact .inr ⟨_, _, _, _, _, rfl, fun _ => rfl, fun _ => rfl, fun _ => rfl⟩

/-- What the writes before the Decision keep. -/
structure KeepsDecisions (d d' : Database) : Prop where
  runs : ∀ r, d.runs.get r ≠ none → d'.runs.get r ≠ none
  decisions : d'.decisions = d.decisions
  snapshots : d'.decisionRuntimeSnapshots = d.decisionRuntimeSnapshots

theorem detailStatements_keeps {s : Submission} {saveRun : Bool} {d d' : Database}
    (h : execWrites (s.detailStatements saveRun) d = .ok d') : KeepsDecisions d d' := by
  refine execWrites_rel (R := KeepsDecisions) (fun _ => ⟨fun _ h => h, rfl, rfl⟩) ?_ ?_ h
  · intro d d₁ d₂ h₁ h₂
    exact ⟨fun r hr => h₂.runs r (h₁.runs r hr), h₂.decisions.trans h₁.decisions,
      h₂.snapshots.trans h₁.snapshots⟩
  · intro w hw d d' hd
    rcases mem_detailStatements hw with rfl | ⟨_, _, _, _, upsert, rfl, hr, hdec, hs⟩
    · obtain ⟨-, rfl⟩ := RunRepository.save_eq_ok.mp hd
      refine ⟨fun r hr => ?_, rfl, rfl⟩
      rw [Table.get_upsert]
      split
      · simp
      · exact hr
    · obtain ⟨-, -, rfl⟩ := saveOwned_eq_ok.mp hd
      exact ⟨fun r h => by rwa [hr], hdec d, hs d⟩

/-- The tables after the writes of a submission: its Decision and its snapshot are
new. -/
theorem statements_eq_ok {s : Submission} {saveRun : Bool} {snapshot : DecisionRuntimeSnapshot}
    {d d' : Database} (h : execWrites (s.statements saveRun snapshot) d = .ok d') :
    (∀ r, d.runs.get r ≠ none → d'.runs.get r ≠ none) ∧
      d.decisions.insert? s.decisionResult = some d'.decisions ∧
      d.decisionRuntimeSnapshots.insert? snapshot = some d'.decisionRuntimeSnapshots := by
  obtain ⟨d₁, hdetail, h⟩ := execWrites_append_eq_ok.mp h
  obtain ⟨d₂, hdec, h⟩ := execWrites_cons_eq_ok.mp h
  obtain ⟨d₃, hsnap, h⟩ := execWrites_cons_eq_ok.mp h
  have hk := detailStatements_keeps hdetail
  obtain ⟨-, -, ds, hds, rfl⟩ := DecisionRepository.save_eq_ok.mp hdec
  obtain ⟨-, -, ss, hss, rfl⟩ := DecisionRuntimeSnapshotRepository.save_eq_ok.mp hsnap
  obtain rfl := Except.ok.inj h
  rw [hk.decisions] at hds
  rw [show _ = d₁.decisionRuntimeSnapshots from rfl, hk.snapshots] at hss
  exact ⟨hk.runs, hds, hss⟩

/-- Where two databases agree, the writes of a submission succeed on both. -/
theorem agree_statements {s : Submission} {saveRun : Bool} {snapshot : DecisionRuntimeSnapshot}
    (hsnap : snapshot.decisionId = s.decisionResult.decisionId) {w : Statement}
    (hw : w ∈ s.statements saveRun snapshot) {d d' v : Database}
    (h : Agree s.decisionResult.decisionId d d') (hv : w d = .ok v) :
    ∃ v', w d' = .ok v' ∧ Agree s.decisionResult.decisionId v v' := by
  rcases List.mem_append.mp hw with hw | hw
  · rcases mem_detailStatements hw with rfl | ⟨_, _, _, _, _, rfl, hr, hd, hs⟩
    · exact agree_saveRun h hv
    · exact agree_saveOwned hr hd hs h hv
  · simp only [List.mem_cons, List.not_mem_nil, or_false] at hw
    rcases hw with rfl | rfl
    · exact agree_saveDecision h hv
    · rw [← hsnap] at h ⊢
      exact agree_saveSnapshot h hv

/-! ## A submission alone -/

/-- `_persist` with nothing in between. -/
def Submission.atomically (s : Submission) (saveRun : Bool) (db : Database) :
    Except PersistenceError Database :=
  (persistLocked s saveRun .commit).exec db

/-- A submission whose Decision is new: its id is free, its expected head is the
current one, and its snapshot is consistent. -/
structure Fresh (s : Submission) (snapshot : DecisionRuntimeSnapshot) (d : Database) : Prop where
  id_free : d.decisions.get s.decisionResult.decisionId = none
  head : ∃ head, d.getCurrentHead s.decisionResult.runId s.decisionResult.entityId = .ok head ∧
    head.map (·.decisionId) = s.decisionResult.supersedesDecisionId
  snapshot_ok : s.runtimeSnapshot = .ok snapshot

theorem Fresh.snapshot_decisionId {s : Submission} {snapshot : DecisionRuntimeSnapshot}
    {d : Database} (h : Fresh s snapshot d) :
    snapshot.decisionId = s.decisionResult.decisionId := by
  rw [buildDecisionRuntimeSnapshot_eq_ok h.snapshot_ok]

theorem persistExisting_self (s : Submission) (next : Transaction) :
    persistExisting s s.decisionResult next = next := by
  have hv : validateExistingDecisionScope s.decisionResult s.decisionResult.runId
      s.decisionResult.entityId = .ok () := raiseIf_of_not (by simp)
  rw [persistExisting, hv]
  simp

/-- Another Decision under the id is an error. -/
theorem persistExisting_of_ne {s : Submission} {existing : DecisionResult}
    (h : existing ≠ s.decisionResult) (next : Transaction) :
    ∃ e, persistExisting s existing next = .raise e := by
  rw [persistExisting]
  split
  · next e _ => exact ⟨e, rfl⟩
  · exact ⟨_, if_neg h⟩

/-- Behind the head that was read, `_persist` raises or writes a submission whose
expected head it is. -/
theorem persistBehind_cases (s : Submission) (saveRun : Bool)
    (head : Except PersistenceError (Option DecisionResult)) :
    (∃ e, ∀ next, persistBehind s saveRun next head = .raise e) ∨
      ∃ currentHead snapshot, head = .ok currentHead ∧
        currentHead.map (·.decisionId) = s.decisionResult.supersedesDecisionId ∧
        s.runtimeSnapshot = .ok snapshot ∧
        ∀ next, persistBehind s saveRun next head = .writes (s.statements saveRun snapshot) next := by
  cases head with
  | error e => exact .inl ⟨e, fun _ => rfl⟩
  | ok currentHead =>
    by_cases hh : currentHead.map (·.decisionId) = s.decisionResult.supersedesDecisionId
    · cases hs : s.runtimeSnapshot with
      | error e => exact .inl ⟨e, fun next => by simp [persistBehind, hh, hs]⟩
      | ok snapshot =>
        refine .inr ⟨currentHead, snapshot, rfl, hh, rfl, fun next => ?_⟩
        simp [persistBehind, hh, hs]
    · exact .inl ⟨_, fun next => by simp only [persistBehind]; exact if_pos hh⟩

/-- A submission alone: its Decision is stored already and nothing is written, or
it is fresh and its writes are made. -/
theorem atomically_eq_ok {s : Submission} {saveRun : Bool} {db db' : Database} :
    s.atomically saveRun db = .ok db' ↔
      (db.decisions.get s.decisionResult.decisionId = some s.decisionResult ∧ db' = db) ∨
        ∃ snapshot, Fresh s snapshot db ∧ execWrites (s.statements saveRun snapshot) db = .ok db' := by
  have hexec : s.atomically saveRun db =
      exec (persistFound s saveRun .commit (db.decisions.get s.decisionResult.decisionId)) db := rfl
  rw [hexec]
  cases hget : db.decisions.get s.decisionResult.decisionId with
  | some existing =>
    have hnot : ∀ snapshot, ¬ Fresh s snapshot db := fun snapshot hf => by
      have := hf.id_free
      rw [hget] at this
      cases this
    by_cases he : existing = s.decisionResult
    · rw [he, persistFound, persistExisting_self]
      simp only [exec, true_and, hnot, false_and, exists_false, or_false]
      exact ⟨fun h => (Except.ok.inj h).symm, fun h => congrArg _ h.symm⟩
    · obtain ⟨e, hr⟩ := persistExisting_of_ne he .commit
      simp [persistFound, hr, exec, hnot, he]
  | none =>
    have hread : exec (persistFound s saveRun .commit none) db = exec (persistBehind s saveRun .commit
        (db.getCurrentHead s.decisionResult.runId s.decisionResult.entityId)) db := rfl
    simp only [hread, reduceCtorEq, false_and, false_or]
    rcases persistBehind_cases s saveRun
        (db.getCurrentHead s.decisionResult.runId s.decisionResult.entityId) with
      ⟨e, hr⟩ | ⟨head, snapshot, hhead, hmap, hsnap, hw⟩
    · rw [hr]
      refine ⟨fun h => (nomatch h), ?_⟩
      rintro ⟨snapshot, ⟨-, ⟨head, hhead, hmap⟩, hsnap⟩, -⟩
      have := hr .commit
      rw [hhead] at this
      simp only [persistBehind, hmap, hsnap, ne_eq, not_true_eq_false, if_false] at this
      cases hst : s.statements saveRun snapshot with
      | nil => simp [Submission.statements] at hst
      | cons w ws =>
        rw [hst] at this
        cases this
    · rw [hw, exec_writes]
      constructor
      · intro h
        obtain ⟨d, hd, hc⟩ := Except.bind_eq_ok.mp h
        obtain rfl := Except.ok.inj hc
        exact ⟨snapshot, ⟨hget, ⟨head, hhead, hmap⟩, hsnap⟩, hd⟩
      · rintro ⟨snapshot', hf, hd⟩
        obtain rfl : snapshot = snapshot' := Except.ok.inj (hsnap.symm.trans hf.snapshot_ok)
        rw [hd]
        rfl

/-! ## A submission among other transactions -/

variable {hashtext : String → Int}

/-- What a commit under some locks keeps: the runs, every stored Decision, and all
of the ids and scopes whose locks it does not hold. -/
structure Keeps (hashtext : String → Int) (held : Set AdvisoryLock) (d d' : Database) : Prop where
  runs : ∀ r, d.runs.get r ≠ none → d'.runs.get r ≠ none
  stored : ∀ x ∈ d.decisions, x ∈ d'.decisions
  decision : ∀ id, decisionIdLock hashtext id ∉ held → d'.decisions.get id = d.decisions.get id
  snapshot : ∀ id, decisionIdLock hashtext id ∉ held →
    d'.decisionRuntimeSnapshots.get id = d.decisionRuntimeSnapshots.get id
  scope : ∀ r e, decisionScopeLock hashtext r e ∉ held →
    d'.scopeDecisions r e = d.scopeDecisions r e

theorem Keeps.refl (held : Set AdvisoryLock) (d : Database) : Keeps hashtext held d d :=
  ⟨fun _ h => h, fun _ h => h, fun _ _ => rfl, fun _ _ => rfl, fun _ _ _ => rfl⟩

variable (hashtext) in
/-- The locks of `_persist`, beside those held before. -/
def persistLocks (s : Submission) (held : Set AdvisoryLock) : Set AdvisoryLock :=
  insert (decisionScopeLock hashtext s.decisionResult.runId s.decisionResult.entityId)
    (insert (decisionIdLock hashtext s.decisionResult.decisionId) held)

/-- The writes of a fresh submission keep what other transactions rely on. -/
theorem keeps_statements {s : Submission} {saveRun : Bool} {snapshot : DecisionRuntimeSnapshot}
    {held : Set AdvisoryLock} {d d' : Database} (hf : Fresh s snapshot d)
    (h : execWrites (s.statements saveRun snapshot) d = .ok d') :
    Keeps hashtext (persistLocks hashtext s held) d d' := by
  obtain ⟨hruns, hd, hs⟩ := statements_eq_ok h
  refine ⟨hruns, fun x hx => (Table.mem_of_insert? hd).mpr (.inl hx), ?_, ?_, ?_⟩
  · intro id hid
    rw [Table.get_insert? hd, if_neg]
    rintro rfl
    exact hid (.inr (.inl rfl))
  · intro id hid
    rw [Table.get_insert? hs, if_neg]
    rintro rfl
    rw [hf.snapshot_decisionId] at hid
    exact hid (.inr (.inl rfl))
  · intro r e hre
    rw [scopeDecisions_insert? hd rfl, if_neg, List.append_nil]
    intro hscope
    obtain ⟨rfl, rfl⟩ := Prod.mk.inj hscope
    exact hre (.inl rfl)

/-- The writes of a fresh submission keep every scope a chain: its own gains a
head. -/
theorem chained_statements {s : Submission} {saveRun : Bool} {snapshot : DecisionRuntimeSnapshot}
    {d d' : Database} (hc : Chained d) (hf : Fresh s snapshot d)
    (h : execWrites (s.statements saveRun snapshot) d = .ok d') : Chained d' := by
  obtain ⟨-, hd, -⟩ := statements_eq_ok h
  intro r e
  rw [scopeDecisions_insert? hd rfl]
  split
  · next hscope =>
    obtain ⟨rfl, rfl⟩ := Prod.mk.inj hscope
    refine linked_append_singleton.mpr ⟨hc _ _, ?_⟩
    obtain ⟨head, hhead, hmap⟩ := hf.head
    rw [getCurrentHead_of_linked (hc _ _)] at hhead
    rw [← hmap, ← Except.ok.inj hhead]
  · rw [List.append_nil]
    exact hc r e

theorem atomically_chained {s : Submission} {saveRun : Bool} {d d' : Database} (hc : Chained d)
    (h : s.atomically saveRun d = .ok d') : Chained d' := by
  rcases atomically_eq_ok.mp h with ⟨-, rfl⟩ | ⟨snapshot, hf, hd⟩
  · exact hc
  · exact chained_statements hc hf hd

/-! ## The proof rule of `_persist` -/

section Rule

variable {α : Type} {S : Spec α AdvisoryLock Database PersistenceError} {held : Set AdvisoryLock}
  {d d' : Database} (hkeeps : ∀ held d d', S.guarantee held d d' → Keeps hashtext held d d')
include hkeeps

/-- The others leave the rows of a locked Decision id alone. -/
theorem agree_of_interferes {id : String} (hl : decisionIdLock hashtext id ∈ held)
    (hi : S.Interferes held d d') : Agree id d d' := by
  refine rel_of_interferes (R := Agree id) (fun _ => ⟨fun _ h => h, rfl, rfl⟩) ?_ ?_ hi
  · intro d d₁ d₂ h₁ h₂
    exact ⟨fun r hr => h₂.runs r (h₁.runs r hr), h₂.decision.trans h₁.decision,
      h₂.snapshot.trans h₁.snapshot⟩
  · intro d d' held' hdis hg
    have hk := hkeeps held' d d' hg
    have hl' := Set.disjoint_left.mp hdis hl
    exact ⟨hk.runs, hk.decision id hl', hk.snapshot id hl'⟩

/-- The others leave a locked scope alone. -/
theorem scope_of_interferes {r e : String} (hl : decisionScopeLock hashtext r e ∈ held)
    (hi : S.Interferes held d d') : d'.scopeDecisions r e = d.scopeDecisions r e := by
  refine rel_of_interferes (R := fun d d' => d'.scopeDecisions r e = d.scopeDecisions r e)
    (fun _ => rfl) ?_ ?_ hi
  · intro d d₁ d₂ h₁ h₂
    exact h₂.trans h₁
  intro d d' held' hdis hg
  exact (hkeeps held' d d' hg).scope r e (Set.disjoint_left.mp hdis hl)

theorem stable_decision {id : String} (hl : decisionIdLock hashtext id ∈ held)
    (x : Option DecisionResult) : S.Stable held fun d => d.decisions.get id = x :=
  fun _ _ hd hi => (agree_of_interferes hkeeps hl hi).decision.trans hd

theorem stable_head {r e : String} (hl : decisionScopeLock hashtext r e ∈ held)
    (x : Except PersistenceError (Option DecisionResult)) :
    S.Stable held fun d => d.getCurrentHead r e = x := by
  intro d d' hd hi
  have hs := scope_of_interferes hkeeps hl hi
  rw [← hd]
  simp only [Database.getCurrentHead, Database.currentDecisionHeads, hs]

variable {s : Submission} {saveRun : Bool} {snapshot : DecisionRuntimeSnapshot}

/-- Under the locks of a submission it stays fresh, and the writes it has made
would succeed again. -/
theorem stable_fresh {ws : List Statement} (hws : ws <+: s.statements saveRun snapshot) :
    S.Stable (persistLocks hashtext s held) fun d =>
      Fresh s snapshot d ∧ ∃ v, execWrites ws d = .ok v := by
  have hid : decisionIdLock hashtext s.decisionResult.decisionId ∈ persistLocks hashtext s held :=
    .inr (.inl rfl)
  rintro d d' ⟨hf, v, hv⟩ hi
  obtain ⟨head, hhead, hmap⟩ := hf.head
  have hagree := agree_of_interferes hkeeps hid hi
  have hhead' := stable_head hkeeps (.inl rfl) _ d d' hhead hi
  refine ⟨⟨hagree.decision.trans hf.id_free, ⟨head, hhead', hmap⟩, hf.snapshot_ok⟩, ?_⟩
  obtain ⟨v', hv', -⟩ := execWrites_congr (R := Agree s.decisionResult.decisionId)
    (fun w hw _ _ _ h hw' => agree_statements hf.snapshot_decisionId (hws.subset hw) h hw') hagree hv
  exact ⟨v', hv'⟩

variable {a : α} {next : Transaction} {K : Database → Prop}

/-- **The rule of `_persist`.** It raises only where its Decision is not stored.
What the caller does next starts either where the Decision is stored and nothing
is written, or behind the writes of a fresh submission. `K` is what the caller
knew before. -/
theorem safe_persist (hK : S.Stable held K)
    (hraise : ∀ d e, S.inv d → K d →
      d.decisions.get s.decisionResult.decisionId ≠ some s.decisionResult → S.raises a d e)
    (hreplay : ∀ d, S.inv d → K d →
      d.decisions.get s.decisionResult.decisionId = some s.decisionResult →
      S.proviso (persistLocked s saveRun next) d →
      S.Safe a next (persistLocks hashtext s held) [] d)
    (hfresh : ∀ snapshot d, S.inv d → K d → Fresh s snapshot d →
      execWrites (s.statements saveRun snapshot) d = .ok (view (s.statements saveRun snapshot) d) →
      S.Safe a next (persistLocks hashtext s held) (s.statements saveRun snapshot) d) :
    ∀ d, S.inv d ∧ K d → S.Safe a (persist hashtext s saveRun next) held [] d := by
  have hsub : held ⊆ persistLocks hashtext s held := fun _ h => .inr (.inr h)
  have hid : decisionIdLock hashtext s.decisionResult.decisionId ∈ persistLocks hashtext s held :=
    .inr (.inl rfl)
  have hbase : S.Stable held fun d => S.inv d ∧ K d := stable_inv.and hK
  have hlocked := hbase.mono hsub
  have herror : ∀ (x : Option DecisionResult) (e : PersistenceError), x ≠ some s.decisionResult →
      ∀ d, (S.inv d ∧ K d) ∧ d.decisions.get s.decisionResult.decisionId = x →
        S.Safe a (.raise e) (persistLocks hashtext s held) [] d := by
    intro x e hx
    refine Safe.raise (hlocked.and (stable_decision hkeeps hid x)) fun d hd => ?_
    exact hraise d e hd.1.1 hd.1.2 (by rw [hd.2]; exact hx)
  refine Safe.lock hbase (Safe.lock (hbase.mono (Set.subset_insert _ _)) ?_)
  refine Safe.read hlocked fun d hd hp => ?_
  rw [view_nil] at hp ⊢
  cases hget : d.decisions.get s.decisionResult.decisionId with
  | some existing =>
    rw [persistFound]
    by_cases he : existing = s.decisionResult
    · rw [he, persistExisting_self]
      exact hreplay d hd.1 hd.2 (by rw [hget, he]) hp
    · obtain ⟨e, hr⟩ := persistExisting_of_ne he next
      rw [hr]
      exact herror (some existing) e (fun h => he (Option.some.inj h)) d ⟨hd, hget⟩
  | none =>
    have hfree := hlocked.and (stable_decision hkeeps hid none)
    refine Safe.read hfree (fun d hd _ => ?_) d ⟨hd, hget⟩
    rw [view_nil]
    rcases persistBehind_cases s saveRun
        (d.getCurrentHead s.decisionResult.runId s.decisionResult.entityId) with
      ⟨e, hr⟩ | ⟨head, snapshot, hhead, hmap, hsnap, hw⟩
    · rw [hr]
      exact herror none e (by simp) d hd
    · rw [hw]
      have hfr : Fresh s snapshot d := ⟨hd.2, ⟨head, hhead, hmap⟩, hsnap⟩
      have hst : ∀ ws, ws <+: s.statements saveRun snapshot →
          S.Stable (persistLocks hashtext s held) fun d =>
            ((S.inv d ∧ K d) ∧ Fresh s snapshot d) ∧ ∃ v, execWrites ws d = .ok v := by
        intro ws hws d d' hd hi
        have h := stable_fresh hkeeps hws d d' ⟨hd.1.2, hd.2⟩ hi
        exact ⟨⟨hlocked d d' hd.1.1 hi, h.1⟩, h.2⟩
      refine Safe.writes (P := fun d => (S.inv d ∧ K d) ∧ Fresh s snapshot d) ?_ _ ?_ ?_ ?_ d
        ⟨⟨hd.1, hfr⟩, d, rfl⟩
      · exact fun d d' hd hi => (hst [] (List.nil_prefix ..) d d' ⟨hd, d, rfl⟩ hi).1
      · exact fun ws' w hw => hst _ hw
      · intro d e hd
        exact hraise d e hd.1.1 hd.1.2 (by rw [hd.2.id_free]; simp)
      · intro d hd hex
        exact hfresh snapshot d hd.1.1 hd.1.2 hd.2 hex

end Rule

end IncidentAwareness.Persistence
