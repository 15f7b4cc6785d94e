import IncidentAwareness.Persistence.PersistSpec

/-!
# The Decision lifecycle

Persistence calls by any number of sessions, in any interleaving, on tables that
hold no Decision at first. The spec of a call: it raises only where its Decision
is not stored (or for its own contracts), and its commit does what the submission
does alone (`lifecycleSpec`, `safe_transaction`). So the tables are at any time
those of the committed calls one after the other (`persisted_serial`), and the
lifecycle results follow from one submission alone.
-/

namespace IncidentAwareness.Persistence

open IncidentAwareness.Common IncidentAwareness.Lib Txn Spec

variable (hashtext : String → Int)

/-- The errors of a call that come before it looks at the Decisions. -/
def PersistenceCall.Refuses (c : PersistenceCall) (e : PersistenceError) : Prop :=
  c.submission.validateResultScope = .error e ∨
    ∃ text quoted, e = .r1RunRegistrationError text quoted

/-- What persistence calls promise. -/
def lifecycleSpec : Spec PersistenceCall AdvisoryLock Database PersistenceError where
  inv := Chained
  guarantee := Keeps hashtext
  raises c d e := c.Refuses e ∨
    d.decisions.get c.submission.decisionResult.decisionId ≠ some c.submission.decisionResult
  commits c d d' := c.submission.atomically c.saveRun d = .ok d'
  proviso _ _ := True

/-- `_persist`, committed at its end, keeps the spec of its call. -/
theorem safe_persist_commit (c : PersistenceCall) {held : Set AdvisoryLock} {d : Database}
    (hd : Chained d) : (lifecycleSpec hashtext).Safe c
      (persist hashtext c.submission c.saveRun .commit) held [] d := by
  have hkeeps : ∀ held d d', (lifecycleSpec hashtext).guarantee held d d' →
      Keeps hashtext held d d' := fun _ _ _ h => h
  have hid : decisionIdLock hashtext c.submission.decisionResult.decisionId ∈
      persistLocks hashtext c.submission held := .inr (.inl rfl)
  refine safe_persist hkeeps (K := fun _ => True) (fun _ _ _ _ => trivial) ?_ ?_ ?_ d ⟨hd, trivial⟩
  · exact fun d e _ _ hne => .inr hne
  · intro d hd _ hget _
    refine Safe.commit (stable_inv.and (stable_decision hkeeps hid _)) ?_ d ⟨hd, hget⟩
    rintro d ⟨hd, hget⟩
    exact ⟨hd, Keeps.refl _ d, atomically_eq_ok.mpr (.inl ⟨hget, rfl⟩)⟩
  · intro snapshot d hd _ hf hex
    refine Safe.commit (stable_inv.and (stable_fresh hkeeps (List.prefix_refl _))) ?_ d
      ⟨hd, hf, _, hex⟩
    rintro d ⟨hd, hf, v, hv⟩
    rw [view_eq_of_execWrites hv]
    exact ⟨chained_statements hd hf hv, keeps_statements hf hv,
      atomically_eq_ok.mpr (.inr ⟨snapshot, hf, hv⟩)⟩

/-- Every persistence call is safe. -/
theorem safe_transaction (c : PersistenceCall) (d : Database) (hd : Chained d) :
    (lifecycleSpec hashtext).Safe c (c.transaction hashtext) ∅ [] d := by
  have hraise : ∀ e, c.Refuses e → ∀ d, (lifecycleSpec hashtext).Safe c (.raise e) ∅ [] d :=
    fun e he d d' _ => .inl he
  have hvalidated : ∀ d, Chained d → (lifecycleSpec hashtext).Safe c
      (validated c.submission (persist hashtext c.submission c.saveRun .commit)) ∅ [] d := by
    intro d hd
    rw [validated]
    split
    · next e he => exact hraise e (.inl he) d
    · exact safe_persist_commit hashtext c hd
  cases c with
  | s0 s => exact hvalidated d hd
  | r1 s =>
    refine Safe.read stable_inv (fun d hd _ => ?_) d hd
    rw [view_nil]
    cases hreg : requireRegisteredR1Run d s.runMetadata with
    | ok u => exact hvalidated d hd
    | error e =>
      refine hraise e (.inr ?_) d
      rw [requireRegisteredR1Run] at hreg
      split at hreg
      · exact ⟨_, _, (Except.error.inj hreg).symm⟩
      · rw [raiseIf] at hreg
        split at hreg
        · exact ⟨_, _, (Except.error.inj hreg).symm⟩
        · cases hreg

/-! ## Runs -/

variable {ι : Type} [DecidableEq ι]

/-- A system of sessions that make persistence calls. -/
abbrev PersistenceSystem (ι : Type) :=
  TxnSystem ι PersistenceCall AdvisoryLock Database PersistenceError

/-- One step of a session. -/
abbrev persistenceStep (s : PersistenceSystem ι) (x : ι × Action PersistenceCall) :
    PersistenceSystem ι × Response PersistenceCall PersistenceError :=
  s.step (PersistenceCall.transaction hashtext) x

/-- The system after a run on tables without Decisions. -/
abbrev persistedAfter (db : Database) (xs : List (ι × Action PersistenceCall)) :
    PersistenceSystem ι :=
  after (persistenceStep hashtext) (.initial db.withoutDecisions) xs

theorem chained_withoutDecisions (db : Database) : Chained db.withoutDecisions :=
  fun _ _ => linked_nil

/-- The tables after any interleaving are those of the committed submissions, each
alone, in the order of their commits. -/
theorem persisted_serial (db : Database) (xs : List (ι × Action PersistenceCall)) :
    Sound (lifecycleSpec hashtext) (persistedAfter hashtext db xs) ∧
      Serial (fun c d d' => c.submission.atomically c.saveRun d = .ok d') db.withoutDecisions
        (commitsOf (trace (persistenceStep hashtext) (.initial db.withoutDecisions) xs))
        (persistedAfter hashtext db xs).db :=
  run_serial (fun c d hd => safe_transaction hashtext c d hd) (chained_withoutDecisions db)
    fun _ _ _ _ _ _ _ => trivial

/-- A submission alone never loses a stored Decision. -/
theorem mem_of_atomically {s : Submission} {saveRun : Bool} {d d' : Database}
    (h : s.atomically saveRun d = .ok d') {x : DecisionResult} (hx : x ∈ d.decisions) :
    x ∈ d'.decisions := by
  rcases atomically_eq_ok.mp h with ⟨-, rfl⟩ | ⟨snapshot, hf, hd⟩
  · exact hx
  · have hk : Keeps (fun _ => 0) (persistLocks _ s ∅) d d' := keeps_statements hf hd
    exact hk.stored x hx

/-- No step loses a stored Decision. -/
theorem mem_decisions_step {s : PersistenceSystem ι} (hs : Sound (lifecycleSpec hashtext) s)
    (y : ι × Action PersistenceCall) {x : DecisionResult} (hx : x ∈ s.db.decisions) :
    x ∈ (persistenceStep hashtext s y).1.db.decisions := by
  cases hr : (persistenceStep hashtext s y).2.committed? with
  | none =>
    rw [step_db y fun c hc => by rw [persistenceStep, hc] at hr; cases hr]
    exact hx
  | some c =>
    have hc : (persistenceStep hashtext s y).2 = .committed c := by
      revert hr
      cases (persistenceStep hashtext s y).2 <;> simp [Response.committed?]
    exact mem_of_atomically (step_committed hs hc) hx

/-- The tables a state holds, and what any session's next step can do to them. -/
structure LifecycleLaw (s : PersistenceSystem ι) : Prop where
  /-- The Decisions of a scope form one chain. -/
  chain : ∀ runId entityId, IsLinearChain DecisionResult.decisionId
    DecisionResult.supersedesDecisionId {d | d ∈ s.db.scopeDecisions runId entityId}
  /-- The head query finds the one head, and none on an empty scope only. -/
  head : ∀ runId entityId, ∃ head, s.db.getCurrentHead runId entityId = .ok head ∧
    (head = none ↔ s.db.scopeDecisions runId entityId = []) ∧
    ∀ d ∈ head, d ∈ s.db.scopeDecisions runId entityId ∧
      ∀ x ∈ s.db.scopeDecisions runId entityId, x.supersedesDecisionId ≠ some d.decisionId
  /-- A step that does not commit (one that raises or rolls back too) changes no table. -/
  uncommitted : ∀ x, (∀ c, (persistenceStep hashtext s x).2 ≠ .committed c) →
    (persistenceStep hashtext s x).1.db = s.db
  /-- A commit finds its Decision stored and changes no table, or the head it
  expects, behind which its Decision goes. -/
  committed : ∀ x c, (persistenceStep hashtext s x).2 = .committed c →
    (c.submission.decisionResult ∈ s.db.decisions ∧ (persistenceStep hashtext s x).1.db = s.db) ∨
      ∃ head, s.db.getCurrentHead c.submission.decisionResult.runId
          c.submission.decisionResult.entityId = .ok head ∧
        head.map (·.decisionId) = c.submission.decisionResult.supersedesDecisionId ∧
        s.db.decisions.insert? c.submission.decisionResult =
          some (persistenceStep hashtext s x).1.db.decisions
  /-- A call whose Decision is stored raises at its own contracts only. -/
  resubmitted : ∀ x c e, c.submission.decisionResult ∈ s.db.decisions →
    (persistenceStep hashtext s x).2 = .raised c e → c.Refuses e

theorem lifecycleLaw_of_sound {s : PersistenceSystem ι}
    (hs : Sound (lifecycleSpec hashtext) s) : LifecycleLaw hashtext s where
  chain r e := (hs.inv r e).isLinearChain (scopeDecisions_nodup s.db r e)
  head r e := by
    refine ⟨_, getCurrentHead_of_linked (hs.inv r e), List.getLast?_eq_none_iff, fun d hd => ?_⟩
    have hmem : d ∈ (s.db.scopeDecisions r e).getLast?.toList := Option.mem_toList.mpr hd
    rw [← (hs.inv r e).heads_eq (scopeDecisions_nodup s.db r e), List.mem_filter] at hmem
    exact ⟨hmem.1, of_decide_eq_true hmem.2⟩
  uncommitted x hx := step_db x hx
  committed x c hc := by
    rcases atomically_eq_ok.mp (step_committed hs hc) with ⟨hget, hdb⟩ | ⟨snapshot, hf, hd⟩
    · exact .inl ⟨(Table.get_eq_some.mp hget).1, hdb⟩
    · obtain ⟨head, hhead, hmap⟩ := hf.head
      exact .inr ⟨head, hhead, hmap, (statements_eq_ok hd).2.1⟩
  resubmitted x c e hmem hr := by
    rcases step_raised hs hr with he | hne
    · exact he
    · exact absurd (Table.get_of_mem hmem) hne

/-- **The Decision lifecycle.** After any interleaving of persistence calls the
Decisions of every scope form one chain whose head the head query finds; only a
commit changes a table, a commit finds the head it expects, and a Decision once
stored stays, so that submitting it again at any later time changes nothing. -/
theorem decisionLifecycle (db : Database) (xs : List (ι × Action PersistenceCall)) :
    LifecycleLaw hashtext (persistedAfter hashtext db xs) ∧
      ∀ d ∈ (persistedAfter hashtext db xs).db.decisions, ∀ ys,
        let s := persistedAfter hashtext db (xs ++ ys)
        d ∈ s.db.decisions ∧ ∀ x c, c.submission.decisionResult = d →
          (persistenceStep hashtext s x).2 = .committed c →
          (persistenceStep hashtext s x).1.db = s.db := by
  refine ⟨lifecycleLaw_of_sound hashtext (persisted_serial hashtext db xs).1, fun d hd ys => ?_⟩
  have hsound := (persisted_serial hashtext db (xs ++ ys)).1
  have hmem : d ∈ (persistedAfter hashtext db (xs ++ ys)).db.decisions := by
    rw [persistedAfter, after_append]
    have hkeep : ∀ (s : PersistenceSystem ι) y, (Sound (lifecycleSpec hashtext) s ∧ d ∈ s.db.decisions) →
        Sound (lifecycleSpec hashtext) (persistenceStep hashtext s y).1 ∧
          d ∈ (persistenceStep hashtext s y).1.db.decisions := by
      rintro s y ⟨hs, hm⟩
      exact ⟨hs.step (fun c d hd => safe_transaction hashtext c d hd) fun _ _ _ => trivial,
        mem_decisions_step hashtext hs y hm⟩
    exact (run_induction (persistenceStep hashtext) hkeep
      ⟨(persisted_serial hashtext db xs).1, hd⟩ ys).2
  refine ⟨hmem, fun x c hc hr => ?_⟩
  rcases atomically_eq_ok.mp (step_committed hsound hr) with ⟨-, hdb⟩ | ⟨snapshot, hf, -⟩
  · exact hdb
  · have hfree := hf.id_free
    rw [hc, Table.get_of_mem hmem] at hfree
    cases hfree

end IncidentAwareness.Persistence
