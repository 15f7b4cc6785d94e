import IncidentAwareness.Dashboard.CurrentDecision
import IncidentAwareness.Persistence.Written

/-!
# What the dashboard reads

* `Consistent`: the details of a scope are those of the snapshot of its head;
* `consistent_commit`, `details_commit`: a commit keeps this, and changes the details of
  a scope only with its head, which never recurs;
* `stableRead`: a model that the reader returns is what one call committed.
-/

namespace IncidentAwareness.Dashboard

open IncidentAwareness.Common IncidentAwareness.Lib IncidentAwareness.Persistence Txn Relation

variable {hashtext : String → Int}

/-! ## Details and heads -/

/-- The detail rows of a scope. -/
def details (db : Database) (scope : Scope) :
    Option DetectionResult × Option FusionResult × Option FusionStoppingTrace :=
  (db.detectionResults.get scope, db.fusionResults.get scope, db.fusionStoppingTraces.get scope)

/-- The details are those of a Runtime snapshot. -/
def DetailsOf (snapshot : DecisionRuntimeSnapshot) :
    Option DetectionResult × Option FusionResult × Option FusionStoppingTrace :=
  (some snapshot.detectionResult, some snapshot.fusionResult, some snapshot.fusionStoppingTrace)

/-- The Decisions of a scope form a chain, and its details are those of the snapshot of
its head. -/
structure Consistent (db : Database) : Prop where
  chained : Chained db
  details : ∀ runId entityId head, (db.scopeDecisions runId entityId).getLast? = some head →
    ∃ snapshot, db.decisionRuntimeSnapshots.get head.decisionId = some snapshot ∧
      Dashboard.details db (runId, entityId) = DetailsOf snapshot

section Commit

variable {s : Submission} {snapshot : DecisionRuntimeSnapshot} {d d' : Database} {runId entityId : String}

/-- A write to one scope leaves the details of another alone. -/
theorem details_other (h : Written s snapshot d d') {scope : Scope}
    (hne : s.decisionResult.scope ≠ scope) : details d' scope = details d scope := by
  have hscope : ∀ x ∈ s.resultScopes, scope ≠ x := fun x hx hsame =>
    hne ((h.scopes x hx).symm.trans hsame.symm)
  have hdetection : scope ≠ s.fastResult.detectionResult.scope :=
    hscope _ (by simp [Submission.resultScopes])
  have hfusion : scope ≠ s.fusionResult.scope := hscope _ (by simp [Submission.resultScopes])
  have htrace : scope ≠ s.stoppingTrace.scope := hscope _ (by simp [Submission.resultScopes])
  rw [details, details, h.detectionResults, h.fusionResults, h.stoppingTraces, Table.get_upsert,
    Table.get_upsert, Table.get_upsert, if_neg hdetection, if_neg hfusion, if_neg htrace]

/-- The details of its own scope are the written ones. -/
theorem details_own (h : Written s snapshot d d') :
    details d' s.decisionResult.scope = DetailsOf snapshot := by
  have hscope : ∀ x ∈ s.resultScopes, s.decisionResult.scope = x := fun x hx => (h.scopes x hx).symm
  have hdetection : s.decisionResult.scope = s.fastResult.detectionResult.scope :=
    hscope _ (by simp [Submission.resultScopes])
  have hfusion : s.decisionResult.scope = s.fusionResult.scope :=
    hscope _ (by simp [Submission.resultScopes])
  have htrace : s.decisionResult.scope = s.stoppingTrace.scope :=
    hscope _ (by simp [Submission.resultScopes])
  rw [details, h.detectionResults, h.fusionResults, h.stoppingTraces, Table.get_upsert,
    Table.get_upsert, Table.get_upsert, if_pos hdetection, if_pos hfusion, if_pos htrace,
    buildDecisionRuntimeSnapshot_eq_ok h.fresh.snapshot_ok]
  rfl

/-- A commit keeps the details those of the heads. -/
theorem consistent_commit {c : PersistenceCall} (hd : Consistent d)
    (h : (c.transaction hashtext).exec d = .ok d') : Consistent d' := by
  rcases written_of_transaction h with rfl | ⟨snapshot, hw⟩
  · exact hd
  · refine ⟨?_, fun runId entityId head hhead => ?_⟩
    · obtain ⟨saveRun, hwrites⟩ := hw.writes
      exact chained_statements hd.chained hw.fresh hwrites
    · rw [hw.scopeDecisions] at hhead
      by_cases hscope : c.submission.decisionResult.scope = (runId, entityId)
      · rw [if_pos hscope, List.getLast?_concat] at hhead
        obtain rfl := Option.some.inj hhead
        refine ⟨snapshot, ?_, ?_⟩
        · rw [hw.snapshot_get, if_pos rfl]
        · rw [← hscope]
          exact details_own hw
      · rw [if_neg hscope, List.append_nil] at hhead
        obtain ⟨snap, hsnap, hdetails⟩ := hd.details runId entityId head hhead
        refine ⟨snap, ?_, ?_⟩
        · rw [hw.snapshot_get, if_neg (hw.decisionId_ne (mem_of_getLast? hhead).1)]
          exact hsnap
        · rw [details_other hw hscope]
          exact hdetails

/-- What was read of a scope is true as long as the head is the last one that was read. -/
structure Seen (runId entityId : String) (head : DecisionResult)
    (A : Option DetectionResult × Option FusionResult × Option FusionStoppingTrace → Prop)
    (db : Database) : Prop where
  stored : head ∈ db.decisions
  scope : head.scope = (runId, entityId)
  current : (db.scopeDecisions runId entityId).getLast? = some head →
    A (details db (runId, entityId))

/-- A commit changes the details only with the head, and an earlier head is no head
again. -/
theorem details_commit {c : PersistenceCall} {head : DecisionResult}
    {A : Option DetectionResult × Option FusionResult × Option FusionStoppingTrace → Prop}
    (hseen : Seen runId entityId head A d) (h : (c.transaction hashtext).exec d = .ok d') :
    Seen runId entityId head A d' := by
  rcases written_of_transaction h with rfl | ⟨snapshot, hw⟩
  · exact hseen
  · refine ⟨(Table.mem_of_insert? hw.decisions).mpr (.inl hseen.stored), hseen.scope, fun hhead => ?_⟩
    rw [hw.scopeDecisions] at hhead
    by_cases hscope : c.submission.decisionResult.scope = (runId, entityId)
    · rw [if_pos hscope, List.getLast?_concat] at hhead
      have hsame := Option.some.inj hhead
      exact absurd (congrArg DecisionResult.decisionId hsame.symm) (hw.decisionId_ne hseen.stored)
    · rw [if_neg hscope, List.append_nil] at hhead
      rw [details_other hw hscope]
      exact hseen.current hhead

/-- The details of a model are those of the snapshot of its Decision. -/
structure Together (m : CurrentDecisionReadModel) (db : Database) : Prop where
  stored : m.decision ∈ db.decisions
  snapshot : ∃ snapshot, db.decisionRuntimeSnapshots.get m.decision.decisionId = some snapshot ∧
    (m.latestDetectionResult, m.latestFusionResult, m.latestFusionStoppingTrace) = DetailsOf snapshot

theorem together_commit {c : PersistenceCall} {m : CurrentDecisionReadModel} (hm : Together m d)
    (h : (c.transaction hashtext).exec d = .ok d') : Together m d' := by
  rcases written_of_transaction h with rfl | ⟨snapshot, hw⟩
  · exact hm
  · obtain ⟨hstored, snap, hsnap, hdetails⟩ := hm
    refine ⟨(Table.mem_of_insert? hw.decisions).mpr (.inl hstored), snap, ?_, hdetails⟩
    rw [hw.snapshot_get, if_neg (hw.decisionId_ne hstored)]
    exact hsnap

end Commit

/-! ## The reader -/

section Reader

variable {runId entityId : String} {db : Database} {α β : Type}

/-- The reader relies on commits only, and changes nothing. -/
def readerProtocol (hashtext : String → Int) : Protocol DashboardQuery Database where
  rely := ReflTransGen fun d d' => ∃ c : PersistenceCall, (c.transaction hashtext).exec d = .ok d'
  guarantee _ d d' := d' = d
  proviso _ _ := True
  refl _ := .refl
  trans := .trans

/-- What each commit keeps is kept. -/
theorem stable_of_commit {P : Database → Prop}
    (hP : ∀ (d d' : Database) (c : PersistenceCall), P d → (c.transaction hashtext).exec d = .ok d' → P d') :
    (readerProtocol hashtext).Stable P := by
  intro d d' hd hr
  induction hr with
  | refl => exact hd
  | tail _ hstep ih =>
    obtain ⟨c, hc⟩ := hstep
    exact hP _ _ c ih hc

theorem stable_consistent : (readerProtocol hashtext).Stable Consistent :=
  stable_of_commit fun _ _ _ hd h => consistent_commit hd h

theorem stable_seen {head : DecisionResult}
    {A : Option DetectionResult × Option FusionResult × Option FusionStoppingTrace → Prop} :
    (readerProtocol hashtext).Stable (Seen runId entityId head A) :=
  stable_of_commit fun _ _ _ hd h => details_commit hd h

theorem stable_together {m : CurrentDecisionReadModel} :
    (readerProtocol hashtext).Stable (Together m) :=
  stable_of_commit fun _ _ _ hd h => together_commit hd h

/-- What a part of the reader returns is as asserted. -/
def Returns (A : α → Database → Prop) (r : Except DashboardError α) (db : Database) : Prop :=
  ∀ a, r = .ok a → A a db

theorem returns_ok {A : α → Database → Prop} {a : α} (h : A a db) : Returns A (.ok a) db := by
  intro b hb
  obtain rfl := Except.ok.inj hb
  exact h

theorem returns_error {A : α → Database → Prop} {e : DashboardError} :
    Returns A (.error e) db := fun _ h => by cases h

theorem sat_read_seq {A : α → Database → Prop} {B : β → Database → Prop} {p : Reader α}
    {f : α → Reader β} (h : Sat (readerProtocol hashtext) (Returns A) p db)
    (hf : ∀ a db, A a db → Sat (readerProtocol hashtext) (Returns B) (f a) db) :
    Sat (readerProtocol hashtext) (Returns B) (p >>= f) db :=
  sat_bind h (fun a db h => hf a db (h a rfl)) fun _ _ _ _ _ => returns_error

/-- A query sees the tables of its time. -/
theorem sat_query {P : Database → Prop} {A : α → Database → Prop} {site : DashboardQuery}
    {q : Database → Except PersistenceError α} (hP : (readerProtocol hashtext).Stable P)
    (hA : ∀ a, (readerProtocol hashtext).Stable (A a))
    (hq : ∀ db a, P db → q db = .ok a → A a db) (h : P db) :
    Sat (readerProtocol hashtext) (Returns A) (query site q) db := by
  refine sat_request hP (fun r d d' hr hrely a ha => hA a d d' (hr a ha) hrely)
    (fun _ _ _ _ => returns_error) (fun d r d' hp _ hb => ?_) h
  obtain ⟨rfl, rfl⟩ := Prod.mk.inj (Option.some.inj hb)
  refine ⟨rfl, fun a ha => ?_, fun _ _ => returns_error⟩
  cases hqd : q d with
  | error e =>
    rw [hqd] at ha
    cases ha
  | ok b =>
    rw [hqd] at ha
    obtain rfl := Except.ok.inj ha
    exact hq d b hp hqd

theorem getCurrentHead_eq_ok (hdb : Consistent db) {head : Option DecisionResult}
    (h : db.getCurrentHead runId entityId = .ok head) :
    head = (db.scopeDecisions runId entityId).getLast? := by
  rw [getCurrentHead_of_linked (hdb.chained runId entityId)] at h
  exact (Except.ok.inj h).symm

/-- The details that are read with one head before and after are those of its snapshot. -/
theorem sat_readDetails {head : DecisionResult} (hdb : Consistent db)
    (hseen : Seen runId entityId head (fun _ => True) db) :
    Sat (readerProtocol hashtext)
      (Returns fun x db => Consistent db ∧
        (x.2.map (·.decisionId) = some head.decisionId → Together x.1 db))
      (readDetails runId entityId head) db := by
  have hstable : ∀ A, (readerProtocol hashtext).Stable
      fun db => Consistent db ∧ Seen runId entityId head A db :=
    fun A => stable_consistent.and stable_seen
  refine sat_read_seq (A := fun det db => Consistent db ∧ Seen runId entityId head (·.1 = det) db)
    (sat_query (hstable _) (fun det => hstable _) (fun db det hp hq => ?_) ⟨hdb, hseen⟩)
    fun det db hp => ?_
  · obtain rfl := Except.ok.inj hq
    exact ⟨hp.1, hp.2.stored, hp.2.scope, fun _ => rfl⟩
  refine sat_read_seq (A := fun fus db => Consistent db ∧
      Seen runId entityId head (fun x => x.1 = det ∧ x.2.1 = fus) db)
    (sat_query (hstable _) (fun fus => hstable _) (fun db fus hp hq => ?_) hp) fun fus db hp => ?_
  · obtain rfl := Except.ok.inj hq
    exact ⟨hp.1, hp.2.stored, hp.2.scope, fun h => ⟨hp.2.current h, rfl⟩⟩
  refine sat_read_seq (A := fun tr db => Consistent db ∧
      Seen runId entityId head (fun x => x = (det, fus, tr)) db)
    (sat_query (hstable _) (fun tr => hstable _) (fun db tr hp hq => ?_) hp) fun tr db hp => ?_
  · obtain rfl := Except.ok.inj hq
    refine ⟨hp.1, hp.2.stored, hp.2.scope, fun h => ?_⟩
    obtain ⟨rfl, rfl⟩ := hp.2.current h
    rfl
  have htogether : ∀ headAfter : Option DecisionResult, (readerProtocol hashtext).Stable fun db =>
      Consistent db ∧
        (headAfter.map (·.decisionId) = some head.decisionId → Together ⟨head, det, fus, tr⟩ db) :=
    fun _ => stable_consistent.and (.imp fun _ => stable_together)
  refine sat_read_seq
    (sat_query (hstable _) htogether (fun db headAfter hp hq => ⟨hp.1, fun hsame => ?_⟩) hp) ?_
  · obtain ⟨hdb, hstored, hscope, hcurrent⟩ := hp
    have hlast := getCurrentHead_eq_ok hdb hq
    obtain ⟨head', rfl, hid⟩ := Option.map_eq_some_iff.mp hsame
    -- the head is the one that was read before
    obtain rfl : head' = head :=
      Table.eq_of_conflict (mem_of_getLast? hlast.symm).1 hstored hid
    obtain ⟨snapshot, hsnapshot, hdetails⟩ := hdb.details runId entityId head' hlast.symm
    exact ⟨hstored, snapshot, hsnapshot, (hcurrent hlast.symm).symm.trans hdetails⟩
  · intro headAfter db h
    refine sat_done (fun d d' hr hrely x hx => ?_) (returns_ok h)
    obtain rfl := Except.ok.inj hx
    exact htogether headAfter d d' (hr _ rfl) hrely

/-- Whatever model the reader returns, its details are those of its Decision. -/
theorem sat_getCurrentWithin (attempts : Nat) (hdb : Consistent db) :
    Sat (readerProtocol hashtext) (Returns fun model db => ∀ m, model = some m → Together m db)
      (getCurrentWithin runId entityId attempts) db := by
  have hstable : ∀ model : Option CurrentDecisionReadModel,
      (readerProtocol hashtext).Stable fun db => ∀ m, model = some m → Together m db :=
    fun _ d d' h hr m hm => stable_together d d' (h m hm) hr
  have hdone : ∀ (model : Option CurrentDecisionReadModel) (db : Database),
      (∀ m, model = some m → Together m db) → Sat (readerProtocol hashtext)
        (Returns fun model db => ∀ m, model = some m → Together m db) (.done (.ok model)) db := by
    intro model db h
    refine sat_done (fun d d' hr hrely x hx => ?_) (returns_ok h)
    have hm := hr model rfl
    obtain rfl := Except.ok.inj hx
    exact hstable _ d d' hm hrely
  induction attempts generalizing db with
  | zero => exact fun _ _ => returns_error
  | succ attempts ih =>
    refine sat_read_seq (A := fun head db => Consistent db ∧
        ∀ h, head = some h → Seen runId entityId h (fun _ => True) db)
      (sat_query stable_consistent (fun head => stable_consistent.and
        fun d d' hh hr h heq => stable_seen d d' (hh h heq) hr) (fun db head hdb hq => ⟨hdb, ?_⟩) hdb)
      fun head db hp => ?_
    · rintro h rfl
      obtain ⟨hstored, hscope⟩ := mem_of_getLast? (getCurrentHead_eq_ok hdb hq).symm
      exact ⟨hstored, hscope, fun _ => trivial⟩
    · cases head with
      | none => exact hdone none db fun m hm => by cases hm
      | some head =>
        refine sat_read_seq (sat_readDetails hp.1 (hp.2 head rfl)) fun x db hx => ?_
        obtain ⟨model, headAfter⟩ := x
        show Sat _ _ (if _ then _ else _) db
        split
        · next hsame =>
          refine hdone _ db fun m hm => ?_
          obtain rfl := Option.some.inj hm
          exact hx.2 hsame
        · exact ih hx.1

end Reader

/-! ## Runs -/

section Runs

variable {runId entityId : String} {s : DashboardState} {t : List (DashboardStep × DashboardAnswer)}

/-- The results of a call. -/
def DetailsOfCall (c : PersistenceCall) :
    Option DetectionResult × Option FusionResult × Option FusionStoppingTrace :=
  (some c.submission.fastResult.detectionResult, some c.submission.fusionResult,
    some c.submission.stoppingTrace)

/-- What holds after any steps: the snapshot of each Decision has the results of the
call that committed it. -/
structure Reading (hashtext : String → Int) (s : DashboardState)
    (t : List (DashboardStep × DashboardAnswer)) : Prop where
  consistent : Consistent s.db
  reader : Sat (readerProtocol hashtext) (Returns fun model db => ∀ m, model = some m → Together m db)
    s.reader s.db
  committed : ∀ d ∈ s.db.decisions, ∀ snapshot,
    s.db.decisionRuntimeSnapshots.get d.decisionId = some snapshot →
      ∃ c ∈ committedCalls t, c.submission.decisionResult = d ∧ DetailsOf snapshot = DetailsOfCall c

theorem committedCalls_append (e : DashboardStep × DashboardAnswer) :
    committedCalls (t ++ [e]) = committedCalls t ++ e.2.committed?.toList := by
  rw [committedCalls, List.filterMap_append, List.filterMap_cons, List.filterMap_nil]
  cases e.2.committed? <;> rfl

theorem mem_committedCalls {e : DashboardStep × DashboardAnswer} {c : PersistenceCall}
    (h : c ∈ committedCalls t) : c ∈ committedCalls (t ++ [e]) := by
  rw [committedCalls_append]
  exact List.mem_append_left _ h

theorem reading_persist (h : Reading hashtext s t) {c : PersistenceCall} {db : Database}
    (hc : (c.transaction hashtext).exec s.db = .ok db) {x : DashboardStep} :
    Reading hashtext { s with db := db } (t ++ [(x, .committed c)]) where
  consistent := consistent_commit h.consistent hc
  reader := h.reader.rely (ReflTransGen.single ⟨c, hc⟩)
  committed d hd snapshot hsnapshot := by
    rcases written_of_transaction hc with rfl | ⟨written, hw⟩
    · obtain ⟨c', hc', hcommitted⟩ := h.committed d hd snapshot hsnapshot
      exact ⟨c', mem_committedCalls hc', hcommitted⟩
    · rw [hw.snapshot_get] at hsnapshot
      rcases (Table.mem_of_insert? hw.decisions).mp hd with hold | rfl
      · rw [if_neg (hw.decisionId_ne hold)] at hsnapshot
        obtain ⟨c', hc', hcommitted⟩ := h.committed d hold snapshot hsnapshot
        exact ⟨c', mem_committedCalls hc', hcommitted⟩
      · rw [if_pos rfl] at hsnapshot
        obtain rfl := Option.some.inj hsnapshot
        refine ⟨c, ?_, rfl, ?_⟩
        · rw [committedCalls_append]
          exact List.mem_append_right _ (List.mem_singleton_self c)
        · rw [buildDecisionRuntimeSnapshot_eq_ok hw.fresh.snapshot_ok]
          rfl

theorem reading_step (h : Reading hashtext s t) (x : DashboardStep) :
    Reading hashtext (s.step hashtext x).1 (t ++ [(x, (s.step hashtext x).2)]) := by
  have hsame : ∀ answer : DashboardAnswer, Reading hashtext s (t ++ [(x, answer)]) := fun answer =>
    ⟨h.consistent, h.reader, fun d hd snapshot hsnapshot => by
      obtain ⟨c, hc, hcommitted⟩ := h.committed d hd snapshot hsnapshot
      exact ⟨c, mem_committedCalls hc, hcommitted⟩⟩
  cases x with
  | persist c =>
    cases hc : (c.transaction hashtext).exec s.db with
    | error e =>
      simp only [DashboardState.step, hc]
      exact hsame _
    | ok db =>
      simp only [DashboardState.step, hc]
      exact reading_persist h hc
  | query failure =>
    cases hadvance : s.reader.advance (queryFault failure) s.db with
    | finished =>
      simp only [DashboardState.step, hadvance]
      exact hsame _
    | blocked =>
      simp only [DashboardState.step, hadvance]
      exact hsame _
    | called site applied rest db =>
      cases rest with
      | none =>
        simp only [DashboardState.step, hadvance]
        exact hsame _
      | some reader =>
        obtain ⟨hguarantee, hrest⟩ := h.reader.advance (fun _ => trivial) (fun _ _ => trivial) hadvance
        have hdb : db = s.db := by
          rcases hguarantee with ⟨-, hdb⟩ | ⟨-, hdb⟩
          · exact hdb
          · exact hdb
        simp only [DashboardState.step, hadvance]
        have hkept := hsame .queried
        rw [hdb] at hrest ⊢
        exact ⟨hkept.consistent, hrest reader rfl, hkept.committed⟩

theorem reading_initial (db : Database) :
    Reading hashtext ⟨db.withoutDecisions, getCurrent runId entityId⟩ [] := by
  have hconsistent : Consistent db.withoutDecisions :=
    ⟨fun _ _ => linked_nil, fun runId entityId head h => by cases h⟩
  exact ⟨hconsistent, sat_getCurrentWithin _ hconsistent, fun d hd => absurd hd (Table.not_mem_empty d)⟩

end Runs

/-- Whenever the reader returns a model, whatever calls commit between its queries, the
Decision, the Detection, the Fusion result and the trace in it are those of one call. -/
theorem stableRead (hashtext : String → Int) (db : Database) (runId entityId : String)
    (xs : List DashboardStep) (m : CurrentDecisionReadModel)
    (h : (after (DashboardState.step hashtext) ⟨db.withoutDecisions, getCurrent runId entityId⟩
      xs).reader.result? = some (.ok (some m))) :
    ∃ c ∈ committedCalls (trace (DashboardState.step hashtext)
        ⟨db.withoutDecisions, getCurrent runId entityId⟩ xs),
      m.decision = c.submission.decisionResult ∧
        m.latestDetectionResult = some c.submission.fastResult.detectionResult ∧
        m.latestFusionResult = some c.submission.fusionResult ∧
        m.latestFusionStoppingTrace = some c.submission.stoppingTrace := by
  have hinitial : Reading hashtext ⟨db.withoutDecisions, getCurrent runId entityId⟩ [] :=
    reading_initial db
  have hreading := run_trace_induction (P := Reading hashtext) (DashboardState.step hashtext) hinitial
    (fun _ _ x h => reading_step h x) xs
  have hdone := hreading.reader
  rw [Program.eq_done_of_result? h] at hdone
  obtain ⟨hstored, snapshot, hsnapshot, hdetails⟩ := hdone.done _ rfl m rfl
  obtain ⟨c, hc, hdecision, hresults⟩ := hreading.committed _ hstored snapshot hsnapshot
  have hsame := hdetails.trans hresults
  obtain ⟨hdetection, hrest⟩ := Prod.mk.inj hsame
  obtain ⟨hfusion, htrace⟩ := Prod.mk.inj hrest
  exact ⟨c, hc, hdecision.symm, hdetection, hfusion, htrace⟩

section Sample

theorem notEvaluated_detectorTime :
    (none : Option UtcMillis).isSome = decide (DetectorStatus.notEvaluated = .detected) := rfl

theorem notEvaluated_detectorId :
    DetectorStatus.notEvaluated = .detected → (none : Option String).isSome := by decide

/-- The Detection of a sample run, which no detector evaluated. -/
def sampleDetection : DetectionResult :=
  ⟨"run-1", "host-1", none, .notEvaluated, none, none, none, none, notEvaluated_detectorTime,
    notEvaluated_detectorId⟩

/-- The results of a sample run under a Decision id, which tells the model versions apart. -/
def sampleSubmission (decisionId : String) (supersedesDecisionId : Option String) : Submission where
  runMetadata := ⟨"run-1", "scenario-1", .normal, "host-1", 0, none⟩
  events := []
  fusionResult := ⟨"run-1", "host-1", none, .notEvaluated, [], "v1", "default", some decisionId,
    "noisy_or", "1"⟩
  stoppingTrace := ⟨"run-1", "host-1", "v1", []⟩
  runtimeConfigSnapshot := ⟨"run-1", "host-1", "v1", some decisionId, "noisy_or", "1", "default"⟩
  fastResult := ⟨sampleDetection, [], none⟩
  decisionResult :=
    { runId := "run-1", decisionId, entityId := "host-1", fastStatus := .notEvaluated
      fusionStatus := .notEvaluated, fusionTime := none, detectorTime := none, tE := none
      decisionPath := none, winningPath := none, decisionReason := "not evaluated"
      configVersion := "v1", supersedesDecisionId }

/-- A second Decision commits between the first read of the head and the details. -/
def sampleSteps : List DashboardStep :=
  [.persist (.s0 (sampleSubmission "d-1" none)), .query none,
    .persist (.s0 (sampleSubmission "d-2" (some "d-1")))] ++ List.replicate 9 (.query none)

/-- The model of the second Decision. -/
def sampleModel : CurrentDecisionReadModel :=
  ⟨(sampleSubmission "d-2" (some "d-1")).decisionResult, some sampleDetection,
    some (sampleSubmission "d-2" (some "d-1")).fusionResult,
    some (sampleSubmission "d-2" (some "d-1")).stoppingTrace⟩

/-- The reader sees the head change, reads again and returns the second Decision. -/
theorem sampleSteps_returns :
    (after (DashboardState.step fun _ => 0) ⟨Database.empty.withoutDecisions, getCurrent "run-1" "host-1"⟩
      sampleSteps).reader.result? = some (.ok (some sampleModel)) := by
  decide +kernel

theorem stableRead_superseded :
    ∃ c ∈ committedCalls (trace (DashboardState.step fun _ => 0)
        ⟨Database.empty.withoutDecisions, getCurrent "run-1" "host-1"⟩ sampleSteps),
      sampleModel.decision = c.submission.decisionResult ∧
        sampleModel.latestDetectionResult = some c.submission.fastResult.detectionResult ∧
        sampleModel.latestFusionResult = some c.submission.fusionResult ∧
        sampleModel.latestFusionStoppingTrace = some c.submission.stoppingTrace :=
  stableRead (fun _ => 0) .empty "run-1" "host-1" sampleSteps sampleModel sampleSteps_returns

end Sample

end IncidentAwareness.Dashboard
