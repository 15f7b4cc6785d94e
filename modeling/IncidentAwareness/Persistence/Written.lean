import IncidentAwareness.Persistence.PersistSpec

/-!
# What a persistence call writes

`written_of_transaction`: a call that commits finds its Decision stored, or writes all
the results of one scope behind the head of that scope (`Written`). What the tables hold
after such a write follows from this.
-/

namespace IncidentAwareness.Persistence

open IncidentAwareness.Common IncidentAwareness.Lib Txn

variable {hashtext : String → Int}

/-- The results of a new Decision are written, all in its scope. -/
structure Written (s : Submission) (snapshot : DecisionRuntimeSnapshot) (d d' : Database) : Prop where
  fresh : Fresh s snapshot d
  writes : ∃ saveRun, execWrites (s.statements saveRun snapshot) d = .ok d'
  scopes : ∀ scope ∈ s.resultScopes, scope = s.decisionResult.scope
  decisions : d.decisions.insert? s.decisionResult = some d'.decisions
  snapshots : d.decisionRuntimeSnapshots.insert? snapshot = some d'.decisionRuntimeSnapshots
  detectionResults : d'.detectionResults = d.detectionResults.upsert s.fastResult.detectionResult
  fusionResults : d'.fusionResults = d.fusionResults.upsert s.fusionResult
  stoppingTraces : d'.fusionStoppingTraces = d.fusionStoppingTraces.upsert s.stoppingTrace

/-- The five results of a validated submission have one scope. -/
theorem resultScopes_of_validate {s : Submission} (h : s.validateResultScope = .ok ()) :
    ∀ scope ∈ s.resultScopes, scope = s.decisionResult.scope := by
  simp only [Submission.validateResultScope, raiseIf_bind_eq_ok, not_exists, not_and, not_not] at h
  obtain ⟨-, -, hrun, hentity, -⟩ := h
  have hdecision : s.decisionResult.scope ∈ s.resultScopes := by simp [Submission.resultScopes]
  intro scope hscope
  refine Prod.ext ?_ ?_
  · rw [hrun scope hscope, hrun _ hdecision]
  · rw [hentity scope hscope, hentity _ hdecision]

/-- The runs and the Events are no details. -/
theorem details_runWrites {s : Submission} {saveRun : Bool} {d d' : Database}
    (h : execWrites ((if saveRun then [RunRepository.save s.runMetadata] else []) ++
      s.events.map EventRepository.save) d = .ok d') :
    d'.detectionResults = d.detectionResults ∧ d'.fusionResults = d.fusionResults ∧
      d'.fusionStoppingTraces = d.fusionStoppingTraces := by
  refine execWrites_rel (R := fun d d' => d'.detectionResults = d.detectionResults ∧
    d'.fusionResults = d.fusionResults ∧ d'.fusionStoppingTraces = d.fusionStoppingTraces)
    (fun _ => ⟨rfl, rfl, rfl⟩) ?_ ?_ h
  · intro d d₁ d₂ h h'
    exact ⟨h'.1.trans h.1, h'.2.1.trans h.2.1, h'.2.2.trans h.2.2⟩
  · intro w hw d d' hd
    rcases List.mem_append.mp hw with hw | hw
    · split at hw
      · obtain rfl := List.mem_singleton.mp hw
        obtain ⟨-, rfl⟩ := RunRepository.save_eq_ok.mp hd
        exact ⟨rfl, rfl, rfl⟩
      · exact absurd hw List.not_mem_nil
    · obtain ⟨event, -, rfl⟩ := List.mem_map.mp hw
      obtain ⟨-, -, rfl⟩ := saveOwned_eq_ok.mp hd
      exact ⟨rfl, rfl, rfl⟩

theorem written_of_statements {s : Submission} {saveRun : Bool} {snapshot : DecisionRuntimeSnapshot}
    {d d' : Database} (hscopes : ∀ scope ∈ s.resultScopes, scope = s.decisionResult.scope)
    (hfresh : Fresh s snapshot d) (h : execWrites (s.statements saveRun snapshot) d = .ok d') :
    Written s snapshot d d' := by
  have hwrites : ∃ saveRun, execWrites (s.statements saveRun snapshot) d = .ok d' := ⟨saveRun, h⟩
  obtain ⟨-, hdecisions, hsnapshots⟩ := statements_eq_ok h
  obtain ⟨d₆, hdetail, h⟩ := execWrites_append_eq_ok.mp h
  obtain ⟨d₇, hdec, h⟩ := execWrites_cons_eq_ok.mp h
  obtain ⟨d₈, hsnap, h⟩ := execWrites_cons_eq_ok.mp h
  obtain rfl := Except.ok.inj h
  obtain ⟨-, -, ds, -, rfl⟩ := DecisionRepository.save_eq_ok.mp hdec
  obtain ⟨-, -, ss, -, rfl⟩ := DecisionRuntimeSnapshotRepository.save_eq_ok.mp hsnap
  obtain ⟨d₂, hpre, h⟩ := execWrites_append_eq_ok.mp hdetail
  obtain ⟨hdet, hfus, htr⟩ := details_runWrites hpre
  obtain ⟨d₃, hfusion, h⟩ := execWrites_cons_eq_ok.mp h
  obtain ⟨d₄, htrace, h⟩ := execWrites_cons_eq_ok.mp h
  obtain ⟨d₅, hconfig, h⟩ := execWrites_cons_eq_ok.mp h
  obtain ⟨d₅', hdetection, h⟩ := execWrites_cons_eq_ok.mp h
  obtain rfl := Except.ok.inj h
  obtain ⟨-, -, rfl⟩ := saveOwned_eq_ok.mp hfusion
  obtain ⟨-, -, rfl⟩ := saveOwned_eq_ok.mp htrace
  obtain ⟨-, -, rfl⟩ := saveOwned_eq_ok.mp hconfig
  obtain ⟨-, -, rfl⟩ := saveOwned_eq_ok.mp hdetection
  refine ⟨hfresh, hwrites, hscopes, hdecisions, hsnapshots, ?_, ?_, ?_⟩
  · exact congrArg (·.upsert s.fastResult.detectionResult) hdet
  · exact congrArg (·.upsert s.fusionResult) hfus
  · exact congrArg (·.upsert s.stoppingTrace) htr

/-- A call that commits changes no table, or writes the results of a new Decision. -/
theorem written_of_transaction {c : PersistenceCall} {d d' : Database}
    (h : (c.transaction hashtext).exec d = .ok d') :
    d' = d ∨ ∃ snapshot, Written c.submission snapshot d d' := by
  have hvalidated : ∀ {s : Submission} {saveRun : Bool},
      (validated s (persist hashtext s saveRun .commit)).exec d = .ok d' →
      d' = d ∨ ∃ snapshot, Written s snapshot d d' := by
    intro s saveRun h
    unfold validated at h
    cases hscope : s.validateResultScope with
    | error e =>
      rw [hscope] at h
      cases h
    | ok u =>
      rw [hscope] at h
      have hatomically : s.atomically saveRun d = .ok d' := h
      rcases atomically_eq_ok.mp hatomically with ⟨-, rfl⟩ | ⟨snapshot, hfresh, hwrites⟩
      · exact .inl rfl
      · exact .inr ⟨snapshot, written_of_statements (resultScopes_of_validate hscope) hfresh hwrites⟩
  cases c with
  | s0 s => exact hvalidated h
  | r1 s =>
    have hread : (persistR1Results hashtext s).exec d = .ok d' := h
    unfold persistR1Results at hread
    rw [exec] at hread
    cases hregistered : requireRegisteredR1Run d s.runMetadata with
    | error e =>
      rw [hregistered] at hread
      cases hread
    | ok u =>
      rw [hregistered] at hread
      exact hvalidated hread

section Written

variable {s : Submission} {snapshot : DecisionRuntimeSnapshot} {d d' : Database} {runId entityId : String}

theorem Written.snapshot_get (h : Written s snapshot d d') (decisionId : String) :
    d'.decisionRuntimeSnapshots.get decisionId =
      if decisionId = s.decisionResult.decisionId then some snapshot
      else d.decisionRuntimeSnapshots.get decisionId := by
  rw [Table.get_insert? h.snapshots, h.fresh.snapshot_decisionId]

/-- The id of a stored Decision is not the one that is written. -/
theorem Written.decisionId_ne (h : Written s snapshot d d') {x : DecisionResult}
    (hx : x ∈ d.decisions) : x.decisionId ≠ s.decisionResult.decisionId := by
  intro hsame
  have hfree := Table.get_eq_none.mp h.fresh.id_free
  exact hfree x hx hsame

theorem mem_of_getLast? {head : DecisionResult}
    (h : (d.scopeDecisions runId entityId).getLast? = some head) :
    head ∈ d.decisions ∧ head.scope = (runId, entityId) :=
  mem_scopeDecisions.mp (List.mem_of_getLast? h)

/-- The Decisions of a scope after a write: the new one is their last. -/
theorem Written.scopeDecisions (h : Written s snapshot d d') (runId entityId : String) :
    d'.scopeDecisions runId entityId = d.scopeDecisions runId entityId ++
      if s.decisionResult.scope = (runId, entityId) then [s.decisionResult] else [] :=
  scopeDecisions_insert? h.decisions rfl runId entityId

end Written

end IncidentAwareness.Persistence
