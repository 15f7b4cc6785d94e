import IncidentAwareness.Fusion.Closure
import IncidentAwareness.Integration.ReplayWindow

/-!
# S0 runtime fusion, host by host

A host's pipeline depends on its Evidence as a set (`hostPipeline_congr`), and its
Evidence on its Events within the window (`mem_hostEvidences`). So the results of
a run do not show the order of the Events nor those outside the window
(`runS0RuntimeFusion_congr`), there is one result for every expected host, in
sorted order, and a host's result does not show the Events of the others.
-/

namespace IncidentAwareness.Integration

open IncidentAwareness.Common IncidentAwareness.Lib IncidentAwareness.Evidence
open IncidentAwareness.Fusion

section Isolation

variable {library : ExtractorLibrary} {formatG : Int → String} {config : FusionConfig}
  {window : S0ReplayWindow} {runId entityId : String} {events events' : List NormalizedEvent}
  {entityIds : List String}

/-! ## The selection -/

theorem foldlM_selectEvent {selection : S0ReplayEventSelection}
    (h : ∀ e ∈ events, e.runId = selection.runId) :
    ∃ selected, events.foldlM (selectEvent window) selection = .ok selected ∧
      selected.runId = selection.runId ∧
      selected.includedEvents =
        selection.includedEvents ++ events.filter fun e => window.includes e := by
  induction events generalizing selection with
  | nil => exact ⟨selection, rfl, rfl, (List.append_nil _).symm⟩
  | cons e events ih =>
    have he := h e List.mem_cons_self
    have hrest : ∀ a ∈ events, a.runId = selection.runId :=
      fun a ha => h a (List.mem_cons_of_mem e ha)
    by_cases hin : window.includes e
    · obtain ⟨selected, hok, hrun, hincluded⟩ := @ih
        { selection with includedEvents := selection.includedEvents ++ [e] } hrest
      refine ⟨selected, ?_, hrun, ?_⟩
      · rw [List.foldlM_cons, selectEvent, raiseIf_of_not (not_not.mpr he), Except.ok_bind',
          if_pos hin]
        exact hok
      · rw [hincluded, List.filter_cons, if_pos (decide_eq_true hin)]
        simp
    · obtain ⟨selected, hok, hrun, hincluded⟩ := @ih (selection.exclude window e) hrest
      refine ⟨selected, ?_, hrun, ?_⟩
      · rw [List.foldlM_cons, selectEvent, raiseIf_of_not (not_not.mpr he), Except.ok_bind',
          if_neg hin]
        exact hok
      · rw [hincluded, List.filter_cons, if_neg (by simpa using hin)]
        rfl

/-- The error of an Event of another run. -/
def otherRun : PyError := .valueError "NormalizedEvent run_id must match the replay run_id"

theorem foldlM_selectEvent_error {selection : S0ReplayEventSelection}
    (h : ∃ e ∈ events, e.runId ≠ selection.runId) :
    events.foldlM (selectEvent window) selection = .error otherRun := by
  induction events generalizing selection with
  | nil =>
    obtain ⟨e, he, -⟩ := h
    cases he
  | cons e events ih =>
    rw [List.foldlM_cons, selectEvent]
    by_cases he : e.runId = selection.runId
    · have hrest : ∃ a ∈ events, a.runId ≠ selection.runId := by
        obtain ⟨a, ha, hne⟩ := h
        have hae : a ≠ e := fun hae => hne (hae ▸ he)
        exact ⟨a, (List.mem_cons.mp ha).resolve_left hae, hne⟩
      rw [raiseIf_of_not (not_not.mpr he), Except.ok_bind']
      by_cases hin : window.includes e
      · rw [if_pos hin]
        exact ih hrest
      · rw [if_neg hin]
        exact ih hrest
    · rw [raiseIf_of he]
      rfl

/-- What is selected from the Events of a run. -/
structure Selects (events : List NormalizedEvent) (runId : String) (window : S0ReplayWindow)
    (selection : S0ReplayEventSelection) : Prop where
  runId_eq : selection.runId = runId
  runId_ne : runId ≠ ""
  ofRun : ∀ e ∈ events, e.runId = runId
  included : selection.includedEvents = events.filter fun e => window.includes e

theorem validateRunId_ne {u : Unit} (h : validateRunId runId = .ok u) : runId ≠ "" := by
  rintro rfl
  exact raiseIf_eq_ok.mp h (.inl (by decide))

theorem selects_of_ok {selection : S0ReplayEventSelection}
    (h : selectS0ReplayEvents events runId window = .ok selection) :
    Selects events runId window selection := by
  obtain ⟨u, hvalid, h⟩ := Except.bind_eq_ok.mp h
  by_cases hrun : ∃ e ∈ events, e.runId ≠ runId
  · rw [foldlM_selectEvent_error hrun] at h
    cases h
  · have hof : ∀ e ∈ events, e.runId = runId := by simpa using hrun
    obtain ⟨selected, hok, hrunId, hincluded⟩ := @foldlM_selectEvent window events
      { runId } hof
    obtain rfl : selected = selection := Except.ok.inj (hok.symm.trans h)
    exact ⟨hrunId, validateRunId_ne hvalid, hof, hincluded⟩

/-! ## The Evidence of a host -/

/-- The Evidence of the included Events. -/
def evidencesOfAll (library : ExtractorLibrary) (includedEvents : List NormalizedEvent) :
    List (Evidence S0Features) :=
  ((sortedBy includedKey includedEvents).map (evidencesOf library)).flatten

theorem extractAll_eq {includedEvents : List NormalizedEvent}
    (hrun : ∀ e ∈ includedEvents, e.runId ≠ "") (hhost : ∀ e ∈ includedEvents, e.hostId ≠ "") :
    extractAll library includedEvents = .ok (evidencesOfAll library includedEvents) := by
  have hok : (sortedBy includedKey includedEvents).mapM (extractEvidence library) =
      .ok ((sortedBy includedKey includedEvents).map (evidencesOf library)) := by
    refine mapM_eq_ok_map fun e he => ?_
    exact extractEvidence_eq (hrun e (mem_sortedBy.mp he)) (hhost e (mem_sortedBy.mp he))
  rw [extractAll, hok, Except.ok_bind']
  rfl

/-- The Evidence of a host is that of its own Events. -/
theorem mem_hostEvidences {includedEvents : List NormalizedEvent} {e : Evidence S0Features} :
    e ∈ (evidencesOfAll library includedEvents).filter (fun e => e.entityId = entityId) ↔
      ∃ event ∈ includedEvents, event.hostId = entityId ∧ e ∈ evidencesOf library event := by
  rw [List.mem_filter, evidencesOfAll, List.mem_flatten, decide_eq_true_eq]
  constructor
  · intro ⟨⟨l, hl, he⟩, hentity⟩
    obtain ⟨event, hevent, rfl⟩ := List.mem_map.mp hl
    exact ⟨event, mem_sortedBy.mp hevent, (mem_evidencesOf he).2.1.symm.trans hentity, he⟩
  · intro ⟨event, hevent, hhost, he⟩
    refine ⟨⟨_, List.mem_map_of_mem (mem_sortedBy.mpr hevent), he⟩, ?_⟩
    exact (mem_evidencesOf he).2.1.trans hhost

theorem evidencesOfAll_sorted (library : ExtractorLibrary) (includedEvents : List NormalizedEvent) :
    (evidencesOfAll library includedEvents).Pairwise fun a b => a.timestamp ≤ b.timestamp := by
  rw [evidencesOfAll, List.pairwise_flatten]
  constructor
  · intro l hl
    obtain ⟨event, -, rfl⟩ := List.mem_map.mp hl
    refine List.pairwise_of_forall_mem_list fun a ha b hb => ?_
    rw [(mem_evidencesOf ha).2.2, (mem_evidencesOf hb).2.2]
  · rw [List.pairwise_map]
    refine (sortedBy_pairwise includedKey includedEvents).imp fun {e e'} hle a ha b hb => ?_
    rw [(mem_evidencesOf ha).2.2, (mem_evidencesOf hb).2.2]
    exact Prod.Lex.monotone_fst _ _ hle

/-! ## The pipeline of a host -/

/-- A window that `derive_s0_replay_window` gives, observed to its end, under a
configuration whose step divides it. -/
structure Replayable (config : FusionConfig) (window : S0ReplayWindow) : Prop where
  start_le : window.replayStart ≤ window.observedEnd
  replayEnd_eq : window.replayEnd = window.replayStart + s0ReplayDuration
  covered : window.isCovered
  step : s0ReplayDuration % config.stepSize = 0

theorem Replayable.boundary_eq (h : Replayable config window) : ∃ boundary,
    TemporalReplayRunner.boundary window.replayStart window.observedEnd
      (some (.utc window.replayEnd)) = .ok boundary ∧ boundary.effectiveEnd = window.replayEnd := by
  have hend := h.replayEnd_eq
  have hcovered : window.replayEnd ≤ window.observedEnd := h.covered
  have hstart : ¬ window.replayEnd < window.replayStart := by
    rw [hend, s0ReplayDuration]
    omega
  rw [TemporalReplayRunner.boundary, requireUtc_utc, Except.ok_bind', raiseIf_of_not hstart,
    Except.ok_bind', raiseIf_of_not (not_lt.mpr hcovered), Except.ok_bind']
  by_cases hlt : window.replayEnd < window.observedEnd
  · exact ⟨_, if_pos hlt, rfl⟩
  · exact ⟨_, if_neg hlt, rfl⟩

/-- A host's Evidence within the window. -/
def HostEvidences (runId entityId : String) (window : S0ReplayWindow)
    (evidences : List (Evidence S0Features)) : Prop :=
  EvidencesValid runId entityId window.replayStart window.replayEnd evidences

theorem Replayable.runValid (h : Replayable config window) {boundary : Boundary}
    (hboundary : TemporalReplayRunner.boundary window.replayStart window.observedEnd
      (some (.utc window.replayEnd)) = .ok boundary) (hend : boundary.effectiveEnd = window.replayEnd)
    {evidences : List (Evidence S0Features)} (hvalid : HostEvidences runId entityId window evidences) :
    RunValid config.runner evidences runId entityId window.replayStart window.observedEnd
      (some (.utc window.replayEnd)) boundary := by
  refine ⟨h.start_le, hboundary, ?_, hend ▸ hvalid⟩
  rw [hend, h.replayEnd_eq, add_sub_cancel_left]
  exact h.step

/-- The replay of a host depends on which Evidence it has, not on its order. -/
theorem outcome_run_congr (h : Replayable config window) {l l' : List (Evidence S0Features)}
    (hl : HostEvidences runId entityId window l) (hl' : HostEvidences runId entityId window l')
    (hmem : ∀ e, e ∈ l ↔ e ∈ l') (s : WindowState S0Features) :
    outcome (config.runner.run l runId entityId (.utc window.replayStart) (.utc window.observedEnd)
        (some (.utc window.replayEnd))) s =
      outcome (config.runner.run l' runId entityId (.utc window.replayStart)
        (.utc window.observedEnd) (some (.utc window.replayEnd))) s := by
  obtain ⟨boundary, hboundary, hend⟩ := h.boundary_eq
  rw [outcome_run (h.runValid hboundary hend hl), outcome_run (h.runValid hboundary hend hl')]
  have hfails : ∀ t, PlainFails config.runner l t ↔ PlainFails config.runner l' t := by
    intro t
    unfold PlainFails
    simp only [hmem]
  have hwindow : ∀ t e, e ∈ windowAt config.runner.windowEngine l t ↔
      e ∈ windowAt config.runner.windowEngine l' t := by
    intro t e
    rw [windowAt, windowAt, List.mem_filter, List.mem_filter, hmem]
  rw [observations_congr fun t _ e => hwindow t e]
  simp only [hfails]

/-! ## The Evidence of a host, within the window -/

/-- The included Evidence of a host. -/
def hostEvidences (library : ExtractorLibrary) (window : S0ReplayWindow)
    (events : List NormalizedEvent) (entityId : String) : List (Evidence S0Features) :=
  (evidencesOfAll library (events.filter fun e => window.includes e)).filter fun e =>
    e.entityId = entityId

variable (library) in
theorem hostEvidences_valid (hrun : ∀ e ∈ events, e.runId = runId) :
    HostEvidences runId entityId window (hostEvidences library window events entityId) := by
  have hof : ∀ e ∈ hostEvidences library window events entityId, ∃ event ∈ events,
      window.includes event ∧ event.hostId = entityId ∧ e ∈ evidencesOf library event := by
    intro e he
    obtain ⟨event, hevent, hhost, hof⟩ := mem_hostEvidences.mp he
    rw [List.mem_filter, decide_eq_true_eq] at hevent
    exact ⟨event, hevent.1, hevent.2, hhost, hof⟩
  constructor
  · exact (evidencesOfAll_sorted library _).sublist List.filter_sublist
  · intro e he
    obtain ⟨event, hevent, -, -, hin⟩ := hof e he
    exact (mem_evidencesOf hin).1.trans (hrun event hevent)
  · intro e he
    obtain ⟨event, -, -, hhost, hin⟩ := hof e he
    exact (mem_evidencesOf hin).2.1.trans hhost
  · intro e he
    obtain ⟨event, -, hincludes, -, hin⟩ := hof e he
    rw [(mem_evidencesOf hin).2.2]
    exact hincludes

variable (library) in
/-- A host's pipeline depends on its own Events within the window. -/
theorem hostPipeline_congr (h : Replayable config window) (hrun : ∀ e ∈ events, e.runId = runId)
    (hrun' : ∀ e ∈ events', e.runId = runId)
    (hsame : ∀ e, e.hostId = entityId → window.includes e → (e ∈ events ↔ e ∈ events')) :
    hostPipeline config runId window
        (evidencesOfAll library (events.filter fun e => window.includes e)) entityId =
      hostPipeline config runId window
        (evidencesOfAll library (events'.filter fun e => window.includes e)) entityId := by
  have hmem : ∀ e, e ∈ hostEvidences library window events entityId ↔
      e ∈ hostEvidences library window events' entityId := by
    intro e
    rw [hostEvidences, hostEvidences, mem_hostEvidences, mem_hostEvidences]
    simp only [List.mem_filter, decide_eq_true_eq]
    constructor
    · intro ⟨event, ⟨hevent, hin⟩, hhost, he⟩
      exact ⟨event, ⟨(hsame event hhost hin).mp hevent, hin⟩, hhost, he⟩
    · intro ⟨event, ⟨hevent, hin⟩, hhost, he⟩
      exact ⟨event, ⟨(hsame event hhost hin).mpr hevent, hin⟩, hhost, he⟩
  rw [hostPipeline, hostPipeline, outcome_runFusionPipelineFromConfig,
    outcome_runFusionPipelineFromConfig]
  have hreplay := outcome_run_congr h (hostEvidences_valid library hrun)
    (hostEvidences_valid library hrun') hmem .empty
  rw [hostEvidences, hostEvidences] at hreplay
  rw [hreplay]

/-! ## The run -/

/-- What a run reports, apart from its selection. -/
def S0RuntimeFusionResult.results (r : S0RuntimeFusionResult) :
    Option RuntimeNotEvaluatedReason × List FusionResult × List FusionStoppingTrace :=
  (r.notEvaluatedReason, r.fusionResults, r.stoppingTraces)

/-- The result of a host. -/
def S0RuntimeFusionResult.resultOf (r : S0RuntimeFusionResult) (host : String) :
    Option FusionResult × Option FusionStoppingTrace :=
  (r.fusionResults.find? fun f => f.val.entityId = host,
    r.stoppingTraces.find? fun t => t.val.entityId = host)

theorem validateExpectedEntityIds_eq_ok {expected : List String} :
    validateExpectedEntityIds expected = .ok entityIds ↔
      expected ≠ [] ∧ (∀ host ∈ expected, isBlank host = false ∧ isPadded host = false) ∧
        expected.Nodup ∧ entityIds = sortedBy id expected := by
  rw [validateExpectedEntityIds, raiseIf_bind_eq_ok, raiseIf_bind_eq_ok, raiseIf_bind_eq_ok,
    Except.pure_eq_ok, not_not]
  simp

theorem window_of_ok {startTime endTime : PyDatetime}
    (h : deriveS0ReplayWindow startTime endTime = .ok window) :
    window.replayStart ≤ window.observedEnd ∧
      window.replayEnd = window.replayStart + s0ReplayDuration := by
  obtain ⟨start, -, h⟩ := Except.bind_eq_ok.mp h
  obtain ⟨stop, -, h⟩ := Except.bind_eq_ok.mp h
  obtain ⟨hle, h⟩ := raiseIf_bind_eq_ok.mp h
  obtain ⟨replayEnd, hend, h⟩ := Except.bind_eq_ok.mp h
  obtain rfl := Except.pure_eq_ok.mp h
  exact ⟨not_lt.mp hle, (addTimedelta_eq_ok.mp hend).1⟩

theorem mem_unexpectedHosts {host : String} :
    host ∈ unexpectedHosts events entityIds ↔
      (∃ e ∈ events, e.hostId = host) ∧ host ∉ entityIds := by
  rw [unexpectedHosts, mem_sortedBy, List.mem_filter, List.mem_dedup, List.mem_map, decide_eq_true_eq]

/-- Events of expected hosts are not refused. -/
theorem requireExpectedHosts_eq_ok {u : Unit} :
    requireExpectedHosts events entityIds = .ok u ↔ ∀ e ∈ events, e.hostId ∈ entityIds := by
  rw [requireExpectedHosts, raiseIf_eq_ok, not_not, List.eq_nil_iff_forall_not_mem]
  simp only [mem_unexpectedHosts, not_and, not_not]
  constructor
  · exact fun h e he => h e.hostId ⟨e, he, rfl⟩
  · rintro h host ⟨e, he, rfl⟩
    exact h e he

/-- The hosts that are refused depend on the Events as a set. -/
theorem requireExpectedHosts_congr
    (h : ∀ host, (∃ e ∈ events, e.hostId = host) ↔ ∃ e ∈ events', e.hostId = host) :
    requireExpectedHosts events entityIds = requireExpectedHosts events' entityIds := by
  have hsame : unexpectedHosts events entityIds = unexpectedHosts events' entityIds := by
    refine sortedBy_eq_of_mem_iff (fun a _ b _ hab => hab) ((List.nodup_dedup _).filter _)
      ((List.nodup_dedup _).filter _) fun host => ?_
    simp only [List.mem_filter, List.mem_dedup, List.mem_map, h host]
  rw [requireExpectedHosts, requireExpectedHosts, hsame]

/-- The results of a window that was not covered show of the selection its run. -/
theorem notEvaluatedResult_results {selection selection' : S0ReplayEventSelection}
    (h : selection.runId = selection'.runId) :
    (notEvaluatedResult config window selection entityIds).map S0RuntimeFusionResult.results =
      (notEvaluatedResult config window selection' entityIds).map S0RuntimeFusionResult.results := by
  rw [notEvaluatedResult, notEvaluatedResult, h]
  refine Except.map_bind_congr fun fusionResults _ => ?_
  refine Except.map_bind_congr fun stoppingTraces _ => ?_
  rfl

/-- The hosts' pipelines of a covered window. -/
def pipelines (library : ExtractorLibrary) (config : FusionConfig) (window : S0ReplayWindow)
    (runId : String) (events : List NormalizedEvent) (entityIds : List String) :
    Except PyError (List FusionPipelineResult) :=
  entityIds.mapM (hostPipeline config runId window
    (evidencesOfAll library (events.filter fun e => window.includes e)))

theorem evaluatedResult_eq {selection : S0ReplayEventSelection}
    (hselects : Selects events runId window selection) (hhosts : ∀ e ∈ events, e.hostId ∈ entityIds)
    (hnamed : "" ∉ entityIds) :
    evaluatedResult library config window selection entityIds =
      pipelines library config window runId events entityIds >>= fun results => .ok
        { runId := runId, window, selection, notEvaluatedReason := none
          fusionResults := results.map (·.fusionResult)
          stoppingTraces := results.map (·.stoppingTrace) } := by
  have hin : ∀ e ∈ selection.includedEvents, e ∈ events := by
    intro e he
    rw [hselects.included] at he
    exact List.mem_of_mem_filter he
  have hrun : ∀ e ∈ selection.includedEvents, e.runId ≠ "" := fun e he =>
    hselects.ofRun e (hin e he) ▸ hselects.runId_ne
  have hhost : ∀ e ∈ selection.includedEvents, e.hostId ≠ "" := fun e he hempty =>
    hnamed (hempty ▸ hhosts e (hin e he))
  rw [evaluatedResult, extractAll_eq hrun hhost, Except.ok_bind', hselects.runId_eq,
    hselects.included]
  rfl

theorem nameless_not_mem {expected : List String}
    (h : validateExpectedEntityIds expected = .ok entityIds) : "" ∉ entityIds := by
  obtain ⟨-, hnonblank, -, rfl⟩ := validateExpectedEntityIds_eq_ok.mp h
  intro hmem
  exact absurd (hnonblank "" (mem_sortedBy.mp hmem)).1 (by decide)

section Run

variable {startTime endTime : PyDatetime} {expected : List String}

/-- Events of other runs are refused, wherever they stand. -/
theorem selectS0ReplayEvents_or (window : S0ReplayWindow)
    (hruns : (∃ e ∈ events, e.runId ≠ runId) ↔ ∃ e ∈ events', e.runId ≠ runId) :
    (∃ e, selectS0ReplayEvents events runId window = .error e ∧
        selectS0ReplayEvents events' runId window = .error e) ∨
      ∃ selection selection', selectS0ReplayEvents events runId window = .ok selection ∧
        selectS0ReplayEvents events' runId window = .ok selection' := by
  rw [selectS0ReplayEvents, selectS0ReplayEvents]
  cases hvalid : validateRunId runId with
  | error e => exact .inl ⟨e, rfl, rfl⟩
  | ok u =>
    by_cases hrun : ∃ e ∈ events, e.runId ≠ runId
    · exact .inl ⟨otherRun, foldlM_selectEvent_error hrun,
        foldlM_selectEvent_error (hruns.mp hrun)⟩
    · have hof : ∀ e ∈ events, e.runId = runId := by simpa using hrun
      have hof' : ∀ e ∈ events', e.runId = runId := by simpa using mt hruns.mpr hrun
      obtain ⟨selection, hok, -⟩ := @foldlM_selectEvent window events { runId } hof
      obtain ⟨selection', hok', -⟩ := @foldlM_selectEvent window events' { runId } hof'
      exact .inr ⟨selection, selection', hok, hok'⟩

/-- The results of a run, and what it raises, depend on whether it has Events of
other runs or hosts, and on its Events within the window, as a set. -/
theorem runS0RuntimeFusion_congr
    (hruns : (∃ e ∈ events, e.runId ≠ runId) ↔ ∃ e ∈ events', e.runId ≠ runId)
    (hhosts : ∀ entityIds, validateExpectedEntityIds expected = .ok entityIds →
      requireExpectedHosts events entityIds = requireExpectedHosts events' entityIds)
    (hsame : ∀ window, deriveS0ReplayWindow startTime endTime = .ok window →
      ∀ e, window.includes e → (e ∈ events ↔ e ∈ events')) :
    (runS0RuntimeFusion library formatG events runId startTime endTime expected config).map
        S0RuntimeFusionResult.results =
      (runS0RuntimeFusion library formatG events' runId startTime endTime expected config).map
        S0RuntimeFusionResult.results := by
  rw [runS0RuntimeFusion, runS0RuntimeFusion]
  refine Except.map_bind_congr fun u hstep => Except.map_bind_congr fun window hwindow => ?_
  refine Except.map_bind_congr fun entityIds hids => ?_
  obtain ⟨e, herror, herror'⟩ | ⟨selection, selection', hselection, hselection'⟩ :=
    selectS0ReplayEvents_or window hruns
  · rw [herror, herror']
    rfl
  · have hselects := selects_of_ok hselection
    have hselects' := selects_of_ok hselection'
    rw [hselection, hselection', Except.ok_bind', Except.ok_bind', hhosts entityIds hids]
    refine Except.map_bind_congr fun _ hexpected' => ?_
    by_cases hcovered : window.isCovered
    · have hexpected := hhosts entityIds hids ▸ hexpected'
      have hreplayable : Replayable config window :=
        ⟨(window_of_ok hwindow).1, (window_of_ok hwindow).2, hcovered,
          not_not.mp (raiseIf_eq_ok.mp hstep)⟩
      have hpipelines : pipelines library config window runId events entityIds =
          pipelines library config window runId events' entityIds := by
        refine congrArg (fun f => entityIds.mapM f) (funext fun host => ?_)
        exact hostPipeline_congr library hreplayable hselects.ofRun hselects'.ofRun
          fun e _ hin => hsame window hwindow e hin
      rw [if_neg (not_not.mpr hcovered), if_neg (not_not.mpr hcovered),
        evaluatedResult_eq hselects (requireExpectedHosts_eq_ok.mp hexpected) (nameless_not_mem hids),
        evaluatedResult_eq hselects' (requireExpectedHosts_eq_ok.mp hexpected')
          (nameless_not_mem hids), hpipelines]
      exact Except.map_bind_congr fun _ _ => rfl
    · rw [if_pos hcovered, if_pos hcovered]
      exact notEvaluatedResult_results (hselects.runId_eq.trans hselects'.runId_eq.symm)

/-- What a call that returns has been through. -/
structure Ran (library : ExtractorLibrary) (config : FusionConfig) (events : List NormalizedEvent)
    (runId : String) (startTime endTime : PyDatetime) (expected : List String)
    (r : S0RuntimeFusionResult) : Prop where
  entityIds : validateExpectedEntityIds expected = .ok (sortedBy id expected)
  window : deriveS0ReplayWindow startTime endTime = .ok r.window
  ofRun : ∀ e ∈ events, e.runId = runId
  step : s0ReplayDuration % config.stepSize = 0
  results : (¬ r.window.isCovered ∧
      (sortedBy id expected).mapM (fun host =>
        buildNotEvaluatedFusionResult runId host config.metadata) = .ok r.fusionResults ∧
      (sortedBy id expected).mapM (fun host =>
        emptyStoppingTrace runId host config.configVersion) = .ok r.stoppingTraces) ∨
    (r.window.isCovered ∧ ∃ outs,
      pipelines library config r.window runId events (sortedBy id expected) = .ok outs ∧
      r.fusionResults = outs.map (·.fusionResult) ∧ r.stoppingTraces = outs.map (·.stoppingTrace))

theorem ran_of_ok {r : S0RuntimeFusionResult}
    (h : runS0RuntimeFusion library formatG events runId startTime endTime expected config = .ok r) :
    Ran library config events runId startTime endTime expected r := by
  rw [runS0RuntimeFusion] at h
  obtain ⟨u, hstep, h⟩ := Except.bind_eq_ok.mp h
  obtain ⟨window, hwindow, h⟩ := Except.bind_eq_ok.mp h
  obtain ⟨entityIds, hids, h⟩ := Except.bind_eq_ok.mp h
  obtain ⟨selection, hselection, h⟩ := Except.bind_eq_ok.mp h
  obtain ⟨v, hexpected, h⟩ := Except.bind_eq_ok.mp h
  have hselects := selects_of_ok hselection
  have hstep := not_not.mp (raiseIf_eq_ok.mp hstep)
  have hnamed := nameless_not_mem hids
  have hsorted := (validateExpectedEntityIds_eq_ok.mp hids).2.2.2
  by_cases hcovered : window.isCovered
  · rw [if_neg (not_not.mpr hcovered),
      evaluatedResult_eq hselects (requireExpectedHosts_eq_ok.mp hexpected) hnamed] at h
    obtain ⟨outs, houts, h⟩ := Except.bind_eq_ok.mp h
    obtain rfl := Except.ok.inj h
    subst hsorted
    exact ⟨hids, hwindow, hselects.ofRun, hstep, .inr ⟨hcovered, outs, houts, rfl, rfl⟩⟩
  · rw [if_pos hcovered, notEvaluatedResult, hselects.runId_eq] at h
    obtain ⟨fusionResults, hresults, h⟩ := Except.bind_eq_ok.mp h
    obtain ⟨stoppingTraces, htraces, h⟩ := Except.bind_eq_ok.mp h
    obtain rfl := Except.pure_eq_ok.mp h
    subst hsorted
    exact ⟨hids, hwindow, hselects.ofRun, hstep, .inl ⟨hcovered, hresults, htraces⟩⟩

/-- A pipeline's outputs are of its host. -/
theorem hostPipeline_entity {evidences : List (Evidence S0Features)} {host : String}
    {out : FusionPipelineResult}
    (h : hostPipeline config runId window evidences host = .ok out) :
    out.fusionResult.val.entityId = host ∧ out.stoppingTrace.val.entityId = host := by
  rw [hostPipeline, outcome_runFusionPipelineFromConfig] at h
  obtain ⟨r, -, h⟩ := Except.bind_eq_ok.mp h
  rw [buildOutputs] at h
  obtain ⟨result, hresult, h⟩ := Except.bind_eq_ok.mp h
  obtain ⟨points, -, h⟩ := Except.bind_eq_ok.mp h
  obtain ⟨trace, htrace, h⟩ := Except.bind_eq_ok.mp h
  obtain rfl := Except.pure_eq_ok.mp h
  rw [buildFusionResult] at hresult
  obtain ⟨episodes, -, hresult⟩ := Except.bind_eq_ok.mp hresult
  obtain ⟨ids, -, hresult⟩ := Except.bind_eq_ok.mp hresult
  exact ⟨congrArg ResultFields.entityId (val_of_construct hresult),
    congrArg TraceFields.entityId (val_of_construct htrace)⟩

theorem notEvaluated_entity {host : String} {metadata : ScoringMetadata} {result : FusionResult}
    (h : buildNotEvaluatedFusionResult runId host metadata = .ok result) :
    result.val.entityId = host :=
  congrArg ResultFields.entityId (val_of_construct h)

theorem emptyStoppingTrace_entity {host version : String} {trace : FusionStoppingTrace}
    (h : emptyStoppingTrace runId host version = .ok trace) : trace.val.entityId = host :=
  congrArg TraceFields.entityId (val_of_construct h)

/-- One result and one trace for every expected host, in sorted order. -/
theorem Ran.entities {r : S0RuntimeFusionResult}
    (h : Ran library config events runId startTime endTime expected r) :
    r.fusionResults.map (·.val.entityId) = sortedBy id expected ∧
      r.stoppingTraces.map (·.val.entityId) = sortedBy id expected := by
  have hid := List.map_id (sortedBy id expected)
  obtain ⟨-, hresults, htraces⟩ | ⟨-, outs, houts, hresults, htraces⟩ := h.results
  · exact ⟨(map_of_mapM (fun _ _ => notEvaluated_entity) hresults).trans hid,
      (map_of_mapM (fun _ _ => emptyStoppingTrace_entity) htraces).trans hid⟩
  · rw [hresults, htraces, List.map_map, List.map_map]
    exact ⟨(map_of_mapM (fun _ _ hout => (hostPipeline_entity hout).1) houts).trans hid,
      (map_of_mapM (fun _ _ hout => (hostPipeline_entity hout).2) houts).trans hid⟩

/-- Two calls that return give a host the same result, where it has the same Events. -/
theorem Ran.resultOf_eq {r r' : S0RuntimeFusionResult} {host : String}
    (h : Ran library config events runId startTime endTime expected r)
    (h' : Ran library config events' runId startTime endTime expected r')
    (hsame : ∀ e, e.hostId = host → (e ∈ events ↔ e ∈ events')) :
    r.resultOf host = r'.resultOf host := by
  have hwindow : r.window = r'.window := Except.ok.inj (h.window.symm.trans h'.window)
  rw [S0RuntimeFusionResult.resultOf, S0RuntimeFusionResult.resultOf]
  obtain ⟨hcovered, hresults, htraces⟩ | ⟨hcovered, outs, houts, hresults, htraces⟩ := h.results
  · obtain ⟨-, hresults', htraces'⟩ | ⟨hcovered', -⟩ := h'.results
    · rw [Except.ok.inj (hresults.symm.trans hresults'), Except.ok.inj (htraces.symm.trans htraces')]
    · exact absurd (hwindow ▸ hcovered') hcovered
  · obtain ⟨hcovered', -⟩ | ⟨-, outs', houts', hresults', htraces'⟩ := h'.results
    · exact absurd (hwindow ▸ hcovered) hcovered'
    · have hreplayable : Replayable config r.window :=
        ⟨(window_of_ok h.window).1, (window_of_ok h.window).2, hcovered, h.step⟩
      have hpipeline := hostPipeline_congr library hreplayable h.ofRun h'.ofRun
        fun e he _ => hsame e he
      rw [pipelines] at houts houts'
      rw [← hwindow] at houts'
      rw [hresults, hresults', htraces, htraces', List.find?_map, List.find?_map, List.find?_map,
        List.find?_map]
      have hfound := find?_of_mapM (fun _ _ hout => (hostPipeline_entity hout).1) houts host
      have hfound' := find?_of_mapM (fun _ _ hout => (hostPipeline_entity hout).1) houts' host
      have htrace := find?_of_mapM (fun _ _ hout => (hostPipeline_entity hout).2) houts host
      have htrace' := find?_of_mapM (fun _ _ hout => (hostPipeline_entity hout).2) houts' host
      rw [hpipeline] at hfound htrace
      refine Prod.ext ?_ ?_
      · exact congrArg (Option.map FusionPipelineResult.fusionResult) (hfound.trans hfound'.symm)
      · exact congrArg (Option.map FusionPipelineResult.stoppingTrace) (htrace.trans htrace'.symm)

end Run

/-! ## Isolation -/

/-- What the results of `run_s0_runtime_fusion` show of its Events. -/
structure HostIsolation (library : ExtractorLibrary) (formatG : Int → String) (runId : String)
    (startTime endTime : PyDatetime) (expected : List String) (config : FusionConfig) : Prop where
  /-- One result for every expected host, in sorted order. -/
  one_each : ∀ events r,
    runS0RuntimeFusion library formatG events runId startTime endTime expected config = .ok r →
      expected.Nodup ∧ r.fusionResults.map (·.val.entityId) = sortedBy id expected ∧
        r.stoppingTraces.map (·.val.entityId) = sortedBy id expected
  /-- The order of the Events does not show, in the results or in an error. -/
  order : ∀ events events', events.Perm events' →
    (runS0RuntimeFusion library formatG events runId startTime endTime expected config).map
        S0RuntimeFusionResult.results =
      (runS0RuntimeFusion library formatG events' runId startTime endTime expected config).map
        S0RuntimeFusionResult.results
  /-- Events of the run and its hosts outside the window do not show. -/
  outside : ∀ events events' window, deriveS0ReplayWindow startTime endTime = .ok window →
    (∀ e ∈ events ++ events', e.runId = runId ∧ e.hostId ∈ expected) →
    (∀ e, window.includes e → (e ∈ events ↔ e ∈ events')) →
    (runS0RuntimeFusion library formatG events runId startTime endTime expected config).map
        S0RuntimeFusionResult.results =
      (runS0RuntimeFusion library formatG events' runId startTime endTime expected config).map
        S0RuntimeFusionResult.results
  /-- Where both calls return, the Events of other hosts do not show. -/
  others : ∀ events events' r r' host,
    runS0RuntimeFusion library formatG events runId startTime endTime expected config = .ok r →
    runS0RuntimeFusion library formatG events' runId startTime endTime expected config = .ok r' →
    (∀ e, e.hostId = host → (e ∈ events ↔ e ∈ events')) → r.resultOf host = r'.resultOf host

/-- The hosts of a run are isolated from each other. -/
theorem runS0RuntimeFusion_isolated (library : ExtractorLibrary) (formatG : Int → String)
    (runId : String) (startTime endTime : PyDatetime) (expected : List String)
    (config : FusionConfig) :
    HostIsolation library formatG runId startTime endTime expected config := by
  constructor
  · intro events r h
    have hran := ran_of_ok h
    exact ⟨(validateExpectedEntityIds_eq_ok.mp hran.entityIds).2.2.1, hran.entities⟩
  · intro events events' hperm
    have hexists : ∀ p : NormalizedEvent → Prop, (∃ e ∈ events, p e) ↔ ∃ e ∈ events', p e := by
      intro p
      simp only [hperm.mem_iff]
    exact runS0RuntimeFusion_congr (hexists _) (fun _ _ => requireExpectedHosts_congr fun _ => hexists _)
      fun _ _ _ _ => hperm.mem_iff
  · intro events events' window hwindow haccepted hsame
    have hown : ∀ e ∈ events, e.runId = runId ∧ e.hostId ∈ expected :=
      fun e he => haccepted e (List.mem_append_left _ he)
    have hown' : ∀ e ∈ events', e.runId = runId ∧ e.hostId ∈ expected :=
      fun e he => haccepted e (List.mem_append_right _ he)
    refine runS0RuntimeFusion_congr ?_ ?_ ?_
    · exact iff_of_false (fun ⟨e, he, hne⟩ => hne (hown e he).1) fun ⟨e, he, hne⟩ => hne (hown' e he).1
    · intro entityIds hids
      obtain ⟨-, -, -, rfl⟩ := validateExpectedEntityIds_eq_ok.mp hids
      have hok : requireExpectedHosts events (sortedBy id expected) = .ok () :=
        requireExpectedHosts_eq_ok.mpr fun e he => mem_sortedBy.mpr (hown e he).2
      have hok' : requireExpectedHosts events' (sortedBy id expected) = .ok () :=
        requireExpectedHosts_eq_ok.mpr fun e he => mem_sortedBy.mpr (hown' e he).2
      rw [hok, hok']
    · intro window' hwindow' e hin
      obtain rfl : window = window' := Except.ok.inj (hwindow.symm.trans hwindow')
      exact hsame e hin
  · intro events events' r r' host h h' hsame
    exact (ran_of_ok h).resultOf_eq (ran_of_ok h') hsame

end Isolation

/-! ## Samples -/

namespace Sample

/-- The library on the names and the command line of the sample. -/
def library : ExtractorLibrary where
  casefold name := name
  shlexSplit line :=
    if line = "powershell.exe -enc SQBFAFgA" then some ["powershell.exe", "-enc", "SQBFAFgA"] else none
  ipAddress _ := none
  uuid5 _ := "78a187c1-564f-5599-9d69-59160f40f623"

theorem configVersion_nonblank : isBlank "fusion_v0" = false := by decide

theorem noModel_nonblank : ∀ v ∈ (none : Option String), isBlank v = false := by decide

theorem scorerVersion_nonblank : isBlank "score_v0" = false := by decide

theorem thresholdOn_mem : (0 : ℚ) ≤ 3 / 4 ∧ (3 / 4 : ℚ) ≤ 1 := by norm_num

theorem thresholdOff_mem : (0 : ℚ) ≤ 1 / 4 ∧ (1 / 4 : ℚ) ≤ 1 := by norm_num

theorem persistenceK_pos : 1 ≤ 2 := by decide

theorem step_pos : 0 < timedeltaSeconds (binary64 660) := by decide +kernel

theorem step_millis : ((660 : ℚ) * 1000).isInt = true := by decide +kernel

/-- A window without end, one point at each end of the replay. -/
def config : FusionConfig where
  configVersion := "fusion_v0"
  windowSize := 70000000000000000
  stepSizeSec := 660
  scorerVersion := "score_v0"
  profileId := "profile_v1"
  evidenceTypes := ["encoded_powershell_command"]
  thresholdOn := 3 / 4
  thresholdOff := 1 / 4
  persistenceK := 2
  configVersion_nonblank := configVersion_nonblank
  modelVersion_nonblank := noModel_nonblank
  scorerVersion_nonblank := scorerVersion_nonblank
  thresholdOn_mem := thresholdOn_mem
  thresholdOff_mem := thresholdOff_mem
  thresholdOff_lt := by norm_num
  persistenceK_pos := persistenceK_pos
  stepSize_pos := step_pos
  stepSizeSec_millis := step_millis

theorem sourceTime_eventTime : sourceTime (some 1000) none none .eventTime = some 1000 := rfl

/-- A shell that runs an encoded command. -/
def shell : NormalizedEvent where
  eventId := "evt-21"
  runId := "run-1"
  timestamp := 1000
  timestampSource := .eventTime
  eventTime := some 1000
  hostId := "WIN-02"
  source := "sysmon"
  sourceLayer := .rawTelemetry
  sourceEventId := "153"
  eventType := "process_create"
  rawRef :=
    { rawLogId := "log-21", segmentNo := 1, recordNo := 1
      segmentNo_pos := Nat.one_pos
      recordNo_pos := Nat.one_pos }
  process := some
    { name := some "powershell.exe", commandLine := some "powershell.exe -enc SQBFAFgA"
      processGuid_nonblank := noModel_nonblank
      parentProcessGuid_nonblank := noModel_nonblank }
  timestamp_eq := sourceTime_eventTime

/-- A call on the Events of a run from 1970-01-01T00:00:00Z, observed for 660 s. -/
def call (events : List NormalizedEvent) (hosts : List String) : Except PyError S0RuntimeFusionResult :=
  runS0RuntimeFusion library (fun _ => "660") events "run-1" (.utc 0) (.utc 660000000) hosts config

/-- The same run, whose Event comes after the window. -/
def late : NormalizedEvent := { shell with
  timestamp := 660001
  eventTime := some 660001
  timestamp_eq := rfl }

theorem hour_pos : (0 : Int) < 3600000000 := by decide

/-- A window of an hour. -/
def hourConfig : FusionConfig :=
  { config with windowSize := 3600000000, windowSize_pos := hour_pos }

/-- A call on the Events of two hosts with this window. -/
abbrev hourCall (events : List NormalizedEvent) : Except PyError S0RuntimeFusionResult :=
  runS0RuntimeFusion library (fun _ => "660") events "run-1" (.utc 0) (.utc 660000000)
    ["WIN-02", "WIN-01"] hourConfig

/-- `late` is not in the window of the replay. -/
theorem includes_shell (e : NormalizedEvent)
    (h : (S0ReplayWindow.mk 0 660000000 660000000).includes e) :
    e ∈ [late, shell] ↔ e ∈ [shell] := by
  have hlate : ¬ (S0ReplayWindow.mk 0 660000000 660000000).includes late := by decide
  rw [List.mem_cons, or_iff_right]
  rintro rfl
  exact hlate h

theorem hourCall_isOk : (hourCall [shell]).isOk ∧ (hourCall []).isOk := by
  decide +kernel

end Sample

open Sample

/-- The shell is on one host, and an Event after the window is added and left out. -/
theorem runS0RuntimeFusion_isolated_shell : ∃ r r',
    hourCall [shell] = .ok r ∧ hourCall [] = .ok r' ∧
      r.resultOf "WIN-01" = r'.resultOf "WIN-01" ∧
      r.fusionResults.map (·.val.entityId) = sortedBy id ["WIN-02", "WIN-01"] ∧
      (hourCall [late, shell]).map S0RuntimeFusionResult.results =
        (hourCall [shell]).map S0RuntimeFusionResult.results := by
  obtain ⟨hok, hok'⟩ := hourCall_isOk
  cases h : hourCall [shell] with
  | error e =>
    rw [h] at hok
    cases hok
  | ok r =>
    cases h' : hourCall [] with
    | error e =>
      rw [h'] at hok'
      cases hok'
    | ok r' =>
      have isolated := runS0RuntimeFusion_isolated library (fun _ => "660") "run-1" (.utc 0)
        (.utc 660000000) ["WIN-02", "WIN-01"] hourConfig
      refine ⟨r, r', rfl, rfl, ?_, (isolated.one_each _ r h).2.1, ?_⟩
      · refine isolated.others _ _ r r' "WIN-01" h h' fun e he => ?_
        simp only [List.mem_singleton, List.not_mem_nil, iff_false]
        rintro rfl
        exact absurd he (by decide)
      · rw [← h]
        exact isolated.outside _ _ _ rfl (by decide +kernel) includes_shell

/-- An Event of a host that is not expected is refused outside the window too; and
where the window's cutoff is no datetime, the Evidence of one host leaves the
others without results. -/
theorem runS0RuntimeFusion_refuses :
    (call [] ["WIN-01"]).isOk = true ∧
      (call [late] ["WIN-01"]).map (fun _ => ()) =
        .error (.valueError "NormalizedEvent host_id is not in expected_entity_ids: WIN-02") ∧
      (call [] ["WIN-01", "WIN-02"]).isOk = true ∧
      (call [shell] ["WIN-01", "WIN-02"]).map (fun _ => ()) = .error dateValueOutOfRange := by
  refine ⟨?_, ?_, ?_, ?_⟩
  · decide +kernel
  · decide +kernel
  · decide +kernel
  · decide +kernel

end IncidentAwareness.Integration
