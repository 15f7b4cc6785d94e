import IncidentAwareness.Dashboard.SelectedRunPage
import Mathlib.Data.List.Nodup
import Mathlib.Data.Option.Basic

/-!
# The panels belong to the selected run

`selectedRunPanels`: after any events, everything the panels show was answered to
requests of one load of the selected run, no two Decision ids meet in them, the event
summary was asked for the selected run, a pending version has its load outstanding,
and at most one timer of the runtime poll is armed.

The invariant has four parts, each about the variables it names: what is shown comes
from the answers of `selectedAnalysisQueryStates` (`ShownOwned`), the loads that are
out (`LoadsOwned`), the event summary and the timers. A load that has been taken out
of `loads` and has not returned yet is the `gap` of `LoadsOwned`.
-/

namespace IncidentAwareness.Dashboard.SelectedRun

open IncidentAwareness.Lib

variable {draws : StoppingTrace → Option RuntimeConfigSnapshot → Bool}
  {detail : Answer RunDetailPayload} {fusion : Answer FusionEnginePayload}

/-! ## What two answers show -/

/-- Where a part was taken from: its request, and the id of the current Decision there. -/
def Part.origin {α : Type} (p : Part α) : LoadRequest × Option String := (p.request, p.decisionId)

/-- The origins of what a view shows. -/
def AnalysisView.origins (v : AnalysisView) : List (LoadRequest × Option String) :=
  (v.decision.map Part.origin).toList ++ (v.fusionResult.map Part.origin).toList ++
    (v.runtimeConfig.map Part.origin).toList ++ (v.chart.map Part.origin).toList

/-- The origin of what an answer of Run Detail contributes. -/
def detailOrigin (detail : Answer RunDetailPayload) : LoadRequest × Option String :=
  (detail.request, detail.state.payload?.bind (·.decisionId))

/-- The origin of what an answer of Fusion Engine contributes. -/
def fusionOrigin (fusion : Answer FusionEnginePayload) : LoadRequest × Option String :=
  (fusion.request, fusion.state.payload?.bind (·.decisionId))

theorem origin_of_detail {α : Type} {value : Option α} {p : Part α}
    (h : p ∈ value.map (detailPart detail)) : p.origin = detailOrigin detail := by
  obtain ⟨v, -, rfl⟩ := Option.map_eq_some_iff.mp h
  rfl

theorem origin_of_fusion {α : Type} {value : Option α} {p : Part α}
    (h : p ∈ value.map (fusionPart fusion)) : p.origin = fusionOrigin fusion := by
  obtain ⟨v, -, rfl⟩ := Option.map_eq_some_iff.mp h
  rfl

/-- Where a part may come from: Run Detail, or Fusion Engine if the source uses it. -/
def FromAnswers (detail : Answer RunDetailPayload) (fusion : Answer FusionEnginePayload)
    (o : LoadRequest × Option String) : Prop :=
  o = detailOrigin detail ∨
    (answerSource detail fusion).usesFusionEngine = true ∧ o = fusionOrigin fusion

theorem fromAnswers_decision {p : Part Decision} (h : p ∈ shownDecision detail fusion) :
    FromAnswers detail fusion p.origin := by
  rw [shownDecision] at h
  split at h
  · exact .inl (origin_of_detail h)
  · exact .inl (origin_of_detail h)
  · rename_i hsource
    exact .inr ⟨by rw [hsource]; rfl, origin_of_fusion h⟩
  · exact absurd h (Option.not_mem_none p)
  · exact absurd h (Option.not_mem_none p)

theorem fromAnswers_fusionResult {p : Part FusionResult} (h : p ∈ shownFusionResult detail fusion) :
    FromAnswers detail fusion p.origin := by
  rw [shownFusionResult] at h
  split at h
  · rename_i hsource
    rw [Option.mem_def, Option.orElse_eq_some] at h
    rcases h with hengine | ⟨-, hdetail⟩
    · exact .inr ⟨by rw [hsource]; rfl, origin_of_fusion hengine⟩
    · exact .inl (origin_of_detail hdetail)
  · exact .inl (origin_of_detail h)
  · rename_i hsource
    exact .inr ⟨by rw [hsource]; rfl, origin_of_fusion h⟩
  · rename_i hsource
    exact .inr ⟨by rw [hsource]; rfl, origin_of_fusion h⟩
  · exact absurd h (Option.not_mem_none p)

theorem fromAnswers_runtimeConfig {p : Part RuntimeConfigSnapshot}
    (h : p ∈ shownRuntimeConfig detail fusion) : FromAnswers detail fusion p.origin := by
  rw [shownRuntimeConfig] at h
  split at h
  · rename_i huses
    exact .inr ⟨huses, origin_of_fusion h⟩
  · exact absurd h (Option.not_mem_none p)

theorem fromAnswers_chart {p : Part StoppingTrace} (h : p ∈ shownChart draws detail fusion) :
    FromAnswers detail fusion p.origin := by
  rw [shownChart] at h
  split at h
  · exact absurd h (Option.not_mem_none p)
  · have htrace := (Option.mem_filter_iff.mp h).1
    rw [shownStoppingTrace] at htrace
    split at htrace
    · rename_i huses
      exact .inr ⟨huses, origin_of_fusion htrace⟩
    · exact absurd htrace (Option.not_mem_none p)

theorem fromAnswers_view {o : LoadRequest × Option String}
    (h : o ∈ (analysisView draws detail fusion).origins) : FromAnswers detail fusion o := by
  simp only [AnalysisView.origins, analysisView, List.mem_append, Option.mem_toList,
    Option.map_eq_some_iff] at h
  rcases h with ((⟨p, hp, rfl⟩ | ⟨p, hp, rfl⟩) | ⟨p, hp, rfl⟩) | ⟨p, hp, rfl⟩
  · exact fromAnswers_decision hp
  · exact fromAnswers_fusionResult hp
  · exact fromAnswers_runtimeConfig hp
  · exact fromAnswers_chart hp

theorem fromAnswers_history {p : Part (List Decision)} (h : p ∈ decisionHistoryItems detail) :
    FromAnswers detail fusion p.origin :=
  .inl (origin_of_detail h)

/-- Where the source uses Fusion Engine, the Decision ids of the answers do not differ. -/
theorem decisionIds_agree (huses : (answerSource detail fusion).usesFusionEngine = true)
    {a b : String} (ha : (detailOrigin detail).2 = some a) (hb : (fusionOrigin fusion).2 = some b) :
    a = b := by
  have ha' : detail.state.payload?.bind (·.decisionId) = some a := ha
  have hb' : fusion.state.payload?.bind (·.decisionId) = some b := hb
  by_contra hne
  have hmismatch : getDecisionVersionConsistency detail.state.payload? fusion.state.payload? =
      .mismatch := by
    rw [getDecisionVersionConsistency, ha', hb']
    exact if_neg hne
  have hsource : answerSource detail fusion = .runDetail := by
    rw [answerSource, getSelectedAnalysisSource, hmismatch, if_neg (by decide), ha']
    exact if_pos rfl
  rw [hsource] at huses
  exact absurd huses (by decide)

/-- No two Decision ids meet in what two answers show. -/
theorem decisionId_unique {o o' : LoadRequest × Option String} (ho : FromAnswers detail fusion o)
    (ho' : FromAnswers detail fusion o') {a b : String} (ha : o.2 = some a) (hb : o'.2 = some b) :
    a = b := by
  rcases ho with rfl | ⟨huses, rfl⟩ <;> rcases ho' with rfl | ⟨huses', rfl⟩
  · exact Option.some.inj (ha.symm.trans hb)
  · exact decisionIds_agree huses' ha hb
  · exact (decisionIds_agree huses hb ha).symm
  · exact Option.some.inj (ha.symm.trans hb)

/-! ## The invariant -/

/-- What is shown comes from the answers of the last applied load, and that load was one of
the selected run. -/
structure ShownOwned (draws : StoppingTrace → Option RuntimeConfigSnapshot → Bool)
    (selectedRunId : Option RunId)
    (queryStates : Option (Answer RunDetailPayload × Answer FusionEnginePayload))
    (targetHost : Option String) (view : Option AnalysisView)
    (history : Option (Part (List Decision))) : Prop where
  answers : ∀ q ∈ queryStates,
    selectedRunId = some q.1.request.runId ∧ q.2.request = q.1.request
  host : targetHost = queryStates.bind fun q =>
    getSelectedAnalysisTargetHost q.1.state.payload? q.2.state.payload?
  view : ∀ v ∈ view, ∃ q ∈ queryStates, v = analysisView draws q.1 q.2
  history : ∀ h ∈ history, ∃ q ∈ queryStates, h ∈ decisionHistoryItems q.1

/-- The answers a load holds are its own. -/
structure Load.Own (load : Load) : Prop where
  detail : ∀ a ∈ load.detail, a.request = load.request
  fusion : ∀ a ∈ load.fusion, a.request = load.request

/-- The loads that are out: one of the current version is of the selected run, and the
pending version has its load among them, unless it is the one in the `gap`. -/
structure LoadsOwned (gap : Option Nat) (selectedRunId : Option RunId)
    (requestVersion : Nat) (pendingVersion : Option Nat) (loads : List Load) : Prop where
  own : ∀ l ∈ loads, l.Own
  version_le : ∀ l ∈ loads, l.request.version ≤ requestVersion
  selected : ∀ l ∈ loads, l.request.version = requestVersion →
    selectedRunId = some l.request.runId
  pending : ∀ v ∈ pendingVersion, gap = some v ∨ ∃ l ∈ loads, l.request.version = v
  distinct : (loads.map (·.request.version)).Nodup

/-- The event summary shown was asked for the selected run. -/
def SummaryOwned (selectedRunId : Option RunId) (summary : EventTypeSummary) : Prop :=
  ∀ request result, summary = .shown request result → selectedRunId = some request.runId

/-- While a load of the current version is out, it is the pending one and the panels are
empty: `rerenderSelectedAnalysis` waits for it. -/
def Waiting (p : Page) : Prop :=
  ∀ l ∈ p.loads, l.request.version = p.selectedRequestVersion →
    p.selectedAnalysisPendingVersion = some l.request.version ∧ p.view = none ∧ p.history = none

/-- The invariant of the page. -/
structure Owned (draws : StoppingTrace → Option RuntimeConfigSnapshot → Bool) (gap : Option Nat)
    (p : Page) : Prop where
  shown : ShownOwned draws p.selectedRunId p.selectedAnalysisQueryStates
    p.selectedAnalysisTargetHost p.view p.history
  loads : LoadsOwned gap p.selectedRunId p.selectedRequestVersion
    p.selectedAnalysisPendingVersion p.loads
  waiting : Waiting p
  summary : SummaryOwned p.selectedRunId p.eventTypeSummary
  timers : p.timers = p.runtimePollTimeoutId.toList

/-- No load of the current version is out. -/
def Page.Idle (p : Page) : Prop := ∀ l ∈ p.loads, l.request.version ≠ p.selectedRequestVersion

/-! ## What each part of the code keeps -/

section Parts

variable {p : Page} {gap : Option Nat}

theorem waiting_of_idle (h : p.Idle) : Waiting p := fun l hl hversion => absurd hversion (h l hl)

theorem idle_of_pending (h : Waiting p) (hpending : p.selectedAnalysisPendingVersion = none) :
    p.Idle := by
  intro l hl hversion
  have := (h l hl hversion).1
  rw [hpending] at this
  exact absurd this (by simp)

theorem summaryOwned_loading {selectedRunId : Option RunId} :
    SummaryOwned selectedRunId .loading := by
  intro request result h
  exact absurd h (by simp)

theorem ShownOwned.clear {selectedRunId : Option RunId}
    {queryStates : Option (Answer RunDetailPayload × Answer FusionEnginePayload)}
    {targetHost : Option String} {view : Option AnalysisView}
    {history : Option (Part (List Decision))}
    (h : ShownOwned draws selectedRunId queryStates targetHost view history) :
    ShownOwned draws selectedRunId queryStates targetHost none none where
  answers := h.answers
  host := h.host
  view := fun v hv => absurd hv (Option.not_mem_none v)
  history := fun l hl => absurd hl (Option.not_mem_none l)

theorem shownOwned_nothing {selectedRunId : Option RunId} :
    ShownOwned draws selectedRunId none none none none where
  answers := fun q hq => absurd hq (Option.not_mem_none q)
  host := rfl
  view := fun v hv => absurd hv (Option.not_mem_none v)
  history := fun l hl => absurd hl (Option.not_mem_none l)

/-- A load that has just asked. -/
theorem own_of_asking {request : LoadRequest} {after : Option Nat} :
    Load.Own ⟨request, none, none, after⟩ :=
  ⟨fun a ha => absurd ha (Option.not_mem_none a), fun a ha => absurd ha (Option.not_mem_none a)⟩

theorem nodup_append_load {loads : List Load} {load : Load}
    (h : (loads.map (·.request.version)).Nodup)
    (hnew : ∀ l ∈ loads, l.request.version ≠ load.request.version) :
    ((loads ++ [load]).map (·.request.version)).Nodup := by
  rw [List.map_append, List.nodup_append]
  refine ⟨h, List.nodup_singleton _, ?_⟩
  intro v hv v' hv'
  obtain ⟨l, hl, rfl⟩ := List.mem_map.mp hv
  rw [List.mem_singleton.mp hv']
  exact hnew l hl

/-- A new load, of the selected run. -/
theorem loadsOwned_issue {selectedRunId : Option RunId} {requestVersion : Nat}
    {loads : List Load} {runId : RunId} {after : Option Nat}
    (hle : ∀ l ∈ loads, l.Own ∧ l.request.version ≤ requestVersion)
    (hdistinct : (loads.map (·.request.version)).Nodup)
    (hselected : selectedRunId = some runId) :
    LoadsOwned none selectedRunId (requestVersion + 1) (some (requestVersion + 1))
      (loads ++ [⟨⟨runId, requestVersion + 1, .first⟩, none, none, after⟩]) := by
  refine ⟨?_, ?_, ?_, ?_, ?_⟩
  · intro l hl
    rcases List.mem_append.mp hl with hl | hl
    · exact (hle l hl).1
    · rw [List.mem_singleton.mp hl]
      exact own_of_asking
  · intro l hl
    rcases List.mem_append.mp hl with hl | hl
    · have := (hle l hl).2
      omega
    · have hversion := congrArg (·.request.version) (List.mem_singleton.mp hl)
      exact Nat.le_of_eq hversion
  · intro l hl hversion
    rcases List.mem_append.mp hl with hl | hl
    · have := (hle l hl).2
      omega
    · rw [List.mem_singleton.mp hl]
      exact hselected
  · intro v hv
    refine .inr ⟨_, List.mem_append_right _ List.mem_cons_self, ?_⟩
    exact Option.some.inj hv
  · refine nodup_append_load hdistinct fun l hl hversion => ?_
    have hle' := (hle l hl).2
    change l.request.version = requestVersion + 1 at hversion
    omega

theorem waiting_load {runId : RunId} {after : Option Nat}
    (hle : ∀ l ∈ p.loads, l.request.version ≤ p.selectedRequestVersion) :
    Waiting (p.loadSelectedRunAnalysis runId after) := by
  intro l hl hversion
  rcases List.mem_append.mp hl with hl | hl
  · have hle' := hle l hl
    change l.request.version = p.selectedRequestVersion + 1 at hversion
    omega
  · rw [List.mem_singleton.mp hl]
    exact ⟨rfl, rfl, rfl⟩

theorem owned_load {runId : RunId} {after : Option Nat} (h : Owned draws gap p)
    (hselected : p.selectedRunId = some runId) :
    Owned draws none (p.loadSelectedRunAnalysis runId after) where
  shown := h.shown.clear
  loads := loadsOwned_issue (fun l hl => ⟨h.loads.own l hl, h.loads.version_le l hl⟩)
    h.loads.distinct hselected
  waiting := waiting_load h.loads.version_le
  summary := h.summary
  timers := h.timers

theorem owned_selectRun {runId : RunId} {runtimeEntityId : Option String} (h : Owned draws gap p) :
    Owned draws none (p.selectRun runId runtimeEntityId) where
  shown := shownOwned_nothing
  loads := loadsOwned_issue (fun l hl => ⟨h.loads.own l hl, h.loads.version_le l hl⟩)
    h.loads.distinct rfl
  waiting := waiting_load h.loads.version_le
  summary := summaryOwned_loading
  timers := h.timers

theorem owned_refreshSelectedEventSummary (h : Owned draws gap p) :
    Owned draws gap p.refreshSelectedEventSummary := by
  rw [Page.refreshSelectedEventSummary]
  split
  · exact h
  · exact ⟨h.shown, h.loads, h.waiting, summaryOwned_loading, h.timers⟩

theorem owned_finishSelection {selection : TimelineRequest} (h : Owned draws gap p) :
    Owned draws gap (p.finishSelection selection) := by
  rw [Page.finishSelection]
  split
  · exact ⟨h.shown, h.loads, h.waiting, h.summary, h.timers⟩
  · exact h

theorem owned_finishEventSummary {request : TimelineRequest}
    {result : QueryState EventTimelinePayload} (h : Owned draws gap p) :
    Owned draws gap (p.finishEventSummary request result) := by
  rw [Page.finishEventSummary]
  split
  · rename_i hcurrent
    refine ⟨h.shown, h.loads, h.waiting, ?_, h.timers⟩
    intro request' result' heq
    obtain ⟨rfl, rfl⟩ := EventTypeSummary.shown.inj heq
    exact hcurrent.2
  · exact h

/-- Showing the answers that `selectedAnalysisQueryStates` holds. -/
theorem owned_render (h : Owned draws gap p) (hidle : p.Idle)
    (hstates : p.selectedAnalysisQueryStates = some (detail, fusion)) :
    Owned draws gap (p.renderSelectedAnalysis draws detail fusion) where
  shown := by
    refine ⟨h.shown.answers, h.shown.host, ?_, ?_⟩
    · intro v hv
      exact ⟨(detail, fusion), hstates, (Option.some.inj hv).symm⟩
    · intro l hl
      change (decisionHistoryItems detail <|> p.history) = some l at hl
      rw [Option.orElse_eq_some] at hl
      rcases hl with hitems | ⟨-, hprevious⟩
      · exact ⟨(detail, fusion), hstates, hitems⟩
      · exact h.shown.history l hprevious
  loads := h.loads
  waiting := waiting_of_idle hidle
  summary := h.summary
  timers := h.timers

theorem owned_rerender (h : Owned draws gap p) :
    Owned draws gap (p.rerenderSelectedAnalysis draws) := by
  rw [Page.rerenderSelectedAnalysis]
  split
  · rename_i hstates hpending
    exact owned_render h (idle_of_pending h.waiting hpending) hstates
  · exact h

/-- The answers of a load of the selected run are shown in panels that are empty. -/
theorem owned_applyAnswers (h : Owned draws gap p) (hidle : p.Idle) (hhistory : p.history = none)
    (hselected : p.selectedRunId = some detail.request.runId)
    (hsame : fusion.request = detail.request) :
    Owned draws gap (p.applyAnswers draws detail fusion) := by
  refine owned_render (p := { p with
    selectedAnalysisQueryStates := some (detail, fusion)
    selectedAnalysisTargetHost := _, view := none }) ⟨?_, h.loads, ?_, h.summary, h.timers⟩ hidle rfl
  · refine ⟨?_, rfl, ?_, ?_⟩
    · intro q hq
      obtain rfl := Option.some.inj hq
      exact ⟨hselected, hsame⟩
    · intro v hv
      exact absurd hv (Option.not_mem_none v)
    · intro l hl
      exact absurd (hhistory.symm.trans hl) (by simp)
  · exact waiting_of_idle hidle

theorem owned_finishLoad {load : Load} (h : Owned draws (some load.request.version) p)
    (hout : ∀ l ∈ p.loads, l.request.version ≠ load.request.version) :
    Owned draws none (p.finishLoad load) where
  shown := h.shown
  loads := by
    refine ⟨h.loads.own, h.loads.version_le, h.loads.selected, ?_, h.loads.distinct⟩
    intro v hv
    change (if _ then none else p.selectedAnalysisPendingVersion) = some v at hv
    split at hv
    · exact absurd hv (by simp)
    · rename_i hother
      rcases h.loads.pending v hv with hgap | hload
      · exact absurd (hv.trans hgap.symm) hother
      · exact .inr hload
  waiting := by
    intro l hl hversion
    have hl' := h.waiting l hl hversion
    refine ⟨?_, hl'.2⟩
    have hne : p.selectedAnalysisPendingVersion ≠ some load.request.version := by
      rw [hl'.1]
      exact fun heq => hout l hl (Option.some.inj heq)
    exact (if_neg hne).trans hl'.1
  summary := h.summary
  timers := h.timers

/-- A load taken out of the loads leaves a gap of its version. -/
theorem loadsOwned_takeOut {load : Load} {selectedRunId : Option RunId} {requestVersion : Nat}
    {pendingVersion : Option Nat} {loads : List Load}
    (h : LoadsOwned none selectedRunId requestVersion pendingVersion loads) :
    LoadsOwned (some load.request.version) selectedRunId requestVersion pendingVersion
      (loads.filter (·.request.version ≠ load.request.version)) := by
  have hsub : ∀ l ∈ loads.filter (·.request.version ≠ load.request.version), l ∈ loads :=
    fun l hl => (List.mem_filter.mp hl).1
  refine ⟨fun l hl => h.own l (hsub l hl), fun l hl => h.version_le l (hsub l hl),
    fun l hl => h.selected l (hsub l hl), ?_, h.distinct.sublist (List.filter_sublist.map _)⟩
  intro v hv
  rcases h.pending v hv with hgap | ⟨l, hl, rfl⟩
  · exact absurd hgap (by simp)
  · by_cases hversion : l.request.version = load.request.version
    · exact .inl (by rw [hversion])
    · exact .inr ⟨l, List.mem_filter.mpr ⟨hl, decide_eq_true hversion⟩, rfl⟩

/-- A load that asks again closes the gap it left. -/
theorem loadsOwned_askAgain {load again : Load} {selectedRunId : Option RunId}
    {requestVersion : Nat} {pendingVersion : Option Nat} {loads : List Load}
    (h : LoadsOwned (some load.request.version) selectedRunId requestVersion pendingVersion loads)
    (hversion : again.request.version = load.request.version)
    (hout : ∀ l ∈ loads, l.request.version ≠ load.request.version)
    (hle : again.request.version ≤ requestVersion) (hown : again.Own)
    (hselected : selectedRunId = some again.request.runId) :
    LoadsOwned none selectedRunId requestVersion pendingVersion (loads ++ [again]) := by
  refine ⟨?_, ?_, ?_, ?_, nodup_append_load h.distinct fun l hl => hversion ▸ hout l hl⟩
  · intro l hl
    rcases List.mem_append.mp hl with hl | hl
    · exact h.own l hl
    · rwa [List.mem_singleton.mp hl]
  · intro l hl
    rcases List.mem_append.mp hl with hl | hl
    · exact h.version_le l hl
    · rwa [List.mem_singleton.mp hl]
  · intro l hl hcurrent
    rcases List.mem_append.mp hl with hl | hl
    · exact h.selected l hl hcurrent
    · rw [List.mem_singleton.mp hl]
      exact hselected
  · intro v hv
    right
    rcases h.pending v hv with hgap | ⟨l, hl, hl'⟩
    · refine ⟨again, List.mem_append_right _ List.mem_cons_self, ?_⟩
      exact hversion.trans (Option.some.inj hgap)
    · exact ⟨l, List.mem_append_left _ hl, hl'⟩

/-- A load goes on after its two answers: it is superseded, asks again, or is shown. -/
theorem owned_resumeLoad {load : Load} (h : Owned draws none p) (hload : load ∈ p.loads)
    (hdetail : detail ∈ load.detail) (hfusion : fusion ∈ load.fusion) :
    Owned draws none ({ p with loads := p.loads.filter (·.request.version ≠ load.request.version) }
      |>.resumeLoad draws load detail fusion) := by
  have hout : ∀ l ∈ p.loads.filter (·.request.version ≠ load.request.version),
      l.request.version ≠ load.request.version := by
    intro l hl
    exact of_decide_eq_true (List.mem_filter.mp hl).2
  have howned : Owned draws (some load.request.version)
      { p with loads := p.loads.filter (·.request.version ≠ load.request.version) } :=
    ⟨h.shown, loadsOwned_takeOut h.loads,
      fun l hl hversion => h.waiting l ((List.mem_filter.mp hl).1) hversion, h.summary, h.timers⟩
  rw [Page.resumeLoad]
  split
  · exact owned_finishLoad howned hout
  · rename_i hcurrent
    have hcurrent' : load.request.version = p.selectedRequestVersion := not_not.mp hcurrent
    have hselected := h.loads.selected load hload hcurrent'
    have hwaiting := h.waiting load hload hcurrent'
    split
    · refine ⟨h.shown, ?_, ?_, h.summary, h.timers⟩
      · exact loadsOwned_askAgain howned.loads rfl hout (Nat.le_of_eq hcurrent') own_of_asking hselected
      · intro l hl hversion
        rcases List.mem_append.mp hl with hl | hl
        · exact howned.waiting l hl hversion
        · rw [List.mem_singleton.mp hl]
          exact hwaiting
    · have hdetail' := (h.loads.own load hload).detail detail hdetail
      have hfusion' := (h.loads.own load hload).fusion fusion hfusion
      refine owned_finishLoad (owned_applyAnswers howned ?_ hwaiting.2.2 ?_ ?_) hout
      · intro l hl
        exact hcurrent' ▸ hout l hl
      · rw [hdetail']
        exact hselected
      · rw [hdetail', hfusion']

theorem owned_resume {version : Nat} (h : Owned draws none p) :
    Owned draws none (p.resume draws version) := by
  rw [Page.resume]
  split
  · exact h
  · rename_i load hfind
    have hversion : load.request.version = version := by
      have := List.find?_some hfind
      exact of_decide_eq_true this
    subst hversion
    split
    · rename_i detail fusion hdetail hfusion
      exact owned_resumeLoad h (List.mem_of_find?_eq_some hfind) hdetail hfusion
    · exact h

/-- An answer stays with the load whose request it answers. -/
theorem owned_atLoad {version : Nat} {f : Load → Load} (h : Owned draws none p)
    (hrequest : ∀ l, (f l).request = l.request) (hown : ∀ l : Load, l.Own → (f l).Own) :
    Owned draws none (p.atLoad version f) := by
  have hmem : ∀ l' ∈ (p.atLoad version f).loads,
      ∃ l ∈ p.loads, l'.request = l.request ∧ l'.Own := by
    intro l' hl'
    obtain ⟨l, hl, rfl⟩ := List.mem_map.mp hl'
    refine ⟨l, hl, ?_⟩
    split
    · exact ⟨hrequest l, hown l (h.loads.own l hl)⟩
    · exact ⟨rfl, h.loads.own l hl⟩
  have hversions : (p.atLoad version f).loads.map (·.request.version) =
      p.loads.map (·.request.version) := by
    rw [Page.atLoad, List.map_map]
    refine List.map_congr_left fun l _ => ?_
    show (if l.request.version = version then f l else l).request.version = l.request.version
    split
    · rw [hrequest]
    · rfl
  refine ⟨h.shown, ⟨?_, ?_, ?_, ?_, hversions ▸ h.loads.distinct⟩, ?_, h.summary, h.timers⟩
  · intro l' hl'
    obtain ⟨l, -, -, hl⟩ := hmem l' hl'
    exact hl
  · intro l' hl'
    obtain ⟨l, hl, heq, -⟩ := hmem l' hl'
    rw [heq]
    exact h.loads.version_le l hl
  · intro l' hl' hversion
    obtain ⟨l, hl, heq, -⟩ := hmem l' hl'
    rw [heq] at hversion ⊢
    exact h.loads.selected l hl hversion
  · intro v hv
    rcases h.loads.pending v hv with hgap | ⟨l, hl, rfl⟩
    · exact absurd hgap (by simp)
    · refine .inr ⟨_, List.mem_map_of_mem hl, ?_⟩
      split
      · rw [hrequest]
      · rfl
  · intro l' hl' hversion
    obtain ⟨l, hl, heq, -⟩ := hmem l' hl'
    rw [heq] at hversion ⊢
    exact h.waiting l hl hversion

theorem own_answerDetail {load : Load} {state : QueryState RunDetailPayload} (h : load.Own) :
    (load.answerDetail state).Own := by
  refine ⟨?_, h.fusion⟩
  intro a ha
  change (load.detail <|> some ⟨load.request, state⟩) = some a at ha
  rw [Option.orElse_eq_some] at ha
  rcases ha with hold | ⟨-, hnew⟩
  · exact h.detail a hold
  · rw [← Option.some.inj hnew]
    rfl

theorem own_answerFusion {load : Load} {state : QueryState FusionEnginePayload} (h : load.Own) :
    (load.answerFusion state).Own := by
  refine ⟨h.detail, ?_⟩
  intro a ha
  change (load.fusion <|> some ⟨load.request, state⟩) = some a at ha
  rw [Option.orElse_eq_some] at ha
  rcases ha with hold | ⟨-, hnew⟩
  · exact h.fusion a hold
  · rw [← Option.some.inj hnew]
    rfl

theorem owned_recheck (h : Owned draws none p) :
    Owned draws none p.recheckSelectedRuntimeAnalysis := by
  rw [Page.recheckSelectedRuntimeAnalysis]
  split
  · exact h
  · rename_i runId hselected
    split
    · refine owned_load (?_ : Owned draws none _) hselected
      exact ⟨h.shown, h.loads, h.waiting, h.summary, h.timers⟩
    · exact h

theorem owned_refreshSelectedRunAnalysis (h : Owned draws none p) :
    Owned draws none p.refreshSelectedRunAnalysis := by
  rw [Page.refreshSelectedRunAnalysis]
  split
  · exact h
  · rename_i runId hselected
    split
    · exact owned_refreshSelectedEventSummary (owned_load h hselected)
    · exact h

theorem owned_selectDefaultRunIfReady (h : Owned draws none p) :
    Owned draws none p.selectDefaultRunIfReady := by
  rw [Page.selectDefaultRunIfReady]
  split
  · exact h
  · split
    · exact h
    · exact owned_selectRun h

theorem owned_selectAdjacentRun {direction : Direction} (h : Owned draws none p) :
    Owned draws none (p.selectAdjacentRun direction) := by
  rw [Page.selectAdjacentRun]
  split
  · exact h
  · exact owned_selectRun h

theorem owned_runsLoaded {items : Option (List RunId)} (h : Owned draws none p) :
    Owned draws none (p.runsLoaded items) := by
  cases items with
  | none => exact ⟨h.shown, h.loads, h.waiting, h.summary, h.timers⟩
  | some items =>
    exact owned_selectDefaultRunIfReady ⟨h.shown, h.loads, h.waiting, h.summary, h.timers⟩

/-- No load is of the version that a failure report leaves. -/
theorem owned_renderFailureState (h : Owned draws none p) :
    Owned draws none p.renderSelectedRunFailureState := by
  have hlt : ∀ l ∈ p.loads, l.request.version < p.selectedRequestVersion + 1 :=
    fun l hl => Nat.lt_succ_of_le (h.loads.version_le l hl)
  refine ⟨h.shown, ⟨h.loads.own, ?_, ?_, h.loads.pending, h.loads.distinct⟩, ?_, h.summary,
    h.timers⟩
  · intro l hl
    exact Nat.le_of_lt (hlt l hl)
  · intro l hl hversion
    exact absurd hversion (Nat.ne_of_lt (hlt l hl))
  · exact waiting_of_idle fun l hl => Nat.ne_of_lt (hlt l hl)

end Parts

/-! ## Polling -/

section Polling

variable {p : Page}

theorem owned_pollRuntimeSummary (h : Owned draws none p) :
    Owned draws none p.pollRuntimeSummary := by
  rw [Page.pollRuntimeSummary]
  split
  · exact h
  · exact ⟨h.shown, h.loads, h.waiting, h.summary, h.timers⟩

/-- A timer is armed only where none is. -/
theorem owned_scheduleRuntimePoll (h : Owned draws none p) :
    Owned draws none p.scheduleRuntimePoll := by
  rw [Page.scheduleRuntimePoll]
  split
  · exact h
  · rename_i hguard
    have hnone : p.runtimePollTimeoutId = none := by
      rw [Bool.or_eq_true, not_or] at hguard
      exact Option.not_isSome_iff_eq_none.mp hguard.2
    refine ⟨h.shown, h.loads, h.waiting, h.summary, ?_⟩
    change p.timers ++ [p.nextTimerId] = [p.nextTimerId]
    rw [h.timers, hnone]
    rfl

theorem owned_runtimePollTimeout {id : Nat} (h : Owned draws none p) (hid : id ∈ p.timers) :
    Owned draws none ({ p with timers := p.timers.erase id }.runtimePollTimeout) := by
  refine owned_pollRuntimeSummary ⟨h.shown, h.loads, h.waiting, h.summary, ?_⟩
  change p.timers.erase id = []
  rw [h.timers] at hid ⊢
  rw [Option.mem_toList.mp hid]
  exact List.erase_cons_head id []

theorem owned_startRuntimePolling (h : Owned draws none p) :
    Owned draws none p.startRuntimePolling := by
  have h' : Owned draws none { p with runtimePollingActive := true } :=
    ⟨h.shown, h.loads, h.waiting, h.summary, h.timers⟩
  rw [Page.startRuntimePolling]
  dsimp only
  split
  · exact owned_pollRuntimeSummary h'
  · exact h'

theorem owned_stopRuntimePolling (h : Owned draws none p) :
    Owned draws none p.stopRuntimePolling := by
  refine ⟨h.shown, h.loads, h.waiting, h.summary, ?_⟩
  change p.timers.filter _ = []
  rw [h.timers, List.filter_eq_nil_iff]
  intro id hid
  rw [Option.mem_toList.mp hid]
  simp

theorem owned_recheckAfterPoll {previousRecheckMessage : Option RecheckMessage}
    (h : Owned draws none p) : Owned draws none (p.recheckAfterPoll draws previousRecheckMessage) := by
  rw [Page.recheckAfterPoll]
  split
  · exact owned_recheck (owned_rerender h)
  · exact owned_recheck h

theorem owned_followRuntimeSummary {updateFailedSelection refreshCompletedSelection : Bool}
    {previousRecheckMessage : Option RecheckMessage} (h : Owned draws none p) :
    Owned draws none (p.followRuntimeSummary draws updateFailedSelection refreshCompletedSelection
      previousRecheckMessage) := by
  have h' : Owned draws none { p with runtimeInitialQuerySettled := true }.selectDefaultRunIfReady :=
    owned_selectDefaultRunIfReady ⟨h.shown, h.loads, h.waiting, h.summary, h.timers⟩
  rw [Page.followRuntimeSummary]
  split
  · exact owned_renderFailureState h'
  · split
    · rename_i hselected
      have hselected' := (Option.filter_eq_some_iff.mp hselected).1
      exact owned_refreshSelectedEventSummary (owned_load h' hselected')
    · exact owned_recheckAfterPoll h'

theorem owned_updateRuntimeSummary {result : Option (List RuntimeItem)} (h : Owned draws none p) :
    Owned draws none (p.updateRuntimeSummary draws result) :=
  owned_followRuntimeSummary ⟨h.shown, h.loads, h.waiting, h.summary, h.timers⟩

end Polling

/-! ## Runs -/

theorem owned_step {p : Page} (h : Owned draws none p) (event : PageEvent) :
    Owned draws none (step draws p event) := by
  cases event with
  | selectRun runId runtimeEntityId => exact owned_selectRun h
  | selectAdjacentRun direction => exact owned_selectAdjacentRun h
  | refreshSelectedRunAnalysis => exact owned_refreshSelectedRunAnalysis h
  | runsLoaded items => exact owned_runsLoaded h
  | detailAnswered version state =>
    exact owned_atLoad h (fun l => rfl) fun l hl => own_answerDetail hl
  | fusionAnswered version state =>
    exact owned_atLoad h (fun l => rfl) fun l hl => own_answerFusion hl
  | resumeLoad version => exact owned_resume h
  | finishSelection i =>
    rw [step]
    split
    · exact h
    · exact owned_finishSelection ⟨h.shown, h.loads, h.waiting, h.summary, h.timers⟩
  | timelineAnswered i result =>
    rw [step]
    split
    · exact h
    · exact owned_finishEventSummary ⟨h.shown, h.loads, h.waiting, h.summary, h.timers⟩
  | runtimePollTimeout id =>
    rw [step]
    split
    · rename_i hid
      exact owned_runtimePollTimeout h hid
    · exact h
  | runtimeAnswered result =>
    rw [step]
    split
    · exact owned_updateRuntimeSummary ⟨h.shown, h.loads, h.waiting, h.summary, h.timers⟩
    · exact h
  | finishPoll =>
    rw [step]
    split
    · exact owned_scheduleRuntimePoll ⟨h.shown, h.loads, h.waiting, h.summary, h.timers⟩
    · exact h
  | pagehide => exact owned_stopRuntimePolling h
  | pageshow => exact owned_startRuntimePolling h

theorem owned_blank : Owned draws none Page.blank := by
  refine ⟨shownOwned_nothing, ⟨?_, ?_, ?_, ?_, List.nodup_nil⟩, ?_, ?_, rfl⟩
  · intro l hl
    exact absurd hl List.not_mem_nil
  · intro l hl
    exact absurd hl List.not_mem_nil
  · intro l hl
    exact absurd hl List.not_mem_nil
  · intro v hv
    exact absurd hv (Option.not_mem_none v)
  · intro l hl
    exact absurd hl List.not_mem_nil
  · intro request result heq
    exact absurd heq (by simp [Page.blank])

theorem owned_pageAfter (events : List PageEvent) : Owned draws none (pageAfter draws events) :=
  run_induction (P := Owned draws none) _ (fun _ event h => owned_step h event)
    (owned_startRuntimePolling owned_blank) events

theorem pageAfter_snoc (events : List PageEvent) (event : PageEvent) :
    pageAfter draws (events ++ [event]) = step draws (pageAfter draws events) event := by
  rw [pageAfter, after, run_snoc]
  rfl

/-- The panels show stored analysis: a result, the Decision history, or the host of the runs. -/
def Page.ShowsAnalysis (p : Page) : Prop :=
  p.view.isSome ∨ p.history.isSome ∨ p.selectedAnalysisTargetHost.isSome

/-- The origins of all the parts that the panels show. -/
def Page.origins (p : Page) : List (LoadRequest × Option String) :=
  p.view.toList.flatMap AnalysisView.origins ++ (p.history.map Part.origin).toList

/-- What the panels show was answered to the two requests of one attempt of one load of the
selected run. -/
theorem Owned.one_load {p : Page} (h : Owned draws none p) (hshows : p.ShowsAnalysis) :
    ∃ detail fusion, p.selectedAnalysisQueryStates = some (detail, fusion) ∧
      p.selectedRunId = some detail.request.runId ∧ fusion.request = detail.request ∧
      (∀ v ∈ p.view, v = analysisView draws detail fusion) ∧
      (∀ items ∈ p.history, items ∈ decisionHistoryItems detail) ∧
      ∀ host ∈ p.selectedAnalysisTargetHost,
        getSelectedAnalysisTargetHost detail.state.payload? fusion.state.payload? = some host := by
  have hsome : ∃ q, p.selectedAnalysisQueryStates = some q := by
    rcases hshows with hview | hhistory | hhost
    · obtain ⟨v, hv⟩ := Option.isSome_iff_exists.mp hview
      obtain ⟨q, hq, -⟩ := h.shown.view v hv
      exact ⟨q, hq⟩
    · obtain ⟨items, hitems⟩ := Option.isSome_iff_exists.mp hhistory
      obtain ⟨q, hq, -⟩ := h.shown.history items hitems
      exact ⟨q, hq⟩
    · obtain ⟨host, hhost⟩ := Option.isSome_iff_exists.mp hhost
      rw [h.shown.host] at hhost
      obtain ⟨q, hq, -⟩ := Option.bind_eq_some_iff.mp hhost
      exact ⟨q, hq⟩
  obtain ⟨q, hq⟩ := hsome
  obtain ⟨hselected, hsame⟩ := h.shown.answers q hq
  refine ⟨q.1, q.2, hq, hselected, hsame, ?_, ?_, ?_⟩
  · intro v hv
    obtain ⟨q', hq', rfl⟩ := h.shown.view v hv
    obtain rfl := Option.some.inj (hq.symm.trans hq')
    rfl
  · intro items hitems
    obtain ⟨q', hq', hitems'⟩ := h.shown.history items hitems
    obtain rfl := Option.some.inj (hq.symm.trans hq')
    exact hitems'
  · intro host hhost
    rw [h.shown.host, hq] at hhost
    exact hhost

/-- The Decision ids of what the panels show are one id. -/
theorem Owned.one_decision {p : Page} (h : Owned draws none p)
    {o o' : LoadRequest × Option String} (ho : o ∈ p.origins) (ho' : o' ∈ p.origins)
    {a b : String} (ha : o.2 = some a) (hb : o'.2 = some b) : a = b := by
  have hshows : p.ShowsAnalysis := by
    rcases List.mem_append.mp ho with hview | hhistory
    · obtain ⟨v, hv, -⟩ := List.mem_flatMap.mp hview
      exact .inl (Option.isSome_iff_exists.mpr ⟨v, Option.mem_toList.mp hv⟩)
    · obtain ⟨items, hitems, -⟩ := Option.map_eq_some_iff.mp (Option.mem_toList.mp hhistory)
      exact .inr (.inl (Option.isSome_iff_exists.mpr ⟨items, hitems⟩))
  obtain ⟨detail, fusion, -, -, -, hview, hhistory, -⟩ := h.one_load hshows
  have hfrom : ∀ o ∈ p.origins, FromAnswers detail fusion o := by
    intro o ho
    rcases List.mem_append.mp ho with ho | ho
    · obtain ⟨v, hv, hov⟩ := List.mem_flatMap.mp ho
      rw [hview v (Option.mem_toList.mp hv)] at hov
      exact fromAnswers_view hov
    · obtain ⟨items, hitems, rfl⟩ := Option.map_eq_some_iff.mp (Option.mem_toList.mp ho)
      exact fromAnswers_history (hhistory items hitems)
  exact decisionId_unique (hfrom o ho) (hfrom o' ho') ha hb

theorem find_load {p : Page} (h : Owned draws none p) {load : Load} (hload : load ∈ p.loads) :
    p.loads.find? (·.request.version = load.request.version) = some load := by
  obtain ⟨found, hfound⟩ : ∃ found,
      p.loads.find? (·.request.version = load.request.version) = some found := by
    rw [← Option.isSome_iff_exists, List.find?_isSome]
    exact ⟨load, hload, decide_eq_true rfl⟩
  have hversion : found.request.version = load.request.version := by
    have := List.find?_some hfound
    exact of_decide_eq_true this
  rw [hfound, List.inj_on_of_nodup_map h.loads.distinct (List.mem_of_find?_eq_some hfound) hload
    hversion]

theorem resume_of_answered {p : Page} (h : Owned draws none p) {load : Load}
    (hload : load ∈ p.loads) (hdetail : load.detail = some detail)
    (hfusion : load.fusion = some fusion) :
    p.resume draws load.request.version =
      ({ p with loads := p.loads.filter (·.request.version ≠ load.request.version) }
        |>.resumeLoad draws load detail fusion) := by
  simp only [Page.resume, find_load h hload, hdetail, hfusion]

/-- A load whose requests are both answered is no longer pending once it goes on, unless it
is a first attempt that asks again. -/
theorem Owned.settles {p : Page} (h : Owned draws none p) {load : Load} (hload : load ∈ p.loads)
    (hdetail : load.detail = some detail) (hfusion : load.fusion = some fusion) :
    (p.resume draws load.request.version).selectedAnalysisPendingVersion ≠
        some load.request.version ∨
      load.request.attempt = .first ∧ ∃ again ∈ (p.resume draws load.request.version).loads,
        again.request = { load.request with attempt := .second } ∧
          again.detail = none ∧ again.fusion = none := by
  have hfinish : ∀ p' : Page, (p'.finishLoad load).selectedAnalysisPendingVersion ≠
      some load.request.version := by
    intro p'
    rw [Page.finishLoad]
    dsimp only
    split
    · simp
    · assumption
  rw [resume_of_answered h hload hdetail hfusion, Page.resumeLoad]
  split
  · exact .inl (hfinish _)
  · split
    · rename_i hasks
      exact .inr ⟨hasks.1, _, List.mem_append_right _ List.mem_cons_self, rfl, rfl, rfl⟩
    · exact .inl (hfinish _)

/-- After any events: what the panels show was answered to one attempt of one load of the
selected run, under one Decision id; the event summary was asked for that run; a pending
load has its requests out; and at most one timer is armed. -/
theorem selectedRunPanels (draws : StoppingTrace → Option RuntimeConfigSnapshot → Bool)
    (events : List PageEvent) :
    ((pageAfter draws events).ShowsAnalysis →
      ∃ detail fusion,
        (pageAfter draws events).selectedAnalysisQueryStates = some (detail, fusion) ∧
        (pageAfter draws events).selectedRunId = some detail.request.runId ∧
        fusion.request = detail.request ∧
        (∀ v ∈ (pageAfter draws events).view, v = analysisView draws detail fusion) ∧
        (∀ items ∈ (pageAfter draws events).history, items ∈ decisionHistoryItems detail) ∧
        ∀ host ∈ (pageAfter draws events).selectedAnalysisTargetHost,
          getSelectedAnalysisTargetHost detail.state.payload? fusion.state.payload? = some host) ∧
    (∀ o ∈ (pageAfter draws events).origins, ∀ o' ∈ (pageAfter draws events).origins,
      ∀ a b, o.2 = some a → o'.2 = some b → a = b) ∧
    (∀ request result, (pageAfter draws events).eventTypeSummary = .shown request result →
      (pageAfter draws events).selectedRunId = some request.runId) ∧
    ((pageAfter draws events).loads = [] →
      (pageAfter draws events).selectedAnalysisPendingVersion = none) ∧
    (∀ load ∈ (pageAfter draws events).loads, load.detail.isSome → load.fusion.isSome →
      (pageAfter draws (events ++ [.resumeLoad load.request.version])).selectedAnalysisPendingVersion
          ≠ some load.request.version ∨
        load.request.attempt = .first ∧
          ∃ again ∈ (pageAfter draws (events ++ [.resumeLoad load.request.version])).loads,
            again.request = { load.request with attempt := .second } ∧
              again.detail = none ∧ again.fusion = none) ∧
    (pageAfter draws events).timers.length ≤ 1 := by
  have h : Owned draws none (pageAfter draws events) := owned_pageAfter events
  refine ⟨h.one_load, ?_, h.summary, ?_, ?_, ?_⟩
  · intro o ho o' ho' a b ha hb
    exact h.one_decision ho ho' ha hb
  · intro hloads
    by_contra hpending
    obtain ⟨v, hv⟩ := Option.ne_none_iff_exists'.mp hpending
    rcases h.loads.pending v hv with hgap | ⟨l, hl, -⟩
    · exact absurd hgap (by simp)
    · rw [hloads] at hl
      exact absurd hl List.not_mem_nil
  · intro load hload hdetail hfusion
    obtain ⟨detail, hdetail⟩ := Option.isSome_iff_exists.mp hdetail
    obtain ⟨fusion, hfusion⟩ := Option.isSome_iff_exists.mp hfusion
    rw [pageAfter_snoc]
    exact h.settles hload hdetail hfusion
  · rw [h.timers]
    exact Option.length_toList_le

/-- A load whose answers have two Decision ids asks again, and shows what it gets then. -/
example (runId : RunId) :
    let stored (id : String) : Decision := ⟨some id, none, none, none, none⟩
    let detail (id : String) : QueryState RunDetailPayload :=
      .success ⟨none, some ⟨some (stored id), none⟩, []⟩
    let fusion (id : String) : QueryState FusionEnginePayload :=
      .success ⟨none, some (stored id), none, none, none⟩
    let page := pageAfter (fun _ _ => true)
      [.selectRun runId none, .detailAnswered 1 (detail "decision-1"),
        .fusionAnswered 1 (fusion "decision-2"), .resumeLoad 1,
        .fusionAnswered 1 (fusion "decision-2"), .detailAnswered 1 (detail "decision-2"),
        .resumeLoad 1]
    page.view.map (·.decision.map Part.origin) =
      some (some (⟨runId, 1, .second⟩, some "decision-2")) := by
  rfl

end IncidentAwareness.Dashboard.SelectedRun
