import IncidentAwareness.Dashboard.SelectedRun
import IncidentAwareness.Lib.Run

/-!
# The page with its outstanding work

The state of `dashboard.js` as far as the selected run goes, with the requests that
are out, the functions that wait for them, and the timers that are armed. One event
of the page is one uninterrupted stretch of its code: a click, an answer, a timer, or
a function that goes on after an `await`. Answers come in any order and may say
anything; a request that is aborted or times out is answered by an error.
-/

namespace IncidentAwareness.Dashboard.SelectedRun

open IncidentAwareness.Lib

/-- `loadSelectedRunAnalysis` while it waits for its two requests. `after` is the timeline
version of the `selectRun` that waits for the load, if one does. -/
structure Load where
  request : LoadRequest
  detail : Option (Answer RunDetailPayload)
  fusion : Option (Answer FusionEnginePayload)
  after : Option Nat

/-- A request of the event summary, or the `selectRun` that is about to make it. -/
structure TimelineRequest where
  runId : RunId
  version : Nat

/-- What the event summary shows. -/
inductive EventTypeSummary where
  | initial
  | loading
  | shown (request : TimelineRequest) (state : QueryState EventTimelinePayload)

/-- `runtimeState`. -/
structure RuntimeState where
  items : List RuntimeItem
  telemetryAvailable : Bool

/-- The page: the variables of `dashboard.js`, what the panels show, and what is
outstanding. -/
structure Page where
  runListItems : List RunId
  runtimeState : RuntimeState
  selectedRunId : Option RunId
  selectedRuntimeEntityId : Option String
  selectedRuntimeTracking : RuntimeTracking
  selectedAnalysisQueryStates : Option (Answer RunDetailPayload × Answer FusionEnginePayload)
  selectedAnalysisState : Option AnalysisState
  selectedAnalysisTargetHost : Option String
  selectedAnalysisPendingVersion : Option Nat
  selectedRequestVersion : Nat
  runtimeInitialQuerySettled : Bool
  runtimePollTimeoutId : Option Nat
  runtimePollingActive : Bool
  runtimeRequestInFlight : Bool
  selectedTimelineRequestVersion : Nat
  /-- The summary, the settings and the chart. -/
  view : Option AnalysisView
  /-- The lists of the Decision history. -/
  history : Option (Part (List Decision))
  eventTypeSummary : EventTypeSummary
  loads : List Load
  /-- The `selectRun` calls whose load has returned. -/
  selections : List TimelineRequest
  timelineRequests : List TimelineRequest
  /-- The requests of `updateRuntimeSummary`, and the polls whose update has returned. -/
  polls : Nat
  updatedPolls : Nat
  timers : List Nat
  nextTimerId : Nat

/-- `getSelectedRuntime`. -/
def Page.selectedRuntime (p : Page) : Option RuntimeItem :=
  if p.selectedRuntimeTracking.outsideQuery then none else p.selectedRuntimeTracking.report

/-- `renderSelectedAnalysis`. -/
def Page.renderSelectedAnalysis (draws : StoppingTrace → Option RuntimeConfigSnapshot → Bool)
    (detail : Answer RunDetailPayload) (fusion : Answer FusionEnginePayload) (p : Page) : Page :=
  { p with
    history := decisionHistoryItems detail <|> p.history
    view := some (analysisView draws detail fusion)
    selectedAnalysisState := some (answerState detail fusion (p.selectedRuntime.map (·.status))) }

/-- `clearSelectedAnalysis`. -/
def Page.clearSelectedAnalysis (p : Page) : Page := { p with view := none, history := none }

/-- `loadSelectedRunAnalysis` up to its requests. -/
def Page.loadSelectedRunAnalysis (runId : RunId) (after : Option Nat) (p : Page) : Page :=
  let requestVersion := p.selectedRequestVersion + 1
  { p.clearSelectedAnalysis with
    selectedRequestVersion := requestVersion
    selectedAnalysisPendingVersion := some requestVersion
    selectedAnalysisState := some .loading
    loads := p.loads ++ [⟨⟨runId, requestVersion, .first⟩, none, none, after⟩] }

/-- `loadSelectedEventSummary` up to its request. -/
def Page.loadSelectedEventSummary (runId : RunId) (selectionVersion : Nat) (p : Page) : Page :=
  { p with timelineRequests := p.timelineRequests ++ [⟨runId, selectionVersion⟩] }

/-- `refreshSelectedEventSummary`. -/
def Page.refreshSelectedEventSummary (p : Page) : Page :=
  match p.selectedRunId with
  | none => p
  | some runId =>
    let version := p.selectedTimelineRequestVersion + 1
    { p with selectedTimelineRequestVersion := version, eventTypeSummary := .loading }
      |>.loadSelectedEventSummary runId version

/-- `selectRun` up to its load. -/
def Page.selectRun (runId : RunId) (runtimeEntityId : Option String) (p : Page) : Page :=
  let timelineVersion := p.selectedTimelineRequestVersion + 1
  { p with
    selectedTimelineRequestVersion := timelineVersion
    eventTypeSummary := .loading
    selectedRunId := some runId
    selectedRuntimeEntityId := runtimeEntityId
    selectedRuntimeTracking := createSelectedRuntimeTracking
      (findSelectedRuntime p.runtimeState.items (some runId) runtimeEntityId)
    selectedAnalysisQueryStates := none
    selectedAnalysisState := none
    selectedAnalysisTargetHost := none }
    |>.loadSelectedRunAnalysis runId (some timelineVersion)

/-- `selectRun` after its load. -/
def Page.finishSelection (selection : TimelineRequest) (p : Page) : Page :=
  if selection.version = p.selectedTimelineRequestVersion ∧
      p.selectedRunId = some selection.runId then
    p.loadSelectedEventSummary selection.runId selection.version
  else p

/-- `loadSelectedEventSummary` after its request. -/
def Page.finishEventSummary (request : TimelineRequest)
    (result : QueryState EventTimelinePayload) (p : Page) : Page :=
  if request.version = p.selectedTimelineRequestVersion ∧
      p.selectedRunId = some request.runId then
    { p with eventTypeSummary := .shown request result }
  else p

/-- The `finally` of `loadSelectedRunAnalysis`, and its return. -/
def Page.finishLoad (load : Load) (p : Page) : Page :=
  { p with
    selectedAnalysisPendingVersion :=
      if p.selectedAnalysisPendingVersion = some load.request.version then none
      else p.selectedAnalysisPendingVersion
    selections := p.selections ++ (load.after.map (⟨load.request.runId, ·⟩)).toList }

section Resume

variable (draws : StoppingTrace → Option RuntimeConfigSnapshot → Bool)

/-- The answers of a load become the shown ones. -/
def Page.applyAnswers (detail : Answer RunDetailPayload) (fusion : Answer FusionEnginePayload)
    (p : Page) : Page :=
  { p with
    selectedAnalysisQueryStates := some (detail, fusion)
    selectedAnalysisTargetHost :=
      getSelectedAnalysisTargetHost detail.state.payload? fusion.state.payload? }
    |>.renderSelectedAnalysis draws detail fusion

/-- `loadSelectedRunAnalysis` after both requests; the load is no longer in `loads`. -/
def Page.resumeLoad (load : Load) (detail : Answer RunDetailPayload)
    (fusion : Answer FusionEnginePayload) (p : Page) : Page :=
  if load.request.version ≠ p.selectedRequestVersion then p.finishLoad load
  else if load.request.attempt = .first ∧ answerConsistency detail fusion = .mismatch then
    { p with loads := p.loads ++ [⟨{ load.request with attempt := .second }, none, none, load.after⟩] }
  else (p.applyAnswers draws detail fusion).finishLoad load

/-- `rerenderSelectedAnalysis`. -/
def Page.rerenderSelectedAnalysis (p : Page) : Page :=
  match p.selectedAnalysisQueryStates, p.selectedAnalysisPendingVersion with
  | some (detail, fusion), none => p.renderSelectedAnalysis draws detail fusion
  | _, _ => p

end Resume

/-- `recheckSelectedRuntimeAnalysis`. -/
def Page.recheckSelectedRuntimeAnalysis (p : Page) : Page :=
  match p.selectedRunId with
  | none => p
  | some runId =>
    if shouldRecheckSelectedRuntimeAnalysis p.selectedRuntimeTracking
        p.selectedAnalysisPendingVersion.isSome (p.selectedAnalysisState = some .available) then
      { p with selectedRuntimeTracking := recordSelectedRuntimeRecheck p.selectedRuntimeTracking }
        |>.loadSelectedRunAnalysis runId none
    else p

/-- `refreshSelectedRunAnalysis`. -/
def Page.refreshSelectedRunAnalysis (p : Page) : Page :=
  match p.selectedRunId with
  | none => p
  | some runId =>
    if canRefreshSelectedAnalysis p.selectedRunId p.selectedAnalysisPendingVersion.isSome then
      (p.loadSelectedRunAnalysis runId none).refreshSelectedEventSummary
    else p

/-- `selectDefaultRunIfReady`. -/
def Page.selectDefaultRunIfReady (p : Page) : Page :=
  if p.selectedRunId.isSome then p
  else
    match resolveInitialRunSelection p.selectedRunId p.selectedRuntimeEntityId
        p.runtimeInitialQuerySettled p.runtimeState.telemetryAvailable p.runtimeState.items
        p.runListItems with
    | none => p
    | some selection => p.selectRun selection.1 selection.2

/-- The buttons of `selectAdjacentRun`: `previousRunButton` and `nextRunButton`. -/
inductive Direction where
  | previous | next
  deriving DecidableEq, Repr

/-- The target of `selectAdjacentRun`. -/
def Page.adjacentRun (direction : Direction) (p : Page) : Option RunId :=
  match p.selectedRunId with
  | none => none
  | some runId => do
    let selectedIndex ← p.runListItems.idxOf? runId
    match direction, selectedIndex with
    | .previous, i => p.runListItems[i + 1]?
    | .next, i + 1 => p.runListItems[i]?
    | .next, 0 => none

/-- `selectAdjacentRun`. -/
def Page.selectAdjacentRun (direction : Direction) (p : Page) : Page :=
  match p.adjacentRun direction with
  | none => p
  | some runId => p.selectRun runId none

/-- `loadRuns` after its request. -/
def Page.runsLoaded (p : Page) : Option (List RunId) → Page
  | some items => { p with runListItems := items }.selectDefaultRunIfReady
  | none => { p with runListItems := [] }

/-- `renderSelectedRunFailureState`. -/
def Page.renderSelectedRunFailureState (p : Page) : Page :=
  { p with selectedRequestVersion := p.selectedRequestVersion + 1 }

/-! ## Polling -/

/-- `pollRuntimeSummary` up to its request. -/
def Page.pollRuntimeSummary (p : Page) : Page :=
  if !p.runtimePollingActive || p.runtimeRequestInFlight then p
  else { p with runtimeRequestInFlight := true, polls := p.polls + 1 }

/-- `scheduleRuntimePoll`. -/
def Page.scheduleRuntimePoll (p : Page) : Page :=
  if !p.runtimePollingActive || p.runtimeRequestInFlight || p.runtimePollTimeoutId.isSome then p
  else
    { p with
      runtimePollTimeoutId := some p.nextTimerId
      timers := p.timers ++ [p.nextTimerId]
      nextTimerId := p.nextTimerId + 1 }

/-- What `scheduleRuntimePoll` has the timer do. -/
def Page.runtimePollTimeout (p : Page) : Page :=
  { p with runtimePollTimeoutId := none }.pollRuntimeSummary

/-- `startRuntimePolling`. -/
def Page.startRuntimePolling (p : Page) : Page :=
  let p := { p with runtimePollingActive := true }
  if !p.runtimeRequestInFlight && p.runtimePollTimeoutId.isNone then p.pollRuntimeSummary else p

/-- `stopRuntimePolling`. -/
def Page.stopRuntimePolling (p : Page) : Page :=
  { p with
    runtimePollingActive := false
    runtimePollTimeoutId := none
    timers := p.timers.filter fun id => p.runtimePollTimeoutId ≠ some id }

/-- The runtime items that `updateRuntimeSummary` compares with the answered ones. -/
def Page.previousSelectedRuntimeItems (p : Page) : List RuntimeItem :=
  p.selectedRuntimeTracking.report.toList

/-- The `runtimeState` that an answer of the runtime summary leaves. -/
def Page.resolveRuntimeState (p : Page) : Option (List RuntimeItem) → RuntimeState
  | some items => ⟨items, true⟩
  | none => ⟨p.runtimeState.items, false⟩

section Update

variable (draws : StoppingTrace → Option RuntimeConfigSnapshot → Bool)

/-- What `updateRuntimeSummary` does where no report of the selected run is final. -/
def Page.recheckAfterPoll (previousRecheckMessage : Option RecheckMessage) (p : Page) : Page :=
  if getSelectedRuntimeRecheckMessage p.selectedRuntimeTracking ≠ previousRecheckMessage then
    (p.rerenderSelectedAnalysis draws).recheckSelectedRuntimeAnalysis
  else p.recheckSelectedRuntimeAnalysis

/-- `updateRuntimeSummary` once `runtimeState` and the tracking follow the answer. -/
def Page.followRuntimeSummary (updateFailedSelection refreshCompletedSelection : Bool)
    (previousRecheckMessage : Option RecheckMessage) (p : Page) : Page :=
  let p := { p with runtimeInitialQuerySettled := true }.selectDefaultRunIfReady
  if updateFailedSelection then p.renderSelectedRunFailureState
  else
    match p.selectedRunId.filter fun _ => refreshCompletedSelection with
    | some runId => (p.loadSelectedRunAnalysis runId none).refreshSelectedEventSummary
    | none => p.recheckAfterPoll draws previousRecheckMessage

/-- `updateRuntimeSummary` after its request; a failed one is `none`. -/
def Page.updateRuntimeSummary (result : Option (List RuntimeItem)) (p : Page) : Page :=
  let changed (test : Option RunId → Option String → List RuntimeItem → List RuntimeItem → Bool) :=
    result.any (test p.selectedRunId p.selectedRuntimeEntityId p.previousSelectedRuntimeItems ·)
  { p with
    runtimeState := p.resolveRuntimeState result
    selectedRuntimeTracking := resolveSelectedRuntimeTracking p.selectedRuntimeTracking
      p.selectedRunId p.selectedRuntimeEntityId result }
    |>.followRuntimeSummary draws (changed shouldUpdateSelectedRunFailureState)
      (changed shouldRefreshSelectedRunAnalysis)
      (getSelectedRuntimeRecheckMessage p.selectedRuntimeTracking)

end Update

/-! ## Events -/

/-- What can happen on the page. Loads are named by their version, the other requests by
their place. -/
inductive PageEvent where
  | selectRun (runId : RunId) (runtimeEntityId : Option String)
  | selectAdjacentRun (direction : Direction)
  | refreshSelectedRunAnalysis
  | runsLoaded (items : Option (List RunId))
  | detailAnswered (version : Nat) (state : QueryState RunDetailPayload)
  | fusionAnswered (version : Nat) (state : QueryState FusionEnginePayload)
  | resumeLoad (version : Nat)
  | finishSelection (i : Nat)
  | timelineAnswered (i : Nat) (result : QueryState EventTimelinePayload)
  | runtimePollTimeout (id : Nat)
  | runtimeAnswered (result : Option (List RuntimeItem))
  | finishPoll
  | pagehide
  | pageshow

/-- Run Detail answers a load, once. -/
def Load.answerDetail (state : QueryState RunDetailPayload) (load : Load) : Load :=
  { load with detail := load.detail <|> some ⟨load.request, state⟩ }

/-- Fusion Engine answers a load, once. -/
def Load.answerFusion (state : QueryState FusionEnginePayload) (load : Load) : Load :=
  { load with fusion := load.fusion <|> some ⟨load.request, state⟩ }

/-- `f` at the loads of a version. -/
def Page.atLoad (version : Nat) (f : Load → Load) (p : Page) : Page :=
  { p with loads := p.loads.map fun load => if load.request.version = version then f load else load }

/-- A load goes on, if both its requests are answered. -/
def Page.resume (draws : StoppingTrace → Option RuntimeConfigSnapshot → Bool) (version : Nat)
    (p : Page) : Page :=
  match p.loads.find? (·.request.version = version) with
  | none => p
  | some load =>
    match load.detail, load.fusion with
    | some detail, some fusion =>
      { p with loads := p.loads.filter (·.request.version ≠ version) }
        |>.resumeLoad draws load detail fusion
    | _, _ => p

/-- One event. An event whose request or timer is not outstanding does nothing. -/
def step (draws : StoppingTrace → Option RuntimeConfigSnapshot → Bool) (p : Page) :
    PageEvent → Page
  | .selectRun runId runtimeEntityId => p.selectRun runId runtimeEntityId
  | .selectAdjacentRun direction => p.selectAdjacentRun direction
  | .refreshSelectedRunAnalysis => p.refreshSelectedRunAnalysis
  | .runsLoaded items => p.runsLoaded items
  | .detailAnswered version state => p.atLoad version (·.answerDetail state)
  | .fusionAnswered version state => p.atLoad version (·.answerFusion state)
  | .resumeLoad version => p.resume draws version
  | .finishSelection i =>
    match p.selections[i]? with
    | none => p
    | some selection => { p with selections := p.selections.eraseIdx i }.finishSelection selection
  | .timelineAnswered i result =>
    match p.timelineRequests[i]? with
    | none => p
    | some request =>
      { p with timelineRequests := p.timelineRequests.eraseIdx i }.finishEventSummary request result
  | .runtimePollTimeout id =>
    if id ∈ p.timers then { p with timers := p.timers.erase id }.runtimePollTimeout else p
  | .runtimeAnswered result =>
    if 0 < p.polls then
      { p with polls := p.polls - 1, updatedPolls := p.updatedPolls + 1 }
        |>.updateRuntimeSummary draws result
    else p
  | .finishPoll =>
    if 0 < p.updatedPolls then
      { p with updatedPolls := p.updatedPolls - 1, runtimeRequestInFlight := false }
        |>.scheduleRuntimePoll
    else p
  | .pagehide => p.stopRuntimePolling
  | .pageshow => p.startRuntimePolling

/-- The page before its script has started polling. -/
def Page.blank : Page where
  runListItems := []
  runtimeState := ⟨[], false⟩
  selectedRunId := none
  selectedRuntimeEntityId := none
  selectedRuntimeTracking := createSelectedRuntimeTracking none
  selectedAnalysisQueryStates := none
  selectedAnalysisState := none
  selectedAnalysisTargetHost := none
  selectedAnalysisPendingVersion := none
  selectedRequestVersion := 0
  runtimeInitialQuerySettled := false
  runtimePollTimeoutId := none
  runtimePollingActive := false
  runtimeRequestInFlight := false
  selectedTimelineRequestVersion := 0
  view := none
  history := none
  eventTypeSummary := .initial
  loads := []
  selections := []
  timelineRequests := []
  polls := 0
  updatedPolls := 0
  timers := []
  nextTimerId := 0

/-- The page as its script leaves it. -/
def Page.initial : Page := Page.blank.startRuntimePolling

/-- The page after events, in the order in which they happen. -/
def pageAfter (draws : StoppingTrace → Option RuntimeConfigSnapshot → Bool)
    (events : List PageEvent) : Page :=
  after (fun p event => (step draws p event, ())) Page.initial events

end IncidentAwareness.Dashboard.SelectedRun
