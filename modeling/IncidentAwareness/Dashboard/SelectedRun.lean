import Mathlib.Tactic.Common

/-!
# The selected run of the dashboard page

The page asks two endpoints for the stored analysis of the selected run, Run
Detail and Fusion Engine, and shows what they answer in one set of panels. This
module has what the page decides from given answers (`dashboard-contract.mjs`):
which decision versions agree, which source each panel takes its content from,
and what a runtime report says of the selected run. An answer keeps the request
it answers, and a part of a panel the answer it was taken from.
-/

namespace IncidentAwareness.Dashboard.SelectedRun

/-- What JavaScript's `trim` removes. -/
def isTrimmed (c : Char) : Bool :=
  (9 ≤ c.toNat && c.toNat ≤ 13) || (0x2000 ≤ c.toNat && c.toNat ≤ 0x200A) ||
    c.toNat ∈ [0x20, 0xA0, 0x1680, 0x2028, 0x2029, 0x202F, 0x205F, 0x3000, 0xFEFF]

/-- A run id that `requireIdentifier` takes. -/
abbrev RunId := { text : String // text.toList.all isTrimmed = false }

/-! ## Payloads -/

/-- A Decision as the panels read it. `decisionId` is `none` where it is no string. -/
structure Decision where
  decisionId : Option String
  fastStatus : Option String
  fusionStatus : Option String
  decisionPath : Option String
  te : Option String
  deriving DecidableEq, Repr

/-- A stored Fusion result. -/
structure FusionResult where
  fusionStatus : Option String
  deriving DecidableEq, Repr

/-- `runtime_config_snapshot`, with the thresholds of its `stopping`. -/
structure RuntimeConfigSnapshot where
  thresholdOn : Option String
  thresholdOff : Option String
  deriving DecidableEq, Repr

/-- `stopping_trace`. -/
structure StoppingTrace where
  points : List String
  deriving DecidableEq, Repr

/-- `current_decision` of Run Detail. -/
structure CurrentDecision where
  decision : Option Decision
  latestFusionResult : Option FusionResult
  deriving DecidableEq, Repr

/-- The answer of Run Detail. -/
structure RunDetailPayload where
  targetHost : Option String
  currentDecision : Option CurrentDecision
  decisionHistory : List Decision
  deriving DecidableEq, Repr

/-- The answer of Fusion Engine. -/
structure FusionEnginePayload where
  targetHost : Option String
  currentDecision : Option Decision
  fusionResult : Option FusionResult
  stoppingTrace : Option StoppingTrace
  runtimeConfigSnapshot : Option RuntimeConfigSnapshot
  deriving DecidableEq, Repr

/-- The answer of Event Timeline. -/
structure EventTimelinePayload where
  eventTypes : List String
  total : Nat
  deriving DecidableEq, Repr

/-- A settled query. -/
inductive QueryState (α : Type) where
  | success (payload : α)
  | notFound
  | error
  deriving DecidableEq, Repr

/-- The payload of a query that succeeded. -/
def QueryState.payload? {α : Type} : QueryState α → Option α
  | .success payload => some payload
  | _ => none

/-! ## Requests and answers -/

/-- A load asks once more where the decision versions of its answers differ. -/
inductive Attempt where
  | first | second
  deriving DecidableEq, Repr

/-- The load a request belongs to: the run it asks for, the version the load took,
and which time it asks. -/
structure LoadRequest where
  runId : RunId
  version : Nat
  attempt : Attempt

/-- A settled query with the request it answers. -/
structure Answer (α : Type) where
  request : LoadRequest
  state : QueryState α

/-- Content of a panel: the request whose answer it was taken from, the id of the
current Decision in that answer, and the content itself. -/
structure Part (α : Type) where
  request : LoadRequest
  decisionId : Option String
  value : α

/-! ## Decision versions -/

/-- `current_decision.decision` of Run Detail. -/
def RunDetailPayload.decision (p : RunDetailPayload) : Option Decision :=
  p.currentDecision.bind (·.decision)

/-- `current_decision.decision.decision_id` of Run Detail. -/
def RunDetailPayload.decisionId (p : RunDetailPayload) : Option String :=
  p.decision.bind (·.decisionId)

/-- `current_decision.decision_id` of Fusion Engine. -/
def FusionEnginePayload.decisionId (p : FusionEnginePayload) : Option String :=
  p.currentDecision.bind (·.decisionId)

inductive DecisionConsistency where
  | unavailable | match_ | mismatch
  deriving DecidableEq, Repr

/-- `getDecisionVersionConsistency`. -/
def getDecisionVersionConsistency (runDetailPayload : Option RunDetailPayload)
    (fusionEnginePayload : Option FusionEnginePayload) : DecisionConsistency :=
  match runDetailPayload.bind (·.decisionId), fusionEnginePayload.bind (·.decisionId) with
  | some detailDecisionId, some fusionDecisionId =>
    if detailDecisionId = fusionDecisionId then .match_ else .mismatch
  | _, _ => .unavailable

inductive AnalysisSource where
  | matched | runDetail | fusionEngine | fusionEngineWithoutDecision | none
  deriving DecidableEq, Repr

/-- `getSelectedAnalysisSource`. -/
def getSelectedAnalysisSource (runDetailPayload : Option RunDetailPayload)
    (fusionEnginePayload : Option FusionEnginePayload) : AnalysisSource :=
  if getDecisionVersionConsistency runDetailPayload fusionEnginePayload = .match_ then .matched
  else if (runDetailPayload.bind (·.decisionId)).isSome then .runDetail
  else if (fusionEnginePayload.bind (·.decisionId)).isSome then .fusionEngine
  else if (fusionEnginePayload.bind (·.fusionResult)).isSome ||
      (fusionEnginePayload.bind (·.stoppingTrace)).isSome then .fusionEngineWithoutDecision
  else .none

/-- The source shows what Fusion Engine answered. -/
def AnalysisSource.usesFusionEngine : AnalysisSource → Bool
  | .matched | .fusionEngine | .fusionEngineWithoutDecision => true
  | .runDetail | .none => false

inductive RuntimeStatus where
  | running | completed | failed
  deriving DecidableEq, Repr

/-- `selectedAnalysisState`. -/
inductive AnalysisState where
  | loading | versionMismatch | error | waiting | missing | available
  deriving DecidableEq, Repr

/-- `getSelectedAnalysisState`. -/
def getSelectedAnalysisState (detailState : QueryState RunDetailPayload)
    (fusionState : QueryState FusionEnginePayload) (runtimeStatus : Option RuntimeStatus)
    (hasStoredAnalysis : Bool) (decisionConsistency : DecisionConsistency) : AnalysisState :=
  if decisionConsistency = .mismatch then .versionMismatch
  else if detailState = .error ∨ fusionState = .error then .error
  else if detailState = .notFound ∧ fusionState = .notFound ∧ runtimeStatus = some .running then
    .waiting
  else if hasStoredAnalysis = false then
    if runtimeStatus = some .running then .waiting else .missing
  else .available

/-- `getSelectedAnalysisTargetHost`. -/
def getSelectedAnalysisTargetHost (runDetailPayload : Option RunDetailPayload)
    (fusionEnginePayload : Option FusionEnginePayload) : Option String :=
  let hosts := [runDetailPayload.bind (·.targetHost), fusionEnginePayload.bind (·.targetHost)]
    |>.filterMap id |>.filter (· ≠ "")
  match hosts with
  | [] => none
  | host :: rest => if rest.all (· = host) then some host else none

/-! ## The panels -/

/-- What the summary, the settings and the chart are drawn from. -/
structure AnalysisView where
  decision : Option (Part Decision)
  fusionResult : Option (Part FusionResult)
  runtimeConfig : Option (Part RuntimeConfigSnapshot)
  chart : Option (Part StoppingTrace)

/-- Content taken from an answer of Run Detail. -/
def detailPart {α : Type} (detail : Answer RunDetailPayload) (value : α) : Part α :=
  ⟨detail.request, detail.state.payload?.bind (·.decisionId), value⟩

/-- Content taken from an answer of Fusion Engine. -/
def fusionPart {α : Type} (fusion : Answer FusionEnginePayload) (value : α) : Part α :=
  ⟨fusion.request, fusion.state.payload?.bind (·.decisionId), value⟩

section Render

variable (draws : StoppingTrace → Option RuntimeConfigSnapshot → Bool)
  (detail : Answer RunDetailPayload) (fusion : Answer FusionEnginePayload)

/-- The consistency of the two answers. -/
def answerConsistency : DecisionConsistency :=
  getDecisionVersionConsistency detail.state.payload? fusion.state.payload?

/-- The source of the two answers. -/
def answerSource : AnalysisSource :=
  getSelectedAnalysisSource detail.state.payload? fusion.state.payload?

/-- The Decision `renderSelectedAnalysis` shows. -/
def shownDecision : Option (Part Decision) :=
  match answerSource detail fusion with
  | .matched | .runDetail => (detail.state.payload?.bind (·.decision)).map (detailPart detail)
  | .fusionEngine => (fusion.state.payload?.bind (·.currentDecision)).map (fusionPart fusion)
  | .fusionEngineWithoutDecision | .none => none

/-- `current_decision.latest_fusion_result` of Run Detail. -/
def detailFusionResult : Option (Part FusionResult) :=
  (detail.state.payload?.bind (·.currentDecision)).bind (·.latestFusionResult) |>.map
    (detailPart detail)

/-- `fusion_result` of Fusion Engine. -/
def engineFusionResult : Option (Part FusionResult) :=
  (fusion.state.payload?.bind (·.fusionResult)).map (fusionPart fusion)

/-- The Fusion result `renderSelectedAnalysis` shows. -/
def shownFusionResult : Option (Part FusionResult) :=
  match answerSource detail fusion with
  | .matched => engineFusionResult fusion <|> detailFusionResult detail
  | .runDetail => detailFusionResult detail
  | .fusionEngine | .fusionEngineWithoutDecision => engineFusionResult fusion
  | .none => none

/-- The runtime config `renderSelectedAnalysis` shows. -/
def shownRuntimeConfig : Option (Part RuntimeConfigSnapshot) :=
  if (answerSource detail fusion).usesFusionEngine then
    (fusion.state.payload?.bind (·.runtimeConfigSnapshot)).map (fusionPart fusion)
  else none

/-- The stopping trace of `renderSelectedAnalysis`. -/
def shownStoppingTrace : Option (Part StoppingTrace) :=
  if (answerSource detail fusion).usesFusionEngine then
    (fusion.state.payload?.bind (·.stoppingTrace)).map (fusionPart fusion)
  else none

/-- The chart of `renderSelectedAnalysis`: a trace with points whose model builds, unless
the decision versions differ. `draws` says which models `buildScoreTrajectoryModel` builds. -/
def shownChart : Option (Part StoppingTrace) :=
  if answerConsistency detail fusion = .mismatch then none
  else (shownStoppingTrace detail fusion).filter fun trace =>
    trace.value.points ≠ [] &&
      draws trace.value ((shownRuntimeConfig detail fusion).map (·.value))

/-- The summary, the settings and the chart of `renderSelectedAnalysis`. -/
def analysisView : AnalysisView where
  decision := shownDecision detail fusion
  fusionResult := shownFusionResult detail fusion
  runtimeConfig := shownRuntimeConfig detail fusion
  chart := shownChart draws detail fusion

/-- `renderDecisionHistory`: the items it puts in the lists, if it replaces them. -/
def decisionHistoryItems : Option (Part (List Decision)) :=
  (detail.state.payload?.map (·.decisionHistory)).filter (· ≠ []) |>.map (detailPart detail)

/-- The state `renderSelectedAnalysis` leaves. -/
def answerState (runtimeStatus : Option RuntimeStatus) : AnalysisState :=
  getSelectedAnalysisState detail.state fusion.state runtimeStatus
    ((shownDecision detail fusion).isSome || (shownFusionResult detail fusion).isSome ||
      (shownStoppingTrace detail fusion).isSome)
    (answerConsistency detail fusion)

end Render

/-! ## Runtime reports -/

/-- An item of the runtime summary. -/
structure RuntimeItem where
  runId : RunId
  entityId : String
  status : RuntimeStatus
  isStale : Bool
  deriving DecidableEq

/-- `findSelectedRuntime`. -/
def findSelectedRuntime (runtimeItems : List RuntimeItem) (selectedRunId : Option RunId)
    (selectedEntityId : Option String) : Option RuntimeItem :=
  match selectedRunId, selectedEntityId with
  | some runId, some entityId =>
    runtimeItems.find? fun runtime => runtime.runId = runId && runtime.entityId = entityId
  | _, _ => none

/-- The tracking of the selected runtime. -/
structure RuntimeTracking where
  report : Option RuntimeItem
  outsideQuery : Bool
  queryFailed : Bool
  missingPolls : Nat
  recheckAttempts : Nat
  deriving DecidableEq

/-- `createSelectedRuntimeTracking`. -/
def createSelectedRuntimeTracking (report : Option RuntimeItem) : RuntimeTracking :=
  ⟨report, false, false, 0, 0⟩

/-- `resolveSelectedRuntimeTracking`: a failed query is `none`. -/
def resolveSelectedRuntimeTracking (previousTracking : RuntimeTracking)
    (selectedRunId : Option RunId) (selectedEntityId : Option String) :
    Option (List RuntimeItem) → RuntimeTracking
  | none => { previousTracking with queryFailed := true }
  | some items =>
    match findSelectedRuntime items selectedRunId selectedEntityId with
    | some next => createSelectedRuntimeTracking (some next)
    | none =>
      if previousTracking.report.map (·.status) = some .running then
        { previousTracking with
          outsideQuery := true, queryFailed := false
          missingPolls := previousTracking.missingPolls + 1 }
      else { previousTracking with queryFailed := false }

/-- `SELECTED_RUNTIME_RECHECK_POLL_THRESHOLDS`. -/
def selectedRuntimeRecheckPollThresholds : List Nat := [1, 3, 7, 15, 31]

/-- `recordSelectedRuntimeRecheck`. -/
def recordSelectedRuntimeRecheck (tracking : RuntimeTracking) : RuntimeTracking :=
  { tracking with recheckAttempts := tracking.recheckAttempts + 1 }

/-- `shouldRecheckSelectedRuntimeAnalysis`. -/
def shouldRecheckSelectedRuntimeAnalysis (tracking : RuntimeTracking)
    (analysisRequestPending analysisAvailable : Bool) : Bool :=
  tracking.outsideQuery && !tracking.queryFailed && !analysisRequestPending &&
    !analysisAvailable &&
    (selectedRuntimeRecheckPollThresholds[tracking.recheckAttempts]?).any
      (· ≤ tracking.missingPolls)

/-- `getSelectedRuntimeRecheckMessage`, by what tells its texts apart. -/
inductive RecheckMessage where
  | queryFailed
  | finished
  | rechecking (recheckAttempts : Nat)
  deriving DecidableEq, Repr

/-- `getSelectedRuntimeRecheckMessage`. -/
def getSelectedRuntimeRecheckMessage (tracking : RuntimeTracking) : Option RecheckMessage :=
  if tracking.outsideQuery = false then none
  else if tracking.queryFailed then some .queryFailed
  else if selectedRuntimeRecheckPollThresholds.length ≤ tracking.recheckAttempts then
    some .finished
  else some (.rechecking tracking.recheckAttempts)

/-- `getSelectedRunStatusTransition`. -/
def getSelectedRunStatusTransition (selectedRunId : Option RunId)
    (selectedEntityId : Option String) (previousRuntimeItems nextRuntimeItems : List RuntimeItem) :
    Option RuntimeStatus :=
  let previous := findSelectedRuntime previousRuntimeItems selectedRunId selectedEntityId
  let next := findSelectedRuntime nextRuntimeItems selectedRunId selectedEntityId
  if previous.map (·.status) = some .running then next.map (·.status) else none

/-- `shouldRefreshSelectedRunAnalysis`. -/
def shouldRefreshSelectedRunAnalysis (selectedRunId : Option RunId)
    (selectedEntityId : Option String) (previousRuntimeItems nextRuntimeItems : List RuntimeItem) :
    Bool :=
  getSelectedRunStatusTransition selectedRunId selectedEntityId previousRuntimeItems
    nextRuntimeItems = some .completed

/-- `shouldUpdateSelectedRunFailureState`. -/
def shouldUpdateSelectedRunFailureState (selectedRunId : Option RunId)
    (selectedEntityId : Option String) (previousRuntimeItems nextRuntimeItems : List RuntimeItem) :
    Bool :=
  getSelectedRunStatusTransition selectedRunId selectedEntityId previousRuntimeItems
    nextRuntimeItems = some .failed

/-- `canRefreshSelectedAnalysis`. -/
def canRefreshSelectedAnalysis (selectedRunId : Option RunId) (analysisRequestPending : Bool) :
    Bool :=
  selectedRunId.isSome && !analysisRequestPending

/-- `resolveInitialRunSelection`. Every run id here is one `hasRunId` takes. -/
def resolveInitialRunSelection (currentRunId : Option RunId)
    (currentRuntimeEntityId : Option String) (runtimeQuerySettled telemetryAvailable : Bool)
    (runtimeItems : List RuntimeItem) (runItems : List RunId) : Option (RunId × Option String) :=
  match currentRunId with
  | some runId => some (runId, currentRuntimeEntityId)
  | none =>
    if runtimeQuerySettled = false then none
    else
      let hasRuntimeIdentity (runtime : RuntimeItem) : Bool := runtime.entityId ≠ ""
      let currentRunning := runtimeItems.find? fun runtime =>
        runtime.status = .running && !runtime.isStale && hasRuntimeIdentity runtime
      let completed := runtimeItems.find? fun runtime =>
        runtime.status = .completed && hasRuntimeIdentity runtime
      let staleRunning := runtimeItems.find? fun runtime =>
        runtime.status = .running && runtime.isStale && hasRuntimeIdentity runtime
      let runtimeCandidate :=
        if telemetryAvailable then currentRunning <|> completed <|> staleRunning else none
      match runtimeCandidate with
      | some runtime => some (runtime.runId, some runtime.entityId)
      | none => runItems.head?.map fun runId => (runId, none)

end IncidentAwareness.Dashboard.SelectedRun
