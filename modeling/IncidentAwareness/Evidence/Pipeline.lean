import IncidentAwareness.Evidence.MultiEvent
import IncidentAwareness.Lib.Table

/-!
# The R1 Evidence pipeline

`run_r1_evidence_pipeline_with_selector`: the selector's lineage becomes an
`R1LineageInput`, whose checks are its own, and the extractors run on the same
batch of Events.
-/

namespace IncidentAwareness.Evidence

open IncidentAwareness.Common IncidentAwareness.Lib

/-! ## The lineage input -/

/-- The arguments of `R1LineageInput`. -/
structure R1LineageInputFields where
  anchorEventId : String
  terminalEventId : String
  approvedPolicy : ApprovedLineagePolicy
  contextEventIds : List String := []

/-- The arguments that a selection gives. -/
def R1LineageInputFields.ofSelection (approvedPolicy : ApprovedLineagePolicy)
    (selection : R1LineageSelection) : R1LineageInputFields where
  anchorEventId := selection.anchorEventId
  terminalEventId := selection.terminalEventId
  approvedPolicy
  contextEventIds := selection.contextEventIds

/-- What `R1LineageInput` requires of an event id of its own. -/
def requireNonBlank (fieldName value : String) : Except PyError Unit :=
  raiseIf (isBlank value) (.valueError (fieldName ++ " must be a non-blank string"))

/-- `R1LineageInput.__post_init__`. -/
def validateLineageInput (input : R1LineageInputFields) : Except PyError Unit := do
  requireNonBlank "anchor_event_id" input.anchorEventId
  requireNonBlank "terminal_event_id" input.terminalEventId
  validateContextEventIds input.contextEventIds
  raiseIf (input.contextEventIds ≠ [] ∧ input.contextEventIds.head? ≠ some input.anchorEventId)
    (.valueError "context_event_ids must start with anchor_event_id")
  raiseIf (input.terminalEventId ∈ input.contextEventIds)
    (.valueError "terminal_event_id must not be a context Event")

/-- `R1LineageInput`. -/
abbrev R1LineageInput := Validated validateLineageInput

/-! ## The batch -/

/-- The Events of a batch under their ids. -/
abbrev EventsById := Table (SameKey (·.eventId : NormalizedEvent → String))

/-- `events_by_id[event.event_id] = event`, once. -/
def indexEvent (eventsById : EventsById) (e : NormalizedEvent) : Except PyError EventsById :=
  match eventsById.insert? e with
  | some eventsById => .ok eventsById
  | none => .error (.valueError ("events must contain unique event_id values: " ++ e.eventId))

/-- `_index_events_by_id`. -/
def indexEventsById (events : List NormalizedEvent) : Except PyError EventsById :=
  events.foldlM indexEvent .empty

/-- `_required_event`. -/
def requiredEvent (eventsById : EventsById) (fieldName eventId : String) :
    Except PyError NormalizedEvent :=
  match eventsById.get eventId with
  | some e => .ok e
  | none =>
    .error (.valueError (fieldName ++ " does not reference an Event in the batch: " ++ eventId))

/-- `_ResolvedLineageInput`. -/
structure ResolvedLineageInput where
  lineageInput : R1LineageInput
  anchor : NormalizedEvent
  terminal : NormalizedEvent

/-- One turn of `_resolve_lineage_inputs`. -/
def resolveLineageInput (eventsById : EventsById) (lineageInput : R1LineageInput) :
    Except PyError ResolvedLineageInput := do
  let anchor ← requiredEvent eventsById "anchor_event_id" lineageInput.val.anchorEventId
  let terminal ← requiredEvent eventsById "terminal_event_id" lineageInput.val.terminalEventId
  return ⟨lineageInput, anchor, terminal⟩

/-- The terminal Events of the inputs, once each. -/
def terminalEvents (resolved : List ResolvedLineageInput) : List NormalizedEvent :=
  ((resolved.map (·.terminal)).foldl Table.upsert (.empty : EventsById)).rows

/-- `network_events_by_key.get(key)`, for the key of a process. -/
def networkEventsOf (events : List NormalizedEvent) (process : NormalizedEvent) :
    List NormalizedEvent :=
  events.filter fun e => processGuid e ≠ none ∧ e.eventType = "network_connection" ∧
    e.runId = process.runId ∧ e.hostId = process.hostId ∧ processGuid e = processGuid process

section Extraction

variable (casefold : String → String) (uuid5 : List IdentityPart → String)

/-- `_extract_network_follow_on_candidates`. -/
def extractNetworkFollowOnCandidates (events terminals : List NormalizedEvent) :
    List (Evidence R1Features) :=
  (sortedBy eventKey terminals).flatMap fun terminal =>
    if processGuid terminal = none then []
    else (sortedBy eventKey (networkEventsOf events terminal)).flatMap
      (extractRemoteProcessNetworkFollowOn uuid5 terminal)

/-- `r1_evidence_sort_key`. -/
def r1EvidenceSortKey (e : Evidence R1Features) : Int ×ₗ String ×ₗ String :=
  toLex (e.timestamp, toLex (e.evidenceType, e.evidenceId))

/-- `R1EvidencePipelineResult`. -/
structure R1EvidencePipelineResult where
  evidences : List (Evidence R1Features)
  diagnostics : List R1ExtractionDiagnostic
  deriving DecidableEq, Repr

/-- The lineage extraction of a resolved input. -/
def extractResolved (events : List NormalizedEvent) (resolved : ResolvedLineageInput) :
    Except PyError R1LineageExtractionResult :=
  extractRemoteSessionProcessLineageDeviationWithDiagnostics casefold uuid5 events resolved.anchor
    resolved.terminal resolved.lineageInput.val.approvedPolicy
    resolved.lineageInput.val.contextEventIds

/-- The result of the extracted Evidences: one of every id, in canonical order. -/
def pipelineResult (evidences : List (Evidence R1Features))
    (diagnostics : List R1ExtractionDiagnostic) : R1EvidencePipelineResult where
  evidences := sortedBy r1EvidenceSortKey (firstBy (·.evidenceId) evidences)
  diagnostics := sortedBy (·.value) diagnostics.dedup

/-- `run_r1_evidence_pipeline_with_diagnostics`. -/
def runR1EvidencePipelineWithDiagnostics (events : List NormalizedEvent)
    (lineageInputs : List R1LineageInput) : Except PyError R1EvidencePipelineResult := do
  let eventsById ← indexEventsById events
  let resolved ← lineageInputs.mapM (resolveLineageInput eventsById)
  let lineageResults ← resolved.mapM (extractResolved casefold uuid5 events)
  return pipelineResult
    (extractNetworkFollowOnCandidates uuid5 events (terminalEvents resolved) ++
      lineageResults.flatMap (·.evidences))
    (lineageResults.flatMap (·.diagnostics))

/-- `R1SelectedEvidencePipelineResult`. -/
structure R1SelectedEvidencePipelineResult where
  evidences : List (Evidence R1Features)
  selectorResult : R1SelectorResult
  lineageInput : Option R1LineageInput
  extractionDiagnostics : List R1ExtractionDiagnostic

/-- The pipeline on the selection of the batch. -/
def runSelection (events : List NormalizedEvent) (approvedPolicy : ApprovedLineagePolicy)
    (selectorResult : R1SelectorResult) : Except PyError R1SelectedEvidencePipelineResult :=
  match selectorResult.selection with
  | none => .ok ⟨[], selectorResult, none, []⟩
  | some selection => do
    let lineageInput ← construct validateLineageInput (.ofSelection approvedPolicy selection)
    let result ← runR1EvidencePipelineWithDiagnostics casefold uuid5 events [lineageInput]
    return ⟨result.evidences, selectorResult, some lineageInput, result.diagnostics⟩

/-- `run_r1_evidence_pipeline_with_selector`. -/
def runR1EvidencePipelineWithSelector (events : List NormalizedEvent)
    (selectorPolicy : R1SelectorPolicy) (approvedPolicy : ApprovedLineagePolicy)
    (runStart : Option PyDatetime) : Except PyError R1SelectedEvidencePipelineResult := do
  raiseIf (selectorPolicy.lineageEventCount ≠ approvedPolicy.approvedLineage.length)
    (.valueError "selector lineage_event_count must match approved_lineage length")
  let selectorResult ← selectR1Lineage selectorPolicy runStart events
  runSelection casefold uuid5 events approvedPolicy selectorResult

end Extraction

end IncidentAwareness.Evidence
