import IncidentAwareness.Common.Datetime
import IncidentAwareness.Common.Event
import IncidentAwareness.Lib.Canonical
import Mathlib.Data.List.Dedup
import Mathlib.Data.Prod.Lex
import Mathlib.Data.String.Basic

/-!
# The R1 selector

`select_r1_lineage`: from a batch of Events the one process that opens a network
connection in the Run, and its lineage up to the policy's length; or the reason
why there is none. Names and labels play no part.
-/

namespace IncidentAwareness.Evidence

open IncidentAwareness.Common IncidentAwareness.Lib

/-- `R1SelectorDiagnostic`. -/
inductive R1SelectorDiagnostic where
  | emptyEventBatch | mixedRunScope | mixedHostScope | duplicateEventId | missingProcessGuid
  | duplicateProcessGuid | noTerminalCandidate | ambiguousTerminalCandidate | truncatedLineage
  | lineageCycle | temporalInversion
  deriving DecidableEq, Repr

/-- The literal of a diagnostic. -/
def R1SelectorDiagnostic.value : R1SelectorDiagnostic → String
  | .emptyEventBatch => "empty_event_batch"
  | .mixedRunScope => "mixed_run_scope"
  | .mixedHostScope => "mixed_host_scope"
  | .duplicateEventId => "duplicate_event_id"
  | .missingProcessGuid => "missing_process_guid"
  | .duplicateProcessGuid => "duplicate_process_guid"
  | .noTerminalCandidate => "no_terminal_candidate"
  | .ambiguousTerminalCandidate => "ambiguous_terminal_candidate"
  | .truncatedLineage => "truncated_lineage"
  | .lineageCycle => "lineage_cycle"
  | .temporalInversion => "temporal_inversion"

/-- `R1SelectorPolicy`. -/
structure R1SelectorPolicy where
  policyId : String
  version : String
  configHash : String
  lineageEventCount : Nat
  policyId_nonblank : isBlank policyId = false := by decide
  version_nonblank : isBlank version = false := by decide
  configHash_nonblank : isBlank configHash = false := by decide
  lineageEventCount_pos : 1 ≤ lineageEventCount := by decide

/-- `R1LineageSelection`. -/
structure R1LineageSelection where
  runId : String
  entityId : String
  anchorEventId : String
  terminalEventId : String
  selectorPolicyId : String
  selectorPolicyVersion : String
  selectorPolicyConfigHash : String
  contextEventIds : List String := []
  deriving DecidableEq, Repr

/-- `R1SelectorResult`. -/
structure R1SelectorResult where
  selection : Option R1LineageSelection
  diagnostics : List R1SelectorDiagnostic
  deriving DecidableEq, Repr

/-- `_process_guid`. -/
def processGuid (e : NormalizedEvent) : Option String := e.process.bind (·.processGuid)

/-- `_parent_process_guid`. -/
def parentProcessGuid (e : NormalizedEvent) : Option String := e.process.bind (·.parentProcessGuid)

/-- `_is_process_create`. -/
def isProcessCreate (e : NormalizedEvent) : Bool :=
  e.source = "sysmon" && e.sourceLayer = .rawTelemetry && e.eventType = "process_create"

/-- `_is_network_connection`. -/
def isNetworkConnection (e : NormalizedEvent) : Bool :=
  e.source = "sysmon" && e.sourceLayer = .rawTelemetry && e.eventType = "network_connection"

/-- The sort key `(timestamp, event_id)`. -/
def eventKey (e : NormalizedEvent) : Int ×ₗ String := toLex (e.timestamp, e.eventId)

/-- `networks_by_guid.get(process_guid)`. -/
def linkedNetworkEvents (networks : List NormalizedEvent) (p : NormalizedEvent) :
    List NormalizedEvent :=
  networks.filter fun n => processGuid n = processGuid p

/-- A linked network connection comes before the process. -/
def isInverted (networks : List NormalizedEvent) (p : NormalizedEvent) : Bool :=
  (linkedNetworkEvents networks p).any fun n => n.timestamp < p.timestamp

/-- The processes of the Run that can be terminal. -/
def runProcesses (runStart : Option Int) (processes : List NormalizedEvent) :
    List NormalizedEvent :=
  processes.filter fun p => (∀ start ∈ runStart, ¬ eventInstant p < start) ∧ (processGuid p).isSome

/-- `_terminal_candidates`, the candidates. -/
def terminalCandidates (processes networks : List NormalizedEvent) (runStart : Option Int) :
    List NormalizedEvent :=
  sortedBy eventKey <| (runProcesses runStart processes).filter fun p =>
    ¬ isInverted networks p ∧ linkedNetworkEvents networks p ≠ []

/-- `_terminal_candidates`, the temporal inversion. -/
def hasTemporalInversion (processes networks : List NormalizedEvent)
    (runStart : Option Int) : Bool :=
  (runProcesses runStart processes).any (isInverted networks)

/-- `process_events_by_guid.get(guid)`. -/
def processByGuid (processes : List NormalizedEvent) (guid : String) : Option NormalizedEvent :=
  processes.find? fun p => processGuid p = some guid

/-- The loop of `_lineage_to_policy_boundary`: the parents of the child still to
find. The lineage so far stands root first. -/
def lineageFrom (parent : String → Option NormalizedEvent) :
    Nat → NormalizedEvent → List String → List NormalizedEvent →
      Except R1SelectorDiagnostic (List NormalizedEvent)
  | 0, _, _, lineage => .ok lineage
  | remaining + 1, child, visited, lineage =>
    match parentProcessGuid child with
    | none => .error .truncatedLineage
    | some parentGuid =>
      if parentGuid ∈ visited then .error .lineageCycle
      else match parent parentGuid with
        | none => .error .truncatedLineage
        | some p =>
          if child.timestamp < p.timestamp then .error .temporalInversion
          else lineageFrom parent remaining p (parentGuid :: visited) (p :: lineage)

/-- `_lineage_to_policy_boundary`, reversed. -/
def lineageToPolicyBoundary (parent : String → Option NormalizedEvent) (lineageEventCount : Nat)
    (terminal : NormalizedEvent) : Except R1SelectorDiagnostic (List NormalizedEvent) :=
  match processGuid terminal with
  | none => .error .missingProcessGuid
  | some guid => lineageFrom parent (lineageEventCount - 1) terminal [guid] [terminal]

/-- The one terminal candidate. -/
def uniqueTerminal : List NormalizedEvent → Except R1SelectorDiagnostic NormalizedEvent
  | [] => .error .noTerminalCandidate
  | [terminal] => .ok terminal
  | _ => .error .ambiguousTerminalCandidate

/-- The ids of the lineage's Events before the Run. -/
def contextEventIds (runStart : Option Int) (lineage : List NormalizedEvent) : List String :=
  (lineage.filter fun e => ∃ start ∈ runStart, eventInstant e < start).map (·.eventId)

/-- The terminal Event and its lineage, root first. -/
structure SelectedLineage where
  terminal : NormalizedEvent
  lineage : List NormalizedEvent
  deriving DecidableEq, Repr

/-- The root of the lineage. -/
def SelectedLineage.anchor (selected : SelectedLineage) : NormalizedEvent :=
  selected.lineage.headD selected.terminal

/-- The selection of a lineage. -/
def selectionOf (policy : R1SelectorPolicy) (runStart : Option Int) (selected : SelectedLineage) :
    R1LineageSelection where
  runId := selected.terminal.runId
  entityId := selected.terminal.hostId
  anchorEventId := selected.anchor.eventId
  terminalEventId := selected.terminal.eventId
  selectorPolicyId := policy.policyId
  selectorPolicyVersion := policy.version
  selectorPolicyConfigHash := policy.configHash
  contextEventIds := contextEventIds runStart selected.lineage

/-- `select_r1_lineage` on the process creations and network connections of a
batch of one Run and host. -/
def selectScoped (policy : R1SelectorPolicy) (runStart : Option Int)
    (processes networks : List NormalizedEvent) : Except R1SelectorDiagnostic SelectedLineage := do
  raiseIf (∃ e ∈ processes ++ networks, processGuid e = none) .missingProcessGuid
  raiseIf (¬ (processes.map processGuid).Nodup) .duplicateProcessGuid
  raiseIf (hasTemporalInversion processes networks runStart) .temporalInversion
  let terminal ← uniqueTerminal (terminalCandidates processes networks runStart)
  let lineage ← lineageToPolicyBoundary (processByGuid processes) policy.lineageEventCount terminal
  return ⟨terminal, lineage⟩

/-- `select_r1_lineage`: the lineage, or the first diagnostic. -/
def selectLineage (policy : R1SelectorPolicy) (runStart : Option Int)
    (events : List NormalizedEvent) : Except R1SelectorDiagnostic SelectedLineage := do
  raiseIf (events = []) .emptyEventBatch
  raiseIf (¬ (events.map (·.eventId)).Nodup) .duplicateEventId
  raiseIf ((events.map (·.runId)).dedup.length ≠ 1) .mixedRunScope
  raiseIf ((events.map (·.hostId)).dedup.length ≠ 1) .mixedHostScope
  selectScoped policy runStart (events.filter isProcessCreate) (events.filter isNetworkConnection)

/-- The result of a lineage, or of its diagnostic. -/
def selectorResult (policy : R1SelectorPolicy) (runStart : Option Int) :
    Except R1SelectorDiagnostic SelectedLineage → R1SelectorResult
  | .error diagnostic => ⟨none, [diagnostic]⟩
  | .ok selected => ⟨some (selectionOf policy runStart selected), []⟩

/-- `_normalize_run_start`. -/
def normalizeRunStart : Option PyDatetime → Except PyError (Option Int)
  | none => .ok none
  | some runStart => some <$> requireUtc "run_start" runStart

/-- `select_r1_lineage`. -/
def selectR1Lineage (policy : R1SelectorPolicy) (runStart : Option PyDatetime)
    (events : List NormalizedEvent) : Except PyError R1SelectorResult := do
  let start ← normalizeRunStart runStart
  return selectorResult policy start (selectLineage policy start events)

end IncidentAwareness.Evidence
