import IncidentAwareness.Common.Evidence
import IncidentAwareness.Evidence.Selector

/-!
# The R1 extractors

The two multi-event Evidences of R1: a network connection that follows the
creation of its process, and a process lineage other than the approved one. The
second walks the parents again, from the terminal to the anchor, over an index
of its own (`reconstructProcessLineage`).

`uuid5` is given the identity before `json.dumps` writes it, and `casefold` is
`str.casefold`.
-/

namespace IncidentAwareness.Evidence

open IncidentAwareness.Common IncidentAwareness.Lib

def extractorVersion : String := "r1-v0.1"

def remoteProcessNetworkFollowOn : String := "remote_process_network_follow_on"

def remoteSessionProcessLineageDeviation : String := "remote_session_process_lineage_deviation"

/-- `R1ExtractionDiagnostic`. -/
inductive R1ExtractionDiagnostic where
  | missingProcessGuid | truncatedLineage | lineageCycle | duplicateProcessGuid
  | missingOrBlankProcessName
  deriving DecidableEq, Repr

/-- The literal of a diagnostic. -/
def R1ExtractionDiagnostic.value : R1ExtractionDiagnostic → String
  | .missingProcessGuid => "missing_process_guid"
  | .truncatedLineage => "truncated_lineage"
  | .lineageCycle => "lineage_cycle"
  | .duplicateProcessGuid => "duplicate_process_guid"
  | .missingOrBlankProcessName => "missing_or_blank_process_name"

/-- `ApprovedLineagePolicy`. -/
structure ApprovedLineagePolicy where
  policyId : String
  version : String
  configHash : String
  approvedLineage : List String
  policyId_nonblank : isBlank policyId = false := by decide
  version_nonblank : isBlank version = false := by decide
  configHash_nonblank : isBlank configHash = false := by decide
  approvedLineage_ne_nil : approvedLineage ≠ [] := by decide
  approvedLineage_nonblank : ∀ name ∈ approvedLineage, isBlank name = false := by decide

/-- The `features` of an R1 Evidence. -/
abbrev R1Features := List (String × String)

/-! ## The follow-on -/

/-- The identity behind `_deterministic_evidence_id`. -/
def followOnIdentity (runId : String) (eventIds : List String) : List IdentityPart :=
  [.text runId, .texts (sortedBy id eventIds), .text remoteProcessNetworkFollowOn,
    .text extractorVersion]

/-- `_deterministic_evidence_id`. -/
def deterministicEvidenceId (uuid5 : List IdentityPart → String) (runId : String)
    (eventIds : List String) : String :=
  "E-" ++ uuid5 (followOnIdentity runId eventIds)

/-- `_has_expected_event_contract`. -/
def hasExpectedEventContract (process network : NormalizedEvent) : Bool :=
  isProcessCreate process && isNetworkConnection network

/-- The Evidence of a process and its network connection. -/
def followOnEvidence (uuid5 : List IdentityPart → String) (process network : NormalizedEvent) :
    Evidence R1Features where
  evidenceId := deterministicEvidenceId uuid5 process.runId [process.eventId, network.eventId]
  runId := process.runId
  timestamp := max (eventInstant process) (eventInstant network)
  entityId := process.hostId
  evidenceType := remoteProcessNetworkFollowOn
  eventIds := [process.eventId, network.eventId]
  derivedFromSourceLayer := .rawTelemetry
  featureChannelGroup := .fusionFeature
  extractorVersion := extractorVersion
  features := []

/-- The checks of `extract_remote_process_network_follow_on`. -/
def followsOn (process network : NormalizedEvent) : Prop :=
  hasExpectedEventContract process network ∧ processGuid process ≠ none ∧
    processGuid network ≠ none ∧ process.runId = network.runId ∧ process.hostId = network.hostId ∧
    processGuid process = processGuid network ∧ ¬ network.timestamp < process.timestamp

instance (process network : NormalizedEvent) : Decidable (followsOn process network) :=
  inferInstanceAs (Decidable (_ ∧ _))

/-- `extract_remote_process_network_follow_on`. -/
def extractRemoteProcessNetworkFollowOn (uuid5 : List IdentityPart → String)
    (process network : NormalizedEvent) : List (Evidence R1Features) :=
  if followsOn process network then [followOnEvidence uuid5 process network] else []

/-! ## The lineage -/

/-- `LineageStatus`. -/
inductive LineageStatus where
  | complete | truncated | cycle
  deriving DecidableEq, Repr

/-- `LineageFailureReason`. -/
inductive LineageFailureReason where
  | missingParent | duplicateProcessGuid
  deriving DecidableEq, Repr

/-- `_LineageCorrelation`. -/
structure LineageCorrelation where
  status : LineageStatus
  events : List NormalizedEvent
  failureReason : Option LineageFailureReason := none
  missingParentProcessGuid : Option String := none
  duplicateProcessGuid : Option String := none
  deriving DecidableEq, Repr

/-- `_has_expected_process_event_contract`, which the selector calls `_is_process_create`. -/
def hasExpectedProcessEventContract (e : NormalizedEvent) : Bool := isProcessCreate e

/-- `_is_eligible_process_event`. -/
def isEligibleProcessEvent (e : NormalizedEvent) : Bool :=
  hasExpectedProcessEventContract e && (processGuid e).isSome

/-- `_is_parent_edge`. -/
def isParentEdge (child parent : NormalizedEvent) : Bool :=
  isEligibleProcessEvent child && isEligibleProcessEvent parent &&
    (parentProcessGuid child).isSome && (processGuid parent).isSome &&
    child.runId = parent.runId && child.hostId = parent.hostId &&
    parentProcessGuid child = processGuid parent && parent.timestamp ≤ child.timestamp

/-- `_index_process_events`: the Events it groups. -/
def indexProcessEvents (events : List NormalizedEvent) (anchor terminal : NormalizedEvent) :
    List NormalizedEvent :=
  firstBy (·.eventId) <| (events ++ [anchor, terminal]).filter fun e =>
    isEligibleProcessEvent e ∧ e.runId = terminal.runId ∧ e.hostId = terminal.hostId

/-- `process_events_by_guid.get(guid, ())`. -/
def eventsOfGuid (index : List NormalizedEvent) (guid : String) : List NormalizedEvent :=
  index.filter fun e => processGuid e = some guid

/-- The indexed Events whose guid was not seen yet. -/
def unseen (index : List NormalizedEvent) (seen : List String) : List NormalizedEvent :=
  index.filter fun e => ∀ guid ∈ processGuid e, guid ∉ seen

/-- Seeing the guid of an indexed Event leaves fewer unseen. -/
theorem unseen_length_lt {index : List NormalizedEvent} {seen : List String} {guid : String}
    {e : NormalizedEvent} (he : e ∈ eventsOfGuid index guid) (hguid : guid ∉ seen) :
    (unseen index (guid :: seen)).length < (unseen index seen).length := by
  obtain ⟨hmem, hof⟩ := List.mem_filter.mp he
  have hof : processGuid e = some guid := by simpa using hof
  have hsub : unseen index (guid :: seen) = (unseen index seen).filter fun e =>
      ∀ g ∈ processGuid e, g ≠ guid := by
    rw [unseen, unseen, List.filter_filter]
    refine List.filter_congr fun a _ => ?_
    rw [← Bool.decide_and, decide_eq_decide]
    simp only [List.mem_cons, not_or]
    exact ⟨fun h => ⟨fun g hg => (h g hg).1, fun g hg => (h g hg).2⟩,
      fun h g hg => ⟨h.1 g hg, h.2 g hg⟩⟩
  rw [hsub]
  refine List.length_filter_lt_length_iff_exists.mpr ⟨e, ?_, by simp [hof]⟩
  exact List.mem_filter.mpr ⟨hmem, by simpa [hof] using hguid⟩

/-- The loop of `_reconstruct_process_lineage`. What was observed from the
terminal on stands root first. -/
def reconstructFrom (index : List NormalizedEvent) (anchorGuid : String) (current : NormalizedEvent)
    (seen : List String) (observed : List NormalizedEvent) : LineageCorrelation :=
  match processGuid current with
  | none => { status := .truncated, events := observed, failureReason := some .missingParent }
  | some currentGuid =>
    if 1 < (eventsOfGuid index currentGuid).length then
      { status := .truncated, events := observed, failureReason := some .duplicateProcessGuid,
        duplicateProcessGuid := some currentGuid }
    else if currentGuid = anchorGuid then { status := .complete, events := observed }
    else match parentProcessGuid current with
      | none =>
        { status := .truncated, events := observed, failureReason := some .missingParent,
          missingParentProcessGuid := some anchorGuid }
      | some parentGuid =>
        if _hseen : parentGuid ∈ seen then { status := .cycle, events := observed }
        else match _hparents : eventsOfGuid index parentGuid with
          | _ :: _ :: _ =>
            { status := .truncated, events := observed, failureReason := some .duplicateProcessGuid,
              duplicateProcessGuid := some parentGuid }
          | [parent] =>
            if isParentEdge current parent then
              reconstructFrom index anchorGuid parent (parentGuid :: seen) (parent :: observed)
            else
              { status := .truncated, events := observed, failureReason := some .missingParent,
                missingParentProcessGuid := some parentGuid }
          | [] =>
            { status := .truncated, events := observed, failureReason := some .missingParent,
              missingParentProcessGuid := some parentGuid }
termination_by (unseen index seen).length
decreasing_by
  exact unseen_length_lt (_hparents ▸ List.mem_singleton_self parent) _hseen

/-- `_reconstruct_process_lineage`. -/
def reconstructProcessLineage (events : List NormalizedEvent) (anchor terminal : NormalizedEvent) :
    LineageCorrelation :=
  match processGuid anchor, processGuid terminal with
  | some anchorGuid, some terminalGuid =>
    reconstructFrom (indexProcessEvents events anchor terminal) anchorGuid terminal [terminalGuid]
      [terminal]
  | _, _ => { status := .truncated, events := [terminal], failureReason := some .missingParent }

/-! ## The lineage deviation -/

/-- `_process_name`. -/
def processName (e : NormalizedEvent) : Option String := e.process.bind (·.name)

/-- The process has no name, or a blank one. -/
def hasMissingOrBlankName (e : NormalizedEvent) : Bool := (processName e).all isBlank

/-- `_canonical_process_lineage`. -/
def canonicalProcessLineage (casefold : String → String) (events : List NormalizedEvent) :
    Option (List String) :=
  if ∃ e ∈ events, hasMissingOrBlankName e then none
  else some (events.map fun e => casefold ((processName e).getD ""))

/-- `_validate_context_event_ids`. -/
def validateContextEventIds (contextEventIds : List String) : Except PyError Unit := do
  raiseIf (∃ eventId ∈ contextEventIds, isBlank eventId)
    (.valueError "context_event_ids must contain only non-blank strings")
  raiseIf (¬ contextEventIds.Nodup)
    (.valueError "context_event_ids must contain unique Event IDs")

/-- `_evidence_events`: the Events of the lineage that belong to the Run, at least one. -/
def evidenceEvents (lineage : List NormalizedEvent) (contextEventIds : List String) :
    Except PyError { l : List NormalizedEvent // l ≠ [] } := do
  raiseIf (¬ contextEventIds ⊆ lineage.map (·.eventId))
    (.valueError "context_event_ids must reference Events in the reconstructed lineage")
  if h : lineage.filter (fun e => e.eventId ∉ contextEventIds) ≠ [] then return ⟨_, h⟩
  else throw (.valueError "lineage deviation Evidence requires at least one Run Event")

/-- The identity behind `_deterministic_lineage_deviation_id`. -/
def lineageDeviationIdentity (runId : String) (eventIds : List String)
    (approvedPolicy : ApprovedLineagePolicy) : List IdentityPart :=
  [.text runId, .texts (sortedBy id eventIds), .text remoteSessionProcessLineageDeviation,
    .text extractorVersion, .text approvedPolicy.policyId, .text approvedPolicy.version,
    .text approvedPolicy.configHash]

/-- `_deterministic_lineage_deviation_id`. -/
def deterministicLineageDeviationId (uuid5 : List IdentityPart → String) (runId : String)
    (eventIds : List String) (approvedPolicy : ApprovedLineagePolicy) : String :=
  "E-" ++ uuid5 (lineageDeviationIdentity runId eventIds approvedPolicy)

/-- The Evidence of a lineage other than the approved one. -/
def lineageDeviationEvidence (uuid5 : List IdentityPart → String) (terminal : NormalizedEvent)
    (approvedPolicy : ApprovedLineagePolicy) (events : { l : List NormalizedEvent // l ≠ [] }) :
    Evidence R1Features where
  evidenceId := deterministicLineageDeviationId uuid5 terminal.runId (events.1.map (·.eventId))
    approvedPolicy
  runId := terminal.runId
  timestamp := (events.1.map eventInstant).max (by simpa using events.2)
  entityId := terminal.hostId
  evidenceType := remoteSessionProcessLineageDeviation
  eventIds := events.1.map (·.eventId)
  derivedFromSourceLayer := .rawTelemetry
  featureChannelGroup := .fusionFeature
  extractorVersion := extractorVersion
  features := [("policy_id", approvedPolicy.policyId), ("version", approvedPolicy.version),
    ("config_hash", approvedPolicy.configHash)]
  eventIds_ne_nil := by simpa using events.2

/-- `R1LineageExtractionResult`. -/
structure R1LineageExtractionResult where
  evidences : List (Evidence R1Features)
  diagnostics : List R1ExtractionDiagnostic
  deriving DecidableEq, Repr

/-- The diagnostic of a lineage that is not complete. -/
def correlationDiagnostic (correlation : LineageCorrelation) : R1ExtractionDiagnostic :=
  if correlation.status = .cycle then .lineageCycle
  else if correlation.failureReason = some .duplicateProcessGuid then .duplicateProcessGuid
  else .truncatedLineage

/-- The Evidence of a complete lineage, against the approved one. -/
def compareLineage (casefold : String → String) (uuid5 : List IdentityPart → String)
    (lineage : List NormalizedEvent) (terminal : NormalizedEvent)
    (approvedPolicy : ApprovedLineagePolicy) (contextEventIds : List String) :
    Except PyError R1LineageExtractionResult :=
  match canonicalProcessLineage casefold lineage with
  | none => .ok ⟨[], [.missingOrBlankProcessName]⟩
  | some observedLineage => do
    let events ← evidenceEvents lineage contextEventIds
    if observedLineage = approvedPolicy.approvedLineage.map casefold then return ⟨[], []⟩
    else return ⟨[lineageDeviationEvidence uuid5 terminal approvedPolicy events], []⟩

/-- What the extraction returns where an end of the lineage is not eligible. -/
def ineligibleResult (anchor terminal : NormalizedEvent) : R1LineageExtractionResult where
  evidences := []
  diagnostics :=
    if (hasExpectedProcessEventContract anchor ∧ processGuid anchor = none) ∨
        (hasExpectedProcessEventContract terminal ∧ processGuid terminal = none) then
      [.missingProcessGuid]
    else []

/-- `extract_remote_session_process_lineage_deviation_with_diagnostics`. -/
def extractRemoteSessionProcessLineageDeviationWithDiagnostics (casefold : String → String)
    (uuid5 : List IdentityPart → String) (events : List NormalizedEvent)
    (anchor terminal : NormalizedEvent) (approvedPolicy : ApprovedLineagePolicy)
    (contextEventIds : List String) : Except PyError R1LineageExtractionResult := do
  validateContextEventIds contextEventIds
  if ¬ isEligibleProcessEvent anchor ∨ ¬ isEligibleProcessEvent terminal then
    return ineligibleResult anchor terminal
  else if anchor.runId ≠ terminal.runId ∨ anchor.hostId ≠ terminal.hostId then return ⟨[], []⟩
  else
    let correlation := reconstructProcessLineage events anchor terminal
    if correlation.status ≠ .complete then return ⟨[], [correlationDiagnostic correlation]⟩
    else
      compareLineage casefold uuid5 correlation.events terminal approvedPolicy contextEventIds

end IncidentAwareness.Evidence
