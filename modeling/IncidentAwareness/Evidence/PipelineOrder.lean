import IncidentAwareness.Evidence.PipelineSpec
import IncidentAwareness.Evidence.SelectorLaws

/-!
# The order of a batch

The pipeline sorts what it extracts by keys that tell the Events of a selected batch apart,
so the order in which the batch lists them does not show
(`runR1EvidencePipelineWithSelector_perm`).
-/

namespace IncidentAwareness.Evidence

open IncidentAwareness.Common IncidentAwareness.Lib

variable {casefold : String → String} {uuid5 : List IdentityPart → String}
  {approvedPolicy : ApprovedLineagePolicy} {policy : R1SelectorPolicy} {start : Option Int}
  {events events' : List NormalizedEvent} {selected : SelectedLineage}

/-- The follow-ons of a selected process come in the order of their keys. -/
theorem extractNetworkFollowOnCandidates_of_perm (hsel : SelectedFrom policy start events selected)
    (h : events.Perm events') :
    extractNetworkFollowOnCandidates uuid5 events [selected.terminal] =
      extractNetworkFollowOnCandidates uuid5 events' [selected.terminal] := by
  have hsorted : sortedBy eventKey [selected.terminal] = [selected.terminal] := rfl
  have hnetworks : sortedBy eventKey (networkEventsOf events selected.terminal) =
      sortedBy eventKey (networkEventsOf events' selected.terminal) := by
    refine sortedBy_eq_of_perm (fun a ha b hb hkey => ?_) (h.filter _)
    refine hsel.eq_of_eventId (List.mem_filter.mp ha).1 (List.mem_filter.mp hb).1 ?_
    exact congrArg (fun key : Int ×ₗ String => (ofLex key).2) hkey
  rw [extractNetworkFollowOnCandidates, extractNetworkFollowOnCandidates, hsorted,
    List.flatMap_singleton, List.flatMap_singleton, hnetworks]

/-- The pipeline on the selection of a batch. -/
theorem runSelection_perm (h : events.Perm events') :
    runSelection casefold uuid5 events approvedPolicy
        (selectorResult policy start (selectLineage policy start events)) =
      runSelection casefold uuid5 events' approvedPolicy
        (selectorResult policy start (selectLineage policy start events)) := by
  cases hselect : selectLineage policy start events with
  | error diagnostic => rfl
  | ok selected =>
    have hsel := selectedFrom_of_ok hselect
    have hsel' := selectedFrom_of_ok ((selectLineage_perm h).symm.trans hselect)
    show (construct validateLineageInput
        (.ofSelection approvedPolicy (selectionOf policy start selected)) >>= _) =
      (construct validateLineageInput
        (.ofSelection approvedPolicy (selectionOf policy start selected)) >>= _)
    cases hinput : construct validateLineageInput
        (.ofSelection approvedPolicy (selectionOf policy start selected)) with
    | error e => rfl
    | ok input =>
      have hval := val_of_construct hinput
      have hids := (validateLineageInput_of_selected hsel approvedPolicy).mp (hval ▸ input.2)
      have hrun := hsel.runR1EvidencePipelineWithDiagnostics_eq casefold uuid5 hval hids
      have hrun' := hsel'.runR1EvidencePipelineWithDiagnostics_eq casefold uuid5 hval hids
      rw [← extractNetworkFollowOnCandidates_of_perm hsel h] at hrun'
      rw [Except.ok_bind', Except.ok_bind', hrun, hrun']
      rfl

/-- The pipeline gives one result, or one error, for every order of a batch. -/
theorem runR1EvidencePipelineWithSelector_perm (h : events.Perm events')
    (runStart : Option PyDatetime) :
    runR1EvidencePipelineWithSelector casefold uuid5 events policy approvedPolicy runStart =
      runR1EvidencePipelineWithSelector casefold uuid5 events' policy approvedPolicy runStart := by
  rw [runR1EvidencePipelineWithSelector, runR1EvidencePipelineWithSelector]
  refine raiseIf_bind_congr Iff.rfl fun _ => ?_
  rw [selectR1Lineage, selectR1Lineage]
  cases normalizeRunStart runStart with
  | error e => rfl
  | ok start =>
    rw [Except.ok_bind', Except.ok_bind', ← selectLineage_perm h]
    exact runSelection_perm h

end IncidentAwareness.Evidence
