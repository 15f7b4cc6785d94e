import IncidentAwareness.Evidence.PipelineSpec
import IncidentAwareness.Incremental.Entry
import IncidentAwareness.Lib.Run
import IncidentAwareness.Seal.CloseProofSpec
import IncidentAwareness.Stream.ExactlyOnce

/-!
# The calls are atomic, where the Evidence can be issued

`accept_chunk` and `accept_run_closed` check before they write, and what follows a write
does not raise. `accept_verified_close_proof` records the proof before it finalizes:

* `Returns`, `Restores`: programs that do not raise, or that raise before a write;
* `acceptChunk_restores`, `acceptRunClosed_restores`: the two that are atomic;
* `finalize_raises_iff`: when the finalization of a recorded proof raises without failing
  closed, by the ids of the selection and of its Evidence;
* `atomic_iff_settles`: one call, and `meets_atomic_iff`: a run.
-/

namespace IncidentAwareness.Incremental

open IncidentAwareness.Common IncidentAwareness.Lib IncidentAwareness.Stream
open IncidentAwareness.Evidence IncidentAwareness.Seal

variable {D S α β : Type} {config : IncrementalConfig} {m : Machine D S}

/-! ## Programs that do not raise -/

/-- The program does not raise. -/
def Returns (x : Method D S α) : Prop := ∀ m, wp x (fun _ _ => True) (fun _ _ => False) m

/-- Where the program raises, the state is as it was. -/
def Restores (x : Method D S α) : Prop :=
  ∀ m, wp x (fun _ _ => True) (fun _ m' => m'.evidence = m.evidence) m

/-- The program does not write to the state. -/
def Frames (x : Method D S α) : Prop :=
  ∀ m, wp x (fun _ m' => m'.evidence = m.evidence) (fun _ m' => m'.evidence = m.evidence) m

@[simp] theorem wp_update {change : IncrementalEvidenceState D → IncrementalEvidenceState D}
    {Q : Unit → Machine D S → Prop} {R : PyError → Machine D S → Prop} :
    wp (update change) Q R m ↔ Q () { m with evidence := change m.evidence } := Iff.rfl

theorem returns_update (change : IncrementalEvidenceState D → IncrementalEvidenceState D) :
    Returns (update change : Method D S Unit) := fun _ => trivial

theorem returns_pure (a : α) : Returns (pure a : Method D S α) := fun _ => trivial

theorem returns_bind {x : Method D S α} {f : α → Method D S β} (hx : Returns x)
    (hf : ∀ a, Returns (f a)) : Returns (x >>= f) := by
  intro m
  rw [wp_bind]
  exact wp_mono (hx m) (fun a m' _ => hf a m') fun _ _ h => h

theorem returns_forM {f : α → Method D S Unit} (h : ∀ a, Returns (f a)) (l : List α) :
    Returns (l.forM f) := by
  intro m
  exact wp_mono (wp_forM (I := fun _ => True) (fun a _ m' _ => h a m') trivial)
    (fun _ _ _ => trivial) fun _ _ h => h

theorem returns_setSnapshot (snapshot : IncrementalEvidenceSnapshot D) :
    Returns (setSnapshot snapshot : Method D S (IncrementalEvidenceSnapshot D)) :=
  returns_bind (returns_update _) fun _ => returns_pure _

theorem frames_reads (q : Machine D S → Except PyError α) : Frames (reads q) := by
  intro m
  rw [wp_reads]
  exact ⟨fun _ _ => rfl, fun _ _ => rfl⟩

theorem frames_onIngress (x : EStateM PyError (IngressState D S) α) : Frames (onIngress x) := by
  intro m
  unfold wp EStateM.run onIngress
  cases x.run m.ingress with
  | ok a ingress => rfl
  | error e ingress => rfl

theorem Returns.restores {x : Method D S α} (h : Returns x) : Restores x := by
  intro m
  exact wp_mono (h m) (fun _ _ _ => trivial) fun _ _ h => nomatch h

theorem Frames.restores {x : Method D S α} (h : Frames x) : Restores x := by
  intro m
  exact wp_mono (h m) (fun _ _ _ => trivial) fun _ _ h => h

theorem Frames.bind {x : Method D S α} {f : α → Method D S β} (hx : Frames x)
    (hf : ∀ a, Restores (f a)) : Restores (x >>= f) := by
  intro m
  rw [wp_bind]
  refine wp_mono (hx m) (fun a m' hm' => ?_) fun _ _ h => h
  refine wp_mono (hf a m') (fun _ _ _ => trivial) fun e m'' hm'' => ?_
  rw [hm'', hm']

/-! ## Chunks and the close -/

/-- The selector has a result for every batch. -/
theorem selectR1Lineage_eq (policy : R1SelectorPolicy) (runStart : UtcMillis)
    (events : List NormalizedEvent) :
    selectR1Lineage policy (some (PyDatetime.utcMillis runStart)) events =
      .ok (selectorResult policy (some (runStart * 1000))
        (selectLineage policy (some (runStart * 1000)) events)) := by
  have hstart : requireUtc "run_start" (PyDatetime.utcMillis runStart) = .ok (runStart * 1000) :=
    requireUtc_utc "run_start" (runStart * 1000)
  rw [selectR1Lineage, normalizeRunStart, hstart]
  rfl

theorem returns_refreshSnapshot :
    Returns (refreshSnapshot config : Method D S (IncrementalEvidenceSnapshot D)) := by
  intro m
  rw [refreshSnapshot, wp_bind, wp_reads]
  refine ⟨fun snapshot _ => returns_setSnapshot snapshot m, fun e he => ?_⟩
  rw [IncrementalEvidenceState.provisionalSnapshot, selectR1Lineage_eq] at he
  cases he

section Accept

variable [DecidableEq D] {sha256 : CanonicalPayload → D}

omit [DecidableEq D] in
theorem returns_recordEvent (partition : R1StreamPartition) (e : NormalizedEvent) :
    Returns (recordEvent config sha256 partition e : Method D S Unit) := by
  refine returns_bind (returns_update _) fun _ => ?_
  split
  · exact returns_update _
  · exact returns_pure ()

omit [DecidableEq D] in
theorem returns_recordChunk (chunk : R1EventChunk D) (updates : List NormalizedEvent) :
    Returns (recordChunk config sha256 chunk updates : Method D S Unit) := by
  refine returns_bind (returns_update _) fun _ => ?_
  refine returns_bind (returns_update _) fun _ => ?_
  refine returns_bind (returns_update _) fun _ => ?_
  exact returns_forM (returns_recordEvent chunk.partition) updates

/-- A chunk that is refused leaves the state as it was. -/
theorem acceptChunk_restores (sink : DeadLetterSink S) (now : PyDatetime) (chunk : R1EventChunk D) :
    Restores (acceptChunk config sha256 sink now chunk) := by
  refine (frames_reads _).bind fun _ => (frames_reads _).bind fun known => ?_
  split
  · exact (frames_onIngress _).bind fun _ => (frames_reads _).restores
  · refine (frames_reads _).bind fun updates => ?_
    refine (frames_onIngress _).bind fun admission => ?_
    refine (frames_reads _).bind fun _ => Returns.restores ?_
    exact returns_bind (returns_recordChunk chunk updates) fun _ => returns_refreshSnapshot

end Accept

theorem frames_get : Frames (get : Method D S (Machine D S)) := fun _ => rfl

/-- A run close that is refused leaves the state as it was. -/
theorem acceptRunClosed_restores (runClosed : R1RunClosed) :
    Restores (acceptRunClosed config runClosed :
      Method D S (IncrementalEvidenceSnapshot D)) := by
  refine (frames_reads _).bind fun _ => frames_get.bind fun m => ?_
  split
  · exact (frames_reads _).bind fun _ => (returns_pure _).restores
  · refine (frames_reads _).bind fun _ => Returns.restores ?_
    exact returns_bind (returns_update _) fun _ => returns_refreshSnapshot

/-- A verified boundary is refused, and nothing changes. -/
theorem acceptVerifiedBoundary_refused (boundary : R1VerifiedCandidateBoundary) :
    wp (acceptVerifiedBoundary config boundary : Method D S (IncrementalEvidenceSnapshot D))
      (fun _ _ => False) (fun _ m' => m' = m) m := by
  rw [acceptVerifiedBoundary, wp_bind, wp_reads]
  exact ⟨fun _ _ => rfl, fun _ _ => rfl⟩

/-! ## The Evidence of a selected lineage -/

section Issued

variable (casefold : String → String) (uuid5 : List IdentityPart → String)
  (approvedPolicy : ApprovedLineagePolicy) (start : Option Int) (events : List NormalizedEvent)
  (selected : SelectedLineage)

/-- The deviation of a lineage with names, where they are not the approved ones. -/
def lineageDeviations : List (Evidence R1Features) :=
  if h : runEvents start selected.lineage ≠ [] ∧
      NamesDiffer casefold selected.lineage approvedPolicy then
    [lineageDeviationEvidence uuid5 selected.terminal approvedPolicy ⟨_, h.1⟩]
  else []

/-- The Evidence of a lineage with names, one of every id. -/
def issuedEvidences : List (Evidence R1Features) :=
  firstBy (·.evidenceId) (extractNetworkFollowOnCandidates uuid5 events [selected.terminal] ++
    lineageDeviations casefold uuid5 approvedPolicy start selected)

end Issued

section Pipeline

variable {casefold : String → String} {uuid5 : List IdentityPart → String}
  {approvedPolicy : ApprovedLineagePolicy} {start : Option Int} {events : List NormalizedEvent}
  {selected : SelectedLineage} {policy : R1SelectorPolicy}

theorem deviations_eq (hsel : SelectedFrom policy start events selected)
    (hnamed : ¬ HasUnnamed selected.lineage) :
    hsel.deviations casefold uuid5 approvedPolicy =
      lineageDeviations casefold uuid5 approvedPolicy start selected := by
  have hne := hsel.runEvents_ne_nil
  by_cases hdiffer : NamesDiffer casefold selected.lineage approvedPolicy
  · rw [SelectedFrom.deviations, if_pos ⟨hnamed, hdiffer⟩, lineageDeviations, dif_pos ⟨hne, hdiffer⟩]
  · rw [SelectedFrom.deviations, if_neg fun h => hdiffer h.2, lineageDeviations,
      dif_neg fun h => hdiffer h.2]

/-- An Evidence of the lineage is a follow-on or the deviation. -/
theorem mem_issuedEvidences (hsel : SelectedFrom policy start events selected)
    {e : Evidence R1Features}
    (he : e ∈ issuedEvidences casefold uuid5 approvedPolicy start events selected) :
    (∃ n ∈ followOns events selected.terminal, e = followOnEvidence uuid5 selected.terminal n) ∨
      ∃ hne, e = lineageDeviationEvidence uuid5 selected.terminal approvedPolicy
        ⟨runEvents start selected.lineage, hne⟩ := by
  rcases List.mem_append.mp (mem_of_mem_firstBy he) with he | he
  · obtain ⟨n, hn, rfl⟩ := List.mem_map.mp (hsel.extractNetworkFollowOnCandidates_perm.mem_iff.mp he)
    exact .inl ⟨n, hn, rfl⟩
  · rw [lineageDeviations] at he
    split at he
    · next h => exact .inr ⟨h.1, List.mem_singleton.mp he⟩
    · cases he

/-- No Evidence of the lineage names an Event twice. -/
theorem eventIds_nodup_of_issued (hsel : SelectedFrom policy start events selected)
    {e : Evidence R1Features}
    (he : e ∈ issuedEvidences casefold uuid5 approvedPolicy start events selected) :
    e.eventIds.Nodup := by
  obtain ⟨n, hn, rfl⟩ | ⟨hne, rfl⟩ := mem_issuedEvidences hsel he
  · have hterminal := hsel.mem_of_lineage hsel.terminal_mem
    obtain ⟨hmem, hnetwork⟩ := List.mem_filter.mp hn
    have hnetwork : isNetworkConnection n = true := by simpa using (of_decide_eq_true hnetwork).1
    have hid : selected.terminal.eventId ≠ n.eventId := by
      intro h
      -- A process creation is no network connection.
      have hsame := hsel.eq_of_eventId hterminal.1 hmem h
      have hcreate := hterminal.2
      rw [hsame, isProcessCreate, Bool.and_eq_true, decide_eq_true_eq] at hcreate
      rw [isNetworkConnection, Bool.and_eq_true, decide_eq_true_eq, hcreate.2] at hnetwork
      exact absurd hnetwork.2 (by decide)
    simpa [followOnEvidence] using hid
  · exact hsel.lineage_ids_nodup.sublist (List.filter_sublist.map _)

variable (hselect : selectLineage policy start events = .ok selected)

include hselect

variable (casefold uuid5 approvedPolicy) in
/-- A selection with a blank id stops the pipeline. -/
theorem runSelection_of_blank (hids : ¬ NonBlankIds (selectionOf policy start selected)) :
    ∃ e, runSelection casefold uuid5 events approvedPolicy
      (selectorResult policy start (.ok selected)) = .error e := by
  have hvalid := (validateLineageInput_of_selected (selectedFrom_of_ok hselect) approvedPolicy).not.mpr
    hids
  cases hinput : construct validateLineageInput
      (.ofSelection approvedPolicy (selectionOf policy start selected)) with
  | ok input => exact absurd (val_of_construct hinput ▸ input.2) hvalid
  | error e =>
    refine ⟨e, ?_⟩
    show (construct validateLineageInput (.ofSelection approvedPolicy (selectionOf policy start selected))
      >>= _) = _
    rw [hinput]
    rfl

variable (casefold uuid5 approvedPolicy) in
/-- What the pipeline returns on a selection without blank ids. -/
theorem runSelection_of_nonBlank (hids : NonBlankIds (selectionOf policy start selected)) :
    ∃ result, runSelection casefold uuid5 events approvedPolicy
        (selectorResult policy start (.ok selected)) = .ok result ∧
      result.selectorResult = selectorResult policy start (.ok selected) ∧
      result.lineageInput.map (·.val.contextEventIds) =
        some (contextEventIds start selected.lineage) ∧
      (result.extractionDiagnostics = [] ↔ ¬ HasUnnamed selected.lineage) ∧
      (¬ HasUnnamed selected.lineage → ∀ e, e ∈ result.evidences ↔
        e ∈ issuedEvidences casefold uuid5 approvedPolicy start events selected) := by
  have hsel := selectedFrom_of_ok hselect
  have hvalid := (validateLineageInput_of_selected hsel approvedPolicy).mpr hids
  let input : R1LineageInput := ⟨_, hvalid⟩
  let extraction := pipelineResult (extractNetworkFollowOnCandidates uuid5 events [selected.terminal] ++
      hsel.deviations casefold uuid5 approvedPolicy)
    (if HasUnnamed selected.lineage then [.missingOrBlankProcessName] else [])
  have hrun : runR1EvidencePipelineWithDiagnostics casefold uuid5 events [input] = .ok extraction :=
    hsel.runR1EvidencePipelineWithDiagnostics_eq casefold uuid5 rfl hids
  refine ⟨⟨extraction.evidences, selectorResult policy start (.ok selected), some input,
    extraction.diagnostics⟩, ?_, rfl, rfl, ?_, ?_⟩
  · show (construct validateLineageInput _ >>= _) = _
    rw [construct_eq_ok hvalid, Except.ok_bind', hrun]
    rfl
  · show sortedBy R1ExtractionDiagnostic.value (List.dedup (ite _ _ _)) = [] ↔ _
    by_cases hunnamed : HasUnnamed selected.lineage
    · rw [if_pos hunnamed]
      exact iff_of_false (by decide) (not_not.mpr hunnamed)
    · rw [if_neg hunnamed]
      exact iff_of_true rfl hunnamed
  · intro hnamed e
    rw [issuedEvidences, ← deviations_eq hsel hnamed]
    exact (sortedBy_perm _ _).mem_iff

end Pipeline

/-! ## Finalization -/

/-- Non-blank and unpadded. -/
def Unpadded (value : String) : Prop := isBlank value = false ∧ isPadded value = false

/-- `R1CausalEvidenceAvailability` takes the ids of the Evidence. -/
def IdsAccepted (contextEventIds : List String) (e : Evidence R1Features) : Prop :=
  Unpadded e.evidenceId ∧ (∀ id ∈ e.eventIds, Unpadded id) ∧ ∀ id ∈ contextEventIds, Unpadded id

instance (value : String) : Decidable (Unpadded value) := inferInstanceAs (Decidable (_ ∧ _))

instance (contextEventIds : List String) (e : Evidence R1Features) :
    Decidable (IdsAccepted contextEventIds e) := inferInstanceAs (Decidable (_ ∧ _ ∧ _))

theorem validateAvailabilityEventIds_eq_ok {ids : List String} (hnodup : ids.Nodup) :
    validateAvailabilityEventIds ids = .ok () ↔ ∀ id ∈ ids, Unpadded id := by
  rw [validateAvailabilityEventIds, raiseIf_bind_eq_ok, raiseIf_eq_ok, not_not]
  simp only [hnodup, and_true, not_exists, not_and, not_or, Bool.not_eq_true, Unpadded]

theorem validate_availabilityOf {availableAt : UtcMillis} {contextEventIds : List String}
    {e : Evidence R1Features} (hnodup : e.eventIds.Nodup) (hcontext : contextEventIds.Nodup) :
    (availabilityOf availableAt contextEventIds e).validate = .ok () ↔
      IdsAccepted contextEventIds e := by
  have hids := validateAvailabilityEventIds_eq_ok hnodup
  have hcontextIds := validateAvailabilityEventIds_eq_ok hcontext
  rw [AvailabilityFields.validate, raiseIf_bind_eq_ok, raiseIf_bind_eq_ok, Except.unit_bind_eq_ok]
  simp only [availabilityOf, hids, hcontextIds, IdsAccepted, e.eventIds_ne_nil, not_false_iff, true_and, not_or,
    Bool.not_eq_true, Unpadded]

/-- The chunks, the buffered Events and the close. -/
def IncrementalEvidenceState.inputs (s : IncrementalEvidenceState D) :=
  (s.chunkHashes, s.chunkSequenceIdentities, s.chunksByIdentity, s.eventHashes, s.eventsByIdentity,
    s.runClosed)

/-- The state is failed closed, without Evidence. -/
structure IncrementalEvidenceState.FailedClosed (s : IncrementalEvidenceState D) : Prop where
  status : s.snapshot.status = .failedClosed
  evidences : s.snapshot.evidences = []
  availability : s.snapshot.availability = []

section Finalize

variable {casefold : String → String} {uuid5 : List IdentityPart → String}
  {closeSha256 : ClosePayload D → D}

@[simp] theorem wp_setSnapshot {snapshot : IncrementalEvidenceSnapshot D}
    {Q : IncrementalEvidenceSnapshot D → Machine D S → Prop} {R : PyError → Machine D S → Prop} :
    wp (setSnapshot snapshot) Q R m ↔
      Q snapshot { m with evidence := { m.evidence with snapshot } } := Iff.rfl

variable (config casefold uuid5) in
/-- The Evidence of a lineage goes out at a reading of the clock. -/
structure GoesOut (clock : PyDatetime) (availableAt : UtcMillis) (events : List NormalizedEvent)
    (selected : SelectedLineage) (readyAt : UtcMillis) : Prop where
  /-- Every process of the lineage has a name. -/
  named : ¬ HasUnnamed selected.lineage
  reading : ceilUtcClockObservation "evidence_ready_at" clock = .ok (readyAt * 1000)
  frontier : availableAt ≤ readyAt
  timely : ∀ e ∈ issuedEvidences casefold uuid5 config.approvedPolicy (some (config.runStart * 1000))
    events selected, e.timestamp ≤ readyAt * 1000

variable (config casefold uuid5) in
/-- The ids of every Evidence of the lineage are accepted. -/
def IssuedIdsAccepted (events : List NormalizedEvent) (selected : SelectedLineage) : Prop :=
  ∀ e ∈ issuedEvidences casefold uuid5 config.approvedPolicy (some (config.runStart * 1000)) events
      selected,
    IdsAccepted (contextEventIds (some (config.runStart * 1000)) selected.lineage) e

instance (events : List NormalizedEvent) (selected : SelectedLineage) :
    Decidable (IssuedIdsAccepted config casefold uuid5 events selected) :=
  inferInstanceAs (Decidable (∀ e ∈ _, _))

variable (config casefold uuid5) in
/-- The ids of a selection are not blank, the clock is in range where its processes have
names, and where its Evidence goes out, its ids are unpadded as well. -/
def Issuable (clock : PyDatetime) (availableAt : UtcMillis) (events : List NormalizedEvent) : Prop :=
  ∀ selected, selectLineage config.selectorPolicy (some (config.runStart * 1000)) events =
      .ok selected →
    NonBlankIds (selectionOf config.selectorPolicy (some (config.runStart * 1000)) selected) ∧
    (¬ HasUnnamed selected.lineage → clock.CeilsInRange) ∧
    ∀ readyAt, GoesOut config casefold uuid5 clock availableAt events selected readyAt →
      IssuedIdsAccepted config casefold uuid5 events selected

/-- The pipeline on the buffered Events is the one on their selection. -/
theorem pipeline_eq (events : List NormalizedEvent) :
    runR1EvidencePipelineWithSelector casefold uuid5 events config.selectorPolicy
        config.approvedPolicy (some (PyDatetime.utcMillis config.runStart)) =
      runSelection casefold uuid5 events config.approvedPolicy
        (selectorResult config.selectorPolicy (some (config.runStart * 1000))
          (selectLineage config.selectorPolicy (some (config.runStart * 1000)) events)) := by
  rw [runR1EvidencePipelineWithSelector, raiseIf_of_not (not_not.mpr config.lineageEventCount_eq),
    Except.ok_bind', selectR1Lineage_eq, Except.ok_bind']

/-- What a call may leave: the inputs, and a terminal state. -/
def Ends (m m' : Machine D S) : Prop :=
  m'.evidence.inputs = m.evidence.inputs ∧ m'.evidence.snapshot.isTerminal = true

/-- What a raise may leave: the inputs, and a state that failed closed. -/
def FailsClosed (m m' : Machine D S) : Prop :=
  m'.evidence.inputs = m.evidence.inputs ∧ m'.evidence.FailedClosed

theorem wp_failClosed {diagnostics : List String} {Q : Unit → Machine D S → Prop}
    {R : PyError → Machine D S → Prop} :
    wp (failClosed config diagnostics) Q R m ↔ Q () { m with evidence :=
      { m.evidence with snapshot := m.evidence.failedClosedSnapshot config diagnostics } } := Iff.rfl

theorem failsClosed_failedClosedSnapshot (diagnostics : List String) :
    FailsClosed m { m with evidence :=
      { m.evidence with snapshot := m.evidence.failedClosedSnapshot config diagnostics } } :=
  ⟨rfl, rfl, rfl, rfl⟩

/-- What is not caught of an observation is its overflow. -/
theorem not_ceilsInRange_of_uncaught {clock : PyDatetime} {e : PyError}
    (h : ceilUtcClockObservation "evidence_ready_at" clock = .error e)
    (hcaught : ¬ isTypeOrValueError e = true) : ¬ clock.CeilsInRange := by
  rcases ceilUtcClockObservation_eq_error h with hutc | ⟨-, hrange⟩
  · have hvalue : RaisesOnly (fun e => isTypeOrValueError e = true)
        (requireUtc "evidence_ready_at" clock) := by
      cases clock with
      | naive => exact raisesOnly_error rfl
      | aware instant utcoffset =>
        exact raisesOnly_bind (raisesOnly_raiseIf rfl) fun _ => raisesOnly_ok _
    exact absurd (hvalue e hutc) hcaught
  · exact hrange

variable (config) in
/-- The clock is read, or the state fails closed, or the reading is out of range. -/
theorem observeReadyAt_spec {clock : PyDatetime} {availableAt : UtcMillis} :
    wp (observeReadyAt config clock availableAt) (fun readyAt m' => m' = m ∧
        ceilUtcClockObservation "evidence_ready_at" clock = .ok (readyAt * 1000) ∧
        availableAt ≤ readyAt)
      (fun _ m' => FailsClosed m m' ∨ m' = m ∧ ¬ clock.CeilsInRange) m := by
  rw [observeReadyAt, wp_bind, wp_reads]
  refine ⟨fun reading hreading => ?_, fun e he => nomatch he⟩
  obtain rfl := Except.ok.inj hreading
  cases hclock : ceilUtcClockObservation "evidence_ready_at" clock with
  | error e =>
    dsimp only
    by_cases hcaught : isTypeOrValueError e = true
    · rw [if_pos hcaught, wp_bind, wp_failClosed, wp_throw]
      exact .inl (failsClosed_failedClosedSnapshot _)
    · rw [if_neg hcaught, wp_throw]
      exact .inr ⟨rfl, not_ceilsInRange_of_uncaught hclock hcaught⟩
  | ok readyAt =>
    have hwhole := ceilUtcClockObservation_mod hclock
    dsimp only
    by_cases hlt : readyAt < availableAt * 1000
    · rw [if_pos hlt, wp_bind, wp_failClosed, wp_throw]
      exact .inl (failsClosed_failedClosedSnapshot _)
    · rw [if_neg hlt, wp_pure]
      refine ⟨rfl, congrArg Except.ok (Int.ediv_mul_cancel_of_emod_eq_zero hwhole).symm, ?_⟩
      exact Int.le_ediv_of_mul_le (by decide) (not_lt.mp hlt)

/-- A reading that is not before the frontier is taken. -/
theorem observeReadyAt_eq {clock : PyDatetime} {availableAt readyAt : UtcMillis}
    (hreading : ceilUtcClockObservation "evidence_ready_at" clock = .ok (readyAt * 1000))
    (hfrontier : availableAt ≤ readyAt) :
    (observeReadyAt config clock availableAt : Method D S UtcMillis).run m = .ok readyAt m := by
  have hread : (reads fun _ => .ok (ceilUtcClockObservation "evidence_ready_at" clock) :
      Method D S (Except PyError Int)).run m = .ok (.ok (readyAt * 1000)) m :=
    run_reads_eq_ok.mpr ⟨congrArg Except.ok hreading, rfl⟩
  rw [observeReadyAt, run_bind_of_ok hread]
  dsimp only
  rw [if_neg (not_lt.mpr (Int.mul_le_mul_of_nonneg_right hfrontier (by decide))),
    Int.mul_ediv_cancel _ (by decide)]
  rfl

/-- A reading that is out of range raises, and nothing is written. -/
theorem observeReadyAt_overflow {clock : PyDatetime} (h : ¬ clock.CeilsInRange)
    (availableAt : UtcMillis) :
    (observeReadyAt config clock availableAt : Method D S UtcMillis).run m =
      .error dateValueOutOfRange m := by
  have hread : (reads fun _ => .ok (ceilUtcClockObservation "evidence_ready_at" clock) :
      Method D S (Except PyError Int)).run m = .ok (.error dateValueOutOfRange) m :=
    run_reads_eq_ok.mpr ⟨congrArg Except.ok (ceilUtcClockObservation_of_not _ h), rfl⟩
  rw [observeReadyAt, run_bind_of_ok hread]
  rfl

/-- The availability of Evidence is built where all its ids are accepted. -/
theorem availability_eq_ok (availableAt : UtcMillis) {contextEventIds : List String}
    {evidences : List (Evidence R1Features)} (hnodup : ∀ e ∈ evidences, e.eventIds.Nodup)
    (hcontext : contextEventIds.Nodup) :
    (∃ availability, (evidences.mapM fun evidence => construct AvailabilityFields.validate
        (availabilityOf availableAt contextEventIds evidence)) = .ok availability) ↔
      ∀ e ∈ evidences, IdsAccepted contextEventIds e := by
  constructor
  · intro ⟨availability, havailability⟩ e he
    have hmap := map_of_mapM (fun _ _ => val_of_construct) havailability
    have hmem : availabilityOf availableAt contextEventIds e ∈ availability.map Subtype.val :=
      hmap ▸ List.mem_map_of_mem he
    obtain ⟨fields, -, hfields⟩ := List.mem_map.mp hmem
    exact (validate_availabilityOf (hnodup e he) hcontext).mp (hfields ▸ fields.2)
  · intro hids
    have hconstruct : ∀ e ∈ evidences, ∃ fields, construct AvailabilityFields.validate
          (availabilityOf availableAt contextEventIds e) = .ok fields ∧
        fields.val = availabilityOf availableAt contextEventIds e := by
      intro e he
      have hvalid : (availabilityOf availableAt contextEventIds e).validate = .ok () :=
        (validate_availabilityOf (hnodup e he) hcontext).mpr (hids e he)
      exact ⟨⟨_, hvalid⟩, construct_eq_ok hvalid, rfl⟩
    obtain ⟨availability, havailability, -⟩ := exists_mapM hconstruct
    exact ⟨availability, havailability⟩

/-- Where the Evidence can be issued, the finalization ends the run or fails closed. -/
theorem finalize_ends {args : CloseProofArguments D} {clock : PyDatetime} {availableAt : UtcMillis}
    (h : Issuable config casefold uuid5 clock availableAt m.evidence.orderedEvents) :
    wp (finalize config casefold uuid5 closeSha256 (proofFinalization args availableAt clock))
      (fun _ m' => Ends m m') (fun _ m' => FailsClosed m m') m := by
  rw [finalize, wp_bind, wp_reads]
  simp only [proofFinalization, IncrementalEvidenceState.finalizedEvents, pipeline_eq]
  cases hselect : selectLineage config.selectorPolicy (some (config.runStart * 1000))
      m.evidence.orderedEvents with
  | error diagnostic =>
    refine ⟨fun result hresult => ?_, fun e he => nomatch he⟩
    obtain rfl := Except.ok.inj hresult
    rw [if_pos (.inl rfl), wp_setSnapshot]
    exact ⟨rfl, rfl⟩
  | ok selected =>
    obtain ⟨hids, hrange, hout⟩ := h selected hselect
    obtain ⟨result, hrun, hselector, hcontext, hdiagnostics, hevidences⟩ :=
      runSelection_of_nonBlank casefold uuid5 config.approvedPolicy hselect hids
    have hsel := selectedFrom_of_ok hselect
    rw [hrun]
    refine ⟨fun returned hreturned => ?_, fun e he => nomatch he⟩
    obtain rfl := Except.ok.inj hreturned
    by_cases hunnamed : HasUnnamed selected.lineage
    · rw [if_pos (.inr fun hnil => hdiagnostics.mp hnil hunnamed), wp_setSnapshot]
      exact ⟨rfl, rfl⟩
    have hmem := hevidences hunnamed
    have hselected : result.selectorResult.selection ≠ none := by
      rw [hselector]
      exact Option.some_ne_none _
    rw [if_neg (not_or.mpr ⟨hselected, not_not.mpr (hdiagnostics.mpr hunnamed)⟩), wp_bind]
    refine wp_mono (observeReadyAt_spec config) ?_ fun _ _ hclosed =>
      hclosed.resolve_right fun hout => hout.2 (hrange hunnamed)
    rintro readyAt m' ⟨rfl, hreading, hfrontier⟩
    by_cases huntimely : ∃ evidence ∈ result.evidences, readyAt * 1000 < evidence.timestamp
    · rw [if_pos huntimely, wp_setSnapshot]
      exact ⟨rfl, rfl⟩
    rw [if_neg huntimely, wp_bind, wp_reads]
    have hgoes : GoesOut config casefold uuid5 clock availableAt m'.evidence.orderedEvents selected
        readyAt :=
      ⟨hunnamed, hreading, hfrontier, fun e he =>
        not_lt.mp fun hlt => huntimely ⟨e, (hmem e).mpr he, hlt⟩⟩
    have hcontextIds : (result.lineageInput.map (·.val.contextEventIds)).getD [] =
        contextEventIds (some (config.runStart * 1000)) selected.lineage := by
      rw [hcontext]
      rfl
    obtain ⟨availability, havailability⟩ := (availability_eq_ok readyAt
      (fun e he => eventIds_nodup_of_issued hsel ((hmem e).mp he)) hsel.contextEventIds_nodup).mpr
        fun e he => hout readyAt hgoes e ((hmem e).mp he)
    rw [hcontextIds, havailability]
    refine ⟨fun _ _ => ?_, fun e he => nomatch he⟩
    rw [wp_bind, wp_get, wp_setSnapshot]
    exact ⟨rfl, rfl⟩

/-- Where it cannot, the finalization raises and leaves everything as it was. -/
theorem finalize_raises {args : CloseProofArguments D} {clock : PyDatetime} {availableAt : UtcMillis}
    (h : ¬ Issuable config casefold uuid5 clock availableAt m.evidence.orderedEvents) :
    wp (finalize config casefold uuid5 closeSha256 (proofFinalization args availableAt clock))
      (fun _ _ => False) (fun _ m' => m' = m) m := by
  obtain ⟨selected, hselect, hfails⟩ : ∃ selected, selectLineage config.selectorPolicy
      (some (config.runStart * 1000)) m.evidence.orderedEvents = .ok selected ∧
        ¬ (NonBlankIds (selectionOf config.selectorPolicy (some (config.runStart * 1000)) selected) ∧
          (¬ HasUnnamed selected.lineage → clock.CeilsInRange) ∧ ∀ readyAt,
            GoesOut config casefold uuid5 clock availableAt m.evidence.orderedEvents selected readyAt →
            IssuedIdsAccepted config casefold uuid5 m.evidence.orderedEvents selected) := by
    simpa only [Issuable, not_forall, exists_prop] using h
  have hsel := selectedFrom_of_ok hselect
  rw [finalize, wp_bind, wp_reads]
  simp only [proofFinalization, IncrementalEvidenceState.finalizedEvents, pipeline_eq, hselect]
  by_cases hids : NonBlankIds (selectionOf config.selectorPolicy (some (config.runStart * 1000))
      selected)
  · obtain ⟨result, hrun, hselector, hcontext, hdiagnostics, hevidences⟩ :=
      runSelection_of_nonBlank casefold uuid5 config.approvedPolicy hselect hids
    have hnamed : ¬ HasUnnamed selected.lineage := fun hunnamed =>
      hfails ⟨hids, fun hnamed => absurd hunnamed hnamed, fun _ hgoes => absurd hunnamed hgoes.named⟩
    rw [hrun]
    refine ⟨fun returned hreturned => ?_, fun e he => nomatch he⟩
    obtain rfl := Except.ok.inj hreturned
    have hselected : result.selectorResult.selection ≠ none := by
      rw [hselector]
      exact Option.some_ne_none _
    rw [if_neg (not_or.mpr ⟨hselected, not_not.mpr (hdiagnostics.mpr hnamed)⟩), wp_bind]
    by_cases hrange : clock.CeilsInRange
    swap
    · exact (wp_of_error (observeReadyAt_overflow hrange availableAt)).mpr rfl
    obtain ⟨readyAt, hgoes, hrefused⟩ : ∃ readyAt, GoesOut config casefold uuid5 clock availableAt
        m.evidence.orderedEvents selected readyAt ∧
        ¬ IssuedIdsAccepted config casefold uuid5 m.evidence.orderedEvents selected := by
      simpa only [hids, hrange, implies_true, true_and, not_forall, exists_prop] using hfails
    have hmem := hevidences hnamed
    refine (wp_of_ok (observeReadyAt_eq hgoes.reading hgoes.frontier)).mpr ?_
    have htimely : ¬ ∃ evidence ∈ result.evidences, readyAt * 1000 < evidence.timestamp :=
      fun ⟨e, he, hlt⟩ => not_lt.mpr (hgoes.timely e ((hmem e).mp he)) hlt
    have hcontextIds : (result.lineageInput.map (·.val.contextEventIds)).getD [] =
        contextEventIds (some (config.runStart * 1000)) selected.lineage := by
      rw [hcontext]
      rfl
    rw [if_neg htimely, wp_bind, wp_reads, hcontextIds]
    refine ⟨fun availability havailability => hrefused fun e he => ?_, fun _ _ => rfl⟩
    exact (availability_eq_ok readyAt (fun e he => eventIds_nodup_of_issued hsel ((hmem e).mp he))
      hsel.contextEventIds_nodup).mp ⟨availability, havailability⟩ e ((hmem e).mpr he)
  · obtain ⟨e, he⟩ := runSelection_of_blank casefold uuid5 config.approvedPolicy hselect hids
    rw [he]
    exact ⟨fun result hresult => (nomatch hresult), fun _ _ => trivial⟩

end Finalize

/-! ## The close proof -/

section CloseProof

variable [DecidableEq D] {casefold : String → String} {uuid5 : List IdentityPart → String}
  {closeSha256 : ClosePayload D → D} {args : CloseProofArguments D} {clock : PyDatetime}

variable (config closeSha256) in
/-- A proof passes every check of the state, with its frontier. -/
structure Accepted (s : IncrementalEvidenceState D) (args : CloseProofArguments D)
    (availableAt : UtcMillis) : Prop where
  contract : config.requiredPartitionContract ≠ none
  running : s.snapshot.isTerminal = false
  close : s.runClosed = some args.acceptedRunClosed
  covered : s.chunkCoverageDiagnostics config = []
  verified : ∃ validation, s.validateClose config closeSha256 args = .ok (validation, availableAt)

/-- The state with what is recorded of a proof. -/
def recorded (args : CloseProofArguments D) (validation : R1Role2VerifiedCloseProofValidation D)
    (m : Machine D S) : Machine D S :=
  { m with evidence := { m.evidence with
      verifiedProof := some args.proof
      proofValidation := some validation
      acceptedCloseReceipt := some args.acceptedCloseReceipt
      candidatePolicy := some args.candidatePolicy } }

/-- An accepted proof is recorded, and the run finalized. -/
theorem acceptVerifiedCloseProof_of_accepted {availableAt : UtcMillis}
    (h : Accepted config closeSha256 m.evidence args availableAt) :
    ∃ validation, ∀ Q R,
      wp (acceptVerifiedCloseProof config casefold uuid5 closeSha256 clock args) Q R m ↔
        wp (finalize config casefold uuid5 closeSha256 (proofFinalization args availableAt clock)) Q R
          (recorded args validation m) := by
  obtain ⟨validation, hverified⟩ := h.verified
  refine ⟨validation, fun Q R => ?_⟩
  have hcontract : (reads fun _ => raiseIf (config.requiredPartitionContract = none)
        (.valueError "verified close proof requires an explicit required-partition contract") :
      Method D S Unit).run m = .ok () m :=
    run_reads_eq_ok.mpr ⟨raiseIf_of_not h.contract, rfl⟩
  have hverify : (verifyClose config closeSha256 args : Method D S _).run m =
      .ok (validation, availableAt) m := by
    rw [verifyClose, run_bind_of_ok (show (get : Method D S _).run m = .ok m m from rfl)]
    dsimp only
    rw [hverified]
    rfl
  rw [acceptVerifiedCloseProof, wp_bind, wp_of_ok hcontract, wp_bind, wp_get, h.running,
    if_neg Bool.false_ne_true, h.close]
  dsimp only
  rw [if_neg (not_not.mpr rfl), if_neg (not_not.mpr h.covered), wp_bind, wp_of_ok hverify]
  exact Iff.rfl

/-- An accepted proof whose Evidence can be issued ends the run, or fails closed. -/
theorem acceptVerifiedCloseProof_of_issuable {availableAt : UtcMillis}
    (h : Accepted config closeSha256 m.evidence args availableAt)
    (hissuable : Issuable config casefold uuid5 clock availableAt m.evidence.orderedEvents) :
    wp (acceptVerifiedCloseProof config casefold uuid5 closeSha256 clock args)
      (fun _ m' => Ends m m') (fun _ m' => FailsClosed m m') m := by
  obtain ⟨validation, hiff⟩ := acceptVerifiedCloseProof_of_accepted h
  exact (hiff _ _).mpr (@finalize_ends _ _ config (recorded args validation m) casefold uuid5
    closeSha256 args clock availableAt hissuable)

/-- An accepted proof whose Evidence cannot be issued is recorded, and the call raises. -/
theorem acceptVerifiedCloseProof_of_not_issuable {availableAt : UtcMillis}
    (h : Accepted config closeSha256 m.evidence args availableAt)
    (hissuable : ¬ Issuable config casefold uuid5 clock availableAt m.evidence.orderedEvents) :
    ∃ validation, wp (acceptVerifiedCloseProof config casefold uuid5 closeSha256 clock args)
      (fun _ _ => False) (fun _ m' => m' = recorded args validation m) m := by
  obtain ⟨validation, hiff⟩ := acceptVerifiedCloseProof_of_accepted h
  exact ⟨validation, (hiff _ _).mpr (@finalize_raises _ _ config (recorded args validation m) casefold
    uuid5 closeSha256 args clock availableAt hissuable)⟩

/-- A refused proof leaves the state as it was, or ends it without recording the proof. -/
theorem acceptVerifiedCloseProof_of_refused
    (h : ¬ ∃ availableAt, Accepted config closeSha256 m.evidence args availableAt) :
    wp (acceptVerifiedCloseProof config casefold uuid5 closeSha256 clock args)
      (fun _ m' => m' = m ∨ Ends m m' ∧ m'.evidence.verifiedProof = m.evidence.verifiedProof)
      (fun _ m' => m' = m ∨ FailsClosed m m' ∧ m'.evidence.verifiedProof = m.evidence.verifiedProof)
      m := by
  rw [acceptVerifiedCloseProof, wp_bind, wp_reads]
  refine ⟨fun _ hcontract => ?_, fun _ _ => .inl rfl⟩
  rw [raiseIf_eq_ok] at hcontract
  rw [wp_bind, wp_get]
  cases hterminal : m.evidence.snapshot.isTerminal with
  | true =>
    rw [if_pos rfl, wp_reads]
    exact ⟨fun _ _ => .inl rfl, fun _ _ => .inl rfl⟩
  | false =>
    rw [if_neg Bool.false_ne_true]
    cases hclose : m.evidence.runClosed with
    | none => exact .inl rfl
    | some runClosed =>
      dsimp only
      by_cases hsame : runClosed ≠ args.acceptedRunClosed
      · rw [if_pos hsame, wp_bind, wp_failClosed, wp_throw]
        exact .inr ⟨failsClosed_failedClosedSnapshot _, rfl⟩
      rw [if_neg hsame]
      by_cases hcovered : m.evidence.chunkCoverageDiagnostics config ≠ []
      · rw [if_pos hcovered, wp_bind, wp_failClosed, wp_reads]
        exact ⟨fun _ _ => .inr ⟨⟨rfl, rfl⟩, rfl⟩, fun _ he => nomatch he⟩
      rw [if_neg hcovered, wp_bind, verifyClose, wp_bind, wp_get]
      cases hverified : m.evidence.validateClose config closeSha256 args with
      | ok accepted =>
        obtain ⟨validation, availableAt⟩ := accepted
        have hclose' := hclose.trans (congrArg some (not_not.mp hsame))
        exact absurd ⟨availableAt, hcontract, hterminal, hclose', not_not.mp hcovered, validation,
          hverified⟩ h
      | error e =>
        dsimp only
        by_cases hcaught : isTypeOrValueError e = true
        · rw [if_pos hcaught, wp_bind, wp_failClosed, wp_throw]
          exact .inr ⟨failsClosed_failedClosedSnapshot _, rfl⟩
        · rw [if_neg hcaught, wp_throw]
          exact .inl rfl

end CloseProof

/-! ## Calls that do not record a proof -/

section Terminal

variable {casefold : String → String} {uuid5 : List IdentityPart → String}
  {closeSha256 : ClosePayload D → D}

/-- No proof is recorded. -/
def Unproved (m : Machine D S) : Prop := m.evidence.verifiedProof = none

theorem keeps_update {change : IncrementalEvidenceState D → IncrementalEvidenceState D}
    (h : ∀ s, (change s).verifiedProof = s.verifiedProof) :
    Keeps Unproved (update change : Method D S Unit) := fun m hm => (h m.evidence).trans hm

theorem keeps_setSnapshot (snapshot : IncrementalEvidenceSnapshot D) :
    Keeps Unproved (setSnapshot snapshot : Method D S (IncrementalEvidenceSnapshot D)) :=
  keeps_bind (keeps_update fun _ => rfl) fun _ => keeps_pure _

theorem keeps_refreshSnapshot :
    Keeps Unproved (refreshSnapshot config : Method D S (IncrementalEvidenceSnapshot D)) :=
  keeps_bind (keeps_reads _) fun _ => keeps_setSnapshot _

theorem keeps_onIngress (x : EStateM PyError (IngressState D S) α) :
    Keeps Unproved (onIngress x) := by
  intro m hm
  refine wp_mono (frames_onIngress x m) (fun _ m' h => ?_) fun _ m' h => ?_
  · exact (congrArg _ h).trans hm
  · exact (congrArg _ h).trans hm

theorem keeps_publicationTime (args : FinalizeArguments) :
    Keeps Unproved (publicationTime config args : Method D S UtcMillis) := by
  rw [publicationTime]
  split
  · exact keeps_pure _
  refine keeps_bind (keeps_reads _) fun reading => ?_
  split
  · split
    · exact keeps_bind (keeps_update fun _ => rfl) fun _ => keeps_throw _
    · exact keeps_throw _
  · split
    · exact keeps_bind (keeps_update fun _ => rfl) fun _ => keeps_throw _
    · exact keeps_pure _

theorem keeps_finalize (args : FinalizeArguments) :
    Keeps Unproved (finalize config casefold uuid5 closeSha256 args :
      Method D S (IncrementalEvidenceSnapshot D)) := by
  refine keeps_bind (keeps_reads _) fun result => ?_
  split
  · exact keeps_setSnapshot _
  refine keeps_bind (keeps_publicationTime args) fun availableAt => ?_
  split
  · exact keeps_setSnapshot _
  · exact keeps_bind (keeps_reads _) fun _ => keeps_bind keeps_get fun _ => keeps_setSnapshot _

theorem keeps_finalizeAtRunEnd (runEnd : PyDatetime) :
    Keeps Unproved (finalizeAtRunEnd config casefold uuid5 closeSha256 runEnd :
      Method D S (IncrementalEvidenceSnapshot D)) := by
  refine keeps_bind (keeps_reads _) fun _ => keeps_bind (keeps_reads _) fun _ => ?_
  refine keeps_bind keeps_get fun m => ?_
  split
  · exact keeps_reads _
  split
  · exact keeps_throw _
  split
  · exact keeps_setSnapshot _
  · exact keeps_bind (keeps_reads _) fun _ => keeps_finalize _

theorem keeps_acceptRunClosed (runClosed : R1RunClosed) :
    Keeps Unproved (acceptRunClosed config runClosed :
      Method D S (IncrementalEvidenceSnapshot D)) := by
  refine keeps_bind (keeps_reads _) fun _ => keeps_bind keeps_get fun m => ?_
  split
  · exact keeps_bind (keeps_reads _) fun _ => keeps_pure _
  · refine keeps_bind (keeps_reads _) fun _ => ?_
    exact keeps_bind (keeps_update fun _ => rfl) fun _ => keeps_refreshSnapshot

theorem keeps_recordChunk {sha256 : CanonicalPayload → D} (chunk : R1EventChunk D)
    (updates : List NormalizedEvent) :
    Keeps Unproved (recordChunk config sha256 chunk updates : Method D S Unit) := by
  refine keeps_bind (keeps_update fun _ => rfl) fun _ => ?_
  refine keeps_bind (keeps_update fun _ => rfl) fun _ => ?_
  refine keeps_bind (keeps_update fun _ => rfl) fun _ => keeps_forM fun e _ => ?_
  refine keeps_bind (keeps_update fun _ => rfl) fun _ => ?_
  split
  · exact keeps_update fun _ => rfl
  · exact keeps_pure ()

variable [DecidableEq D] {sha256 : CanonicalPayload → D}

theorem keeps_acceptChunk (sink : DeadLetterSink S) (now : PyDatetime) (chunk : R1EventChunk D) :
    Keeps Unproved (acceptChunk config sha256 sink now chunk) := by
  refine keeps_bind (keeps_reads _) fun _ => keeps_bind (keeps_reads _) fun known => ?_
  split
  · exact keeps_bind (keeps_onIngress _) fun _ => keeps_reads _
  · refine keeps_bind (keeps_reads _) fun updates => keeps_bind (keeps_onIngress _) fun _ => ?_
    refine keeps_bind (keeps_reads _) fun _ => keeps_bind (keeps_recordChunk chunk updates) fun _ => ?_
    exact keeps_refreshSnapshot

/-! A terminal state with a close stays as it is. -/

theorem acceptChunk_terminal (sink : DeadLetterSink S) (now : PyDatetime) (chunk : R1EventChunk D)
    (h : m.evidence.snapshot.isTerminal = true) :
    wp (acceptChunk config sha256 sink now chunk) (fun _ m' => m'.evidence = m.evidence)
      (fun _ m' => m'.evidence = m.evidence) m := by
  rw [acceptChunk, wp_bind, wp_reads]
  refine ⟨fun _ _ => ?_, fun _ _ => rfl⟩
  rw [wp_bind, wp_reads]
  refine ⟨fun known _ => ?_, fun _ _ => rfl⟩
  split
  · rw [wp_bind]
    refine wp_mono (frames_onIngress _ m) (fun _ m' hm' => ?_) fun _ _ hm' => hm'
    rw [wp_reads]
    exact ⟨fun _ _ => hm', fun _ _ => hm'⟩
  · rw [wp_bind, wp_reads]
    refine ⟨fun updates hupdates => ?_, fun _ _ => rfl⟩
    rw [IncrementalEvidenceState.eventUpdates, raiseIf_of h] at hupdates
    cases hupdates

omit [DecidableEq D] in
theorem acceptRunClosed_terminal (runClosed : R1RunClosed) (h : m.evidence.runClosed ≠ none) :
    wp (acceptRunClosed config runClosed : Method D S (IncrementalEvidenceSnapshot D))
      (fun _ m' => m'.evidence = m.evidence) (fun _ m' => m'.evidence = m.evidence) m := by
  obtain ⟨recorded, hrecorded⟩ := Option.ne_none_iff_exists'.mp h
  rw [acceptRunClosed, wp_bind, wp_reads]
  refine ⟨fun _ _ => ?_, fun _ _ => rfl⟩
  rw [wp_bind, wp_get, hrecorded]
  dsimp only
  rw [wp_bind, wp_reads]
  exact ⟨fun _ _ => rfl, fun _ _ => rfl⟩

omit [DecidableEq D] in
theorem finalizeAtRunEnd_terminal (runEnd : PyDatetime)
    (h : m.evidence.snapshot.isTerminal = true) :
    wp (finalizeAtRunEnd config casefold uuid5 closeSha256 runEnd :
        Method D S (IncrementalEvidenceSnapshot D))
      (fun _ m' => m'.evidence = m.evidence) (fun _ m' => m'.evidence = m.evidence) m := by
  rw [finalizeAtRunEnd, wp_bind, wp_reads]
  refine ⟨fun _ _ => ?_, fun _ _ => rfl⟩
  rw [wp_bind, wp_reads]
  refine ⟨fun _ _ => ?_, fun _ _ => rfl⟩
  rw [wp_bind, wp_get, if_pos h, wp_reads]
  exact ⟨fun _ _ => rfl, fun _ _ => rfl⟩

end Terminal

/-! ## Runs -/

/-- A proof is recorded only in a terminal state with a close. -/
def ProvedLast (s : IncrementalEvidenceState D) : Prop :=
  s.verifiedProof = none ∨ s.snapshot.isTerminal = true ∧ s.runClosed ≠ none

/-- A call that frames the terminal states, and records no proof, keeps the invariant. -/
theorem provedLast_of_keeps {x : Method D S α} (hkeeps : Keeps Unproved x)
    (hterminal : m.evidence.snapshot.isTerminal = true → m.evidence.runClosed ≠ none →
      wp x (fun _ m' => m'.evidence = m.evidence) (fun _ m' => m'.evidence = m.evidence) m)
    (h : ProvedLast m.evidence) :
    wp x (fun _ m' => ProvedLast m'.evidence) (fun _ m' => ProvedLast m'.evidence) m := by
  rcases h with hnone | ⟨hended, hclose⟩
  · exact wp_mono (hkeeps m hnone) (fun _ _ h => .inl h) fun _ _ h => .inl h
  · have hsame : ∀ m' : Machine D S, m'.evidence = m.evidence → ProvedLast m'.evidence :=
      fun m' hm' => hm' ▸ .inr ⟨hended, hclose⟩
    exact wp_mono (hterminal hended hclose) (fun _ m' => hsame m') fun _ m' => hsame m'

section Runs

variable [DecidableEq D] {config : IncrementalConfig} {casefold : String → String}
  {uuid5 : List IdentityPart → String} {closeSha256 : ClosePayload D → D}
  {sha256 : CanonicalPayload → D} {sink : DeadLetterSink S} {call : IncrementalCall D S}

/-- What a call may leave where it raises. -/
def Unharmed (s s' : IncrementalEvidenceState D) : IncrementalCall D S → Prop
  | .acceptChunk .. | .acceptRunClosed _ | .acceptVerifiedBoundary _ => s' = s
  | .acceptVerifiedCloseProof .. => s'.inputs = s.inputs ∧ (s' = s ∨ s'.FailedClosed)
  | .finalizeAtRunEnd _ | .moveIngress _ => True

variable (config casefold uuid5 closeSha256 sha256 sink) in
/-- A call that raises leaves the state unharmed. -/
def Atomic (m : Machine D S) (call : IncrementalCall D S) : Prop :=
  ∀ e, (step config casefold uuid5 closeSha256 sha256 sink m call).2 = .error e →
    Unharmed m.evidence (step config casefold uuid5 closeSha256 sha256 sink m call).1.evidence call

variable (config casefold uuid5 closeSha256) in
/-- A proof that passes every check finds Evidence that can be issued. -/
def Settles (m : Machine D S) : IncrementalCall D S → Prop
  | .acceptVerifiedCloseProof args clock =>
    ∀ availableAt, Accepted config closeSha256 m.evidence args availableAt →
      Issuable config casefold uuid5 clock availableAt m.evidence.orderedEvents
  | _ => True

/-- A step does what the method of its call does. -/
theorem step_spec {x : Method D S (IncrementalEvidenceSnapshot D)}
    (hx : runCall config casefold uuid5 closeSha256 sha256 sink call = some <$> x)
    {Q : IncrementalEvidenceSnapshot D → Machine D S → Prop} {R : PyError → Machine D S → Prop}
    (h : wp x Q R m) :
    (∀ a, (step config casefold uuid5 closeSha256 sha256 sink m call).2 = .ok a →
      ∃ snapshot, Q snapshot (step config casefold uuid5 closeSha256 sha256 sink m call).1) ∧
    ∀ e, (step config casefold uuid5 closeSha256 sha256 sink m call).2 = .error e →
      R e (step config casefold uuid5 closeSha256 sha256 sink m call).1 := by
  have hcall : wp (some <$> x) (fun _ m' => ∃ snapshot, Q snapshot m') R m :=
    wp_map.mpr (wp_mono h (fun snapshot _ hq => ⟨snapshot, hq⟩) fun _ _ hr => hr)
  rw [wp] at hcall
  rw [step, hx]
  cases hrun : (some <$> x).run m with
  | ok a m' =>
    rw [hrun] at hcall
    exact ⟨fun _ _ => hcall, fun _ he => (by cases he)⟩
  | error e m' =>
    rw [hrun] at hcall
    refine ⟨fun _ ha => (by cases ha), fun e' he => ?_⟩
    rw [← Except.error.inj he]
    exact hcall

/-- What holds however the method ends holds after the step. -/
theorem step_state {x : Method D S (IncrementalEvidenceSnapshot D)}
    (hx : runCall config casefold uuid5 closeSha256 sha256 sink call = some <$> x)
    {I : Machine D S → Prop} (h : wp x (fun _ => I) (fun _ => I) m) :
    I (step config casefold uuid5 closeSha256 sha256 sink m call).1 := by
  obtain ⟨hok, herror⟩ := step_spec hx h
  cases hresult : (step config casefold uuid5 closeSha256 sha256 sink m call).2 with
  | ok a =>
    obtain ⟨-, hstate⟩ := hok a hresult
    exact hstate
  | error e => exact herror e hresult

/-- A call is atomic exactly where a proof that it gives settles. -/
theorem atomic_iff_settles (hproved : ProvedLast m.evidence) :
    Atomic config casefold uuid5 closeSha256 sha256 sink m call ↔
      Settles config casefold uuid5 closeSha256 m call := by
  cases call with
  | acceptChunk chunk now =>
    refine iff_of_true ?_ trivial
    exact (step_spec rfl (acceptChunk_restores sink now chunk m)).2
  | acceptRunClosed runClosed =>
    refine iff_of_true ?_ trivial
    exact (step_spec rfl (acceptRunClosed_restores runClosed m)).2
  | acceptVerifiedBoundary boundary =>
    refine iff_of_true (fun e he => ?_) trivial
    exact congrArg Machine.evidence ((step_spec rfl (acceptVerifiedBoundary_refused boundary)).2 e he)
  | finalizeAtRunEnd runEnd => exact iff_of_true (fun _ _ => trivial) trivial
  | moveIngress ingress => exact iff_of_true (fun _ _ => trivial) trivial
  | acceptVerifiedCloseProof args clock =>
    have hcall : runCall config casefold uuid5 closeSha256 sha256 sink
        (.acceptVerifiedCloseProof args clock) =
      some <$> acceptVerifiedCloseProof config casefold uuid5 closeSha256 clock args := rfl
    constructor
    · intro hatomic availableAt haccepted
      by_contra hfails
      have hnone : m.evidence.verifiedProof = none := by
        refine hproved.resolve_right fun h => ?_
        rw [haccepted.running] at h
        exact Bool.false_ne_true h.1
      obtain ⟨validation, hraises⟩ := acceptVerifiedCloseProof_of_not_issuable haccepted hfails
      obtain ⟨hok, herror⟩ := step_spec hcall hraises
      cases hresult : (step config casefold uuid5 closeSha256 sha256 sink m
          (.acceptVerifiedCloseProof args clock)).2 with
      | ok a =>
        obtain ⟨-, hfalse⟩ := hok a hresult
        exact hfalse
      | error e =>
        -- The proof is recorded in a state that still runs.
        obtain ⟨-, hsame | hclosed⟩ := hatomic e hresult
        · rw [herror e hresult] at hsame
          have hproof := congrArg IncrementalEvidenceState.verifiedProof hsame
          rw [hnone] at hproof
          cases hproof
        · have hstatus := hclosed.status
          rw [herror e hresult] at hstatus
          have hrunning : m.evidence.snapshot.isTerminal = false := haccepted.running
          rw [IncrementalEvidenceSnapshot.isTerminal, show m.evidence.snapshot.status = _ from hstatus]
            at hrunning
          cases hrunning
    · intro hsettles e he
      by_cases haccepted : ∃ availableAt, Accepted config closeSha256 m.evidence args availableAt
      · obtain ⟨availableAt, haccepted⟩ := haccepted
        have hends := acceptVerifiedCloseProof_of_issuable haccepted (hsettles availableAt haccepted)
        obtain ⟨hinputs, hclosed⟩ := (step_spec hcall hends).2 e he
        exact ⟨hinputs, .inr hclosed⟩
      · rcases (step_spec hcall (acceptVerifiedCloseProof_of_refused haccepted)).2 e he with
          hsame | ⟨⟨hinputs, hclosed⟩, -⟩
        · rw [hsame]
          exact ⟨rfl, .inl rfl⟩
        · exact ⟨hinputs, .inr hclosed⟩

/-- A call that settles keeps the proof last. -/
theorem provedLast_step (hproved : ProvedLast m.evidence)
    (hsettles : Settles config casefold uuid5 closeSha256 m call) :
    ProvedLast (step config casefold uuid5 closeSha256 sha256 sink m call).1.evidence := by
  cases call with
  | acceptChunk chunk now =>
    exact step_state rfl (provedLast_of_keeps (keeps_acceptChunk sink now chunk)
      (fun hended _ => acceptChunk_terminal sink now chunk hended) hproved)
  | acceptRunClosed runClosed =>
    exact step_state rfl (provedLast_of_keeps (keeps_acceptRunClosed runClosed)
      (fun _ hclose => acceptRunClosed_terminal runClosed hclose) hproved)
  | acceptVerifiedBoundary boundary =>
    refine step_state rfl (I := fun m' : Machine D S => ProvedLast m'.evidence) ?_
    exact wp_mono (acceptVerifiedBoundary_refused boundary) (fun _ _ h => h.elim) fun _ _ h =>
      h ▸ hproved
  | finalizeAtRunEnd runEnd =>
    exact step_state rfl (provedLast_of_keeps (keeps_finalizeAtRunEnd runEnd)
      (fun hended _ => finalizeAtRunEnd_terminal runEnd hended) hproved)
  | moveIngress ingress => exact hproved
  | acceptVerifiedCloseProof args clock =>
    have hclosed : ∀ m' : Machine D S, FailsClosed m m' → Ends m m' := by
      intro m' ⟨hinputs, hfailed⟩
      refine ⟨hinputs, ?_⟩
      rw [IncrementalEvidenceSnapshot.isTerminal, hfailed.status]
      rfl
    have hcloseOf : ∀ m' : Machine D S, Ends m m' → m'.evidence.runClosed = m.evidence.runClosed :=
      fun m' h => congrArg (fun inputs => inputs.2.2.2.2.2) h.1
    by_cases haccepted : ∃ availableAt, Accepted config closeSha256 m.evidence args availableAt
    · obtain ⟨availableAt, haccepted⟩ := haccepted
      have hends := acceptVerifiedCloseProof_of_issuable haccepted (hsettles availableAt haccepted)
      have hended : ∀ m' : Machine D S, Ends m m' → ProvedLast m'.evidence := by
        intro m' h
        refine .inr ⟨h.2, ?_⟩
        rw [hcloseOf m' h, haccepted.close]
        exact Option.some_ne_none _
      exact step_state rfl (I := fun m' => ProvedLast m'.evidence) (wp_mono hends
        (fun _ m' h => hended m' h) fun _ m' h => hended m' (hclosed m' h))
    · have hrefused := @acceptVerifiedCloseProof_of_refused D S config m _ casefold uuid5
        closeSha256 args clock haccepted
      have hkept : ∀ m' : Machine D S, m' = m ∨ Ends m m' ∧
          m'.evidence.verifiedProof = m.evidence.verifiedProof → ProvedLast m'.evidence := by
        rintro m' (rfl | ⟨hends, hproof⟩)
        · exact hproved
        · refine hproved.imp (fun h => hproof.trans h) fun ⟨_, hclose⟩ => ⟨hends.2, ?_⟩
          rw [hcloseOf m' hends]
          exact hclose
      exact step_state rfl (I := fun m' => ProvedLast m'.evidence) (wp_mono hrefused
        (fun _ m' h => hkept m' h) fun _ m' h => hkept m' (h.imp_right (And.imp_left (hclosed m'))))

/-- Every call of a run is atomic exactly where every proof settles. -/
theorem meets_atomic_iff_settles (hproved : ProvedLast m.evidence) (calls : List (IncrementalCall D S)) :
    Meets (step config casefold uuid5 closeSha256 sha256 sink)
        (Atomic config casefold uuid5 closeSha256 sha256 sink) m calls ↔
      Meets (step config casefold uuid5 closeSha256 sha256 sink)
        (Settles config casefold uuid5 closeSha256) m calls := by
  induction calls generalizing m with
  | nil => exact iff_of_true meets_nil meets_nil
  | cons call calls ih =>
    rw [meets_cons_iff, meets_cons_iff, atomic_iff_settles hproved]
    exact and_congr_right fun hsettles => ih (provedLast_step hproved hsettles)

omit [DecidableEq D] in
theorem provedLast_init {s : IncrementalEvidenceState D}
    (h : IncrementalEvidenceState.init config = .ok s) : ProvedLast s := by
  rw [IncrementalEvidenceState.init] at h
  obtain ⟨snapshot, -, hs⟩ := Except.bind_eq_ok.mp h
  obtain rfl := Except.pure_eq_ok.mp hs
  exact .inl rfl

variable (config casefold uuid5 closeSha256 sha256 sink) in
/-- From the state before any chunk, every call of a run is atomic exactly where every
close proof that passes the checks finds Evidence that can be issued. -/
theorem incrementalCalls_atomic_iff {s : IncrementalEvidenceState D}
    (hinit : IncrementalEvidenceState.init config = .ok s) (ingress : IngressState D S)
    (calls : List (IncrementalCall D S)) :
    Meets (step config casefold uuid5 closeSha256 sha256 sink)
        (Atomic config casefold uuid5 closeSha256 sha256 sink) ⟨s, ingress⟩ calls ↔
      Meets (step config casefold uuid5 closeSha256 sha256 sink)
        (Settles config casefold uuid5 closeSha256) ⟨s, ingress⟩ calls :=
  meets_atomic_iff_settles (provedLast_init hinit) calls

/-- Where every buffered Event has an unpadded id, `uuid5` gives no trailing space and the
clock is in range, the Evidence can be issued. -/
theorem issuable_of_unpadded (huuid5 : ∀ identity, Unpadded ("E-" ++ uuid5 identity))
    {events : List NormalizedEvent} (hids : ∀ e ∈ events, Unpadded e.eventId) {clock : PyDatetime}
    (hrange : clock.CeilsInRange) (availableAt : UtcMillis) :
    Issuable config casefold uuid5 clock availableAt events := by
  intro selected hselect
  have hsel := selectedFrom_of_ok hselect
  have hlineage : ∀ e ∈ selected.lineage, Unpadded e.eventId :=
    fun e he => hids e (hsel.mem_of_lineage he).1
  have hcontext : ∀ id ∈ contextEventIds (some (config.runStart * 1000)) selected.lineage,
      Unpadded id := by
    intro id hid
    obtain ⟨e, he, rfl⟩ := List.mem_map.mp hid
    exact hlineage e (List.mem_filter.mp he).1
  refine ⟨⟨(hlineage _ hsel.anchor_mem).1, (hlineage _ hsel.terminal_mem).1,
    fun id hid => (hcontext id hid).1⟩, fun _ => hrange, fun readyAt _ e he => ?_⟩
  obtain ⟨n, hn, rfl⟩ | ⟨hne, rfl⟩ := mem_issuedEvidences hsel he
  · refine ⟨huuid5 _, fun id hid => ?_, hcontext⟩
    rcases List.mem_cons.mp hid with rfl | hid
    · exact hlineage _ hsel.terminal_mem
    · rw [List.mem_singleton.mp hid]
      exact hids n (List.mem_filter.mp hn).1
  · refine ⟨huuid5 _, fun id hid => ?_, hcontext⟩
    obtain ⟨event, hevent, rfl⟩ := List.mem_map.mp hid
    exact hlineage event (List.mem_filter.mp hevent).1

end Runs

/-! ## A sample run -/

namespace Sample

open Stream.Sample (runId partition final watermark₁)
open Seal.Sample (Digest closeSha256 familyId policy)

def hostId : Identifier := partition.hostId

theorem runId_ne_empty : "RUN-20260101-001" ≠ "" := by decide

theorem runId_not_padded : isPadded "RUN-20260101-001" = false := by decide

def sampleConfig : IncrementalConfig where
  runId := ⟨"RUN-20260101-001", runId_ne_empty, runId_not_padded⟩
  entityId := hostId
  runStart := 0
  scenarioFamilyId := "family-a"
  selectorPolicy := { Evidence.Sample.selectorPolicy with
    lineageEventCount := 1
    lineageEventCount_pos := Nat.one_pos }
  approvedPolicy := Evidence.Sample.shortApproved
  requiredPartitionContract := some ⟨hostId, [.sysmonOperational], List.cons_ne_nil _ _,
    List.nodup_singleton _⟩
  lineageEventCount_eq := rfl
  targetHost_eq := fun _ h => Option.some.inj h ▸ rfl

/-- Digests of the messages of the sample. -/
def sha256 : CanonicalPayload → Digest
  | .chunk chunk => .file chunk.chunkSequence
  | .event e => .file e.timestamp.toNat
  | .watermark w => .file w.watermarkSequence
  | .runClosed close => .runClosed close

/-- An Event of a process, as `sysmon` gives it, with an id. -/
def processEvent (eventId : String) (eventType : String) (timestamp : UtcMillis)
    (hne : eventId ≠ "") (hdot : eventId ≠ "." ∧ eventId ≠ "..") : NormalizedEvent :=
  { Stream.Sample.event eventId timestamp hne hdot with
    eventType
    ingestTime := some timestamp
    process := some Evidence.Sample.shell
    timestamp_eq := rfl }

/-- The shell starts, under an id with a trailing space. -/
def started : NormalizedEvent := processEvent "evt-1 " "process_create" 1000 (by decide) (by decide)

theorem connectedId_ne_empty : "evt-2" ≠ "" := by decide

theorem connectedId_ne_dot : "evt-2" ≠ "." ∧ "evt-2" ≠ ".." := by decide

def connected : NormalizedEvent :=
  processEvent "evt-2" "network_connection" 1500 connectedId_ne_empty connectedId_ne_dot

theorem launchedId_ne_empty : "evt-1" ≠ "" := by decide

theorem launchedId_ne_dot : "evt-1" ≠ "." ∧ "evt-1" ≠ ".." := by decide

/-- The shell starts, under an unpadded id. -/
def launched : NormalizedEvent :=
  processEvent "evt-1" "process_create" 1000 launchedId_ne_empty launchedId_ne_dot

theorem eventIds_nodup : ([started, connected].map (·.eventId)).Nodup := by decide

theorem events_scope : ∀ e ∈ [started, connected], e.runId = partition.runId.val ∧
    e.hostId = partition.hostId.val ∧ e.source = partition.source.val := by decide

theorem chunkId_ne_empty : "chunk-1" ≠ "" := by decide

theorem chunkId_not_padded : isPadded "chunk-1" = false := by decide

def paddedChunk : R1EventChunk Digest where
  chunkId := ⟨"chunk-1", chunkId_ne_empty, chunkId_not_padded⟩
  partition := partition
  chunkSequence := 1
  events := [started, connected]
  chunkSequence_pos := Nat.one_pos
  events_ne_nil := List.cons_ne_nil _ _
  eventIds_nodup := eventIds_nodup
  events_scope := events_scope
  chunkContentSha256 := .file 1

theorem wholeIds_nodup : ([launched, connected].map (·.eventId)).Nodup := by decide

theorem whole_scope : ∀ e ∈ [launched, connected], e.runId = partition.runId.val ∧
    e.hostId = partition.hostId.val ∧ e.source = partition.source.val := by decide

/-- The start of the shell and its connection, in one chunk. -/
def wholePayload : R1EventChunkPayload where
  chunkId := ⟨"chunk-1", chunkId_ne_empty, chunkId_not_padded⟩
  partition := partition
  chunkSequence := 1
  events := [launched, connected]
  chunkSequence_pos := Nat.one_pos
  events_ne_nil := List.cons_ne_nil _ _
  eventIds_nodup := wholeIds_nodup
  events_scope := whole_scope

theorem finalWatermarks_scope : ∀ w ∈ [final watermark₁], w.partition.runId = runId := by decide

theorem closeId_ne_empty : "close-1" ≠ "" := by decide

theorem closeId_not_padded : isPadded "close-1" = false := by decide

def runClose : R1RunClosed where
  closeId := ⟨"close-1", closeId_ne_empty, closeId_not_padded⟩
  runId := runId
  finalWatermarks := [final watermark₁]
  emittedAt := 3000
  finalWatermarks_ne_nil := List.cons_ne_nil _ _
  partitions_nodup := List.nodup_singleton _
  partitions_scope := finalWatermarks_scope

def projection : SourceSealProjection Digest where
  sourceSealId := ⟨"seal-1", by decide, by decide⟩
  runId := runId
  hostId := hostId
  familyId := familyId
  candidatePolicy := ⟨policy.policyId, policy.version, policy.configHash,
    ⟨"configs/policies.yaml", by decide, by decide⟩⟩
  inputCloseId := runClose.closeId
  candidateBoundaryAt := 2000
  sealedPartitions := runClose.finalWatermarks
  verifiedSealAt := 4000

def content : CloseProofContent Digest where
  proofId := ⟨"proof-1", by decide, by decide⟩
  runId := projection.runId
  hostId := projection.hostId
  familyId := projection.familyId
  candidatePolicy := projection.candidatePolicy
  sourceSealId := projection.sourceSealId
  sourceSealProjectionSha256 := closeSha256 (.sourceSealProjection projection)
  inputCloseId := runClose.closeId
  acceptedRunClosedContentSha256 := closeSha256 (.runClosed runClose)
  inputCloseEmittedAt := runClose.emittedAt
  candidateBoundaryAt := projection.candidateBoundaryAt
  sealedPartitions := runClose.finalWatermarks
  verifiedSealAt := projection.verifiedSealAt
  proofCreatedAt := 5000

theorem host_present : ∃ w ∈ content.sealedPartitions, w.partition.hostId = content.hostId := by
  decide

theorem watermarks_cover : ∀ w ∈ content.sealedPartitions,
    content.candidateBoundaryAt ≤ w.watermarkAt := by decide

theorem emitted_le_verified : content.inputCloseEmittedAt ≤ content.verifiedSealAt := by decide

theorem verified_le_created : content.verifiedSealAt ≤ content.proofCreatedAt := by decide

def proof : R1Role2VerifiedCloseProof Digest where
  toCloseProofContent := content
  proofContentSha256 := closeSha256 (.closeProof content)
  sealedPartitions_ne_nil := runClose.finalWatermarks_ne_nil
  partitions_nodup := runClose.partitions_nodup
  partitions_scope := runClose.partitions_scope
  host_present := host_present
  watermarks_cover := watermarks_cover
  emitted_le_verified := emitted_le_verified
  verified_le_created := verified_le_created

def arguments : CloseProofArguments Digest where
  proof := proof
  acceptedRunClosed := runClose
  acceptedCloseReceipt := ⟨runId, runClose.closeId, .runClosed runClose⟩
  candidatePolicy := policy
  acceptedSourceSealId := "seal-1"
  acceptedSourceSealProjectionSha256 := content.sourceSealProjectionSha256
  proofValidatedAt := PyDatetime.utcMillis 5000

/-- The state before any chunk. -/
def initial : IncrementalEvidenceState Digest :=
  .empty { status := .accumulating, selectorResult := ⟨none, [.emptyEventBatch]⟩ }

theorem init_eq : IncrementalEvidenceState.init sampleConfig = .ok initial := rfl

/-- The clock reads one second after the validation of the proof. -/
def clock : PyDatetime := PyDatetime.utcMillis 6000

/-- A chunk, the close and its proof. -/
def calls : List (IncrementalCall Digest Unit) :=
  [.acceptChunk paddedChunk clock, .acceptRunClosed runClose, .acceptVerifiedCloseProof arguments clock]

/-- One call of the sample. -/
abbrev sampleStep : Machine Digest Unit → IncrementalCall Digest Unit →
    Machine Digest Unit × Except PyError (Option (IncrementalEvidenceSnapshot Digest)) :=
  step sampleConfig Evidence.Sample.lower Evidence.Sample.sampleUuid5 closeSha256 sha256 Stream.Sample.discard

/-- The machine when the proof is given. -/
def closed : Machine Digest Unit :=
  after sampleStep ⟨initial, ⟨.empty, ()⟩⟩ [.acceptChunk paddedChunk clock, .acceptRunClosed runClose]

theorem closed_accepted : Accepted sampleConfig closeSha256 closed.evidence arguments 5000 where
  contract := Option.some_ne_none _
  running := by decide +kernel
  close := by decide +kernel
  covered := by decide +kernel
  verified := by
    have hfrontier : ((closed.evidence.validateClose sampleConfig closeSha256 arguments).map
        Prod.snd) = .ok 5000 := by decide +kernel
    cases haccepted : closed.evidence.validateClose sampleConfig closeSha256 arguments with
    | error e =>
      rw [haccepted] at hfrontier
      cases hfrontier
    | ok accepted =>
      rw [haccepted] at hfrontier
      exact ⟨accepted.1, congrArg _ (Prod.ext rfl (Except.ok.inj hfrontier))⟩

/-- The one process that opened a connection. -/
def lineage : SelectedLineage := ⟨started, [started]⟩

theorem closed_selects : selectLineage sampleConfig.selectorPolicy
    (some (sampleConfig.runStart * 1000)) closed.evidence.orderedEvents = .ok lineage := by
  decide +kernel

theorem closed_goesOut : GoesOut sampleConfig Evidence.Sample.lower Evidence.Sample.sampleUuid5 clock
    5000 closed.evidence.orderedEvents lineage 6000 where
  named := by decide +kernel
  reading := rfl
  frontier := by decide
  timely := by decide +kernel

theorem closed_not_issuable : ¬ Issuable sampleConfig Evidence.Sample.lower
    Evidence.Sample.sampleUuid5 clock 5000 closed.evidence.orderedEvents := by
  intro hissuable
  have hids := (hissuable lineage closed_selects).2.2 6000 closed_goesOut
  revert hids
  decide +kernel

end Sample

open Sample Seal.Sample

/-- An Event id with a trailing space is buffered, and the proof of its run raises once it
is recorded, in a state that still runs. -/
theorem incrementalCalls_atomic_fails :
    IncrementalEvidenceState.init sampleConfig = .ok initial ∧
      ¬ Meets sampleStep (Atomic sampleConfig Evidence.Sample.lower Evidence.Sample.sampleUuid5
        closeSha256 sha256 Stream.Sample.discard) ⟨initial, ⟨.empty, ()⟩⟩ calls := by
  refine ⟨init_eq, fun hmeets => ?_⟩
  have hproved : ProvedLast closed.evidence := by
    refine .inl ?_
    decide +kernel
  have hatomic := hmeets [.acceptChunk paddedChunk clock, .acceptRunClosed runClose]
    (.acceptVerifiedCloseProof arguments clock) [] rfl
  exact closed_not_issuable ((atomic_iff_settles hproved).mp hatomic 5000 closed_accepted)

namespace Sample

/-- A chunk whose ids are unpadded, the close and its proof. -/
def provenCalls : List (IncrementalCall Digest Unit) :=
  [.acceptChunk { wholePayload with chunkContentSha256 := .file 1 } clock,
    .acceptRunClosed runClose, .acceptVerifiedCloseProof arguments clock]

theorem unpadded_sampleUuid5 (identity : List IdentityPart) :
    Unpadded ("E-" ++ Evidence.Sample.sampleUuid5 identity) := by
  rw [Evidence.Sample.sampleUuid5]
  split
  · decide
  · decide

/-- The proof settles: the ids of the buffered Events are unpadded. -/
theorem proven_settles : Settles sampleConfig Evidence.Sample.lower Evidence.Sample.sampleUuid5
    closeSha256 (after sampleStep ⟨initial, ⟨.empty, ()⟩⟩ (provenCalls.take 2))
    (.acceptVerifiedCloseProof arguments clock) := by
  intro availableAt _
  exact issuable_of_unpadded unpadded_sampleUuid5 (by decide +kernel) (by decide) availableAt

end Sample

/-- A chunk, the close of its run and the proof of the close are atomic. -/
theorem incrementalCalls_atomic_iff_sample :
    Meets sampleStep (Atomic sampleConfig Evidence.Sample.lower Evidence.Sample.sampleUuid5
      closeSha256 sha256 Stream.Sample.discard) ⟨initial, ⟨.empty, ()⟩⟩ provenCalls :=
  (incrementalCalls_atomic_iff sampleConfig Evidence.Sample.lower Evidence.Sample.sampleUuid5
    closeSha256 sha256 Stream.Sample.discard init_eq ⟨.empty, ()⟩ _).mpr
    (meets_cons trivial (meets_cons trivial (meets_cons proven_settles meets_nil)))

end IncidentAwareness.Incremental
