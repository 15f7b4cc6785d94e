import IncidentAwareness.Incremental.Atomic

/-!
# The terminal states of the incremental Evidence state

What one call can do to the state (`Effect`), and from it what every run of calls keeps:

* `finalize_spec`: the finalization issues Evidence, fails closed, or leaves the state;
* `step_effect`: the effect of any call, whether it returns or raises;
* `incrementalCalls_sound`: Evidence is there only in a finalized state, and a terminal state
  has a close; a finalized state has every chunk that its close covers;
* `incrementalCalls_causal`: Evidence is not available before anything that it depends on;
* `incrementalCalls_terminal`: a terminal state stays as it is.
-/

namespace IncidentAwareness.Incremental

open IncidentAwareness.Common IncidentAwareness.Lib IncidentAwareness.Stream
open IncidentAwareness.Evidence IncidentAwareness.Seal

variable {D S : Type} {config : IncrementalConfig} {casefold : String → String}
  {uuid5 : List IdentityPart → String} {closeSha256 : ClosePayload D → D} {m : Machine D S}

/-! ## The finalization -/

section Finalize

variable (config casefold uuid5 closeSha256) in
/-- The snapshot issues the Evidence of a state, from `availableAt` on. -/
structure Issues (args : FinalizeArguments) (s : IncrementalEvidenceState D)
    (snapshot : IncrementalEvidenceSnapshot D) (availableAt : UtcMillis)
    (result : R1SelectedEvidencePipelineResult) : Prop where
  pipeline : runR1EvidencePipelineWithSelector casefold uuid5 (s.finalizedEvents args.eventCutoff)
    config.selectorPolicy config.approvedPolicy (some (PyDatetime.utcMillis config.runStart)) =
      .ok result
  selected : result.selectorResult.selection ≠ none
  undiagnosed : result.extractionDiagnostics = []
  frontier : args.availableAt ≤ availableAt
  timely : ∀ e ∈ result.evidences, e.timestamp ≤ availableAt * 1000
  issued : ∃ availability, (result.evidences.mapM fun evidence =>
      construct AvailabilityFields.validate (availabilityOf availableAt
        ((result.lineageInput.map (·.val.contextEventIds)).getD []) evidence)) = .ok availability ∧
    snapshot = finalizedSnapshot closeSha256 s args availableAt result availability

theorem Issues.of_eq {args : FinalizeArguments} {s s' : IncrementalEvidenceState D}
    {snapshot : IncrementalEvidenceSnapshot D} {availableAt : UtcMillis}
    {result : R1SelectedEvidencePipelineResult}
    (h : Issues config casefold uuid5 closeSha256 args s snapshot availableAt result)
    (heq : s' = { s with snapshot }) :
    Issues config casefold uuid5 closeSha256 args s' s'.snapshot availableAt result := by
  rw [heq]
  exact ⟨h.pipeline, h.selected, h.undiagnosed, h.frontier, h.timely, h.issued⟩

variable (config) in
/-- The time of the publication is not before the one that is given; where the clock raises, it
leaves the state or fails closed. -/
theorem publicationTime_spec (args : FinalizeArguments) :
    wp (publicationTime config args) (fun availableAt m' => m' = m ∧ args.availableAt ≤ availableAt)
      (fun _ m' => m'.evidence = m.evidence ∨ FailsClosed m m') m := by
  rw [publicationTime]
  cases args.clock with
  | none => exact ⟨rfl, le_rfl⟩
  | some clock =>
    refine wp_mono (observeReadyAt_spec config) (fun _ _ h => ⟨h.1, h.2.2⟩) fun _ _ h => ?_
    exact h.symm.imp_left fun hout => congrArg _ hout.1

/-- The finalization fails closed or issues the Evidence; where it raises, it leaves the state or
fails closed. -/
theorem finalize_spec (args : FinalizeArguments) :
    wp (finalize config casefold uuid5 closeSha256 args)
      (fun _ m' => FailsClosed m m' ∨ ∃ snapshot availableAt result,
        m'.evidence = { m.evidence with snapshot } ∧
        Issues config casefold uuid5 closeSha256 args m.evidence snapshot availableAt result)
      (fun _ m' => m'.evidence = m.evidence ∨ FailsClosed m m') m := by
  rw [finalize, wp_bind, wp_reads]
  refine ⟨fun result hresult => ?_, fun _ _ => .inl rfl⟩
  by_cases hfailed : result.selectorResult.selection = none ∨ result.extractionDiagnostics ≠ []
  · rw [if_pos hfailed, wp_setSnapshot]
    exact .inl ⟨rfl, rfl, rfl, rfl⟩
  rw [not_or, not_not] at hfailed
  rw [if_neg (not_or.mpr ⟨hfailed.1, not_not.mpr hfailed.2⟩), wp_bind]
  refine wp_mono (publicationTime_spec config args) ?_ fun _ _ h => h
  rintro availableAt m' ⟨rfl, hfrontier⟩
  by_cases huntimely : ∃ evidence ∈ result.evidences, availableAt * 1000 < evidence.timestamp
  · rw [if_pos huntimely, wp_setSnapshot]
    exact .inl ⟨rfl, rfl, rfl, rfl⟩
  have htimely : ∀ e ∈ result.evidences, e.timestamp ≤ availableAt * 1000 := by
    intro e he
    exact not_lt.mp fun hlt => huntimely ⟨e, he, hlt⟩
  rw [if_neg huntimely, wp_bind, wp_reads]
  refine ⟨fun availability havailability => ?_, fun _ _ => .inl rfl⟩
  rw [wp_bind, wp_get, wp_setSnapshot]
  exact .inr ⟨_, availableAt, result, rfl, hresult, hfailed.1, hfailed.2, hfrontier, htimely,
    availability, havailability, rfl⟩

end Finalize

/-! ## Chunks and the close -/

/-- The snapshot of a state that gathers its inputs. -/
structure Gathering (snapshot : IncrementalEvidenceSnapshot D) : Prop where
  running : snapshot.isTerminal = false
  evidences : snapshot.evidences = []
  availability : snapshot.availability = []

theorem gathering_of_provisionalSnapshot {s : IncrementalEvidenceState D} {diagnostics : List String}
    {snapshot : IncrementalEvidenceSnapshot D}
    (h : s.provisionalSnapshot config diagnostics = .ok snapshot) : Gathering snapshot := by
  obtain ⟨result, -, h⟩ := Except.bind_eq_ok.mp h
  obtain rfl := Except.pure_eq_ok.mp h
  refine ⟨?_, rfl, rfl⟩
  rw [IncrementalEvidenceSnapshot.isTerminal]
  by_cases hselected : result.selection ≠ none
  · simp [hselected]
  · simp [hselected]

variable (config) in
/-- The snapshot is the provisional one of the Events and the chunks. -/
def Current (s : IncrementalEvidenceState D) : Prop :=
  s.provisionalSnapshot config (s.chunkCoverageDiagnostics config) = .ok s.snapshot

theorem Current.gathering {s : IncrementalEvidenceState D} (h : Current config s) :
    Gathering s.snapshot :=
  gathering_of_provisionalSnapshot h

theorem isTerminal_of_finalized {snapshot : IncrementalEvidenceSnapshot D}
    (h : snapshot.status = .finalized) : snapshot.isTerminal = true := by
  rw [IncrementalEvidenceSnapshot.isTerminal, h]
  rfl

theorem not_finalized {snapshot : IncrementalEvidenceSnapshot D} (h : snapshot.isTerminal = false) :
    snapshot.status ≠ .finalized := by
  intro hfinal
  rw [isTerminal_of_finalized hfinal] at h
  exact absurd h (by simp)

namespace IncrementalEvidenceState

variable (config) (sha256 : CanonicalPayload → D)

/-- The state with a new Event of a chunk. -/
def recordEvent (partition : R1StreamPartition) (s : IncrementalEvidenceState D)
    (e : NormalizedEvent) : IncrementalEvidenceState D :=
  { s with
    eventHashes := s.eventHashes.set (partition, e.eventId) (canonicalEventSha256 sha256 e)
    eventsByIdentity := if config.isSelectorPartition partition then
      s.eventsByIdentity.set (partition, e.eventId) e else s.eventsByIdentity }

/-- The state with a new chunk, but for its snapshot. -/
def record (s : IncrementalEvidenceState D) (chunk : R1EventChunk D)
    (updates : List NormalizedEvent) : IncrementalEvidenceState D :=
  updates.foldl (recordEvent config sha256 chunk.partition) { s with
    chunkHashes := s.chunkHashes.set (chunk.partition, chunk.chunkId) (chunkSha256 sha256 chunk)
    chunkSequenceIdentities :=
      s.chunkSequenceIdentities.set (chunk.partition, chunk.chunkSequence) chunk.chunkId
    chunksByIdentity := s.chunksByIdentity.set (chunk.partition, chunk.chunkId) chunk }

variable {config sha256} {s : IncrementalEvidenceState D}

/-- Events are recorded beside the chunks, the close and the snapshot. -/
theorem foldl_recordEvent (partition : R1StreamPartition) (updates : List NormalizedEvent) :
    (updates.foldl (recordEvent config sha256 partition) s) = { s with
      eventHashes := (updates.foldl (recordEvent config sha256 partition) s).eventHashes
      eventsByIdentity := (updates.foldl (recordEvent config sha256 partition) s).eventsByIdentity } := by
  induction updates generalizing s with
  | nil => rfl
  | cons e updates ih =>
    rw [List.foldl_cons, ih]
    rfl

end IncrementalEvidenceState

theorem record_chunkSequenceIdentities {sha256 : CanonicalPayload → D}
    {s : IncrementalEvidenceState D} (chunk : R1EventChunk D) (updates : List NormalizedEvent) :
    (s.record config sha256 chunk updates).chunkSequenceIdentities =
      s.chunkSequenceIdentities.set (chunk.partition, chunk.chunkSequence) chunk.chunkId := by
  rw [IncrementalEvidenceState.record, IncrementalEvidenceState.foldl_recordEvent]

theorem wp_recordEvent {sha256 : CanonicalPayload → D} {partition : R1StreamPartition}
    {e : NormalizedEvent} {Q : Unit → Machine D S → Prop} {R : PyError → Machine D S → Prop} :
    wp (recordEvent config sha256 partition e) Q R m ↔
      Q () { m with evidence := m.evidence.recordEvent config sha256 partition e } := by
  rw [recordEvent, wp_bind, wp_update, IncrementalEvidenceState.recordEvent]
  by_cases hselector : config.isSelectorPartition partition
  · rw [if_pos hselector, if_pos hselector, wp_update]
  · rw [if_neg hselector, if_neg hselector, wp_pure]

theorem wp_forM_recordEvent {sha256 : CanonicalPayload → D} {partition : R1StreamPartition}
    {updates : List NormalizedEvent} {Q : Unit → Machine D S → Prop}
    {R : PyError → Machine D S → Prop} :
    wp (updates.forM (recordEvent config sha256 partition)) Q R m ↔
      Q () { m with evidence :=
        updates.foldl (IncrementalEvidenceState.recordEvent config sha256 partition) m.evidence } := by
  induction updates generalizing m with
  | nil => exact Iff.rfl
  | cons e updates ih =>
    show wp (recordEvent config sha256 partition e >>= fun _ => updates.forM _) Q R m ↔ _
    rw [wp_bind, wp_recordEvent, ih]
    exact Iff.rfl

/-- What the writes of `accept_chunk` leave. -/
theorem wp_recordChunk {sha256 : CanonicalPayload → D} {chunk : R1EventChunk D}
    {updates : List NormalizedEvent} {Q : Unit → Machine D S → Prop}
    {R : PyError → Machine D S → Prop} :
    wp (recordChunk config sha256 chunk updates) Q R m ↔
      Q () { m with evidence := m.evidence.record config sha256 chunk updates } := by
  rw [recordChunk, wp_bind, wp_update, wp_bind, wp_update, wp_bind, wp_update, wp_forM_recordEvent]
  exact Iff.rfl

theorem refreshSnapshot_spec :
    wp (refreshSnapshot config : Method D S (IncrementalEvidenceSnapshot D))
      (fun _ m' => Current config m'.evidence ∧
        ∃ snapshot, m'.evidence = { m.evidence with snapshot })
      (fun _ _ => False) m := by
  rw [refreshSnapshot, wp_bind, wp_reads]
  refine ⟨fun snapshot hsnapshot => ?_, fun e he => ?_⟩
  · rw [wp_setSnapshot]
    exact ⟨hsnapshot, snapshot, rfl⟩
  · rw [IncrementalEvidenceState.provisionalSnapshot, selectR1Lineage_eq] at he
    cases he

section Accept

variable [DecidableEq D] {sha256 : CanonicalPayload → D}

variable (config sha256) in
/-- A chunk that was not there is recorded, in a state that runs. -/
structure Records (s s' : IncrementalEvidenceState D) (chunk : R1EventChunk D) : Prop where
  valid : requireChunk config sha256 chunk = .ok ()
  running : s.snapshot.isTerminal = false
  isNew : s.isKnownChunk sha256 chunk = .ok false
  recorded : ∃ updates snapshot, s.eventUpdates sha256 chunk = .ok updates ∧
    s' = { s.record config sha256 chunk updates with snapshot }
  current : Current config s'

/-- A chunk that is accepted is known, or it is recorded; one that is refused changes nothing. -/
theorem acceptChunk_spec (sink : DeadLetterSink S) (now : PyDatetime) (chunk : R1EventChunk D) :
    wp (acceptChunk config sha256 sink now chunk)
      (fun _ m' => m'.evidence = m.evidence ∧ m.evidence.isKnownChunk sha256 chunk = .ok true ∨
        Records config sha256 m.evidence m'.evidence chunk)
      (fun _ m' => m'.evidence = m.evidence) m := by
  rw [acceptChunk, wp_bind, wp_reads]
  refine ⟨fun _ hvalid => ?_, fun _ _ => rfl⟩
  rw [wp_bind, wp_reads]
  refine ⟨fun known hknown => ?_, fun _ _ => rfl⟩
  cases known with
  | true =>
    rw [if_pos rfl, wp_bind]
    refine wp_mono (frames_onIngress _ m) (fun _ m' hm' => ?_) fun _ _ h => h
    rw [wp_reads]
    exact ⟨fun _ _ => .inl ⟨hm', hknown⟩, fun _ _ => hm'⟩
  | false =>
    rw [if_neg Bool.false_ne_true, wp_bind, wp_reads]
    refine ⟨fun updates hupdates => ?_, fun _ _ => rfl⟩
    have hrunning : m.evidence.snapshot.isTerminal = false := by
      have hterminal := (raiseIf_bind_eq_ok.mp hupdates).1
      simpa using hterminal
    rw [wp_bind]
    refine wp_mono (frames_onIngress _ m) (fun admission m' hm' => ?_) fun _ _ h => h
    rw [wp_bind, wp_reads]
    refine ⟨fun _ _ => ?_, fun _ _ => hm'⟩
    rw [wp_bind, wp_recordChunk]
    refine wp_mono refreshSnapshot_spec (fun _ m'' hm'' => ?_) fun _ _ h => h.elim
    obtain ⟨hcurrent, snapshot, heq⟩ := hm''
    refine .inr ⟨hvalid, hrunning, hknown, ⟨updates, snapshot, hupdates, ?_⟩, hcurrent⟩
    rw [heq, hm']

end Accept

/-- A close is recorded once; the same one is answered, and another one is refused. -/
theorem acceptRunClosed_spec (runClosed : R1RunClosed) :
    wp (acceptRunClosed config runClosed : Method D S (IncrementalEvidenceSnapshot D))
      (fun _ m' => m'.evidence = m.evidence ∨ m.evidence.runClosed = none ∧
        Current config m'.evidence ∧ ∃ snapshot,
          m'.evidence = { m.evidence with runClosed := some runClosed, snapshot })
      (fun _ m' => m'.evidence = m.evidence) m := by
  rw [acceptRunClosed, wp_bind, wp_reads]
  refine ⟨fun _ _ => ?_, fun _ _ => rfl⟩
  rw [wp_bind, wp_get]
  cases hclose : m.evidence.runClosed with
  | some recorded =>
    dsimp only
    rw [wp_bind, wp_reads]
    exact ⟨fun _ _ => .inl rfl, fun _ _ => rfl⟩
  | none =>
    dsimp only
    rw [wp_bind, wp_reads]
    refine ⟨fun _ _ => ?_, fun _ _ => rfl⟩
    rw [wp_bind, wp_update]
    refine wp_mono refreshSnapshot_spec (fun _ m' hm' => ?_) fun _ _ h => h.elim
    obtain ⟨hcurrent, snapshot, heq⟩ := hm'
    exact .inr ⟨rfl, hcurrent, snapshot, heq⟩

/-! ## The close proof and the run end -/

/-- A state that runs, with a close, fails closed. -/
structure Fails (m m' : Machine D S) : Prop where
  running : m.evidence.snapshot.isTerminal = false
  closed : m.evidence.runClosed ≠ none
  fails : FailsClosed m m'

/-- What an available time is not before, where a proof gives it. -/
structure BehindFrontier (s : IncrementalEvidenceState D) (args : CloseProofArguments D)
    (availableAt : UtcMillis) : Prop where
  emitted : args.acceptedRunClosed.emittedAt ≤ availableAt
  boundary : args.proof.candidateBoundaryAt ≤ availableAt
  verifiedSeal : args.proof.verifiedSealAt ≤ availableAt
  proofCreated : args.proof.proofCreatedAt ≤ availableAt
  ingested : ∀ e ∈ s.orderedEvents, ∃ ingestTime, e.ingestTime = some ingestTime ∧
    ingestTime ≤ availableAt

/-- What makes a state final: a run end, or a proof that was accepted. -/
inductive FinalizedBy (s : IncrementalEvidenceState D) : FinalizeArguments → Prop
  | runEnd (runEnd : UtcMillis) : FinalizedBy s (runEndFinalization runEnd)
  | proof {args : CloseProofArguments D} {availableAt : UtcMillis} (clock : PyDatetime)
      (hproof : s.verifiedProof = some args.proof)
      (hclose : s.runClosed = some args.acceptedRunClosed)
      (hfrontier : BehindFrontier s args availableAt) :
      FinalizedBy s (proofFinalization args availableAt clock)

variable (config casefold uuid5 closeSha256) in
/-- A finalized state, with the arguments of its finalization. -/
structure Final (s : IncrementalEvidenceState D) (args : FinalizeArguments) : Prop where
  covered : s.chunkCoverageDiagnostics config = []
  watermarks : s.requireWatermarkCoverage config args.boundaryAt = .ok ()
  finalizedBy : FinalizedBy s args
  issues : ∃ availableAt result,
    Issues config casefold uuid5 closeSha256 args s s.snapshot availableAt result

section Congr

variable {s s' : IncrementalEvidenceState D}

theorem runClosed_congr (h : s'.inputs = s.inputs) : s'.runClosed = s.runClosed :=
  congrArg (fun inputs => inputs.2.2.2.2.2) h

theorem chunkSequenceIdentities_congr (h : s'.inputs = s.inputs) :
    s'.chunkSequenceIdentities = s.chunkSequenceIdentities :=
  congrArg (fun inputs => inputs.2.1) h

theorem chunkCoverageDiagnostics_congr (h : s'.inputs = s.inputs) :
    s'.chunkCoverageDiagnostics config = s.chunkCoverageDiagnostics config := by
  have hsequences := chunkSequenceIdentities_congr h
  have haccepted : s'.acceptedSequences = s.acceptedSequences := by
    funext partition
    rw [IncrementalEvidenceState.acceptedSequences, hsequences]
    rfl
  have hwatermark : s'.watermarkDiagnostics = s.watermarkDiagnostics := by
    funext item
    rw [IncrementalEvidenceState.watermarkDiagnostics, haccepted]
    rfl
  rw [IncrementalEvidenceState.chunkCoverageDiagnostics, runClosed_congr h, hsequences, hwatermark]
  rfl

theorem requireWatermarkCoverage_congr (h : s'.inputs = s.inputs) (boundaryAt : UtcMillis) :
    s'.requireWatermarkCoverage config boundaryAt = s.requireWatermarkCoverage config boundaryAt := by
  simp only [IncrementalEvidenceState.requireWatermarkCoverage, runClosed_congr h]

theorem runClosed_of_requireWatermarkCoverage {boundaryAt : UtcMillis}
    (h : s.requireWatermarkCoverage config boundaryAt = .ok ()) : s.runClosed ≠ none := by
  intro hnone
  rw [IncrementalEvidenceState.requireWatermarkCoverage, hnone] at h
  exact absurd h (by simp)

theorem orderedEvents_congr (h : s'.inputs = s.inputs) : s'.orderedEvents = s.orderedEvents := by
  have hevents : s'.eventsByIdentity = s.eventsByIdentity :=
    congrArg (fun inputs => inputs.2.2.2.2.1) h
  simp only [IncrementalEvidenceState.orderedEvents, hevents]

theorem BehindFrontier.congr {args : CloseProofArguments D} {availableAt : UtcMillis}
    (h : BehindFrontier s args availableAt) (hinputs : s'.inputs = s.inputs) :
    BehindFrontier s' args availableAt := by
  refine ⟨h.emitted, h.boundary, h.verifiedSeal, h.proofCreated, ?_⟩
  rw [orderedEvents_congr hinputs]
  exact h.ingested

end Congr

/-- Every buffered Event has an ingest time, which is not after the latest one. -/
theorem ingested_of_latest {s : IncrementalEvidenceState D} {latest : UtcMillis}
    (h : s.latestVerifiedInputIngestTime config = .ok latest) :
    ∀ e ∈ s.orderedEvents, ∃ ingestTime, e.ingestTime = some ingestTime ∧ ingestTime ≤ latest := by
  intro e he
  obtain ⟨ingestTimes, hmapM, h⟩ := Except.bind_eq_ok.mp h
  obtain rfl := Except.pure_eq_ok.mp h
  obtain ⟨ingestTime, hmem, hingest⟩ := exists_of_mapM_mem hmapM he
  cases hevent : e.ingestTime with
  | none =>
    rw [hevent] at hingest
    exact absurd hingest (by simp)
  | some t =>
    rw [hevent] at hingest
    obtain rfl := Except.ok.inj hingest
    refine ⟨t, rfl, ?_⟩
    cases hmax : ingestTimes.max? with
    | none =>
      rw [List.max?_eq_none_iff.mp hmax] at hmem
      exact absurd hmem (by simp)
    | some latest => exact (List.max?_eq_some_iff.mp hmax).2 t hmem

section CloseProof

variable [DecidableEq D] {args : CloseProofArguments D}

/-- A proof that is accepted gives a time that is behind the frontier. -/
theorem behindFrontier_of_validateClose {s : IncrementalEvidenceState D}
    {validation : R1Role2VerifiedCloseProofValidation D} {availableAt : UtcMillis}
    (h : s.validateClose config closeSha256 args = .ok (validation, availableAt)) :
    s.requireWatermarkCoverage config args.proof.candidateBoundaryAt = .ok () ∧
      BehindFrontier s args availableAt := by
  obtain ⟨validation', -, h⟩ := Except.bind_eq_ok.mp h
  obtain ⟨hwatermarks, h⟩ := Except.unit_bind_eq_ok.mp h
  obtain ⟨latest, hlatest, h⟩ := Except.bind_eq_ok.mp h
  obtain ⟨-, h⟩ := raiseIf_bind_eq_ok.mp h
  obtain ⟨-, havailable⟩ := Prod.mk.inj (Except.pure_eq_ok.mp h)
  simp only [List.foldl_cons, List.foldl_nil] at havailable
  obtain ⟨⟨⟨⟨⟨hemitted, hboundary⟩, hseal⟩, hcreated⟩, -⟩, hingested⟩ :
      ((((args.acceptedRunClosed.emittedAt ≤ availableAt ∧
        args.proof.candidateBoundaryAt ≤ availableAt) ∧ args.proof.verifiedSealAt ≤ availableAt) ∧
        args.proof.proofCreatedAt ≤ availableAt) ∧ validation'.proofValidatedAt ≤ availableAt) ∧
        latest ≤ availableAt := by
    simpa only [max_le_iff] using ge_of_eq havailable
  refine ⟨hwatermarks, hemitted, hboundary, hseal, hcreated, fun e he => ?_⟩
  obtain ⟨ingestTime, hingest, hle⟩ := ingested_of_latest hlatest e he
  exact ⟨ingestTime, hingest, hle.trans hingested⟩

/-- A refused proof leaves the state, or the state fails closed. -/
theorem acceptVerifiedCloseProof_fails {clock : PyDatetime}
    (h : ¬ ∃ availableAt, Accepted config closeSha256 m.evidence args availableAt) :
    wp (acceptVerifiedCloseProof config casefold uuid5 closeSha256 clock args)
      (fun _ m' => m'.evidence = m.evidence ∨ Fails m m')
      (fun _ m' => m'.evidence = m.evidence ∨ Fails m m') m := by
  rw [acceptVerifiedCloseProof, wp_bind, wp_reads]
  refine ⟨fun _ hcontract => ?_, fun _ _ => .inl rfl⟩
  rw [raiseIf_eq_ok] at hcontract
  rw [wp_bind, wp_get]
  cases hterminal : m.evidence.snapshot.isTerminal with
  | true =>
    rw [if_pos rfl, wp_reads]
    exact ⟨fun _ _ => .inl rfl, fun _ _ => .inl rfl⟩
  | false =>
    rw [if_neg Bool.false_ne_true]
    cases hclose : m.evidence.runClosed with
    | none => exact .inl rfl
    | some runClosed =>
      have hclosed : m.evidence.runClosed ≠ none := by
        rw [hclose]
        exact Option.some_ne_none _
      have hfails : ∀ diagnostics, Fails m { m with evidence :=
          { m.evidence with snapshot := m.evidence.failedClosedSnapshot config diagnostics } } :=
        fun diagnostics => ⟨hterminal, hclosed, failsClosed_failedClosedSnapshot diagnostics⟩
      dsimp only
      by_cases hsame : runClosed ≠ args.acceptedRunClosed
      · rw [if_pos hsame, wp_bind, wp_failClosed, wp_throw]
        exact .inr (hfails _)
      rw [if_neg hsame]
      by_cases hcovered : m.evidence.chunkCoverageDiagnostics config ≠ []
      · rw [if_pos hcovered, wp_bind, wp_failClosed, wp_reads]
        exact ⟨fun _ _ => .inr (hfails _), fun _ _ => .inr (hfails _)⟩
      rw [if_neg hcovered, wp_bind, verifyClose, wp_bind, wp_get]
      cases hverified : m.evidence.validateClose config closeSha256 args with
      | ok accepted =>
        have haccepted : Accepted config closeSha256 m.evidence args accepted.2 :=
          ⟨hcontract, hterminal, hclose.trans (congrArg some (not_not.mp hsame)),
            not_not.mp hcovered, accepted.1, hverified⟩
        exact absurd ⟨accepted.2, haccepted⟩ h
      | error e =>
        dsimp only
        by_cases hcaught : isTypeOrValueError e = true
        · rw [if_pos hcaught, wp_bind, wp_failClosed, wp_throw]
          exact .inr (hfails _)
        · rw [if_neg hcaught, wp_throw]
          exact .inl rfl

/-- What a close proof leaves: the state, a state that failed closed, a final one, or, where the
call raises, a state with the proof that still runs. -/
theorem acceptVerifiedCloseProof_spec (clock : PyDatetime) :
    wp (acceptVerifiedCloseProof config casefold uuid5 closeSha256 clock args)
      (fun _ m' => m'.evidence = m.evidence ∨ Fails m m' ∨
        m.evidence.snapshot.isTerminal = false ∧ m'.evidence.inputs = m.evidence.inputs ∧
          ∃ given, Final config casefold uuid5 closeSha256 m'.evidence given)
      (fun _ m' => m'.evidence = m.evidence ∨ Fails m m' ∨
        m.evidence.snapshot.isTerminal = false ∧ m'.evidence.inputs = m.evidence.inputs ∧
          m'.evidence.snapshot = m.evidence.snapshot) m := by
  by_cases haccepted : ∃ availableAt, Accepted config closeSha256 m.evidence args availableAt
  · obtain ⟨availableAt, haccepted⟩ := haccepted
    obtain ⟨validation, hiff⟩ := @acceptVerifiedCloseProof_of_accepted D S config m _ casefold uuid5
      closeSha256 args clock availableAt haccepted
    obtain ⟨validation', hverified⟩ := haccepted.verified
    obtain ⟨hwatermarks, hfrontier⟩ := behindFrontier_of_validateClose hverified
    have hclosed : m.evidence.runClosed ≠ none := by
      rw [haccepted.close]
      exact Option.some_ne_none _
    rw [hiff]
    refine wp_mono (finalize_spec _) (fun _ m' h => .inr ?_) fun _ m' h => .inr ?_
    · rcases h with hfails | ⟨snapshot, readyAt, result, heq, hissues⟩
      · exact .inl ⟨haccepted.running, hclosed, hfails⟩
      · have hinputs : m'.evidence.inputs = m.evidence.inputs := by
          rw [heq]
          rfl
        refine .inr ⟨haccepted.running, hinputs, proofFinalization args availableAt clock, ?_, ?_,
          .proof clock ?_ ?_ ?_, readyAt, result, ?_⟩
        · rw [chunkCoverageDiagnostics_congr hinputs, haccepted.covered]
        · rw [requireWatermarkCoverage_congr hinputs]
          exact hwatermarks
        · rw [heq]
          rfl
        · rw [heq]
          exact haccepted.close
        · exact hfrontier.congr hinputs
        · exact hissues.of_eq heq
    · rcases h with hsame | hfails
      · refine .inr ⟨haccepted.running, ?_, ?_⟩
        · rw [hsame]
          rfl
        · rw [hsame]
          rfl
      · exact .inl ⟨haccepted.running, hclosed, hfails⟩
  · refine wp_mono (acceptVerifiedCloseProof_fails haccepted) (fun _ m' h => ?_) fun _ m' h => ?_
    · exact h.imp_right .inl
    · exact h.imp_right .inl

end CloseProof

/-- What a run end leaves: the state, a state that failed closed, or a final one. -/
theorem finalizeAtRunEnd_spec (runEnd : PyDatetime) :
    wp (finalizeAtRunEnd config casefold uuid5 closeSha256 runEnd :
        Method D S (IncrementalEvidenceSnapshot D))
      (fun _ m' => m'.evidence = m.evidence ∨ Fails m m' ∨
        m.evidence.snapshot.isTerminal = false ∧ m'.evidence.inputs = m.evidence.inputs ∧
          ∃ given, Final config casefold uuid5 closeSha256 m'.evidence given)
      (fun _ m' => m'.evidence = m.evidence ∨ Fails m m') m := by
  rw [finalizeAtRunEnd, wp_bind, wp_reads]
  refine ⟨fun runEnd _ => ?_, fun _ _ => .inl rfl⟩
  rw [wp_bind, wp_reads]
  refine ⟨fun _ _ => ?_, fun _ _ => .inl rfl⟩
  rw [wp_bind, wp_get]
  cases hterminal : m.evidence.snapshot.isTerminal with
  | true =>
    rw [if_pos rfl, wp_reads]
    exact ⟨fun _ _ => .inl rfl, fun _ _ => .inl rfl⟩
  | false =>
    rw [if_neg Bool.false_ne_true]
    by_cases hclosed : m.evidence.runClosed = none
    · rw [if_pos hclosed, wp_throw]
      exact .inl rfl
    rw [if_neg hclosed]
    by_cases hcovered : m.evidence.chunkCoverageDiagnostics config ≠ []
    · rw [if_pos hcovered, wp_setSnapshot]
      exact .inr (.inl ⟨hterminal, hclosed, rfl, rfl, rfl, rfl⟩)
    rw [if_neg hcovered, wp_bind, wp_reads]
    refine ⟨fun _ hwatermarks => ?_, fun _ _ => .inl rfl⟩
    refine wp_mono (finalize_spec _) (fun _ m' h => .inr ?_) fun _ m' h => ?_
    · rcases h with hfails | ⟨snapshot, availableAt, result, heq, hissues⟩
      · exact .inl ⟨hterminal, hclosed, hfails⟩
      · have hinputs : m'.evidence.inputs = m.evidence.inputs := by
          rw [heq]
          rfl
        refine .inr ⟨rfl, hinputs, runEndFinalization runEnd, ?_, ?_, .runEnd runEnd,
          availableAt, result, ?_⟩
        · rw [chunkCoverageDiagnostics_congr hinputs, not_not.mp hcovered]
        · rw [requireWatermarkCoverage_congr hinputs]
          exact hwatermarks
        · exact hissues.of_eq heq
    · exact h.imp_right fun hfails => ⟨hterminal, hclosed, hfails⟩

/-! ## One call -/

section Runs

variable [DecidableEq D] {sha256 : CanonicalPayload → D} {sink : DeadLetterSink S}
  {call : IncrementalCall D S} {s s' : IncrementalEvidenceState D}

variable (config casefold uuid5 closeSha256 sha256) in
/-- What one call can do to the state, whether it returns or raises. -/
inductive Effect (s s' : IncrementalEvidenceState D) : Prop
  | same (h : s' = s)
  | chunk {chunk : R1EventChunk D} (h : Records config sha256 s s' chunk)
  | close {runClosed : R1RunClosed} {snapshot : IncrementalEvidenceSnapshot D}
      (hnone : s.runClosed = none) (hcurrent : Current config s')
      (h : s' = { s with runClosed := some runClosed, snapshot })
  | proof (hrunning : s.snapshot.isTerminal = false) (hinputs : s'.inputs = s.inputs)
      (hsnapshot : s'.snapshot = s.snapshot)
  | fails (hrunning : s.snapshot.isTerminal = false) (hclosed : s.runClosed ≠ none)
      (hinputs : s'.inputs = s.inputs) (h : s'.FailedClosed)
  | final {given : FinalizeArguments} (hrunning : s.snapshot.isTerminal = false)
      (hinputs : s'.inputs = s.inputs) (h : Final config casefold uuid5 closeSha256 s' given)

theorem Fails.effect {m' : Machine D S} (h : Fails m m') :
    Effect config casefold uuid5 closeSha256 sha256 m.evidence m'.evidence :=
  .fails h.running h.closed h.fails.1 h.fails.2

variable (m call) in
/-- Every call has one of the effects. -/
theorem step_effect : Effect config casefold uuid5 closeSha256 sha256 m.evidence
    (step config casefold uuid5 closeSha256 sha256 sink m call).1.evidence := by
  cases call with
  | acceptChunk chunk now =>
    refine step_state rfl (I := fun m' =>
      Effect config casefold uuid5 closeSha256 sha256 m.evidence m'.evidence) ?_
    refine wp_mono (acceptChunk_spec sink now chunk) (fun _ m' h => ?_) fun _ m' h => .same h
    rcases h with hknown | hrecords
    · exact .same hknown.1
    · exact .chunk hrecords
  | acceptRunClosed runClosed =>
    refine step_state rfl (I := fun m' =>
      Effect config casefold uuid5 closeSha256 sha256 m.evidence m'.evidence) ?_
    refine wp_mono (acceptRunClosed_spec runClosed) (fun _ m' h => ?_) fun _ m' h => .same h
    rcases h with hsame | ⟨hnone, hcurrent, snapshot, heq⟩
    · exact .same hsame
    · exact .close hnone hcurrent heq
  | acceptVerifiedBoundary boundary =>
    refine step_state rfl (I := fun m' =>
      Effect config casefold uuid5 closeSha256 sha256 m.evidence m'.evidence) ?_
    exact wp_mono (acceptVerifiedBoundary_refused boundary) (fun _ _ h => h.elim) fun _ _ h =>
      .same (congrArg Machine.evidence h)
  | acceptVerifiedCloseProof args clock =>
    refine step_state rfl (I := fun m' =>
      Effect config casefold uuid5 closeSha256 sha256 m.evidence m'.evidence) ?_
    refine wp_mono (acceptVerifiedCloseProof_spec clock) (fun _ m' h => ?_) fun _ m' h => ?_
    · rcases h with hsame | hfails | ⟨hrunning, hinputs, given, hfinal⟩
      · exact .same hsame
      · exact hfails.effect
      · exact .final hrunning hinputs hfinal
    · rcases h with hsame | hfails | ⟨hrunning, hinputs, hsnapshot⟩
      · exact .same hsame
      · exact hfails.effect
      · exact .proof hrunning hinputs hsnapshot
  | finalizeAtRunEnd runEnd =>
    refine step_state rfl (I := fun m' =>
      Effect config casefold uuid5 closeSha256 sha256 m.evidence m'.evidence) ?_
    refine wp_mono (finalizeAtRunEnd_spec runEnd) (fun _ m' h => ?_) fun _ m' h => ?_
    · rcases h with hsame | hfails | ⟨hrunning, hinputs, given, hfinal⟩
      · exact .same hsame
      · exact hfails.effect
      · exact .final hrunning hinputs hfinal
    · rcases h with hsame | hfails
      · exact .same hsame
      · exact hfails.effect
  | moveIngress ingress => exact .same rfl

/-! ## What every call keeps -/

variable (config casefold uuid5 closeSha256) in
/-- Evidence is there only in a final state, and a terminal state has a close. -/
structure Sound (s : IncrementalEvidenceState D) : Prop where
  unissued : s.snapshot.status ≠ .finalized → s.snapshot.evidences = [] ∧ s.snapshot.availability = []
  closed : s.snapshot.isTerminal = true → s.runClosed ≠ none
  positive : ∀ item ∈ s.chunkSequenceIdentities, 1 ≤ item.1.2
  final : s.snapshot.status = .finalized → ∃ given, Final config casefold uuid5 closeSha256 s given

omit [DecidableEq D] in
/-- A gathering state is sound. -/
theorem Gathering.sound (h : Gathering s.snapshot)
    (hpositive : ∀ item ∈ s.chunkSequenceIdentities, 1 ≤ item.1.2) :
    Sound config casefold uuid5 closeSha256 s where
  unissued _ := ⟨h.evidences, h.availability⟩
  closed hterminal := by
    rw [h.running] at hterminal
    exact absurd hterminal (by simp)
  positive := hpositive
  final hfinal := absurd hfinal (not_finalized h.running)

/-- One call keeps the state sound. -/
theorem Sound.effect (hs : Sound config casefold uuid5 closeSha256 s)
    (h : Effect config casefold uuid5 closeSha256 sha256 s s') :
    Sound config casefold uuid5 closeSha256 s' := by
  have hkept : s'.inputs = s.inputs → ∀ item ∈ s'.chunkSequenceIdentities, 1 ≤ item.1.2 := by
    intro hinputs
    rw [chunkSequenceIdentities_congr hinputs]
    exact hs.positive
  cases h with
  | same h =>
    rw [h]
    exact hs
  | chunk h =>
    obtain ⟨updates, snapshot, -, rfl⟩ := h.recorded
    refine Gathering.sound h.current.gathering fun item hitem => ?_
    have hitem : item ∈ (s.record config sha256 _ updates).chunkSequenceIdentities := hitem
    rw [record_chunkSequenceIdentities] at hitem
    rcases Table.mem_upsert.mp hitem with rfl | ⟨hmem, -⟩
    · exact R1EventChunkPayload.chunkSequence_pos _
    · exact hs.positive item hmem
  | close hnone hcurrent h =>
    obtain rfl := h
    exact Gathering.sound hcurrent.gathering hs.positive
  | proof hrunning hinputs hsnapshot =>
    refine ⟨?_, fun hterminal => ?_, hkept hinputs, fun hfinal => ?_⟩
    · rw [hsnapshot]
      exact hs.unissued
    · rw [hsnapshot, hrunning] at hterminal
      exact absurd hterminal (by simp)
    · rw [hsnapshot] at hfinal
      exact absurd hfinal (not_finalized hrunning)
  | fails hrunning hclosed hinputs h =>
    refine ⟨fun _ => ⟨h.evidences, h.availability⟩, fun _ => ?_, hkept hinputs, fun hfinal => ?_⟩
    · rw [runClosed_congr hinputs]
      exact hclosed
    · rw [h.status] at hfinal
      exact absurd hfinal (by simp)
  | final hrunning hinputs h =>
    obtain ⟨availableAt, result, hissues⟩ := h.issues
    obtain ⟨availability, -, hsnapshot⟩ := hissues.issued
    refine ⟨fun hne => absurd ?_ hne, fun _ => ?_, hkept hinputs, fun _ => ⟨_, h⟩⟩
    · rw [hsnapshot]
      rfl
    · exact runClosed_of_requireWatermarkCoverage h.watermarks

/-- A terminal state with a close stays as it is. -/
theorem Sound.terminal (hs : Sound config casefold uuid5 closeSha256 s)
    (hterminal : s.snapshot.isTerminal = true)
    (h : Effect config casefold uuid5 closeSha256 sha256 s s') : s' = s := by
  have hnot : s.snapshot.isTerminal ≠ false := by
    rw [hterminal]
    exact Bool.true_eq_false_eq_False
  cases h with
  | same h => exact h
  | chunk h => exact absurd h.running hnot
  | close hnone hcurrent h => exact absurd hnone (hs.closed hterminal)
  | proof hrunning hinputs hsnapshot => exact absurd hrunning hnot
  | fails hrunning hclosed hinputs h => exact absurd hrunning hnot
  | final hrunning hinputs h => exact absurd hrunning hnot

omit [DecidableEq D] in
theorem sound_init (h : IncrementalEvidenceState.init config = .ok s) :
    Sound config casefold uuid5 closeSha256 s := by
  obtain ⟨snapshot, hsnapshot, hs⟩ := Except.bind_eq_ok.mp h
  obtain rfl := Except.pure_eq_ok.mp hs
  exact Gathering.sound (gathering_of_provisionalSnapshot hsnapshot) fun item hitem =>
    absurd hitem (Table.not_mem_empty item)

variable (config casefold uuid5 closeSha256 sha256 sink) in
/-- Every state that calls reach is sound. -/
theorem sound_after (hinit : IncrementalEvidenceState.init config = .ok s)
    (ingress : IngressState D S) (calls : List (IncrementalCall D S)) :
    Sound config casefold uuid5 closeSha256
      (after (step config casefold uuid5 closeSha256 sha256 sink) ⟨s, ingress⟩ calls).evidence :=
  run_induction _ (P := fun m => Sound config casefold uuid5 closeSha256 m.evidence)
    (fun m call h => h.effect (step_effect m call)) (sound_init hinit) calls

/-! ## Runs -/

variable (config) in
/-- The close has every chunk that it covers, and it reaches the boundary. -/
structure Covered (s : IncrementalEvidenceState D) (runClosed : R1RunClosed)
    (boundaryAt : UtcMillis) : Prop where
  close : s.runClosed = some runClosed
  boundary : s.snapshot.candidateBoundaryAt = some boundaryAt
  sequences : ∀ item ∈ runClosed.finalWatermarks, config.isRequiredPartitionKey item.partition = true →
    ∀ n, n ∈ s.acceptedSequences item.partition ↔ 1 ≤ n ∧ n ≤ item.coveredThroughChunkSequence
  sealed : ∀ item ∈ s.chunkSequenceIdentities, config.isRequiredPartitionKey item.1.1 = true →
    item.1.1 ∈ runClosed.finalWatermarks.map (·.partition)
  selected : ∃ item ∈ runClosed.finalWatermarks, config.isSelectorPartition item.partition = true
  reaches : ∀ item ∈ runClosed.finalWatermarks, config.isSelectorPartition item.partition = true →
    boundaryAt ≤ item.watermarkAt

omit [DecidableEq D] in
theorem mem_acceptedSequences {partition : R1StreamPartition} {n : Nat} :
    n ∈ s.acceptedSequences partition ↔
      ∃ item ∈ s.chunkSequenceIdentities, item.1.1 = partition ∧ item.1.2 = n := by
  rw [IncrementalEvidenceState.acceptedSequences, mem_sortedBy, List.mem_dedup, List.mem_map]
  simp only [List.mem_filter, decide_eq_true_eq, and_assoc]
  exact Iff.rfl

omit [DecidableEq D] in
/-- A watermark is without a diagnostic where it has its chunks. -/
theorem watermarkDiagnostics_eq_nil {item : R1FinalPartitionWatermark}
    (hpositive : ∀ item ∈ s.chunkSequenceIdentities, 1 ≤ item.1.2) :
    s.watermarkDiagnostics item = [] ↔
      ∀ n, n ∈ s.acceptedSequences item.partition ↔ 1 ≤ n ∧ n ≤ item.coveredThroughChunkSequence := by
  have hexcess : ((s.acceptedSequences item.partition).filter fun n =>
        item.coveredThroughChunkSequence < n) = [] ↔
      ∀ n ∈ s.acceptedSequences item.partition, n ≤ item.coveredThroughChunkSequence := by
    simp [List.filter_eq_nil_iff]
  have hmissing : ((List.range' 1 item.coveredThroughChunkSequence).filter fun n =>
        n ∉ s.acceptedSequences item.partition) = [] ↔
      ∀ n, 1 ≤ n → n ≤ item.coveredThroughChunkSequence → n ∈ s.acceptedSequences item.partition := by
    simp only [List.filter_eq_nil_iff, List.mem_range'_1, decide_not, Bool.not_eq_true',
      decide_eq_false_iff_not, not_not]
    exact forall_congr' fun n => ⟨fun h h1 hle => h ⟨h1, by omega⟩, fun h hn => h hn.1 (by omega)⟩
  have hnil : s.watermarkDiagnostics item = [] ↔
      ((s.acceptedSequences item.partition).filter fun n =>
        item.coveredThroughChunkSequence < n) = [] ∧
      ((List.range' 1 item.coveredThroughChunkSequence).filter fun n =>
        n ∉ s.acceptedSequences item.partition) = [] := by
    rw [IncrementalEvidenceState.watermarkDiagnostics, List.append_eq_nil_iff]
    refine and_congr ?_ ?_
    · split <;> simp_all
    · split <;> simp_all
  rw [hnil, hexcess, hmissing]
  constructor
  · rintro ⟨hexcess, hmissing⟩ n
    refine ⟨fun hn => ⟨?_, hexcess n hn⟩, fun hn => hmissing n hn.1 hn.2⟩
    obtain ⟨row, hrow, -, heq⟩ := mem_acceptedSequences.mp hn
    rw [← heq]
    exact hpositive row hrow
  · exact fun h => ⟨fun n hn => ((h n).mp hn).2, fun n hpos hle => (h n).mpr ⟨hpos, hle⟩⟩

omit [DecidableEq D] in
/-- A close is without a diagnostic where the chunks of the required partitions are those that it
covers. -/
theorem chunkCoverageDiagnostics_eq_nil {runClosed : R1RunClosed}
    (hclose : s.runClosed = some runClosed)
    (hpositive : ∀ item ∈ s.chunkSequenceIdentities, 1 ≤ item.1.2) :
    s.chunkCoverageDiagnostics config = [] ↔
      (∀ item ∈ runClosed.finalWatermarks, config.isRequiredPartitionKey item.partition = true →
        ∀ n, n ∈ s.acceptedSequences item.partition ↔
          1 ≤ n ∧ n ≤ item.coveredThroughChunkSequence) ∧
      ∀ item ∈ s.chunkSequenceIdentities, config.isRequiredPartitionKey item.1.1 = true →
        item.1.1 ∈ runClosed.finalWatermarks.map (·.partition) := by
  rw [IncrementalEvidenceState.chunkCoverageDiagnostics, hclose]
  dsimp only
  rw [List.append_eq_nil_iff, List.map_eq_nil_iff, List.filter_eq_nil_iff, List.flatMap_eq_nil_iff,
    and_comm]
  refine and_congr ?_ ?_
  · refine forall_congr' fun item => ?_
    rw [mem_sortedBy, List.mem_filter, watermarkDiagnostics_eq_nil hpositive, and_imp]
  · simp only [mem_sortedBy, List.mem_dedup, List.mem_filter, decide_not, Bool.not_eq_true',
      decide_eq_false_iff_not, not_not]
    constructor
    · intro h item hitem hrequired
      obtain ⟨final, hfinal, heq⟩ := List.mem_map.mp (h item.1.1
        ⟨List.mem_map_of_mem hitem, hrequired⟩)
      exact List.mem_map.mpr ⟨final, (List.mem_filter.mp hfinal).1, heq⟩
    · rintro h partition ⟨hmem, hrequired⟩
      obtain ⟨item, hitem, rfl⟩ := List.mem_map.mp hmem
      obtain ⟨final, hfinal, heq⟩ := List.mem_map.mp (h item hitem hrequired)
      refine List.mem_map.mpr ⟨final, List.mem_filter.mpr ⟨hfinal, ?_⟩, heq⟩
      rw [heq]
      exact hrequired

omit [DecidableEq D] in
/-- A final state is covered by its close. -/
theorem Final.covered_by_close {given : FinalizeArguments}
    (h : Final config casefold uuid5 closeSha256 s given)
    (hpositive : ∀ item ∈ s.chunkSequenceIdentities, 1 ≤ item.1.2) :
    ∃ runClosed, Covered config s runClosed given.boundaryAt := by
  obtain ⟨availableAt, result, hissues⟩ := h.issues
  obtain ⟨availability, -, hsnapshot⟩ := hissues.issued
  have hwatermarks := h.watermarks
  rw [IncrementalEvidenceState.requireWatermarkCoverage] at hwatermarks
  cases hclose : s.runClosed with
  | none =>
    rw [hclose] at hwatermarks
    exact absurd hwatermarks (by simp)
  | some runClosed =>
    rw [hclose] at hwatermarks
    dsimp only at hwatermarks
    obtain ⟨hsequences, hsealed⟩ := (chunkCoverageDiagnostics_eq_nil hclose hpositive).mp h.covered
    obtain ⟨hne, hwatermarks⟩ := raiseIf_bind_eq_ok.mp hwatermarks
    have hreaches := raiseIf_eq_ok.mp hwatermarks
    obtain ⟨item, hitem⟩ := List.exists_mem_of_ne_nil _ hne
    obtain ⟨hmem, hselector⟩ := List.mem_filter.mp hitem
    refine ⟨runClosed, hclose, ?_, hsequences, hsealed, ⟨item, hmem, hselector⟩,
      fun item hitem hselector => ?_⟩
    · rw [hsnapshot]
      rfl
    · by_contra hlt
      exact hreaches ⟨item, List.mem_filter.mpr ⟨hitem, hselector⟩, not_le.mp hlt⟩

/-- Evidence, with its availability: of a close that was proved, it is not available before
anything that it depends on. -/
structure Causal (s : IncrementalEvidenceState D) (boundaryAt availableAt : UtcMillis) : Prop where
  boundary : s.snapshot.candidateBoundaryAt = some boundaryAt
  available : s.snapshot.availableAt = some availableAt
  boundary_le : boundaryAt ≤ availableAt
  timely : ∀ e ∈ s.snapshot.evidences, e.timestamp ≤ availableAt * 1000
  availability : s.snapshot.availability.map (·.val) = s.snapshot.evidences.map
    (availabilityOf availableAt ((s.snapshot.lineageInput.map (·.val.contextEventIds)).getD []))
  frontier : s.snapshot.closeMode = some .authoritativeRunEndFallback ∨
    s.snapshot.closeMode = some .verifiedCloseProof ∧ ∃ args : CloseProofArguments D,
      s.verifiedProof = some args.proof ∧ s.runClosed = some args.acceptedRunClosed ∧
        BehindFrontier s args availableAt

omit [DecidableEq D] in
theorem BehindFrontier.mono {args : CloseProofArguments D} {availableAt readyAt : UtcMillis}
    (h : BehindFrontier s args availableAt) (hle : availableAt ≤ readyAt) :
    BehindFrontier s args readyAt where
  emitted := h.emitted.trans hle
  boundary := h.boundary.trans hle
  verifiedSeal := h.verifiedSeal.trans hle
  proofCreated := h.proofCreated.trans hle
  ingested e he := by
    obtain ⟨ingestTime, hingest, hbefore⟩ := h.ingested e he
    exact ⟨ingestTime, hingest, hbefore.trans hle⟩

omit [DecidableEq D] in
/-- The Evidence of a final state is causal. -/
theorem Final.causal {given : FinalizeArguments}
    (h : Final config casefold uuid5 closeSha256 s given) :
    ∃ availableAt, Causal s given.boundaryAt availableAt := by
  obtain ⟨availableAt, result, hissues⟩ := h.issues
  obtain ⟨availability, hmapM, hsnapshot⟩ := hissues.issued
  have havailability := map_of_mapM (fun _ _ => val_of_construct) hmapM
  have hboundary : given.boundaryAt ≤ availableAt := by
    refine le_trans ?_ hissues.frontier
    cases h.finalizedBy with
    | runEnd runEnd => exact le_rfl
    | proof clock hproof hclose hfrontier => exact hfrontier.boundary
  have hfrontier : given.closeMode = .authoritativeRunEndFallback ∨
      given.closeMode = .verifiedCloseProof ∧ ∃ args : CloseProofArguments D,
        s.verifiedProof = some args.proof ∧ s.runClosed = some args.acceptedRunClosed ∧
          BehindFrontier s args availableAt := by
    have hready := hissues.frontier
    cases h.finalizedBy with
    | runEnd runEnd => exact .inl rfl
    | proof clock hproof hclose hfrontier =>
      exact .inr ⟨rfl, _, hproof, hclose, hfrontier.mono hready⟩
  refine ⟨availableAt, ?_, ?_, hboundary, ?_, ?_, ?_⟩
  · rw [hsnapshot]
    rfl
  · rw [hsnapshot]
    rfl
  · rw [hsnapshot]
    exact hissues.timely
  · rw [hsnapshot]
    exact havailability
  · rw [hsnapshot]
    exact hfrontier.imp (congrArg some) (And.imp_left (congrArg some))

omit [DecidableEq D] in
/-- Evidence and its availability are there only in a final state. -/
theorem Sound.finalized_of_issued (hs : Sound config casefold uuid5 closeSha256 s)
    (hissued : s.snapshot.evidences ≠ [] ∨ s.snapshot.availability ≠ []) :
    s.snapshot.status = .finalized := by
  by_contra hstatus
  obtain ⟨hevidences, havailability⟩ := hs.unissued hstatus
  exact hissued.elim (absurd hevidences) (absurd havailability)

omit [DecidableEq D] in
/-- A final state is covered by the close that it has. -/
theorem Sound.exists_covered (hs : Sound config casefold uuid5 closeSha256 s)
    (hfinal : s.snapshot.status = .finalized) :
    ∃ runClosed boundaryAt, Covered config s runClosed boundaryAt := by
  obtain ⟨given, hgiven⟩ := hs.final hfinal
  obtain ⟨runClosed, hcovered⟩ := hgiven.covered_by_close hs.positive
  exact ⟨runClosed, given.boundaryAt, hcovered⟩

variable (config casefold uuid5 closeSha256 sha256 sink)

/-- Calls leave a sound terminal state as it is. -/
theorem after_of_terminal {m : Machine D S} (hs : Sound config casefold uuid5 closeSha256 m.evidence)
    (hterminal : m.evidence.snapshot.isTerminal = true) (calls : List (IncrementalCall D S)) :
    (after (step config casefold uuid5 closeSha256 sha256 sink) m calls).evidence = m.evidence := by
  refine run_induction _ (P := fun m' : Machine D S => m'.evidence = m.evidence)
    (fun m' call h => ?_) rfl calls
  rw [← h] at hs hterminal
  exact (hs.terminal hterminal (step_effect m' call)).trans h

/-- In every state that calls reach, in any order and whether they return or raise, Evidence is
there only where the state is finalized; a state that is finalized or failed closed has a close;
and where it is finalized, exactly the chunks of the required partitions are accepted that the
close covers, and the watermarks of the selector partitions reach the boundary. -/
theorem incrementalCalls_sound (hinit : IncrementalEvidenceState.init config = .ok s)
    (ingress : IngressState D S) (calls : List (IncrementalCall D S)) :
    let s' := (after (step config casefold uuid5 closeSha256 sha256 sink) ⟨s, ingress⟩ calls).evidence
    (s'.snapshot.evidences ≠ [] ∨ s'.snapshot.availability ≠ [] →
        s'.snapshot.status = .finalized) ∧
      (s'.snapshot.isTerminal = true → s'.runClosed ≠ none) ∧
      (s'.snapshot.status = .finalized →
        ∃ runClosed boundaryAt, Covered config s' runClosed boundaryAt) := by
  have hsound := sound_after config casefold uuid5 closeSha256 sha256 sink hinit ingress calls
  exact ⟨hsound.finalized_of_issued, hsound.closed, hsound.exists_covered⟩

/-- Where calls have finalized the state, its Evidence is not after its availability, every
Evidence has one record of availability with its ids, and where a close proof finalized it, the
availability is not before the close, the boundary, the seal, the proof and the ingestion of any
buffered Event. -/
theorem incrementalCalls_causal (hinit : IncrementalEvidenceState.init config = .ok s)
    (ingress : IngressState D S) (calls : List (IncrementalCall D S))
    (hfinal : (after (step config casefold uuid5 closeSha256 sha256 sink) ⟨s, ingress⟩
      calls).evidence.snapshot.status = .finalized) :
    ∃ boundaryAt availableAt, Causal (after (step config casefold uuid5 closeSha256 sha256 sink)
      ⟨s, ingress⟩ calls).evidence boundaryAt availableAt := by
  have hsound := sound_after config casefold uuid5 closeSha256 sha256 sink hinit ingress calls
  obtain ⟨given, hgiven⟩ := hsound.final hfinal
  exact ⟨given.boundaryAt, hgiven.causal⟩

/-- Once calls have finalized the state or it failed closed, no later call changes it, in any order
and whether it returns or raises. -/
theorem incrementalCalls_terminal (hinit : IncrementalEvidenceState.init config = .ok s)
    (ingress : IngressState D S) (before since : List (IncrementalCall D S))
    (hterminal : (after (step config casefold uuid5 closeSha256 sha256 sink) ⟨s, ingress⟩
      before).evidence.snapshot.isTerminal = true) :
    (after (step config casefold uuid5 closeSha256 sha256 sink) ⟨s, ingress⟩
        (before ++ since)).evidence =
      (after (step config casefold uuid5 closeSha256 sha256 sink) ⟨s, ingress⟩ before).evidence := by
  rw [after_append]
  exact after_of_terminal config casefold uuid5 closeSha256 sha256 sink
    (sound_after config casefold uuid5 closeSha256 sha256 sink hinit ingress before) hterminal since

/-- The state fails closed: whatever calls came, Evidence is there only where it is finalized, a
terminal state has a close, a finalized one is covered by it up to its boundary, and whatever calls
come after a terminal state leave its snapshot. -/
theorem incrementalCalls_failClosed (hinit : IncrementalEvidenceState.init config = .ok s)
    (ingress : IngressState D S) (calls : List (IncrementalCall D S)) :
    let m := after (step config casefold uuid5 closeSha256 sha256 sink) ⟨s, ingress⟩ calls
    (m.evidence.snapshot.evidences ≠ [] → m.evidence.snapshot.status = .finalized) ∧
      (m.evidence.snapshot.isTerminal = true → m.evidence.runClosed ≠ none) ∧
      (m.evidence.snapshot.status = .finalized →
        ∃ runClosed boundaryAt, Covered config m.evidence runClosed boundaryAt) ∧
      (m.evidence.snapshot.isTerminal = true → ∀ later : List (IncrementalCall D S),
        (after (step config casefold uuid5 closeSha256 sha256 sink) m later).evidence.snapshot =
          m.evidence.snapshot) := by
  have hsound := sound_after config casefold uuid5 closeSha256 sha256 sink hinit ingress calls
  refine ⟨fun hissued => hsound.finalized_of_issued (.inl hissued), hsound.closed,
    hsound.exists_covered, fun hterminal later => ?_⟩
  rw [after_of_terminal config casefold uuid5 closeSha256 sha256 sink hsound hterminal later]

end Runs

/-! ## A run that is finalized -/

namespace Sample

/-- A chunk whose payload is its digest. -/
def chunkOf (payload : R1EventChunkPayload) : R1EventChunk CanonicalPayload :=
  { payload with chunkContentSha256 := .chunk payload }

/-- The start and the connection of the shell. -/
def wholeChunk : R1EventChunk CanonicalPayload := chunkOf wholePayload

/-- The state before any chunk. -/
def gathering : IncrementalEvidenceState CanonicalPayload :=
  .empty { status := .accumulating, selectorResult := ⟨none, [.emptyEventBatch]⟩ }

theorem init_gathering : IncrementalEvidenceState.init sampleConfig = .ok gathering := rfl

/-- The hash of a close, which a run end does not ask for. -/
def unasked (_ : ClosePayload CanonicalPayload) : CanonicalPayload := .event launched

/-- One call, with payloads as their digests. -/
abbrev payloadStep : Machine CanonicalPayload Unit → IncrementalCall CanonicalPayload Unit →
    Machine CanonicalPayload Unit ×
      Except PyError (Option (IncrementalEvidenceSnapshot CanonicalPayload)) :=
  step sampleConfig Evidence.Sample.lower Evidence.Sample.sampleUuid5 unasked id Stream.Sample.discard

/-- One chunk, its close and the run end. -/
def wholeCalls : List (IncrementalCall CanonicalPayload Unit) :=
  [.acceptChunk wholeChunk clock, .acceptRunClosed runClose,
    .finalizeAtRunEnd (PyDatetime.utcMillis 2000)]

theorem whole_finalized : (after payloadStep ⟨gathering, ⟨.empty, ()⟩⟩
    wholeCalls).evidence.snapshot.status = .finalized := by
  decide +kernel

theorem proven_finalized : (after sampleStep ⟨initial, ⟨.empty, ()⟩⟩
    provenCalls).evidence.snapshot.status = .finalized := by
  decide +kernel

theorem otherHostId_ne_empty : "host-b" ≠ "" := by decide

theorem otherHostId_not_padded : isPadded "host-b" = false := by decide

/-- The watermark of another host of the run. -/
def otherWatermark : R1SourceWatermark :=
  { Stream.Sample.watermark₁ with
    partition := { Stream.Sample.partition with
      hostId := ⟨"host-b", otherHostId_ne_empty, otherHostId_not_padded⟩ } }

/-- The final watermarks of both hosts. -/
def bothFinals : List R1FinalPartitionWatermark :=
  [Stream.Sample.final Stream.Sample.watermark₁, Stream.Sample.final otherWatermark]

theorem bothFinals_nodup : (bothFinals.map (·.partition)).Nodup := by decide

theorem bothFinals_scope : ∀ w ∈ bothFinals, w.partition.runId = Stream.Sample.runId := by decide

/-- The close of the run with both hosts. -/
def bothClose : R1RunClosed :=
  { runClose with
    finalWatermarks := bothFinals
    finalWatermarks_ne_nil := List.cons_ne_nil _ _
    partitions_nodup := bothFinals_nodup
    partitions_scope := bothFinals_scope }

/-- The chunk of one host, the close of both and the run end. -/
def bothCalls : List (IncrementalCall CanonicalPayload Unit) :=
  [.acceptChunk wholeChunk clock, .acceptRunClosed bothClose,
    .finalizeAtRunEnd (PyDatetime.utcMillis 2000)]

theorem both_finalized :
    let s' := (after payloadStep ⟨gathering, ⟨.empty, ()⟩⟩ bothCalls).evidence
    s'.snapshot.status = .finalized ∧ s'.runClosed = some bothClose ∧
      1 ∉ s'.acceptedSequences otherWatermark.partition := by
  decide +kernel

end Sample

theorem incrementalCalls_sound_sample :
    let s' := (after Sample.payloadStep ⟨Sample.gathering, ⟨.empty, ()⟩⟩ Sample.wholeCalls).evidence
    ∃ runClosed boundaryAt, Covered Sample.sampleConfig s' runClosed boundaryAt :=
  (incrementalCalls_sound Sample.sampleConfig Evidence.Sample.lower Evidence.Sample.sampleUuid5
    Sample.unasked id Stream.Sample.discard Sample.init_gathering ⟨.empty, ()⟩
    Sample.wholeCalls).2.2 Sample.whole_finalized

/-- Of a run that a verified close proof finalizes. -/
theorem incrementalCalls_causal_sample :
    ∃ boundaryAt availableAt, Causal (after Sample.sampleStep ⟨Sample.initial, ⟨.empty, ()⟩⟩
      Sample.provenCalls).evidence boundaryAt availableAt :=
  incrementalCalls_causal Sample.sampleConfig Evidence.Sample.lower Evidence.Sample.sampleUuid5
    Seal.Sample.closeSha256 Sample.sha256 Stream.Sample.discard Sample.init_eq ⟨.empty, ()⟩
    Sample.provenCalls Sample.proven_finalized

theorem incrementalCalls_terminal_sample :
    (after Sample.payloadStep ⟨Sample.gathering, ⟨.empty, ()⟩⟩
        (Sample.wholeCalls ++ Sample.wholeCalls)).evidence =
      (after Sample.payloadStep ⟨Sample.gathering, ⟨.empty, ()⟩⟩ Sample.wholeCalls).evidence :=
  incrementalCalls_terminal Sample.sampleConfig Evidence.Sample.lower Evidence.Sample.sampleUuid5
    Sample.unasked id Stream.Sample.discard Sample.init_gathering ⟨.empty, ()⟩ Sample.wholeCalls
    Sample.wholeCalls (isTerminal_of_finalized Sample.whole_finalized)

/-- A finalized run, and the calls of it again. -/
theorem incrementalCalls_failClosed_sample :
    let m := after Sample.payloadStep ⟨Sample.gathering, ⟨.empty, ()⟩⟩ Sample.wholeCalls
    (∃ runClosed boundaryAt, Covered Sample.sampleConfig m.evidence runClosed boundaryAt) ∧
      (after Sample.payloadStep m Sample.wholeCalls).evidence.snapshot = m.evidence.snapshot := by
  have hlaw := incrementalCalls_failClosed Sample.sampleConfig Evidence.Sample.lower
    Evidence.Sample.sampleUuid5 Sample.unasked id Stream.Sample.discard Sample.init_gathering
    ⟨.empty, ()⟩ Sample.wholeCalls
  exact ⟨hlaw.2.2.1 Sample.whole_finalized,
    hlaw.2.2.2 (isTerminal_of_finalized Sample.whole_finalized) Sample.wholeCalls⟩

/-- A close that covers a chunk of another host finalizes the run without that chunk. -/
theorem incrementalCalls_failClosed_fails :
    let s' := (after Sample.payloadStep ⟨Sample.gathering, ⟨.empty, ()⟩⟩ Sample.bothCalls).evidence
    s'.snapshot.status = .finalized ∧
      ¬ ∀ runClosed, s'.runClosed = some runClosed → ∀ item ∈ runClosed.finalWatermarks, ∀ n,
        n ∈ s'.acceptedSequences item.partition ↔
          1 ≤ n ∧ n ≤ item.coveredThroughChunkSequence := by
  obtain ⟨hfinal, hclose, habsent⟩ := Sample.both_finalized
  refine ⟨hfinal, fun hcovered => habsent ?_⟩
  have hlast : Stream.Sample.final Sample.otherWatermark ∈ Sample.bothFinals :=
    List.mem_cons_of_mem _ List.mem_cons_self
  exact (hcovered _ hclose _ hlast 1).mpr (by decide)

end IncidentAwareness.Incremental
