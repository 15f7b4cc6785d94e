import IncidentAwareness.Incremental.Batch
import IncidentAwareness.Lib.Related

/-!
# What the order of the chunks leaves behind

The tables of the state are dictionaries, which keep the order of their insertions. What the
calls read of them does not depend on it.

* `SameContents`: two states with the same rows, close, close proof and snapshot;
* `step_sameMachine`: a call gives one answer to both and leaves them with the same contents;
* `Held`: the tables are a function of the set of the accepted chunks;
* `incrementalCalls_forgetOrder`: after runs that accepted the same chunks, whatever their
  order and redelivery, every later run of calls has the same answers.
-/

namespace IncidentAwareness.Incremental

open IncidentAwareness.Common IncidentAwareness.Lib IncidentAwareness.Stream
open IncidentAwareness.Evidence IncidentAwareness.Seal

variable {D S α : Type} {config : IncrementalConfig} {casefold : String → String}
  {uuid5 : List IdentityPart → String} {closeSha256 : ClosePayload D → D}
  {sha256 : CanonicalPayload → D} {s s' : IncrementalEvidenceState D}
  {accepted accepted' : List R1EventChunkPayload}

/-! ## States with the same contents -/

/-- The chunks, the Events and the close are the same, in whichever order they came. -/
structure SameTables (s s' : IncrementalEvidenceState D) : Prop where
  eventsByIdentity : SameRows s.eventsByIdentity s'.eventsByIdentity
  eventHashes : SameRows s.eventHashes s'.eventHashes
  chunkHashes : SameRows s.chunkHashes s'.chunkHashes
  chunkSequenceIdentities : SameRows s.chunkSequenceIdentities s'.chunkSequenceIdentities
  chunksByIdentity : SameRows s.chunksByIdentity s'.chunksByIdentity
  runClosed : s.runClosed = s'.runClosed

/-- The states differ in no more than the order of their tables. -/
structure SameContents (s s' : IncrementalEvidenceState D) : Prop extends SameTables s s' where
  verifiedProof : s.verifiedProof = s'.verifiedProof
  proofValidation : s.proofValidation = s'.proofValidation
  acceptedCloseReceipt : s.acceptedCloseReceipt = s'.acceptedCloseReceipt
  candidatePolicy : s.candidatePolicy = s'.candidatePolicy
  snapshot : s.snapshot = s'.snapshot

theorem Dict.find_congr {κ ν : Type} [DecidableEq κ] {d d' : Dict κ ν} (h : SameRows d d')
    (key : κ) : d.find key = d'.find key := by
  rw [Dict.find, Dict.find, h.get]

theorem RunId.eq_of_val {a b : RunId} (h : a.val = b.val) : a = b := by
  cases a
  cases b
  simpa using h

theorem partitionKey_injective : Function.Injective partitionKey := by
  intro p q h
  obtain ⟨hrun, h⟩ := Prod.mk.inj (congrArg ofLex h)
  obtain ⟨hhost, h⟩ := Prod.mk.inj (congrArg ofLex h)
  obtain ⟨hsource, hchannel⟩ := Prod.mk.inj (congrArg ofLex h)
  cases p
  cases q
  rw [R1StreamPartition.mk.injEq]
  exact ⟨RunId.eq_of_val hrun, Identifier.ext hhost, Identifier.ext hsource, Identifier.ext hchannel⟩

namespace SameTables

variable (h : SameTables s s')

include h

theorem orderedEvents : s.orderedEvents = s'.orderedEvents := by
  refine congrArg (List.map Prod.snd) (sortedBy_eq_of_perm ?_ h.eventsByIdentity.perm)
  intro a ha b hb hkey
  obtain ⟨-, hkey⟩ := Prod.mk.inj (congrArg ofLex hkey)
  obtain ⟨-, hkey⟩ := Prod.mk.inj (congrArg ofLex hkey)
  obtain ⟨hpartition, hid⟩ := Prod.mk.inj hkey
  have hidentity : a.1 = b.1 := Prod.ext (partitionKey_injective hpartition) hid
  exact Table.eq_of_conflict ha hb hidentity

theorem acceptedSequences (partition : R1StreamPartition) :
    s.acceptedSequences partition = s'.acceptedSequences partition := by
  refine sortedBy_eq_of_mem_iff (fun _ _ _ _ heq => heq) (List.nodup_dedup _) (List.nodup_dedup _) ?_
  intro n
  rw [List.mem_dedup, List.mem_dedup]
  exact ((h.chunkSequenceIdentities.perm.filter _).map _).mem_iff

theorem watermarkDiagnostics (item : R1FinalPartitionWatermark) :
    s.watermarkDiagnostics item = s'.watermarkDiagnostics item := by
  simp only [IncrementalEvidenceState.watermarkDiagnostics, h.acceptedSequences]

theorem chunkCoverageDiagnostics :
    s.chunkCoverageDiagnostics config = s'.chunkCoverageDiagnostics config := by
  have hwatermark : s.watermarkDiagnostics = s'.watermarkDiagnostics := funext h.watermarkDiagnostics
  have haccepted : sortedBy partitionKey (((s.chunkSequenceIdentities.rows.map fun item =>
        item.1.1).filter config.isRequiredPartitionKey).dedup) =
      sortedBy partitionKey (((s'.chunkSequenceIdentities.rows.map fun item =>
        item.1.1).filter config.isRequiredPartitionKey).dedup) := by
    refine sortedBy_eq_of_mem_iff (fun _ _ _ _ heq => partitionKey_injective heq)
      (List.nodup_dedup _) (List.nodup_dedup _) fun partition => ?_
    rw [List.mem_dedup, List.mem_dedup]
    exact ((h.chunkSequenceIdentities.perm.map _).filter _).mem_iff
  simp only [IncrementalEvidenceState.chunkCoverageDiagnostics, h.runClosed, hwatermark, haccepted]

theorem provisionalSnapshot (diagnostics : List String) :
    s.provisionalSnapshot config diagnostics = s'.provisionalSnapshot config diagnostics := by
  simp only [IncrementalEvidenceState.provisionalSnapshot, h.orderedEvents]

theorem requireWatermarkCoverage (boundaryAt : UtcMillis) :
    s.requireWatermarkCoverage config boundaryAt =
      s'.requireWatermarkCoverage config boundaryAt := by
  simp only [IncrementalEvidenceState.requireWatermarkCoverage, h.runClosed]

theorem latestVerifiedInputIngestTime :
    s.latestVerifiedInputIngestTime config = s'.latestVerifiedInputIngestTime config := by
  simp only [IncrementalEvidenceState.latestVerifiedInputIngestTime, h.orderedEvents]

theorem finalizedEvents (eventCutoff : Option UtcMillis) :
    s.finalizedEvents eventCutoff = s'.finalizedEvents eventCutoff := by
  simp only [IncrementalEvidenceState.finalizedEvents, IncrementalEvidenceState.eligibleEvents,
    h.orderedEvents]

variable [DecidableEq D]

theorem validateClose (args : CloseProofArguments D) :
    s.validateClose config closeSha256 args = s'.validateClose config closeSha256 args := by
  simp only [IncrementalEvidenceState.validateClose, h.requireWatermarkCoverage,
    h.latestVerifiedInputIngestTime]

theorem isKnownChunk (chunk : R1EventChunk D) :
    s.isKnownChunk sha256 chunk = s'.isKnownChunk sha256 chunk := by
  simp only [IncrementalEvidenceState.isKnownChunk, Dict.find_congr h.chunkHashes]

theorem eventUpdate (partition : R1StreamPartition) (e : NormalizedEvent) :
    s.eventUpdate sha256 partition e = s'.eventUpdate sha256 partition e := by
  simp only [IncrementalEvidenceState.eventUpdate, Dict.find_congr h.eventHashes]

theorem eventUpdates (hsnapshot : s.snapshot = s'.snapshot) (chunk : R1EventChunk D) :
    s.eventUpdates sha256 chunk = s'.eventUpdates sha256 chunk := by
  have hupdate : s.eventUpdate sha256 chunk.partition = s'.eventUpdate sha256 chunk.partition :=
    funext fun e => h.eventUpdate chunk.partition e
  simp only [IncrementalEvidenceState.eventUpdates,
    IncrementalEvidenceState.validateChunkAfterRunClosed, hsnapshot, h.runClosed,
    Dict.find_congr h.chunkSequenceIdentities, hupdate]

end SameTables

/-- What is read from the tables and the snapshot of a running state. -/
theorem SameTables.snapshot_eq (h : SameTables s s')
    (hs : s.provisionalSnapshot config (s.chunkCoverageDiagnostics config) = .ok s.snapshot)
    (hs' : s'.provisionalSnapshot config (s'.chunkCoverageDiagnostics config) = .ok s'.snapshot) :
    s.snapshot = s'.snapshot := by
  rw [← h.chunkCoverageDiagnostics, ← h.provisionalSnapshot, hs] at hs'
  exact Except.ok.inj hs'

/-! ## The calls do not tell them apart -/

/-- The states have the same contents, beside two ingresses. -/
structure Beside (i i' : IngressState D S) (m m' : Machine D S) : Prop where
  evidence : SameContents m.evidence m'.evidence
  left : m.ingress = i
  right : m'.ingress = i'

/-- The states have the same contents, and the ingress is the same. -/
structure SameMachine (m m' : Machine D S) : Prop where
  evidence : SameContents m.evidence m'.evidence
  ingress : m.ingress = m'.ingress

/-- A program that leaves the ingress alone. -/
theorem respects_of_beside {x : Method D S α}
    (hx : ∀ i i' : IngressState D S, Respects (Beside i i') x) : Respects SameMachine x := by
  intro m m' h
  have hlike := hx m.ingress m'.ingress m m' ⟨h.evidence, rfl, rfl⟩
  cases hm : x.run m with
  | ok a n =>
    cases hm' : x.run m' with
    | ok b n' =>
      rw [hm, hm'] at hlike
      obtain ⟨hab, hn⟩ := hlike
      exact ⟨hab, hn.evidence, hn.left.trans (h.ingress.trans hn.right.symm)⟩
    | error e n' =>
      rw [hm, hm'] at hlike
      exact hlike.elim
  | error e n =>
    cases hm' : x.run m' with
    | ok b n' =>
      rw [hm, hm'] at hlike
      exact hlike.elim
    | error e' n' =>
      rw [hm, hm'] at hlike
      obtain ⟨hee, hn⟩ := hlike
      exact ⟨hee, hn.evidence, hn.left.trans (h.ingress.trans hn.right.symm)⟩

section Close

variable (i i' : IngressState D S)

theorem respects_update {change : IncrementalEvidenceState D → IncrementalEvidenceState D}
    (h : ∀ s s', SameContents s s' → SameContents (change s) (change s')) :
    Respects (Beside i i') (update change) :=
  respects_modify fun _ _ hm => ⟨h _ _ hm.evidence, hm.left, hm.right⟩

theorem respects_setSnapshot (snapshot : IncrementalEvidenceSnapshot D) :
    Respects (Beside i i') (setSnapshot snapshot) := by
  refine respects_bind (respects_update i i' fun _ _ h => ?_) fun _ => respects_pure _
  exact { h with snapshot := rfl }

theorem failedClosedSnapshot_congr (h : s.snapshot = s'.snapshot) (diagnostics : List String) :
    s.failedClosedSnapshot config diagnostics = s'.failedClosedSnapshot config diagnostics := by
  simp only [IncrementalEvidenceState.failedClosedSnapshot, h]

/-- The states with other snapshots. -/
theorem SameContents.withSnapshot (h : SameContents s s') {snapshot : IncrementalEvidenceSnapshot D}
    {snapshot' : IncrementalEvidenceSnapshot D} (hsnapshot : snapshot = snapshot') :
    SameContents { s with snapshot } { s' with snapshot := snapshot' } :=
  { h with snapshot := hsnapshot }

theorem respects_failClosed (diagnostics : List String) :
    Respects (Beside i i') (failClosed config diagnostics) :=
  respects_update i i' fun _ _ h =>
    h.withSnapshot (failedClosedSnapshot_congr h.snapshot diagnostics)

theorem respects_refreshSnapshot : Respects (Beside i i') (refreshSnapshot config) := by
  refine respects_bind (respects_reads fun m m' h => ?_) fun snapshot =>
    respects_setSnapshot i i' snapshot
  rw [h.evidence.chunkCoverageDiagnostics, h.evidence.provisionalSnapshot]

theorem respects_acceptRunClosed (runClosed : R1RunClosed) :
    Respects (Beside i i') (acceptRunClosed config runClosed) := by
  refine respects_bind (respects_reads fun _ _ _ => rfl) fun _ => ?_
  refine respects_get_bind (fun m m' h => ?_) fun m => ?_
  · simp only [h.evidence.runClosed, h.evidence.snapshot]
  · split
    · exact respects_bind (respects_reads fun _ _ _ => rfl) fun _ => respects_pure _
    · refine respects_bind (respects_reads fun _ _ _ => rfl) fun _ => ?_
      refine respects_bind (respects_update i i' fun _ _ h => ?_) fun _ =>
        respects_refreshSnapshot i i'
      exact { h with runClosed := rfl }

theorem respects_observeReadyAt (clock : PyDatetime) (availableAt : UtcMillis) :
    Respects (Beside i i') (observeReadyAt config clock availableAt) := by
  refine respects_bind (respects_reads fun _ _ _ => rfl) fun reading => ?_
  cases reading with
  | error e =>
    dsimp only
    split
    · exact respects_bind (respects_failClosed i i' _) fun _ => respects_throw e
    · exact respects_throw e
  | ok readyAt =>
    dsimp only
    split
    · exact respects_bind (respects_failClosed i i' _) fun _ => respects_throw _
    · exact respects_pure (readyAt / 1000)

theorem respects_finalize (args : FinalizeArguments) :
    Respects (Beside i i') (finalize config casefold uuid5 closeSha256 args) := by
  refine respects_bind (respects_reads fun m m' h => ?_) fun result => ?_
  · rw [h.evidence.finalizedEvents]
  split
  · exact respects_setSnapshot i i' _
  have htime : Respects (Beside i i') (publicationTime config args) := by
    rw [publicationTime]
    cases args.clock with
    | none => exact respects_pure _
    | some clock => exact respects_observeReadyAt i i' clock args.availableAt
  refine respects_bind htime fun availableAt => ?_
  split
  · exact respects_setSnapshot i i' _
  refine respects_bind (respects_reads fun _ _ _ => rfl) fun availability => ?_
  refine respects_get_bind (fun m m' h => ?_) fun m => respects_setSnapshot i i' _
  simp only [finalizedSnapshot, h.evidence.verifiedProof]

variable [DecidableEq D]

theorem SameContents.replayProof (h : SameContents s s') (args : CloseProofArguments D) :
    s.replayProof args = s'.replayProof args := by
  simp only [IncrementalEvidenceState.replayProof, h.verifiedProof, h.runClosed,
    h.acceptedCloseReceipt, h.candidatePolicy, h.proofValidation, h.snapshot]

theorem respects_verifyClose (args : CloseProofArguments D) :
    Respects (Beside i i') (verifyClose config closeSha256 args) := by
  refine respects_get_bind (fun m m' h => ?_) fun m => ?_
  · simp only [h.evidence.validateClose]
  · split
    · exact respects_pure _
    · split
      · exact respects_bind (respects_failClosed i i' _) fun _ => respects_throw _
      · exact respects_throw _

omit [DecidableEq D] in
theorem respects_recordProof (args : CloseProofArguments D)
    (validation : R1Role2VerifiedCloseProofValidation D) :
    Respects (Beside i i') (recordProof args validation) := by
  refine respects_bind (respects_update i i' fun _ _ h => ?_) fun _ =>
    respects_bind (respects_update i i' fun _ _ h => ?_) fun _ =>
    respects_bind (respects_update i i' fun _ _ h => ?_) fun _ =>
    respects_update i i' fun _ _ h => ?_
  · exact { h with verifiedProof := rfl }
  · exact { h with proofValidation := rfl }
  · exact { h with acceptedCloseReceipt := rfl }
  · exact { h with candidatePolicy := rfl }

theorem respects_acceptVerifiedCloseProof (clock : PyDatetime) (args : CloseProofArguments D) :
    Respects (Beside i i')
      (acceptVerifiedCloseProof config casefold uuid5 closeSha256 clock args) := by
  refine respects_bind (respects_reads fun _ _ _ => rfl) fun _ => ?_
  refine respects_get_bind (fun m m' h => ?_) fun m => ?_
  · simp only [h.evidence.snapshot, h.evidence.runClosed, h.evidence.replayProof,
      h.evidence.chunkCoverageDiagnostics]
  split
  · exact respects_reads fun _ _ _ => rfl
  split
  · exact respects_throw _
  split
  · exact respects_bind (respects_failClosed i i' _) fun _ => respects_throw _
  split
  · refine respects_bind (respects_failClosed i i' _) fun _ => respects_reads fun m m' h => ?_
    rw [h.evidence.snapshot]
  · refine respects_bind (respects_verifyClose i i' args) fun accepted => ?_
    exact respects_bind (respects_recordProof i i' args accepted.1) fun _ =>
      respects_finalize i i' _

omit [DecidableEq D] in
theorem respects_finalizeAtRunEnd (runEnd : PyDatetime) :
    Respects (Beside i i') (finalizeAtRunEnd config casefold uuid5 closeSha256 runEnd) := by
  refine respects_bind (respects_reads fun _ _ _ => rfl) fun runEnd => ?_
  refine respects_bind (respects_reads fun _ _ _ => rfl) fun _ => ?_
  refine respects_get_bind (fun m m' h => ?_) fun m => ?_
  · simp only [h.evidence.snapshot, h.evidence.runClosed, h.evidence.chunkCoverageDiagnostics,
      IncrementalEvidenceState.replayRunEnd, uncoveredSnapshot]
  split
  · exact respects_reads fun _ _ _ => rfl
  split
  · exact respects_throw _
  split
  · exact respects_setSnapshot i i' _
  · refine respects_bind (respects_reads fun m m' h => ?_) fun _ => respects_finalize i i' _
    rw [h.evidence.requireWatermarkCoverage]

end Close

section Chunk

variable [DecidableEq D] {sink : DeadLetterSink S}

omit [DecidableEq D] in
theorem respects_onIngress (x : EStateM PyError (IngressState D S) α) :
    Respects SameMachine (onIngress x) := by
  intro m m' h
  have hingress : m.ingress = m'.ingress := h.ingress
  cases hx : x.run m'.ingress with
  | ok a ingress =>
    have hm : (onIngress x).run m = .ok a { m with ingress } := by
      rw [EStateM.run, onIngress, hingress, hx]
    have hm' : (onIngress x).run m' = .ok a { m' with ingress } := by
      rw [EStateM.run, onIngress, hx]
    rw [hm, hm']
    exact ⟨rfl, h.evidence, rfl⟩
  | error e ingress =>
    have hm : (onIngress x).run m = .error e { m with ingress } := by
      rw [EStateM.run, onIngress, hingress, hx]
    have hm' : (onIngress x).run m' = .error e { m' with ingress } := by
      rw [EStateM.run, onIngress, hx]
    rw [hm, hm']
    exact ⟨rfl, h.evidence, rfl⟩

omit [DecidableEq D] in
theorem respects_recordChunk (i i' : IngressState D S) (chunk : R1EventChunk D)
    (updates : List NormalizedEvent) :
    Respects (Beside i i') (recordChunk config sha256 chunk updates) := by
  refine respects_bind (respects_update i i' fun _ _ h => ?_) fun _ =>
    respects_bind (respects_update i i' fun _ _ h => ?_) fun _ =>
    respects_bind (respects_update i i' fun _ _ h => ?_) fun _ =>
    respects_forM (fun e => ?_) updates
  · exact { h with chunkHashes := h.chunkHashes.upsert _ }
  · exact { h with chunkSequenceIdentities := h.chunkSequenceIdentities.upsert _ }
  · exact { h with chunksByIdentity := h.chunksByIdentity.upsert _ }
  · refine respects_bind (respects_update i i' fun _ _ h => ?_) fun _ => ?_
    · exact { h with eventHashes := h.eventHashes.upsert _ }
    · split
      · refine respects_update i i' fun _ _ h => ?_
        exact { h with eventsByIdentity := h.eventsByIdentity.upsert _ }
      · exact respects_pure ()

theorem respects_acceptChunk (now : PyDatetime) (chunk : R1EventChunk D) :
    Respects SameMachine (acceptChunk config sha256 sink now chunk) := by
  refine respects_bind (respects_reads fun _ _ _ => rfl) fun _ => ?_
  refine respects_bind (respects_reads fun m m' h => ?_) fun known => ?_
  · rw [h.evidence.isKnownChunk]
  split
  · refine respects_bind (respects_onIngress _) fun _ => respects_reads fun m m' h => ?_
    rw [h.evidence.snapshot]
  · refine respects_bind (respects_reads fun m m' h => ?_) fun updates => ?_
    · rw [h.evidence.eventUpdates h.evidence.snapshot]
    refine respects_bind (respects_onIngress _) fun admission => ?_
    refine respects_bind (respects_reads fun _ _ _ => rfl) fun _ => ?_
    refine respects_bind (respects_of_beside fun i i' => respects_recordChunk i i' chunk updates)
      fun _ => respects_of_beside fun i i' => respects_refreshSnapshot i i'

/-- One call gives one answer to states with the same contents, and leaves them so. -/
theorem step_sameMachine {m m' : Machine D S} (call : IncrementalCall D S) (h : SameMachine m m') :
    (step config casefold uuid5 closeSha256 sha256 sink m call).2 =
        (step config casefold uuid5 closeSha256 sha256 sink m' call).2 ∧
      SameMachine (step config casefold uuid5 closeSha256 sha256 sink m call).1
        (step config casefold uuid5 closeSha256 sha256 sink m' call).1 := by
  have hcall : Respects SameMachine
      (runCall config casefold uuid5 closeSha256 sha256 sink call) := by
    cases call with
    | acceptChunk chunk now => exact respects_map some (respects_acceptChunk now chunk)
    | acceptRunClosed runClosed =>
      exact respects_map some (respects_of_beside fun i i' => respects_acceptRunClosed i i' runClosed)
    | acceptVerifiedBoundary boundary =>
      exact respects_map some (respects_bind (respects_reads fun _ _ _ => rfl) fun _ =>
        respects_throw _)
    | acceptVerifiedCloseProof args clock =>
      exact respects_map some (respects_of_beside fun i i' =>
        respects_acceptVerifiedCloseProof i i' clock args)
    | finalizeAtRunEnd runEnd =>
      exact respects_map some (respects_of_beside fun i i' => respects_finalizeAtRunEnd i i' runEnd)
    | moveIngress ingress =>
      exact respects_bind (respects_modify fun _ _ h => ⟨h.evidence, rfl⟩) fun _ => respects_pure none
  have hlike := hcall m m' h
  rw [step, step]
  cases hm : (runCall config casefold uuid5 closeSha256 sha256 sink call).run m with
  | ok a n =>
    cases hm' : (runCall config casefold uuid5 closeSha256 sha256 sink call).run m' with
    | ok b n' =>
      rw [hm, hm'] at hlike
      exact ⟨congrArg Except.ok hlike.1, hlike.2⟩
    | error e n' =>
      rw [hm, hm'] at hlike
      exact hlike.elim
  | error e n =>
    cases hm' : (runCall config casefold uuid5 closeSha256 sha256 sink call).run m' with
    | ok b n' =>
      rw [hm, hm'] at hlike
      exact hlike.elim
    | error e' n' =>
      rw [hm, hm'] at hlike
      exact ⟨congrArg Except.error hlike.1, hlike.2⟩

end Chunk

/-! ## Runs that accepted the same chunks -/

variable (config sha256) in
/-- The tables hold the accepted chunks, each under its identity and its sequence, and their
Events. -/
structure Held (s : IncrementalEvidenceState D) (accepted : List R1EventChunkPayload) : Prop
    extends Buffers config sha256 s accepted where
  identities : Gathers (fun chunk => [chunk]) (fun _ chunk => (chunk.partition, chunk.chunkId))
    (fun chunk => (⟨chunk, sha256 (.chunk chunk)⟩ : R1EventChunk D)) accepted s.chunksByIdentity
  sequences : Gathers (fun chunk => [chunk]) (fun _ chunk => (chunk.partition, chunk.chunkSequence))
    (·.chunkId) accepted s.chunkSequenceIdentities

/-- Two tables of the same chunks have the same rows. -/
theorem Held.sameTables (h : Held config sha256 s accepted) (h' : Held config sha256 s' accepted')
    (haccepted : ∀ chunk, chunk ∈ accepted ↔ chunk ∈ accepted')
    (hclosed : s.runClosed = s'.runClosed) : SameTables s s' where
  eventsByIdentity := by
    refine h.events.sameRows h'.events fun chunk => ?_
    rw [IncrementalConfig.selectorChunks, IncrementalConfig.selectorChunks, List.mem_filter,
      List.mem_filter, haccepted]
  eventHashes := h.hashes.sameRows h'.hashes haccepted
  chunkHashes := by
    rintro ⟨key, hash⟩
    rw [h.chunks, h'.chunks]
    simp only [haccepted]
  chunkSequenceIdentities := h.sequences.sameRows h'.sequences haccepted
  chunksByIdentity := h.identities.sameRows h'.identities haccepted
  runClosed := hclosed

theorem Held.congr (h : Held config sha256 s accepted) (heq : s'.tables = s.tables) :
    Held config sha256 s' accepted := by
  refine ⟨h.toBuffers.congr heq, ?_, ?_⟩
  · have hidentities : s'.chunksByIdentity = s.chunksByIdentity :=
      congrArg (fun tables => tables.2.2.1) heq
    rw [hidentities]
    exact h.identities
  · have hsequences : s'.chunkSequenceIdentities = s.chunkSequenceIdentities :=
      congrArg (fun tables => tables.2.1) heq
    rw [hsequences]
    exact h.sequences

section Runs

variable [DecidableEq D] {chunk : R1EventChunk D} {sink : DeadLetterSink S}

theorem Held.known (h : Held config sha256 s accepted) (hinj : Function.Injective sha256)
    (hknown : s.isKnownChunk sha256 chunk = .ok true) :
    Held config sha256 s (accepted ++ [chunk.toR1EventChunkPayload]) := by
  have hmem := h.mem_of_known hinj hknown
  refine ⟨h.toBuffers.known hinj hknown, ?_, ?_⟩
  · refine h.identities.snoc_of_mem fun i hi => ?_
    rw [List.mem_singleton.mp hi]
    exact (h.identities _ _).mpr ⟨_, hmem, _, List.mem_singleton_self _, rfl, rfl⟩
  · refine h.sequences.snoc_of_mem fun i hi => ?_
    rw [List.mem_singleton.mp hi]
    exact (h.sequences _ _).mpr ⟨_, hmem, _, List.mem_singleton_self _, rfl, rfl⟩

/-- A valid chunk is its payload with the digest of it. -/
theorem eq_of_requireChunk (h : requireChunk config sha256 chunk = .ok ()) :
    chunk = ⟨chunk.toR1EventChunkPayload, sha256 (.chunk chunk.toR1EventChunkPayload)⟩ := by
  have hdigest := not_not.mp (raiseIf_eq_ok.mp
    (raiseIf_bind_eq_ok.mp (raiseIf_bind_eq_ok.mp h).2).2)
  rw [chunkSha256] at hdigest
  rw [hdigest]

theorem Held.record (h : Held config sha256 s accepted) (hinj : Function.Injective sha256)
    (hrecords : Records config sha256 s s' chunk) :
    Held config sha256 s' (accepted ++ [chunk.toR1EventChunkPayload]) := by
  refine ⟨h.toBuffers.record hinj hrecords, ?_, ?_⟩
  · have hfree := not_mem_of_isNew hrecords.isNew
    have hchunk := eq_of_requireChunk hrecords.valid
    obtain ⟨updates, snapshot, -, rfl⟩ := hrecords.recorded
    show Gathers _ _ _ _ (s.record config sha256 chunk updates).chunksByIdentity
    rw [IncrementalEvidenceState.record, IncrementalEvidenceState.foldl_recordEvent]
    show Gathers _ _ _ _ (Table.upsert s.chunksByIdentity ((chunk.partition, chunk.chunkId), chunk))
    have hupsert := h.identities.upsert_single (g := chunk.toR1EventChunkPayload) rfl
      fun v hmem => ?_
    · rwa [← hchunk] at hupsert
    · -- A chunk under the identity has its hash there.
      obtain ⟨other, hother, i, hi, hkey, -⟩ := (h.identities _ _).mp hmem
      rw [List.mem_singleton.mp hi] at hkey
      exact absurd ((h.chunks _ _).mpr ⟨other, hother, hkey, rfl⟩) (hfree _)
  · obtain ⟨updates, snapshot, hupdates, rfl⟩ := hrecords.recorded
    show Gathers _ _ _ _ (s.record config sha256 chunk updates).chunkSequenceIdentities
    rw [record_chunkSequenceIdentities]
    refine h.sequences.upsert_single (g := chunk.toR1EventChunkPayload) rfl fun v hmem => ?_
    -- A sequence is not reused by another chunk.
    obtain ⟨-, hupdates⟩ := raiseIf_bind_eq_ok.mp hupdates
    obtain ⟨-, hupdates⟩ := Except.unit_bind_eq_ok.mp hupdates
    have hreused := (raiseIf_bind_eq_ok.mp hupdates).1
    by_contra hne
    exact hreused ⟨v, Dict.find_eq_some.mpr hmem, hne⟩

omit [DecidableEq D] in
theorem held_init (h : IncrementalEvidenceState.init config = .ok s) :
    Held config sha256 s [] := by
  have hbuffers : Buffers config sha256 s [] := buffers_init h
  obtain ⟨snapshot, -, hs⟩ := Except.bind_eq_ok.mp h
  obtain rfl := Except.pure_eq_ok.mp hs
  exact ⟨hbuffers, gathers_empty _ _ _, gathers_empty _ _ _⟩

variable (config) in
/-- The snapshot of a state that runs is the provisional one. -/
def CurrentWhileRunning (s : IncrementalEvidenceState D) : Prop :=
  s.snapshot.isTerminal = false → Current config s

omit [DecidableEq D] in
theorem Current.congr (h : Current config s) (hinputs : s'.inputs = s.inputs)
    (hsnapshot : s'.snapshot = s.snapshot) : Current config s' := by
  rw [Current, chunkCoverageDiagnostics_congr hinputs, hsnapshot,
    IncrementalEvidenceState.provisionalSnapshot, orderedEvents_congr hinputs]
  exact h

theorem CurrentWhileRunning.effect (hs : CurrentWhileRunning config s)
    (h : Effect config casefold uuid5 closeSha256 sha256 s s') : CurrentWhileRunning config s' := by
  cases h with
  | same h =>
    rw [h]
    exact hs
  | chunk h => exact fun _ => h.current
  | close hnone hcurrent h => exact fun _ => hcurrent
  | proof hrunning hinputs hsnapshot => exact fun _ => (hs hrunning).congr hinputs hsnapshot
  | fails hrunning hclosed hinputs h =>
    intro hrunning'
    rw [IncrementalEvidenceSnapshot.isTerminal, h.status] at hrunning'
    exact absurd hrunning' (by decide)
  | final hrunning hinputs h =>
    intro hrunning'
    obtain ⟨availableAt, result, hissues⟩ := h.issues
    obtain ⟨availability, -, hsnapshot⟩ := hissues.issued
    have hfinal : s'.snapshot.status = .finalized := by
      rw [hsnapshot]
      rfl
    exact absurd hfinal (not_finalized hrunning')

variable (casefold uuid5 closeSha256 sink) in
/-- Whatever calls come, the tables hold the accepted chunks, and the snapshot is the provisional
one until the state is terminal. -/
theorem held_after (hinj : Function.Injective sha256)
    (hinit : IncrementalEvidenceState.init config = .ok s) (ingress : IngressState D S)
    (calls : List (IncrementalCall D S)) :
    let step := step config casefold uuid5 closeSha256 sha256 sink
    Held config sha256 (after step ⟨s, ingress⟩ calls).evidence
        (acceptedChunks (trace step ⟨s, ingress⟩ calls)) ∧
      CurrentWhileRunning config (after step ⟨s, ingress⟩ calls).evidence := by
  intro step
  have hcurrent : Current config s := by
    obtain ⟨snapshot, hsnapshot, hs⟩ := Except.bind_eq_ok.mp hinit
    obtain rfl := Except.pure_eq_ok.mp hs
    exact hsnapshot
  refine run_trace_induction step (P := fun (m : Machine D S) t =>
    Held config sha256 m.evidence (acceptedChunks t) ∧ CurrentWhileRunning config m.evidence)
    ?_ ?_ calls
  · exact ⟨held_init hinit, fun _ => hcurrent⟩
  · intro m t call h
    have hheld := step_accepts (P := Held config sha256) config casefold uuid5 closeSha256 sha256
      sink m Held.congr (fun h hknown => h.known hinj hknown)
      (fun h hrecords => h.record hinj hrecords) call h.1
    exact ⟨hheld, h.2.effect (step_effect m call)⟩

end Runs

/-- What is recorded of a close proof. -/
def IncrementalEvidenceState.closeProof (s : IncrementalEvidenceState D) :=
  (s.verifiedProof, s.proofValidation, s.acceptedCloseReceipt, s.candidatePolicy)

variable [DecidableEq D] (casefold : String → String) (uuid5 : List IdentityPart → String)
  (closeSha256 : ClosePayload D → D) (sink : DeadLetterSink S)

/-- Two runs of calls that have accepted the same chunks and close, whatever the order and the
redelivery of the chunks, have left states that no later calls tell apart. -/
theorem incrementalCalls_forgetOrder (hinj : Function.Injective sha256)
    (hinit : IncrementalEvidenceState.init config = .ok s)
    (ingress₁ ingress₂ ingress : IngressState D S)
    (calls₁ calls₂ later : List (IncrementalCall D S)) :
    let step := step config casefold uuid5 closeSha256 sha256 sink
    let s₁ := (after step ⟨s, ingress₁⟩ calls₁).evidence
    let s₂ := (after step ⟨s, ingress₂⟩ calls₂).evidence
    (∀ chunk, chunk ∈ acceptedChunks (trace step ⟨s, ingress₁⟩ calls₁) ↔
        chunk ∈ acceptedChunks (trace step ⟨s, ingress₂⟩ calls₂)) →
      s₁.runClosed = s₂.runClosed → s₁.closeProof = s₂.closeProof →
      s₁.snapshot.isTerminal = false → s₂.snapshot.isTerminal = false →
      s₁.snapshot = s₂.snapshot ∧
        trace step ⟨s₁, ingress⟩ later = trace step ⟨s₂, ingress⟩ later ∧
        (after step ⟨s₁, ingress⟩ later).evidence.snapshot =
          (after step ⟨s₂, ingress⟩ later).evidence.snapshot := by
  intro step s₁ s₂ haccepted hclosed hproof hrunning hrunning'
  obtain ⟨hheld, hcurrent⟩ := held_after casefold uuid5 closeSha256 sink hinj hinit ingress₁ calls₁
  obtain ⟨hheld', hcurrent'⟩ := held_after casefold uuid5 closeSha256 sink hinj hinit ingress₂ calls₂
  have htables : SameTables s₁ s₂ := hheld.sameTables hheld' haccepted hclosed
  have hsnapshot : s₁.snapshot = s₂.snapshot :=
    htables.snapshot_eq (hcurrent hrunning) (hcurrent' hrunning')
  simp only [IncrementalEvidenceState.closeProof, Prod.mk.injEq] at hproof
  obtain ⟨hverified, hvalidation, hreceipt, hpolicy⟩ := hproof
  have hsame : SameContents s₁ s₂ :=
    { htables with
      verifiedProof := hverified
      proofValidation := hvalidation
      acceptedCloseReceipt := hreceipt
      candidatePolicy := hpolicy
      snapshot := hsnapshot }
  have hrelated : SameMachine (⟨s₁, ingress⟩ : Machine D S) ⟨s₂, ingress⟩ := ⟨hsame, rfl⟩
  obtain ⟨htrace, hafter⟩ := trace_eq_of_related
    (fun _ _ call h => step_sameMachine call h) hrelated later
  exact ⟨hsnapshot, htrace, hafter.evidence.snapshot⟩

namespace Sample

/-- The two chunks. -/
def inOrderCalls : List (IncrementalCall CanonicalPayload Unit) :=
  [.acceptChunk firstChunk clock, .acceptChunk secondChunk clock]

/-- The second chunk before the first. -/
def outOfOrderCalls : List (IncrementalCall CanonicalPayload Unit) :=
  [.acceptChunk secondChunk clock, .acceptChunk firstChunk clock]

/-- What the witness reads of a state without a close. -/
def unclosed (s : IncrementalEvidenceState CanonicalPayload) : Bool :=
  !s.snapshot.isTerminal && s.runClosed.isNone && s.verifiedProof.isNone &&
    s.proofValidation.isNone && s.acceptedCloseReceipt.isNone && s.candidatePolicy.isNone

theorem of_unclosed {s : IncrementalEvidenceState CanonicalPayload} (h : unclosed s = true) :
    s.snapshot.isTerminal = false ∧ s.runClosed = none ∧ s.closeProof = (none, none, none, none) := by
  simp only [unclosed, Bool.and_eq_true, Bool.not_eq_true', Option.isNone_iff_eq_none] at h
  obtain ⟨⟨⟨⟨⟨hrunning, hclosed⟩, hverified⟩, hvalidation⟩, hreceipt⟩, hpolicy⟩ := h
  refine ⟨hrunning, hclosed, ?_⟩
  rw [IncrementalEvidenceState.closeProof, hverified, hvalidation, hreceipt, hpolicy]

theorem both_orders :
    unclosed (ended inOrderCalls) = true ∧ unclosed (ended outOfOrderCalls) = true ∧
    answered inOrderCalls =
      [firstChunk.toR1EventChunkPayload, secondChunk.toR1EventChunkPayload] ∧
    answered outOfOrderCalls =
      [secondChunk.toR1EventChunkPayload, firstChunk.toR1EventChunkPayload] := by
  decide +kernel

theorem inOrder_iff_outOfOrder (chunk : R1EventChunkPayload) :
    chunk ∈ answered inOrderCalls ↔ chunk ∈ answered outOfOrderCalls := by
  obtain ⟨-, -, hanswered, hanswered'⟩ := both_orders
  rw [hanswered, hanswered']
  exact (List.Perm.swap _ _ _).mem_iff

/-- The close and the end of the run, up to which both finalize. -/
def closingCalls : List (IncrementalCall CanonicalPayload Unit) :=
  [.acceptRunClosed Stream.Sample.close, .finalizeAtRunEnd (PyDatetime.utcMillis 2000)]

end Sample

theorem incrementalCalls_forgetOrder_sample :
    (Sample.ended Sample.inOrderCalls).snapshot = (Sample.ended Sample.outOfOrderCalls).snapshot ∧
      trace Sample.payloadStep ⟨Sample.ended Sample.inOrderCalls, ⟨.empty, ()⟩⟩
          Sample.closingCalls =
        trace Sample.payloadStep ⟨Sample.ended Sample.outOfOrderCalls, ⟨.empty, ()⟩⟩
          Sample.closingCalls ∧
      (after Sample.payloadStep ⟨Sample.ended Sample.inOrderCalls, ⟨.empty, ()⟩⟩
          Sample.closingCalls).evidence.snapshot =
        (after Sample.payloadStep ⟨Sample.ended Sample.outOfOrderCalls, ⟨.empty, ()⟩⟩
          Sample.closingCalls).evidence.snapshot := by
  obtain ⟨hrunning, hclosed, hproof⟩ := Sample.of_unclosed Sample.both_orders.1
  obtain ⟨hrunning', hclosed', hproof'⟩ := Sample.of_unclosed Sample.both_orders.2.1
  exact incrementalCalls_forgetOrder Evidence.Sample.lower Evidence.Sample.sampleUuid5
    Sample.unasked Stream.Sample.discard Function.injective_id Sample.init_gathering ⟨.empty, ()⟩
    ⟨.empty, ()⟩ ⟨.empty, ()⟩ Sample.inOrderCalls Sample.outOfOrderCalls Sample.closingCalls
    Sample.inOrder_iff_outOfOrder (hclosed.trans hclosed'.symm) (hproof.trans hproof'.symm)
    hrunning hrunning'

end IncidentAwareness.Incremental
