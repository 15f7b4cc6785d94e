import IncidentAwareness.Incremental.Contents
import IncidentAwareness.Stream.RunClose

/-!
# A closed Run and the chunks that the state waits for

The state shares the ledger with others: they deliver to it, and the state's own chunks are
delivered to it too. What the state holds is in the ledger, so once the ledger has closed the
Run, the state gets no chunk that the ledger has not:

* `HoldsChunk`, `Backed`: a ledger has its chunks with their Events;
* `Mirrors`: the chunks of the state are chunks of the ledger, which every step keeps
  (`sharedStep_mirrors`);
* `Mirrors.accepts`: a chunk of the ledger that the close covers is accepted;
* `Mirrors.completes_iff`: the state can still be brought to the coverage of its close exactly when
  the ledger has every chunk that this covers; `completes_of_coversExactly` and `never_finalized`
  are its two sides over whole runs.
-/

namespace IncidentAwareness.Incremental

open IncidentAwareness.Common IncidentAwareness.Lib IncidentAwareness.Stream
open IncidentAwareness.Evidence IncidentAwareness.Seal

variable {D S : Type} {config : IncrementalConfig} {casefold : String → String}
  {uuid5 : List IdentityPart → String} {closeSha256 : ClosePayload D → D}
  {sha256 : CanonicalPayload → D}

/-! ## The chunks of a ledger -/

section Ledger

variable {l l' : Ledger D} {chunk chunk' : R1EventChunkPayload}

variable (sha256) in
/-- The chunk of a payload, with its digest. -/
def digested (chunk : R1EventChunkPayload) : R1EventChunk D := ⟨chunk, sha256 (.chunk chunk)⟩

variable (sha256) in
/-- The ledger has the chunk, and each of its Events with its content. -/
structure HoldsChunk (l : Ledger D) (chunk : R1EventChunkPayload) : Prop where
  row : chunkRow sha256 (digested sha256 chunk) ∈ l.chunks
  events : ∀ e ∈ chunk.events, Ledger.eventRow sha256 chunk.partition e ∈ l.events

variable (sha256) in
/-- Every chunk of the ledger is there with its Events. -/
def Backed (l : Ledger D) : Prop :=
  ∀ row ∈ l.chunks, ∃ chunk, row = chunkRow sha256 (digested sha256 chunk) ∧ HoldsChunk sha256 l chunk

theorem backed_empty : Backed sha256 (.empty : Ledger D) :=
  fun _ hrow => absurd hrow (Table.not_mem_empty _)

theorem HoldsChunk.grows (h : HoldsChunk sha256 l chunk) (hg : l.Grows l') :
    HoldsChunk sha256 l' chunk :=
  ⟨hg.chunks.subset h.row, fun e he => hg.events.subset (h.events e he)⟩

theorem HoldsChunk.hasChunk (h : HoldsChunk sha256 l chunk) :
    l.HasChunk chunk.partition chunk.chunkSequence :=
  ⟨_, h.row, rfl, rfl⟩

/-- Two chunks of a ledger under one identity or one sequence are one. -/
theorem HoldsChunk.unique (hinj : Function.Injective sha256) (h : HoldsChunk sha256 l chunk)
    (h' : HoldsChunk sha256 l chunk') (hpartition : chunk.partition = chunk'.partition)
    (hid : chunk.chunkId = chunk'.chunkId ∨ chunk.chunkSequence = chunk'.chunkSequence) :
    chunk = chunk' := by
  have hrow := Table.eq_of_conflict h.row h'.row ⟨hpartition, hid⟩
  exact CanonicalPayload.chunk.inj (hinj (congrArg ChunkRow.contentSha256 hrow))

/-- Two Events of a ledger under one identity have one content. -/
theorem HoldsChunk.event_eq (h : HoldsChunk sha256 l chunk) (h' : HoldsChunk sha256 l chunk')
    {e e' : NormalizedEvent} (he : e ∈ chunk.events) (he' : e' ∈ chunk'.events)
    (hpartition : chunk.partition = chunk'.partition) (hid : e.eventId = e'.eventId) :
    canonicalEventSha256 sha256 e = canonicalEventSha256 sha256 e' := by
  have hrow := Table.eq_of_conflict (h.events e he) (h'.events e' he') ⟨hpartition, hid⟩
  exact congrArg EventRow.contentSha256 hrow

/-- A chunk that is recorded is held. -/
theorem holdsChunk_of_records {chunk : R1EventChunk D} (ha : l.AdmitsChunk sha256 chunk)
    (hr : l.RecordsChunk sha256 chunk l') : HoldsChunk sha256 l' chunk.toR1EventChunkPayload := by
  refine ⟨?_, fun e he => ?_⟩
  · rw [Table.mem_def, hr.chunks]
    exact List.mem_append_right _ (List.mem_singleton_self _)
  · rw [Table.mem_def, hr.events, List.mem_append]
    by_cases hold : l.HasEvent chunk.partition e.eventId
    · -- An Event that was there has the same content.
      obtain ⟨row, hrow, hpartition, hid⟩ := hold
      have hmem : (e.eventId, canonicalEventSha256 sha256 e) ∈ eventContentSha256s sha256 chunk :=
        List.mem_map_of_mem he
      obtain ⟨-, hcontent⟩ := ha.eventsAgree _ hmem row hrow hpartition hid
      have heq : row = Ledger.eventRow sha256 chunk.partition e := by
        cases row
        rw [Ledger.eventRow, EventRow.mk.injEq]
        exact ⟨hpartition, hid, hcontent⟩
      rw [← heq]
      exact .inl hrow
    · refine .inr (List.mem_map_of_mem (List.mem_filter.mpr ⟨he, ?_⟩))
      simpa using hold

variable {d : Delivery D} {result : R1StreamDeliveryResult}

/-- A commit keeps the Events of the chunks. -/
theorem Backed.commits (hb : Backed sha256 l) (h : Commits sha256 l d result l') :
    Backed sha256 l' := by
  have hold : ∀ row ∈ l.chunks, ∃ chunk, row = chunkRow sha256 (digested sha256 chunk) ∧
      HoldsChunk sha256 l' chunk := by
    intro row hrow
    obtain ⟨chunk, heq, hheld⟩ := hb row hrow
    exact ⟨chunk, heq, hheld.grows h.grows⟩
  cases h with
  | chunkReplay => exact hold
  | watermarkReplay => exact hold
  | watermark => exact hold
  | runCloseReplay => exact hold
  | runClosed => exact hold
  | @chunk c now _ ha hr =>
    intro row hrow
    rw [Table.mem_def, hr.chunks, List.mem_append, List.mem_singleton] at hrow
    rcases hrow with hrow | rfl
    · exact hold row hrow
    · exact ⟨_, rfl, holdsChunk_of_records ha hr⟩

/-- A chunk that is answered is held. -/
theorem holdsChunk_of_commits (hinj : Function.Injective sha256) (hb : Backed sha256 l)
    {chunk : R1EventChunk D} {now : PyDatetime}
    (h : Commits sha256 l (.chunk chunk now) result l') :
    HoldsChunk sha256 l' chunk.toR1EventChunkPayload := by
  cases h with
  | chunk ha hr => exact holdsChunk_of_records ha hr
  | chunkReplay digest recorded =>
    obtain ⟨other, heq, hheld⟩ := hb _ recorded
    have hsame : chunk.toR1EventChunkPayload = other :=
      CanonicalPayload.chunk.inj (hinj (congrArg ChunkRow.contentSha256 heq))
    rw [hsame]
    exact hheld

end Ledger

/-! ## A ledger that is shared -/

/-- A call of the state itself. -/
def IncrementalCall.IsOwn : IncrementalCall D S → Prop
  | .moveIngress _ => False
  | _ => True

/-- A step of the state and its ledger: a delivery of another to the ledger, or a call. -/
inductive SharedStep (D S : Type) where
  | delivered (delivery : Delivery D)
  | called (call : IncrementalCall D S) (own : call.IsOwn)

section Shared

variable [DecidableEq D] (config casefold uuid5 closeSha256 sha256) (sink : DeadLetterSink S)

/-- The step. Where a call raises, its caller rolls the ledger back. -/
def sharedStep (m : Machine D S) : SharedStep D S → Machine D S × Except PyError Unit
  | .delivered delivery =>
    let (ingress, answer) := deliver sha256 sink m.ingress delivery
    ({ m with ingress }, answer.map fun _ => ())
  | .called call _ =>
    match step config casefold uuid5 closeSha256 sha256 sink m call with
    | (m', .ok _) => (m', .ok ())
    | (m', .error e) => ({ m' with ingress.ledger := m.ingress.ledger }, .error e)

variable {config casefold uuid5 closeSha256 sha256 sink} {m m' : Machine D S}

section Called

variable (call : IncrementalCall D S) (own : call.IsOwn)

theorem evidence_called :
    (sharedStep config casefold uuid5 closeSha256 sha256 sink m (.called call own)).1.evidence =
      (step config casefold uuid5 closeSha256 sha256 sink m call).1.evidence := by
  rw [sharedStep]
  rcases step config casefold uuid5 closeSha256 sha256 sink m call with ⟨m', a | e⟩
  · rfl
  · rfl

variable {call}

theorem ingress_called_of_ok {a : Option (IncrementalEvidenceSnapshot D)}
    (h : (step config casefold uuid5 closeSha256 sha256 sink m call).2 = .ok a) :
    (sharedStep config casefold uuid5 closeSha256 sha256 sink m (.called call own)).1.ingress =
      (step config casefold uuid5 closeSha256 sha256 sink m call).1.ingress := by
  rw [sharedStep]
  generalize step config casefold uuid5 closeSha256 sha256 sink m call = answer at h ⊢
  obtain ⟨m', _ | _⟩ := answer
  · cases h
  · rfl

/-- The ledger is rolled back. -/
theorem ledger_called_of_error {e : PyError}
    (h : (step config casefold uuid5 closeSha256 sha256 sink m call).2 = .error e) :
    (sharedStep config casefold uuid5 closeSha256 sha256 sink m (.called call own)).1.ingress.ledger =
      m.ingress.ledger := by
  rw [sharedStep]
  generalize step config casefold uuid5 closeSha256 sha256 sink m call = answer at h ⊢
  obtain ⟨m', _ | _⟩ := answer
  · rfl
  · cases h

end Called

omit [DecidableEq D] in
theorem SameContents.refl (s : IncrementalEvidenceState D) : SameContents s s where
  eventsByIdentity _ := Iff.rfl
  eventHashes _ := Iff.rfl
  chunkHashes _ := Iff.rfl
  chunkSequenceIdentities _ := Iff.rfl
  chunksByIdentity _ := Iff.rfl
  runClosed := rfl
  verifiedProof := rfl
  proofValidation := rfl
  acceptedCloseReceipt := rfl
  candidatePolicy := rfl
  snapshot := rfl

omit [DecidableEq D] in
/-- A program that respects any ingress leaves its own as it is. -/
theorem ingress_of_respects {α : Type} {x : Method D S α}
    (hx : ∀ i i' : IngressState D S, Respects (Beside i i') x) :
    wp x (fun _ m' => m'.ingress = m.ingress) (fun _ m' => m'.ingress = m.ingress) m := by
  have hlike := hx m.ingress m.ingress m m ⟨.refl _, rfl, rfl⟩
  rw [wp]
  cases hrun : x.run m with
  | ok a m' =>
    rw [hrun] at hlike
    exact hlike.2.left
  | error e m' =>
    rw [hrun] at hlike
    exact hlike.2.left

omit [DecidableEq D] in
theorem wp_onIngress {α : Type} {x : EStateM PyError (IngressState D S) α}
    {Q : α → Machine D S → Prop} {R : PyError → Machine D S → Prop} :
    wp (onIngress x) Q R m ↔
      wp x (fun a ingress => Q a { m with ingress }) (fun e ingress => R e { m with ingress })
        m.ingress := by
  cases hx : x.run m.ingress with
  | ok a ingress =>
    have hrun : (onIngress x).run m = .ok a { m with ingress } := by rw [EStateM.run, onIngress, hx]
    rw [wp_of_ok hx, wp_of_ok hrun]
  | error e ingress =>
    have hrun : (onIngress x).run m = .error e { m with ingress } := by
      rw [EStateM.run, onIngress, hx]
    rw [wp_of_error hx, wp_of_error hrun]

/-- A chunk that the state accepts is answered by the ledger. -/
theorem acceptChunk_commits (now : PyDatetime) (chunk : R1EventChunk D) :
    wp (acceptChunk config sha256 sink now chunk)
      (fun _ m' => ∃ result, Commits sha256 m.ingress.ledger (.chunk chunk now) result
        m'.ingress.ledger)
      (fun _ _ => True) m := by
  have hingress : wp (Stream.acceptChunk sha256 sink now chunk)
      (fun result ingress => Commits sha256 m.ingress.ledger (.chunk chunk now) result
        ingress.ledger) (fun _ _ => True) m.ingress := by
    cases hrun : (Stream.acceptChunk sha256 sink now chunk).run m.ingress with
    | ok result ingress => exact (wp_of_ok hrun).mpr (acceptChunk_eq_ok hrun).1
    | error e ingress => exact (wp_of_error hrun).mpr trivial
  rw [acceptChunk, wp_bind, wp_reads]
  refine ⟨fun _ _ => ?_, fun _ _ => trivial⟩
  rw [wp_bind, wp_reads]
  refine ⟨fun known _ => ?_, fun _ _ => trivial⟩
  cases known with
  | true =>
    rw [if_pos rfl, wp_bind, wp_onIngress]
    refine wp_mono hingress (fun result ingress hcommits => ?_) fun _ _ _ => trivial
    rw [wp_reads]
    exact ⟨fun _ _ => ⟨result, hcommits⟩, fun _ _ => trivial⟩
  | false =>
    rw [if_neg Bool.false_ne_true, wp_bind, wp_reads]
    refine ⟨fun updates _ => ?_, fun _ _ => trivial⟩
    rw [wp_bind, wp_onIngress]
    refine wp_mono hingress (fun result ingress hcommits => ?_) fun _ _ _ => trivial
    rw [wp_bind, wp_reads]
    refine ⟨fun _ _ => ?_, fun _ _ => trivial⟩
    rw [wp_bind, wp_recordChunk]
    refine wp_mono (ingress_of_respects fun i i' => respects_refreshSnapshot i i')
      (fun _ m' heq => ⟨result, ?_⟩) fun _ _ _ => trivial
    rw [heq]
    exact hcommits

/-- A call other than of a chunk leaves the ingress as it is. -/
theorem step_ingress {call : IncrementalCall D S} (own : call.IsOwn)
    (hchunk : ∀ chunk now, call ≠ .acceptChunk chunk now) :
    (step config casefold uuid5 closeSha256 sha256 sink m call).1.ingress = m.ingress := by
  cases call with
  | acceptChunk chunk now => exact absurd rfl (hchunk chunk now)
  | acceptRunClosed runClosed =>
    exact step_state rfl (ingress_of_respects fun i i' => respects_acceptRunClosed i i' runClosed)
  | acceptVerifiedBoundary boundary =>
    refine step_state rfl (I := fun m' : Machine D S => m'.ingress = m.ingress) ?_
    exact wp_mono (acceptVerifiedBoundary_refused boundary) (fun _ _ h => h.elim) fun _ _ h =>
      congrArg Machine.ingress h
  | acceptVerifiedCloseProof args clock =>
    exact step_state rfl (ingress_of_respects fun i i' =>
      respects_acceptVerifiedCloseProof i i' clock args)
  | finalizeAtRunEnd runEnd =>
    exact step_state rfl (ingress_of_respects fun i i' => respects_finalizeAtRunEnd i i' runEnd)
  | moveIngress ingress => exact own.elim

variable (config casefold uuid5 closeSha256 sha256 sink m) in
/-- A step leaves the ledger or commits a delivery. -/
theorem sharedStep_ledger (i : SharedStep D S) :
    let m' := (sharedStep config casefold uuid5 closeSha256 sha256 sink m i).1
    m'.ingress.ledger = m.ingress.ledger ∨
      ∃ d result, Commits sha256 m.ingress.ledger d result m'.ingress.ledger := by
  cases i with
  | delivered d =>
    rcases deliver_cases sha256 sink m.ingress d with ⟨-, -, hsame⟩ | ⟨result, -, hcommits⟩
    · exact .inl hsame
    · exact .inr ⟨d, result, hcommits⟩
  | called call own =>
    dsimp only
    cases hanswer : (step config casefold uuid5 closeSha256 sha256 sink m call).2 with
    | error e => exact .inl (ledger_called_of_error own hanswer)
    | ok a =>
      rw [ingress_called_of_ok own hanswer]
      by_cases hchunk : ∃ chunk now, call = .acceptChunk chunk now
      · obtain ⟨chunk, now, rfl⟩ := hchunk
        obtain ⟨-, result, hcommits⟩ := (step_spec rfl (acceptChunk_commits now chunk)).1 a hanswer
        exact .inr ⟨_, result, hcommits⟩
      · refine .inl (congrArg IngressState.ledger (step_ingress own fun chunk now heq => ?_))
        exact hchunk ⟨chunk, now, heq⟩

end Shared

/-! ## The chunks of the state -/

/-- What the state requires of the partition of a chunk. -/
def IncrementalConfig.Takes (config : IncrementalConfig) (partition : R1StreamPartition) : Prop :=
  partition.runId.val = config.runId.val ∧
    (config.requiredPartitionContract ≠ none → config.isSelectorPartition partition = true)

variable (config sha256) in
/-- The chunks of the state are chunks of the ledger, and its close is one of its Run. -/
structure Mirrors (m : Machine D S) (accepted : List R1EventChunkPayload) : Prop
    extends Held config sha256 m.evidence accepted where
  backed : Backed sha256 m.ingress.ledger
  takes : ∀ chunk ∈ accepted, config.Takes chunk.partition
  recorded : ∀ chunk ∈ accepted, HoldsChunk sha256 m.ingress.ledger chunk
  close : ∀ runClosed, m.evidence.runClosed = some runClosed → runClosed.runId.val = config.runId.val

section Mirrors

variable [DecidableEq D] {sink : DeadLetterSink S} {m : Machine D S}
  {accepted : List R1EventChunkPayload}

theorem takes_of_requireChunk {chunk : R1EventChunk D}
    (h : requireChunk config sha256 chunk = .ok ()) : config.Takes chunk.partition := by
  obtain ⟨hrun, h⟩ := raiseIf_bind_eq_ok.mp h
  obtain ⟨hselector, -⟩ := raiseIf_bind_eq_ok.mp h
  rw [not_and, not_not] at hselector
  exact ⟨not_not.mp hrun, hselector⟩

theorem requireChunk_digested {chunk : R1EventChunkPayload} (h : config.Takes chunk.partition) :
    requireChunk config sha256 (digested sha256 chunk) = .ok () := by
  refine raiseIf_bind_eq_ok.mpr ⟨not_not.mpr h.1, raiseIf_bind_eq_ok.mpr ⟨?_, ?_⟩⟩
  · rw [not_and, not_not]
    exact h.2
  · exact raiseIf_of_not (not_not.mpr rfl)

omit [DecidableEq D] in
theorem mirrors_init {s : IncrementalEvidenceState D}
    (h : IncrementalEvidenceState.init config = .ok s) (sink₀ : S) :
    Mirrors config sha256 (⟨s, ⟨.empty, sink₀⟩⟩ : Machine D S) [] := by
  refine ⟨held_init h, backed_empty, fun _ hmem => absurd hmem List.not_mem_nil,
    fun _ hmem => absurd hmem List.not_mem_nil, fun runClosed hclose => ?_⟩
  obtain ⟨snapshot, -, hs⟩ := Except.bind_eq_ok.mp h
  obtain rfl := Except.pure_eq_ok.mp hs
  exact absurd hclose (by simp [IncrementalEvidenceState.empty])

theorem Records.runClosed {s s' : IncrementalEvidenceState D} {chunk : R1EventChunk D}
    (h : Records config sha256 s s' chunk) : s'.runClosed = s.runClosed := by
  obtain ⟨updates, snapshot, -, rfl⟩ := h.recorded
  show (s.record config sha256 chunk updates).runClosed = s.runClosed
  rw [IncrementalEvidenceState.record, IncrementalEvidenceState.foldl_recordEvent]

variable (config casefold uuid5 closeSha256 sha256 sink m) in
/-- A call leaves the close, or records the first one, of its Run. -/
theorem step_runClosed (call : IncrementalCall D S) :
    let s' := (step config casefold uuid5 closeSha256 sha256 sink m call).1.evidence
    s'.runClosed = m.evidence.runClosed ∨ m.evidence.runClosed = none ∧
      ∃ runClosed, s'.runClosed = some runClosed ∧ runClosed.runId.val = config.runId.val := by
  have hinputs : ∀ s' : IncrementalEvidenceState D, s'.inputs = m.evidence.inputs →
      s'.runClosed = m.evidence.runClosed := fun _ h => runClosed_congr h
  cases call with
  | acceptChunk chunk now =>
    refine .inl (step_state rfl (I := fun m' => m'.evidence.runClosed = m.evidence.runClosed) ?_)
    refine wp_mono (acceptChunk_spec sink now chunk) (fun _ m' h => ?_) fun _ m' h => by rw [h]
    rcases h with ⟨hsame, -⟩ | hrecords
    · rw [hsame]
    · exact hrecords.runClosed
  | acceptRunClosed runClosed =>
    refine step_state rfl (I := fun m' => m'.evidence.runClosed = m.evidence.runClosed ∨
      m.evidence.runClosed = none ∧ ∃ r, m'.evidence.runClosed = some r ∧
        r.runId.val = config.runId.val) ?_
    have hrun : wp (acceptRunClosed config runClosed : Method D S (IncrementalEvidenceSnapshot D))
        (fun _ _ => runClosed.runId.val = config.runId.val) (fun _ _ => True) m := by
      rw [acceptRunClosed, wp_bind, wp_reads]
      refine ⟨fun _ hrun => ?_, fun _ _ => trivial⟩
      exact wp_mono (wp_true _ m) (fun _ _ _ => not_not.mp (raiseIf_eq_ok.mp hrun))
        fun _ _ _ => trivial
    refine wp_mono (wp_and (acceptRunClosed_spec runClosed) hrun) (fun _ m' h => ?_)
      fun _ m' h => by rw [h.1]; exact .inl rfl
    obtain ⟨hsame | ⟨hnone, -, snapshot, heq⟩, hrunId⟩ := h
    · rw [hsame]
      exact .inl rfl
    · rw [heq]
      exact .inr ⟨hnone, runClosed, rfl, hrunId⟩
  | acceptVerifiedBoundary boundary =>
    refine .inl (step_state rfl (I := fun m' => m'.evidence.runClosed = m.evidence.runClosed) ?_)
    exact wp_mono (acceptVerifiedBoundary_refused boundary) (fun _ _ h => h.elim) fun _ _ h => by
      rw [h]
  | acceptVerifiedCloseProof args clock =>
    refine .inl (step_state rfl (I := fun m' => m'.evidence.runClosed = m.evidence.runClosed) ?_)
    refine wp_mono (acceptVerifiedCloseProof_spec clock) (fun _ m' h => ?_) fun _ m' h => ?_
    · rcases h with hsame | hfails | ⟨-, hsame, -⟩
      · rw [hsame]
      · exact hinputs _ hfails.fails.1
      · exact hinputs _ hsame
    · rcases h with hsame | hfails | ⟨-, hsame, -⟩
      · rw [hsame]
      · exact hinputs _ hfails.fails.1
      · exact hinputs _ hsame
  | finalizeAtRunEnd runEnd =>
    refine .inl (step_state rfl (I := fun m' => m'.evidence.runClosed = m.evidence.runClosed) ?_)
    refine wp_mono (finalizeAtRunEnd_spec runEnd) (fun _ m' h => ?_) fun _ m' h => ?_
    · rcases h with hsame | hfails | ⟨-, hsame, -⟩
      · rw [hsame]
      · exact hinputs _ hfails.fails.1
      · exact hinputs _ hsame
    · rcases h with hsame | hfails
      · rw [hsame]
      · exact hinputs _ hfails.fails.1
  | moveIngress ingress => exact .inl rfl

omit [DecidableEq D] in
theorem of_acceptedChunk? {a : Answered D S} {chunk : R1EventChunkPayload}
    (h : acceptedChunk? a = some chunk) : ∃ c now answer, a = (.acceptChunk c now, .ok answer) := by
  unfold acceptedChunk? at h
  split at h
  · exact ⟨_, _, _, rfl⟩
  · cases h

/-- A chunk that the state accepts, and that the ledger answers. -/
theorem Mirrors.answered {m' : Machine D S} {chunk : R1EventChunk D} {now : PyDatetime}
    {result : R1StreamDeliveryResult} (hinj : Function.Injective sha256)
    (h : Mirrors config sha256 m accepted)
    (hcommits : Commits sha256 m.ingress.ledger (.chunk chunk now) result m'.ingress.ledger)
    (hchunk : m'.evidence = m.evidence ∧ m.evidence.isKnownChunk sha256 chunk = .ok true ∨
      Records config sha256 m.evidence m'.evidence chunk) :
    Mirrors config sha256 m' (accepted ++ [chunk.toR1EventChunkPayload]) := by
  have hheld : Held config sha256 m'.evidence (accepted ++ [chunk.toR1EventChunkPayload]) ∧
      config.Takes chunk.partition ∧ m'.evidence.runClosed = m.evidence.runClosed := by
    rcases hchunk with ⟨hsame, hknown⟩ | hrecords
    · rw [hsame]
      exact ⟨h.toHeld.known hinj hknown, h.takes _ (h.toHeld.mem_of_known hinj hknown), rfl⟩
    · exact ⟨h.toHeld.record hinj hrecords, takes_of_requireChunk hrecords.valid, hrecords.runClosed⟩
  obtain ⟨hheld, htakes, hclose⟩ := hheld
  refine ⟨hheld, h.backed.commits hcommits, fun other hother => ?_, fun other hother => ?_, ?_⟩
  · rcases List.mem_append.mp hother with hother | hother
    · exact h.takes other hother
    · rw [List.mem_singleton.mp hother]
      exact htakes
  · rcases List.mem_append.mp hother with hother | hother
    · exact (h.recorded other hother).grows hcommits.grows
    · rw [List.mem_singleton.mp hother]
      exact holdsChunk_of_commits hinj h.backed hcommits
  · rw [hclose]
    exact h.close

omit [DecidableEq D] in
/-- A step keeps the chunks of the state in the ledger, where the tables stay. -/
theorem Mirrors.congr {m' : Machine D S} (h : Mirrors config sha256 m accepted)
    (hledger : m'.ingress.ledger = m.ingress.ledger ∨
      ∃ d result, Commits sha256 m.ingress.ledger d result m'.ingress.ledger)
    (htables : m'.evidence.tables = m.evidence.tables)
    (hclose : m'.evidence.runClosed = m.evidence.runClosed ∨ m.evidence.runClosed = none ∧
      ∃ runClosed, m'.evidence.runClosed = some runClosed ∧
        runClosed.runId.val = config.runId.val) :
    Mirrors config sha256 m' accepted := by
  refine ⟨h.toHeld.congr htables, ?_, h.takes, fun chunk hchunk => ?_, fun runClosed heq => ?_⟩
  · rcases hledger with hsame | ⟨d, result, hcommits⟩
    · rw [hsame]
      exact h.backed
    · exact h.backed.commits hcommits
  · rcases hledger with hsame | ⟨d, result, hcommits⟩
    · rw [hsame]
      exact h.recorded chunk hchunk
    · exact (h.recorded chunk hchunk).grows hcommits.grows
  · rcases hclose with hsame | ⟨-, r, hr, hrun⟩
    · exact h.close runClosed (hsame.symm.trans heq)
    · obtain rfl := Option.some.inj (hr.symm.trans heq)
      exact hrun

/-- Every step keeps the chunks of the state in the ledger, and adds to them. -/
theorem sharedStep_mirrors (hinj : Function.Injective sha256)
    (h : Mirrors config sha256 m accepted) (i : SharedStep D S) :
    ∃ accepted', accepted <+: accepted' ∧ Mirrors config sha256
      (sharedStep config casefold uuid5 closeSha256 sha256 sink m i).1 accepted' := by
  have hledger := sharedStep_ledger config casefold uuid5 closeSha256 sha256 sink m i
  cases i with
  | delivered d => exact ⟨accepted, List.prefix_rfl, h.congr hledger rfl (.inl rfl)⟩
  | called call own =>
    have hclose := step_runClosed config casefold uuid5 closeSha256 sha256 sink m call
    rcases step_tables m call with ⟨chunk, haccepted, -⟩ | ⟨-, htables⟩
    · obtain ⟨c, now, a, hcall⟩ := of_acceptedChunk? haccepted
      obtain ⟨rfl, hok⟩ := Prod.mk.inj hcall
      obtain ⟨snapshot, hchunk, result, hcommits⟩ :=
        (step_spec rfl (wp_and (acceptChunk_spec sink now c) (acceptChunk_commits now c))).1 a hok
      refine ⟨accepted ++ [c.toR1EventChunkPayload], List.prefix_append _ _, ?_⟩
      rw [← ingress_called_of_ok own hok] at hcommits
      rw [← evidence_called _ own] at hchunk
      exact h.answered hinj hcommits hchunk
    · refine ⟨accepted, List.prefix_rfl, h.congr hledger ?_ ?_⟩
      · rw [evidence_called]
        exact htables
      · rw [evidence_called]
        exact hclose

/-! ## A chunk of the ledger -/

/-- The close covers the sequence of the partition. -/
def Seals (runClosed : R1RunClosed) (partition : R1StreamPartition) (sequence : Nat) : Prop :=
  ∃ item ∈ runClosed.finalWatermarks, item.partition = partition ∧
    sequence ≤ item.coveredThroughChunkSequence

variable {runClosed : R1RunClosed} {chunk : R1EventChunkPayload}

omit [DecidableEq D] in
theorem validateChunkAfterRunClosed_of_seals {s : IncrementalEvidenceState D} {c : R1EventChunk D}
    (hclose : s.runClosed = some runClosed) (h : Seals runClosed c.partition c.chunkSequence) :
    s.validateChunkAfterRunClosed c = .ok () := by
  obtain ⟨item, hitem, hpartition, hle⟩ := h
  rw [IncrementalEvidenceState.validateChunkAfterRunClosed, hclose]
  dsimp only
  cases hfind : runClosed.finalWatermarks.find? fun item => item.partition = c.partition with
  | none => exact absurd hpartition (by simpa using List.find?_eq_none.mp hfind item hitem)
  | some found =>
    have hfound : found.partition = c.partition := by simpa using List.find?_some hfind
    have heq : found = item := List.inj_on_of_nodup_map runClosed.partitions_nodup
      (List.mem_of_find?_eq_some hfind) hitem (hfound.trans hpartition.symm)
    rw [heq]
    exact raiseIf_of_not (not_lt.mpr hle)

section Recorded

variable (hinj : Function.Injective sha256) (h : Mirrors config sha256 m accepted)
  (hchunk : HoldsChunk sha256 m.ingress.ledger chunk)

include hinj h hchunk

/-- What the state has under the identity of a chunk of the ledger is its digest. -/
theorem Mirrors.isKnownChunk :
    ∃ known, m.evidence.isKnownChunk sha256 (digested sha256 chunk) = .ok known := by
  rw [IncrementalEvidenceState.isKnownChunk]
  cases hfind : m.evidence.chunkHashes.find
      ((digested sha256 chunk).partition, (digested sha256 chunk).chunkId) with
  | none => exact ⟨false, rfl⟩
  | some existing =>
    obtain ⟨other, hother, hkey, hhash⟩ := (h.chunks _ _).mp (Dict.find_eq_some.mp hfind)
    obtain ⟨hpartition, hid⟩ := Prod.mk.inj hkey
    obtain rfl := (h.recorded other hother).unique hinj hchunk hpartition (.inl hid)
    exact ⟨true, raiseIf_bind_eq_ok.mpr ⟨not_not.mpr hhash.symm, rfl⟩⟩

/-- The sequence and the Events of a chunk of the ledger are not reused. -/
theorem Mirrors.eventUpdates (hrunning : m.evidence.snapshot.isTerminal = false)
    (hclose : m.evidence.runClosed = some runClosed)
    (hseals : Seals runClosed chunk.partition chunk.chunkSequence) :
    ∃ updates, m.evidence.eventUpdates sha256 (digested sha256 chunk) = .ok updates := by
  have hupdate : ∀ e ∈ chunk.events, ∃ turn,
      m.evidence.eventUpdate sha256 chunk.partition e = .ok turn ∧ () = () := by
    intro e he
    rw [IncrementalEvidenceState.eventUpdate]
    cases hfind : m.evidence.eventHashes.find (chunk.partition, e.eventId) with
    | none => exact ⟨some e, rfl, rfl⟩
    | some existing =>
      obtain ⟨other, hother, e', he', hkey, hhash⟩ := (h.hashes _ _).mp (Dict.find_eq_some.mp hfind)
      obtain ⟨hpartition, hid⟩ := Prod.mk.inj hkey
      have hsame := (h.recorded other hother).event_eq hchunk he' he hpartition hid
      exact ⟨none, raiseIf_bind_eq_ok.mpr ⟨not_not.mpr (hhash.symm.trans hsame), rfl⟩, rfl⟩
  obtain ⟨turns, hturns, -⟩ := exists_mapM hupdate
  have hsequence : ¬ ∃ existing ∈ m.evidence.chunkSequenceIdentities.find
      (chunk.partition, chunk.chunkSequence), existing ≠ chunk.chunkId := by
    rintro ⟨existing, hfind, hne⟩
    obtain ⟨other, hother, i, hi, hkey, hid⟩ := (h.sequences _ _).mp (Dict.find_eq_some.mp hfind)
    obtain rfl := List.mem_singleton.mp hi
    obtain ⟨hpartition, hseq⟩ := Prod.mk.inj hkey
    obtain rfl := (h.recorded i hother).unique hinj hchunk hpartition (.inr hseq)
    exact hne hid.symm
  refine ⟨turns.filterMap id, raiseIf_bind_eq_ok.mpr ⟨by simp [hrunning], ?_⟩⟩
  refine Except.unit_bind_eq_ok.mpr ⟨validateChunkAfterRunClosed_of_seals hclose hseals, ?_⟩
  refine raiseIf_bind_eq_ok.mpr ⟨hsequence, Except.bind_eq_ok.mpr ⟨turns, hturns, rfl⟩⟩

/-- A chunk of the ledger that the close covers is accepted, and the ingress stays. -/
theorem Mirrors.accepts (htakes : config.Takes chunk.partition)
    (hrunning : m.evidence.snapshot.isTerminal = false)
    (hclose : m.evidence.runClosed = some runClosed)
    (hseals : Seals runClosed chunk.partition chunk.chunkSequence) (now : PyDatetime) :
    wp (acceptChunk config sha256 sink now (digested sha256 chunk))
      (fun _ m' => m'.ingress = m.ingress) (fun _ _ => False) m := by
  have hreplay : (Stream.acceptChunk sha256 sink now (digested sha256 chunk)).run m.ingress =
      .ok ⟨.duplicate, []⟩ m.ingress := acceptChunk_replay rfl hchunk.row
  obtain ⟨known, hknown⟩ := h.isKnownChunk hinj hchunk
  obtain ⟨updates, hupdates⟩ := h.eventUpdates hinj hchunk hrunning hclose hseals
  rw [acceptChunk, wp_bind, wp_reads, requireChunk_digested htakes]
  refine ⟨fun _ _ => ?_, fun _ herror => by cases herror⟩
  rw [wp_bind, wp_reads, hknown]
  refine ⟨fun known' hsame => ?_, fun _ herror => by cases herror⟩
  obtain rfl := Except.ok.inj hsame
  cases known with
  | true =>
    rw [if_pos rfl, wp_bind, wp_onIngress, wp_of_ok hreplay, wp_reads]
    exact ⟨fun _ _ => rfl, fun _ herror => by cases herror⟩
  | false =>
    rw [if_neg Bool.false_ne_true, wp_bind, wp_reads, hupdates]
    refine ⟨fun updates' hsame => ?_, fun _ herror => by cases herror⟩
    obtain rfl := Except.ok.inj hsame
    rw [wp_bind, wp_onIngress, wp_of_ok hreplay, wp_bind, wp_reads]
    -- The ledger had the chunk, so its Events are those of a lost checkpoint.
    have hadmission : requireAdmission (digested sha256 chunk) updates ⟨.duplicate, []⟩ = .ok () := by
      refine raiseIf_bind_eq_ok.mpr ⟨not_not.mpr (List.Subset.refl _), raiseIf_eq_ok.mpr ?_⟩
      rintro ⟨e, he, hnot⟩
      exact hnot (List.mem_map_of_mem ((mem_eventUpdates hupdates).2.1 e he).1)
    rw [hadmission]
    refine ⟨fun _ _ => ?_, fun _ herror => by cases herror⟩
    rw [wp_bind, wp_recordChunk]
    exact wp_mono (wp_and refreshSnapshot_spec (ingress_of_respects fun i i' =>
      respects_refreshSnapshot i i')) (fun _ _ hm => hm.2) fun _ _ hm => hm.1

variable (casefold uuid5 closeSha256 sink) in
/-- After it is accepted, the state holds it beside the chunks that it held. -/
theorem Mirrors.sharedStep_accepts (htakes : config.Takes chunk.partition)
    (hrunning : m.evidence.snapshot.isTerminal = false)
    (hclose : m.evidence.runClosed = some runClosed)
    (hseals : Seals runClosed chunk.partition chunk.chunkSequence) :
    ∃ i, let m' := (sharedStep config casefold uuid5 closeSha256 sha256 sink m i).1
      Mirrors config sha256 m' (accepted ++ [chunk]) ∧ m'.ingress = m.ingress ∧
        m'.evidence.runClosed = some runClosed ∧ m'.evidence.snapshot.isTerminal = false := by
  let call : IncrementalCall D S := .acceptChunk (digested sha256 chunk) .naive
  obtain ⟨hok, herror⟩ := @step_spec D S m _ config casefold uuid5 closeSha256 sha256 sink call _ rfl _ _
    (wp_and (wp_and (h.accepts hinj hchunk htakes hrunning hclose hseals .naive)
      (acceptChunk_spec sink .naive (digested sha256 chunk)))
      (acceptChunk_commits .naive (digested sha256 chunk)))
  have own : call.IsOwn := trivial
  refine ⟨.called call own, ?_⟩
  dsimp only
  cases hanswer : (step config casefold uuid5 closeSha256 sha256 sink m call).2 with
  | error e => exact (herror e hanswer).1.1.elim
  | ok a =>
    obtain ⟨-, ⟨hingress, haccepted⟩, result, hcommits⟩ := hok a hanswer
    rw [← ingress_called_of_ok own hanswer] at hcommits hingress
    rw [← evidence_called call own] at haccepted
    refine ⟨h.answered hinj hcommits haccepted, hingress, ?_, ?_⟩
    · rcases haccepted with ⟨hsame, -⟩ | hrecords
      · rw [hsame, hclose]
      · rw [hrecords.runClosed, hclose]
    · rcases haccepted with ⟨hsame, -⟩ | hrecords
      · rw [hsame, hrunning]
      · exact hrecords.current.gathering.running

end Recorded

variable (casefold uuid5 closeSha256 sink) in
/-- Steps that bring the state chunks of the ledger which the close covers. -/
theorem Mirrors.exists_steps (hinj : Function.Injective sha256)
    (h : Mirrors config sha256 m accepted) (hrunning : m.evidence.snapshot.isTerminal = false)
    (hclose : m.evidence.runClosed = some runClosed) {keys : List ChunkSequenceIdentity}
    (hkeys : ∀ key ∈ keys, config.Takes key.1 ∧ Seals runClosed key.1 key.2 ∧
      m.ingress.ledger.HasChunk key.1 key.2) :
    ∃ later accepted', let m' := after (sharedStep config casefold uuid5 closeSha256 sha256 sink) m later
      Mirrors config sha256 m' accepted' ∧ m'.evidence.runClosed = some runClosed ∧
        ∀ key, (∃ chunk ∈ accepted', (chunk.partition, chunk.chunkSequence) = key) ↔
          (∃ chunk ∈ accepted, (chunk.partition, chunk.chunkSequence) = key) ∨ key ∈ keys := by
  induction keys generalizing m accepted with
  | nil => exact ⟨[], accepted, h, hclose, fun key => by simp⟩
  | cons key keys ih =>
    obtain ⟨⟨htakes, hseals, hhas⟩, hrest⟩ := List.forall_mem_cons.mp hkeys
    obtain ⟨row, hrow, hpartition, hsequence⟩ := hhas
    obtain ⟨chunk, rfl, hchunk⟩ := h.backed row hrow
    have hkey : (chunk.partition, chunk.chunkSequence) = key := Prod.ext hpartition hsequence
    subst hkey
    obtain ⟨i, hmirrors, hingress, hclose', hrunning'⟩ := h.sharedStep_accepts casefold uuid5
      closeSha256 sink hinj hchunk htakes hrunning hclose hseals
    obtain ⟨later, accepted', hlater, hlaterClose, hiff⟩ := ih hmirrors hrunning' hclose' (by
      rw [hingress]
      exact hrest)
    refine ⟨i :: later, accepted', hlater, hlaterClose, fun key => ?_⟩
    rw [hiff, List.mem_cons]
    constructor
    · rintro (⟨other, hother, heq⟩ | hmem)
      · rcases List.mem_append.mp hother with hother | hother
        · exact .inl ⟨other, hother, heq⟩
        · rw [List.mem_singleton.mp hother] at heq
          exact .inr (.inl heq.symm)
      · exact .inr (.inr hmem)
    · rintro (⟨other, hother, heq⟩ | rfl | hmem)
      · exact .inl ⟨other, List.mem_append_left _ hother, heq⟩
      · exact .inl ⟨chunk, List.mem_append_right _ (List.mem_singleton_self _), rfl⟩
      · exact .inr hmem

/-! ## The coverage of the close -/

omit [DecidableEq D] in
theorem takes_of_required (h : Mirrors config sha256 m accepted)
    (hclose : m.evidence.runClosed = some runClosed) {item : R1FinalPartitionWatermark}
    (hitem : item ∈ runClosed.finalWatermarks)
    (hrequired : config.isRequiredPartitionKey item.partition = true) :
    config.Takes item.partition := by
  refine ⟨?_, fun hcontract => ?_⟩
  · rw [runClosed.partitions_scope item hitem]
    exact h.close runClosed hclose
  · have hsome : config.requiredPartitionContract.isNone = false := by
      rw [← Bool.not_eq_true, Option.isNone_iff_eq_none]
      exact hcontract
    rwa [IncrementalConfig.isRequiredPartitionKey, hsome, Bool.false_or] at hrequired

/-- The chunks of the required partitions that the close covers. -/
def IncrementalConfig.coveredKeys (config : IncrementalConfig) (runClosed : R1RunClosed) :
    List ChunkSequenceIdentity :=
  (runClosed.finalWatermarks.filter fun item => config.isRequiredPartitionKey item.partition).flatMap
    fun item => (List.range' 1 item.coveredThroughChunkSequence).map fun n => (item.partition, n)

omit [DecidableEq D] in
theorem mem_coveredKeys {key : ChunkSequenceIdentity} :
    key ∈ config.coveredKeys runClosed ↔ ∃ item ∈ runClosed.finalWatermarks,
      config.isRequiredPartitionKey item.partition = true ∧
      (1 ≤ key.2 ∧ key.2 ≤ item.coveredThroughChunkSequence) ∧ item.partition = key.1 := by
  simp only [IncrementalConfig.coveredKeys, List.mem_flatMap, List.mem_filter, List.mem_map,
    List.mem_range'_1, Prod.ext_iff]
  constructor
  · rintro ⟨item, ⟨hitem, hrequired⟩, n, hn, hpartition, rfl⟩
    exact ⟨item, hitem, hrequired, by omega, hpartition⟩
  · rintro ⟨item, hitem, hrequired, hn, hpartition⟩
    exact ⟨item, ⟨hitem, hrequired⟩, key.2, by omega, hpartition, rfl⟩

/-- A chunk of the list has the partition and the sequence. -/
def Holds (accepted : List R1EventChunkPayload) (key : ChunkSequenceIdentity) : Prop :=
  ∃ chunk ∈ accepted, (chunk.partition, chunk.chunkSequence) = key

omit [DecidableEq D] in
theorem holds_iff {s : IncrementalEvidenceState D} (h : Held config sha256 s accepted)
    (key : ChunkSequenceIdentity) :
    Holds accepted key ↔ ∃ item ∈ s.chunkSequenceIdentities, item.1 = key := by
  constructor
  · rintro ⟨chunk, hchunk, rfl⟩
    exact ⟨_, (h.sequences _ chunk.chunkId).mpr ⟨chunk, hchunk, chunk, List.mem_singleton_self _,
      rfl, rfl⟩, rfl⟩
  · rintro ⟨item, hitem, rfl⟩
    obtain ⟨chunk, hchunk, i, hi, hkey, -⟩ := (h.sequences item.1 item.2).mp hitem
    obtain rfl := List.mem_singleton.mp hi
    exact ⟨i, hchunk, hkey⟩

omit [DecidableEq D] in
/-- The chunks that the state holds are those that its close covers. -/
theorem covered_iff {s : IncrementalEvidenceState D} (h : Held config sha256 s accepted)
    (hclose : s.runClosed = some runClosed) :
    s.chunkCoverageDiagnostics config = [] ↔
      (∀ key, Holds accepted key → config.isRequiredPartitionKey key.1 = true →
        Seals runClosed key.1 key.2) ∧
      ∀ item ∈ runClosed.finalWatermarks, config.isRequiredPartitionKey item.partition = true →
        ∀ n, 1 ≤ n → n ≤ item.coveredThroughChunkSequence → Holds accepted (item.partition, n) := by
  have hpositive : ∀ item ∈ s.chunkSequenceIdentities, 1 ≤ item.1.2 := by
    intro item hitem
    obtain ⟨chunk, -, hkey⟩ := (holds_iff h item.1).mpr ⟨item, hitem, rfl⟩
    rw [← hkey]
    exact chunk.chunkSequence_pos
  have hsequences : ∀ partition n, n ∈ s.acceptedSequences partition ↔
      Holds accepted (partition, n) := by
    intro partition n
    rw [mem_acceptedSequences, holds_iff h]
    simp only [Prod.ext_iff]
  rw [chunkCoverageDiagnostics_eq_nil hclose hpositive]
  simp only [hsequences]
  constructor
  · rintro ⟨hcovers, hsealed⟩
    refine ⟨fun key hkey hrequired => ?_, fun item hitem hrequired n h1 hle => ?_⟩
    · obtain ⟨row, hrow, rfl⟩ := (holds_iff h key).mp hkey
      obtain ⟨item, hitem, hpartition⟩ := List.mem_map.mp (hsealed row hrow hrequired)
      rw [← hpartition] at hrequired
      have hwithin := (hcovers item hitem hrequired row.1.2).mp (by rw [hpartition]; exact hkey)
      exact ⟨item, hitem, hpartition, hwithin.2⟩
    · exact (hcovers item hitem hrequired n).mpr ⟨h1, hle⟩
  · rintro ⟨hwithin, hcovers⟩
    refine ⟨fun item hitem hrequired n => ⟨fun hholds => ?_, fun hn => ?_⟩, fun row hrow hrequired => ?_⟩
    · obtain ⟨other, hother, hpartition, hle⟩ := hwithin _ hholds hrequired
      have heq : other = item :=
        List.inj_on_of_nodup_map runClosed.partitions_nodup hother hitem hpartition
      obtain ⟨row, hrow, hkey⟩ := (holds_iff h _).mp hholds
      have hpos := hpositive row hrow
      rw [hkey] at hpos
      rw [← heq]
      exact ⟨hpos, hle⟩
    · exact hcovers item hitem hrequired n hn.1 hn.2
    · obtain ⟨item, hitem, hpartition, -⟩ := hwithin row.1 ((holds_iff h _).mpr ⟨row, hrow, rfl⟩) hrequired
      exact List.mem_map.mpr ⟨item, hitem, hpartition⟩

end Mirrors

/-! ## Runs -/

section Runs

variable [DecidableEq D] {sink : DeadLetterSink S} {m : Machine D S}
  {accepted : List R1EventChunkPayload} {runClosed : R1RunClosed}

variable (casefold uuid5 closeSha256 sink) in
theorem after_mirrors (hinj : Function.Injective sha256) (h : Mirrors config sha256 m accepted)
    (steps : List (SharedStep D S)) :
    ∃ accepted', accepted <+: accepted' ∧ Mirrors config sha256
      (after (sharedStep config casefold uuid5 closeSha256 sha256 sink) m steps) accepted' := by
  refine run_induction _ (P := fun m' => ∃ accepted', accepted <+: accepted' ∧
    Mirrors config sha256 m' accepted') ?_ ⟨accepted, List.prefix_rfl, h⟩ steps
  rintro m' i ⟨accepted', hprefix, h'⟩
  obtain ⟨accepted'', hprefix', h''⟩ := sharedStep_mirrors hinj h' i
  exact ⟨accepted'', hprefix.trans hprefix', h''⟩

/-- The state keeps its close. -/
theorem after_runClosed (h : m.evidence.runClosed = some runClosed) (steps : List (SharedStep D S)) :
    (after (sharedStep config casefold uuid5 closeSha256 sha256 sink) m
      steps).evidence.runClosed = some runClosed := by
  refine run_induction _ (P := fun m' : Machine D S => m'.evidence.runClosed = some runClosed) ?_ h
    steps
  intro m' i h'
  cases i with
  | delivered d => exact h'
  | called call own =>
    rw [evidence_called]
    rcases step_runClosed config casefold uuid5 closeSha256 sha256 sink m' call with
      hsame | ⟨hnone, -⟩
    · exact hsame.trans h'
    · exact absurd (hnone.symm.trans h') (by simp)

variable (config casefold uuid5 closeSha256 sha256 sink) in
/-- The records of a Run that the ledger has closed stay as they are. -/
theorem after_runRecords {runId : RunId} (h : m.ingress.ledger.Closed runId)
    (steps : List (SharedStep D S)) :
    (after (sharedStep config casefold uuid5 closeSha256 sha256 sink) m
      steps).ingress.ledger.runRecords runId = m.ingress.ledger.runRecords runId := by
  have hrun := run_induction (sharedStep config casefold uuid5 closeSha256 sha256 sink)
    (P := fun m' => m'.ingress.ledger.Closed runId ∧
      m'.ingress.ledger.runRecords runId = m.ingress.ledger.runRecords runId) ?_ ⟨h, rfl⟩ steps
  · exact hrun.2
  rintro m' i ⟨hclosed, hsame⟩
  rcases sharedStep_ledger config casefold uuid5 closeSha256 sha256 sink m' i with
    hledger | ⟨d, result, hcommits⟩
  · rw [hledger]
    exact ⟨hclosed, hsame⟩
  · exact ⟨hcommits.grows.closed hclosed, (hcommits.frozen hclosed).trans hsame⟩

section Closed

variable (hinj : Function.Injective sha256) (h : Mirrors config sha256 m accepted)
  (hclose : m.evidence.runClosed = some runClosed)
  (hclosed : m.ingress.ledger.Closed runClosed.runId)

include hinj h hclose hclosed

/-- A state that comes to the coverage of its close has its chunks from the ledger. -/
theorem Mirrors.hasChunk_of_covered {later : List (SharedStep D S)}
    (hcovered : (after (sharedStep config casefold uuid5 closeSha256 sha256 sink) m
      later).evidence.chunkCoverageDiagnostics config = []) :
    (∀ item ∈ runClosed.finalWatermarks, config.isRequiredPartitionKey item.partition = true →
      ∀ n, 1 ≤ n → n ≤ item.coveredThroughChunkSequence →
        m.ingress.ledger.HasChunk item.partition n) ∧
    ∀ item ∈ m.evidence.chunkSequenceIdentities, config.isRequiredPartitionKey item.1.1 = true →
      Seals runClosed item.1.1 item.1.2 := by
  obtain ⟨accepted', hprefix, h'⟩ := after_mirrors casefold uuid5 closeSha256 sink hinj h later
  obtain ⟨hwithin, hcovers⟩ := (covered_iff h'.toHeld (after_runClosed hclose later)).mp hcovered
  refine ⟨fun item hitem hrequired n h1 hle => ?_, fun item hitem hrequired => ?_⟩
  · obtain ⟨chunk, hchunk, hkey⟩ := hcovers item hitem hrequired n h1 hle
    obtain ⟨hpartition, hsequence⟩ := Prod.mk.inj hkey
    have hlater := (h'.recorded chunk hchunk).hasChunk
    rw [hpartition, hsequence] at hlater
    have hfrozen := after_runRecords config casefold uuid5 closeSha256 sha256 sink hclosed later
    rw [← runClosed.partitions_scope item hitem] at hfrozen
    exact (Ledger.hasChunk_of_runRecords hfrozen n).mp hlater
  · obtain ⟨chunk, hchunk, hkey⟩ := (holds_iff h.toHeld item.1).mpr ⟨item, hitem, rfl⟩
    exact hwithin item.1 ⟨chunk, hprefix.subset hchunk, hkey⟩ hrequired

variable (casefold uuid5 closeSha256 sink) in
/-- The ledger has closed the Run, and a state that runs waits for the chunks of its close. It can
be brought to their coverage exactly when the ledger has them, and what the state holds is within
the close. -/
theorem Mirrors.completes_iff (hrunning : m.evidence.snapshot.isTerminal = false) :
    (∃ later, (after (sharedStep config casefold uuid5 closeSha256 sha256 sink) m
        later).evidence.chunkCoverageDiagnostics config = []) ↔
      (∀ item ∈ runClosed.finalWatermarks, config.isRequiredPartitionKey item.partition = true →
        ∀ n, 1 ≤ n → n ≤ item.coveredThroughChunkSequence →
          m.ingress.ledger.HasChunk item.partition n) ∧
      ∀ item ∈ m.evidence.chunkSequenceIdentities, config.isRequiredPartitionKey item.1.1 = true →
        Seals runClosed item.1.1 item.1.2 := by
  refine ⟨fun hlater => h.hasChunk_of_covered hinj hclose hclosed hlater.choose_spec, ?_⟩
  rintro ⟨hhas, hwithin⟩
  have hholds : ∀ key, Holds accepted key → config.isRequiredPartitionKey key.1 = true →
      Seals runClosed key.1 key.2 := by
    intro key hkey hrequired
    obtain ⟨item, hitem, rfl⟩ := (holds_iff h.toHeld key).mp hkey
    exact hwithin item hitem hrequired
  have hkeys : ∀ key ∈ config.coveredKeys runClosed, config.Takes key.1 ∧
      Seals runClosed key.1 key.2 ∧ m.ingress.ledger.HasChunk key.1 key.2 := by
    intro key hkey
    obtain ⟨item, hitem, hrequired, hn, hpartition⟩ := mem_coveredKeys.mp hkey
    rw [← hpartition]
    exact ⟨takes_of_required h hclose hitem hrequired, ⟨item, hitem, rfl, hn.2⟩,
      hhas item hitem hrequired key.2 hn.1 hn.2⟩
  obtain ⟨later, accepted', h', hclose', hiff⟩ :=
    h.exists_steps casefold uuid5 closeSha256 sink hinj hrunning hclose hkeys
  refine ⟨later, (covered_iff h'.toHeld hclose').mpr ⟨fun key hkey hrequired => ?_,
    fun item hitem hrequired n h1 hle => ?_⟩⟩
  · rcases (hiff key).mp hkey with hold | hnew
    · exact hholds key hold hrequired
    · obtain ⟨item, hitem, -, hn, hpartition⟩ := mem_coveredKeys.mp hnew
      exact ⟨item, hitem, hpartition, hn.2⟩
  · exact (hiff _).mpr (.inr (mem_coveredKeys.mpr ⟨item, hitem, hrequired, ⟨h1, hle⟩, rfl⟩))

end Closed

variable (config casefold uuid5 closeSha256 sha256 sink) {s : IncrementalEvidenceState D}
  (hinj : Function.Injective sha256) (hinit : IncrementalEvidenceState.init config = .ok s)
  (sink₀ : S) (steps : List (SharedStep D S))

include hinj hinit

/-- Where the ledger has exactly the chunks that an accepted close covers, a state that waits for
them can be brought to the coverage of the close. -/
theorem completes_of_coversExactly :
    let m := after (sharedStep config casefold uuid5 closeSha256 sha256 sink) ⟨s, ⟨.empty, sink₀⟩⟩ steps
    m.evidence.runClosed = some runClosed → m.evidence.snapshot.isTerminal = false →
      Recorded sha256 m.ingress.ledger (.runClosed runClosed) →
      CoversExactly m.ingress.ledger runClosed →
      ∃ later, (after (sharedStep config casefold uuid5 closeSha256 sha256 sink) m
        later).evidence.chunkCoverageDiagnostics config = [] := by
  rintro m hclose hrunning ⟨⟨hfinals, -⟩, hrow⟩ hcovers
  obtain ⟨accepted, -, h⟩ :=
    after_mirrors casefold uuid5 closeSha256 sink hinj (mirrors_init hinit sink₀) steps
  refine (h.completes_iff casefold uuid5 closeSha256 sink hinj hclose ⟨_, hrow, rfl⟩ hrunning).mpr
    ⟨fun item hitem _ n h1 hle => (hcovers item hitem n).mpr ⟨h1, hle⟩, fun item hitem _ => ?_⟩
  -- What the state holds is in the ledger, whose partitions the close names.
  obtain ⟨chunk, hchunk, hkey⟩ := (holds_iff h.toHeld item.1).mpr ⟨item, hitem, rfl⟩
  have hhas := (h.recorded chunk hchunk).hasChunk
  have hrun : chunk.partition.runId = runClosed.runId :=
    RunId.eq_of_val ((h.takes chunk hchunk).1.trans (h.close runClosed hclose).symm)
  obtain ⟨final, hfinal, heq⟩ := (hfinals.partition_iff chunk.partition).mpr
    ⟨hrun, .inl ⟨_, (h.recorded chunk hchunk).row, rfl⟩⟩
  rw [← hkey]
  rw [← heq] at hhas
  exact ⟨final, hfinal, heq, ((hcovers final hfinal _).mp hhas).2⟩

/-- Where the ledger has closed the Run without a chunk that its close covers, a state that waits
for it is never finalized. -/
theorem never_finalized {item : R1FinalPartitionWatermark} {n : Nat} :
    let m := after (sharedStep config casefold uuid5 closeSha256 sha256 sink) ⟨s, ⟨.empty, sink₀⟩⟩ steps
    m.evidence.runClosed = some runClosed → m.ingress.ledger.Closed runClosed.runId →
      item ∈ runClosed.finalWatermarks → config.isRequiredPartitionKey item.partition = true →
      1 ≤ n → n ≤ item.coveredThroughChunkSequence → ¬ m.ingress.ledger.HasChunk item.partition n →
      ∀ later, (after (sharedStep config casefold uuid5 closeSha256 sha256 sink) m
        later).evidence.snapshot.status ≠ .finalized := by
  intro m hclose hclosed hitem hrequired h1 hle hmissing later hfinal
  obtain ⟨accepted, -, h⟩ :=
    after_mirrors casefold uuid5 closeSha256 sink hinj (mirrors_init hinit sink₀) steps
  have hsound : Sound config casefold uuid5 closeSha256
      (after (sharedStep config casefold uuid5 closeSha256 sha256 sink) ⟨s, ⟨.empty, sink₀⟩⟩
        (steps ++ later)).evidence := by
    refine run_induction _ (P := fun m' : Machine D S =>
      Sound config casefold uuid5 closeSha256 m'.evidence) (fun m' i hm' => ?_) (sound_init hinit) _
    cases i with
    | delivered d => exact hm'
    | called call own =>
      rw [evidence_called]
      exact hm'.effect (step_effect m' call)
  rw [after_append] at hsound
  obtain ⟨given, hgiven⟩ := hsound.final hfinal
  exact hmissing ((h.hasChunk_of_covered hinj hclose hclosed hgiven.covered).1 item hitem hrequired n
    h1 hle)

end Runs

end IncidentAwareness.Incremental
