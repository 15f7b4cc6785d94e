import IncidentAwareness.Position.SpoolSpec

/-!
# Records inside the bound

An issuer checks the chunk files of the spool beyond the covered sequences; the
ledger checks new chunks once it has the close. A chunk that is published and
consumed in between meets neither check, and a close is accepted over it
(`noBoundedOutside_fails`). Where every chunk consumed in between, of the
closed partition and beyond the covered sequences, is past the bound
(`KeepsBound`), no recorded chunk outside the close holds a bounded record
(`noBoundedOutside_of_keepsBound`).
-/

namespace IncidentAwareness.Position

open IncidentAwareness.Common IncidentAwareness.Lib IncidentAwareness.Stream Ledger

variable {D S : Type}

/-! ## Chunks outside a close -/

/-- The chunk of a file is of the closed partition and beyond the covered
sequences. -/
def Beyond (close : R1RecordPositionClose D) (c : R1EventChunk D) : Prop :=
  c.partition = close.partition ∧ close.coveredThroughChunkSequence < c.chunkSequence

/-- All Events of a chunk are past the bound of a close. -/
def PastBound (close : R1RecordPositionClose D) (c : R1EventChunk D) : Prop :=
  ∀ e ∈ c.events, RecordIdAbove close.positionFrontier.upperRecordId e

/-- Every recorded chunk of the closed partition beyond the covered sequences
has only Events past the bound. -/
def BoundedInside (sha : CanonicalPayload → D) (v : SpoolView D)
    (close : R1RecordPositionClose D) : Prop :=
  ∀ f ∈ v.outbox, ∀ c, f.message = .eventChunk c → chunkRow sha c ∈ v.ledger.chunks →
    Beyond close c → PastBound close c

/-- Every recorded chunk is one of the outbox. -/
def RecordedFromOutbox (sha : CanonicalPayload → D) (v : SpoolView D) : Prop :=
  ∀ row ∈ v.ledger.chunks, ∃ f ∈ v.outbox, ∃ c, f.message = .eventChunk c ∧ row = chunkRow sha c

/-- Chunks with one row have the same partition, sequence and Events. -/
theorem payload_eq_of_chunkRow {sha : CanonicalPayload → D} (hinj : Function.Injective sha)
    {c c' : R1EventChunk D} (h : chunkRow sha c = chunkRow sha c') :
    c.toR1EventChunkPayload = c'.toR1EventChunkPayload := by
  have hsha : chunkSha256 sha c = chunkSha256 sha c' := congrArg ChunkRow.contentSha256 h
  simpa using hinj hsha

theorem Beyond.of_payload_eq {close : R1RecordPositionClose D} {c c' : R1EventChunk D}
    (h : c.toR1EventChunkPayload = c'.toR1EventChunkPayload) (hc : Beyond close c') :
    Beyond close c := by
  unfold Beyond
  rw [h]
  exact hc

theorem PastBound.of_payload_eq {close : R1RecordPositionClose D} {c c' : R1EventChunk D}
    (h : c.toR1EventChunkPayload = c'.toR1EventChunkPayload) (hc : PastBound close c') :
    PastBound close c := by
  unfold PastBound
  rw [h]
  exact hc

/-- The Run of a close has no accepted position close. -/
def Open (l : Ledger D) (close : R1RecordPositionClose D) : Prop :=
  ∀ row ∈ l.positionCloses, row.partition.runId ≠ close.runId

/-- A consumed chunk is past the bound of every close that is issued and not
accepted, when it is of the closed partition and beyond the covered sequences. -/
def KeepsBound (s : SpoolSystem D S) : SpoolStep D → Prop
  | .consume name _ _ _ => ∀ f, s.spool.outbox.get name = some f → ∀ c, f.message = .eventChunk c →
      ∀ close, s.Issued close → Open s.ledger close → Beyond close c → PastBound close c
  | _ => True

variable [DecidableEq D] (sha : CanonicalPayload → D) (sha256 : PositionPayload D → D)
  (sink : DeadLetterSink S)

/-- When a close is first accepted, and in every later state, every recorded
chunk of its partition beyond the covered sequences has only Events past its
bound. -/
def NoBoundedOutside (sink₀ : S) (steps : List (SpoolStep D)) : Prop :=
  ∀ before later messagePath contract now crash close r,
    before ++ .consumeClose messagePath contract now crash :: later <+: steps →
    (spoolAfter sha sha256 sink sink₀ before).spool.positionClose = some close →
    (spoolStep sha sha256 sink (spoolAfter sha sha256 sink sink₀ before)
      (.consumeClose messagePath contract now crash)).2 = .ok (.positionClose ⟨true, r⟩) →
    BoundedInside sha (spoolAfter sha sha256 sink sink₀ before).view close ∧
    BoundedInside sha (spoolAfter sha sha256 sink sink₀
      (before ++ .consumeClose messagePath contract now crash :: later)).view close

variable {sha sha256 sink}

/-! ## Before the close is accepted -/

/-- The ledger's chunks come from the outbox, and those outside an issued close
that is not accepted are past its bound. -/
structure BoundKept (sha : CanonicalPayload → D) (v : SpoolView D) : Prop where
  recorded : RecordedFromOutbox sha v
  bounded : ∀ close, close ∈ v.issuing ∨ v.positionClose = some close → Open v.ledger close →
    BoundedInside sha v close

omit [DecidableEq D] in
/-- A file published over the recorded chunks brings no recorded chunk of its own. -/
theorem BoundedInside.publish (hinj : Function.Injective sha) {v : SpoolView D}
    (hrec : RecordedFromOutbox sha v) {file : SpoolFile D}
    {t : Table (SameKey (SpoolFile.name (D := D)))} (ht : v.outbox.insert? file = some t)
    {close : R1RecordPositionClose D} (h : BoundedInside sha v close) :
    BoundedInside sha { v with outbox := t } close := by
  intro f hf c hc hrow hbeyond
  rcases (Table.mem_of_insert? ht).mp hf with hf | rfl
  · exact h f hf c hc hrow hbeyond
  · obtain ⟨f', hf', c', hc', heq⟩ := hrec _ hrow
    have hp := payload_eq_of_chunkRow hinj heq
    exact .of_payload_eq hp (h f' hf' c' hc' (heq ▸ hrow) (.of_payload_eq hp.symm hbeyond))

omit [DecidableEq D] in
/-- A delivery that records no chunk outside the bound. -/
theorem BoundedInside.commits (hinj : Function.Injective sha) {v : SpoolView D}
    {d : Delivery D} {r : R1StreamDeliveryResult} {l : Ledger D}
    (hc : Commits sha v.ledger d r l) {close : R1RecordPositionClose D}
    (hnew : ∀ c now, d = .chunk c now → chunkRow sha c ∉ v.ledger.chunks → Beyond close c →
      AdmitsChunk sha v.ledger c → PastBound close c)
    (h : BoundedInside sha v close) : BoundedInside sha { v with ledger := l } close := by
  cases hc with
  | chunkReplay => exact h
  | watermarkReplay => exact h
  | runCloseReplay => exact h
  | watermark => exact h
  | runClosed => exact h
  | @chunk c now _ admits records =>
    intro f hf c' hc' hrow hbeyond
    simp only [Table.mem_def, records.chunks, List.mem_append, List.mem_singleton] at hrow
    rcases hrow with hrow | heq
    · exact h f hf c' hc' hrow hbeyond
    · have hp := payload_eq_of_chunkRow hinj heq
      have hnotin : chunkRow sha c ∉ v.ledger.chunks :=
        fun hmem => (admits.new _ hmem rfl).1 rfl
      exact .of_payload_eq hp (hnew c now rfl hnotin (.of_payload_eq hp.symm hbeyond) admits)

omit [DecidableEq D] in
theorem RecordedFromOutbox.commits {v : SpoolView D} {file : SpoolFile D} (hf : file ∈ v.outbox)
    {now : PyDatetime} {r : R1StreamDeliveryResult} {l : Ledger D}
    (hc : Commits sha v.ledger (file.message.delivery now) r l) (h : RecordedFromOutbox sha v) :
    RecordedFromOutbox sha { v with ledger := l } := by
  cases hm : file.message with
  | sourceWatermark w =>
    rw [hm] at hc
    cases hc with
    | watermarkReplay => exact h
    | watermark => exact h
  | runClosed w =>
    rw [hm] at hc
    cases hc with
    | runCloseReplay => exact h
    | runClosed => exact h
  | eventChunk c =>
    rw [hm] at hc
    cases hc with
    | chunkReplay => exact h
    | chunk _ records =>
      intro row hrow
      simp only [Table.mem_def, records.chunks, List.mem_append, List.mem_singleton] at hrow
      rcases hrow with hrow | rfl
      · exact h row hrow
      · exact ⟨file, hf, c, hm, rfl⟩

theorem RecordedFromOutbox.moves {v v' : SpoolView D} {x : SpoolStep D}
    (hm : Moves sha sha256 v x v') (h : RecordedFromOutbox sha v) : RecordedFromOutbox sha v' := by
  cases hm with
  | stay => exact h
  | issue => exact h
  | publishClose => exact h
  | publish inserted =>
    intro row hrow
    obtain ⟨f, hf, c, hc⟩ := h row hrow
    exact ⟨f, (Table.mem_of_insert? inserted).mpr (.inl hf), c, hc⟩
  | consume listed commits => exact h.commits (Table.get_eq_some.mp listed).1 commits
  | consumeClose _ commits =>
    cases commits with
    | replay => exact h
    | first => exact h

/-- What an issuer verified: the recorded chunks outside its close are past the bound. -/
theorem boundedInside_of_issued {v : SpoolView D} {spool : RunSpool D}
    (hspool : spool.outbox = v.outbox) {sources : R1SnapshotSources D} {now : PyDatetime}
    {close : R1RecordPositionClose D}
    (h : issuePositionClose sha sha256 spool sources now = .ok close) :
    BoundedInside sha v close := by
  intro f hf c hc _ hbeyond
  have hmem : (f, c) ∈ spool.eventChunkFiles := mem_eventChunkFiles.mpr ⟨hspool ▸ hf, hc⟩
  exact issuePositionClose_eq_ok h (f, c) hmem hbeyond.2

theorem BoundKept.step (hinj : Function.Injective sha) (s : SpoolSystem D S) (x : SpoolStep D)
    (h : BoundKept sha s.view) (hx : KeepsBound s x) :
    BoundKept sha (spoolStep sha sha256 sink s x).1.view := by
  have hm := spoolStep_moves sha sha256 sink s x
  refine ⟨h.recorded.moves hm, fun close hissued hopen => ?_⟩
  generalize (spoolStep sha sha256 sink s x).1.view = v' at hm hissued hopen
  cases hm with
  | stay => exact h.bounded close hissued hopen
  | publish inserted => exact (h.bounded close hissued hopen).publish hinj h.recorded inserted
  | @consume name contract now crash file result l listed commits =>
    have hopen' : Open s.ledger close := by
      have hpc := commits.grows.positionCloses
      unfold Open at hopen ⊢
      rwa [hpc] at hopen
    refine (h.bounded close hissued hopen').commits hinj commits
      fun c now' heq _ hbeyond _ => ?_
    have hfile : file.message = .eventChunk c := by
      cases hmessage : file.message with
      | eventChunk c' =>
        rw [hmessage] at heq
        cases heq
        rfl
      | sourceWatermark w => rw [hmessage] at heq; cases heq
      | runClosed r => rw [hmessage] at heq; cases heq
    exact hx file listed c hfile close hissued hopen' hbeyond
  | issue outbox issued =>
    rcases hissued with hissued | hpublished
    · rcases List.mem_cons.mp hissued with rfl | hissued
      · exact boundedInside_of_issued outbox issued
      · exact h.bounded close (.inl hissued) hopen
    · exact h.bounded close (.inr hpublished) hopen
  | publishClose issued new =>
    rcases hissued with hissued | hpublished
    · exact h.bounded close (.inl hissued) hopen
    · obtain rfl := Option.some.inj hpublished
      exact h.bounded _ (.inl issued) hopen
  | consumeClose published commits =>
    cases commits with
    | replay => exact h.bounded close hissued hopen
    | first _ inserted =>
      refine h.bounded close hissued fun row hrow => ?_
      exact hopen row ((Table.mem_of_insert? inserted).mpr (.inl hrow))

/-! ## After the close is accepted -/

/-- What an accepted close keeps in the view. -/
structure Accepted (sha : CanonicalPayload → D) (sha256 : PositionPayload D → D) (v : SpoolView D)
    (close : R1RecordPositionClose D) (r : R1AcceptedRecordPositionCloseReceipt D) : Prop where
  closed : ClosedBy sha256 v.ledger close r
  recorded : RecordedFromOutbox sha v
  bounded : BoundedInside sha v close

theorem Accepted.moves (hinj : Function.Injective sha) {v v' : SpoolView D} {x : SpoolStep D}
    {close : R1RecordPositionClose D} {r : R1AcceptedRecordPositionCloseReceipt D}
    (hm : Moves sha sha256 v x v') (h : Accepted sha sha256 v close r) :
    Accepted sha sha256 v' close r := by
  have hrecorded := h.recorded.moves hm
  cases hm with
  | stay => exact h
  | issue => exact ⟨h.closed, hrecorded, h.bounded⟩
  | publishClose => exact ⟨h.closed, hrecorded, h.bounded⟩
  | publish inserted => exact ⟨h.closed, hrecorded, h.bounded.publish hinj h.recorded inserted⟩
  | consume listed commits =>
    have hkeeps := Commits.keeps (fun k h1 h2 => h.closed.hasChunk h1 h2) commits
    refine ⟨h.closed.of_keeps hkeeps, hrecorded, h.bounded.commits hinj commits ?_⟩
    intro c now _ _ hbeyond admits
    obtain ⟨row, hrow, hp, hu⟩ := h.closed.row
    have hrun : row.partition.runId = c.partition.runId := by rw [hp, hbeyond.1]
    obtain ⟨-, hpast⟩ := postPositionClose_of_mem hrow hrun admits.postPositionClose
    rw [hu] at hpast
    exact fun e he => (hpast e he).recordIdAbove
  | consumeClose published commits =>
    have hkeeps := CommitsClose.keeps close.partition close.coveredThroughChunkSequence commits
    refine ⟨h.closed.of_keeps hkeeps, hrecorded, ?_⟩
    cases commits with
    | replay => exact h.bounded
    | first => exact h.bounded

/-- A close that `consume` accepted first: the ledger had none of its Run. -/
theorem consumeClose_accepted {s : SpoolSystem D S} {messagePath : String}
    {contract : R1RequiredPartitionContract} {now : PyDatetime} {crash : Bool} {close : R1RecordPositionClose D}
    {r : R1AcceptedRecordPositionCloseReceipt D} (hclose : s.spool.positionClose = some close)
    (h : (consumePositionClose sha256 s messagePath contract now crash).2 = .ok (.positionClose ⟨true, r⟩)) :
    s.spool.positionCloseAck = none ∧ ContractBinds sha256 close contract ∧
      ∃ acceptedAt, utcMilliseconds now = .ok acceptedAt ∧
        CommitsClose sha256 s.ledger close acceptedAt ⟨true, r⟩
          (consumePositionClose sha256 s messagePath contract now crash).1.ledger := by
  unfold consumePositionClose at h ⊢
  cases hack : s.spool.positionCloseAck with
  | some ack =>
    rw [hack] at h
    cases h
  | none =>
    simp only [hack, hclose] at h ⊢
    cases hd : (deliverPositionClose sha256 s.ingress close contract now).2 with
    | error e => simp [hd] at h
    | ok a =>
      simp only [hd, Except.ok.injEq, SpoolAnswer.positionClose.injEq] at h
      obtain ⟨hbinds, acceptedAt, hclock, hcommits⟩ := deliverPositionClose_eq_ok hd
      rw [h] at hcommits
      exact ⟨trivial, hbinds, acceptedAt, hclock, hcommits⟩

omit [DecidableEq D] in
theorem CommitsClose.open {l l' : Ledger D} {close : R1RecordPositionClose D}
    {acceptedAt : UtcMillis} {r : R1AcceptedRecordPositionCloseReceipt D}
    (h : CommitsClose sha256 l close acceptedAt ⟨true, r⟩ l') :
    Open l close ∧ l'.chunks = l.chunks := by
  cases h with
  | first _ inserted =>
    refine ⟨fun row hrow hrun => ?_, rfl⟩
    exact (Table.insert?_eq_some.mp inserted).1 row hrow (hrun.trans close.partition_runId.symm)

omit [DecidableEq D] in
theorem BoundKept.initial (sink₀ : S) :
    BoundKept sha (SpoolSystem.initial sink₀ : SpoolSystem D S).view where
  recorded := fun _ hrow => absurd hrow (Table.not_mem_empty _)
  bounded := by
    rintro close (hissuing | hpublished)
    · exact absurd hissuing List.not_mem_nil
    · cases hpublished

variable (sha256 sink) in
/-- In every run of producers, consumers and issuers in which each chunk that is
consumed between the issue of a close and its acceptance, of the closed
partition and beyond the covered sequences, is past the bound, no recorded chunk
outside an accepted close holds a record inside its bound. -/
theorem noBoundedOutside_of_keepsBound (hinj : Function.Injective sha) (sink₀ : S)
    (steps : List (SpoolStep D))
    (h : Meets (spoolStep sha sha256 sink) KeepsBound (.initial sink₀) steps) :
    NoBoundedOutside sha sha256 sink sink₀ steps := by
  intro before later messagePath contract now crash close r hprefix hclose hok
  have hbefore : Meets (spoolStep sha sha256 sink) KeepsBound (.initial sink₀) before :=
    h.of_prefix ((List.prefix_append before _).trans hprefix)
  have hkept : BoundKept sha (spoolAfter sha sha256 sink sink₀ before).view :=
    run_of_meets (spoolStep sha sha256 sink) (P := fun s => BoundKept sha s.view)
      (fun s x hs hx => hs.step hinj s x hx) (.initial sink₀) hbefore
  obtain ⟨-, -, acceptedAt, -, hcommits⟩ := consumeClose_accepted hclose hok
  obtain ⟨hopen, hchunks⟩ := hcommits.open
  have hinside := hkept.bounded close (.inr hclose) hopen
  refine ⟨hinside, ?_⟩
  have haccepted : Accepted sha sha256 (spoolStep sha sha256 sink
      (spoolAfter sha sha256 sink sink₀ before) (.consumeClose messagePath contract now crash)).1.view close
      r := by
    have hm := spoolStep_moves sha sha256 sink (spoolAfter sha sha256 sink sink₀ before)
      (.consumeClose messagePath contract now crash)
    refine ⟨CommitsClose.closedBy hcommits, hkept.recorded.moves hm, ?_⟩
    generalize hv : (spoolStep sha sha256 sink (spoolAfter sha sha256 sink sink₀ before)
      (.consumeClose messagePath contract now crash)).1.view = v' at hm
    cases hm with
    | stay => exact hinside
    | consumeClose _ commits =>
      cases commits with
      | replay => exact hinside
      | first => exact hinside
  have hlater : Accepted sha sha256 (after (spoolStep sha sha256 sink) (spoolStep sha sha256 sink
      (spoolAfter sha sha256 sink sink₀ before) (.consumeClose messagePath contract now crash)).1 later).view
      close r :=
    run_induction (spoolStep sha sha256 sink) (P := fun s => Accepted sha sha256 s.view close r)
      (fun s x hs => hs.moves hinj (spoolStep_moves sha sha256 sink s x)) haccepted later
  have hafter : spoolAfter sha sha256 sink sink₀
      (before ++ .consumeClose messagePath contract now crash :: later) =
      after (spoolStep sha sha256 sink) (spoolStep sha sha256 sink
        (spoolAfter sha sha256 sink sink₀ before) (.consumeClose messagePath contract now crash)).1 later := by
    rw [spoolAfter, after_append, after, run_cons]
  rw [hafter]
  exact hlater.bounded

/-! ## A chunk between issue and acceptance -/

namespace Sample

open Stream.Sample (discard now)

/-- The raw record of RecordId 5. -/
def rawRecord : RawRecord :=
  ⟨some 5, some 1, some "host-a", some "Microsoft-Windows-Sysmon/Operational"⟩

/-- The artifacts of a snapshot with the bound 5, covered by chunk 1. -/
def sources : R1SnapshotSources Digest where
  request :=
    { requestId := requestId
      partition := Stream.Sample.partition
      candidateBoundaryAt := 1000
      observationBoundaryAt := 2000
      requestedAt := 2000
      candidate_le_observation := candidate_le_observation
      observation_le_requested := Int.le_refl 2000 }
  ack :=
    { requestId := requestId
      partition := Stream.Sample.partition
      sourceLowerRecordId := 5
      sourceUpperRecordId := 5
      targetEventCount := 1
      targetIdentitySha256 := .file 2
      coveredThroughChunkSequence := 1
      rawSegmentInventorySha256 := .file 9
      ackedAt := 2000
      lower_pos := one_le_five
      lower_le_upper := five_le_five
      targetEventCount_pos := Nat.one_pos
      covered_pos := Nat.one_pos }
  finalized := ⟨requestId, Stream.Sample.partition, 5, 5, 1, .file 2, 2000⟩
  contract := contract
  canonicalRecords := [rawRecord]
  segments := fun n => if n = 1 then some [rawRecord] else none
  inventorySha256 := .file 9
  fileGates := .ok ()
  reconciledAt := 2000
  channelGenerationId := .file 0
  freezeRequestSha256 := .file 3
  freezeAckSha256 := .file 4
  runFinalizedSha256 := .file 5
  reconciliationSha256 := .file 6
  freezeGenerationObservationSha256 := .file 7
  exportGenerationObservationSha256 := .file 8

/-- The close that is issued over `chunk₁`. -/
def issuedClose : R1RecordPositionClose Digest :=
  { close with
    closeId := ⟨"RUN-20260101-001-record-position-close-v0.1", by decide, by decide⟩
    sourceNativeIdentitySha256 := .snapshotIdentities
      [⟨Stream.Sample.partition.hostId, Stream.Sample.partition.sourceChannel, 5, 1⟩] }

def file₁ : SpoolFile Digest := ⟨1, .eventChunk chunk₁⟩

def file₂ : SpoolFile Digest := ⟨2, .eventChunk chunk₂⟩

def file₃ : SpoolFile Digest := ⟨2, .eventChunk chunk₃⟩

/-- The path of the published close, as its consumer resolves it. -/
def closePath : String :=
  "/spool/RUN-20260101-001/position-finality/outbox/record-position-close.json"

/-- `chunk₁` is delivered, and the close over it published. -/
def issueSteps : List (SpoolStep Digest) :=
  [.publish file₁, .consume file₁.name contract now false, .issue sources (.aware 3000000 0),
    .publishClose issuedClose]

/-- `chunk₂` is delivered before the close is. -/
def escapeSteps : List (SpoolStep Digest) :=
  issueSteps ++ [.publish file₂, .consume file₂.name contract now false]

/-- `chunk₃` is delivered between the issue of the close and its acceptance. -/
def passSteps : List (SpoolStep Digest) :=
  issueSteps ++ [.publish file₃, .consume file₃.name contract now false,
    .consumeClose closePath contract (.aware 4000000 0) false]

theorem pastBound_chunk₃ : PastBound issuedClose chunk₃ := by
  intro e he
  obtain rfl := List.mem_singleton.mp he
  exact ⟨6, by rfl, by decide⟩

/-- The receipt of the issued close. -/
def issuedReceipt : R1AcceptedRecordPositionCloseReceipt Digest :=
  receipt 1 Nat.one_pos
    (positionCloseRow issuedClose (positionSha256 (.positionClose issuedClose)) 4000)

end Sample

open Sample Stream.Sample in
theorem noBoundedOutside_of_keepsBound_issued :
    NoBoundedOutside Digest.stream positionSha256 discard () passSteps := by
  refine noBoundedOutside_of_keepsBound positionSha256 discard stream_injective () _ ?_
  refine meets_cons trivial (meets_cons ?_ (meets_cons trivial (meets_cons trivial
    (meets_cons trivial (meets_cons ?_ (meets_cons trivial meets_nil))))))
  · intro f _ c _ close hissued
    rcases hissued with hissued | hissued
    · exact absurd hissued List.not_mem_nil
    · cases hissued
  · -- Between issue and acceptance the only close is the issued one, and `chunk₃` is past it.
    intro f hf c hc close hissued hopen hbeyond
    have hfile : file₃ = f := Option.some.inj hf
    rw [← hfile] at hc
    obtain rfl : Sample.chunk₃ = c := SpoolMessage.eventChunk.inj hc
    have hclose : close = issuedClose := by
      rcases hissued with hissued | hissued
      · exact List.mem_singleton.mp hissued
      · exact (Option.some.inj hissued).symm
    rw [hclose]
    exact pastBound_chunk₃

open Sample Stream.Sample in
theorem noBoundedOutside_fails :
    ¬ ∀ steps, NoBoundedOutside Digest.stream positionSha256 discard () steps := by
  intro h
  have hinside := (h _ escapeSteps [] closePath contract (.aware 4000000 0) false issuedClose
    issuedReceipt List.prefix_rfl (by rfl) (by rfl)).1
  have hrows : (spoolAfter Digest.stream positionSha256 discard () escapeSteps).ledger.chunks.rows =
      [chunkRow Digest.stream Sample.chunk₁, chunkRow Digest.stream Sample.chunk₂] := by rfl
  have hfiles : (spoolAfter Digest.stream positionSha256 discard () escapeSteps).spool.outbox.rows =
      [file₁, file₂] := by rfl
  obtain ⟨n, hn, hlt⟩ := hinside file₂ (by simp [Table.mem_def, SpoolSystem.view, hfiles])
    Sample.chunk₂ rfl (by simp [Table.mem_def, SpoolSystem.view, hrows])
    ⟨rfl, by decide⟩ event₂ List.mem_cons_self
  have hvalue : sourceRecordId (some "4") = .ok 4 := by rfl
  rw [show event₂.rawRef.sourceRecordId = some "4" from rfl, hvalue] at hn
  obtain rfl := Except.ok.inj hn
  exact absurd hlt (by decide)

end IncidentAwareness.Position
