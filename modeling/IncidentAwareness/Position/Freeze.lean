import IncidentAwareness.Position.CloseSpec
import IncidentAwareness.Stream.ExactlyOnce

/-!
# The position-close freeze

The ledger under stream deliveries and position closes together, each one
transaction. Once a close of a partition with upper RecordId `U` over chunks
`1..n` is accepted, the rows of these chunks are the same in every later state
(`after_closed`), a new chunk of the Run brings only Events past `U`, and no
other close of the Run is accepted (`positionCloseFreeze`).
-/

namespace IncidentAwareness.Position

open IncidentAwareness.Common IncidentAwareness.Lib IncidentAwareness.Stream Ledger

variable {D S : Type}

/-! ## Deliveries -/

/-- A delivery to the ledger: one of the stream, or a position close with the
contract and the clock's reading. -/
inductive LedgerDelivery (D : Type) where
  | stream (delivery : Delivery D)
  | positionClose (close : R1RecordPositionClose D) (contract : R1RequiredPartitionContract)
      (now : PyDatetime)

/-- The answer of a delivery. -/
inductive LedgerAnswer (D : Type) where
  | stream (result : R1StreamDeliveryResult)
  | positionClose (admission : R1PositionCloseAdmission D)

variable [DecidableEq D] (sha : CanonicalPayload → D) (sha256 : PositionPayload D → D)
  (sink : DeadLetterSink S)

/-- The transaction of `consume_r1_record_position_close`: it commits, or rolls
back when the ingress raised. -/
def deliverPositionClose (s : IngressState D S) (close : R1RecordPositionClose D)
    (contract : R1RequiredPartitionContract) (now : PyDatetime) :
    IngressState D S × Except PyError (R1PositionCloseAdmission D) :=
  match (acceptPositionClose sha256 now contract close).run s.ledger with
  | .ok a l => ({ s with ledger := l }, .ok a)
  | .error e _ => (s, .error e)

/-- One transaction on the ledger. -/
def deliverLedger (s : IngressState D S) :
    LedgerDelivery D → IngressState D S × Except PyError (LedgerAnswer D)
  | .stream d =>
    let r := deliver sha sink s d
    (r.1, r.2.map .stream)
  | .positionClose close contract now =>
    let r := deliverPositionClose sha256 s close contract now
    (r.1, r.2.map .positionClose)

/-- The state after deliveries to a ledger that was empty. -/
abbrev ledgerAfter (sink₀ : S) (ds : List (LedgerDelivery D)) : IngressState D S :=
  after (deliverLedger sha sha256 sink) ⟨.empty, sink₀⟩ ds

variable {sha sha256 sink}

theorem deliverLedger_stream_eq_ok {s : IngressState D S} {d : Delivery D}
    {r : R1StreamDeliveryResult} :
    (deliverLedger sha sha256 sink s (.stream d)).2 = .ok (.stream r) ↔
      (deliver sha sink s d).2 = .ok r := by
  simp only [deliverLedger]
  cases (deliver sha sink s d).2 with
  | error e => simp [Except.map]
  | ok r' => simp [Except.map]

theorem deliverLedger_positionClose_eq_ok {s : IngressState D S} {close : R1RecordPositionClose D}
    {contract : R1RequiredPartitionContract} {now : PyDatetime} {a : R1PositionCloseAdmission D} :
    (deliverLedger sha sha256 sink s (.positionClose close contract now)).2 =
        .ok (.positionClose a) ↔
      (deliverPositionClose sha256 s close contract now).2 = .ok a := by
  simp only [deliverLedger]
  cases (deliverPositionClose sha256 s close contract now).2 with
  | error e => simp [Except.map]
  | ok a' => simp [Except.map]

theorem deliverPositionClose_eq_ok {s : IngressState D S} {close : R1RecordPositionClose D}
    {contract : R1RequiredPartitionContract} {now : PyDatetime} {a : R1PositionCloseAdmission D}
    (h : (deliverPositionClose sha256 s close contract now).2 = .ok a) :
    ContractBinds sha256 close contract ∧ ∃ acceptedAt, utcMilliseconds now = .ok acceptedAt ∧
      CommitsClose sha256 s.ledger close acceptedAt a
        (deliverPositionClose sha256 s close contract now).1.ledger := by
  unfold deliverPositionClose at h ⊢
  cases hrun : (acceptPositionClose sha256 now contract close).run s.ledger with
  | error e l => simp [hrun] at h
  | ok a' l =>
    simp only [hrun] at h ⊢
    obtain rfl := Except.ok.inj h
    exact acceptPositionClose_eq_ok hrun

theorem deliverPositionClose_eq_error {s : IngressState D S} {close : R1RecordPositionClose D}
    {contract : R1RequiredPartitionContract} {now : PyDatetime} {e : PyError}
    (h : (deliverPositionClose sha256 s close contract now).2 = .error e) :
    (deliverPositionClose sha256 s close contract now).1 = s := by
  unfold deliverPositionClose at h ⊢
  cases hrun : (acceptPositionClose sha256 now contract close).run s.ledger with
  | error e l => rfl
  | ok a' l => simp [hrun] at h

/-! ## What deliveries keep -/

omit [DecidableEq D] in
/-- A chunk recorded beside chunks `1..n` of its partition has another sequence. -/
theorem Commits.coveredRows_eq {l l' : Ledger D} {d : Delivery D} {r : R1StreamDeliveryResult}
    {p : R1StreamPartition} {n : Nat} (hk : ∀ k, 1 ≤ k → k ≤ n → l.HasChunk p k)
    (h : Commits sha l d r l') : coveredRows l' p n = coveredRows l p n := by
  cases h with
  | chunkReplay => rfl
  | watermarkReplay => rfl
  | runCloseReplay => rfl
  | watermark => rfl
  | runClosed => rfl
  | @chunk c now _ admits records =>
    have hout : ¬ ((chunkRow sha c).partition = p ∧ (chunkRow sha c).chunkSequence ≤ n) := by
      rintro ⟨hp, hle⟩
      obtain ⟨row, hrow, hrp, hseq⟩ := hk _ c.chunkSequence_pos hle
      exact (admits.new row hrow (hrp.trans hp.symm)).2 hseq
    simp only [coveredRows, records.chunks, List.filter_append]
    simp [hout]

/-- A delivery extends the chunks and the position closes, and keeps the chunks
`1..n` of a partition that has them. -/
structure Keeps (p : R1StreamPartition) (n : Nat) (l l' : Ledger D) : Prop where
  chunks : l.chunks.rows <+: l'.chunks.rows
  positionCloses : l.positionCloses.rows <+: l'.positionCloses.rows
  covered : coveredRows l' p n = coveredRows l p n

omit [DecidableEq D] in
theorem Keeps.refl (p : R1StreamPartition) (n : Nat) (l : Ledger D) : Keeps p n l l :=
  ⟨List.prefix_rfl, List.prefix_rfl, rfl⟩

omit [DecidableEq D] in
theorem Keeps.trans {p : R1StreamPartition} {n : Nat} {l l' l'' : Ledger D} (h : Keeps p n l l')
    (h' : Keeps p n l' l'') : Keeps p n l l'' :=
  ⟨h.chunks.trans h'.chunks, h.positionCloses.trans h'.positionCloses,
    h'.covered.trans h.covered⟩

omit [DecidableEq D] in
theorem Keeps.hasChunk {p p' : R1StreamPartition} {n k : Nat} {l l' : Ledger D}
    (h : Keeps p n l l') (hk : l.HasChunk p' k) : l'.HasChunk p' k := by
  obtain ⟨r, hr, hp, hs⟩ := hk
  exact ⟨r, h.chunks.subset hr, hp, hs⟩

omit [DecidableEq D] in
theorem Commits.keeps {l l' : Ledger D} {d : Delivery D} {r : R1StreamDeliveryResult}
    {p : R1StreamPartition} {n : Nat} (hk : ∀ k, 1 ≤ k → k ≤ n → l.HasChunk p k)
    (h : Commits sha l d r l') : Keeps p n l l' where
  chunks := h.grows.chunks
  positionCloses := by rw [h.grows.positionCloses]
  covered := Commits.coveredRows_eq hk h

omit [DecidableEq D] in
theorem CommitsClose.keeps {l l' : Ledger D} {close : R1RecordPositionClose D}
    {acceptedAt : UtcMillis} {a : R1PositionCloseAdmission D} (p : R1StreamPartition) (n : Nat)
    (h : CommitsClose sha256 l close acceptedAt a l') : Keeps p n l l' := by
  cases h with
  | replay => exact .refl p n l
  | first _ inserted =>
    exact ⟨List.prefix_rfl, ⟨_, (Table.insert?_eq_some.mp inserted).2.symm⟩, rfl⟩

theorem deliverPositionClose_keeps (p : R1StreamPartition) (n : Nat) (s : IngressState D S)
    (close : R1RecordPositionClose D) (contract : R1RequiredPartitionContract) (now : PyDatetime) :
    Keeps p n s.ledger (deliverPositionClose sha256 s close contract now).1.ledger := by
  cases h : (deliverPositionClose sha256 s close contract now).2 with
  | error e =>
    rw [deliverPositionClose_eq_error h]
    exact .refl p n _
  | ok a =>
    obtain ⟨-, acceptedAt, -, hcommits⟩ := deliverPositionClose_eq_ok h
    exact CommitsClose.keeps p n hcommits

theorem deliverLedger_keeps {p : R1StreamPartition} {n : Nat} (s : IngressState D S)
    (d : LedgerDelivery D) (hk : ∀ k, 1 ≤ k → k ≤ n → s.ledger.HasChunk p k) :
    Keeps p n s.ledger (deliverLedger sha sha256 sink s d).1.ledger := by
  cases d with
  | stream d =>
    show Keeps p n s.ledger (deliver sha sink s d).1.ledger
    rcases deliver_cases sha sink s d with ⟨e, -, hl⟩ | ⟨r, -, hc⟩
    · rw [hl]
      exact .refl p n _
    · exact Commits.keeps hk hc
  | positionClose close contract now => exact deliverPositionClose_keeps p n s close contract now

variable (sha sha256 sink) in
/-- The rows of chunks `1..n` of a partition that has them are the same after
any deliveries. -/
theorem after_keeps {p : R1StreamPartition} {n : Nat} {s : IngressState D S}
    (hk : ∀ k, 1 ≤ k → k ≤ n → s.ledger.HasChunk p k) (ds : List (LedgerDelivery D)) :
    Keeps p n s.ledger (after (deliverLedger sha sha256 sink) s ds).ledger := by
  refine run_induction (deliverLedger sha sha256 sink)
    (P := fun t : IngressState D S => Keeps p n s.ledger t.ledger) (fun t d ht => ?_)
    (.refl p n _) ds
  exact ht.trans (deliverLedger_keeps t d fun k h1 h2 => ht.hasChunk (hk k h1 h2))

/-! ## The freeze -/

/-- What the ledger of `l` keeps of an accepted position close: the receipt, the
row with the frontier and the chunks that the close covers. -/
structure ClosedBy (sha256 : PositionPayload D → D) (l : Ledger D)
    (close : R1RecordPositionClose D) (r : R1AcceptedRecordPositionCloseReceipt D) : Prop where
  receipt : loadAcceptedPositionCloseReceipt l close.runId = some r
  names : Names sha256 r close
  row : ∃ row ∈ l.positionCloses, row.partition = close.partition ∧
    row.upperRecordId = close.positionFrontier.upperRecordId
  covers : CoversChunks sha256 l close

omit [DecidableEq D] in
/-- The ledger right after a first acceptance. -/
theorem CommitsClose.closedBy {l l' : Ledger D} {close : R1RecordPositionClose D}
    {acceptedAt : UtcMillis} {r : R1AcceptedRecordPositionCloseReceipt D}
    (h : CommitsClose sha256 l close acceptedAt ⟨true, r⟩ l') : ClosedBy sha256 l' close r := by
  cases h with
  | first covers inserted recorded names _ =>
    refine ⟨recorded, names, ⟨_, (Table.mem_of_insert? inserted).mpr (.inr rfl), rfl, rfl⟩, ?_⟩
    exact ⟨covers.texts, covers.sequences, covers.digest⟩

omit [DecidableEq D] in
theorem ClosedBy.hasChunk {l : Ledger D} {close : R1RecordPositionClose D}
    {r : R1AcceptedRecordPositionCloseReceipt D} (h : ClosedBy sha256 l close r) {k : Nat}
    (h1 : 1 ≤ k) (hk : k ≤ close.coveredThroughChunkSequence) : l.HasChunk close.partition k :=
  hasChunk_of_selectCoveredChunks h.covers.sequences h1 hk

omit [DecidableEq D] in
theorem ClosedBy.of_keeps {l l' : Ledger D} {close : R1RecordPositionClose D}
    {r : R1AcceptedRecordPositionCloseReceipt D} (h : ClosedBy sha256 l close r)
    (hk : Keeps close.partition close.coveredThroughChunkSequence l l') :
    ClosedBy sha256 l' close r := by
  have hcovered : selectCoveredChunks l' close.partition close.coveredThroughChunkSequence =
      selectCoveredChunks l close.partition close.coveredThroughChunkSequence := by
    rw [selectCoveredChunks_eq, selectCoveredChunks_eq, hk.covered]
  obtain ⟨row, hrow, hp, hu⟩ := h.row
  refine ⟨receipt_of_grown hk.positionCloses h.receipt, h.names,
    ⟨row, hk.positionCloses.subset hrow, hp, hu⟩, ?_⟩
  exact ⟨h.covers.texts, by rw [hcovered, h.covers.sequences], by rw [hcovered, h.covers.digest]⟩

variable (sha sha256 sink) in
/-- An accepted position close stays as it is after any deliveries. -/
theorem after_closed {s : IngressState D S} {close : R1RecordPositionClose D}
    {r : R1AcceptedRecordPositionCloseReceipt D} (h : ClosedBy sha256 s.ledger close r)
    (ds : List (LedgerDelivery D)) :
    ClosedBy sha256 (after (deliverLedger sha sha256 sink) s ds).ledger close r ∧
      coveredRows (after (deliverLedger sha sha256 sink) s ds).ledger close.partition
          close.coveredThroughChunkSequence =
        coveredRows s.ledger close.partition close.coveredThroughChunkSequence := by
  have hkeeps := after_keeps sha sha256 sink (fun k h1 h2 => h.hasChunk h1 h2) ds
  exact ⟨h.of_keeps hkeeps, hkeeps.covered⟩

/-- A chunk of a closed Run that is answered is recorded already, or is of the
closed partition with all its Events past the frontier. -/
theorem ClosedBy.chunk {s : IngressState D S} {close : R1RecordPositionClose D}
    {r : R1AcceptedRecordPositionCloseReceipt D} (h : ClosedBy sha256 s.ledger close r)
    {c : R1EventChunk D} (hrun : c.partition.runId = close.runId) {now : PyDatetime}
    {result : R1StreamDeliveryResult}
    (hok : (deliver sha sink s (.chunk c now)).2 = .ok result) :
    chunkRow sha c ∈ s.ledger.chunks ∨ c.partition = close.partition ∧
      ∀ e ∈ c.events,
        PastFrontier close.positionFrontier.upperRecordId e.rawRef.sourceRecordId := by
  rcases deliver_cases sha sink s (.chunk c now) with ⟨e, he, -⟩ | ⟨result', -, hc⟩
  · simp [he] at hok
  generalize (deliver sha sink s (.chunk c now)).1.ledger = l' at hc
  cases hc with
  | chunkReplay _ recorded => exact .inl recorded
  | chunk admits _ =>
    obtain ⟨row, hrow, hp, hu⟩ := h.row
    have hrow_run : row.partition.runId = c.partition.runId := by
      rw [hp, close.partition_runId, hrun]
    obtain ⟨hcp, hevents⟩ := postPositionClose_of_mem hrow hrow_run admits.postPositionClose
    exact .inr ⟨hcp.trans hp, hu ▸ hevents⟩

omit [DecidableEq D] in
/-- A close of a closed Run that is answered is a replay of the accepted one. -/
theorem ClosedBy.replay {l l' : Ledger D} {close close' : R1RecordPositionClose D}
    {r : R1AcceptedRecordPositionCloseReceipt D} (h : ClosedBy sha256 l close r)
    (hrun : close'.runId = close.runId) {acceptedAt : UtcMillis} {a : R1PositionCloseAdmission D}
    (hc : CommitsClose sha256 l close' acceptedAt a l') :
    a.accepted = false ∧ a.receipt = r ∧ close'.closeId = close.closeId ∧
      close'.partition = close.partition ∧
      recordPositionCloseSha256 sha256 close' = recordPositionCloseSha256 sha256 close := by
  cases hc with
  | replay recorded names =>
    rw [hrun, h.receipt] at recorded
    obtain rfl := Option.some.inj recorded
    exact ⟨rfl, rfl, names.closeId.symm.trans h.names.closeId,
      names.partition.symm.trans h.names.partition, names.content.symm.trans h.names.content⟩
  | first _ inserted _ _ _ =>
    obtain ⟨row, hrow, hp, -⟩ := h.row
    refine absurd ?_ ((Table.insert?_eq_some.mp inserted).1 row hrow)
    show row.partition.runId = close'.partition.runId
    rw [hp, close.partition_runId, close'.partition_runId, hrun]

variable (sha sha256 sink) in
/-- After a position close with upper RecordId `U` over chunks `1..n` is
accepted, in every later state: these chunks are the recorded rows they were,
their sequences are `1..n` and their digest is the close's; a chunk of the Run
that is answered without being recorded already is of the closed partition, and
the RecordIds of its Events are canonical and greater than `U`; and a close of
the Run that is answered is a replay of the accepted one. -/
theorem positionCloseFreeze (sink₀ : S) (before later : List (LedgerDelivery D))
    (close : R1RecordPositionClose D) (contract : R1RequiredPartitionContract) (now : PyDatetime)
    (r : R1AcceptedRecordPositionCloseReceipt D)
    (h : (deliverLedger sha sha256 sink (ledgerAfter sha sha256 sink sink₀ before)
      (.positionClose close contract now)).2 = .ok (.positionClose ⟨true, r⟩)) :
    let n := close.coveredThroughChunkSequence
    let accepted := ledgerAfter sha sha256 sink sink₀ (before ++ [.positionClose close contract now])
    let s := ledgerAfter sha sha256 sink sink₀
      (before ++ .positionClose close contract now :: later)
    (coveredRows s.ledger close.partition n = coveredRows accepted.ledger close.partition n ∧
      CoversChunks sha256 s.ledger close) ∧
    (∀ c now' result, c.partition.runId = close.runId →
      (deliverLedger sha sha256 sink s (.stream (.chunk c now'))).2 = .ok (.stream result) →
      chunkRow sha c ∈ s.ledger.chunks ∨ c.partition = close.partition ∧
        ∀ e ∈ c.events, RecordIdAfter close.positionFrontier.upperRecordId e) ∧
    (∀ close' contract' now' a, close'.runId = close.runId →
      (deliverLedger sha sha256 sink s (.positionClose close' contract' now')).2 =
        .ok (.positionClose a) →
      a.accepted = false ∧ a.receipt = r ∧ close'.closeId = close.closeId ∧
        close'.partition = close.partition ∧
        recordPositionCloseSha256 sha256 close' = recordPositionCloseSha256 sha256 close) := by
  intro n accepted s
  have hok := deliverLedger_positionClose_eq_ok.mp h
  obtain ⟨-, acceptedAt, -, hcommits⟩ := deliverPositionClose_eq_ok hok
  have haccepted : accepted = (deliverPositionClose sha256
      (ledgerAfter sha sha256 sink sink₀ before) close contract now).1 := by
    simp only [accepted, ledgerAfter, after, run_snoc]
    rfl
  have hclosed : ClosedBy sha256 accepted.ledger close r := by
    rw [haccepted]
    exact CommitsClose.closedBy hcommits
  have hs : s = after (deliverLedger sha sha256 sink) accepted later := by
    simp only [s, accepted, ledgerAfter, ← after_append]
    simp
  obtain ⟨hclosed', hrows⟩ := after_closed sha sha256 sink hclosed later
  rw [← hs] at hclosed' hrows
  refine ⟨⟨hrows, hclosed'.covers⟩, fun c now' result hrun hans => ?_,
    fun close' contract' now' a hrun hans => ?_⟩
  · refine (hclosed'.chunk hrun (deliverLedger_stream_eq_ok.mp hans)).imp_right fun hpast => ?_
    exact ⟨hpast.1, fun e he => (hpast.2 e he).recordIdAfter⟩
  · have hans' := deliverLedger_positionClose_eq_ok.mp hans
    obtain ⟨-, _, -, hc⟩ := deliverPositionClose_eq_ok hans'
    exact hclosed'.replay hrun hc

namespace Sample

open Stream.Sample (discard now)

/-- The receipt of the sample close, accepted at its emission. -/
def closeReceipt : R1AcceptedRecordPositionCloseReceipt Digest :=
  receipt 1 Nat.one_pos (positionCloseRow close (positionSha256 (.positionClose close)) 3000)

theorem close_accepted :
    (deliverLedger Digest.stream positionSha256 discard
      (ledgerAfter Digest.stream positionSha256 discard () [.stream (.chunk chunk₁ now)])
      (.positionClose close contract (.aware 3000000 0))).2 =
        .ok (.positionClose ⟨true, closeReceipt⟩) := by
  rfl

end Sample

open Sample Stream.Sample in
theorem positionCloseFreeze_close :
    CoversChunks positionSha256 (ledgerAfter Digest.stream positionSha256 discard ()
      [.stream (.chunk Sample.chunk₁ now),
        .positionClose Sample.close contract (.aware 3000000 0)]).ledger Sample.close :=
  (positionCloseFreeze Digest.stream positionSha256 discard () [.stream (.chunk Sample.chunk₁ now)]
    [] Sample.close contract (.aware 3000000 0) closeReceipt close_accepted).1.2

end IncidentAwareness.Position
