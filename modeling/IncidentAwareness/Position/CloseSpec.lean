import IncidentAwareness.Position.Close
import IncidentAwareness.Stream.History

/-!
# What accepting a position close does

`CommitsClose`: the two ways `save_position_close` returns, with what it
required of the ledger and what it wrote (`acceptPositionClose_eq_ok`). A first
close finds exactly the chunks `1..n` of its partition (`CoversChunks`), and a
row of the Run that is there is the one a receipt is read from.

After it, an admitted chunk of the Run belongs to the closed partition and all
its Events have canonical RecordIds past the frontier
(`postPositionClose_of_mem`).
-/

namespace IncidentAwareness.Position

open IncidentAwareness.Common IncidentAwareness.Lib IncidentAwareness.Stream Ledger

variable {D : Type} {l l' : Ledger D} {close : R1RecordPositionClose D}

/-! ## Queries -/

theorem find?_positionCloses {runId : RunId} {row : PositionCloseRow D} :
    l.positionCloses.rows.find? (·.partition.runId = runId) = some row ↔
      row ∈ l.positionCloses ∧ row.partition.runId = runId := by
  rw [Table.find?_eq_some_iff_mem, decide_eq_true_iff]
  intro a b ha hb
  simp only [decide_eq_true_eq] at ha hb
  exact ha.trans hb.symm

theorem loadAcceptedPositionCloseReceipt_eq_none {runId : RunId} :
    loadAcceptedPositionCloseReceipt l runId = none ↔
      ∀ row ∈ l.positionCloses, row.partition.runId ≠ runId := by
  simp [loadAcceptedPositionCloseReceipt, Table.mem_def]

/-- The receipt of a Run repeats the values of the Run's row. -/
theorem exists_row_of_receipt {runId : RunId} {r : R1AcceptedRecordPositionCloseReceipt D}
    (h : loadAcceptedPositionCloseReceipt l runId = some r) :
    ∃ row ∈ l.positionCloses, row.partition.runId = runId ∧ r.closeId = row.closeId ∧
      r.partition = row.partition ∧ r.closeContentSha256 = row.contentSha256 ∧
      r.acceptedAt = row.acceptedAt := by
  obtain ⟨row, hrow, rfl⟩ := Option.map_eq_some_iff.mp h
  obtain ⟨hmem, hrun⟩ := find?_positionCloses.mp hrow
  exact ⟨row, hmem, hrun, rfl, rfl, rfl, rfl⟩

/-- A receipt that is read stays the same while the table grows. -/
theorem receipt_of_grown {runId : RunId} {r : R1AcceptedRecordPositionCloseReceipt D}
    (hl : l.positionCloses.rows <+: l'.positionCloses.rows)
    (h : loadAcceptedPositionCloseReceipt l runId = some r) :
    loadAcceptedPositionCloseReceipt l' runId = some r := by
  obtain ⟨row, hrow, rfl⟩ := Option.map_eq_some_iff.mp h
  obtain ⟨rest, hrest⟩ := hl
  obtain ⟨hmem, hrun⟩ := find?_positionCloses.mp hrow
  have hlt : l.positionCloses.rows.findIdx (·.partition.runId = runId) <
      l.positionCloses.rows.length :=
    List.findIdx_lt_length_of_exists ⟨row, hmem, by simpa using hrun⟩
  simp only [loadAcceptedPositionCloseReceipt, ← hrest, List.find?_append, hrow, Option.some_or,
    Option.map_some, List.findIdx_append, hlt, if_true]

/-- The chunks `1..n` of a partition, as the rows of the ledger. -/
def coveredRows (l : Ledger D) (p : R1StreamPartition) (n : Nat) : List (ChunkRow D) :=
  l.chunks.rows.filter fun r => r.partition = p ∧ r.chunkSequence ≤ n

theorem mem_coveredRows {p : R1StreamPartition} {n : Nat} {r : ChunkRow D} :
    r ∈ coveredRows l p n ↔ r ∈ l.chunks ∧ r.partition = p ∧ r.chunkSequence ≤ n := by
  simp [coveredRows, Table.mem_def]

theorem selectCoveredChunks_eq (l : Ledger D) (p : R1StreamPartition) (n : Nat) :
    selectCoveredChunks l p n = (sortedBy (·.chunkSequence) (coveredRows l p n)).map
      fun r => (r.chunkSequence, r.chunkId, r.contentSha256) := rfl

/-- When the covered sequences are `1..n`, the partition has each of these chunks. -/
theorem hasChunk_of_selectCoveredChunks {p : R1StreamPartition} {n k : Nat}
    (h : (selectCoveredChunks l p n).map Prod.fst = List.range' 1 n) (h1 : 1 ≤ k) (hk : k ≤ n) :
    l.HasChunk p k := by
  have hmem : k ∈ (selectCoveredChunks l p n).map Prod.fst := by
    rw [h, List.mem_range'_1]
    omega
  rw [selectCoveredChunks_eq, List.map_map, List.mem_map] at hmem
  obtain ⟨r, hr, rfl⟩ := hmem
  obtain ⟨hrow, hp, -⟩ := mem_coveredRows.mp (mem_sortedBy.mp hr)
  exact ⟨r, hrow, hp, rfl⟩

/-! ## RecordIds -/

/-- The check of `_assert_events_are_post_position_close` on one RecordId. -/
def PastFrontier (u : Nat) (recordId : Option String) : Prop :=
  ∃ v, recordId = some v ∧ isCanonicalRecordId (some v) = true ∧ u < decimalInt v

/-- The RecordId of an Event is a canonical decimal integer greater than `u`. -/
def RecordIdAfter (u : Nat) (e : NormalizedEvent) : Prop :=
  ∃ n : Nat, u < n ∧ e.rawRef.sourceRecordId = some (toString n)

/-- A canonical RecordId is the decimal numeral of its value. -/
theorem eq_toString_of_isCanonicalRecordId {v : String} (h : isCanonicalRecordId (some v) = true) :
    v = toString (decimalInt v) := by
  simp only [isCanonicalRecordId, Bool.and_eq_true, decide_eq_true_eq] at h
  refine String.toList_inj.mp ?_
  rw [← h.2]
  simp [decimalStr, ToString.toString, Nat.repr]

theorem PastFrontier.recordIdAfter {u : Nat} {e : NormalizedEvent}
    (h : PastFrontier u e.rawRef.sourceRecordId) : RecordIdAfter u e := by
  obtain ⟨v, hv, hcanonical, hafter⟩ := h
  refine ⟨decimalInt v, hafter, ?_⟩
  rw [hv, ← eq_toString_of_isCanonicalRecordId hcanonical]

theorem assertRecordIdsAfter_eq_ok {u : Nat} {ids : List (String × Option String)}
    (h : assertRecordIdsAfter u ids = .ok ()) : ∀ x ∈ ids, PastFrontier u x.2 := by
  induction ids with
  | nil => simp
  | cons x ids ih =>
    obtain ⟨eventId, recordId⟩ := x
    simp only [assertRecordIdsAfter, raiseIf_bind_eq_ok, Bool.not_eq_false, not_le] at h
    obtain ⟨hcanonical, hafter, hrest⟩ := h
    intro y hy
    rcases List.mem_cons.mp hy with rfl | hy
    · cases recordId with
      | none => exact absurd hcanonical (by decide)
      | some v => exact ⟨v, rfl, hcanonical, hafter⟩
    · exact ih hrest y hy

section Frontier

variable {sha : CanonicalPayload → D} {c : R1EventChunk D} {row : PositionCloseRow D}

/-- A chunk past the position close of its Run is of the closed partition, and
its Events are past the frontier. -/
theorem postPositionClose_of_mem (hrow : row ∈ l.positionCloses)
    (hrun : row.partition.runId = c.partition.runId) (h : PostPositionClose sha l c) :
    c.partition = row.partition ∧
      ∀ e ∈ c.events, PastFrontier row.upperRecordId e.rawRef.sourceRecordId := by
  obtain ⟨frontier, hfrontier, hpast⟩ := h
  have hfind : l.positionCloses.rows.find? (·.partition.runId = c.partition.runId) = some row :=
    find?_positionCloses.mpr ⟨hrow, hrun⟩
  simp only [positionCloseFrontier, hfind, raiseIf_bind_eq_ok, Except.pure_eq_ok] at hfrontier
  obtain ⟨hpart, -, rfl⟩ := hfrontier
  simp only [not_not, Prod.mk.injEq] at hpart
  obtain ⟨hhost, hsource, hchannel⟩ := hpart
  simp only [assertPastFrontier, assertEventsArePostPositionClose, raiseIf_bind_eq_ok] at hpast
  refine ⟨?_, fun e he => ?_⟩
  · cases hc : c.partition
    cases hr : row.partition
    simp_all
  · exact assertRecordIdsAfter_eq_ok hpast.2 (e.eventId, e.rawRef.sourceRecordId)
      (List.mem_map_of_mem he)

end Frontier

/-! ## Accepting a close -/

variable [DecidableEq D] {sha256 : PositionPayload D → D}

/-- The ledger has exactly the chunks that a close covers. -/
structure CoversChunks (sha256 : PositionPayload D → D) (l : Ledger D)
    (close : R1RecordPositionClose D) : Prop where
  texts : Storable close.partition.texts
  sequences : (selectCoveredChunks l close.partition close.coveredThroughChunkSequence).map
    Prod.fst = List.range' 1 close.coveredThroughChunkSequence
  digest : coveredChunkListSha256 sha256
    (selectCoveredChunks l close.partition close.coveredThroughChunkSequence) =
      close.coveredChunksSha256

theorem requireCommittedCoveredChunks_eq_ok {u : Unit} :
    requireCommittedCoveredChunks sha256 l close = .ok u ↔ CoversChunks sha256 l close := by
  simp only [requireCommittedCoveredChunks, checkTexts_bind_eq_ok, raiseIf_bind_eq_ok,
    raiseIf_eq_ok, not_not]
  exact ⟨fun h => ⟨h.1, h.2.1, h.2.2⟩, fun h => ⟨h.texts, h.sequences, h.digest⟩⟩

/-- A receipt names a close: its id, its partition and its content. -/
structure Names (sha256 : PositionPayload D → D) (r : R1AcceptedRecordPositionCloseReceipt D)
    (close : R1RecordPositionClose D) : Prop where
  closeId : r.closeId = close.closeId
  partition : r.partition = close.partition
  content : r.closeContentSha256 = recordPositionCloseSha256 sha256 close

theorem resolveReplay_eq_ok {r r' : R1AcceptedRecordPositionCloseReceipt D} :
    resolveReplay sha256 r close = .ok r' ↔ Names sha256 r close ∧ r' = r := by
  simp only [resolveReplay, raiseIf_bind_eq_ok, Except.pure_eq_ok, not_not]
  constructor
  · rintro ⟨hi, hp, hc, hr⟩
    exact ⟨⟨hi, hp, hc⟩, hr⟩
  · rintro ⟨h, hr⟩
    exact ⟨h.closeId, h.partition, h.content, hr⟩

/-- How an accepted close is answered: the ledger before, the admission, the
ledger after. -/
inductive CommitsClose (sha256 : PositionPayload D → D) (l : Ledger D)
    (close : R1RecordPositionClose D) (acceptedAt : UtcMillis) :
    R1PositionCloseAdmission D → Ledger D → Prop where
  | replay {r} (recorded : loadAcceptedPositionCloseReceipt l close.runId = some r)
      (names : Names sha256 r close) : CommitsClose sha256 l close acceptedAt ⟨false, r⟩ l
  | first {t r} (covers : CoversChunks sha256 l close)
      (inserted : l.positionCloses.insert? (positionCloseRow close
        (recordPositionCloseSha256 sha256 close) acceptedAt) = some t)
      (recorded : loadAcceptedPositionCloseReceipt { l with positionCloses := t } close.runId =
        some r) (names : Names sha256 r close) (acceptedAt_eq : r.acceptedAt = acceptedAt) :
      CommitsClose sha256 l close acceptedAt ⟨true, r⟩ { l with positionCloses := t }

omit [DecidableEq D] in
/-- The receipt of a row just inserted. -/
theorem load_of_insert? {row : PositionCloseRow D} {t : Table (PositionCloseRow.Conflict (D := D))}
    (h : l.positionCloses.insert? row = some t) :
    loadAcceptedPositionCloseReceipt { l with positionCloses := t } row.partition.runId =
      some (receipt (l.positionCloses.rows.length + 1) (Nat.succ_pos _) row) := by
  obtain ⟨hnew, hrows⟩ := Table.insert?_eq_some.mp h
  have hnone : ∀ r ∈ l.positionCloses.rows, ¬ r.partition.runId = row.partition.runId := hnew
  have hfind : l.positionCloses.rows.find? (·.partition.runId = row.partition.runId) = none := by
    simpa using hnone
  have hidx : l.positionCloses.rows.findIdx (·.partition.runId = row.partition.runId) =
      l.positionCloses.rows.length := by
    rw [List.findIdx_eq_length]
    simpa using hnone
  simp [loadAcceptedPositionCloseReceipt, hrows, List.find?_append, List.findIdx_append, hfind,
    hidx]

omit [DecidableEq D] in
/-- An insert that meets no conflict and returned: the row's index, and the ledger with it. -/
theorem insertPositionClose_of_insert? {row : PositionCloseRow D}
    {t : Table (PositionCloseRow.Conflict (D := D))} {index : Option Nat}
    (ht : l.positionCloses.insert? row = some t)
    (h : (insertPositionClose row).run l = .ok index l') :
    index = some l.positionCloses.rows.length ∧ l' = { l with positionCloses := t } := by
  rw [insertPositionClose, run_check_eq_ok, run_check_eq_ok, run_check_eq_ok] at h
  obtain ⟨-, -, -, h⟩ := h
  obtain ⟨_, _, hread, h⟩ := run_bind_eq_ok.mp h
  obtain ⟨hindex, rfl⟩ := run_reads_eq_ok.mp hread
  obtain rfl := Except.ok.inj hindex
  obtain ⟨inserted, l₁, hinsert, h⟩ := run_bind_eq_ok.mp h
  cases h
  rw [insertRow_eq_ok, ht] at hinsert
  rcases hinsert with ⟨hsome, rfl⟩ | ⟨hnone, -⟩
  · exact ⟨rfl, (Option.some.inj hsome).symm⟩
  · cases hnone

theorem savePositionClose_eq_ok {acceptedAt : UtcMillis} {a : R1PositionCloseAdmission D}
    (h : (savePositionClose sha256 close (recordPositionCloseSha256 sha256 close) acceptedAt).run l =
      .ok a l') : CommitsClose sha256 l close acceptedAt a l' := by
  obtain ⟨_, l₁, hdigest, h₁⟩ := run_bind_eq_ok.mp h
  obtain ⟨-, rfl⟩ := run_reads_eq_ok.mp hdigest
  obtain ⟨existing, l₂, hload, h₂⟩ := run_bind_eq_ok.mp h₁
  obtain ⟨hexisting, rfl⟩ := run_reads_eq_ok.mp hload
  cases existing with
  | some r =>
    obtain ⟨hreplay, rfl⟩ := run_reads_eq_ok.mp h₂
    obtain ⟨r', hr', ha⟩ := Except.bind_eq_ok.mp hreplay
    obtain ⟨hnames, rfl⟩ := resolveReplay_eq_ok.mp hr'
    rw [Except.pure_eq_ok.mp ha]
    exact .replay (Except.ok.inj hexisting) hnames
  | none =>
    obtain ⟨_, l₃, hcovers, h₃⟩ := run_bind_eq_ok.mp h₂
    obtain ⟨hcovers', rfl⟩ := run_reads_eq_ok.mp hcovers
    have covers := requireCommittedCoveredChunks_eq_ok.mp hcovers'
    obtain ⟨index, l₄, hinsert, h₄⟩ := run_bind_eq_ok.mp h₃
    -- No row of the Run is there, so the insert meets no conflict.
    have hnew := loadAcceptedPositionCloseReceipt_eq_none.mp (Except.ok.inj hexisting)
    obtain ⟨t, ht⟩ := Table.exists_insert? (t := l₃.positionCloses)
      (r := positionCloseRow close (recordPositionCloseSha256 sha256 close) acceptedAt)
      (fun row hrow hc => hnew row hrow (hc.trans close.partition_runId))
    obtain ⟨rfl, rfl⟩ := insertPositionClose_of_insert? ht hinsert
    cases h₄
    have hload := load_of_insert? ht
    rw [show (positionCloseRow close (recordPositionCloseSha256 sha256 close)
      acceptedAt).partition.runId = close.runId from close.partition_runId] at hload
    exact .first covers ht hload ⟨rfl, rfl, rfl⟩ rfl

/-- `_require_contract_binding`, as a fact. -/
def ContractBinds (sha256 : PositionPayload D → D) (close : R1RecordPositionClose D)
    (contract : R1RequiredPartitionContract) : Prop :=
  requireContractBinding sha256 close contract = .ok ()

/-- A close that was accepted: the contract bound it, the clock's reading was
aware, and the ledger took it. -/
theorem acceptPositionClose_eq_ok {now : PyDatetime} {contract : R1RequiredPartitionContract}
    {a : R1PositionCloseAdmission D}
    (h : (acceptPositionClose sha256 now contract close).run l = .ok a l') :
    ContractBinds sha256 close contract ∧
      ∃ acceptedAt, utcMilliseconds now = .ok acceptedAt ∧
        CommitsClose sha256 l close acceptedAt a l' := by
  obtain ⟨_, l₁, hbinds, h₁⟩ := run_bind_eq_ok.mp h
  obtain ⟨hbinds', rfl⟩ := run_reads_eq_ok.mp hbinds
  obtain ⟨acceptedAt, l₂, hclock, h₂⟩ := run_bind_eq_ok.mp h₁
  obtain ⟨hclock', rfl⟩ := run_reads_eq_ok.mp hclock
  exact ⟨hbinds', acceptedAt, hclock', savePositionClose_eq_ok h₂⟩

/-- A close that the ledger has is accepted again, as a replay. -/
theorem acceptPositionClose_replay {contract : R1RequiredPartitionContract}
    {r : R1AcceptedRecordPositionCloseReceipt D} (hbinds : ContractBinds sha256 close contract)
    (hload : loadAcceptedPositionCloseReceipt l close.runId = some r) (hnames : Names sha256 r close)
    (instant utcoffset : Int) :
    (acceptPositionClose sha256 (.aware instant utcoffset) contract close).run l =
      .ok ⟨false, r⟩ l := by
  refine run_bind_eq_ok.mpr ⟨(), l, run_reads_eq_ok.mpr ⟨hbinds, rfl⟩, ?_⟩
  refine run_bind_eq_ok.mpr ⟨instant / 1000, l, run_reads_eq_ok.mpr ⟨rfl, rfl⟩, ?_⟩
  refine run_bind_eq_ok.mpr ⟨(), l, run_reads_eq_ok.mpr ⟨raiseIf_of_not (not_not.mpr rfl), rfl⟩, ?_⟩
  refine run_bind_eq_ok.mpr ⟨some r, l, run_reads_eq_ok.mpr ⟨by rw [hload], rfl⟩, ?_⟩
  refine run_reads_eq_ok.mpr ⟨?_, rfl⟩
  exact Except.bind_eq_ok.mpr ⟨r, resolveReplay_eq_ok.mpr ⟨hnames, rfl⟩, rfl⟩

theorem requireReceiptBindsClose_eq_ok {r : R1AcceptedRecordPositionCloseReceipt D} {u : Unit}
    (hnames : Names sha256 r close) :
    requireReceiptBindsClose sha256 r close = .ok u ↔ close.emittedAt ≤ r.acceptedAt := by
  have hrun : r.runId = close.runId := by
    rw [R1AcceptedRecordPositionCloseReceipt.runId, hnames.partition, close.partition_runId]
  simp only [requireReceiptBindsClose, raiseIf_bind_eq_ok, raiseIf_eq_ok, not_not, not_lt, hrun,
    hnames.closeId, hnames.partition, hnames.content, true_and]

end IncidentAwareness.Position
