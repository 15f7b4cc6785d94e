import IncidentAwareness.Position.Bounded

/-!
# Exporting an accepted close

The exporter reads the receipt back and refuses one whose `accepted_at` is
before the close's `emitted_at`; the ingress commits a close at whatever the
clock reads. A committed close can be exported at all exactly when the reading at
its commit was not before `emitted_at`. The export file is immutable and links
the contract's file, and the ack names the path of the message: later exports
succeed when they also agree with these (`exportable_iff`).
-/

namespace IncidentAwareness.Position

open IncidentAwareness.Common IncidentAwareness.Lib IncidentAwareness.Stream Ledger

variable {D S : Type}

/-! ## What later steps keep -/

/-- What a committed close leaves in the system: the receipt in the ledger, the
published close, no ack but one that names the receipt, and no export but one of
the close with the receipt. -/
structure Committed (sha256 : PositionPayload D → D) (s : SpoolSystem D S)
    (close : R1RecordPositionClose D) (r : R1AcceptedRecordPositionCloseReceipt D) : Prop where
  receipt : loadAcceptedPositionCloseReceipt s.ledger close.runId = some r
  names : Names sha256 r close
  published : s.spool.positionClose = some close
  ack : ∀ ack ∈ s.spool.positionCloseAck, ack.message = close ∧
    ack.ledgerEntryId = r.ledgerEntryId ∧
    ack.requiredPartitionContractSha256 = close.requiredPartitionContract.contentSha256
  exported : ∀ e ∈ s.spool.positionCloseExport, e.acceptedRecordPositionClose = close ∧
    e.acceptanceReceipt = r ∧
    e.contractContentSha256 = close.requiredPartitionContract.contentSha256 ∧
    e.targetHost = close.partition.hostId

variable [DecidableEq D] {sha : CanonicalPayload → D} {sha256 : PositionPayload D → D}
  {sink : DeadLetterSink S}

/-- Steps keep the receipt of a Run. -/
theorem Moves.receipt {v v' : SpoolView D} {x : SpoolStep D}
    (hm : Moves sha sha256 v x v') {runId : RunId} {r : R1AcceptedRecordPositionCloseReceipt D}
    (h : loadAcceptedPositionCloseReceipt v.ledger runId = some r) :
    loadAcceptedPositionCloseReceipt v'.ledger runId = some r := by
  cases hm with
  | stay => exact h
  | publish => exact h
  | issue => exact h
  | publishClose => exact h
  | consume _ commits =>
    refine receipt_of_grown ?_ h
    rw [commits.grows.positionCloses]
  | consumeClose _ commits =>
    cases commits with
    | replay => exact h
    | first _ inserted =>
      exact receipt_of_grown ⟨_, (Table.insert?_eq_some.mp inserted).2.symm⟩ h

/-- Steps keep a published close. -/
theorem Moves.positionClose {v v' : SpoolView D} {x : SpoolStep D}
    (hm : Moves sha sha256 v x v') {close : R1RecordPositionClose D}
    (h : v.positionClose = some close) : v'.positionClose = some close := by
  cases hm with
  | stay => exact h
  | publish => exact h
  | issue => exact h
  | consume => exact h
  | consumeClose => exact h
  | publishClose _ new =>
    rw [new] at h
    cases h

/-- The contract that binds a close has the digest that the close names. -/
theorem ContractBinds.content {close : R1RecordPositionClose D}
    {contract : R1RequiredPartitionContract} (h : ContractBinds sha256 close contract) :
    requiredPartitionContractSha256 sha256 contract =
      close.requiredPartitionContract.contentSha256 := by
  simp only [ContractBinds, requireContractBinding, raiseIf_bind_eq_ok, raiseIf_eq_ok, not_not] at h
  exact h.2.2.symm

theorem ContractBinds.host {close : R1RecordPositionClose D}
    {contract : R1RequiredPartitionContract} (h : ContractBinds sha256 close contract) :
    contract.targetHost = close.partition.hostId := by
  simp only [ContractBinds, requireContractBinding, raiseIf_bind_eq_ok, not_not] at h
  exact h.1

/-- A consume that finds no ack and the receipt: the ack it writes names both. -/
theorem consumePositionClose_ack {s : SpoolSystem D S} {close : R1RecordPositionClose D}
    (hclose : s.spool.positionClose = some close) (messagePath : String)
    (contract : R1RequiredPartitionContract) (now : PyDatetime) (crash : Bool) :
    ∀ ack ∈ (consumePositionClose sha256 s messagePath contract now crash).1.spool.positionCloseAck,
      ack ∈ s.spool.positionCloseAck ∨
      ∃ a acceptedAt, CommitsClose sha256 s.ledger close acceptedAt a
          (consumePositionClose sha256 s messagePath contract now crash).1.ledger ∧ ack.message = close ∧
        ack.ledgerEntryId = a.receipt.ledgerEntryId ∧
        ack.requiredPartitionContractSha256 = close.requiredPartitionContract.contentSha256 := by
  unfold consumePositionClose
  cases hack : s.spool.positionCloseAck with
  | some ack₀ =>
    intro ack hmem
    exact .inl (hack ▸ hmem)
  | none =>
    simp only [hclose]
    cases hd : (deliverPositionClose sha256 s.ingress close contract now).2 with
    | error e =>
      intro ack hmem
      exact .inl (hack ▸ hmem)
    | ok a =>
      obtain ⟨hbinds, acceptedAt, -, hcommits⟩ := deliverPositionClose_eq_ok hd
      intro ack hmem
      cases crash with
      | true =>
        simp only [if_true] at hmem
        exact .inl (hack ▸ hmem)
      | false =>
        simp only [Bool.false_eq_true, if_false, Option.mem_def, Option.some.injEq] at hmem
        subst hmem
        exact .inr ⟨a, acceptedAt, hcommits, rfl, rfl, hbinds.content⟩

omit [DecidableEq D] in
theorem CommitsClose.receipt_eq {l l' : Ledger D} {close : R1RecordPositionClose D}
    {acceptedAt : UtcMillis} {a : R1PositionCloseAdmission D}
    (h : CommitsClose sha256 l close acceptedAt a l') :
    loadAcceptedPositionCloseReceipt l' close.runId = some a.receipt ∧
      Names sha256 a.receipt close := by
  cases h with
  | replay recorded names => exact ⟨recorded, names⟩
  | first _ _ recorded names _ => exact ⟨recorded, names⟩

omit [DecidableEq D] in
theorem CommitsClose.acceptedAt_eq {l l' : Ledger D} {close : R1RecordPositionClose D}
    {acceptedAt : UtcMillis} {r : R1AcceptedRecordPositionCloseReceipt D}
    (h : CommitsClose sha256 l close acceptedAt ⟨true, r⟩ l') : r.acceptedAt = acceptedAt := by
  cases h with
  | first _ _ _ _ hat => exact hat

variable (sha sha256 sink) in
/-- Steps other than the position-close consumer and the exporter write neither
an ack of the close nor an export. -/
theorem spoolStep_positionFiles (s : SpoolSystem D S) (x : SpoolStep D)
    (hconsume : ∀ messagePath contract now crash, x ≠ .consumeClose messagePath contract now crash)
    (hexport : ∀ messagePath contractFile, x ≠ .exportClose messagePath contractFile) :
    (spoolStep sha sha256 sink s x).1.spool.positionCloseAck = s.spool.positionCloseAck ∧
      (spoolStep sha sha256 sink s x).1.spool.positionCloseExport =
        s.spool.positionCloseExport := by
  cases x with
  | publish file =>
    simp only [spoolStep, publishFile]
    cases s.spool.outbox.get file.name with
    | none => exact ⟨rfl, rfl⟩
    | some existing =>
      simp only
      split <;> exact ⟨rfl, rfl⟩
  | consume name contract now crash =>
    simp only [spoolStep, consumeFile]
    cases s.spool.outbox.get name with
    | none => exact ⟨rfl, rfl⟩
    | some file =>
      cases s.spool.acks.get name with
      | some ack => exact ⟨rfl, rfl⟩
      | none =>
        simp only
        cases requireContract contract file.message with
        | error e => exact ⟨rfl, rfl⟩
        | ok u =>
          simp only
          cases (deliver sha sink s.ingress (file.message.delivery now)).2 with
          | error e => exact ⟨rfl, rfl⟩
          | ok result => cases crash <;> exact ⟨rfl, rfl⟩
  | issue sources now =>
    simp only [spoolStep]
    cases issuePositionClose sha sha256 s.spool sources now with
    | error e => exact ⟨rfl, rfl⟩
    | ok close => exact ⟨rfl, rfl⟩
  | publishClose close =>
    simp only [spoolStep, publishPositionClose]
    split
    · cases s.spool.positionClose with
      | none => exact ⟨rfl, rfl⟩
      | some existing =>
        simp only
        split <;> exact ⟨rfl, rfl⟩
    · exact ⟨rfl, rfl⟩
  | consumeClose messagePath contract now crash =>
    exact absurd rfl (hconsume messagePath contract now crash)
  | exportClose messagePath contractFile => exact absurd rfl (hexport messagePath contractFile)

theorem consumePositionClose_export (s : SpoolSystem D S) (messagePath : String)
    (contract : R1RequiredPartitionContract) (now : PyDatetime) (crash : Bool) :
    (consumePositionClose sha256 s messagePath contract now crash).1.spool.positionCloseExport =
      s.spool.positionCloseExport := by
  unfold consumePositionClose
  cases s.spool.positionCloseAck with
  | some ack => rfl
  | none =>
    cases s.spool.positionClose with
    | none => rfl
    | some close =>
      simp only
      cases (deliverPositionClose sha256 s.ingress close contract now).2 with
      | error e => rfl
      | ok a => cases crash <;> rfl

/-- What the exporter checked when its checks passed, and the payload it publishes. -/
theorem exportPayload_eq_ok {s : SpoolSystem D S} {messagePath : String}
    {contractFile : ContractFile D} {e : PositionCloseExport D}
    (h : exportPayload sha256 s messagePath contractFile = .ok e) :
    ∃ close r, s.spool.positionClose = some close ∧
      ContractBinds sha256 close contractFile.contract ∧
      (∃ ack ∈ s.spool.positionCloseAck, ack.messagePath = messagePath) ∧
      loadAcceptedPositionCloseReceipt s.ledger close.runId = some r ∧
      requireReceiptBindsClose sha256 r close = .ok () ∧
      e = closeExport sha256 close r contractFile := by
  unfold exportPayload at h
  cases hclose : s.spool.positionClose with
  | none =>
    rw [hclose] at h
    cases h
  | some close =>
    simp only [hclose, raiseIf_bind_eq_ok] at h
    obtain ⟨-, h⟩ := h
    obtain ⟨_, hbinds, h⟩ := Except.bind_eq_ok.mp h
    obtain ⟨ack, hack, h⟩ := Except.bind_eq_ok.mp h
    cases hreceipt : loadAcceptedPositionCloseReceipt s.ledger close.runId with
    | none =>
      rw [hreceipt] at h
      cases h
    | some r =>
      simp only [hreceipt] at h
      obtain ⟨_, hbind, h⟩ := Except.bind_eq_ok.mp h
      simp only [raiseIf_bind_eq_ok] at h
      refine ⟨close, r, rfl, hbinds, ?_, hreceipt, hbind, Except.pure_eq_ok.mp h.2.2⟩
      unfold loadPostCommitAck at hack
      cases hsome : s.spool.positionCloseAck with
      | none =>
        rw [hsome] at hack
        cases hack
      | some ack' =>
        simp only [hsome, raiseIf_bind_eq_ok, not_not] at hack
        exact ⟨ack', rfl, hack.1⟩

variable (sha256) in
/-- An export leaves the ack, and an export file only of its own payload. -/
theorem exportPositionClose_files (s : SpoolSystem D S) (messagePath : String)
    (contractFile : ContractFile D) :
    (exportPositionClose sha256 s messagePath contractFile).1.spool.positionCloseAck =
        s.spool.positionCloseAck ∧
      ∀ e ∈ (exportPositionClose sha256 s messagePath contractFile).1.spool.positionCloseExport,
        e ∈ s.spool.positionCloseExport ∨
          exportPayload sha256 s messagePath contractFile = .ok e := by
  unfold exportPositionClose
  cases hpayload : exportPayload sha256 s messagePath contractFile with
  | error e => exact ⟨rfl, fun e he => .inl he⟩
  | ok payload =>
    cases hexport : s.spool.positionCloseExport with
    | none =>
      refine ⟨rfl, fun e he => .inr ?_⟩
      rw [← Option.some.inj he]
    | some existing =>
      simp only
      split <;> exact ⟨rfl, fun e he => .inl (hexport ▸ he)⟩

theorem Committed.step {s : SpoolSystem D S} {close : R1RecordPositionClose D}
    {r : R1AcceptedRecordPositionCloseReceipt D} (h : Committed sha256 s close r)
    (x : SpoolStep D) : Committed sha256 (spoolStep sha sha256 sink s x).1 close r := by
  have hm := spoolStep_moves sha sha256 sink s x
  have hreceipt := hm.receipt h.receipt
  suffices hfiles : (∀ ack ∈ (spoolStep sha sha256 sink s x).1.spool.positionCloseAck,
      ack.message = close ∧ ack.ledgerEntryId = r.ledgerEntryId ∧
        ack.requiredPartitionContractSha256 = close.requiredPartitionContract.contentSha256) ∧
      ∀ e ∈ (spoolStep sha sha256 sink s x).1.spool.positionCloseExport,
        e.acceptedRecordPositionClose = close ∧ e.acceptanceReceipt = r ∧
          e.contractContentSha256 = close.requiredPartitionContract.contentSha256 ∧
          e.targetHost = close.partition.hostId from
    ⟨hreceipt, h.names, hm.positionClose h.published, hfiles.1, hfiles.2⟩
  by_cases hconsume : ∃ messagePath contract now crash,
      x = .consumeClose messagePath contract now crash
  · obtain ⟨messagePath, contract, now, crash, rfl⟩ := hconsume
    refine ⟨fun ack hmem => ?_, fun e he => ?_⟩
    · rcases consumePositionClose_ack h.published messagePath contract now crash ack hmem with
        hmem | ⟨a, acceptedAt, hcommits, hmessage, hentry, hcontract⟩
      · exact h.ack ack hmem
      · -- The ack names the receipt that the ledger has, which is `r`.
        have hload : loadAcceptedPositionCloseReceipt
            (consumePositionClose sha256 s messagePath contract now crash).1.ledger close.runId =
              some r := hreceipt
        rw [hcommits.receipt_eq.1] at hload
        rw [Option.some.inj hload] at hentry
        exact ⟨hmessage, hentry, hcontract⟩
    · simp only [spoolStep, consumePositionClose_export] at he
      exact h.exported e he
  by_cases hexport : ∃ messagePath contractFile, x = .exportClose messagePath contractFile
  · obtain ⟨messagePath, contractFile, rfl⟩ := hexport
    obtain ⟨hack, hfile⟩ := exportPositionClose_files sha256 s messagePath contractFile
    refine ⟨fun ack hmem => ?_, fun e he => ?_⟩
    · simp only [spoolStep, hack] at hmem
      exact h.ack ack hmem
    · rcases hfile e he with he | he
      · exact h.exported e he
      · -- A new export is of the published close with the receipt that the ledger has.
        obtain ⟨close', r', hpublished, hbinds, -, hload, -, rfl⟩ := exportPayload_eq_ok he
        rw [h.published] at hpublished
        obtain rfl := Option.some.inj hpublished
        rw [h.receipt] at hload
        exact ⟨rfl, (Option.some.inj hload).symm, hbinds.content, hbinds.host⟩
  · obtain ⟨hack, hfile⟩ := spoolStep_positionFiles sha sha256 sink s x
      (fun messagePath contract now crash he => hconsume ⟨messagePath, contract, now, crash, he⟩)
      (fun messagePath contractFile he => hexport ⟨messagePath, contractFile, he⟩)
    rw [hack, hfile]
    exact ⟨h.ack, h.exported⟩

/-! ## Before the close is accepted -/

/-- There is no export before the ledger has a receipt for the published close. -/
def ExportBacked (s : SpoolSystem D S) : Prop :=
  s.spool.positionCloseExport.isSome → ∃ close r, s.spool.positionClose = some close ∧
    loadAcceptedPositionCloseReceipt s.ledger close.runId = some r

variable (sha sha256 sink) in
theorem exportBacked_step (s : SpoolSystem D S) (x : SpoolStep D) (h : ExportBacked s) :
    ExportBacked (spoolStep sha sha256 sink s x).1 := by
  have hm := spoolStep_moves sha sha256 sink s x
  have hkept : s.spool.positionCloseExport.isSome → ∃ close r,
      (spoolStep sha sha256 sink s x).1.spool.positionClose = some close ∧
        loadAcceptedPositionCloseReceipt (spoolStep sha sha256 sink s x).1.ledger close.runId =
          some r := by
    intro hsome
    obtain ⟨close, r, hclose, hload⟩ := h hsome
    exact ⟨close, r, hm.positionClose hclose, hm.receipt hload⟩
  intro hsome
  by_cases hconsume : ∃ messagePath contract now crash,
      x = .consumeClose messagePath contract now crash
  · obtain ⟨messagePath, contract, now, crash, rfl⟩ := hconsume
    simp only [spoolStep, consumePositionClose_export] at hsome
    exact hkept hsome
  by_cases hexport : ∃ messagePath contractFile, x = .exportClose messagePath contractFile
  · obtain ⟨messagePath, contractFile, rfl⟩ := hexport
    obtain ⟨e, he⟩ := Option.isSome_iff_exists.mp hsome
    rcases (exportPositionClose_files sha256 s messagePath contractFile).2 e he with he | he
    · exact hkept (Option.isSome_iff_exists.mpr ⟨e, he⟩)
    · obtain ⟨close, r, hclose, -, -, hload, -⟩ := exportPayload_eq_ok he
      exact ⟨close, r, hm.positionClose hclose, hm.receipt hload⟩
  · obtain ⟨-, hfile⟩ := spoolStep_positionFiles sha sha256 sink s x
      (fun messagePath contract now crash he => hconsume ⟨messagePath, contract, now, crash, he⟩)
      (fun messagePath contractFile he => hexport ⟨messagePath, contractFile, he⟩)
    rw [hfile] at hsome
    exact hkept hsome

variable (sha sha256 sink) in
/-- A close that the ledger accepts for the first time leaves the system committed. -/
theorem committed_of_accepted (sink₀ : S) (before : List (SpoolStep D)) (messagePath : String)
    (contract : R1RequiredPartitionContract) (now : PyDatetime) (crash : Bool)
    {close : R1RecordPositionClose D} {r : R1AcceptedRecordPositionCloseReceipt D}
    (hclose : (spoolAfter sha sha256 sink sink₀ before).spool.positionClose = some close)
    (h : (spoolStep sha sha256 sink (spoolAfter sha sha256 sink sink₀ before)
      (.consumeClose messagePath contract now crash)).2 = .ok (.positionClose ⟨true, r⟩)) :
    Committed sha256 (spoolStep sha sha256 sink (spoolAfter sha sha256 sink sink₀ before)
      (.consumeClose messagePath contract now crash)).1 close r := by
  obtain ⟨hnoack, -, acceptedAt, -, hcommits⟩ := consumeClose_accepted hclose h
  have hm := spoolStep_moves sha sha256 sink (spoolAfter sha sha256 sink sink₀ before)
    (.consumeClose messagePath contract now crash)
  obtain ⟨hload, hnames⟩ := hcommits.receipt_eq
  have hbacked : ExportBacked (spoolAfter sha sha256 sink sink₀ before) :=
    run_induction (spoolStep sha sha256 sink) (P := ExportBacked)
      (exportBacked_step sha sha256 sink) (fun hsome => by cases hsome) before
  refine ⟨hload, hnames, hm.positionClose hclose, fun ack hmem => ?_, fun e he => ?_⟩
  · rcases consumePositionClose_ack hclose messagePath contract now crash ack hmem with
      hmem | ⟨a, _, hcommits', hmessage, hentry, hcontract⟩
    · rw [hnoack] at hmem
      cases hmem
    · rw [hcommits'.receipt_eq.1] at hload
      rw [Option.some.inj hload] at hentry
      exact ⟨hmessage, hentry, hcontract⟩
  · -- The ledger had no position close of the Run, so there was no export.
    simp only [spoolStep, consumePositionClose_export] at he
    obtain ⟨close', r', hclose', hload'⟩ := hbacked (Option.isSome_iff_exists.mpr ⟨e, he⟩)
    rw [hclose] at hclose'
    obtain rfl := Option.some.inj hclose'
    have hnone := loadAcceptedPositionCloseReceipt_eq_none.mpr hcommits.open.1
    rw [hnone] at hload'
    cases hload'

/-! ## Exports and later consumes -/

/-- The outcome of an export where the close is committed and acked: it needs a
receipt that is not before the emission, the path that the ack has, and the contract
file that an earlier export linked. -/
theorem Committed.exportPositionClose_iff {s : SpoolSystem D S} {close : R1RecordPositionClose D}
    {r : R1AcceptedRecordPositionCloseReceipt D} (h : Committed sha256 s close r)
    (messagePath : String) {contractFile : ContractFile D}
    (hbinds : ContractBinds sha256 close contractFile.contract) {ack : PositionCloseAck D}
    (hack : s.spool.positionCloseAck = some ack) :
    (exportPositionClose sha256 s messagePath contractFile).2 = .ok (.exported close r) ↔
      close.emittedAt ≤ r.acceptedAt ∧ ack.messagePath = messagePath ∧
        ∀ e ∈ s.spool.positionCloseExport,
          e.contractPath = contractFile.path ∧ e.contractSha256 = contractFile.sha256 := by
  by_cases hok : close.emittedAt ≤ r.acceptedAt ∧ ack.messagePath = messagePath
  · have hpayload : exportPayload sha256 s messagePath contractFile =
        .ok (closeExport sha256 close r contractFile) := by
      obtain ⟨hmessage, hentry, hcontract⟩ := h.ack ack hack
      simp only [exportPayload, h.published, raiseIf_bind_eq_ok, not_not]
      refine ⟨hbinds.host, Except.bind_eq_ok.mpr ⟨(), hbinds, ?_⟩⟩
      have hload : loadPostCommitAck s.spool messagePath close = .ok ack := by
        simp only [loadPostCommitAck, hack, raiseIf_bind_eq_ok, not_not]
        exact ⟨hok.2, hmessage, rfl⟩
      refine Except.bind_eq_ok.mpr ⟨ack, hload, ?_⟩
      rw [h.receipt]
      refine Except.bind_eq_ok.mpr ⟨(), (requireReceiptBindsClose_eq_ok h.names).mpr hok.1, ?_⟩
      simp only [raiseIf_bind_eq_ok, not_not]
      exact ⟨hentry, hcontract.trans hbinds.content.symm, rfl⟩
    rw [exportPositionClose, hpayload, and_iff_right hok.1, and_iff_right hok.2]
    cases hexport : s.spool.positionCloseExport with
    | none => simp [closeExport]
    | some existing =>
      obtain ⟨hclose, hreceipt, hcontent, hhost⟩ := h.exported existing hexport
      -- The file has the close and the receipt, so only the contract's file can differ.
      have hsame : existing = closeExport sha256 close r contractFile ↔
          existing.contractPath = contractFile.path ∧
            existing.contractSha256 = contractFile.sha256 := by
        refine ⟨fun he => by rw [he]; exact ⟨rfl, rfl⟩, fun heq => ?_⟩
        obtain ⟨hpath, hsha⟩ := heq
        have hcontent' := hcontent.trans hbinds.content.symm
        have hhost' := hhost.trans hbinds.host.symm
        cases existing
        simp_all [closeExport]
      simp only [Option.mem_def, Option.some.injEq, forall_eq', ← hsame]
      by_cases he : existing = closeExport sha256 close r contractFile
      · simp [he, closeExport]
      · simp [he]
  · have hpayload : ∀ e, exportPayload sha256 s messagePath contractFile ≠ .ok e := by
      intro e he
      obtain ⟨close', r', hclose', -, ⟨ack', hack', hpath⟩, hload, hbind, -⟩ :=
        exportPayload_eq_ok he
      rw [h.published] at hclose'
      obtain rfl := Option.some.inj hclose'
      rw [h.receipt] at hload
      obtain rfl := Option.some.inj hload
      rw [hack] at hack'
      obtain rfl := Option.some.inj hack'
      exact hok ⟨(requireReceiptBindsClose_eq_ok h.names).mp hbind, hpath⟩
    rw [exportPositionClose]
    cases hrun : exportPayload sha256 s messagePath contractFile with
    | ok e => exact absurd hrun (hpayload e)
    | error e =>
      simp only [reduceCtorEq, false_iff]
      exact fun hall => hok ⟨hall.1, hall.2.1⟩

/-- An acked close whose receipt is not before its emission has an export: by the path
that the ack has, with the contract file that an earlier export linked. -/
theorem Committed.exists_export {s : SpoolSystem D S} {close : R1RecordPositionClose D}
    {r : R1AcceptedRecordPositionCloseReceipt D} (h : Committed sha256 s close r)
    {contract : R1RequiredPartitionContract} (hbinds : ContractBinds sha256 close contract)
    {ack : PositionCloseAck D} (hack : s.spool.positionCloseAck = some ack)
    (hle : close.emittedAt ≤ r.acceptedAt) :
    ∃ messagePath contractFile,
      (exportPositionClose sha256 s messagePath contractFile).2 = .ok (.exported close r) := by
  cases hexport : s.spool.positionCloseExport with
  | none =>
    let file : ContractFile D := ⟨"", requiredPartitionContractSha256 sha256 contract, contract⟩
    refine ⟨ack.messagePath, file, (h.exportPositionClose_iff ack.messagePath hbinds hack).mpr
      ⟨hle, rfl, fun e he => ?_⟩⟩
    rw [hexport] at he
    cases he
  | some e =>
    let file : ContractFile D := ⟨e.contractPath, e.contractSha256, contract⟩
    refine ⟨ack.messagePath, file, (h.exportPositionClose_iff ack.messagePath hbinds hack).mpr
      ⟨hle, rfl, fun e' he => ?_⟩⟩
    rw [hexport] at he
    rw [← Option.some.inj he]
    exact ⟨rfl, rfl⟩

/-- A close whose receipt is before its emission is never exported. -/
theorem Committed.not_exported {s : SpoolSystem D S} {close : R1RecordPositionClose D}
    {r : R1AcceptedRecordPositionCloseReceipt D} (h : Committed sha256 s close r)
    (messagePath : String) (contractFile : ContractFile D) (hlt : r.acceptedAt < close.emittedAt) :
    ∃ e, (exportPositionClose sha256 s messagePath contractFile).2 = .error e := by
  rw [exportPositionClose]
  cases hx : exportPayload sha256 s messagePath contractFile with
  | error e => exact ⟨e, rfl⟩
  | ok e =>
    obtain ⟨close', r', hclose', -, -, hload, hbind, -⟩ := exportPayload_eq_ok hx
    rw [h.published] at hclose'
    obtain rfl := Option.some.inj hclose'
    rw [h.receipt] at hload
    obtain rfl := Option.some.inj hload
    exact absurd ((requireReceiptBindsClose_eq_ok h.names).mp hbind) (not_le.mpr hlt)

/-- A committed close is consumed again without an error. -/
theorem Committed.consumed {s : SpoolSystem D S} {close : R1RecordPositionClose D}
    {r : R1AcceptedRecordPositionCloseReceipt D} (h : Committed sha256 s close r)
    (messagePath : String) {contract : R1RequiredPartitionContract}
    (hbinds : ContractBinds sha256 close contract) (instant utcoffset : Int) (crash : Bool) :
    ∃ answer, (consumePositionClose sha256 s messagePath contract (.aware instant utcoffset)
      crash).2 = .ok answer := by
  unfold consumePositionClose
  cases hack : s.spool.positionCloseAck with
  | some ack => exact ⟨_, rfl⟩
  | none =>
    have hreplay := acceptPositionClose_replay hbinds h.receipt h.names instant utcoffset
    simp only [h.published, deliverPositionClose, hreplay]
    exact ⟨_, rfl⟩

/-- After a consume that did not die, there is an ack. -/
theorem Committed.acked {s : SpoolSystem D S} {close : R1RecordPositionClose D}
    {r : R1AcceptedRecordPositionCloseReceipt D} (h : Committed sha256 s close r)
    (messagePath : String) {contract : R1RequiredPartitionContract}
    (hbinds : ContractBinds sha256 close contract) (instant utcoffset : Int) :
    ∃ ack, (consumePositionClose sha256 s messagePath contract (.aware instant utcoffset)
      false).1.spool.positionCloseAck = some ack := by
  unfold consumePositionClose
  cases hack : s.spool.positionCloseAck with
  | some ack => exact ⟨ack, hack⟩
  | none =>
    have hreplay := acceptPositionClose_replay hbinds h.receipt h.names instant utcoffset
    simp [h.published, deliverPositionClose, hreplay]

/-! ## The law -/

/-- What a later step must answer: an export with a contract that binds the close
gives the close and its receipt, once the close is acked, and the close is consumed
again without an error. -/
def AnswersClose (sha256 : PositionPayload D → D) (close : R1RecordPositionClose D)
    (r : R1AcceptedRecordPositionCloseReceipt D) (s : SpoolSystem D S)
    (answer : Except PyError (SpoolAnswer D)) : SpoolStep D → Prop
  | .exportClose _ contractFile => ContractBinds sha256 close contractFile.contract →
      s.spool.positionCloseAck.isSome → answer = .ok (.exported close r)
  | .consumeClose _ contract (.aware _ _) _ => ContractBinds sha256 close contract →
      ∃ a, answer = .ok a
  | _ => True

/-- In a run from `s`, every export and every consume of the close answers. -/
def Exportable (sha : CanonicalPayload → D) (sha256 : PositionPayload D → D)
    (sink : DeadLetterSink S) (s : SpoolSystem D S) (close : R1RecordPositionClose D)
    (r : R1AcceptedRecordPositionCloseReceipt D) (later : List (SpoolStep D)) : Prop :=
  Meets (spoolStep sha sha256 sink)
    (fun s x => AnswersClose sha256 close r s (spoolStep sha sha256 sink s x).2 x) s later

/-- An export of an acked close, with a contract that binds it, comes where the close
was not accepted before its emission, names the path that the ack has, and links the
contract file that an earlier export linked. -/
def KeepsExport (sha256 : PositionPayload D → D) (close : R1RecordPositionClose D)
    (acceptedAt : UtcMillis) (s : SpoolSystem D S) : SpoolStep D → Prop
  | .exportClose messagePath contractFile => ContractBinds sha256 close contractFile.contract →
      ∀ ack, s.spool.positionCloseAck = some ack →
        close.emittedAt ≤ acceptedAt ∧ ack.messagePath = messagePath ∧
          ∀ e ∈ s.spool.positionCloseExport,
            e.contractPath = contractFile.path ∧ e.contractSha256 = contractFile.sha256
  | _ => True

/-- In every state of a run from `s`, some further run exports the close. -/
def StaysExportable (sha : CanonicalPayload → D) (sha256 : PositionPayload D → D)
    (sink : DeadLetterSink S) (s : SpoolSystem D S) (close : R1RecordPositionClose D)
    (r : R1AcceptedRecordPositionCloseReceipt D) : Prop :=
  ∀ later, ∃ further messagePath contractFile,
    (spoolStep sha sha256 sink (after (spoolStep sha sha256 sink) s (later ++ further))
      (.exportClose messagePath contractFile)).2 = .ok (.exported close r)

/-- A committed close answers a step exactly when the step keeps the export. -/
theorem Committed.answers_iff {s : SpoolSystem D S} {close : R1RecordPositionClose D}
    {r : R1AcceptedRecordPositionCloseReceipt D} (h : Committed sha256 s close r) (x : SpoolStep D) :
    AnswersClose sha256 close r s (spoolStep sha sha256 sink s x).2 x ↔
      KeepsExport sha256 close r.acceptedAt s x := by
  cases x with
  | publish => exact Iff.rfl
  | consume => exact Iff.rfl
  | issue => exact Iff.rfl
  | publishClose => exact Iff.rfl
  | consumeClose messagePath contract now crash =>
    cases now with
    | naive => exact Iff.rfl
    | aware instant utcoffset =>
      exact iff_of_true (fun hbinds => h.consumed messagePath hbinds instant utcoffset crash) trivial
  | exportClose messagePath contractFile =>
    refine forall_congr' fun hbinds => ?_
    cases hack : s.spool.positionCloseAck with
    | none => simp
    | some ack =>
      have hiff := h.exportPositionClose_iff messagePath hbinds hack
      simpa [spoolStep] using hiff

variable (sha sha256 sink) in
/-- A close that is accepted and committed can always still be exported exactly when
the clock, at its commit, did not read a time before the close was emitted; where it
did, no later export succeeds. In each later run, every export and every further
consume of the close answers exactly when each export also agrees with the ack on the
path of the message and with the earlier export on the contract file. -/
theorem exportable_iff (sink₀ : S) (before : List (SpoolStep D)) (messagePath : String)
    (contract : R1RequiredPartitionContract) (now : PyDatetime) (crash : Bool)
    (close : R1RecordPositionClose D) (r : R1AcceptedRecordPositionCloseReceipt D)
    (hclose : (spoolAfter sha sha256 sink sink₀ before).spool.positionClose = some close)
    (h : (spoolStep sha sha256 sink (spoolAfter sha sha256 sink sink₀ before)
      (.consumeClose messagePath contract now crash)).2 = .ok (.positionClose ⟨true, r⟩)) :
    ∃ acceptedAt, utcMilliseconds now = .ok acceptedAt ∧
      (StaysExportable sha sha256 sink (spoolAfter sha sha256 sink sink₀
        (before ++ [.consumeClose messagePath contract now crash])) close r ↔
          close.emittedAt ≤ acceptedAt) ∧
      (∀ later, Exportable sha sha256 sink (spoolAfter sha sha256 sink sink₀
          (before ++ [.consumeClose messagePath contract now crash])) close r later ↔
        Meets (spoolStep sha sha256 sink) (KeepsExport sha256 close acceptedAt)
          (spoolAfter sha sha256 sink sink₀
            (before ++ [.consumeClose messagePath contract now crash])) later) ∧
      (acceptedAt < close.emittedAt → ∀ later messagePath' contractFile, ∃ e,
        (spoolStep sha sha256 sink (spoolAfter sha sha256 sink sink₀
          (before ++ .consumeClose messagePath contract now crash :: later))
            (.exportClose messagePath' contractFile)).2 = .error e) := by
  have hcommitted := committed_of_accepted sha sha256 sink sink₀ before messagePath contract now
    crash hclose h
  obtain ⟨-, hbinds, acceptedAt, hclock, hcommits⟩ := consumeClose_accepted hclose h
  have hat := hcommits.acceptedAt_eq
  have hstep : spoolAfter sha sha256 sink sink₀
      (before ++ [.consumeClose messagePath contract now crash]) =
      (spoolStep sha sha256 sink (spoolAfter sha sha256 sink sink₀ before)
        (.consumeClose messagePath contract now crash)).1 := by
    rw [spoolAfter, after, run_snoc]
  rw [← hstep] at hcommitted
  have hlater : ∀ later, Committed sha256 (after (spoolStep sha sha256 sink)
      (spoolAfter sha sha256 sink sink₀ (before ++ [.consumeClose messagePath contract now crash]))
      later) close r := fun later =>
    run_induction (spoolStep sha sha256 sink) (P := fun s => Committed sha256 s close r)
      (fun s x hs => hs.step x) hcommitted later
  refine ⟨acceptedAt, hclock, ⟨fun hstays => ?_, fun hle later => ?_⟩, fun later => ?_,
    fun hearly later messagePath' contractFile => ?_⟩
  · obtain ⟨further, messagePath', contractFile, hok⟩ := hstays []
    by_contra hlt
    obtain ⟨e, he⟩ := (hlater ([] ++ further)).not_exported messagePath' contractFile
      (hat ▸ not_le.mp hlt)
    rw [spoolStep, he] at hok
    cases hok
  · -- Consume once more, so that there is an ack.
    refine ⟨[.consumeClose messagePath contract (.aware 0 0) false], ?_⟩
    obtain ⟨ack, hack⟩ := (hlater later).acked messagePath hbinds 0 0
    have hfurther := hlater (later ++ [.consumeClose messagePath contract (.aware 0 0) false])
    rw [after_append, after, run_cons] at hfurther ⊢
    exact hfurther.exists_export hbinds hack (hat ▸ hle)
  · refine forall_congr' fun pre => forall_congr' fun x => forall_congr' fun post =>
      forall_congr' fun _ => ?_
    rw [← hat]
    exact (hlater pre).answers_iff x
  · have hafter : spoolAfter sha sha256 sink sink₀
        (before ++ .consumeClose messagePath contract now crash :: later) =
        after (spoolStep sha sha256 sink) (spoolAfter sha sha256 sink sink₀
          (before ++ [.consumeClose messagePath contract now crash])) later := by
      rw [List.append_cons, spoolAfter, after_append]
    rw [hafter]
    exact (hlater later).not_exported messagePath' contractFile (hat ▸ hearly)

/-! ## A clock behind the emitter's -/

namespace Sample

open Stream.Sample (discard)

/-- The receipt of the issued close, one millisecond before its emission. -/
def earlyReceipt : R1AcceptedRecordPositionCloseReceipt Digest :=
  receipt 1 Nat.one_pos
    (positionCloseRow issuedClose (positionSha256 (.positionClose issuedClose)) 2999)

/-- The file of the sample contract. -/
def contractFile : ContractFile Digest := ⟨"/contracts/required-partitions.json", .file 10, contract⟩

end Sample

open Sample Stream.Sample in
/-- The issued close, accepted at 4000 ms: it is exported twice from its contract file. -/
theorem exportable_iff_issued :
    Exportable Digest.stream positionSha256 discard (spoolAfter Digest.stream positionSha256 discard ()
      (issueSteps ++ [.consumeClose closePath contract (.aware 4000000 0) false])) issuedClose
      issuedReceipt [.exportClose closePath contractFile, .exportClose closePath contractFile] := by
  obtain ⟨acceptedAt, hclock, -, hlaw, -⟩ := exportable_iff Digest.stream positionSha256 discard ()
    issueSteps closePath contract (.aware 4000000 0) false issuedClose issuedReceipt (by rfl) (by rfl)
  obtain rfl : 4000 = acceptedAt := Except.ok.inj hclock
  refine (hlaw _).mpr (meets_cons (fun _ ack hack => ?_) (meets_cons (fun _ ack hack => ?_) meets_nil))
  · rw [← Option.some.inj hack]
    exact ⟨by decide, rfl, fun e he => by cases he⟩
  · rw [← Option.some.inj hack]
    refine ⟨by decide, rfl, fun e he => ?_⟩
    rw [← Option.some.inj he]
    exact ⟨rfl, rfl⟩

open Sample Stream.Sample in
/-- A close accepted one millisecond before its emission is never exported. -/
theorem exportable_fails :
    ¬ ∀ before messagePath contract now crash close r,
      (spoolAfter Digest.stream positionSha256 discard () before).spool.positionClose = some close →
      (spoolStep Digest.stream positionSha256 discard
        (spoolAfter Digest.stream positionSha256 discard () before)
        (.consumeClose messagePath contract now crash)).2 = .ok (.positionClose ⟨true, r⟩) →
      Exportable Digest.stream positionSha256 discard (spoolAfter Digest.stream positionSha256 discard ()
        (before ++ [.consumeClose messagePath contract now crash])) close r
        [.exportClose messagePath ⟨"/contracts/required-partitions.json", .file 10, contract⟩] := by
  intro h
  have hexport := h issueSteps closePath contract (.aware 2999999 0) false issuedClose earlyReceipt
    (by rfl) (by rfl)
  have hok := hexport [] (.exportClose closePath contractFile) [] rfl (by rfl) (by rfl)
  have herr : (spoolStep Digest.stream positionSha256 discard
      (spoolAfter Digest.stream positionSha256 discard ()
        (issueSteps ++ [.consumeClose closePath contract (.aware 2999999 0) false]))
      (.exportClose closePath contractFile)).2 =
        .error (.valueError "a position close cannot be accepted before it was emitted") := by
    rfl
  exact nomatch (hok.symm.trans herr)

end IncidentAwareness.Position
