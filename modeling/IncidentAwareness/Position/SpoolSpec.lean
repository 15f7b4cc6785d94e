import IncidentAwareness.Position.Spool

/-!
# What a step of the spool does

`Moves`: every way a step changes the ledger, the outbox, the published close
and the closes being issued (`spoolStep_moves`). An issued close names the
partition, the bound and the covered sequence of the snapshot it verified, and
every chunk file beyond the covered sequences is past the bound
(`issuePositionClose_eq_ok`).
-/

namespace IncidentAwareness.Position

open IncidentAwareness.Common IncidentAwareness.Lib IncidentAwareness.Stream Ledger

variable {D S : Type}

/-! ## RecordIds of chunk files -/

/-- The RecordId of an Event is a decimal numeral of a value greater than `u`. -/
def RecordIdAbove (u : Nat) (e : NormalizedEvent) : Prop :=
  ∃ n, sourceRecordId e.rawRef.sourceRecordId = .ok n ∧ u < n

theorem verifyPostBoundEvents_eq_ok {upper : Nat} {es : List NormalizedEvent} {u : Unit}
    (h : verifyPostBoundEvents upper es = .ok u) : ∀ e ∈ es, RecordIdAbove upper e := by
  induction es with
  | nil => simp
  | cons e es ih =>
    obtain ⟨n, hn, h₁⟩ := Except.bind_eq_ok.mp h
    obtain ⟨habove, hrest⟩ := raiseIf_bind_eq_ok.mp h₁
    intro x hx
    rcases List.mem_cons.mp hx with rfl | hx
    · exact ⟨n, hn, not_le.mp habove⟩
    · exact ih hrest x hx

theorem decimalDigit_of_isDigit {c : Char} (h : c.isDigit = true) :
    decimalDigit c = some (c.toNat - '0'.toNat) := by
  have hrange : 0x30 ≤ c.toNat ∧ c.toNat < 0x30 + 10 := by
    simp only [Char.isDigit, Bool.and_eq_true, decide_eq_true_eq, UInt32.le_iff_toNat_le] at h
    have h₁ : 48 ≤ c.toNat := h.1
    have h₂ : c.toNat ≤ 57 := h.2
    omega
  simp [decimalDigit, decimalZeros, hrange]

theorem foldl_decimalDigit {cs : List Char} (h : ∀ c ∈ cs, c.isDigit = true) (a : Nat) :
    cs.foldl (fun n c => do return 10 * (← n) + (← decimalDigit c)) (some a) =
      some (cs.foldl (fun n c => 10 * n + (c.toNat - '0'.toNat)) a) := by
  induction cs generalizing a with
  | nil => rfl
  | cons c cs ih =>
    have hc := decimalDigit_of_isDigit (h c List.mem_cons_self)
    simp only [List.foldl_cons, hc]
    exact ih (fun d hd => h d (List.mem_cons_of_mem c hd)) _

/-- A canonical RecordId is decimal, with the same value. -/
theorem sourceRecordId_of_isCanonicalRecordId {v : String}
    (h : isCanonicalRecordId (some v) = true) : sourceRecordId (some v) = .ok (decimalInt v) := by
  simp only [isCanonicalRecordId, isAsciiDecimal, Bool.and_eq_true, Bool.not_eq_true',
    List.all_eq_true] at h
  have hvalue : decimalValue v = some (decimalInt v) := by
    rw [decimalValue, h.1.1]
    exact foldl_decimalDigit h.1.2 0
  simp [sourceRecordId, hvalue]

theorem PastFrontier.recordIdAbove {u : Nat} {e : NormalizedEvent}
    (h : PastFrontier u e.rawRef.sourceRecordId) : RecordIdAbove u e := by
  obtain ⟨v, hv, hcanonical, hafter⟩ := h
  refine ⟨decimalInt v, ?_, hafter⟩
  rw [hv, sourceRecordId_of_isCanonicalRecordId hcanonical]

/-! ## Issuing -/

theorem eventChunk?_eq_some {f : SpoolFile D} {c : R1EventChunk D} :
    f.eventChunk? = some c ↔ f.message = .eventChunk c := by
  unfold SpoolFile.eventChunk?
  cases f.message with
  | eventChunk c' => simp
  | sourceWatermark w => simp
  | runClosed r => simp

theorem mem_eventChunkFiles {spool : RunSpool D} {x : SpoolFile D × R1EventChunk D} :
    x ∈ spool.eventChunkFiles ↔ x.1 ∈ spool.outbox ∧ x.1.message = .eventChunk x.2 := by
  simp only [RunSpool.eventChunkFiles, List.mem_filterMap, mem_sortedBy, Option.map_eq_some_iff,
    eventChunk?_eq_some]
  constructor
  · rintro ⟨f, hf, c, hc, rfl⟩
    exact ⟨hf, hc⟩
  · rintro ⟨hf, hc⟩
    exact ⟨x.1, hf, x.2, hc, rfl⟩

theorem verifyPostBound_eq_ok {upper covered : Nat} {files : List (SpoolFile D × R1EventChunk D)}
    {sequences : List Nat} (h : verifyPostBound upper covered files = .ok sequences) :
    ∀ x ∈ files, covered < x.2.chunkSequence → ∀ e ∈ x.2.events, RecordIdAbove upper e := by
  induction files generalizing sequences with
  | nil => simp
  | cons file files ih =>
    obtain ⟨f, c⟩ := file
    intro x hx hbeyond
    simp only [verifyPostBound] at h
    split at h
    · next hle =>
      rcases List.mem_cons.mp hx with rfl | hx
      · exact absurd hbeyond (not_lt.mpr hle)
      · exact ih h x hx hbeyond
    · obtain ⟨_, hevents, h₁⟩ := Except.bind_eq_ok.mp h
      obtain ⟨rest, hrest, -⟩ := Except.bind_eq_ok.mp h₁
      rcases List.mem_cons.mp hx with rfl | hx
      · exact verifyPostBoundEvents_eq_ok hevents
      · exact ih hrest x hx hbeyond

variable [DecidableEq D] {sha : CanonicalPayload → D} {sha256 : PositionPayload D → D}
  {sink : DeadLetterSink S}

theorem verifyChunks_postBound {spool : RunSpool D} {p : R1StreamPartition} {covered upper : Nat}
    {segments : List (List RawRecord)}
    {result : List (R1CoveredChunk D) × List SnapshotIdentity × List Nat}
    (h : verifyChunks sha spool p covered segments upper = .ok result) :
    ∀ x ∈ spool.eventChunkFiles, covered < x.2.chunkSequence →
      ∀ e ∈ x.2.events, RecordIdAbove upper e := by
  obtain ⟨_, -, h₁⟩ := Except.bind_eq_ok.mp h
  obtain ⟨-, h₂⟩ := raiseIf_bind_eq_ok.mp h₁
  obtain ⟨_, -, h₃⟩ := Except.bind_eq_ok.mp h₂
  obtain ⟨_, hpost, -⟩ := Except.bind_eq_ok.mp h₃
  intro x hx
  exact verifyPostBound_eq_ok hpost x (mem_sortedBy.mpr hx)

theorem verifyLiveSnapshotDelivery_postBound {spool : RunSpool D}
    {segmentFiles : Nat → Option (List RawRecord)} {inventory expected : D} {p : R1StreamPartition}
    {lower upper covered count : Nat} {delivery : R1LiveSnapshotDelivery D}
    (h : verifyLiveSnapshotDelivery sha spool segmentFiles inventory p lower upper covered expected
      count = .ok delivery) :
    ∀ x ∈ spool.eventChunkFiles, covered < x.2.chunkSequence →
      ∀ e ∈ x.2.events, RecordIdAbove upper e := by
  simp only [verifyLiveSnapshotDelivery, raiseIf_bind_eq_ok] at h
  obtain ⟨-, -, h⟩ := h
  obtain ⟨segments, -, h₁⟩ := Except.bind_eq_ok.mp h
  obtain ⟨-, h₂⟩ := raiseIf_bind_eq_ok.mp h₁
  obtain ⟨_, -, h₃⟩ := Except.bind_eq_ok.mp h₂
  obtain ⟨-, h₄⟩ := raiseIf_bind_eq_ok.mp h₃
  obtain ⟨_, hchunks, -⟩ := Except.bind_eq_ok.mp h₄
  exact verifyChunks_postBound hchunks

theorem verifySnapshot_postBound {spool : RunSpool D} {sources : R1SnapshotSources D}
    {delivery : R1LiveSnapshotDelivery D} (h : verifySnapshot sha spool sources = .ok delivery) :
    ∀ x ∈ spool.eventChunkFiles, sources.ack.coveredThroughChunkSequence < x.2.chunkSequence →
      ∀ e ∈ x.2.events, RecordIdAbove sources.ack.sourceUpperRecordId e := by
  obtain ⟨_, -, h₁⟩ := Except.bind_eq_ok.mp h
  obtain ⟨_, -, h₂⟩ := Except.bind_eq_ok.mp h₁
  obtain ⟨_, -, h₃⟩ := Except.bind_eq_ok.mp h₂
  obtain ⟨-, h₄⟩ := raiseIf_bind_eq_ok.mp h₃
  obtain ⟨_, hlive, -⟩ := Except.bind_eq_ok.mp h₄
  exact verifyLiveSnapshotDelivery_postBound hlive

/-- An issued close: its bound and covered sequence are those of a snapshot of
the spool whose chunk files beyond the covered sequences are past the bound. -/
theorem issuePositionClose_eq_ok {spool : RunSpool D} {sources : R1SnapshotSources D}
    {now : PyDatetime} {close : R1RecordPositionClose D}
    (h : issuePositionClose sha sha256 spool sources now = .ok close) :
    ∀ x ∈ spool.eventChunkFiles, close.coveredThroughChunkSequence < x.2.chunkSequence →
      ∀ e ∈ x.2.events, RecordIdAbove close.positionFrontier.upperRecordId e := by
  obtain ⟨delivery, hsnapshot, h₁⟩ := Except.bind_eq_ok.mp h
  have hpost := verifySnapshot_postBound hsnapshot
  obtain ⟨_, -, h₂⟩ := Except.bind_eq_ok.mp h₁
  obtain ⟨emittedAt, -, h₃⟩ := Except.bind_eq_ok.mp h₂
  obtain ⟨-, h₄⟩ := raiseIf_bind_eq_ok.mp h₃
  obtain ⟨closeId, -, h₅⟩ := Except.bind_eq_ok.mp h₄
  split at h₅
  · rw [Except.pure_eq_ok.mp h₅]
    exact hpost
  · cases h₅

/-! ## Steps -/

/-- What the steps move, apart from acks and dead letters. -/
structure SpoolView (D : Type) where
  ledger : Ledger D
  outbox : Table (SameKey (SpoolFile.name (D := D)))
  positionClose : Option (R1RecordPositionClose D)
  issuing : List (R1RecordPositionClose D)

/-- The view of a state. -/
def SpoolSystem.view (s : SpoolSystem D S) : SpoolView D :=
  ⟨s.ledger, s.spool.outbox, s.spool.positionClose, s.issuing⟩

/-- How a step changes the view. -/
inductive Moves (sha : CanonicalPayload → D) (sha256 : PositionPayload D → D) (v : SpoolView D) :
    SpoolStep D → SpoolView D → Prop where
  | stay {x} : Moves sha sha256 v x v
  | publish {file t} (inserted : v.outbox.insert? file = some t) :
      Moves sha sha256 v (.publish file) { v with outbox := t }
  | consume {name contract now crash file result l} (listed : v.outbox.get name = some file)
      (commits : Commits sha v.ledger (file.message.delivery now) result l) :
      Moves sha sha256 v (.consume name contract now crash) { v with ledger := l }
  | issue {sources now close spool} (outbox : spool.outbox = v.outbox)
      (issued : issuePositionClose sha sha256 spool sources now = .ok close) :
      Moves sha sha256 v (.issue sources now) { v with issuing := close :: v.issuing }
  | publishClose {close} (issued : close ∈ v.issuing) (new : v.positionClose = none) :
      Moves sha sha256 v (.publishClose close) { v with positionClose := some close }
  | consumeClose {messagePath contract now crash close acceptedAt a l}
      (published : v.positionClose = some close)
      (commits : CommitsClose sha256 v.ledger close acceptedAt a l) :
      Moves sha sha256 v (.consumeClose messagePath contract now crash) { v with ledger := l }

theorem publishFile_moves (s : SpoolSystem D S) (file : SpoolFile D) :
    Moves sha sha256 s.view (.publish file) (publishFile s file).1.view := by
  unfold publishFile
  cases hget : s.spool.outbox.get file.name with
  | some existing =>
    simp only
    split
    · exact .stay
    · exact .stay
  | none =>
    obtain ⟨t, ht⟩ := Table.exists_insert?_of_get hget
    simp only [ht, Option.getD_some]
    exact .publish (v := s.view) ht

theorem consumeFile_moves (s : SpoolSystem D S) (name : Nat × MessageType)
    (contract : R1RequiredPartitionContract) (now : PyDatetime) (crash : Bool) :
    Moves sha sha256 s.view (.consume name contract now crash)
      (consumeFile sha sink s name contract now crash).1.view := by
  unfold consumeFile
  cases hget : s.spool.outbox.get name with
  | none => exact .stay
  | some file =>
    cases s.spool.acks.get name with
    | some ack => exact .stay
    | none =>
      simp only
      cases requireContract contract file.message with
      | error e => exact .stay
      | ok u =>
        simp only
        rcases deliver_cases sha sink s.ingress (file.message.delivery now) with
          ⟨e, he, hl⟩ | ⟨result, hr, hc⟩
        · simp only [he]
          have hview : (⟨(deliver sha sink s.ingress (file.message.delivery now)).1, s.spool,
              s.issuing⟩ : SpoolSystem D S).view = s.view := by
            simp only [SpoolSystem.view, SpoolSystem.ledger, hl]
          rw [hview]
          exact .stay
        · simp only [hr]
          have hmove : Moves sha sha256 s.view (.consume name contract now crash)
              { s.view with
                ledger := (deliver sha sink s.ingress (file.message.delivery now)).1.ledger } :=
            .consume hget hc
          cases crash with
          | true => exact hmove
          | false => exact hmove

theorem publishPositionClose_moves (s : SpoolSystem D S) (close : R1RecordPositionClose D) :
    Moves sha sha256 s.view (.publishClose close) (publishPositionClose s close).1.view := by
  unfold publishPositionClose
  split
  · next hissued =>
    cases hclose : s.spool.positionClose with
    | none => exact .publishClose (v := s.view) hissued hclose
    | some existing =>
      simp only
      split
      · exact .stay
      · exact .stay
  · exact .stay

theorem consumePositionClose_moves (s : SpoolSystem D S) (messagePath : String)
    (contract : R1RequiredPartitionContract) (now : PyDatetime) (crash : Bool) :
    Moves sha sha256 s.view (.consumeClose messagePath contract now crash)
      (consumePositionClose sha256 s messagePath contract now crash).1.view := by
  unfold consumePositionClose
  cases s.spool.positionCloseAck with
  | some ack => exact .stay
  | none =>
    cases hclose : s.spool.positionClose with
    | none => exact .stay
    | some close =>
      simp only
      cases hd : (deliverPositionClose sha256 s.ingress close contract now).2 with
      | error e =>
        simp only
        rw [deliverPositionClose_eq_error hd]
        exact .stay
      | ok a =>
        obtain ⟨-, acceptedAt, -, hcommits⟩ := deliverPositionClose_eq_ok hd
        have hmove : Moves sha sha256 s.view (.consumeClose messagePath contract now crash)
            { s.view with
              ledger := (deliverPositionClose sha256 s.ingress close contract now).1.ledger } :=
          .consumeClose hclose hcommits
        cases crash with
        | true => exact hmove
        | false => exact hmove

variable (sha256) in
/-- An export writes the export file only. -/
theorem exportPositionClose_view (s : SpoolSystem D S) (messagePath : String)
    (contractFile : ContractFile D) :
    (exportPositionClose sha256 s messagePath contractFile).1.view = s.view := by
  unfold exportPositionClose
  cases exportPayload sha256 s messagePath contractFile with
  | error e => rfl
  | ok payload =>
    simp only
    cases s.spool.positionCloseExport with
    | none => rfl
    | some existing =>
      simp only
      split <;> rfl

variable (sha sha256 sink) in
theorem spoolStep_moves (s : SpoolSystem D S) (x : SpoolStep D) :
    Moves sha sha256 s.view x (spoolStep sha sha256 sink s x).1.view := by
  cases x with
  | publish file => exact publishFile_moves s file
  | consume name contract now crash => exact consumeFile_moves s name contract now crash
  | issue sources now =>
    simp only [spoolStep]
    cases hissue : issuePositionClose sha sha256 s.spool sources now with
    | error e => exact .stay
    | ok close => exact .issue (v := s.view) rfl hissue
  | publishClose close => exact publishPositionClose_moves s close
  | consumeClose messagePath contract now crash =>
    exact consumePositionClose_moves s messagePath contract now crash
  | exportClose messagePath contractFile =>
    have hview := exportPositionClose_view sha256 s messagePath contractFile
    simp only [spoolStep, hview]
    exact .stay

end IncidentAwareness.Position
