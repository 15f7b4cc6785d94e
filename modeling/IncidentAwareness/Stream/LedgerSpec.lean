import IncidentAwareness.Stream.Ledger
import Mathlib.Data.Finset.Max
import Mathlib.Data.List.TakeWhile
import Mathlib.Order.Interval.Finset.Nat

/-!
# What the ledger's methods do

One lemma a query: the row it selects, in terms of membership in the table
(`chunkById_eq_some`, `latestWatermark_eq_some`), and when a watermark covers
the chunks received (`covers_iff`). One lemma a method: what it checked and what
it wrote when it returned (`newEventIds_eq_ok`, `insertEvents_eq_ok`,
`saveChunk_eq_ok`, `saveWatermark_eq_ok`, `saveRunClose_eq_ok`). Later proofs
use these and unfold no method.
-/

namespace IncidentAwareness.Stream

open IncidentAwareness.Common IncidentAwareness.Lib

variable {D : Type}

/-- The INTEGER columns hold the watermark. -/
def FitsInteger (w : R1SourceWatermark) : Prop :=
  w.watermarkSequence ≤ Ledger.integerMax ∧ w.allowedLatenessMs ≤ Ledger.integerMax ∧
    w.coveredThroughChunkSequence ≤ Ledger.integerMax

instance (w : R1SourceWatermark) : Decidable (FitsInteger w) :=
  inferInstanceAs (Decidable (_ ∧ _))

/-- The columns of `r1_stream_watermarks` hold the watermark. -/
def FitsColumns (w : R1SourceWatermark) : Prop :=
  Storable (w.watermarkId.val :: w.partition.texts) ∧ FitsInteger w

instance (w : R1SourceWatermark) : Decidable (FitsColumns w) :=
  inferInstanceAs (Decidable (_ ∧ _))

namespace Ledger

variable {l l' : Ledger D} {p : R1StreamPartition}

theorem checkTexts_eq_ok {texts : List String} {u : Unit} :
    checkTexts texts = .ok u ↔ Storable texts := by
  rw [checkTexts, raiseIf_eq_ok, not_not]

theorem checkTexts_bind_eq_ok {α : Type} {texts : List String} {f : Unit → Except PyError α} {a : α} :
    (checkTexts texts >>= f) = .ok a ↔ Storable texts ∧ f () = .ok a := by
  rw [checkTexts, raiseIf_bind_eq_ok, not_not]

/-! ## Queries -/

theorem chunkById_eq_some {chunkId : Identifier} {r : ChunkRow D} :
    l.chunkById p chunkId = some r ↔ r ∈ l.chunks ∧ r.partition = p ∧ r.chunkId = chunkId := by
  rw [chunkById, Table.find?_eq_some_iff_mem, decide_eq_true_iff]
  intro a b ha hb
  simp only [decide_eq_true_eq] at ha hb
  exact ⟨ha.1.trans hb.1.symm, .inl (ha.2.trans hb.2.symm)⟩

theorem chunkById_eq_none {chunkId : Identifier} :
    l.chunkById p chunkId = none ↔ ∀ r ∈ l.chunks, r.partition = p → r.chunkId ≠ chunkId := by
  simp [chunkById, Table.mem_def]

theorem chunkBySequence_isSome {sequence : Nat} :
    (l.chunkBySequence p sequence).isSome ↔
      ∃ r ∈ l.chunks, r.partition = p ∧ r.chunkSequence = sequence := by
  simp [chunkBySequence, Table.mem_def]

/-- The partition's event ledger has the id. -/
def HasEvent (l : Ledger D) (p : R1StreamPartition) (eventId : String) : Prop :=
  ∃ r ∈ l.events.rows, r.partition = p ∧ r.eventId = eventId

instance (l : Ledger D) (p : R1StreamPartition) (eventId : String) :
    Decidable (l.HasEvent p eventId) :=
  inferInstanceAs (Decidable (∃ r ∈ l.events.rows, _))

theorem eventById_eq_none {eventId : String} :
    l.eventById p eventId = .ok none ↔
      ¬ l.HasEvent p eventId ∧ Storable (eventId :: p.texts) := by
  unfold eventById HasEvent
  split
  · next h =>
    have hno : ¬ ∃ r ∈ l.events.rows, r.partition = p ∧ r.eventId = eventId := by simpa using h
    rw [checkTexts_bind_eq_ok, Except.pure_eq_ok]
    exact ⟨fun ⟨htexts, _⟩ => ⟨hno, htexts⟩, fun ⟨_, htexts⟩ => ⟨htexts, rfl⟩⟩
  · next row h =>
    have hrow : ∃ r ∈ l.events.rows, r.partition = p ∧ r.eventId = eventId :=
      ⟨row, List.mem_of_find?_eq_some h, by simpa using List.find?_some h⟩
    split <;> simp [hrow]

theorem eventById_eq_some {eventId : String} {r : EventRow D} :
    l.eventById p eventId = .ok (some r) ↔
      (r ∈ l.events ∧ r.partition = p ∧ r.eventId = eventId) ∧ isBlank eventId = false := by
  have key : (l.events.rows.find? fun r => r.partition = p ∧ r.eventId = eventId) = some r ↔
      r ∈ l.events ∧ r.partition = p ∧ r.eventId = eventId := by
    rw [Table.find?_eq_some_iff_mem, decide_eq_true_iff]
    intro a b ha hb
    simp only [decide_eq_true_eq] at ha hb
    exact ⟨ha.1.trans hb.1.symm, ha.2.trans hb.2.symm⟩
  rw [← key]
  unfold eventById
  split
  · next h =>
    rw [h, checkTexts_bind_eq_ok, Except.pure_eq_ok]
    simp
  · next row h =>
    have hp := List.find?_some h
    simp only [decide_eq_true_eq] at hp
    rw [h, hp.2]
    split
    · next hb => simp [hb]
    · next hb => simpa using fun _ => hb

theorem watermarkById_eq_some {watermarkId : Identifier} {r : WatermarkRow D} :
    l.watermarkById p watermarkId = some r ↔
      r ∈ l.watermarks ∧ r.partition = p ∧ r.watermarkId = watermarkId := by
  rw [watermarkById, Table.find?_eq_some_iff_mem, decide_eq_true_iff]
  intro a b ha hb
  simp only [decide_eq_true_eq] at ha hb
  exact ⟨ha.1.trans hb.1.symm, .inl (ha.2.trans hb.2.symm)⟩

theorem watermarkById_eq_none {watermarkId : Identifier} :
    l.watermarkById p watermarkId = none ↔
      ∀ r ∈ l.watermarks, r.partition = p → r.watermarkId ≠ watermarkId := by
  simp [watermarkById, Table.mem_def]

theorem watermarkBySequence_isSome {sequence : Nat} :
    (l.watermarkBySequence p sequence).isSome ↔
      ∃ r ∈ l.watermarks, r.partition = p ∧ r.watermarkSequence = sequence := by
  simp [watermarkBySequence, Table.mem_def]

/-- The latest watermark is the partition's row with the greatest sequence. -/
theorem latestWatermark_eq_some {w : WatermarkRow D} :
    l.latestWatermark p = some w ↔ (w ∈ l.watermarks ∧ w.partition = p) ∧
      ∀ w' ∈ l.watermarks, w'.partition = p → w'.watermarkSequence ≤ w.watermarkSequence := by
  have hmem : ∀ {a : WatermarkRow D},
      a ∈ (l.watermarks.rows.filter fun r => r.partition = p) ↔ a ∈ l.watermarks ∧ a.partition = p := by
    simp [Table.mem_def]
  constructor
  · intro h
    have hw := hmem.mp (List.argmax_mem h)
    exact ⟨hw, fun w' hw' hp' => List.le_of_mem_argmax (hmem.mpr ⟨hw', hp'⟩) h⟩
  · rintro ⟨hw, hmax⟩
    cases h : l.latestWatermark p with
    | none =>
      have := List.argmax_eq_none.mp h
      rw [← hmem, this] at hw
      exact absurd hw List.not_mem_nil
    | some w' =>
      have hw' := hmem.mp (List.argmax_mem h)
      have hle := hmax w' hw'.1 hw'.2
      have hge := List.le_of_mem_argmax (hmem.mpr hw) h
      have hc : WatermarkRow.Conflict w' w := ⟨hw'.2.trans hw.2.symm, .inr (le_antisymm hle hge)⟩
      rw [Table.eq_of_conflict hw'.1 hw.1 hc]

theorem latestWatermark_eq_none :
    l.latestWatermark p = none ↔ ∀ w ∈ l.watermarks, w.partition ≠ p := by
  rw [latestWatermark, List.argmax_eq_none, List.filter_eq_nil_iff]
  simp [Table.mem_def]

theorem protectRun_iff {runId : RunId} :
    l.protectRun runId = true ↔ ∃ r ∈ l.runCloses, r.runId = runId := by
  simp [protectRun, Table.mem_def]

theorem closeById_eq_some {runId : RunId} {closeId : Identifier} {r : RunCloseRow D} :
    l.closeById runId closeId = some r ↔
      r ∈ l.runCloses ∧ r.runId = runId ∧ r.closeId = closeId := by
  rw [closeById, Table.find?_eq_some_iff_mem, decide_eq_true_iff]
  intro a b ha hb
  simp only [decide_eq_true_eq] at ha hb
  exact ha.1.trans hb.1.symm

/-! ## Covered chunks -/

/-- The partition has a chunk with the sequence. -/
def HasChunk (l : Ledger D) (p : R1StreamPartition) (sequence : Nat) : Prop :=
  ∃ r ∈ l.chunks, r.partition = p ∧ r.chunkSequence = sequence

/-- Natural numbers between 1 and `n` are all of them exactly when there are `n`
distinct ones, the least is 1 and the greatest `n`. -/
theorem dedup_covers_iff {xs : List Nat} {n : Nat} (hn : 1 ≤ n) (hx : ∀ x ∈ xs, 1 ≤ x ∧ x ≤ n) :
    (xs.dedup.length = n ∧ xs.dedup.min?.getD 0 = 1 ∧ xs.dedup.max?.getD 0 = n) ↔
      ∀ k, 1 ≤ k → k ≤ n → k ∈ xs := by
  have hsub : xs.toFinset ⊆ Finset.Icc 1 n := fun k hk => by
    simpa using hx k (List.mem_toFinset.mp hk)
  have hcard : xs.toFinset.card = xs.dedup.length := List.card_toFinset xs
  constructor
  · rintro ⟨hlen, -, -⟩ k h1 hk
    have heq : xs.toFinset = Finset.Icc 1 n :=
      Finset.eq_of_subset_of_card_le hsub (by rw [hcard, hlen, Nat.card_Icc]; omega)
    have : k ∈ xs.toFinset := by rw [heq]; simp [h1, hk]
    exact List.mem_toFinset.mp this
  · intro h
    have heq : xs.toFinset = Finset.Icc 1 n := by
      refine Finset.Subset.antisymm hsub fun k hk => ?_
      obtain ⟨h1, h2⟩ := Finset.mem_Icc.mp hk
      exact List.mem_toFinset.mpr (h k h1 h2)
    have hmem : ∀ {k}, k ∈ xs.dedup ↔ k ∈ xs := List.mem_dedup
    refine ⟨by rw [← hcard, heq, Nat.card_Icc]; omega, ?_, ?_⟩
    · have : xs.dedup.min? = some 1 :=
        List.min?_eq_some_iff.mpr ⟨hmem.mpr (h 1 le_rfl hn), fun b hb => (hx b (hmem.mp hb)).1⟩
      rw [this]; rfl
    · have : xs.dedup.max? = some n :=
        List.max?_eq_some_iff.mpr ⟨hmem.mpr (h n hn le_rfl), fun b hb => (hx b (hmem.mp hb)).2⟩
      rw [this]; rfl

/-- A watermark's frontier is active exactly when every chunk it covers is present. -/
theorem covers_iff {w : R1AcceptedWatermark} (hw : 1 ≤ w.coveredThroughChunkSequence) :
    l.watermarkCoversReceivedChunks p w = true ↔
      ∀ k, 1 ≤ k → k ≤ w.coveredThroughChunkSequence → l.HasChunk p k := by
  have hmem : ∀ {k}, k ∈ l.coveredChunkSequences p w.coveredThroughChunkSequence ↔
      l.HasChunk p k ∧ k ≤ w.coveredThroughChunkSequence := fun {k} => by
    simp only [coveredChunkSequences, List.mem_map, List.mem_filter, decide_eq_true_eq, HasChunk,
      Table.mem_def]
    constructor
    · rintro ⟨r, ⟨hr, hp, hle⟩, rfl⟩; exact ⟨⟨r, hr, hp, rfl⟩, hle⟩
    · rintro ⟨⟨r, hr, hp, rfl⟩, hle⟩; exact ⟨r, ⟨hr, hp, hle⟩, rfl⟩
  have hpos : ∀ k ∈ l.coveredChunkSequences p w.coveredThroughChunkSequence,
      1 ≤ k ∧ k ≤ w.coveredThroughChunkSequence := fun k hk => by
    obtain ⟨⟨r, -, -, rfl⟩, hle⟩ := hmem.mp hk
    exact ⟨r.chunkSequence_pos, hle⟩
  simp only [watermarkCoversReceivedChunks, Bool.and_eq_true, decide_eq_true_eq, and_assoc]
  rw [dedup_covers_iff hw hpos]
  exact forall_congr' fun k => forall₂_congr fun _ hk => by simp [hmem, hk]

/-! ## Events -/

/-- The ids, of Events with their digests, that the partition's ledger does not have. -/
def unknownEvents (l : Ledger D) (p : R1StreamPartition) (es : List (String × D)) :
    List (String × D) :=
  es.filter fun e => ¬ l.HasEvent p e.1

/-- Events that the ledger has are there with the same content, under an id
that is not blank. -/
def EventsAgree (l : Ledger D) (p : R1StreamPartition) (es : List (String × D)) : Prop :=
  ∀ e ∈ es, ∀ r ∈ l.events, r.partition = p → r.eventId = e.1 →
    isBlank e.1 = false ∧ r.contentSha256 = e.2

theorem eventsAgree_cons {e : String × D} {es : List (String × D)} :
    l.EventsAgree p (e :: es) ↔ (∀ r ∈ l.events, r.partition = p → r.eventId = e.1 →
      isBlank e.1 = false ∧ r.contentSha256 = e.2) ∧ l.EventsAgree p es := by
  simp [EventsAgree]

section Methods

variable [DecidableEq D]

theorem newEventIds_eq_ok {es : List (String × D)} {ids : List String} :
    l.newEventIds p es = .ok ids ↔ l.EventsAgree p es ∧
      (∀ e ∈ l.unknownEvents p es, Storable (e.1 :: p.texts)) ∧
      ids = (l.unknownEvents p es).map Prod.fst := by
  induction es generalizing ids with
  | nil =>
    have ha : l.EventsAgree p [] := fun e he => absurd he List.not_mem_nil
    exact ⟨fun h => ⟨ha, fun e he => absurd he List.not_mem_nil, (Except.ok.inj h).symm⟩,
      fun ⟨_, _, h⟩ => by rw [h]; rfl⟩
  | cons e es ih =>
    obtain ⟨i, sha⟩ := e
    rw [newEventIds, Except.bind_eq_ok, eventsAgree_cons]
    by_cases hk : l.HasEvent p i
    · have hu : l.unknownEvents p ((i, sha) :: es) = l.unknownEvents p es := by
        simp [unknownEvents, hk]
      rw [hu]
      constructor
      · rintro ⟨_ | row, hrow, h⟩
        · exact absurd hk (eventById_eq_none.mp hrow).1
        · obtain ⟨⟨hr, hp, hi⟩, hb⟩ := eventById_eq_some.mp hrow
          obtain ⟨hsha, h⟩ := raiseIf_bind_eq_ok.mp h
          obtain ⟨ha, htexts, rfl⟩ := ih.mp h
          refine ⟨⟨fun r hr' hp' hi' => ⟨hb, ?_⟩, ha⟩, htexts, rfl⟩
          rw [Table.eq_of_conflict hr' hr ⟨hp'.trans hp.symm, hi'.trans hi.symm⟩]
          exact not_not.mp hsha
      · rintro ⟨⟨hi, ha⟩, htexts, rfl⟩
        obtain ⟨r, hr, hp, rfl⟩ := hk
        obtain ⟨hb, rfl⟩ := hi r hr hp rfl
        refine ⟨some r, eventById_eq_some.mpr ⟨⟨hr, hp, rfl⟩, hb⟩, ?_⟩
        exact raiseIf_bind_eq_ok.mpr ⟨not_not.mpr rfl, ih.mpr ⟨ha, htexts, rfl⟩⟩
    · have hu : l.unknownEvents p ((i, sha) :: es) = (i, sha) :: l.unknownEvents p es := by
        simp [unknownEvents, hk]
      have hnone : ∀ r ∈ l.events, r.partition = p → r.eventId = i →
          isBlank i = false ∧ r.contentSha256 = sha :=
        fun r hr hp hi => absurd ⟨r, hr, hp, hi⟩ hk
      rw [hu, List.map_cons, List.forall_mem_cons]
      constructor
      · rintro ⟨_ | row, hrow, h⟩
        · obtain ⟨ids', h', h⟩ := Except.bind_eq_ok.mp h
          obtain ⟨ha, htexts, rfl⟩ := ih.mp h'
          exact ⟨⟨hnone, ha⟩, ⟨(eventById_eq_none.mp hrow).2, htexts⟩, (Except.ok.inj h).symm⟩
        · obtain ⟨⟨hr, hp, hi⟩, -⟩ := eventById_eq_some.mp hrow
          exact absurd ⟨row, hr, hp, hi⟩ hk
      · rintro ⟨⟨-, ha⟩, ⟨htext, htexts⟩, rfl⟩
        refine ⟨none, eventById_eq_none.mpr ⟨hk, htext⟩, ?_⟩
        exact Except.bind_eq_ok.mpr ⟨_, ih.mpr ⟨ha, htexts, rfl⟩, rfl⟩

/-- The ledger `l'` is `l` with the Events inserted that it did not have. -/
structure InsertsEvents (l : Ledger D) (p : R1StreamPartition) (es : List (String × D))
    (l' : Ledger D) : Prop where
  events : l'.events.rows =
    l.events.rows ++ (l.unknownEvents p es).map fun e => ⟨p, e.1, e.2⟩
  chunks : l'.chunks = l.chunks
  watermarks : l'.watermarks = l.watermarks
  runCloses : l'.runCloses = l.runCloses
  positionCloses : l'.positionCloses = l.positionCloses

omit [DecidableEq D] in
theorem hasEvent_insert {t : Table (EventRow.Conflict (D := D))} {r : EventRow D}
    (h : l.events.insert? r = some t) (i : String) :
    ({ l with events := t } : Ledger D).HasEvent p i ↔
      l.HasEvent p i ∨ (r.partition = p ∧ r.eventId = i) := by
  simp only [HasEvent, (Table.insert?_eq_some.mp h).2, List.mem_append, List.mem_singleton]
  constructor
  · rintro ⟨r', hr | rfl, hp, hi⟩
    · exact .inl ⟨r', hr, hp, hi⟩
    · exact .inr ⟨hp, hi⟩
  · rintro (⟨r', hr, hp, hi⟩ | ⟨hp, hi⟩)
    · exact ⟨r', .inl hr, hp, hi⟩
    · exact ⟨r, .inr rfl, hp, hi⟩

omit [DecidableEq D] in
/-- An Event inserted under another id leaves the rest of the batch as unknown as it was. -/
theorem unknownEvents_insert {t : Table (EventRow.Conflict (D := D))} {r : EventRow D}
    (h : l.events.insert? r = some t) {es : List (String × D)}
    (hes : r.eventId ∉ es.map Prod.fst) :
    ({ l with events := t } : Ledger D).unknownEvents p es = l.unknownEvents p es := by
  refine List.filter_congr fun e he => ?_
  have hne : r.eventId ≠ e.1 := fun heq => hes (heq ▸ List.mem_map_of_mem he)
  simp [hasEvent_insert h, hne]

omit [DecidableEq D] in
theorem insertRow_eq_ok {insert : Ledger D → Option (Ledger D)} {b : Bool} :
    (insertRow insert).run l = .ok b l' ↔
      (insert l = some l' ∧ b = true) ∨ (insert l = none ∧ b = false ∧ l' = l) := by
  simp only [insertRow, EStateM.run]
  cases insert l <;> simp [eq_comm, and_comm]

omit [DecidableEq D] in
/-- What `_INSERT_EVENT` answers: whether there was no row of the partition and id. -/
theorem insertEvent_eq_ok {row : EventRow D} {b : Bool} :
    (insertEvent row).run l = .ok b l' ↔
      (Storable (row.eventId :: row.partition.texts) ∧ isBtrimEmpty row.eventId = false) ∧
        ((∃ t, l.events.insert? row = some t ∧ b = true ∧ l' = { l with events := t }) ∨
          (l.events.insert? row = none ∧ b = false ∧ l' = l)) := by
  rw [insertEvent, run_check_eq_ok, run_check_eq_ok, checkTexts_eq_ok, raiseIf_eq_ok, and_assoc,
    Bool.not_eq_true]
  refine and_congr_right fun _ => and_congr_right fun _ => ?_
  rw [insertRow_eq_ok, Option.map_eq_some_iff, Option.map_eq_none_iff]
  grind

/-- A batch of distinct ids that returned: the ids it inserted and the ledger after it. -/
theorem insertEvents_eq_ok {es : List (String × D)} {ids : List String}
    (hnd : (es.map Prod.fst).Nodup) (h : (insertEvents p es).run l = .ok ids l') :
    ids = (l.unknownEvents p es).map Prod.fst ∧ l.InsertsEvents p es l' := by
  induction es generalizing l ids with
  | nil =>
    obtain ⟨rfl, rfl⟩ : [] = ids ∧ l = l' := by simpa [insertEvents] using h
    exact ⟨rfl, by simp [unknownEvents], rfl, rfl, rfl, rfl⟩
  | cons e es ih =>
    obtain ⟨i, sha⟩ := e
    obtain ⟨hni, hnd⟩ := List.nodup_cons.mp hnd
    rw [insertEvents, run_bind_eq_ok] at h
    obtain ⟨b, l₁, hb, h⟩ := h
    obtain ⟨-, ⟨t, hi, rfl, rfl⟩ | ⟨hi, rfl, rfl⟩⟩ := insertEvent_eq_ok.mp hb
    · simp only [if_true] at h
      obtain ⟨ids', l₂, hrest, hids⟩ := run_bind_eq_ok.mp h
      obtain ⟨rfl, rfl⟩ : i :: ids' = ids ∧ l₂ = l' := by simpa using hids
      obtain ⟨rfl, hl⟩ := ih hnd hrest
      have hk : ¬ l.HasEvent p i := by
        rintro ⟨r, hr, hp, hri⟩
        exact (Table.insert?_eq_some.mp hi).1 r hr ⟨hp, hri⟩
      have hu : l.unknownEvents p ((i, sha) :: es) = (i, sha) :: l.unknownEvents p es := by
        simp [unknownEvents, hk]
      have hue := unknownEvents_insert (p := p) hi hni
      refine ⟨by rw [hu, hue]; rfl, ?_, hl.chunks, hl.watermarks, hl.runCloses,
        hl.positionCloses⟩
      rw [hl.events, hue, hu, (Table.insert?_eq_some.mp hi).2]
      simp
    · simp only [Bool.false_eq_true, if_false] at h
      obtain ⟨u, l₂, hr, hrest⟩ := run_bind_eq_ok.mp h
      obtain ⟨-, rfl⟩ := run_reads_eq_ok.mp hr
      obtain ⟨rfl, hl⟩ := ih hnd hrest
      obtain ⟨r, hr, hp, hri⟩ := Table.insert?_eq_none.mp hi
      have hk : l₂.HasEvent p i := ⟨r, hr, hp, hri⟩
      have hu : l₂.unknownEvents p ((i, sha) :: es) = l₂.unknownEvents p es := by
        simp [unknownEvents, hk]
      exact ⟨by rw [hu], by rw [hl.events, hu], hl.chunks, hl.watermarks, hl.runCloses,
        hl.positionCloses⟩

theorem not_isBtrimEmpty_of_not_isBlank {s : String} (h : isBlank s = false) :
    isBtrimEmpty s = false := by
  by_contra hb
  simp only [isBtrimEmpty, Bool.not_eq_false, List.all_eq_true, beq_iff_eq] at hb
  have hs : s.toList.dropWhile isSpace = [] := by
    rw [List.dropWhile_eq_nil_iff]
    intro c hc
    rw [hb c hc]
    decide
  simp [isBlank, strip, hs] at h

/-- Events with storable ids that are not blank, none of which contradicts the
ledger, are all inserted or known. -/
theorem exists_insertEvents {es : List (String × D)} (hnd : (es.map Prod.fst).Nodup)
    (hb : ∀ e ∈ es, isBlank e.1 = false) (htexts : ∀ e ∈ es, Storable (e.1 :: p.texts))
    (ha : l.EventsAgree p es) :
    ∃ ids l', (insertEvents p es).run l = .ok ids l' := by
  induction es generalizing l with
  | nil => exact ⟨[], l, rfl⟩
  | cons e es ih =>
    obtain ⟨i, sha⟩ := e
    obtain ⟨hni, hnd⟩ := List.nodup_cons.mp hnd
    obtain ⟨hbi, hb⟩ := List.forall_mem_cons.mp hb
    obtain ⟨htext, htexts⟩ := List.forall_mem_cons.mp htexts
    obtain ⟨hai, ha⟩ := eventsAgree_cons.mp ha
    have hbt := not_isBtrimEmpty_of_not_isBlank hbi
    cases hi : l.events.insert? ⟨p, i, sha⟩ with
    | some t =>
      have ha' : ({ l with events := t } : Ledger D).EventsAgree p es := by
        intro e he r hr hp hre
        rcases (Table.mem_of_insert? hi).mp hr with hr | rfl
        · exact ha e he r hr hp hre
        · have hmem := List.mem_map_of_mem (f := Prod.fst) he
          rw [← hre] at hmem
          exact absurd hmem hni
      obtain ⟨ids, l', h⟩ := ih hnd hb htexts ha'
      refine ⟨i :: ids, l', run_bind_eq_ok.mpr ⟨true, { l with events := t }, ?_, ?_⟩⟩
      · exact insertEvent_eq_ok.mpr ⟨⟨htext, hbt⟩, .inl ⟨t, hi, rfl, rfl⟩⟩
      · exact run_bind_eq_ok.mpr ⟨ids, l', h, rfl⟩
    | none =>
      obtain ⟨ids, l', h⟩ := ih hnd hb htexts ha
      obtain ⟨r, hr, hp, hri⟩ := Table.insert?_eq_none.mp hi
      refine ⟨ids, l', run_bind_eq_ok.mpr ⟨false, l, ?_, ?_⟩⟩
      · exact insertEvent_eq_ok.mpr ⟨⟨htext, hbt⟩, .inr ⟨hi, rfl, rfl⟩⟩
      · refine run_bind_eq_ok.mpr ⟨(), l, run_reads_eq_ok.mpr ⟨?_, rfl⟩, h⟩
        rw [eventById_eq_some.mpr ⟨⟨hr, hp, hri⟩, hbi⟩]
        exact raiseIf_of_not (not_not.mpr (hai r hr hp hri).2)

/-! ## Chunks, watermarks and closes -/

omit [DecidableEq D] in
theorem insertChunk_eq_ok {row : ChunkRow D} {b : Bool} :
    (insertChunk row).run l = .ok b l' ↔
      (Storable (row.chunkId.val :: row.partition.texts) ∧ row.chunkSequence ≤ integerMax) ∧
        ((∃ t, l.chunks.insert? row = some t ∧ b = true ∧ l' = { l with chunks := t }) ∨
          (l.chunks.insert? row = none ∧ b = false ∧ l' = l)) := by
  rw [insertChunk, run_check_eq_ok, run_check_eq_ok, checkTexts_eq_ok, raiseIf_eq_ok, and_assoc,
    not_lt]
  refine and_congr_right fun _ => and_congr_right fun _ => ?_
  rw [insertRow_eq_ok, Option.map_eq_some_iff, Option.map_eq_none_iff]
  grind

theorem saveChunk_eq_ok {row : ChunkRow D} {b : Bool}
    (hc : l.protectRun row.partition.runId = false) (hn : ∀ a ∈ l.chunks, ¬ a.Conflict row) :
    (saveChunk row).run l = .ok b l' ↔ b = true ∧
      (Storable (row.chunkId.val :: row.partition.texts) ∧ row.chunkSequence ≤ integerMax) ∧
      ∃ t, l.chunks.insert? row = some t ∧ l' = { l with chunks := t } := by
  obtain ⟨t, ht⟩ := Table.exists_insert? hn
  have hp : (reads fun l : Ledger D => .ok (l.protectRun row.partition.runId)).run l =
      (.ok false l : EStateM.Result PyError (Ledger D) Bool) := by
    rw [run_reads, hc]
  rw [saveChunk, run_bind_of_ok hp]
  simp only [Bool.false_eq_true, if_false]
  rw [run_bind_eq_ok]
  constructor
  · rintro ⟨_, _, hins, h⟩
    obtain ⟨hfits, ⟨t', ht', rfl, rfl⟩ | ⟨hnone, -, -⟩⟩ := insertChunk_eq_ok.mp hins
    · cases h
      exact ⟨rfl, hfits, t', ht', rfl⟩
    · rw [ht] at hnone
      cases hnone
  · rintro ⟨rfl, hfits, t', ht', rfl⟩
    exact ⟨true, _, insertChunk_eq_ok.mpr ⟨hfits, .inl ⟨t', ht', rfl, rfl⟩⟩, rfl⟩

/-- What `save_watermark` requires of a new watermark. -/
structure AdmitsWatermark (l : Ledger D) (w : R1SourceWatermark) : Prop where
  texts : Storable (w.watermarkId.val :: w.partition.texts)
  notClosed : ∀ r ∈ l.runCloses, r.runId ≠ w.partition.runId
  new : ∀ r ∈ l.watermarks, r.partition = w.partition →
    r.watermarkId ≠ w.watermarkId ∧ r.watermarkSequence ≠ w.watermarkSequence
  advances : ∀ latest, l.latestWatermark w.partition = some latest →
    latest.watermarkSequence < w.watermarkSequence ∧ latest.watermarkAt ≤ w.watermarkAt ∧
      latest.allowedLatenessMs = w.allowedLatenessMs

omit [DecidableEq D] in
theorem assertAdvances_eq_ok {w : R1SourceWatermark} {latest : Option (WatermarkRow D)} :
    assertAdvances w (latest.map (·.accepted)) = .ok () ↔ ∀ r, latest = some r →
      r.watermarkSequence < w.watermarkSequence ∧ r.watermarkAt ≤ w.watermarkAt ∧
        r.allowedLatenessMs = w.allowedLatenessMs := by
  cases latest with
  | none => simp [assertAdvances]
  | some r =>
    simp only [Option.map_some, assertAdvances, raiseIf_bind_eq_ok, raiseIf_eq_ok]
    simp only [WatermarkRow.accepted, not_le, not_lt, not_not, Option.some.injEq, forall_eq']
    rw [eq_comm (a := w.allowedLatenessMs)]

/-- The ledger has the watermark's identity, sequence and digest. -/
def HasWatermark (l : Ledger D) (w : R1SourceWatermark) (sha : D) : Prop :=
  ∃ r ∈ l.watermarks, r.partition = w.partition ∧ r.watermarkId = w.watermarkId ∧
    r.watermarkSequence = w.watermarkSequence ∧ r.contentSha256 = sha

theorem inspectWatermark_eq_ok {w : R1SourceWatermark} {sha : D} {b : Bool} :
    l.inspectWatermark w sha = .ok b ↔
      (b = false ∧ l.HasWatermark w sha) ∨ (b = true ∧ l.AdmitsWatermark w) := by
  unfold inspectWatermark
  cases h : l.watermarkById w.partition w.watermarkId with
  | some r =>
    obtain ⟨hr, hp, hi⟩ := watermarkById_eq_some.mp h
    have hna : ¬ l.AdmitsWatermark w := fun ha => (ha.new r hr hp).1 hi
    have hw : l.HasWatermark w sha ↔
        r.watermarkSequence = w.watermarkSequence ∧ r.contentSha256 = sha := by
      refine ⟨fun ⟨r', hr', hp', hi', hs⟩ => ?_, fun hs => ⟨r, hr, hp, hi, hs⟩⟩
      rwa [Table.eq_of_conflict hr hr' ⟨hp.trans hp'.symm, .inl (hi.trans hi'.symm)⟩]
    simp only [hna, hw, and_false, or_false]
    split
    · next hs => simp [hs, eq_comm]
    · next hs => simp [hs]
  | none =>
    have hn := watermarkById_eq_none.mp h
    have hw : ¬ l.HasWatermark w sha := fun ⟨r, hr, hp, hi, _⟩ => hn r hr hp hi
    simp only [hw, and_false, false_or, checkTexts_bind_eq_ok, raiseIf_bind_eq_ok, protectRun_iff,
      watermarkBySequence_isSome]
    constructor
    · rintro ⟨htexts, hc, hs, h⟩
      obtain ⟨_, ha, hb⟩ := Except.bind_eq_ok.mp h
      refine ⟨(Except.ok.inj hb).symm, htexts, fun r hr he => hc ⟨r, hr, he⟩,
        fun r hr hp => ⟨hn r hr hp, fun he => hs ⟨r, hr, hp, he⟩⟩, assertAdvances_eq_ok.mp ha⟩
    · rintro ⟨rfl, ha⟩
      refine ⟨ha.texts, fun ⟨r, hr, he⟩ => ha.notClosed r hr he,
        fun ⟨r, hr, hp, he⟩ => (ha.new r hr hp).2 he, ?_⟩
      exact Except.bind_eq_ok.mpr ⟨(), assertAdvances_eq_ok.mpr ha.advances, rfl⟩

omit [DecidableEq D] in
theorem insertWatermark_eq_ok {w : R1SourceWatermark} {sha : D} {b : Bool} :
    (insertWatermark (watermarkRow w sha)).run l = .ok b l' ↔ FitsColumns w ∧
      ((∃ t, l.watermarks.insert? (watermarkRow w sha) = some t ∧ b = true ∧
          l' = { l with watermarks := t }) ∨
        (l.watermarks.insert? (watermarkRow w sha) = none ∧ b = false ∧ l' = l)) := by
  have hfits : ¬ (integerMax < (watermarkRow w sha).watermarkSequence ∨
      integerMax < (watermarkRow w sha).allowedLatenessMs ∨
      integerMax < (watermarkRow w sha).coveredThroughChunkSequence) ↔ FitsInteger w := by
    simp only [not_or, not_lt]
    rfl
  rw [insertWatermark, run_check_eq_ok, run_check_eq_ok, checkTexts_eq_ok, raiseIf_eq_ok, hfits,
    FitsColumns, and_assoc]
  refine and_congr_right fun _ => and_congr_right fun _ => ?_
  rw [insertRow_eq_ok, Option.map_eq_some_iff, Option.map_eq_none_iff]
  grind

theorem saveWatermark_eq_ok {w : R1SourceWatermark} {sha : D} {b : Bool}
    (h : (saveWatermark w sha).run l = .ok b l') :
    (b = false ∧ l' = l ∧ l.HasWatermark w sha) ∨ (b = true ∧ l.AdmitsWatermark w ∧
      ∃ t, l.watermarks.insert? (watermarkRow w sha) = some t ∧ l' = { l with watermarks := t }) := by
  rw [saveWatermark] at h
  obtain ⟨new, l₁, hq, h⟩ := run_bind_eq_ok.mp h
  obtain ⟨hq, rfl⟩ := run_reads_eq_ok.mp hq
  obtain ⟨rfl, hw⟩ | ⟨rfl, ha⟩ := inspectWatermark_eq_ok.mp hq
  · obtain ⟨rfl, rfl⟩ : false = b ∧ l₁ = l' := by simpa using h
    exact .inl ⟨rfl, rfl, hw⟩
  · have hn : ∀ r ∈ l₁.watermarks, ¬ r.Conflict (watermarkRow w sha) := fun r hr hc =>
      hc.2.elim (ha.new r hr hc.1).1 (ha.new r hr hc.1).2
    obtain ⟨t, ht⟩ := Table.exists_insert? hn
    simp only [if_true] at h
    obtain ⟨inserted, l₂, hi, h⟩ := run_bind_eq_ok.mp h
    obtain ⟨-, ⟨t', ht', rfl, rfl⟩ | ⟨hnone, -, -⟩⟩ := insertWatermark_eq_ok.mp hi
    · obtain ⟨rfl, rfl⟩ : true = b ∧ { l₁ with watermarks := t' } = l' := by simpa using h
      exact .inr ⟨rfl, ha, t', ht', rfl⟩
    · rw [ht] at hnone
      cases hnone

/-- What `assert_final_watermarks_match` requires of a run's final watermarks. -/
structure FinalsMatch (l : Ledger D) (runId : RunId) (finals : List R1FinalPartitionWatermark) :
    Prop where
  latest : ∀ f ∈ finals, ∃ r, l.latestWatermark f.partition = some r ∧ r.accepted = finalAccepted f
  count : (l.streamPartitionsForRun runId).length = finals.length

omit [DecidableEq D] in
theorem assertLatestWatermarks_eq_ok {finals : List R1FinalPartitionWatermark} :
    l.assertLatestWatermarks finals = .ok () ↔ ∀ f ∈ finals,
      ∃ r, l.latestWatermark f.partition = some r ∧ r.accepted = finalAccepted f := by
  induction finals with
  | nil => simp [assertLatestWatermarks]
  | cons f finals ih =>
    rw [assertLatestWatermarks, List.forall_mem_cons]
    cases l.latestWatermark f.partition with
    | none => simp [checkTexts_bind_eq_ok]
    | some r => simp [raiseIf_bind_eq_ok, ih]

omit [DecidableEq D] in
theorem assertFinalWatermarksMatch_eq_ok {r : R1RunClosed} :
    l.assertFinalWatermarksMatch r.finalWatermarks = .ok () ↔
      l.FinalsMatch r.runId r.finalWatermarks := by
  cases h : r.finalWatermarks with
  | nil => exact absurd h r.finalWatermarks_ne_nil
  | cons f rest =>
    have hscope := r.partitions_scope
    rw [h] at hscope
    have hf : f.partition.runId = r.runId := hscope f List.mem_cons_self
    have hone : ¬ ∃ w ∈ rest, w.partition.runId ≠ f.partition.runId := by
      rintro ⟨w, hw, hne⟩
      exact hne ((hscope w (List.mem_cons_of_mem _ hw)).trans hf.symm)
    simp only [assertFinalWatermarksMatch, raiseIf_bind_eq_ok, hone, not_false_eq_true, true_and]
    rw [Except.bind_eq_ok, hf]
    constructor
    · rintro ⟨_, hl, hc⟩
      exact ⟨assertLatestWatermarks_eq_ok.mp hl, not_not.mp (raiseIf_eq_ok.mp hc)⟩
    · rintro ⟨hl, hc⟩
      exact ⟨(), assertLatestWatermarks_eq_ok.mpr hl, raiseIf_of_not (not_not.mpr hc)⟩

omit [DecidableEq D] in
theorem insertClose_eq_ok {row : RunCloseRow D} {b : Bool} :
    (insertClose row).run l = .ok b l' ↔ Storable [row.closeId.val] ∧
      ((∃ t, l.runCloses.insert? row = some t ∧ b = true ∧ l' = { l with runCloses := t }) ∨
        (l.runCloses.insert? row = none ∧ b = false ∧ l' = l)) := by
  rw [insertClose, run_check_eq_ok, checkTexts_eq_ok]
  refine and_congr_right fun _ => ?_
  rw [insertRow_eq_ok, Option.map_eq_some_iff, Option.map_eq_none_iff]
  grind

theorem saveRunClose_eq_ok {row : RunCloseRow D} {b : Bool} :
    (saveRunClose row).run l = .ok b l' ↔ Storable [row.closeId.val] ∧
      ((b = false ∧ l' = l ∧ row ∈ l.runCloses) ∨
        (b = true ∧ ∃ t, l.runCloses.insert? row = some t ∧ l' = { l with runCloses := t })) := by
  rw [saveRunClose, run_bind_eq_ok]
  by_cases htext : Storable [row.closeId.val]
  swap
  · simp only [insertClose_eq_ok, htext, false_and, exists_false]
  simp only [insertClose_eq_ok, htext, true_and]
  cases hi : l.runCloses.insert? row with
  | some t =>
    have hrow : row ∉ l.runCloses := fun hr => (Table.insert?_eq_some.mp hi).1 row hr rfl
    simp only [hrow, and_false, false_or, reduceCtorEq, false_and, or_false, Option.some.injEq]
    constructor
    · rintro ⟨_, _, ⟨t', rfl, rfl, rfl⟩, ⟨⟩⟩
      exact ⟨rfl, t, rfl, rfl⟩
    · rintro ⟨rfl, t', rfl, rfl⟩
      exact ⟨true, _, ⟨t, rfl, rfl, rfl⟩, rfl⟩
  | none =>
    obtain ⟨a, ha, hrun⟩ := Table.insert?_eq_none.mp hi
    simp only [reduceCtorEq, false_and, exists_false, and_false, or_false, false_or, true_and]
    have hreplay : resolveRunCloseConflict (l.closeById row.runId row.closeId) row.contentSha256 =
        .ok b ↔ b = false ∧ row ∈ l.runCloses := by
      cases h : l.closeById row.runId row.closeId with
      | some r =>
        obtain ⟨hr, hri, hci⟩ := closeById_eq_some.mp h
        have hmem : row ∈ l.runCloses ↔ r.contentSha256 = row.contentSha256 := by
          constructor
          · intro hrow; rw [Table.eq_of_conflict hr hrow hri]
          · intro hs
            have : r = row := by cases r; cases row; simp_all
            rwa [← this]
        rw [hmem]
        by_cases hs : r.contentSha256 = row.contentSha256 <;>
          simp [resolveRunCloseConflict, hs, eq_comm]
      | none =>
        have : row ∉ l.runCloses := fun hr => by
          have := closeById_eq_some.mpr ⟨hr, rfl, rfl⟩
          rw [h] at this; cases this
        simp [resolveRunCloseConflict, this]
    constructor
    · rintro ⟨_, _, ⟨rfl, rfl⟩, h⟩
      obtain ⟨hq, rfl⟩ := run_reads_eq_ok.mp h
      obtain ⟨rfl, hrow⟩ := hreplay.mp hq
      exact ⟨rfl, rfl, hrow⟩
    · rintro ⟨rfl, rfl, hrow⟩
      exact ⟨false, l', ⟨rfl, rfl⟩, run_reads_eq_ok.mpr ⟨hreplay.mpr ⟨rfl, hrow⟩, rfl⟩⟩

/-! ## Errors

The ledger raises value errors, type errors and database errors, and never the
late-Event error of the ingress. -/

end Methods

/-- An error other than `LateStreamEventError`. -/
def NotLateError : PyError → Prop
  | .lateStreamEventError _ _ => False
  | _ => True

theorem runRaisesOnly_insertRow (insert : Ledger D → Option (Ledger D)) :
    RunRaisesOnly NotLateError (insertRow insert) := by
  intro l err l' h
  simp only [insertRow, EStateM.run] at h
  split at h <;> cases h

theorem raisesOnly_checkTexts (texts : List String) : RaisesOnly NotLateError (checkTexts texts) :=
  raisesOnly_raiseIf trivial

theorem raisesOnly_eventById (l : Ledger D) (p : R1StreamPartition) (i : String) :
    RaisesOnly NotLateError (l.eventById p i) := by
  unfold eventById
  split
  · exact raisesOnly_bind (raisesOnly_checkTexts _) fun _ => raisesOnly_ok _
  · split
    · exact raisesOnly_error trivial
    · exact raisesOnly_ok _

theorem raisesOnly_positionCloseFrontier (l : Ledger D) (p : R1StreamPartition) :
    RaisesOnly NotLateError (l.positionCloseFrontier p) := by
  unfold positionCloseFrontier
  split
  · exact raisesOnly_ok _
  · exact raisesOnly_bind (raisesOnly_raiseIf trivial) fun _ =>
      raisesOnly_bind (raisesOnly_raiseIf trivial) fun _ => raisesOnly_ok _

theorem raisesOnly_assertRecordIdsAfter (upper : Nat) (ids : List (String × Option String)) :
    RaisesOnly NotLateError (assertRecordIdsAfter upper ids) := by
  induction ids with
  | nil => exact raisesOnly_ok _
  | cons e ids ih =>
    exact raisesOnly_bind (raisesOnly_raiseIf trivial) fun _ =>
      raisesOnly_bind (raisesOnly_raiseIf trivial) fun _ => ih

theorem raisesOnly_assertPastFrontier (es : List (String × D)) (ids : List (String × Option String))
    (frontier : Option Nat) : RaisesOnly NotLateError (assertPastFrontier es ids frontier) := by
  cases frontier with
  | none => exact raisesOnly_ok _
  | some upper =>
    exact raisesOnly_bind (raisesOnly_raiseIf trivial) fun _ =>
      raisesOnly_assertRecordIdsAfter upper ids

variable [DecidableEq D]

theorem raisesOnly_newEventIds (l : Ledger D) (p : R1StreamPartition) (es : List (String × D)) :
    RaisesOnly NotLateError (l.newEventIds p es) := by
  induction es with
  | nil => exact raisesOnly_ok _
  | cons e es ih =>
    refine raisesOnly_bind (raisesOnly_eventById l p e.1) fun row => ?_
    cases row with
    | none => exact raisesOnly_bind ih fun _ => raisesOnly_ok _
    | some row => exact raisesOnly_bind (raisesOnly_raiseIf trivial) fun _ => ih

theorem raisesOnly_inspectChunkAdmission (l : Ledger D) (p : R1StreamPartition)
    (chunkId : Identifier) (sequence : Nat) (sha : D) (es : List (String × D))
    (ids : List (String × Option String)) :
    RaisesOnly NotLateError (l.inspectChunkAdmission p chunkId sequence sha es ids) := by
  unfold inspectChunkAdmission
  split
  · split
    · exact raisesOnly_ok _
    · exact raisesOnly_error trivial
  · exact raisesOnly_bind (raisesOnly_checkTexts _) fun _ =>
      raisesOnly_bind (raisesOnly_raiseIf trivial) fun _ =>
      raisesOnly_bind (raisesOnly_raiseIf trivial) fun _ =>
      raisesOnly_bind (raisesOnly_positionCloseFrontier l p) fun frontier =>
      raisesOnly_bind (raisesOnly_assertPastFrontier es ids frontier) fun _ =>
      raisesOnly_bind (raisesOnly_newEventIds l p es) fun _ => raisesOnly_ok _

theorem runRaisesOnly_insertEvents (p : R1StreamPartition) (es : List (String × D)) :
    RunRaisesOnly NotLateError (insertEvents p es) := by
  induction es with
  | nil => exact runRaisesOnly_pure _
  | cons e es ih =>
    refine runRaisesOnly_bind ?_ fun b => ?_
    · refine runRaisesOnly_bind (runRaisesOnly_reads fun _ => raisesOnly_checkTexts _) fun _ => ?_
      exact runRaisesOnly_bind (runRaisesOnly_reads fun _ => raisesOnly_raiseIf trivial) fun _ =>
        runRaisesOnly_insertRow _
    · cases b with
      | true => exact runRaisesOnly_bind ih fun _ => runRaisesOnly_pure _
      | false =>
        refine runRaisesOnly_bind (runRaisesOnly_reads fun l => ?_) fun _ => ih
        refine raisesOnly_bind (raisesOnly_eventById l p e.1) fun row => ?_
        cases row with
        | none => exact raisesOnly_error trivial
        | some row => exact raisesOnly_raiseIf trivial

theorem raisesOnly_assertClosedRunEventReplays (l : Ledger D) (p : R1StreamPartition)
    (es : List (String × D)) : RaisesOnly NotLateError (l.assertClosedRunEventReplays p es) := by
  induction es with
  | nil => exact raisesOnly_ok _
  | cons e es ih =>
    refine raisesOnly_bind (raisesOnly_eventById l p e.1) fun row => ?_
    cases row with
    | none => exact raisesOnly_error trivial
    | some row => exact raisesOnly_bind (raisesOnly_raiseIf trivial) fun _ => ih

theorem runRaisesOnly_saveEvents (p : R1StreamPartition) (es : List (String × D)) :
    RunRaisesOnly NotLateError (saveEvents p es) := by
  refine runRaisesOnly_bind (runRaisesOnly_reads fun _ => raisesOnly_ok _) fun closed => ?_
  cases closed with
  | true =>
    exact runRaisesOnly_bind
      (runRaisesOnly_reads fun l => raisesOnly_assertClosedRunEventReplays l p es)
      fun _ => runRaisesOnly_pure _
  | false => exact runRaisesOnly_insertEvents p es

theorem runRaisesOnly_saveChunk (row : ChunkRow D) : RunRaisesOnly NotLateError (saveChunk row) := by
  refine runRaisesOnly_bind (runRaisesOnly_reads fun _ => raisesOnly_ok _) fun closed => ?_
  cases closed with
  | true =>
    refine runRaisesOnly_reads fun l => ?_
    unfold resolveClosedChunkReplay
    split
    · split
      · exact raisesOnly_ok _
      · exact raisesOnly_error trivial
    · exact raisesOnly_bind (raisesOnly_checkTexts _) fun _ =>
        raisesOnly_bind (raisesOnly_raiseIf trivial) fun _ => raisesOnly_error trivial
  | false =>
    refine runRaisesOnly_bind ?_ fun b => ?_
    · refine runRaisesOnly_bind (runRaisesOnly_reads fun _ => raisesOnly_checkTexts _) fun _ => ?_
      exact runRaisesOnly_bind (runRaisesOnly_reads fun _ => raisesOnly_raiseIf trivial) fun _ =>
        runRaisesOnly_insertRow _
    · cases b with
      | true => exact runRaisesOnly_pure _
      | false =>
        refine runRaisesOnly_reads fun l => ?_
        unfold resolvePartitionConflict
        split
        · split
          · exact raisesOnly_ok _
          · exact raisesOnly_error trivial
        · exact raisesOnly_error trivial

end Ledger

end IncidentAwareness.Stream
