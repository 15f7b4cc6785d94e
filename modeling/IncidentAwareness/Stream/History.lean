import IncidentAwareness.Stream.IngressSpec

/-!
# What a ledger keeps

Facts about every run of deliveries, each from one step lemma about `Commits`:

* the ledger only grows (`after_grows`), so a recorded chunk, Event, watermark
  or close stays recorded;
* the watermarks of a partition are ordered: a greater sequence is never at an
  earlier time (`after_ordered`);
* the records of a closed Run are frozen (`after_frozen`).
-/

namespace IncidentAwareness.Stream

open IncidentAwareness.Common IncidentAwareness.Lib Ledger

variable {D S : Type} [DecidableEq D] {sha256 : CanonicalPayload → D} {sink : DeadLetterSink S}

/-! ## Growth -/

/-- Every table of `l'` extends the table of `l`. -/
structure Ledger.Grows (l l' : Ledger D) : Prop where
  chunks : l.chunks.rows <+: l'.chunks.rows
  events : l.events.rows <+: l'.events.rows
  watermarks : l.watermarks.rows <+: l'.watermarks.rows
  runCloses : l.runCloses.rows <+: l'.runCloses.rows
  positionCloses : l'.positionCloses = l.positionCloses

omit [DecidableEq D] in
theorem Ledger.Grows.refl (l : Ledger D) : l.Grows l :=
  ⟨List.prefix_rfl, List.prefix_rfl, List.prefix_rfl, List.prefix_rfl, rfl⟩

omit [DecidableEq D] in
theorem Ledger.Grows.trans {l l' l'' : Ledger D} (h : l.Grows l') (h' : l'.Grows l'') :
    l.Grows l'' :=
  ⟨h.chunks.trans h'.chunks, h.events.trans h'.events, h.watermarks.trans h'.watermarks,
    h.runCloses.trans h'.runCloses, h'.positionCloses.trans h.positionCloses⟩

omit [DecidableEq D] in
/-- A commit extends the tables. -/
theorem Commits.grows {l l' : Ledger D} {d : Delivery D} {r : R1StreamDeliveryResult}
    (h : Commits sha256 l d r l') : l.Grows l' := by
  cases h with
  | chunkReplay => exact .refl l
  | watermarkReplay => exact .refl l
  | runCloseReplay => exact .refl l
  | chunk _ hr =>
    exact ⟨⟨_, hr.chunks.symm⟩, ⟨_, hr.events.symm⟩, hr.watermarks ▸ List.prefix_rfl,
      hr.runCloses ▸ List.prefix_rfl, hr.positionCloses⟩
  | watermark _ ht =>
    exact ⟨List.prefix_rfl, List.prefix_rfl, ⟨_, (Table.insert?_eq_some.mp ht).2.symm⟩,
      List.prefix_rfl, rfl⟩
  | runClosed _ _ ht =>
    exact ⟨List.prefix_rfl, List.prefix_rfl, List.prefix_rfl,
      ⟨_, (Table.insert?_eq_some.mp ht).2.symm⟩, rfl⟩

/-- Deliveries extend the tables. -/
theorem after_grows (s : IngressState D S) (ds : List (Delivery D)) :
    s.ledger.Grows (after (deliver sha256 sink) s ds).ledger :=
  after_preserves (P := s.ledger.Grows) (fun _ _ _ _ h hc => h.trans hc.grows) (.refl _) ds

namespace Ledger.Grows

variable {l l' : Ledger D} (h : l.Grows l')
include h

omit [DecidableEq D]

theorem hasChunk {p : R1StreamPartition} {k : Nat} (hk : l.HasChunk p k) : l'.HasChunk p k :=
  let ⟨r, hr, hp, hs⟩ := hk
  ⟨r, h.chunks.subset hr, hp, hs⟩

theorem hasWatermark {w : R1SourceWatermark} {sha : D} (hw : l.HasWatermark w sha) :
    l'.HasWatermark w sha :=
  let ⟨r, hr, hp⟩ := hw
  ⟨r, h.watermarks.subset hr, hp⟩

end Ledger.Grows

/-! ## Watermark order -/

/-- Watermarks of one partition with a greater sequence are at no earlier time. -/
def Ledger.Ordered (l : Ledger D) : Prop :=
  ∀ a ∈ l.watermarks, ∀ b ∈ l.watermarks, a.partition = b.partition →
    a.watermarkSequence ≤ b.watermarkSequence → a.watermarkAt ≤ b.watermarkAt

omit [DecidableEq D] in
/-- The latest watermark of a partition that has one. -/
theorem Ledger.exists_latestWatermark {l : Ledger D} {w : WatermarkRow D} (hw : w ∈ l.watermarks) :
    ∃ latest, l.latestWatermark w.partition = some latest := by
  cases h : l.latestWatermark w.partition with
  | some latest => exact ⟨latest, rfl⟩
  | none => exact absurd rfl (latestWatermark_eq_none.mp h w hw)

omit [DecidableEq D] in
/-- The latest watermark of an ordered ledger is at the latest time. -/
theorem Ledger.Ordered.le_latest {l : Ledger D} (h : l.Ordered) {p : R1StreamPartition}
    {w latest : WatermarkRow D} (hl : l.latestWatermark p = some latest) (hw : w ∈ l.watermarks)
    (hp : w.partition = p) : w.watermarkAt ≤ latest.watermarkAt := by
  obtain ⟨⟨hmem, hlp⟩, hmax⟩ := latestWatermark_eq_some.mp hl
  exact h w hw latest hmem (hp.trans hlp.symm) (hmax w hw hp)

omit [DecidableEq D] in
theorem Commits.ordered {l l' : Ledger D} {d : Delivery D} {r : R1StreamDeliveryResult}
    (hl : l.Ordered) (h : Commits sha256 l d r l') : l'.Ordered := by
  cases h with
  | chunkReplay => exact hl
  | watermarkReplay => exact hl
  | runCloseReplay => exact hl
  | chunk _ hr => unfold Ledger.Ordered; rw [hr.watermarks]; exact hl
  | runClosed => exact hl
  | @watermark w t ha ht =>
    -- A new watermark has the greatest sequence, and is no earlier than the latest.
    have key : ∀ a ∈ l.watermarks, a.partition = w.partition →
        a.watermarkSequence < w.watermarkSequence ∧ a.watermarkAt ≤ w.watermarkAt := by
      intro a hmem hp
      obtain ⟨latest, hlatest⟩ := exists_latestWatermark hmem
      rw [hp] at hlatest
      obtain ⟨hs, hat, -⟩ := ha.advances latest hlatest
      obtain ⟨-, hmax⟩ := latestWatermark_eq_some.mp hlatest
      exact ⟨lt_of_le_of_lt (hmax a hmem hp) hs, (hl.le_latest hlatest hmem hp).trans hat⟩
    intro a hmem b hmem' hp hs
    rcases (Table.mem_of_insert? ht).mp hmem with hma | rfl
    · rcases (Table.mem_of_insert? ht).mp hmem' with hmb | rfl
      · exact hl a hma b hmb hp hs
      · exact (key a hma hp).2
    · rcases (Table.mem_of_insert? ht).mp hmem' with hmb | rfl
      · exact absurd hs (not_le.mpr (key b hmb hp.symm).1)
      · exact le_rfl

theorem after_ordered (sink₀ : S) (ds : List (Delivery D)) :
    (stateAfter sha256 sink sink₀ ds).ledger.Ordered :=
  after_preserves (fun _ _ _ _ h hc => hc.ordered h) (fun _ ha => absurd ha (Table.not_mem_empty _)) ds

/-! ## Closed Runs -/

/-- The chunk, Event, watermark and close records of a Run. -/
structure RunRecords (D : Type) where
  chunks : List (ChunkRow D)
  events : List (EventRow D)
  watermarks : List (WatermarkRow D)
  runCloses : List (RunCloseRow D)

/-- The records of a Run in the ledger. -/
def Ledger.runRecords (l : Ledger D) (runId : RunId) : RunRecords D where
  chunks := l.chunks.rows.filter (·.partition.runId = runId)
  events := l.events.rows.filter (·.partition.runId = runId)
  watermarks := l.watermarks.rows.filter (·.partition.runId = runId)
  runCloses := l.runCloses.rows.filter (·.runId = runId)

/-- The Run has an accepted close. -/
def Ledger.Closed (l : Ledger D) (runId : RunId) : Prop := ∃ r ∈ l.runCloses, r.runId = runId

omit [DecidableEq D] in
theorem Ledger.Grows.closed {l l' : Ledger D} (h : l.Grows l') {runId : RunId}
    (hc : l.Closed runId) : l'.Closed runId :=
  let ⟨r, hr, hrun⟩ := hc
  ⟨r, h.runCloses.subset hr, hrun⟩

omit [DecidableEq D] in
/-- No commit changes the records of a closed Run. -/
theorem Commits.frozen {l l' : Ledger D} {d : Delivery D} {r : R1StreamDeliveryResult}
    {runId : RunId} (hc : l.Closed runId) (h : Commits sha256 l d r l') :
    l'.runRecords runId = l.runRecords runId := by
  obtain ⟨close, hclose, hrun⟩ := hc
  cases h with
  | chunkReplay => rfl
  | watermarkReplay => rfl
  | runCloseReplay => rfl
  | @chunk c now _ ha hr =>
    have hne : c.partition.runId ≠ runId := fun he => ha.notClosed close hclose (hrun.trans he.symm)
    have hevents : ((l.newEvents c).map (eventRow sha256 c.partition)).filter
        (·.partition.runId = runId) = [] := by
      simp [List.filter_eq_nil_iff, eventRow, hne]
    simp only [runRecords, hr.chunks, hr.events, hr.watermarks, hr.runCloses, List.filter_append,
      hevents, List.append_nil]
    simp [chunkRow, hne]
  | @watermark w t ha ht =>
    have hne : w.partition.runId ≠ runId := fun he => ha.notClosed close hclose (hrun.trans he.symm)
    simp only [runRecords, (Table.insert?_eq_some.mp ht).2, List.filter_append]
    simp [watermarkRow, hne]
  | @runClosed r t _ _ ht =>
    have hne : r.runId ≠ runId := fun he =>
      (Table.insert?_eq_some.mp ht).1 close hclose (hrun.trans he.symm)
    simp only [runRecords, (Table.insert?_eq_some.mp ht).2, List.filter_append]
    simp [runCloseRow, hne]

variable (sha256 sink) in
/-- The records of a closed Run are the same after any deliveries. -/
theorem after_frozen {s : IngressState D S} {runId : RunId} (hc : s.ledger.Closed runId)
    (ds : List (Delivery D)) :
    (after (deliver sha256 sink) s ds).ledger.runRecords runId = s.ledger.runRecords runId := by
  have h : (after (deliver sha256 sink) s ds).ledger.Closed runId ∧
      (after (deliver sha256 sink) s ds).ledger.runRecords runId = s.ledger.runRecords runId :=
    after_preserves (P := fun l => l.Closed runId ∧ l.runRecords runId = s.ledger.runRecords runId)
      (fun _ _ _ _ h hc => ⟨hc.grows.closed h.1, (hc.frozen h.1).trans h.2⟩) ⟨hc, rfl⟩ ds
  exact h.2

omit [DecidableEq D] in
/-- Frozen records have the same chunks. -/
theorem Ledger.hasChunk_of_runRecords {l l' : Ledger D} {p : R1StreamPartition}
    (h : l'.runRecords p.runId = l.runRecords p.runId) (k : Nat) :
    l'.HasChunk p k ↔ l.HasChunk p k := by
  have key : ∀ {l : Ledger D}, l.HasChunk p k ↔
      ∃ r ∈ (l.runRecords p.runId).chunks, r.partition = p ∧ r.chunkSequence = k := by
    intro l
    simp only [HasChunk, runRecords, List.mem_filter, decide_eq_true_eq, Table.mem_def]
    constructor
    · rintro ⟨r, hr, rfl, hk⟩; exact ⟨r, ⟨hr, rfl⟩, rfl, hk⟩
    · rintro ⟨r, ⟨hr, -⟩, hp, hk⟩; exact ⟨r, hr, hp, hk⟩
  rw [key, key, h]

omit [DecidableEq D] in
/-- Frozen records have the same latest watermarks. -/
theorem Ledger.latestWatermark_of_runRecords {l l' : Ledger D} {p : R1StreamPartition}
    (h : l'.runRecords p.runId = l.runRecords p.runId) :
    l'.latestWatermark p = l.latestWatermark p := by
  have key : ∀ {l : Ledger D}, (l.watermarks.rows.filter fun r => r.partition = p) =
      (l.runRecords p.runId).watermarks.filter fun r => r.partition = p := by
    intro l
    simp only [runRecords, List.filter_filter]
    refine List.filter_congr fun r _ => ?_
    by_cases hp : r.partition = p <;> simp [hp]
  simp only [latestWatermark, key, h]

omit [DecidableEq D] in
/-- Frozen records have the same partitions. -/
theorem Ledger.streamPartitionsForRun_of_runRecords {l l' : Ledger D} {runId : RunId}
    (h : l'.runRecords runId = l.runRecords runId) :
    l'.streamPartitionsForRun runId = l.streamPartitionsForRun runId := by
  have hc := congrArg RunRecords.chunks h
  have hw := congrArg RunRecords.watermarks h
  simp only [runRecords] at hc hw
  simp only [streamPartitionsForRun, hc, hw]

end IncidentAwareness.Stream
