import IncidentAwareness.Stream.Frontier

/-!
# Run closes

A close is accepted when each of its final watermarks is the latest of its
partition and there are as many as the Run has partitions; since they name
distinct partitions, they name all of them (`FinalsMatch.partition_iff`). From
then on no delivery changes the Run's records (`runClose_sound`).

What a close is not checked against is the chunks: the ledger takes a close
while covered chunks are missing, and refuses them afterwards
(`runCloseLaw_fails`). The recorded chunks are those the final watermarks cover
exactly when they were so at each close that was accepted (`runCloseLaw_iff`).
-/

namespace IncidentAwareness.Stream

open IncidentAwareness.Common IncidentAwareness.Lib Ledger

variable {D S : Type}

/-! ## Soundness -/

/-- The ledger has a chunk or a watermark of the partition. -/
def Ledger.Knows (l : Ledger D) (p : R1StreamPartition) : Prop :=
  (∃ r ∈ l.chunks, r.partition = p) ∨ ∃ w ∈ l.watermarks, w.partition = p

theorem Ledger.mem_streamPartitionsForRun {l : Ledger D} {runId : RunId} {p : R1StreamPartition} :
    p ∈ l.streamPartitionsForRun runId ↔ p.runId = runId ∧ l.Knows p := by
  simp only [streamPartitionsForRun, List.mem_dedup, List.mem_append, List.mem_map, List.mem_filter,
    decide_eq_true_eq, Knows, Table.mem_def]
  constructor
  · rintro (⟨r, ⟨hr, hrun⟩, rfl⟩ | ⟨w, ⟨hw, hrun⟩, rfl⟩)
    · exact ⟨hrun, .inl ⟨r, hr, rfl⟩⟩
    · exact ⟨hrun, .inr ⟨w, hw, rfl⟩⟩
  · rintro ⟨hrun, ⟨r, hr, rfl⟩ | ⟨w, hw, rfl⟩⟩
    · exact .inl ⟨r, ⟨hr, hrun⟩, rfl⟩
    · exact .inr ⟨w, ⟨hw, hrun⟩, rfl⟩

/-- Final watermarks that match name exactly the partitions of the Run: they are
distinct, each is one of the Run's, and there are as many. -/
theorem Ledger.FinalsMatch.partition_iff {l : Ledger D} {r : R1RunClosed}
    (h : l.FinalsMatch r.runId r.finalWatermarks) (p : R1StreamPartition) :
    (∃ f ∈ r.finalWatermarks, f.partition = p) ↔ p.runId = r.runId ∧ l.Knows p := by
  have hsub : (r.finalWatermarks.map (·.partition)).toFinset ⊆
      (l.streamPartitionsForRun r.runId).toFinset := by
    intro q hq
    obtain ⟨f, hf, rfl⟩ := List.mem_map.mp (List.mem_toFinset.mp hq)
    obtain ⟨w, hw, -⟩ := h.latest f hf
    obtain ⟨⟨hmem, hp⟩, -⟩ := latestWatermark_eq_some.mp hw
    exact List.mem_toFinset.mpr (mem_streamPartitionsForRun.mpr
      ⟨r.partitions_scope f hf, .inr ⟨w, hmem, hp⟩⟩)
  have hcard : (l.streamPartitionsForRun r.runId).toFinset.card ≤
      (r.finalWatermarks.map (·.partition)).toFinset.card := by
    rw [List.toFinset_card_of_nodup r.partitions_nodup, List.length_map, ← h.count]
    exact List.toFinset_card_le _
  have heq := Finset.eq_of_subset_of_card_le hsub hcard
  rw [← mem_streamPartitionsForRun, ← List.mem_toFinset, ← heq, List.mem_toFinset, List.mem_map]

variable [DecidableEq D] {sha256 : CanonicalPayload → D} {sink : DeadLetterSink S}

/-- A recorded close was accepted. -/
theorem exists_acceptedIn_of_mem_runCloses {sink₀ : S} {ds : List (Delivery D)} {row : RunCloseRow D}
    (h : row ∈ (stateAfter sha256 sink sink₀ ds).ledger.runCloses) :
    ∃ r, row = runCloseRow sha256 r ∧ AcceptedIn sha256 sink sink₀ ds (.runClosed r) := by
  induction ds using List.reverseRecOn with
  | nil => exact absurd h (Table.not_mem_empty _)
  | append_singleton ds d ih =>
    rw [stateAfter, after, run_snoc] at h
    by_cases hold : row ∈ (stateAfter sha256 sink sink₀ ds).ledger.runCloses
    · obtain ⟨r, hrow, hacc⟩ := ih hold
      exact ⟨r, hrow, hacc.append [d]⟩
    · rcases deliver_cases sha256 sink (stateAfter sha256 sink sink₀ ds) d with
        ⟨e, -, hl⟩ | ⟨a, ha, hc⟩
      · rw [hl] at h; exact absurd h hold
      · generalize (deliver sha256 sink (stateAfter sha256 sink sink₀ ds) d).1.ledger = l' at h hc
        cases hc with
        | chunkReplay => exact absurd h hold
        | chunk _ hr => rw [hr.runCloses] at h; exact absurd h hold
        | watermarkReplay => exact absurd h hold
        | watermark => exact absurd h hold
        | runCloseReplay => exact absurd h hold
        | @runClosed r t _ _ ht =>
          exact ⟨r, ((Table.mem_of_insert? ht).mp h).resolve_left hold, ds, [], _, rfl, ha⟩

variable (sha256 sink) in
/-- In every state with an accepted close, the final watermarks name the
partitions of the Run, each is the latest watermark of its partition, and no
later delivery changes the Run's records. -/
theorem runClose_sound (sink₀ : S) (ds : List (Delivery D)) :
    ∀ row ∈ (stateAfter sha256 sink sink₀ ds).ledger.runCloses, ∃ r : R1RunClosed,
      row = runCloseRow sha256 r ∧ AcceptedIn sha256 sink sink₀ ds (.runClosed r) ∧
      (∀ p, (∃ f ∈ r.finalWatermarks, f.partition = p) ↔
        p.runId = row.runId ∧ (stateAfter sha256 sink sink₀ ds).ledger.Knows p) ∧
      (∀ f ∈ r.finalWatermarks, ∃ w,
        (stateAfter sha256 sink sink₀ ds).ledger.latestWatermark f.partition = some w ∧
          w.accepted = finalAccepted f) ∧
      ∀ ds', (stateAfter sha256 sink sink₀ (ds ++ ds')).ledger.runRecords row.runId =
        (stateAfter sha256 sink sink₀ ds).ledger.runRecords row.runId := by
  intro row hrow
  obtain ⟨r, rfl, hacc⟩ := exists_acceptedIn_of_mem_runCloses hrow
  obtain ⟨⟨hf, -⟩, hmem⟩ := hacc.recorded
  refine ⟨r, rfl, hacc, hf.partition_iff, hf.latest, fun ds' => ?_⟩
  rw [stateAfter, after_append]
  exact after_frozen sha256 sink ⟨_, hmem, rfl⟩ ds'

namespace Sample

theorem acceptedIn_close :
    AcceptedIn id discard () [.chunk chunk₁ now, .watermark watermark₁₂, .runClosed close]
      (.runClosed close) :=
  ⟨[.chunk chunk₁ now, .watermark watermark₁₂], [], [], rfl, by rfl⟩

end Sample

open Sample in
theorem runClose_sound_close : ∃ r, runCloseRow id close = runCloseRow id r ∧
    ∀ ds', (stateAfter id discard ()
      ([.chunk chunk₁ now, .watermark watermark₁₂, .runClosed close] ++ ds')).ledger.runRecords
        runId = (stateAfter id discard ()
      [.chunk chunk₁ now, .watermark watermark₁₂, .runClosed close]).ledger.runRecords runId :=
  let ⟨r, hrow, _, _, _, hfrozen⟩ := runClose_sound id discard ()
    [.chunk chunk₁ now, .watermark watermark₁₂, .runClosed close] (runCloseRow id close)
    acceptedIn_close.recorded.2
  ⟨r, hrow, hfrozen⟩

/-! ## Coverage -/

/-- The chunks of each final watermark's partition are exactly those it covers. -/
def CoversExactly (l : Ledger D) (r : R1RunClosed) : Prop :=
  ∀ f ∈ r.finalWatermarks, ∀ k,
    l.HasChunk f.partition k ↔ 1 ≤ k ∧ k ≤ f.coveredThroughChunkSequence

variable (sha256 sink) in
/-- Every accepted close is covered exactly, and deliveries can still bring every
chunk that it covers. -/
def RunCloseLaw (sink₀ : S) (ds : List (Delivery D)) : Prop :=
  ∀ r, AcceptedIn sha256 sink sink₀ ds (.runClosed r) →
    CoversExactly (stateAfter sha256 sink sink₀ ds).ledger r ∧
    ∃ ds', ∀ f ∈ r.finalWatermarks, ∀ k, 1 ≤ k → k ≤ f.coveredThroughChunkSequence →
      (stateAfter sha256 sink sink₀ (ds ++ ds')).ledger.HasChunk f.partition k

omit [DecidableEq D] in
/-- A close that matches the final watermarks of an open Run, with an id that a
TEXT column holds, arrives when the chunks are those it covers. -/
def ClosesCovered (s : IngressState D S) : Delivery D → Prop
  | .runClosed r => s.ledger.FinalsMatch r.runId r.finalWatermarks → Storable [r.closeId.val] →
      (∀ row ∈ s.ledger.runCloses, row.runId ≠ r.runId) → CoversExactly s.ledger r
  | _ => True

/-- An accepted close matched its final watermarks, its Run was open, and its
chunks did not change. -/
theorem deliver_runClosed {s : IngressState D S} {r : R1RunClosed} {ids : List String}
    (h : (deliver sha256 sink s (.runClosed r)).2 = .ok ⟨.accepted, ids⟩) :
    (s.ledger.FinalsMatch r.runId r.finalWatermarks ∧ Storable [r.closeId.val] ∧
      ∀ row ∈ s.ledger.runCloses, row.runId ≠ r.runId) ∧
    (deliver sha256 sink s (.runClosed r)).1.ledger.Closed r.runId ∧
    (deliver sha256 sink s (.runClosed r)).1.ledger.chunks = s.ledger.chunks := by
  rcases deliver_cases sha256 sink s (.runClosed r) with
    ⟨e, he, -⟩ | ⟨a, ha, hc⟩
  · rw [h] at he; cases he
  · rw [h] at ha
    obtain rfl := Except.ok.inj ha
    generalize (deliver sha256 sink s (.runClosed r)).1.ledger = l' at hc
    cases hc with
    | runClosed hf text ht =>
      exact ⟨⟨hf, text, fun row hrow => (Table.insert?_eq_some.mp ht).1 row hrow⟩,
        ⟨_, (Table.mem_of_insert? ht).mpr (.inr rfl), rfl⟩, rfl⟩

omit [DecidableEq D] in
theorem CoversExactly.congr {l l' : Ledger D} {r : R1RunClosed}
    (h : ∀ f ∈ r.finalWatermarks, ∀ k, l'.HasChunk f.partition k ↔ l.HasChunk f.partition k) :
    CoversExactly l' r ↔ CoversExactly l r := by
  constructor
  · exact fun hc f hf k => (h f hf k).symm.trans (hc f hf k)
  · exact fun hc f hf k => (h f hf k).trans (hc f hf k)

/-- After a close is accepted its chunks are what they were just before. -/
theorem coversExactly_after {sink₀ : S} {before : List (Delivery D)} {r : R1RunClosed}
    {ids : List String}
    (hok : (deliver sha256 sink (stateAfter sha256 sink sink₀ before) (.runClosed r)).2 =
      .ok ⟨.accepted, ids⟩) (after' : List (Delivery D)) :
    CoversExactly (stateAfter sha256 sink sink₀ (before ++ .runClosed r :: after')).ledger r ↔
      CoversExactly (stateAfter sha256 sink sink₀ before).ledger r := by
  obtain ⟨-, hclosed, hchunks⟩ := deliver_runClosed hok
  refine CoversExactly.congr fun f hf k => ?_
  have hfrozen := after_frozen sha256 sink hclosed after'
  rw [← r.partitions_scope f hf] at hfrozen
  rw [stateAfter, after_append, after, run_cons, hasChunk_of_runRecords hfrozen k]
  simp only [HasChunk, hchunks]

/-- The law holds in every state of a run exactly when every close that the run
accepts arrives covered. -/
theorem runCloseLaw_iff (sink₀ : S) (ds : List (Delivery D)) :
    (∀ before after', ds = before ++ after' → RunCloseLaw sha256 sink sink₀ before) ↔
      Meets (deliver sha256 sink) ClosesCovered ⟨.empty, sink₀⟩ ds := by
  constructor
  · intro law before d after' hsplit
    cases d with
    | chunk => trivial
    | watermark => trivial
    | runClosed r =>
      intro hf text hopen
      obtain ⟨s', hok⟩ := acceptRunClosed_of_finalsMatch sha256 hf text hopen
      have hdel : (deliver sha256 sink (stateAfter sha256 sink sink₀ before) (.runClosed r)).2 =
          .ok ⟨.accepted, []⟩ := by
        simp only [deliver, accept, hok]
      have hacc : AcceptedIn sha256 sink sink₀ (before ++ [.runClosed r]) (.runClosed r) :=
        ⟨before, [], [], rfl, hdel⟩
      exact (coversExactly_after hdel []).mp
        (law (before ++ [.runClosed r]) after' (by simp [hsplit]) r hacc).1
  · rintro hmeets before after' rfl r ⟨pre, post, ids, rfl, hok⟩
    have hcond := hmeets pre (.runClosed r) (post ++ after') (by simp)
    obtain ⟨⟨hf, text, hopen⟩, -, -⟩ := deliver_runClosed hok
    have hcovers := (coversExactly_after hok post).mpr (hcond hf text hopen)
    refine ⟨hcovers, [], fun f hmem k h1 hk => ?_⟩
    rw [List.append_nil]
    exact (hcovers f hmem k).mpr ⟨h1, hk⟩

namespace Sample

/-- The chunks that the close covers come before it. -/
def coveredDeliveries : List (Delivery CanonicalPayload) :=
  [.chunk chunk₁ now, .chunk chunk₂ now, .watermark watermark₁₂]

theorem coversExactly_close :
    CoversExactly (stateAfter id discard () coveredDeliveries).ledger close := by
  have hrows : (stateAfter id discard () coveredDeliveries).ledger.chunks.rows =
      [chunkRow id chunk₁, chunkRow id chunk₂] := rfl
  intro f hf k
  obtain rfl := List.mem_singleton.mp hf
  constructor
  · rintro ⟨r, hr, -, rfl⟩
    rw [Table.mem_def, hrows, List.mem_cons, List.mem_singleton] at hr
    rcases hr with rfl | rfl <;> decide
  · rintro ⟨hpos, hle⟩
    have hk : k = 1 ∨ k = 2 := by
      have hcovered : k ≤ 2 := hle
      omega
    rcases hk with rfl | rfl
    · exact ⟨chunkRow id chunk₁, by rw [Table.mem_def, hrows]; exact List.mem_cons_self, rfl, rfl⟩
    · exact ⟨chunkRow id chunk₂, by rw [Table.mem_def, hrows]; simp, rfl, rfl⟩

end Sample

open Sample in
theorem runCloseLaw_iff_covered :
    RunCloseLaw id discard () (coveredDeliveries ++ [.runClosed close]) :=
  (runCloseLaw_iff () (coveredDeliveries ++ [.runClosed close])).mpr
    (meets_cons trivial (meets_cons trivial (meets_cons trivial
      (meets_cons (fun _ _ _ => coversExactly_close) meets_nil)))) _ [] (List.append_nil _).symm

open Sample in
/-- A close is accepted while a covered chunk is missing, and then no delivery
brings it. -/
theorem runCloseLaw_fails :
    ¬ (∀ ds, ∀ r, AcceptedIn id discard () ds (.runClosed r) →
        CoversExactly (stateAfter id discard () ds).ledger r) ∧
    ¬ (∀ ds, ∀ r, AcceptedIn id discard () ds (.runClosed r) →
        ∃ ds', ∀ f ∈ r.finalWatermarks, ∀ k, 1 ≤ k → k ≤ f.coveredThroughChunkSequence →
          (stateAfter id discard () (ds ++ ds')).ledger.HasChunk f.partition k) := by
  have hmissing : ¬ (stateAfter id discard ()
      [.chunk chunk₁ now, .watermark watermark₁₂, .runClosed close]).ledger.HasChunk partition 2 := by
    rintro ⟨r, hr, -, hk⟩
    have hrows : (stateAfter id discard ()
        [.chunk chunk₁ now, .watermark watermark₁₂, .runClosed close]).ledger.chunks.rows =
        [chunkRow id chunk₁] := rfl
    rw [Table.mem_def, hrows, List.mem_singleton] at hr
    subst hr
    exact absurd hk (by decide)
  refine ⟨fun h => ?_, fun h => ?_⟩
  · exact hmissing ((h _ _ acceptedIn_close _ List.mem_cons_self 2).mpr (by decide))
  · obtain ⟨ds', hcov⟩ := h _ _ acceptedIn_close
    have hchunk := hcov _ List.mem_cons_self 2 (by decide) (by decide)
    rw [stateAfter, after_append] at hchunk
    exact hmissing ((hasChunk_of_runRecords
      (after_frozen id discard ⟨_, acceptedIn_close.recorded.2, rfl⟩ ds') 2).mp hchunk)

end IncidentAwareness.Stream
