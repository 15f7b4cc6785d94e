import IncidentAwareness.Stream.History

/-!
# Exactly-once admission

An accepted message is recorded, and stays recorded (`Recorded`): its exact
redelivery is a duplicate in every later state, and another message under its
identity or sequence is refused. The Event ids that accepted chunks of a
partition forward are, in order, the ids of the partition's event ledger
(`forwarded_eq`), so each is forwarded once.
-/

namespace IncidentAwareness.Stream

open IncidentAwareness.Common IncidentAwareness.Lib Ledger

variable {D S : Type}

/-- Deliveries of one message. -/
def Delivery.SameMessage : Delivery D → Delivery D → Prop
  | .chunk c _, .chunk c' _ => c = c'
  | .watermark w, .watermark w' => w = w'
  | .runClosed r, .runClosed r' => r = r'
  | _, _ => False

/-- The second delivery brings another message under the identity or the
sequence of the first. -/
def Delivery.Reuses : Delivery D → Delivery D → Prop
  | .chunk c _, .chunk c' _ => c.partition = c'.partition ∧
      (c.chunkId = c'.chunkId ∨ c.chunkSequence = c'.chunkSequence) ∧ c ≠ c'
  | .watermark w, .watermark w' => w.partition = w'.partition ∧
      (w.watermarkId = w'.watermarkId ∨ w.watermarkSequence = w'.watermarkSequence) ∧ w ≠ w'
  | _, _ => False

variable [DecidableEq D] (sha256 : CanonicalPayload → D) (sink : DeadLetterSink S)

/-- The run of deliveries accepted `d` at some point. -/
def AcceptedIn (sink₀ : S) (ds : List (Delivery D)) (d : Delivery D) : Prop :=
  ∃ pre post ids, ds = pre ++ d :: post ∧
    (deliver sha256 sink (stateAfter sha256 sink sink₀ pre) d).2 = .ok ⟨.accepted, ids⟩

/-- The ledger has the message of a delivery. -/
def Recorded (l : Ledger D) : Delivery D → Prop
  | .chunk c _ => chunkSha256 sha256 c = c.chunkContentSha256 ∧ chunkRow sha256 c ∈ l.chunks
  | .watermark w => watermarkRow w (sha256 (.watermark w)) ∈ l.watermarks
  | .runClosed r => (l.FinalsMatch r.runId r.finalWatermarks ∧ Storable [r.closeId.val]) ∧
      runCloseRow sha256 r ∈ l.runCloses

/-- The Event ids that a delivery to a partition newly accepted. -/
def newEventIdsOf (p : R1StreamPartition) :
    Delivery D × Except PyError R1StreamDeliveryResult → List String
  | (.chunk c _, .ok ⟨.accepted, ids⟩) => if c.partition = p then ids else []
  | _ => []

/-- The Event ids that the accepted chunks of a partition forwarded, in order. -/
def forwardedEventIds (p : R1StreamPartition)
    (t : List (Delivery D × Except PyError R1StreamDeliveryResult)) : List String :=
  t.flatMap (newEventIdsOf p)

variable {sha256 sink}

/-! ## Recorded messages -/

omit [DecidableEq D] in
/-- The close of a closed Run keeps matching its final watermarks. -/
theorem Ledger.FinalsMatch.of_frozen {l l' : Ledger D} {r : R1RunClosed}
    (h : l'.runRecords r.runId = l.runRecords r.runId)
    (hf : l.FinalsMatch r.runId r.finalWatermarks) : l'.FinalsMatch r.runId r.finalWatermarks := by
  refine ⟨fun f hmem => ?_, by rw [streamPartitionsForRun_of_runRecords h]; exact hf.count⟩
  have hp : l'.runRecords f.partition.runId = l.runRecords f.partition.runId := by
    rw [r.partitions_scope f hmem]; exact h
  rw [latestWatermark_of_runRecords hp]
  exact hf.latest f hmem

omit [DecidableEq D] in
/-- A recorded message stays recorded. -/
theorem Commits.recorded {l l' : Ledger D} {d d' : Delivery D} {r : R1StreamDeliveryResult}
    (hd : Recorded sha256 l d) (h : Commits sha256 l d' r l') : Recorded sha256 l' d := by
  cases d with
  | chunk c now => exact ⟨hd.1, h.grows.chunks.subset hd.2⟩
  | watermark w => exact h.grows.watermarks.subset hd
  | runClosed c =>
    have hc : l.Closed c.runId := ⟨_, hd.2, rfl⟩
    exact ⟨⟨hd.1.1.of_frozen (h.frozen hc), hd.1.2⟩, h.grows.runCloses.subset hd.2⟩

omit [DecidableEq D] in
/-- An accepted message is recorded. -/
theorem Commits.recorded_self {l l' : Ledger D} {d : Delivery D} {ids : List String}
    (h : Commits sha256 l d ⟨.accepted, ids⟩ l') : Recorded sha256 l' d := by
  cases h with
  | chunk ha hr => exact ⟨ha.digest, by rw [Table.mem_def, hr.chunks]; simp⟩
  | watermark _ ht => exact (Table.mem_of_insert? ht).mpr (.inr rfl)
  | runClosed hf text ht =>
    exact ⟨⟨⟨hf.latest, hf.count⟩, text⟩, (Table.mem_of_insert? ht).mpr (.inr rfl)⟩

/-- What a run accepted is recorded in the state it reaches. -/
theorem AcceptedIn.recorded {sink₀ : S} {ds : List (Delivery D)} {d : Delivery D}
    (h : AcceptedIn sha256 sink sink₀ ds d) :
    Recorded sha256 (stateAfter sha256 sink sink₀ ds).ledger d := by
  obtain ⟨pre, post, ids, rfl, hok⟩ := h
  have hself : Recorded sha256
      (deliver sha256 sink (stateAfter sha256 sink sink₀ pre) d).1.ledger d := by
    rcases deliver_cases sha256 sink (stateAfter sha256 sink sink₀ pre) d with
      ⟨e, he, -⟩ | ⟨r, hr, hc⟩
    · rw [hok] at he; cases he
    · rw [hok] at hr
      obtain rfl := Except.ok.inj hr
      exact hc.recorded_self
  rw [stateAfter, after_append]
  exact after_preserves (P := fun l => Recorded sha256 l d) (fun _ _ _ _ h hc => hc.recorded h)
    hself post

/-- A run one delivery longer accepted what the run accepted. -/
theorem AcceptedIn.append {sink₀ : S} {ds : List (Delivery D)} {d : Delivery D}
    (h : AcceptedIn sha256 sink sink₀ ds d) (ds' : List (Delivery D)) :
    AcceptedIn sha256 sink sink₀ (ds ++ ds') d := by
  obtain ⟨pre, post, ids, rfl, hok⟩ := h
  exact ⟨pre, post ++ ds', ids, by simp, hok⟩

/-- A recorded chunk was accepted. -/
theorem exists_acceptedIn_of_mem_chunks {sink₀ : S} {ds : List (Delivery D)} {r : ChunkRow D}
    (h : r ∈ (stateAfter sha256 sink sink₀ ds).ledger.chunks) :
    ∃ c now, r = chunkRow sha256 c ∧ AcceptedIn sha256 sink sink₀ ds (.chunk c now) := by
  induction ds using List.reverseRecOn with
  | nil => exact absurd h (Table.not_mem_empty _)
  | append_singleton ds d ih =>
    rw [stateAfter, after, run_snoc] at h
    by_cases hold : r ∈ (stateAfter sha256 sink sink₀ ds).ledger.chunks
    · obtain ⟨c, now, hrow, hacc⟩ := ih hold
      exact ⟨c, now, hrow, hacc.append [d]⟩
    · rcases deliver_cases sha256 sink (stateAfter sha256 sink sink₀ ds) d with
        ⟨e, -, hl⟩ | ⟨a, ha, hc⟩
      · rw [hl] at h; exact absurd h hold
      · generalize (deliver sha256 sink (stateAfter sha256 sink sink₀ ds) d).1.ledger = l' at h hc
        cases hc with
        | chunkReplay => exact absurd h hold
        | watermarkReplay => exact absurd h hold
        | watermark => exact absurd h hold
        | runCloseReplay => exact absurd h hold
        | runClosed => exact absurd h hold
        | @chunk c now _ _ hr =>
          rw [Table.mem_def, hr.chunks, List.mem_append, List.mem_singleton] at h
          exact ⟨c, now, h.resolve_left hold, ds, [], _, rfl, ha⟩

/-- A recorded message delivered again is a duplicate, and nothing changes. -/
theorem accept_of_recorded {s : IngressState D S} {d d' : Delivery D}
    (h : Recorded sha256 s.ledger d) (hd : d.SameMessage d') :
    (accept sha256 sink d').run s = .ok ⟨.duplicate, []⟩ s := by
  cases d with
  | chunk c now =>
    cases d' with
    | chunk c' now' => obtain rfl : c = c' := hd; exact acceptChunk_replay h.1 h.2
    | watermark => exact hd.elim
    | runClosed => exact hd.elim
  | watermark w =>
    cases d' with
    | chunk => exact hd.elim
    | watermark w' =>
      obtain rfl : w = w' := hd
      exact acceptWatermark_replay ⟨_, h, rfl, rfl, rfl, rfl⟩
    | runClosed => exact hd.elim
  | runClosed r =>
    cases d' with
    | chunk => exact hd.elim
    | watermark => exact hd.elim
    | runClosed r' => obtain rfl : r = r' := hd; exact acceptRunClosed_replay h.1.1 h.1.2 h.2

/-- Another message under the identity or sequence of a recorded one is refused,
and nothing changes. -/
theorem accept_of_reuse (hinj : Function.Injective sha256) {s : IngressState D S}
    {d d' : Delivery D} (h : Recorded sha256 s.ledger d) (hd : d.Reuses d') :
    ∃ e, (accept sha256 sink d').run s = .error e s := by
  cases d with
  | chunk c now =>
    cases d' with
    | chunk c' now' =>
      obtain ⟨hp, hid, hne⟩ := hd
      refine acceptChunk_refuse ?_ ⟨_, h.2, hp, hid⟩
      by_contra hcon
      obtain ⟨hmem, hdig⟩ := not_or.mp hcon
      have heq := Table.eq_of_conflict h.2 (not_not.mp hmem) ⟨hp, hid⟩
      refine hne (chunk_eq_of_sha256 hinj h.1 (not_not.mp hdig) ?_)
      exact congrArg ChunkRow.contentSha256 heq
    | watermark => exact hd.elim
    | runClosed => exact hd.elim
  | watermark w =>
    cases d' with
    | chunk => exact hd.elim
    | watermark w' =>
      obtain ⟨hp, hid, hne⟩ := hd
      refine acceptWatermark_refuse ?_ ⟨_, h, hp, hid⟩
      rintro ⟨r, hr, hrp, hri, hseq, hsha⟩
      have hconf : (watermarkRow w (sha256 (.watermark w))).watermarkId = r.watermarkId ∨
          (watermarkRow w (sha256 (.watermark w))).watermarkSequence = r.watermarkSequence := by
        rcases hid with hid | hid
        · exact .inl (hid.trans hri.symm)
        · exact .inr (hid.trans hseq.symm)
      have heq := Table.eq_of_conflict h hr ⟨hp.trans hrp.symm, hconf⟩
      rw [← heq] at hsha
      exact hne (CanonicalPayload.watermark.inj (hinj hsha))
    | runClosed => exact hd.elim
  | runClosed => exact hd.elim

/-! ## Forwarded Events -/

/-- The Event ids of a partition, in the order of the ledger. -/
def Ledger.eventIds (l : Ledger D) (p : R1StreamPartition) : List String :=
  (l.events.rows.filter (·.partition = p)).map (·.eventId)

omit [DecidableEq D] in
theorem Ledger.mem_eventIds {l : Ledger D} {p : R1StreamPartition} {i : String} :
    i ∈ l.eventIds p ↔ l.HasEvent p i := by
  simp [eventIds, HasEvent, and_assoc]

omit [DecidableEq D] in
theorem Ledger.nodup_eventIds (l : Ledger D) (p : R1StreamPartition) : (l.eventIds p).Nodup := by
  rw [eventIds, List.Nodup, List.pairwise_map]
  refine (List.Pairwise.filter _ l.events.unique).imp_of_mem fun ha hb hn hi => ?_
  simp only [List.mem_filter, decide_eq_true_eq] at ha hb
  exact hn ⟨ha.2.trans hb.2.symm, hi⟩

omit [DecidableEq D] in
/-- A commit appends the ids it forwards to the partition's event ledger. -/
theorem Commits.eventIds {l l' : Ledger D} {d : Delivery D} {r : R1StreamDeliveryResult}
    (h : Commits sha256 l d r l') (p : R1StreamPartition) :
    l'.eventIds p = l.eventIds p ++ newEventIdsOf p (d, .ok r) := by
  cases h with
  | chunkReplay => simp [newEventIdsOf]
  | watermarkReplay => simp [newEventIdsOf]
  | watermark => simp [newEventIdsOf, Ledger.eventIds]
  | runCloseReplay => simp [newEventIdsOf]
  | runClosed => simp [newEventIdsOf, Ledger.eventIds]
  | @chunk c now _ ha hr =>
    rw [Ledger.eventIds, hr.events, List.filter_append, List.map_append]
    by_cases hp : c.partition = p
    · simp [newEventIdsOf, hp, Ledger.eventIds, List.filter_map, Function.comp_def, eventRow]
    · simp [newEventIdsOf, hp, Ledger.eventIds, List.filter_map, Function.comp_def, eventRow]

/-- The forwarded Event ids of a partition are its event ledger. -/
theorem forwarded_eq (sink₀ : S) (ds : List (Delivery D)) (p : R1StreamPartition) :
    forwardedEventIds p (trace (deliver sha256 sink) ⟨.empty, sink₀⟩ ds) =
      (stateAfter sha256 sink sink₀ ds).ledger.eventIds p := by
  refine run_trace_induction (deliver sha256 sink)
    (P := fun s t => forwardedEventIds p t = s.ledger.eventIds p) rfl (fun s t d h => ?_) ds
  rw [forwardedEventIds, List.flatMap_append]
  simp only [List.flatMap_cons, List.flatMap_nil, List.append_nil]
  rw [← forwardedEventIds, h]
  rcases deliver_cases sha256 sink s d with ⟨e, he, hl⟩ | ⟨r, hr, hc⟩
  · rw [he, hl]
    cases d <;> simp [newEventIdsOf]
  · rw [hr, hc.eventIds p]

/-! ## The law -/

/-- After any run of deliveries: an accepted message delivered again is a
duplicate that changes nothing; a message reusing the identity or sequence of an
accepted one is refused and changes nothing; and the Event ids forwarded for a
partition are distinct, and are exactly those of its event ledger. -/
theorem exactlyOnceAdmission (hinj : Function.Injective sha256) (sink₀ : S)
    (ds : List (Delivery D)) :
    (∀ d d', AcceptedIn sha256 sink sink₀ ds d → d.SameMessage d' →
      (accept sha256 sink d').run (stateAfter sha256 sink sink₀ ds) =
        .ok ⟨.duplicate, []⟩ (stateAfter sha256 sink sink₀ ds)) ∧
    (∀ d d', AcceptedIn sha256 sink sink₀ ds d → d.Reuses d' →
      ∃ e, (accept sha256 sink d').run (stateAfter sha256 sink sink₀ ds) =
        .error e (stateAfter sha256 sink sink₀ ds)) ∧
    (∀ p, (forwardedEventIds p (trace (deliver sha256 sink) ⟨.empty, sink₀⟩ ds)).Nodup ∧
      ∀ i, i ∈ forwardedEventIds p (trace (deliver sha256 sink) ⟨.empty, sink₀⟩ ds) ↔
        (stateAfter sha256 sink sink₀ ds).ledger.HasEvent p i) := by
  refine ⟨fun d d' h hd => accept_of_recorded h.recorded hd,
    fun d d' h hd => accept_of_reuse hinj h.recorded hd, fun p => ?_⟩
  rw [forwarded_eq]
  exact ⟨nodup_eventIds _ p, fun i => mem_eventIds⟩

namespace Sample

/-- A sink that drops its letters. -/
def discard : DeadLetterSink Unit := ⟨fun _ => pure ()⟩

def now : PyDatetime := .aware 1767225600000000 0

theorem acceptedIn_chunk₁ : AcceptedIn id discard () [.chunk chunk₁ now] (.chunk chunk₁ now) :=
  ⟨[], [], ["evt-1"], rfl, by rfl⟩

end Sample

open Sample in
theorem exactlyOnceAdmission_chunk₁ :
    (accept id discard (.chunk chunk₁ .naive)).run (stateAfter id discard () [.chunk chunk₁ now]) =
      .ok ⟨.duplicate, []⟩ (stateAfter id discard () [.chunk chunk₁ now]) ∧
    ∃ e, (accept id discard (.chunk chunk₁' now)).run
      (stateAfter id discard () [.chunk chunk₁ now]) =
        .error e (stateAfter id discard () [.chunk chunk₁ now]) :=
  ⟨(exactlyOnceAdmission Function.injective_id () _).1 _ _ acceptedIn_chunk₁ rfl,
    (exactlyOnceAdmission Function.injective_id () _).2.1 _ _ acceptedIn_chunk₁
      ⟨rfl, .inr rfl, by decide⟩⟩

end IncidentAwareness.Stream
