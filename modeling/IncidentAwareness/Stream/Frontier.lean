import IncidentAwareness.Stream.ExactlyOnce

/-!
# The watermark frontier

A watermark is active while it is the partition's latest and all the chunks it
covers are present. Only an active watermark rejects late Events, so an Event at
or before a watermark that was active is kept out as long as the latest
watermark is active whenever such an Event arrives
(`frontierLaw_of_keepsFrontier`); a later watermark whose chunks have not all
arrived lets it in (`frontierLaw_fails`).

In the other direction, an honest source never sees one of its chunks rejected
as late (`honestSource_accepted`): a chunk that a watermark does not cover brings
only Events after it, or Events that the covered chunks already brought.
-/

namespace IncidentAwareness.Stream

open IncidentAwareness.Common IncidentAwareness.Lib Ledger

variable {D S : Type} [DecidableEq D] (sha256 : CanonicalPayload → D) (sink : DeadLetterSink S)

/-! ## The frontier of a partition -/

/-- Once a watermark of a partition is active, no chunk of the partition that a
later state accepts brings a new Event at or before it. -/
def FrontierLaw (sink₀ : S) (ds : List (Delivery D)) : Prop :=
  ∀ before between c now after' w ids, ds = before ++ between ++ .chunk c now :: after' →
    (stateAfter sha256 sink sink₀ before).ledger.Active c.partition w →
    (deliver sha256 sink (stateAfter sha256 sink sink₀ (before ++ between)) (.chunk c now)).2 =
      .ok ⟨.accepted, ids⟩ →
    ∀ e ∈ c.events,
      ¬ (stateAfter sha256 sink sink₀ (before ++ between)).ledger.HasEvent c.partition e.eventId →
      w.watermarkAt < e.timestamp

omit [DecidableEq D] in
/-- When a chunk brings a new Event at or before a watermark of its partition
all of whose chunks are present, the partition's latest watermark is active. -/
def KeepsFrontier (s : IngressState D S) : Delivery D → Prop
  | .chunk c _ => ∀ w ∈ s.ledger.watermarks, w.partition = c.partition →
      (∀ k, 1 ≤ k → k ≤ w.coveredThroughChunkSequence → s.ledger.HasChunk c.partition k) →
      (∃ e ∈ c.events, ¬ s.ledger.HasEvent c.partition e.eventId ∧ e.timestamp ≤ w.watermarkAt) →
      ∃ latest, s.ledger.Active c.partition latest
  | _ => True

variable {sha256 sink}

/-- An accepted chunk was admitted by the ledger, unless it was there before. -/
theorem admits_of_accepted {s : IngressState D S} {c : R1EventChunk D} {now : PyDatetime}
    {ids : List String}
    (h : (deliver sha256 sink s (.chunk c now)).2 = .ok ⟨.accepted, ids⟩) :
    AdmitsChunk sha256 s.ledger c := by
  rcases deliver_cases sha256 sink s (.chunk c now) with
    ⟨e, he, -⟩ | ⟨r, hr, hc⟩
  · rw [h] at he; cases he
  · rw [h] at hr
    obtain rfl := Except.ok.inj hr
    cases hc with
    | chunk ha _ => exact ha

/-- In every run each of whose chunk deliveries keeps the frontier, the frontier
law holds. -/
theorem frontierLaw_of_keepsFrontier (sink₀ : S) (ds : List (Delivery D))
    (h : Meets (deliver sha256 sink) KeepsFrontier ⟨.empty, sink₀⟩ ds) :
    FrontierLaw sha256 sink sink₀ ds := by
  intro before between c now after' w ids hds hactive hok e he hnew
  have admits := admits_of_accepted hok
  have hgrows : (stateAfter sha256 sink sink₀ before).ledger.Grows
      (stateAfter sha256 sink sink₀ (before ++ between)).ledger := by
    rw [stateAfter, stateAfter, after_append]
    exact after_grows _ _
  obtain ⟨hlatest, hcovered⟩ := hactive
  obtain ⟨⟨hmem, hp⟩, -⟩ := latestWatermark_eq_some.mp hlatest
  have hmem' := hgrows.watermarks.subset hmem
  by_contra hlate
  -- The watermark is still there with its chunks, so the latest one is active and rejects.
  obtain ⟨latest, hact⟩ := h _ _ _ hds w hmem' hp (fun k h1 hk => hgrows.hasChunk (hcovered k h1 hk))
    ⟨e, he, hnew, not_lt.mp hlate⟩
  have hlt := admits.notLate latest hact e he hnew
  have hle := (after_ordered sink₀ (before ++ between)).le_latest hact.1 hmem' hp
  exact hlate (lt_of_le_of_lt hle hlt)

namespace Sample

def row₁ : WatermarkRow CanonicalPayload := watermarkRow watermark₁ (.watermark watermark₁)

theorem active_row₁ :
    (stateAfter id discard () [.chunk chunk₁ now, .watermark watermark₁]).ledger.Active partition
      row₁ :=
  ⟨by rfl, (covers_iff (w := row₁.accepted) (by decide)).mp (by rfl)⟩

end Sample

open Sample in
theorem frontierLaw_of_keepsFrontier_late :
    FrontierLaw id discard () [.chunk chunk₁ now, .watermark watermark₁, .chunk chunk₂ now] :=
  frontierLaw_of_keepsFrontier () _
    (meets_cons (fun _ hw => absurd hw (Table.not_mem_empty _))
      (meets_cons trivial
        (meets_cons (fun _ _ _ _ _ => ⟨row₁, active_row₁⟩) meets_nil)))

open Sample in
theorem frontierLaw_fails : ¬ ∀ ds, FrontierLaw id discard () ds := by
  intro h
  have hlate : (2000 : Int) < 1500 :=
    h _ [.chunk chunk₁ now, .watermark watermark₁] [.watermark watermark₂] chunk₂ now [] row₁
      ["evt-2"] rfl active_row₁ (by rfl) _ List.mem_cons_self (by decide)
  exact absurd hlate (by decide)

/-! ## Honest sources -/

/-- A source of one partition: its chunks, one for each sequence and each id,
with one content for each Event id; its watermarks, in order; and no Event at or
before a watermark beyond the chunks that the watermark covers, unless one of
these carries it too. -/
structure HonestSource (sha256 : CanonicalPayload → D) where
  partition : R1StreamPartition
  chunks : Set (R1EventChunk D)
  watermarks : Set R1SourceWatermark
  chunk_partition : ∀ c ∈ chunks, c.partition = partition
  digest : ∀ c ∈ chunks, chunkSha256 sha256 c = c.chunkContentSha256
  chunk_of_id : ∀ c ∈ chunks, ∀ c' ∈ chunks, c.chunkId = c'.chunkId → c = c'
  chunk_of_sequence : ∀ c ∈ chunks, ∀ c' ∈ chunks, c.chunkSequence = c'.chunkSequence → c = c'
  event_of_id : ∀ c ∈ chunks, ∀ c' ∈ chunks, ∀ e ∈ c.events, ∀ e' ∈ c'.events,
    e.eventId = e'.eventId → e = e'
  watermark_partition : ∀ w ∈ watermarks, w.partition = partition
  watermark_order : ∀ w ∈ watermarks, ∀ w' ∈ watermarks, w ≠ w' →
    w.watermarkSequence ≠ w'.watermarkSequence ∧ w.allowedLatenessMs = w'.allowedLatenessMs ∧
      (w.watermarkSequence < w'.watermarkSequence → w.watermarkAt ≤ w'.watermarkAt)
  afterWatermark : ∀ w ∈ watermarks, ∀ c ∈ chunks, w.coveredThroughChunkSequence < c.chunkSequence →
    ∀ e ∈ c.events,
      (∀ c' ∈ chunks, c'.chunkSequence ≤ w.coveredThroughChunkSequence → e ∉ c'.events) →
      w.watermarkAt < e.timestamp

/-- What the partition of a source receives comes from the source, and its Run
is not closed. -/
def HonestSource.Sends {sha256 : CanonicalPayload → D} (src : HonestSource sha256) :
    Delivery D → Prop
  | .chunk c _ => c.partition = src.partition → c ∈ src.chunks
  | .watermark w => w.partition = src.partition → w ∈ src.watermarks
  | .runClosed r => r.runId ≠ src.partition.runId

/-- What the ledger has of a partition comes from its source, and a recorded
chunk is there with all its Events. -/
structure HonestLedger (src : HonestSource sha256) (l : Ledger D) : Prop where
  chunks : ∀ r ∈ l.chunks, r.partition = src.partition → ∃ c ∈ src.chunks,
    r = chunkRow sha256 c ∧ ∀ e ∈ c.events, eventRow sha256 src.partition e ∈ l.events
  events : ∀ r ∈ l.events, r.partition = src.partition → ∃ c ∈ src.chunks, ∃ e ∈ c.events,
    r = eventRow sha256 src.partition e
  watermarks : ∀ r ∈ l.watermarks, r.partition = src.partition → ∃ w ∈ src.watermarks,
    r = watermarkRow w (sha256 (.watermark w))
  notClosed : ∀ r ∈ l.runCloses, r.runId ≠ src.partition.runId
  positionCloses : ∀ r, r ∉ l.positionCloses

omit [DecidableEq D] in
theorem HonestLedger.empty (src : HonestSource sha256) : HonestLedger src (Ledger.empty) :=
  ⟨fun _ h => absurd h (Table.not_mem_empty _), fun _ h => absurd h (Table.not_mem_empty _),
    fun _ h => absurd h (Table.not_mem_empty _), fun _ h => absurd h (Table.not_mem_empty _),
    fun _ => Table.not_mem_empty _⟩

omit [DecidableEq D] in
/-- An Event of a source in the ledger is there with its content. -/
theorem HonestLedger.eventRow_mem {src : HonestSource sha256} {l : Ledger D}
    (h : HonestLedger src l) {c : R1EventChunk D} (hc : c ∈ src.chunks) {e : NormalizedEvent}
    (he : e ∈ c.events) (hk : l.HasEvent src.partition e.eventId) :
    eventRow sha256 src.partition e ∈ l.events := by
  obtain ⟨r, hr, hp, hi⟩ := hk
  obtain ⟨c', hc', e', he', rfl⟩ := h.events r hr hp
  rwa [src.event_of_id c hc c' hc' e he e' he' hi.symm]

omit [DecidableEq D] in
/-- After a chunk of the source is recorded, all its Events are. -/
theorem HonestLedger.events_of_records {src : HonestSource sha256} {l l' : Ledger D}
    (h : HonestLedger src l) {c : R1EventChunk D} (hc : c ∈ src.chunks)
    (hr : RecordsChunk sha256 l c l') :
    ∀ e ∈ c.events, eventRow sha256 src.partition e ∈ l'.events := by
  intro e he
  rw [Table.mem_def, hr.events, List.mem_append]
  have hp := src.chunk_partition c hc
  by_cases hk : l.HasEvent src.partition e.eventId
  · exact .inl (h.eventRow_mem hc he hk)
  · refine .inr (List.mem_map.mpr ⟨e, List.mem_filter.mpr ⟨he, ?_⟩, by rw [hp]⟩)
    rw [hp]; simpa using hk

omit [DecidableEq D] in
theorem Commits.honest {src : HonestSource sha256} {l l' : Ledger D} {d : Delivery D}
    {r : R1StreamDeliveryResult} (hl : HonestLedger src l) (hd : src.Sends d)
    (h : Commits sha256 l d r l') : HonestLedger src l' := by
  cases h with
  | chunkReplay => exact hl
  | watermarkReplay => exact hl
  | runCloseReplay => exact hl
  | @chunk c now _ ha hr =>
    have hsub : ∀ r ∈ l.events, r ∈ l'.events := fun r h => by
      rw [Table.mem_def, hr.events]; exact List.mem_append_left _ h
    refine ⟨fun r hmem hp => ?_, fun r hmem hp => ?_, by rw [hr.watermarks]; exact hl.watermarks,
      by rw [hr.runCloses]; exact hl.notClosed, by rw [hr.positionCloses]; exact hl.positionCloses⟩
    · rw [Table.mem_def, hr.chunks, List.mem_append, List.mem_singleton] at hmem
      rcases hmem with hmem | rfl
      · obtain ⟨c', hc', hrow, hes⟩ := hl.chunks r hmem hp
        exact ⟨c', hc', hrow, fun e he => hsub _ (hes e he)⟩
      · exact ⟨c, hd hp, rfl, hl.events_of_records (hd hp) hr⟩
    · rw [Table.mem_def, hr.events, List.mem_append, List.mem_map] at hmem
      rcases hmem with hmem | ⟨e, he, rfl⟩
      · exact hl.events r hmem hp
      · exact ⟨c, hd hp, e, (List.mem_filter.mp he).1, by rw [← hp]; rfl⟩
  | @watermark w t ha ht =>
    refine ⟨hl.chunks, hl.events, fun r hmem hp => ?_, hl.notClosed, hl.positionCloses⟩
    rcases (Table.mem_of_insert? ht).mp hmem with hmem | rfl
    · exact hl.watermarks r hmem hp
    · exact ⟨w, hd hp, rfl⟩
  | @runClosed r t _ _ ht =>
    refine ⟨hl.chunks, hl.events, hl.watermarks, fun r' hmem => ?_, hl.positionCloses⟩
    rcases (Table.mem_of_insert? ht).mp hmem with hmem | rfl
    · exact hl.notClosed r' hmem
    · exact hd

variable (sink) in
/-- Runs of what a source sends reach ledgers that agree with it. -/
theorem after_honest (src : HonestSource sha256) (sink₀ : S) {ds : List (Delivery D)}
    (hds : ∀ d ∈ ds, src.Sends d) : HonestLedger src (stateAfter sha256 sink sink₀ ds).ledger := by
  refine run_of_meets (deliver sha256 sink) (C := fun _ d => src.Sends d)
    (P := fun s => HonestLedger src s.ledger) (fun s d h hd => ?_) (HonestLedger.empty src)
    fun pre d post e => hds d (e ▸ by simp)
  rcases deliver_cases sha256 sink s d with ⟨e, -, hl⟩ | ⟨r, -, hc⟩
  · rwa [hl]
  · exact hc.honest h hd

omit [DecidableEq D] in
/-- No new Event of a source's chunk is at or before an active watermark. -/
theorem HonestLedger.notLate {src : HonestSource sha256} {l : Ledger D} (h : HonestLedger src l)
    {c : R1EventChunk D} (hc : c ∈ src.chunks)
    (hnew : ∀ r ∈ l.chunks, r.partition = c.partition → r.chunkSequence ≠ c.chunkSequence)
    {w : WatermarkRow D} (hw : l.Active c.partition w) {e : NormalizedEvent} (he : e ∈ c.events)
    (hk : ¬ l.HasEvent c.partition e.eventId) : w.watermarkAt < e.timestamp := by
  obtain ⟨hlatest, hcovered⟩ := hw
  obtain ⟨⟨hmem, hp⟩, -⟩ := latestWatermark_eq_some.mp hlatest
  have hcp := src.chunk_partition c hc
  obtain ⟨m, hm, rfl⟩ := h.watermarks w hmem (hp.trans hcp)
  -- The chunk is not covered: every covered sequence is taken.
  have hbeyond : m.coveredThroughChunkSequence < c.chunkSequence := by
    by_contra hle
    obtain ⟨r, hr, hrp, hrs⟩ := hcovered c.chunkSequence c.chunkSequence_pos (not_lt.mp hle)
    exact hnew r hr hrp hrs
  -- Nor does a covered chunk carry the Event: it would be recorded.
  refine src.afterWatermark m hm c hc hbeyond e he fun c' hc' hle he' => hk ?_
  obtain ⟨r, hr, hrp, hrs⟩ := hcovered c'.chunkSequence c'.chunkSequence_pos hle
  obtain ⟨c'', hc'', rfl, hes⟩ := h.chunks r hr (hrp.trans hcp)
  obtain rfl := src.chunk_of_sequence c'' hc'' c' hc' hrs
  rw [hcp]
  exact ⟨_, hes e he', rfl, rfl⟩

omit [DecidableEq D] in
/-- A chunk of a source that is not recorded has an identity and a sequence of its own. -/
theorem HonestLedger.new {src : HonestSource sha256} {l : Ledger D} (h : HonestLedger src l)
    {c : R1EventChunk D} (hc : c ∈ src.chunks) (hr : chunkRow sha256 c ∉ l.chunks) :
    ∀ r ∈ l.chunks, r.partition = c.partition →
      r.chunkId ≠ c.chunkId ∧ r.chunkSequence ≠ c.chunkSequence := by
  intro r hmem hp
  obtain ⟨c', hc', rfl, -⟩ := h.chunks r hmem (hp.trans (src.chunk_partition c hc))
  constructor
  · intro hid
    obtain rfl := src.chunk_of_id c' hc' c hc hid
    exact hr hmem
  · intro hs
    obtain rfl := src.chunk_of_sequence c' hc' c hc hs
    exact hr hmem

/-- A TEXT column holds every id of the chunk. -/
def StorableIds (c : R1EventChunk D) : Prop :=
  Storable (c.chunkId.val :: c.partition.texts) ∧ Storable (c.events.map (·.eventId))

instance (c : R1EventChunk D) : Decidable (StorableIds c) := inferInstanceAs (Decidable (_ ∧ _))

omit [DecidableEq D] in
/-- The ledger admits a chunk of its source that it does not have. -/
theorem HonestLedger.admits {src : HonestSource sha256} {l : Ledger D} (h : HonestLedger src l)
    {c : R1EventChunk D} (hc : c ∈ src.chunks) (hb : ∀ e ∈ c.events, isBlank e.eventId = false)
    (ht : StorableIds c) (hr : chunkRow sha256 c ∉ l.chunks) : AdmitsChunk sha256 l c where
  digest := src.digest c hc
  texts := ht.1
  new := h.new hc hr
  notClosed := by rw [src.chunk_partition c hc]; exact h.notClosed
  postPositionClose := by
    have hrows : l.positionCloses.rows = [] :=
      List.eq_nil_iff_forall_not_mem.mpr h.positionCloses
    exact ⟨none, by simp [positionCloseFrontier, hrows], rfl⟩
  eventsAgree := by
    intro x hx r hmem hp hi
    obtain ⟨e, he, rfl⟩ := List.mem_map.mp hx
    obtain ⟨c', hc', e', he', rfl⟩ := h.events r hmem (hp.trans (src.chunk_partition c hc))
    obtain rfl := src.event_of_id c' hc' c hc e' he' e he hi
    exact ⟨hb e' he, rfl⟩
  eventTexts := fun e he => List.forall_mem_cons.mpr
    ⟨ht.2 _ (List.mem_map_of_mem (List.mem_filter.mp he).1), (List.forall_mem_cons.mp ht.1).2⟩
  notLate := fun w hw e he hk =>
    h.notLate hc (fun r hmem hp => (h.new hc hr r hmem hp).2) hw he hk

variable (sink) in
/-- What an honest source sends, in any order and with any redeliveries, while
its Run is not closed: no chunk of it is rejected as late, and each delivered
chunk whose ids and sequence the ledger can store is accepted, and its Events
are in the ledger. -/
theorem honestSource_accepted (src : HonestSource sha256) (sink₀ : S) {ds : List (Delivery D)}
    (hds : ∀ d ∈ ds, src.Sends d) :
    (∀ before c now after' i j, ds = before ++ .chunk c now :: after' → c ∈ src.chunks →
      (deliver sha256 sink (stateAfter sha256 sink sink₀ before) (.chunk c now)).2 ≠
        .error (.lateStreamEventError i j)) ∧
    (∀ c now, .chunk c now ∈ ds → c ∈ src.chunks → (∀ e ∈ c.events, isBlank e.eventId = false) →
      StorableIds c → c.chunkSequence ≤ integerMax →
      (∃ now', AcceptedIn sha256 sink sink₀ ds (.chunk c now')) ∧
        ∀ e ∈ c.events, eventRow sha256 src.partition e ∈
          (stateAfter sha256 sink sink₀ ds).ledger.events) := by
  refine ⟨fun before c now after' i j hsplit hc hlate => ?_, fun c now hmem hc hb ht hs => ?_⟩
  · have honest : HonestLedger src (stateAfter sha256 sink sink₀ before).ledger := after_honest sink src sink₀
      fun d hd => hds d (hsplit ▸ List.mem_append_left _ hd)
    unfold deliver at hlate
    cases hrun : (accept sha256 sink (.chunk c now)).run (stateAfter sha256 sink sink₀ before) with
    | ok r s' => rw [hrun] at hlate; cases hlate
    | error e s' =>
      rw [hrun] at hlate
      obtain rfl := Except.error.inj hlate
      obtain ⟨_, late⟩ := acceptChunk_late hrun
      obtain ⟨w, hw, e, he, hk, hle⟩ := late.exists_event
      exact absurd (honest.notLate hc (fun r hr hp => (late.new r hr hp).2) hw he hk)
        (not_lt.mpr hle)
  · have hacc : ∃ now', AcceptedIn sha256 sink sink₀ ds (.chunk c now') := by
      obtain ⟨before, after', rfl⟩ := List.append_of_mem hmem
      have honest : HonestLedger src (stateAfter sha256 sink sink₀ before).ledger := after_honest sink src sink₀
        fun d hd => hds d (List.mem_append_left _ hd)
      by_cases hr : chunkRow sha256 c ∈ (stateAfter sha256 sink sink₀ before).ledger.chunks
      · obtain ⟨c', now', hrow, hacc⟩ := exists_acceptedIn_of_mem_chunks hr
        obtain ⟨pre, post, ids, hpre, -⟩ := id hacc
        have hc' : c' ∈ src.chunks := by
          refine hds (.chunk c' now') (by rw [hpre]; simp) ?_
          exact (congrArg ChunkRow.partition hrow).symm.trans (src.chunk_partition c hc)
        obtain rfl := src.chunk_of_id c hc c' hc' (congrArg ChunkRow.chunkId hrow)
        exact ⟨now', hacc.append _⟩
      · obtain ⟨s', hok⟩ := acceptChunk_of_admits sink now
          (honest.admits hc hb ht hr) hb ht.2 hs
        have hdel : (deliver sha256 sink (stateAfter sha256 sink sink₀ before) (.chunk c now)).2 =
            .ok ⟨.accepted, ((stateAfter sha256 sink sink₀ before).ledger.newEvents c).map
              (·.eventId)⟩ := by
          simp only [deliver, accept, hok]
        exact ⟨now, before, after', _, rfl, hdel⟩
    refine ⟨hacc, ?_⟩
    obtain ⟨now', hacc⟩ := hacc
    obtain ⟨c', hc', hrow, hes⟩ := (after_honest sink src sink₀ hds).chunks _
      hacc.recorded.2 (src.chunk_partition c hc)
    obtain rfl := src.chunk_of_id c hc c' hc' (congrArg ChunkRow.chunkId hrow)
    exact hes

namespace Sample

/-- The source that sends one chunk and the watermark that covers it. -/
def source (c : R1EventChunk CanonicalPayload) (hp : c.partition = partition)
    (hs : c.chunkSequence = 1) (hd : chunkSha256 id c = c.chunkContentSha256) :
    HonestSource (id : CanonicalPayload → CanonicalPayload) where
  partition := partition
  chunks := {c}
  watermarks := {watermark₁}
  chunk_partition := by rintro _ rfl; exact hp
  digest := by rintro _ rfl; exact hd
  chunk_of_id := by rintro _ rfl _ rfl _; rfl
  chunk_of_sequence := by rintro _ rfl _ rfl _; rfl
  event_of_id := by
    rintro x rfl y rfl e he e' he' hid
    exact List.inj_on_of_nodup_map y.eventIds_nodup he he' hid
  watermark_partition := by rintro _ rfl; rfl
  watermark_order := by rintro _ rfl _ rfl hne; exact absurd rfl hne
  afterWatermark := by
    rintro _ rfl x rfl hlt
    rw [hs] at hlt
    exact absurd hlt (by decide)

end Sample

open Sample in
theorem honestSource_accepted_chunk₁ :
    ∃ now', AcceptedIn id discard () [.watermark watermark₁, .chunk chunk₁ now]
      (.chunk chunk₁ now') :=
  have hds : ∀ d ∈ [.watermark watermark₁, .chunk chunk₁ now],
      (source chunk₁ rfl rfl rfl).Sends d := by
    intro d hd
    obtain rfl | rfl : d = .watermark watermark₁ ∨ d = .chunk chunk₁ now := by simpa using hd
    · exact fun _ => rfl
    · exact fun _ => rfl
  ((honestSource_accepted discard (source chunk₁ rfl rfl rfl) () hds).2 chunk₁ now (by simp) rfl
    (by decide) (by decide) (by decide)).1

open Sample in
/-- An Event id that is blank cannot be stored, so its chunk is never accepted. -/
theorem honestSource_blank_not_accepted :
    ¬ ∀ (src : HonestSource (id : CanonicalPayload → CanonicalPayload))
      (ds : List (Delivery CanonicalPayload)), (∀ d ∈ ds, src.Sends d) →
      ∀ c now, .chunk c now ∈ ds → c ∈ src.chunks →
        ∃ now', AcceptedIn id discard () ds (.chunk c now') := by
  intro h
  obtain ⟨now', pre, post, ids, hsplit, hok⟩ := h (source blankChunk rfl rfl rfl)
    [.chunk blankChunk now]
    (fun d hd => by obtain rfl := List.mem_singleton.mp hd; exact fun _ => rfl)
    blankChunk now List.mem_cons_self rfl
  cases pre with
  | cons d pre => simp at hsplit
  | nil => cases hok

end IncidentAwareness.Stream
