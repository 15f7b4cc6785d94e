import IncidentAwareness.Stream.Ingress
import IncidentAwareness.Stream.LedgerSpec

/-!
# What a delivery does

`Commits`: every way a delivery can be answered without raising, with what the
ingress required of the ledger and what it wrote. `deliver_cases`: a delivery
either raises and leaves the ledger as it was, or commits. Invariants of the
ledger are proved from `Commits` alone, one case a constructor, and
`accept_chunk` of a chunk the ledger admits does commit
(`acceptChunk_of_admits`).
-/

namespace IncidentAwareness.Stream

open IncidentAwareness.Common IncidentAwareness.Lib

variable {D S : Type}

namespace Ledger

/-- The latest watermark of the partition is `w`, and all the chunks it covers
are present. -/
def Active (l : Ledger D) (p : R1StreamPartition) (w : WatermarkRow D) : Prop :=
  l.latestWatermark p = some w ∧ ∀ k, 1 ≤ k → k ≤ w.coveredThroughChunkSequence → l.HasChunk p k

/-- The chunk's Events are past the position close of its Run, when there is one. -/
def PostPositionClose (sha256 : CanonicalPayload → D) (l : Ledger D)
    (c : R1EventChunk D) : Prop :=
  ∃ frontier, l.positionCloseFrontier c.partition = .ok frontier ∧
    assertPastFrontier (eventContentSha256s sha256 c) (eventSourceRecordIds c) frontier = .ok ()

/-- The new Events of a chunk. -/
def newEvents (l : Ledger D) (c : R1EventChunk D) : List NormalizedEvent :=
  c.events.filter fun e => ¬ l.HasEvent c.partition e.eventId

/-- The ledger row of an Event of a chunk. -/
def eventRow (sha256 : CanonicalPayload → D) (p : R1StreamPartition) (e : NormalizedEvent) :
    EventRow D :=
  ⟨p, e.eventId, canonicalEventSha256 sha256 e⟩

/-- What `accept_chunk` requires of a new chunk. -/
structure AdmitsChunk (sha256 : CanonicalPayload → D) (l : Ledger D)
    (c : R1EventChunk D) : Prop where
  digest : chunkSha256 sha256 c = c.chunkContentSha256
  texts : Storable (c.chunkId.val :: c.partition.texts)
  new : ∀ r ∈ l.chunks, r.partition = c.partition →
    r.chunkId ≠ c.chunkId ∧ r.chunkSequence ≠ c.chunkSequence
  notClosed : ∀ r ∈ l.runCloses, r.runId ≠ c.partition.runId
  postPositionClose : PostPositionClose sha256 l c
  eventsAgree : l.EventsAgree c.partition (eventContentSha256s sha256 c)
  eventTexts : ∀ e ∈ l.newEvents c, Storable (e.eventId :: c.partition.texts)
  notLate : ∀ w, l.Active c.partition w → ∀ e ∈ c.events,
    ¬ l.HasEvent c.partition e.eventId → w.watermarkAt < e.timestamp

/-- The ledger `l'` is `l` with the chunk and its new Events recorded. -/
structure RecordsChunk (sha256 : CanonicalPayload → D) (l : Ledger D) (c : R1EventChunk D)
    (l' : Ledger D) : Prop where
  chunks : l'.chunks.rows = l.chunks.rows ++ [chunkRow sha256 c]
  events : l'.events.rows = l.events.rows ++ (l.newEvents c).map (eventRow sha256 c.partition)
  watermarks : l'.watermarks = l.watermarks
  runCloses : l'.runCloses = l.runCloses
  positionCloses : l'.positionCloses = l.positionCloses

end Ledger

open Ledger

/-- How a delivery is answered: the ledger before, the result, the ledger after. -/
inductive Commits (sha256 : CanonicalPayload → D) (l : Ledger D) :
    Delivery D → R1StreamDeliveryResult → Ledger D → Prop where
  | chunkReplay {c now} (digest : chunkSha256 sha256 c = c.chunkContentSha256)
      (recorded : chunkRow sha256 c ∈ l.chunks) :
      Commits sha256 l (.chunk c now) ⟨.duplicate, []⟩ l
  | chunk {c now l'} (admits : AdmitsChunk sha256 l c) (records : RecordsChunk sha256 l c l') :
      Commits sha256 l (.chunk c now) ⟨.accepted, (l.newEvents c).map (·.eventId)⟩ l'
  | watermarkReplay {w} (recorded : l.HasWatermark w (sha256 (.watermark w))) :
      Commits sha256 l (.watermark w) ⟨.duplicate, []⟩ l
  | watermark {w t} (admits : l.AdmitsWatermark w)
      (inserted : l.watermarks.insert? (watermarkRow w (sha256 (.watermark w))) = some t) :
      Commits sha256 l (.watermark w) ⟨.accepted, []⟩ { l with watermarks := t }
  | runCloseReplay {r} (finals : l.FinalsMatch r.runId r.finalWatermarks)
      (text : Storable [r.closeId.val])
      (recorded : runCloseRow sha256 r ∈ l.runCloses) :
      Commits sha256 l (.runClosed r) ⟨.duplicate, []⟩ l
  | runClosed {r t} (finals : l.FinalsMatch r.runId r.finalWatermarks)
      (text : Storable [r.closeId.val])
      (inserted : l.runCloses.insert? (runCloseRow sha256 r) = some t) :
      Commits sha256 l (.runClosed r) ⟨.accepted, []⟩ { l with runCloses := t }

/-! ## Parts of `accept_chunk` -/

theorem run_onLedger_eq_ok {α : Type} {x : EStateM PyError (Ledger D) α}
    {s s' : IngressState D S} {a : α} :
    (onLedger x).run s = .ok a s' ↔ ∃ l, x.run s.ledger = .ok a l ∧ s' = { s with ledger := l } := by
  simp only [onLedger, EStateM.run]
  cases x s.ledger with
  | ok a' l =>
    constructor
    · rintro ⟨⟩; exact ⟨l, rfl, rfl⟩
    · rintro ⟨_, ⟨⟩, rfl⟩; rfl
  | error e l => simp

theorem map_fst_unknownEvents (sha256 : CanonicalPayload → D) (l : Ledger D) (c : R1EventChunk D) :
    (l.unknownEvents c.partition (eventContentSha256s sha256 c)).map Prod.fst =
      (l.newEvents c).map (·.eventId) := by
  simp only [unknownEvents, newEvents, eventContentSha256s, List.filter_map, List.map_map]
  rfl

theorem map_row_unknownEvents (sha256 : CanonicalPayload → D) (l : Ledger D) (c : R1EventChunk D) :
    ((l.unknownEvents c.partition (eventContentSha256s sha256 c)).map
      fun e => (⟨c.partition, e.1, e.2⟩ : EventRow D)) =
      (l.newEvents c).map (eventRow sha256 c.partition) := by
  simp only [unknownEvents, newEvents, eventContentSha256s, List.filter_map, List.map_map]
  rfl

theorem storable_unknownEvents {sha256 : CanonicalPayload → D} {l : Ledger D} {c : R1EventChunk D} :
    (∀ e ∈ l.unknownEvents c.partition (eventContentSha256s sha256 c),
      Storable (e.1 :: c.partition.texts)) ↔
      ∀ e ∈ l.newEvents c, Storable (e.eventId :: c.partition.texts) := by
  have h := List.forall_mem_map (f := Prod.fst) (P := fun i => Storable (i :: c.partition.texts))
    (l := l.unknownEvents c.partition (eventContentSha256s sha256 c))
  rw [← h, map_fst_unknownEvents, List.forall_mem_map]

theorem mem_map_newEvents_iff {l : Ledger D} {c : R1EventChunk D} {e : NormalizedEvent}
    (he : e ∈ c.events) :
    e.eventId ∈ (l.newEvents c).map (·.eventId) ↔ ¬ l.HasEvent c.partition e.eventId := by
  constructor
  · intro h
    obtain ⟨e', he', hid⟩ := List.mem_map.mp h
    have hnew := (List.mem_filter.mp he').2
    rw [hid] at hnew
    simpa using hnew
  · exact fun h => List.mem_map_of_mem (List.mem_filter.mpr ⟨he, by simpa using h⟩)

theorem violatingEventIds_eq_nil {c : R1EventChunk D} {ids : List String} {w : R1AcceptedWatermark} :
    violatingEventIds c ids w = [] ↔
      ∀ e ∈ c.events, e.eventId ∈ ids → w.watermarkAt < e.timestamp := by
  simp [violatingEventIds, List.filter_eq_nil_iff]

theorem rejectLateEvents_eq_ok {sink : DeadLetterSink S} {now : PyDatetime} {c : R1EventChunk D}
    {ids : List String} {latest : Option R1AcceptedWatermark} {s s' : IngressState D S} {u : Unit} :
    (rejectLateEvents sink now c ids latest).run s = .ok u s' ↔
      s' = s ∧ ∀ w ∈ latest, violatingEventIds c ids w = [] := by
  cases latest with
  | none => exact ⟨fun h => ⟨by cases h; rfl, fun w hw => nomatch hw⟩, fun ⟨h, _⟩ => by rw [h]; rfl⟩
  | some w =>
    simp only [rejectLateEvents, Option.mem_def, Option.some.injEq, forall_eq']
    split
    · next h => exact ⟨fun hr => ⟨by cases hr; rfl, h⟩, fun ⟨hr, _⟩ => by rw [hr]; rfl⟩
    · next h =>
      simp only [h, and_false, iff_false]
      intro hr
      obtain ⟨_, _, -, hr⟩ := run_bind_eq_ok.mp hr
      obtain ⟨_, _, -, hr⟩ := run_bind_eq_ok.mp hr
      cases hr

variable [DecidableEq D] {sha256 : CanonicalPayload → D}

/-- The frontier that `inspect_chunk_admission` hands to the late check. -/
def activeWatermark (l : Ledger D) (p : R1StreamPartition) : Option R1AcceptedWatermark :=
  ((l.latestWatermark p).map (·.accepted)).filter (l.watermarkCoversReceivedChunks p)

omit [DecidableEq D] in
theorem mem_activeWatermark {l : Ledger D} {p : R1StreamPartition} {a : R1AcceptedWatermark} :
    a ∈ activeWatermark l p ↔ ∃ w, l.Active p w ∧ w.accepted = a := by
  simp only [activeWatermark, Option.mem_def, Option.filter_eq_some_iff, Option.map_eq_some_iff,
    Active]
  constructor
  · rintro ⟨⟨w, hw, rfl⟩, hc⟩
    exact ⟨w, ⟨hw, (covers_iff w.covered_pos).mp hc⟩, rfl⟩
  · rintro ⟨w, ⟨hw, hc⟩, rfl⟩
    exact ⟨⟨w, hw, rfl⟩, (covers_iff w.covered_pos).mpr hc⟩

/-- The ledger would take the chunk as a new one, but it has new Events at or before
`w`, the frontier of its partition. -/
structure Late (sha256 : CanonicalPayload → D) (l : Ledger D) (c : R1EventChunk D)
    (w : R1AcceptedWatermark) : Prop where
  digest : chunkSha256 sha256 c = c.chunkContentSha256
  texts : Storable (c.chunkId.val :: c.partition.texts)
  new : ∀ r ∈ l.chunks, r.partition = c.partition →
    r.chunkId ≠ c.chunkId ∧ r.chunkSequence ≠ c.chunkSequence
  notClosed : ∀ r ∈ l.runCloses, r.runId ≠ c.partition.runId
  postPositionClose : PostPositionClose sha256 l c
  eventsAgree : l.EventsAgree c.partition (eventContentSha256s sha256 c)
  eventTexts : ∀ e ∈ l.newEvents c, Storable (e.eventId :: c.partition.texts)
  active : activeWatermark l c.partition = some w
  violates : violatingEventIds c ((l.newEvents c).map (·.eventId)) w ≠ []

omit [DecidableEq D] in
/-- A late chunk has a new Event that is not past the frontier. -/
theorem Late.exists_event {l : Ledger D} {c : R1EventChunk D} {w : R1AcceptedWatermark}
    (h : Late sha256 l c w) : ∃ row, l.Active c.partition row ∧ ∃ e ∈ c.events,
      ¬ l.HasEvent c.partition e.eventId ∧ e.timestamp ≤ row.watermarkAt := by
  obtain ⟨row, hactive, rfl⟩ := mem_activeWatermark.mp h.active
  refine ⟨row, hactive, ?_⟩
  by_contra hnone
  refine h.violates (violatingEventIds_eq_nil.mpr fun e he hi => ?_)
  by_contra hle
  exact hnone ⟨e, he, (mem_map_newEvents_iff he).mp hi, not_lt.mp hle⟩

theorem inspectChunkAdmission_eq_ok {l : Ledger D} {c : R1EventChunk D}
    {a : R1ChunkAdmission} :
    l.inspectChunkAdmission c.partition c.chunkId c.chunkSequence (chunkSha256 sha256 c)
        (eventContentSha256s sha256 c) (eventSourceRecordIds c) = .ok a ↔
      (a = ⟨true, [], none⟩ ∧ chunkRow sha256 c ∈ l.chunks) ∨
      (a = ⟨false, (l.newEvents c).map (·.eventId), activeWatermark l c.partition⟩ ∧
        Storable (c.chunkId.val :: c.partition.texts) ∧
        (∀ r ∈ l.chunks, r.partition = c.partition →
          r.chunkId ≠ c.chunkId ∧ r.chunkSequence ≠ c.chunkSequence) ∧
        (∀ r ∈ l.runCloses, r.runId ≠ c.partition.runId) ∧ PostPositionClose sha256 l c ∧
        l.EventsAgree c.partition (eventContentSha256s sha256 c) ∧
        ∀ e ∈ l.newEvents c, Storable (e.eventId :: c.partition.texts)) := by
  unfold inspectChunkAdmission
  cases h : l.chunkById c.partition c.chunkId with
  | some r =>
    obtain ⟨hr, hp, hi⟩ := chunkById_eq_some.mp h
    have hnew : ¬ ∀ r ∈ l.chunks, r.partition = c.partition →
        r.chunkId ≠ c.chunkId ∧ r.chunkSequence ≠ c.chunkSequence := fun hn => (hn r hr hp).1 hi
    have hmem : chunkRow sha256 c ∈ l.chunks ↔
        r.chunkSequence = c.chunkSequence ∧ r.contentSha256 = chunkSha256 sha256 c := by
      constructor
      · intro hm
        rw [Table.eq_of_conflict hr hm ⟨hp, .inl hi⟩]
        exact ⟨rfl, rfl⟩
      · rintro ⟨hs, hd⟩
        have : r = chunkRow sha256 c := by cases r; simp_all [chunkRow]
        rwa [← this]
    simp only [hmem, hnew, false_and, and_false, or_false]
    split
    · next hs => simp [hs, eq_comm]
    · next hs => simp [hs]
  | none =>
    have hn := chunkById_eq_none.mp h
    have hmem : chunkRow sha256 c ∉ l.chunks := fun hm => hn _ hm rfl rfl
    simp only [hmem, and_false, false_or, checkTexts_bind_eq_ok, raiseIf_bind_eq_ok,
      chunkBySequence_isSome, protectRun_iff]
    constructor
    · rintro ⟨htexts, hs, hc, h⟩
      obtain ⟨frontier, hf, h⟩ := Except.bind_eq_ok.mp h
      obtain ⟨_, hpost, h⟩ := Except.bind_eq_ok.mp h
      obtain ⟨ids, hids, h⟩ := Except.bind_eq_ok.mp h
      obtain ⟨ha, hevents, rfl⟩ := newEventIds_eq_ok.mp hids
      exact ⟨by rw [← map_fst_unknownEvents sha256]; exact (Except.ok.inj h).symm, htexts,
        fun r hr hp => ⟨hn r hr hp, fun he => hs ⟨r, hr, hp, he⟩⟩, fun r hr he => hc ⟨r, hr, he⟩,
        ⟨frontier, hf, hpost⟩, ha, storable_unknownEvents.mp hevents⟩
    · rintro ⟨rfl, htexts, hnew, hc, ⟨frontier, hf, hpost⟩, ha, hevents⟩
      have hs : ¬ ∃ r ∈ l.chunks, r.partition = c.partition ∧ r.chunkSequence = c.chunkSequence := by
        rintro ⟨r, hr, hp, he⟩
        exact (hnew r hr hp).2 he
      have hopen : ¬ ∃ r ∈ l.runCloses, r.runId = c.partition.runId := by
        rintro ⟨r, hr, he⟩
        exact hc r hr he
      refine ⟨htexts, hs, hopen, ?_⟩
      rw [hf, Except.ok_bind', hpost, Except.ok_bind',
        newEventIds_eq_ok.mpr ⟨ha, storable_unknownEvents.mpr hevents, rfl⟩, map_fst_unknownEvents]
      rfl

omit [DecidableEq D] in
theorem protectRun_eq_false {l : Ledger D} {runId : RunId}
    (h : ∀ r ∈ l.runCloses, r.runId ≠ runId) : l.protectRun runId = false := by
  rw [← Bool.not_eq_true, protectRun_iff]
  exact fun ⟨r, hr, he⟩ => h r hr he

omit [DecidableEq D] in
/-- The chunk's row conflicts with no row, also after its Events are inserted. -/
theorem Ledger.AdmitsChunk.not_conflict {l : Ledger D} {c : R1EventChunk D} (h : AdmitsChunk sha256 l c) :
    ∀ a ∈ l.chunks, ¬ a.Conflict (chunkRow sha256 c) := fun a ha hc =>
  hc.2.elim (h.new a ha hc.1).1 (h.new a ha hc.1).2

omit [DecidableEq D] in
theorem nodup_eventContentSha256s (sha256 : CanonicalPayload → D) (c : R1EventChunk D) :
    ((eventContentSha256s sha256 c).map Prod.fst).Nodup := by
  rw [map_fst_eventContentSha256s]; exact c.eventIds_nodup

variable {sink : DeadLetterSink S}

/-- A chunk that was answered was either recorded before, or admitted and recorded. -/
theorem acceptChunk_eq_ok {now : PyDatetime} {c : R1EventChunk D} {s s' : IngressState D S}
    {r : R1StreamDeliveryResult} (h : (acceptChunk sha256 sink now c).run s = .ok r s') :
    Commits sha256 s.ledger (.chunk c now) r s'.ledger ∧ s'.sink = s.sink := by
  obtain ⟨_, s₁, hdigest, h₁⟩ := run_bind_eq_ok.mp h
  obtain ⟨hdigest', rfl⟩ := run_reads_eq_ok.mp hdigest
  have digest := not_not.mp (raiseIf_eq_ok.mp hdigest')
  obtain ⟨a, s₂, hinspect, h₂⟩ := run_bind_eq_ok.mp h₁
  obtain ⟨l₂, hinspect', rfl⟩ := run_onLedger_eq_ok.mp hinspect
  obtain ⟨hadmission, rfl⟩ := run_reads_eq_ok.mp hinspect'
  obtain ⟨rfl, hr⟩ | ⟨rfl, htexts, hnew, hclosed, hpost, ha, hevents⟩ :=
    inspectChunkAdmission_eq_ok.mp hadmission
  · obtain ⟨rfl, rfl⟩ : result false = r ∧ s₁ = s' := by simpa using h₂
    exact ⟨.chunkReplay digest hr, rfl⟩
  · obtain ⟨_, s₃, hreject, h₃⟩ := run_bind_eq_ok.mp h₂
    obtain ⟨rfl, hlate⟩ := rejectLateEvents_eq_ok.mp hreject
    have admits : AdmitsChunk sha256 s₁.ledger c :=
      { digest, texts := htexts, new := hnew, notClosed := hclosed, postPositionClose := hpost
        eventsAgree := ha, eventTexts := hevents
        notLate := fun w hw e he hk => by
          have hpass := violatingEventIds_eq_nil.mp (hlate _ (mem_activeWatermark.mpr ⟨w, hw, rfl⟩))
          exact hpass e he ((mem_map_newEvents_iff he).mpr hk) }
    obtain ⟨ids, s₄, hevents, h₄⟩ := run_bind_eq_ok.mp h₃
    obtain ⟨l₄, hevents', rfl⟩ := run_onLedger_eq_ok.mp hevents
    have hopen := protectRun_eq_false hclosed
    rw [saveEvents, EStateM.run_bind, run_reads, hopen] at hevents'
    obtain ⟨rfl, hins⟩ := insertEvents_eq_ok (nodup_eventContentSha256s sha256 c) hevents'
    obtain ⟨b, s₅, hchunk, h₅⟩ := run_bind_eq_ok.mp h₄
    obtain ⟨l₅, hchunk', rfl⟩ := run_onLedger_eq_ok.mp hchunk
    have hopen₄ : l₄.protectRun c.partition.runId = false := by
      rw [protectRun, hins.runCloses]; exact hopen
    have hconf : ∀ a ∈ l₄.chunks, ¬ a.Conflict (chunkRow sha256 c) := by
      rw [hins.chunks]; exact admits.not_conflict
    obtain ⟨rfl, -, t, ht, rfl⟩ := (saveChunk_eq_ok hopen₄ hconf).mp hchunk'
    cases h₅
    rw [result, if_pos rfl, map_fst_unknownEvents]
    refine ⟨.chunk admits ⟨?_, ?_, hins.watermarks, hins.runCloses, hins.positionCloses⟩, rfl⟩
    · rw [← hins.chunks]; exact (Table.insert?_eq_some.mp ht).2
    · rw [← map_row_unknownEvents]; exact hins.events

variable (sink) in
/-- A chunk that the ledger admits, with storable Event ids and sequence, is accepted. -/
theorem acceptChunk_of_admits (now : PyDatetime) {c : R1EventChunk D} {s : IngressState D S}
    (h : AdmitsChunk sha256 s.ledger c) (hb : ∀ e ∈ c.events, isBlank e.eventId = false)
    (ht : Storable (c.events.map (·.eventId))) (hs : c.chunkSequence ≤ integerMax) :
    ∃ s', (acceptChunk sha256 sink now c).run s =
      .ok ⟨.accepted, (s.ledger.newEvents c).map (·.eventId)⟩ s' := by
  have hes : ∀ e ∈ eventContentSha256s sha256 c, isBlank e.1 = false := by
    intro x hx
    obtain ⟨e, he, rfl⟩ := List.mem_map.mp hx
    exact hb e he
  have htexts : ∀ e ∈ eventContentSha256s sha256 c, Storable (e.1 :: c.partition.texts) := by
    intro x hx
    obtain ⟨e, he, rfl⟩ := List.mem_map.mp hx
    exact List.forall_mem_cons.mpr ⟨ht _ (List.mem_map_of_mem he),
      (List.forall_mem_cons.mp h.texts).2⟩
  obtain ⟨ids, l₁, hins⟩ :=
    exists_insertEvents (nodup_eventContentSha256s sha256 c) hes htexts h.eventsAgree
  obtain ⟨rfl, hrec⟩ := insertEvents_eq_ok (nodup_eventContentSha256s sha256 c) hins
  have hopen := protectRun_eq_false h.notClosed
  have hopen₁ : l₁.protectRun c.partition.runId = false := by
    rw [protectRun, hrec.runCloses]; exact hopen
  have hconf : ∀ a ∈ l₁.chunks, ¬ a.Conflict (chunkRow sha256 c) := by
    rw [hrec.chunks]; exact h.not_conflict
  obtain ⟨t, ht⟩ := Table.exists_insert? hconf
  have hsave : (saveEvents c.partition (eventContentSha256s sha256 c)).run s.ledger =
      .ok ((s.ledger.unknownEvents c.partition (eventContentSha256s sha256 c)).map Prod.fst) l₁ := by
    rw [saveEvents, EStateM.run_bind, run_reads, hopen]
    exact hins
  refine ⟨{ s with ledger := { l₁ with chunks := t } }, ?_⟩
  rw [acceptChunk, run_bind_eq_ok]
  refine ⟨(), s, run_reads_eq_ok.mpr ⟨raiseIf_of_not (not_not.mpr h.digest), rfl⟩, ?_⟩
  rw [run_bind_eq_ok]
  refine ⟨_, s, run_onLedger_eq_ok.mpr ⟨s.ledger, run_reads_eq_ok.mpr
    ⟨inspectChunkAdmission_eq_ok.mpr (.inr ⟨rfl, h.texts, h.new, h.notClosed, h.postPositionClose,
      h.eventsAgree, h.eventTexts⟩), rfl⟩, rfl⟩, ?_⟩
  simp only [Bool.false_eq_true, if_false]
  rw [run_bind_eq_ok]
  refine ⟨(), s, rejectLateEvents_eq_ok.mpr ⟨rfl, fun a ha => ?_⟩, ?_⟩
  · obtain ⟨w, hw, rfl⟩ := mem_activeWatermark.mp ha
    exact violatingEventIds_eq_nil.mpr fun e he hi =>
      h.notLate w hw e he ((mem_map_newEvents_iff he).mp hi)
  · rw [run_bind_eq_ok]
    refine ⟨_, { s with ledger := l₁ }, run_onLedger_eq_ok.mpr ⟨l₁, hsave, rfl⟩, ?_⟩
    rw [run_bind_eq_ok]
    refine ⟨true, _, run_onLedger_eq_ok.mpr ⟨{ l₁ with chunks := t },
      (saveChunk_eq_ok hopen₁ hconf).mpr ⟨rfl, ⟨h.texts, hs⟩, t, ht, rfl⟩, rfl⟩, ?_⟩
    rw [map_fst_unknownEvents]
    rfl

omit [DecidableEq D] in
theorem runRaisesOnly_onLedger {α : Type} {Q : PyError → Prop} {x : EStateM PyError (Ledger D) α}
    (h : RunRaisesOnly Q x) : RunRaisesOnly Q (onLedger (S := S) x) := by
  intro s e s' he
  simp only [onLedger, EStateM.run] at he
  split at he
  · cases he
  · next e' l hx => cases he; exact h _ _ _ hx

/-- Only a late chunk is rejected as late. -/
theorem acceptChunk_late {now : PyDatetime} {c : R1EventChunk D} {s s' : IngressState D S}
    {i j : String}
    (h : (acceptChunk sha256 sink now c).run s = .error (.lateStreamEventError i j) s') :
    ∃ w, Late sha256 s.ledger c w := by
  rcases run_bind_eq_error.mp h with herr | ⟨_, s₁, hdigest, h₁⟩
  · exact (runRaisesOnly_reads (Q := NotLateError) (fun _ => raisesOnly_raiseIf (by trivial)) _ _ _
      herr).elim
  obtain ⟨hdigest', rfl⟩ := run_reads_eq_ok.mp hdigest
  have digest := not_not.mp (raiseIf_eq_ok.mp hdigest')
  rcases run_bind_eq_error.mp h₁ with herr | ⟨a, s₂, hinspect, h₂⟩
  · exact (runRaisesOnly_onLedger (runRaisesOnly_reads fun l =>
      raisesOnly_inspectChunkAdmission l _ _ _ _ _ _) _ _ _ herr).elim
  obtain ⟨l₂, hinspect', rfl⟩ := run_onLedger_eq_ok.mp hinspect
  obtain ⟨hadmission, rfl⟩ := run_reads_eq_ok.mp hinspect'
  obtain ⟨rfl, -⟩ | ⟨rfl, texts, new, notClosed, postPositionClose, eventsAgree, eventTexts⟩ :=
    inspectChunkAdmission_eq_ok.mp hadmission
  · cases h₂
  by_contra hnone
  -- No Event is late, so the late check passes and only the ledger's writes can raise.
  have hpass : (rejectLateEvents sink now c ((s₁.ledger.newEvents c).map (·.eventId))
      (activeWatermark s₁.ledger c.partition)).run s₁ = .ok () s₁ := by
    refine rejectLateEvents_eq_ok.mpr ⟨rfl, fun w active => ?_⟩
    by_contra violates
    exact hnone ⟨w, digest, texts, new, notClosed, postPositionClose, eventsAgree, eventTexts,
      active, violates⟩
  rcases run_bind_eq_error.mp h₂ with herr | ⟨_, s₃, hreject, h₃⟩
  · exact absurd (hpass.symm.trans herr) (by simp)
  rcases run_bind_eq_error.mp h₃ with herr | ⟨ids, s₄, -, h₄⟩
  · exact (runRaisesOnly_onLedger (runRaisesOnly_saveEvents _ _) _ _ _ herr).elim
  rcases run_bind_eq_error.mp h₄ with herr | ⟨b, s₅, -, h₅⟩
  · exact (runRaisesOnly_onLedger (runRaisesOnly_saveChunk _) _ _ _ herr).elim
  · cases h₅

theorem acceptWatermark_eq_ok {w : R1SourceWatermark} {s s' : IngressState D S}
    {r : R1StreamDeliveryResult} (h : (acceptWatermark sha256 w).run s = .ok r s') :
    Commits sha256 s.ledger (.watermark w) r s'.ledger ∧ s'.sink = s.sink := by
  obtain ⟨b, s₁, hsave, h₁⟩ := run_bind_eq_ok.mp h
  obtain ⟨l₁, hsave', rfl⟩ := run_onLedger_eq_ok.mp hsave
  cases h₁
  obtain ⟨rfl, rfl, hw⟩ | ⟨rfl, ha, t, ht, rfl⟩ := saveWatermark_eq_ok hsave'
  · exact ⟨.watermarkReplay hw, rfl⟩
  · exact ⟨.watermark ha ht, rfl⟩

theorem acceptRunClosed_eq_ok {c : R1RunClosed} {s s' : IngressState D S}
    {r : R1StreamDeliveryResult} (h : (acceptRunClosed sha256 c).run s = .ok r s') :
    Commits sha256 s.ledger (.runClosed c) r s'.ledger ∧ s'.sink = s.sink := by
  obtain ⟨_, s₁, hfinals, h₁⟩ := run_bind_eq_ok.mp h
  obtain ⟨l₁, hfinals', rfl⟩ := run_onLedger_eq_ok.mp hfinals
  obtain ⟨hmatch, rfl⟩ := run_reads_eq_ok.mp hfinals'
  have finals := assertFinalWatermarksMatch_eq_ok.mp hmatch
  obtain ⟨b, s₂, hsave, h₂⟩ := run_bind_eq_ok.mp h₁
  obtain ⟨l₂, hsave', rfl⟩ := run_onLedger_eq_ok.mp hsave
  cases h₂
  obtain ⟨text, ⟨rfl, rfl, hr⟩ | ⟨rfl, t, ht, rfl⟩⟩ := saveRunClose_eq_ok.mp hsave'
  · exact ⟨.runCloseReplay finals text hr, rfl⟩
  · exact ⟨.runClosed finals text ht, rfl⟩

/-! ## Replays and refusals -/

/-- A chunk that is recorded is answered as a duplicate. -/
theorem acceptChunk_replay {now : PyDatetime} {c : R1EventChunk D} {s : IngressState D S}
    (digest : chunkSha256 sha256 c = c.chunkContentSha256)
    (h : chunkRow sha256 c ∈ s.ledger.chunks) :
    (acceptChunk sha256 sink now c).run s = .ok ⟨.duplicate, []⟩ s := by
  refine run_bind_eq_ok.mpr ⟨(), s, run_reads_eq_ok.mpr
    ⟨raiseIf_of_not (not_not.mpr digest), rfl⟩, ?_⟩
  exact run_bind_eq_ok.mpr ⟨⟨true, [], none⟩, s, run_onLedger_eq_ok.mpr
    ⟨s.ledger, run_reads_eq_ok.mpr ⟨inspectChunkAdmission_eq_ok.mpr (.inl ⟨rfl, h⟩), rfl⟩, rfl⟩, rfl⟩

/-- A chunk that is neither recorded nor new is refused, and nothing changes. -/
theorem acceptChunk_refuse {now : PyDatetime} {c : R1EventChunk D} {s : IngressState D S}
    (hr : chunkRow sha256 c ∉ s.ledger.chunks ∨ chunkSha256 sha256 c ≠ c.chunkContentSha256)
    (hn : ∃ r ∈ s.ledger.chunks, r.partition = c.partition ∧
      (r.chunkId = c.chunkId ∨ r.chunkSequence = c.chunkSequence)) :
    ∃ e, (acceptChunk sha256 sink now c).run s = .error e s := by
  by_cases digest : chunkSha256 sha256 c = c.chunkContentSha256
  · have hr := hr.resolve_right (not_not.mpr digest)
    have herr : ∀ a, s.ledger.inspectChunkAdmission c.partition c.chunkId c.chunkSequence
        (chunkSha256 sha256 c) (eventContentSha256s sha256 c) (eventSourceRecordIds c) ≠ .ok a := by
      intro a ha
      obtain ⟨-, hmem⟩ | ⟨-, -, hnew, -⟩ := inspectChunkAdmission_eq_ok.mp ha
      · exact hr hmem
      · obtain ⟨r, hmem, hp, hid⟩ := hn
        exact hid.elim (hnew r hmem hp).1 (hnew r hmem hp).2
    cases hi : s.ledger.inspectChunkAdmission c.partition c.chunkId c.chunkSequence
        (chunkSha256 sha256 c) (eventContentSha256s sha256 c) (eventSourceRecordIds c) with
    | ok a => exact absurd hi (herr a)
    | error e =>
      refine ⟨e, run_bind_eq_error.mpr (.inr ⟨(), s, run_reads_eq_ok.mpr
        ⟨raiseIf_of_not (not_not.mpr digest), rfl⟩, run_bind_eq_error.mpr (.inl ?_)⟩)⟩
      simp only [onLedger, EStateM.run, reads, hi]
  · exact ⟨_, run_bind_eq_error.mpr (.inl (run_reads_eq_error.mpr ⟨raiseIf_of digest, rfl⟩))⟩

theorem acceptWatermark_replay {w : R1SourceWatermark} {s : IngressState D S}
    (h : s.ledger.HasWatermark w (sha256 (.watermark w))) :
    (acceptWatermark sha256 w).run s = .ok ⟨.duplicate, []⟩ s := by
  refine run_bind_eq_ok.mpr ⟨false, s, run_onLedger_eq_ok.mpr ⟨s.ledger, ?_, rfl⟩, rfl⟩
  exact run_bind_eq_ok.mpr ⟨false, s.ledger, run_reads_eq_ok.mpr
    ⟨inspectWatermark_eq_ok.mpr (.inl ⟨rfl, h⟩), rfl⟩, rfl⟩

/-- A watermark that is neither recorded nor new is refused, and nothing changes. -/
theorem acceptWatermark_refuse {w : R1SourceWatermark} {s : IngressState D S}
    (hr : ¬ s.ledger.HasWatermark w (sha256 (.watermark w)))
    (hn : ∃ r ∈ s.ledger.watermarks, r.partition = w.partition ∧
      (r.watermarkId = w.watermarkId ∨ r.watermarkSequence = w.watermarkSequence)) :
    ∃ e, (acceptWatermark sha256 w).run s = .error e s := by
  have herr : ∀ b, s.ledger.inspectWatermark w (sha256 (.watermark w)) ≠ .ok b := by
    intro b hb
    obtain ⟨-, hw⟩ | ⟨-, ha⟩ := inspectWatermark_eq_ok.mp hb
    · exact hr hw
    · obtain ⟨r, hmem, hp, hid⟩ := hn
      exact hid.elim (ha.new r hmem hp).1 (ha.new r hmem hp).2
  cases hi : s.ledger.inspectWatermark w (sha256 (.watermark w)) with
  | ok b => exact absurd hi (herr b)
  | error e =>
    have hsave : (saveWatermark w (sha256 (.watermark w))).run s.ledger = .error e s.ledger :=
      run_bind_eq_error.mpr (.inl (run_reads_eq_error.mpr ⟨hi, rfl⟩))
    refine ⟨e, run_bind_eq_error.mpr (.inl ?_)⟩
    simp only [EStateM.run] at hsave
    simp only [onLedger, EStateM.run, hsave]

theorem acceptRunClosed_replay {r : R1RunClosed} {s : IngressState D S}
    (hf : s.ledger.FinalsMatch r.runId r.finalWatermarks) (ht : Storable [r.closeId.val])
    (h : runCloseRow sha256 r ∈ s.ledger.runCloses) :
    (acceptRunClosed sha256 r).run s = .ok ⟨.duplicate, []⟩ s := by
  refine run_bind_eq_ok.mpr ⟨(), s, run_onLedger_eq_ok.mpr ⟨s.ledger, run_reads_eq_ok.mpr
    ⟨assertFinalWatermarksMatch_eq_ok.mpr hf, rfl⟩, rfl⟩, ?_⟩
  exact run_bind_eq_ok.mpr ⟨false, s, run_onLedger_eq_ok.mpr ⟨s.ledger,
    saveRunClose_eq_ok.mpr ⟨ht, .inl ⟨rfl, rfl, h⟩⟩, rfl⟩, rfl⟩

variable (sha256) in
/-- The first close of a Run that matches its final watermarks is accepted. -/
theorem acceptRunClosed_of_finalsMatch {r : R1RunClosed} {s : IngressState D S}
    (hf : s.ledger.FinalsMatch r.runId r.finalWatermarks) (htext : Storable [r.closeId.val])
    (h : ∀ row ∈ s.ledger.runCloses, row.runId ≠ r.runId) :
    ∃ s', (acceptRunClosed sha256 r).run s = .ok ⟨.accepted, []⟩ s' := by
  obtain ⟨t, ht⟩ := Table.exists_insert? (t := s.ledger.runCloses) (r := runCloseRow sha256 r) h
  refine ⟨{ s with ledger := { s.ledger with runCloses := t } }, run_bind_eq_ok.mpr
    ⟨(), s, run_onLedger_eq_ok.mpr ⟨s.ledger, run_reads_eq_ok.mpr
      ⟨assertFinalWatermarksMatch_eq_ok.mpr hf, rfl⟩, rfl⟩, ?_⟩⟩
  exact run_bind_eq_ok.mpr ⟨true, _, run_onLedger_eq_ok.mpr ⟨_,
    saveRunClose_eq_ok.mpr ⟨htext, .inr ⟨rfl, t, ht, rfl⟩⟩, rfl⟩, rfl⟩

/-! ## Deliveries -/

theorem accept_eq_ok {d : Delivery D} {s s' : IngressState D S} {r : R1StreamDeliveryResult}
    (h : (accept sha256 sink d).run s = .ok r s') :
    Commits sha256 s.ledger d r s'.ledger ∧ s'.sink = s.sink := by
  cases d with
  | chunk c now => exact acceptChunk_eq_ok h
  | watermark w => exact acceptWatermark_eq_ok h
  | runClosed c => exact acceptRunClosed_eq_ok h

variable (sha256 sink) in
/-- A delivery raises, and the ledger is what it was, or commits. -/
theorem deliver_cases (s : IngressState D S) (d : Delivery D) :
    (∃ e, (deliver sha256 sink s d).2 = .error e ∧
      (deliver sha256 sink s d).1.ledger = s.ledger) ∨
    (∃ r, (deliver sha256 sink s d).2 = .ok r ∧
      Commits sha256 s.ledger d r (deliver sha256 sink s d).1.ledger) := by
  unfold deliver
  cases h : (accept sha256 sink d).run s with
  | error e s' => exact .inl ⟨e, rfl, rfl⟩
  | ok r s' => exact .inr ⟨r, rfl, (accept_eq_ok h).1⟩

/-- A property of the ledger that commits preserve is preserved by deliveries. -/
theorem deliver_preserves {P : Ledger D → Prop}
    (h : ∀ l d r l', P l → Commits sha256 l d r l' → P l') (s : IngressState D S) (d : Delivery D)
    (hs : P s.ledger) : P (deliver sha256 sink s d).1.ledger := by
  rcases deliver_cases sha256 sink s d with ⟨e, -, hl⟩ | ⟨r, -, hc⟩
  · rwa [hl]
  · exact h _ _ _ _ hs hc

/-- A property of the ledger that holds at first and that commits preserve holds
after every run of deliveries. -/
theorem after_preserves {P : Ledger D → Prop}
    (h : ∀ l d r l', P l → Commits sha256 l d r l' → P l') {s : IngressState D S}
    (hs : P s.ledger) (ds : List (Delivery D)) : P (after (deliver sha256 sink) s ds).ledger :=
  run_induction (deliver sha256 sink) (P := fun s => P s.ledger)
    (fun s d => deliver_preserves h s d) hs ds

end IncidentAwareness.Stream
