import IncidentAwareness.Evidence.PipelineOrder
import IncidentAwareness.Incremental.Terminal
import IncidentAwareness.Lib.FirstSeen

/-!
# The Evidence of chunks is that of one batch

However the Events of a run are cut into chunks, in whichever order these are accepted and
how often they are delivered again, the finalized Evidence is what the pipeline gives for
all the Events at once. The hash tells payloads apart.

* `Buffers`: the state holds the Events of the chunks that were accepted, and no others;
* `step_accepts`: one call keeps this, and `buffers_after`: a run of calls;
* `incrementalCalls_eq_batch`: a finalized state against a batch of the same Events;
* `incrementalCalls_orderFree`: two finalized states with the same Events;
* `incrementalCalls_chunkingFree`: two finalized states of one boundary, and the batch of all the
  Events that their chunks carry.
-/

namespace IncidentAwareness.Incremental

open IncidentAwareness.Common IncidentAwareness.Lib IncidentAwareness.Stream
open IncidentAwareness.Evidence IncidentAwareness.Seal

variable {D S : Type} {config : IncrementalConfig} {casefold : String → String}
  {uuid5 : List IdentityPart → String} {closeSha256 : ClosePayload D → D}
  {sha256 : CanonicalPayload → D} {s s' : IncrementalEvidenceState D}
  {accepted : List R1EventChunkPayload}

theorem Dict.find_eq_some {κ ν : Type} [DecidableEq κ] {d : Dict κ ν} {key : κ} {value : ν} :
    d.find key = some value ↔ (key, value) ∈ d := by
  rw [Dict.find, Option.map_eq_some_iff]
  constructor
  · rintro ⟨item, hitem, rfl⟩
    obtain ⟨hmem, rfl⟩ := Table.get_eq_some.mp hitem
    exact hmem
  · intro hmem
    exact ⟨(key, value), Table.get_eq_some.mpr ⟨hmem, rfl⟩, rfl⟩

theorem Dict.not_mem_of_find {κ ν : Type} [DecidableEq κ] {d : Dict κ ν} {key : κ}
    (h : d.find key = none) (value : ν) : (key, value) ∉ d := by
  intro hmem
  rw [Dict.find_eq_some.mpr hmem] at h
  exact absurd h (by simp)

/-- A loop that keeps or drops every element. -/
theorem filterMap_sublist_of_mapM {ε α : Type} {f : α → Except ε (Option α)}
    (hf : ∀ a b, f a = .ok b → b = some a ∨ b = none) {l : List α} {bs : List (Option α)}
    (h : l.mapM f = .ok bs) : (bs.filterMap id).Sublist l := by
  induction l generalizing bs with
  | nil =>
    rw [Except.pure_eq_ok.mp h]
    exact List.Sublist.refl []
  | cons a l ih =>
    obtain ⟨b, bs', hb, hbs', rfl⟩ := mapM_cons_eq_ok.mp h
    rcases hf a b hb with rfl | rfl
    · exact (ih hbs').cons_cons a
    · exact (ih hbs').cons a

/-! ## The buffers -/

/-- The key of an Event of a chunk. -/
def eventIdentity (chunk : R1EventChunkPayload) (e : NormalizedEvent) : EventIdentity :=
  (chunk.partition, e.eventId)

/-- The chunks of the selector partitions. -/
def IncrementalConfig.selectorChunks (config : IncrementalConfig)
    (accepted : List R1EventChunkPayload) : List R1EventChunkPayload :=
  accepted.filter fun chunk => config.isSelectorPartition chunk.partition

theorem selectorChunks_snoc (chunk : R1EventChunkPayload) :
    config.selectorChunks (accepted ++ [chunk]) =
      if config.isSelectorPartition chunk.partition then config.selectorChunks accepted ++ [chunk]
      else config.selectorChunks accepted := by
  rw [IncrementalConfig.selectorChunks, List.filter_append]
  by_cases hselector : config.isSelectorPartition chunk.partition = true
  · simp [hselector, IncrementalConfig.selectorChunks]
  · simp [hselector, IncrementalConfig.selectorChunks]

variable (config sha256) in
/-- The state holds the accepted chunks with their Events, those of the selector partitions whole. -/
structure Buffers (s : IncrementalEvidenceState D) (accepted : List R1EventChunkPayload) : Prop where
  chunks : ∀ key hash, (key, hash) ∈ s.chunkHashes ↔
    ∃ chunk ∈ accepted, (chunk.partition, chunk.chunkId) = key ∧ sha256 (.chunk chunk) = hash
  hashes : Gathers (·.events) eventIdentity (canonicalEventSha256 sha256) accepted s.eventHashes
  events : Gathers (·.events) eventIdentity id (config.selectorChunks accepted) s.eventsByIdentity

/-- The Event tables after the Events of a chunk. -/
theorem foldl_recordEvent_eventHashes (partition : R1StreamPartition)
    (updates : List NormalizedEvent) :
    (updates.foldl (IncrementalEvidenceState.recordEvent config sha256 partition) s).eventHashes =
      (updates.map fun e => ((partition, e.eventId), canonicalEventSha256 sha256 e)).foldl
        Table.upsert s.eventHashes := by
  induction updates generalizing s with
  | nil => rfl
  | cons e updates ih =>
    rw [List.foldl_cons, ih, List.map_cons, List.foldl_cons]
    rfl

theorem foldl_recordEvent_eventsByIdentity (partition : R1StreamPartition)
    (updates : List NormalizedEvent) :
    (updates.foldl (IncrementalEvidenceState.recordEvent config sha256 partition) s).eventsByIdentity =
      if config.isSelectorPartition partition then
        (updates.map fun e => ((partition, e.eventId), e)).foldl Table.upsert s.eventsByIdentity
      else s.eventsByIdentity := by
  induction updates generalizing s with
  | nil =>
    rw [List.map_nil, List.foldl_nil, List.foldl_nil, ite_self]
  | cons e updates ih =>
    rw [List.foldl_cons, ih]
    by_cases hselector : config.isSelectorPartition partition = true
    · rw [if_pos hselector, if_pos hselector, IncrementalEvidenceState.recordEvent, if_pos hselector]
      rfl
    · rw [if_neg hselector, if_neg hselector, IncrementalEvidenceState.recordEvent, if_neg hselector]

section Record

variable [DecidableEq D] {chunk : R1EventChunk D} {updates : List NormalizedEvent}

/-- The new Events of a chunk are those whose identity is free; the others are there with their
content. -/
theorem mem_eventUpdates (h : s.eventUpdates sha256 chunk = .ok updates) :
    (updates.map (eventIdentity chunk.toR1EventChunkPayload)).Nodup ∧
      (∀ e ∈ updates, e ∈ chunk.events ∧
        s.eventHashes.find (chunk.partition, e.eventId) = none) ∧
      ∀ e ∈ chunk.events, e ∉ updates →
        ((chunk.partition, e.eventId), canonicalEventSha256 sha256 e) ∈ s.eventHashes := by
  obtain ⟨-, h⟩ := raiseIf_bind_eq_ok.mp h
  obtain ⟨-, h⟩ := Except.unit_bind_eq_ok.mp h
  obtain ⟨-, h⟩ := raiseIf_bind_eq_ok.mp h
  obtain ⟨turns, hturns, h⟩ := Except.bind_eq_ok.mp h
  obtain rfl := Except.pure_eq_ok.mp h
  have hturn : ∀ e turn, s.eventUpdate sha256 chunk.partition e = .ok turn →
      turn = some e ∧ s.eventHashes.find (chunk.partition, e.eventId) = none ∨
      turn = none ∧ s.eventHashes.find (chunk.partition, e.eventId) =
        some (canonicalEventSha256 sha256 e) := by
    intro e turn hupdate
    rw [IncrementalEvidenceState.eventUpdate] at hupdate
    cases hfind : s.eventHashes.find (chunk.partition, e.eventId) with
    | none =>
      rw [hfind] at hupdate
      exact .inl ⟨(Except.ok.inj hupdate).symm, rfl⟩
    | some existing =>
      rw [hfind] at hupdate
      obtain ⟨hsame, hupdate⟩ := raiseIf_bind_eq_ok.mp hupdate
      rw [not_not.mp hsame]
      exact .inr ⟨(Except.pure_eq_ok.mp hupdate), rfl⟩
  have hsublist : (turns.filterMap id).Sublist chunk.events := by
    refine filterMap_sublist_of_mapM (fun e turn hupdate => ?_) hturns
    exact (hturn e turn hupdate).imp And.left And.left
  refine ⟨?_, fun e he => ?_, fun e he hnot => ?_⟩
  · have hids := chunk.eventIds_nodup.sublist (hsublist.map _)
    refine List.Nodup.of_map Prod.snd ?_
    rw [List.map_map]
    exact hids
  · refine ⟨hsublist.subset he, ?_⟩
    obtain ⟨turn, hturn', hsome⟩ := List.mem_filterMap.mp he
    obtain ⟨event, -, hupdate⟩ := exists_of_mem_mapM hturns hturn'
    rcases hturn event turn hupdate with ⟨rfl, hfree⟩ | ⟨rfl, -⟩
    · obtain rfl := Option.some.inj hsome
      exact hfree
    · exact absurd hsome (by simp)
  · obtain ⟨turn, hturn', hupdate⟩ := exists_of_mapM_mem hturns he
    rcases hturn e turn hupdate with ⟨rfl, -⟩ | ⟨-, htaken⟩
    · have hmem : e ∈ turns.filterMap id := List.mem_filterMap.mpr ⟨some e, hturn', rfl⟩
      exact absurd hmem hnot
    · exact Dict.find_eq_some.mp htaken

/-- The identity of a new chunk is free. -/
theorem not_mem_of_isNew (h : s.isKnownChunk sha256 chunk = .ok false) (hash : D) :
    ((chunk.partition, chunk.chunkId), hash) ∉ s.chunkHashes := by
  refine Dict.not_mem_of_find ?_ hash
  rw [IncrementalEvidenceState.isKnownChunk] at h
  cases hfind : s.chunkHashes.find (chunk.partition, chunk.chunkId) with
  | none => rfl
  | some existing =>
    rw [hfind] at h
    have hknown := Except.pure_eq_ok.mp (raiseIf_bind_eq_ok.mp h).2
    exact absurd hknown (by simp)

/-- A chunk that is recorded is held beside the others. -/
theorem Buffers.record (hb : Buffers config sha256 s accepted) (hinj : Function.Injective sha256)
    (h : Records config sha256 s s' chunk) :
    Buffers config sha256 s' (accepted ++ [chunk.toR1EventChunkPayload]) := by
  obtain ⟨updates, snapshot, hupdates, rfl⟩ := h.recorded
  obtain ⟨hnodup, hnew, hold⟩ := mem_eventUpdates hupdates
  refine ⟨?_, ?_, ?_⟩
  · intro key hash
    have hchunks : (s.record config sha256 chunk updates).chunkHashes =
        s.chunkHashes.set (chunk.partition, chunk.chunkId) (chunkSha256 sha256 chunk) := by
      rw [IncrementalEvidenceState.record, IncrementalEvidenceState.foldl_recordEvent]
    have hfree := not_mem_of_isNew h.isNew
    show (key, hash) ∈ (s.record config sha256 chunk updates).chunkHashes ↔ _
    rw [hchunks]
    refine Table.mem_upsert.trans ?_
    constructor
    · rintro (heq | ⟨hmem, -⟩)
      · obtain ⟨rfl, rfl⟩ := Prod.mk.inj heq
        exact ⟨_, List.mem_append_right _ (List.mem_singleton_self _), rfl, rfl⟩
      · obtain ⟨other, hother, heq⟩ := (hb.chunks key hash).mp hmem
        exact ⟨other, List.mem_append_left _ hother, heq⟩
    · rintro ⟨other, hother, rfl, rfl⟩
      rcases List.mem_append.mp hother with hother | hother
      · have hmem := (hb.chunks _ _).mpr ⟨other, hother, rfl, rfl⟩
        refine .inr ⟨hmem, fun hkey => ?_⟩
        have hkey : (other.partition, other.chunkId) = (chunk.partition, chunk.chunkId) := hkey
        rw [hkey] at hmem
        exact hfree _ hmem
      · rw [List.mem_singleton.mp hother]
        exact .inl rfl
  · show Gathers _ _ _ _ (s.record config sha256 chunk updates).eventHashes
    rw [IncrementalEvidenceState.record, foldl_recordEvent_eventHashes]
    refine gathers_upsert hb.hashes hnodup (fun e he => ⟨(hnew e he).1, ?_⟩) hold
    exact Dict.not_mem_of_find (hnew e he).2
  · show Gathers _ _ _ _ (s.record config sha256 chunk updates).eventsByIdentity
    rw [IncrementalEvidenceState.record, foldl_recordEvent_eventsByIdentity, selectorChunks_snoc]
    by_cases hselector : config.isSelectorPartition chunk.partition = true
    · rw [if_pos hselector, if_pos hselector]
      refine gathers_upsert hb.events hnodup (fun e he => ⟨(hnew e he).1, fun e' hmem => ?_⟩)
        fun e he hnot => ?_
      · -- What is under the identity of a buffered Event has a hash there.
        obtain ⟨other, hother, i, hi, hkey, -⟩ := (hb.events _ _).mp hmem
        refine Dict.not_mem_of_find (hnew e he).2 (canonicalEventSha256 sha256 i) ?_
        exact (hb.hashes _ _).mpr ⟨other, (List.mem_filter.mp hother).1, i, hi, hkey, rfl⟩
      · obtain ⟨other, hother, i, hi, hkey, hhash⟩ := (hb.hashes _ _).mp (hold e he hnot)
        obtain rfl : i = e := CanonicalPayload.event.inj (hinj hhash)
        refine (hb.events _ _).mpr ⟨other, List.mem_filter.mpr ⟨hother, ?_⟩, i, hi, hkey, rfl⟩
        rw [(Prod.mk.inj hkey).1]
        exact hselector
    · rw [if_neg hselector, if_neg hselector]
      exact hb.events

/-- A chunk that is known was accepted. -/
theorem Buffers.mem_of_known (hb : Buffers config sha256 s accepted)
    (hinj : Function.Injective sha256) (h : s.isKnownChunk sha256 chunk = .ok true) :
    chunk.toR1EventChunkPayload ∈ accepted := by
  rw [IncrementalEvidenceState.isKnownChunk] at h
  cases hfind : s.chunkHashes.find (chunk.partition, chunk.chunkId) with
  | none =>
    rw [hfind] at h
    exact absurd h (by simp)
  | some existing =>
    rw [hfind] at h
    have hsame := not_not.mp (raiseIf_bind_eq_ok.mp h).1
    obtain ⟨other, hother, -, hhash⟩ := (hb.chunks _ _).mp (Dict.find_eq_some.mp hfind)
    rw [hsame] at hhash
    rwa [← CanonicalPayload.chunk.inj (hinj hhash)]

/-- A chunk that is known is held already. -/
theorem Buffers.known (hb : Buffers config sha256 s accepted) (hinj : Function.Injective sha256)
    (h : s.isKnownChunk sha256 chunk = .ok true) :
    Buffers config sha256 s (accepted ++ [chunk.toR1EventChunkPayload]) := by
  have hmem := hb.mem_of_known hinj h
  refine ⟨fun key hash => ?_, ?_, ?_⟩
  · rw [hb.chunks]
    constructor
    · rintro ⟨other, hother, heq⟩
      exact ⟨other, List.mem_append_left _ hother, heq⟩
    · rintro ⟨other, hother, heq⟩
      rcases List.mem_append.mp hother with hother | hother
      · exact ⟨other, hother, heq⟩
      · rw [List.mem_singleton.mp hother] at heq
        exact ⟨_, hmem, heq⟩
  · exact hb.hashes.snoc_of_mem fun e he => (hb.hashes _ _).mpr ⟨_, hmem, e, he, rfl, rfl⟩
  · rw [selectorChunks_snoc]
    by_cases hselector : config.isSelectorPartition chunk.partition = true
    · rw [if_pos hselector]
      refine hb.events.snoc_of_mem fun e he => ?_
      exact (hb.events _ _).mpr ⟨_, List.mem_filter.mpr ⟨hmem, hselector⟩, e, he, rfl, rfl⟩
    · rw [if_neg hselector]
      exact hb.events

end Record

/-! ## Runs -/

/-- A call with what it returned or raised. -/
abbrev Answered (D S : Type) :=
  IncrementalCall D S × Except PyError (Option (IncrementalEvidenceSnapshot D))

/-- The chunk of a call that accepted it. -/
def acceptedChunk? : Answered D S → Option R1EventChunkPayload
  | (.acceptChunk chunk _, .ok _) => some chunk.toR1EventChunkPayload
  | _ => none

/-- The chunks that were accepted, in their order. -/
def acceptedChunks (t : List (Answered D S)) : List R1EventChunkPayload := t.filterMap acceptedChunk?

theorem acceptedChunks_snoc (t : List (Answered D S)) (a : Answered D S) :
    acceptedChunks (t ++ [a]) = acceptedChunks t ++ (acceptedChunk? a).toList := by
  rw [acceptedChunks, List.filterMap_append]
  cases h : acceptedChunk? a with
  | none => simp [h, acceptedChunks]
  | some chunk => simp [h, acceptedChunks]

section Runs

variable [DecidableEq D] {sink : DeadLetterSink S} {m : Machine D S}

/-- The chunks and the buffered Events. -/
def IncrementalEvidenceState.tables (s : IncrementalEvidenceState D) :=
  (s.chunkHashes, s.chunkSequenceIdentities, s.chunksByIdentity, s.eventHashes, s.eventsByIdentity)

omit [DecidableEq D] in
theorem tables_congr (h : s'.inputs = s.inputs) : s'.tables = s.tables := by
  simp only [IncrementalEvidenceState.inputs, Prod.mk.injEq] at h
  obtain ⟨hchunks, hsequences, hidentities, hhashes, hevents, -⟩ := h
  simp only [IncrementalEvidenceState.tables, hchunks, hsequences, hidentities, hhashes, hevents]

variable (m) in
/-- One call accepts a chunk, which is known or recorded, or it leaves the tables alone. -/
theorem step_tables (call : IncrementalCall D S) :
    let answer := step config casefold uuid5 closeSha256 sha256 sink m call
    (∃ chunk : R1EventChunk D,
      acceptedChunk? (call, answer.2) = some chunk.toR1EventChunkPayload ∧
        (answer.1.evidence = m.evidence ∧ m.evidence.isKnownChunk sha256 chunk = .ok true ∨
          Records config sha256 m.evidence answer.1.evidence chunk)) ∨
      acceptedChunk? (call, answer.2) = none ∧ answer.1.evidence.tables = m.evidence.tables := by
  have hsame : ∀ m' : Machine D S, m'.evidence = m.evidence →
      m'.evidence.tables = m.evidence.tables := fun m' heq => by rw [heq]
  have hfails : ∀ m' : Machine D S, Fails m m' → m'.evidence.tables = m.evidence.tables :=
    fun m' h => tables_congr h.fails.1
  dsimp only
  cases call with
  | acceptChunk chunk now =>
    obtain ⟨hok, herror⟩ := @step_spec D S m _ config casefold uuid5 closeSha256 sha256 sink
      (.acceptChunk chunk now) _ rfl _ _ (acceptChunk_spec sink now chunk)
    cases hanswer : (step config casefold uuid5 closeSha256 sha256 sink m
        (.acceptChunk chunk now)).2 with
    | ok a =>
      obtain ⟨-, hchunk⟩ := hok a hanswer
      exact .inl ⟨chunk, rfl, hchunk⟩
    | error e => exact .inr ⟨rfl, hsame _ (herror e hanswer)⟩
  | acceptRunClosed runClosed =>
    refine .inr ⟨rfl, ?_⟩
    refine step_state rfl (I := fun m' => m'.evidence.tables = m.evidence.tables) ?_
    refine wp_mono (acceptRunClosed_spec runClosed) (fun _ m' h => ?_) fun _ m' h => hsame m' h
    rcases h with heq | ⟨-, -, snapshot, heq⟩
    · exact hsame m' heq
    · rw [heq]
      rfl
  | acceptVerifiedBoundary boundary =>
    refine .inr ⟨rfl, ?_⟩
    refine step_state rfl (I := fun m' => m'.evidence.tables = m.evidence.tables) ?_
    exact wp_mono (acceptVerifiedBoundary_refused boundary) (fun _ _ h => h.elim) fun _ m' h =>
      hsame m' (congrArg Machine.evidence h)
  | acceptVerifiedCloseProof args clock =>
    refine .inr ⟨rfl, ?_⟩
    refine step_state rfl (I := fun m' => m'.evidence.tables = m.evidence.tables) ?_
    refine wp_mono (acceptVerifiedCloseProof_spec clock) (fun _ m' h => ?_) fun _ m' h => ?_
    · rcases h with heq | hfailed | ⟨-, hinputs, -⟩
      · exact hsame m' heq
      · exact hfails m' hfailed
      · exact tables_congr hinputs
    · rcases h with heq | hfailed | ⟨-, hinputs, -⟩
      · exact hsame m' heq
      · exact hfails m' hfailed
      · exact tables_congr hinputs
  | finalizeAtRunEnd runEnd =>
    refine .inr ⟨rfl, ?_⟩
    refine step_state rfl (I := fun m' => m'.evidence.tables = m.evidence.tables) ?_
    refine wp_mono (finalizeAtRunEnd_spec runEnd) (fun _ m' h => ?_) fun _ m' h => ?_
    · rcases h with heq | hfailed | ⟨-, hinputs, -⟩
      · exact hsame m' heq
      · exact hfails m' hfailed
      · exact tables_congr hinputs
    · exact h.elim (hsame m') (hfails m')
  | moveIngress ingress => exact .inr ⟨rfl, rfl⟩

variable (config casefold uuid5 closeSha256 sha256 sink m) in
/-- What the tables hold of the accepted chunks is kept by a call, where a chunk that is accepted
keeps it. -/
theorem step_accepts {P : IncrementalEvidenceState D → List R1EventChunkPayload → Prop}
    (hcongr : ∀ {s s' accepted}, P s accepted → s'.tables = s.tables → P s' accepted)
    (hknown : ∀ {s accepted} {chunk : R1EventChunk D}, P s accepted →
      s.isKnownChunk sha256 chunk = .ok true → P s (accepted ++ [chunk.toR1EventChunkPayload]))
    (hrecord : ∀ {s s' accepted} {chunk : R1EventChunk D}, P s accepted →
      Records config sha256 s s' chunk → P s' (accepted ++ [chunk.toR1EventChunkPayload]))
    (call : IncrementalCall D S) {t : List (Answered D S)} (h : P m.evidence (acceptedChunks t)) :
    let answer := step config casefold uuid5 closeSha256 sha256 sink m call
    P answer.1.evidence (acceptedChunks (t ++ [(call, answer.2)])) := by
  dsimp only
  rw [acceptedChunks_snoc]
  rcases step_tables m call with ⟨chunk, haccepted, ⟨heq, hisKnown⟩ | hrecords⟩ | ⟨hnone, htables⟩
  · rw [haccepted, heq]
    exact hknown h hisKnown
  · rw [haccepted]
    exact hrecord h hrecords
  · rw [hnone, Option.toList_none, List.append_nil]
    exact hcongr h htables

omit [DecidableEq D] in
theorem Buffers.congr (hb : Buffers config sha256 s accepted) (h : s'.tables = s.tables) :
    Buffers config sha256 s' accepted := by
  simp only [IncrementalEvidenceState.tables, Prod.mk.injEq] at h
  obtain ⟨hchunks, -, -, hhashes, hevents⟩ := h
  refine ⟨?_, ?_, ?_⟩
  · rw [hchunks]
    exact hb.chunks
  · rw [hhashes]
    exact hb.hashes
  · rw [hevents]
    exact hb.events

omit [DecidableEq D] in
theorem buffers_init (h : IncrementalEvidenceState.init config = .ok s) :
    Buffers config sha256 s [] := by
  obtain ⟨snapshot, -, hs⟩ := Except.bind_eq_ok.mp h
  obtain rfl := Except.pure_eq_ok.mp hs
  refine ⟨fun key hash => ?_, gathers_empty _ _ _, gathers_empty _ _ _⟩
  constructor
  · exact fun hmem => absurd hmem (Table.not_mem_empty _)
  · rintro ⟨chunk, hchunk, -⟩
    exact absurd hchunk (by simp)

variable (casefold uuid5 closeSha256 sink) in
/-- Whatever calls come, the state holds the Events of the accepted chunks. -/
theorem buffers_after (hinj : Function.Injective sha256)
    (hinit : IncrementalEvidenceState.init config = .ok s) (ingress : IngressState D S)
    (calls : List (IncrementalCall D S)) :
    Buffers config sha256
      (after (step config casefold uuid5 closeSha256 sha256 sink) ⟨s, ingress⟩ calls).evidence
      (acceptedChunks (trace (step config casefold uuid5 closeSha256 sha256 sink) ⟨s, ingress⟩
        calls)) := by
  refine run_trace_induction _ (P := fun (m : Machine D S) t =>
    Buffers config sha256 m.evidence (acceptedChunks t)) (buffers_init hinit) ?_ calls
  exact fun m t call hb =>
    step_accepts (P := Buffers config sha256) config casefold uuid5 closeSha256 sha256 sink m
      Buffers.congr (fun hb h => hb.known hinj h) (fun hb h => hb.record hinj h) call hb

end Runs

/-! ## Finalized states -/

variable (config) in
/-- An Event that is finalized: one of the accepted chunks, up to the boundary where the run end
is it. -/
def IsFinalized (s : IncrementalEvidenceState D) (accepted : List R1EventChunkPayload)
    (e : NormalizedEvent) : Prop :=
  (∃ chunk ∈ config.selectorChunks accepted, e ∈ chunk.events) ∧
    (s.snapshot.closeMode = some .authoritativeRunEndFallback →
      ∀ boundaryAt ∈ s.snapshot.candidateBoundaryAt, e.timestamp ≤ boundaryAt)

theorem mem_orderedEvents (hb : Buffers config sha256 s accepted) {e : NormalizedEvent} :
    e ∈ s.orderedEvents ↔ ∃ chunk ∈ config.selectorChunks accepted, e ∈ chunk.events := by
  rw [IncrementalEvidenceState.orderedEvents, List.mem_map]
  constructor
  · rintro ⟨item, hitem, rfl⟩
    obtain ⟨chunk, hchunk, e, he, -, heq⟩ := (hb.events item.1 item.2).mp (mem_sortedBy.mp hitem)
    exact ⟨chunk, hchunk, heq ▸ he⟩
  · rintro ⟨chunk, hchunk, he⟩
    have hmem := (hb.events _ _).mpr ⟨chunk, hchunk, e, he, rfl, rfl⟩
    exact ⟨(eventIdentity chunk e, e), mem_sortedBy.mpr hmem, rfl⟩

/-- The Events that a final state was finalized with. -/
theorem mem_finalizedEvents (hb : Buffers config sha256 s accepted) {given : FinalizeArguments}
    (h : Final config casefold uuid5 closeSha256 s given) {e : NormalizedEvent} :
    e ∈ s.finalizedEvents given.eventCutoff ↔ IsFinalized config s accepted e := by
  obtain ⟨availableAt, result, hissues⟩ := h.issues
  obtain ⟨availability, -, hsnapshot⟩ := hissues.issued
  rw [IsFinalized, ← mem_orderedEvents hb, hsnapshot]
  cases h.finalizedBy with
  | runEnd runEnd =>
    show e ∈ s.eligibleEvents runEnd ↔ _
    rw [IncrementalEvidenceState.eligibleEvents, List.mem_filter]
    simp [finalizedSnapshot, runEndFinalization]
  | proof clock hproof hclose hfrontier =>
    show e ∈ s.orderedEvents ↔ _
    simp [finalizedSnapshot, proofFinalization]

/-- A batch with a selection has no Event twice. -/
theorem nodup_of_selected {events : List NormalizedEvent} {result : R1SelectedEvidencePipelineResult}
    (hrun : runR1EvidencePipelineWithSelector casefold uuid5 events config.selectorPolicy
      config.approvedPolicy (some (PyDatetime.utcMillis config.runStart)) = .ok result)
    (hselected : result.selectorResult.selection ≠ none) : events.Nodup := by
  rw [pipeline_eq] at hrun
  cases hselect : selectLineage config.selectorPolicy (some (config.runStart * 1000)) events with
  | error diagnostic =>
    rw [hselect] at hrun
    obtain rfl := Except.ok.inj hrun
    exact absurd rfl hselected
  | ok selected => exact List.Nodup.of_map _ (selectedFrom_of_ok hselect).scope.eventIds_nodup

/-- What a final state issued is what the pipeline gives for its Events in any order. -/
theorem Final.pipeline_batch {given : FinalizeArguments}
    (h : Final config casefold uuid5 closeSha256 s given) (hb : Buffers config sha256 s accepted)
    {batch : List NormalizedEvent} (hnodup : batch.Nodup)
    (hmem : ∀ e, e ∈ batch ↔ IsFinalized config s accepted e) :
    runR1EvidencePipelineWithSelector casefold uuid5 batch config.selectorPolicy config.approvedPolicy
        (some (PyDatetime.utcMillis config.runStart)) =
      .ok ⟨s.snapshot.evidences, s.snapshot.selectorResult, s.snapshot.lineageInput,
        s.snapshot.extractionDiagnostics⟩ := by
  obtain ⟨availableAt, result, hissues⟩ := h.issues
  obtain ⟨availability, -, hsnapshot⟩ := hissues.issued
  have hevents := nodup_of_selected hissues.pipeline hissues.selected
  have hperm : batch.Perm (s.finalizedEvents given.eventCutoff) := by
    refine (List.perm_ext_iff_of_nodup hnodup hevents).mpr fun e => ?_
    rw [hmem, mem_finalizedEvents hb h]
  rw [runR1EvidencePipelineWithSelector_perm hperm, hissues.pipeline, hsnapshot]
  congr 1
  obtain ⟨evidences, selectorResult, lineageInput, diagnostics⟩ := result
  have hdiagnostics : diagnostics = [] := hissues.undiagnosed
  rw [hdiagnostics]
  rfl

/-- Final states of the same Events issued what one run of the pipeline gives. -/
theorem Final.same_pipeline {accepted' : List R1EventChunkPayload} {given given' : FinalizeArguments}
    (h : Final config casefold uuid5 closeSha256 s given) (hb : Buffers config sha256 s accepted)
    (h' : Final config casefold uuid5 closeSha256 s' given') (hb' : Buffers config sha256 s' accepted')
    (hsame : ∀ e, IsFinalized config s accepted e ↔ IsFinalized config s' accepted' e) :
    (⟨s.snapshot.evidences, s.snapshot.selectorResult, s.snapshot.lineageInput,
        s.snapshot.extractionDiagnostics⟩ : R1SelectedEvidencePipelineResult) =
      ⟨s'.snapshot.evidences, s'.snapshot.selectorResult, s'.snapshot.lineageInput,
        s'.snapshot.extractionDiagnostics⟩ := by
  obtain ⟨availableAt, result, hissues⟩ := h.issues
  -- The Events of the first state are a batch for both.
  have hnodup := nodup_of_selected hissues.pipeline hissues.selected
  have hrun := h.pipeline_batch hb hnodup fun e => mem_finalizedEvents hb h
  have hrun' := h'.pipeline_batch hb' hnodup fun e => (mem_finalizedEvents hb h).trans (hsame e)
  exact Except.ok.inj (hrun.symm.trans hrun')

/-- A final state has the mode and the diagnostics of its finalization. -/
theorem Final.mode {given : FinalizeArguments} (h : Final config casefold uuid5 closeSha256 s given) :
    s.snapshot.closeMode = some given.closeMode ∧ s.snapshot.diagnostics = given.diagnostics := by
  obtain ⟨availableAt, result, hissues⟩ := h.issues
  obtain ⟨availability, -, hsnapshot⟩ := hissues.issued
  rw [hsnapshot]
  exact ⟨rfl, rfl⟩

/-- Finalizations in one mode say the same. -/
theorem FinalizedBy.diagnostics_eq {given given' : FinalizeArguments} (h : FinalizedBy s given)
    (h' : FinalizedBy s' given') (hmode : given.closeMode = given'.closeMode) :
    given.diagnostics = given'.diagnostics := by
  cases h with
  | runEnd runEnd =>
    cases h' with
    | runEnd runEnd' => rfl
    | proof clock' hproof' hclose' hfrontier' => cases hmode
  | proof clock hproof hclose hfrontier =>
    cases h' with
    | runEnd runEnd' => cases hmode
    | proof clock' hproof' hclose' hfrontier' => rfl

/-- The Events of a batch that are finalized: up to the run end where that is the boundary. -/
def IncrementalEvidenceSnapshot.restrict (snapshot : IncrementalEvidenceSnapshot D)
    (batch : List NormalizedEvent) : List NormalizedEvent :=
  match snapshot.closeMode, snapshot.candidateBoundaryAt with
  | some .authoritativeRunEndFallback, some runEnd => batch.filter fun e => e.timestamp ≤ runEnd
  | _, _ => batch

theorem mem_restrict {snapshot : IncrementalEvidenceSnapshot D} {batch : List NormalizedEvent}
    {e : NormalizedEvent} : e ∈ snapshot.restrict batch ↔ e ∈ batch ∧
      (snapshot.closeMode = some .authoritativeRunEndFallback →
        ∀ boundaryAt ∈ snapshot.candidateBoundaryAt, e.timestamp ≤ boundaryAt) := by
  unfold IncrementalEvidenceSnapshot.restrict
  split
  · next runEnd hmode hboundary =>
    simp [hmode, hboundary, List.mem_filter]
  · next hother =>
    refine ⟨fun he => ⟨he, fun hmode boundaryAt hboundary => ?_⟩, And.left⟩
    exact (hother boundaryAt hmode hboundary).elim

theorem nodup_restrict {snapshot : IncrementalEvidenceSnapshot D} {batch : List NormalizedEvent}
    (h : batch.Nodup) : (snapshot.restrict batch).Nodup := by
  unfold IncrementalEvidenceSnapshot.restrict
  split
  · exact h.filter _
  · exact h

variable (config) in
/-- An Event that the accepted chunks of the selector partitions carry. -/
def Carries (accepted : List R1EventChunkPayload) (e : NormalizedEvent) : Prop :=
  ∃ chunk ∈ config.selectorChunks accepted, e ∈ chunk.events

section Runs

variable [DecidableEq D] (casefold : String → String) (uuid5 : List IdentityPart → String)
  (closeSha256 : ClosePayload D → D) (sink : DeadLetterSink S)

/-- However calls have cut the Events into chunks, in whichever order and how often they delivered
these: a state that they finalized has the selection, the Evidence and the lineage that the
pipeline gives for all the Events at once, up to the run end where that is the boundary. -/
theorem incrementalCalls_eq_batch (hinj : Function.Injective sha256)
    (hinit : IncrementalEvidenceState.init config = .ok s) (ingress : IngressState D S)
    (calls : List (IncrementalCall D S))
    (hfinal : (after (step config casefold uuid5 closeSha256 sha256 sink) ⟨s, ingress⟩
      calls).evidence.snapshot.status = .finalized)
    (batch : List NormalizedEvent) (hnodup : batch.Nodup)
    (hmem : ∀ e, e ∈ batch ↔ IsFinalized config
      (after (step config casefold uuid5 closeSha256 sha256 sink) ⟨s, ingress⟩ calls).evidence
      (acceptedChunks (trace (step config casefold uuid5 closeSha256 sha256 sink) ⟨s, ingress⟩
        calls)) e) :
    let snapshot := (after (step config casefold uuid5 closeSha256 sha256 sink) ⟨s, ingress⟩
      calls).evidence.snapshot
    runR1EvidencePipelineWithSelector casefold uuid5 batch config.selectorPolicy config.approvedPolicy
        (some (PyDatetime.utcMillis config.runStart)) =
      .ok ⟨snapshot.evidences, snapshot.selectorResult, snapshot.lineageInput,
        snapshot.extractionDiagnostics⟩ := by
  have hsound := sound_after config casefold uuid5 closeSha256 sha256 sink hinit ingress calls
  obtain ⟨given, hgiven⟩ := hsound.final hfinal
  exact hgiven.pipeline_batch (buffers_after casefold uuid5 closeSha256 sink hinj hinit ingress calls)
    hnodup hmem

/-- Two runs of calls that finalize the same Events give the same selection, Evidence and lineage,
whatever the chunks, their order and their redelivery. -/
theorem incrementalCalls_orderFree (hinj : Function.Injective sha256)
    (hinit : IncrementalEvidenceState.init config = .ok s) (ingress ingress' : IngressState D S)
    (calls calls' : List (IncrementalCall D S)) :
    let step := step config casefold uuid5 closeSha256 sha256 sink
    let s₁ := (after step ⟨s, ingress⟩ calls).evidence
    let s₂ := (after step ⟨s, ingress'⟩ calls').evidence
    s₁.snapshot.status = .finalized → s₂.snapshot.status = .finalized →
      (∀ e, IsFinalized config s₁ (acceptedChunks (trace step ⟨s, ingress⟩ calls)) e ↔
        IsFinalized config s₂ (acceptedChunks (trace step ⟨s, ingress'⟩ calls')) e) →
      s₁.snapshot.selectorResult = s₂.snapshot.selectorResult ∧
        s₁.snapshot.evidences = s₂.snapshot.evidences ∧
        s₁.snapshot.lineageInput = s₂.snapshot.lineageInput := by
  intro step s₁ s₂ hfinal hfinal' hsame
  have hsound := sound_after config casefold uuid5 closeSha256 sha256 sink hinit ingress calls
  have hsound' := sound_after config casefold uuid5 closeSha256 sha256 sink hinit ingress' calls'
  have hb := buffers_after casefold uuid5 closeSha256 sink hinj hinit ingress calls
  have hb' := buffers_after casefold uuid5 closeSha256 sink hinj hinit ingress' calls'
  obtain ⟨given, hgiven⟩ := hsound.final hfinal
  obtain ⟨given', hgiven'⟩ := hsound'.final hfinal'
  have heq := hgiven.same_pipeline hb hgiven' hb' hsame
  exact ⟨congrArg (·.selectorResult) heq, congrArg (·.evidences) heq, congrArg (·.lineageInput) heq⟩

/-- Two runs of calls that carry the same Events, in whatever chunks and order and however often, and
that are finalized in one mode at one boundary: they agree on the selection, the Evidence and the
diagnostics, and these are those of one batch of all the Events, restricted to the run end where
that is the boundary. -/
theorem incrementalCalls_chunkingFree (hinj : Function.Injective sha256)
    (hinit : IncrementalEvidenceState.init config = .ok s) (ingress ingress' : IngressState D S)
    (calls calls' : List (IncrementalCall D S)) :
    let step := step config casefold uuid5 closeSha256 sha256 sink
    let snapshot := (after step ⟨s, ingress⟩ calls).evidence.snapshot
    let snapshot' := (after step ⟨s, ingress'⟩ calls').evidence.snapshot
    let carried := Carries config (acceptedChunks (trace step ⟨s, ingress⟩ calls))
    let carried' := Carries config (acceptedChunks (trace step ⟨s, ingress'⟩ calls'))
    snapshot.status = .finalized → snapshot'.status = .finalized → (∀ e, carried e ↔ carried' e) →
      snapshot.candidateBoundaryAt = snapshot'.candidateBoundaryAt →
      snapshot.closeMode = snapshot'.closeMode →
      (snapshot.selectorResult = snapshot'.selectorResult ∧ snapshot.evidences = snapshot'.evidences ∧
        snapshot.extractionDiagnostics = snapshot'.extractionDiagnostics ∧
        snapshot.diagnostics = snapshot'.diagnostics) ∧
      ∀ batch : List NormalizedEvent, batch.Nodup → (∀ e, e ∈ batch ↔ carried e) →
        runR1EvidencePipelineWithSelector casefold uuid5 (snapshot.restrict batch)
            config.selectorPolicy config.approvedPolicy (some (PyDatetime.utcMillis config.runStart)) =
          .ok ⟨snapshot.evidences, snapshot.selectorResult, snapshot.lineageInput,
            snapshot.extractionDiagnostics⟩ := by
  intro step snapshot snapshot' carried carried' hfinal hfinal' hsame hboundary hmode
  have hsound := sound_after config casefold uuid5 closeSha256 sha256 sink hinit ingress calls
  have hsound' := sound_after config casefold uuid5 closeSha256 sha256 sink hinit ingress' calls'
  have hb := buffers_after casefold uuid5 closeSha256 sink hinj hinit ingress calls
  have hb' := buffers_after casefold uuid5 closeSha256 sink hinj hinit ingress' calls'
  obtain ⟨given, hgiven⟩ := hsound.final hfinal
  obtain ⟨given', hgiven'⟩ := hsound'.final hfinal'
  have heq := hgiven.same_pipeline hb hgiven' hb' fun e => by
    rw [IsFinalized, IsFinalized, show (after step ⟨s, ingress⟩ calls).evidence.snapshot.closeMode = _
      from hmode, show (after step ⟨s, ingress⟩ calls).evidence.snapshot.candidateBoundaryAt = _
      from hboundary]
    exact and_congr_left' (hsame e)
  have hmodes : given.closeMode = given'.closeMode :=
    Option.some.inj (hgiven.mode.1.symm.trans (hmode.trans hgiven'.mode.1))
  refine ⟨⟨congrArg (·.selectorResult) heq, congrArg (·.evidences) heq,
    congrArg (·.extractionDiagnostics) heq, ?_⟩, fun batch hnodup hmem => ?_⟩
  · exact hgiven.mode.2.trans ((hgiven.finalizedBy.diagnostics_eq hgiven'.finalizedBy hmodes).trans
      hgiven'.mode.2.symm)
  · refine hgiven.pipeline_batch hb (nodup_restrict hnodup) fun e => ?_
    rw [mem_restrict, hmem]
    exact Iff.rfl

end Runs

theorem isFinalized_iff {s : IncrementalEvidenceState D} {e : NormalizedEvent} :
    IsFinalized config s accepted e ↔
      e ∈ (config.selectorChunks accepted).flatMap (·.events) ∧
        (s.snapshot.closeMode = some .authoritativeRunEndFallback →
          ∀ boundaryAt ∈ s.snapshot.candidateBoundaryAt, e.timestamp ≤ boundaryAt) := by
  rw [IsFinalized, List.mem_flatMap]

namespace Sample

open Stream.Sample (partition)

theorem secondId_ne_empty : "chunk-2" ≠ "" := by decide

theorem secondId_not_padded : isPadded "chunk-2" = false := by decide

theorem launched_scope : ∀ e ∈ [launched], e.runId = partition.runId.val ∧
    e.hostId = partition.hostId.val ∧ e.source = partition.source.val := by decide

theorem connected_scope : ∀ e ∈ [connected], e.runId = partition.runId.val ∧
    e.hostId = partition.hostId.val ∧ e.source = partition.source.val := by decide

/-- The start of the shell alone. -/
def firstChunk : R1EventChunk CanonicalPayload := chunkOf {
  chunkId := ⟨"chunk-1", chunkId_ne_empty, chunkId_not_padded⟩
  partition := partition
  chunkSequence := 1
  events := [launched]
  chunkSequence_pos := Nat.one_pos
  events_ne_nil := List.cons_ne_nil _ _
  eventIds_nodup := List.nodup_singleton _
  events_scope := launched_scope }

/-- The connection of the shell alone. -/
def secondChunk : R1EventChunk CanonicalPayload := chunkOf {
  chunkId := ⟨"chunk-2", secondId_ne_empty, secondId_not_padded⟩
  partition := partition
  chunkSequence := 2
  events := [connected]
  chunkSequence_pos := Nat.two_pos
  events_ne_nil := List.cons_ne_nil _ _
  eventIds_nodup := List.nodup_singleton _
  events_scope := connected_scope }

/-- Two chunks, the second of them first, and once more. -/
def splitCalls : List (IncrementalCall CanonicalPayload Unit) :=
  [.acceptChunk secondChunk clock, .acceptChunk firstChunk clock, .acceptChunk secondChunk clock,
    .acceptRunClosed Stream.Sample.close, .finalizeAtRunEnd (PyDatetime.utcMillis 2000)]

/-- What the state holds after calls, with their answers. -/
abbrev ended (calls : List (IncrementalCall CanonicalPayload Unit)) :
    IncrementalEvidenceState CanonicalPayload :=
  (after payloadStep ⟨gathering, ⟨.empty, ()⟩⟩ calls).evidence

abbrev answered (calls : List (IncrementalCall CanonicalPayload Unit)) :
    List R1EventChunkPayload :=
  acceptedChunks (trace payloadStep ⟨gathering, ⟨.empty, ()⟩⟩ calls)

/-- Both runs are finalized up to the run end, with both Events. -/
theorem both_ended : (ended splitCalls).snapshot.status = .finalized ∧
    ((ended wholeCalls).snapshot.candidateBoundaryAt = some 2000 ∧
      (ended splitCalls).snapshot.candidateBoundaryAt = some 2000 ∧
      (ended wholeCalls).snapshot.closeMode = (ended splitCalls).snapshot.closeMode) ∧
    (sampleConfig.selectorChunks (answered wholeCalls)).flatMap (·.events) =
      [launched, connected] ∧
    (sampleConfig.selectorChunks (answered splitCalls)).flatMap (·.events) =
      [connected, launched, connected] := by
  decide +kernel

/-- The run end is after both Events. -/
theorem whole_isFinalized (e : NormalizedEvent) :
    e ∈ [launched, connected] ↔ IsFinalized sampleConfig (ended wholeCalls) (answered wholeCalls) e := by
  obtain ⟨-, ⟨hboundary, -⟩, hevents, -⟩ := both_ended
  rw [isFinalized_iff, hevents, hboundary]
  constructor
  · intro he
    refine ⟨he, fun _ boundaryAt hboundary => ?_⟩
    obtain rfl := Option.some.inj hboundary
    have hbefore : ∀ e ∈ [launched, connected], e.timestamp ≤ 2000 := by decide
    exact hbefore e he
  · exact And.left

/-- Both runs carry the two Events. -/
theorem carries_whole (e : NormalizedEvent) :
    e ∈ [launched, connected] ↔ Carries sampleConfig (answered wholeCalls) e := by
  obtain ⟨-, -, hevents, -⟩ := both_ended
  rw [Carries, ← List.mem_flatMap, hevents]

theorem carries_split (e : NormalizedEvent) :
    e ∈ [launched, connected] ↔ Carries sampleConfig (answered splitCalls) e := by
  obtain ⟨-, -, -, hevents⟩ := both_ended
  rw [Carries, ← List.mem_flatMap, hevents]
  have hmem : connected ∈ [launched, connected] :=
    List.mem_cons_of_mem _ (List.mem_singleton_self _)
  refine ⟨List.mem_cons_of_mem _, fun he => ?_⟩
  rcases List.mem_cons.mp he with rfl | he
  · exact hmem
  · exact he

theorem whole_iff_split (e : NormalizedEvent) :
    IsFinalized sampleConfig (ended wholeCalls) (answered wholeCalls) e ↔
      IsFinalized sampleConfig (ended splitCalls) (answered splitCalls) e := by
  obtain ⟨-, ⟨hwhole, hsplit, hmode⟩, -⟩ := both_ended
  rw [IsFinalized, IsFinalized, hmode, hwhole, hsplit]
  exact and_congr_left' ((carries_whole e).symm.trans (carries_split e))

theorem reconnectedId_ne_empty : "evt-3" ≠ "" := by decide

theorem reconnectedId_ne_dot : "evt-3" ≠ "." ∧ "evt-3" ≠ ".." := by decide

/-- The shell connects again, after the boundary. -/
def reconnected : NormalizedEvent :=
  processEvent "evt-3" "network_connection" 2500 reconnectedId_ne_empty reconnectedId_ne_dot

theorem longIds_nodup : ([launched, connected, reconnected].map (·.eventId)).Nodup := by decide

theorem long_scope : ∀ e ∈ [launched, connected, reconnected], e.runId = partition.runId.val ∧
    e.hostId = partition.hostId.val ∧ e.source = partition.source.val := by decide

/-- The start of the shell and both connections, in one chunk. -/
def longPayload : R1EventChunkPayload :=
  { wholePayload with
    events := [launched, connected, reconnected]
    events_ne_nil := List.cons_ne_nil _ _
    eventIds_nodup := longIds_nodup
    events_scope := long_scope }

/-- `uuid5` on the identities of the deviation and of the two connections. -/
def connectionUuid5 (identity : List IdentityPart) : String :=
  if identity = followOnIdentity "RUN-20260101-001" ["evt-1", "evt-2"] then
    "1b4d4ac8-1178-5ae7-9d5c-bc75077be8d8"
  else if identity = followOnIdentity "RUN-20260101-001" ["evt-1", "evt-3"] then
    "323de1fa-e26c-5f7e-8489-709cd2553b33"
  else "0b6d75a7-8ea1-5867-8006-a0d9e5ca291a"

/-- The snapshot after the chunk, its close and one more call. -/
def endedBy (call : IncrementalCall Seal.Sample.Digest Unit) :
    IncrementalEvidenceSnapshot Seal.Sample.Digest :=
  (after (step sampleConfig Evidence.Sample.lower connectionUuid5 Seal.Sample.closeSha256 Sample.sha256
      Stream.Sample.discard) ⟨initial, ⟨.empty, ()⟩⟩
    [.acceptChunk { longPayload with chunkContentSha256 := .file 1 } clock,
      .acceptRunClosed runClose, call]).evidence.snapshot

end Sample

theorem incrementalCalls_eq_batch_sample :
    runR1EvidencePipelineWithSelector Evidence.Sample.lower Evidence.Sample.sampleUuid5
        [Sample.launched, Sample.connected] Sample.sampleConfig.selectorPolicy
        Sample.sampleConfig.approvedPolicy (some (PyDatetime.utcMillis 0)) =
      .ok ⟨(Sample.ended Sample.wholeCalls).snapshot.evidences,
        (Sample.ended Sample.wholeCalls).snapshot.selectorResult,
        (Sample.ended Sample.wholeCalls).snapshot.lineageInput,
        (Sample.ended Sample.wholeCalls).snapshot.extractionDiagnostics⟩ :=
  incrementalCalls_eq_batch Evidence.Sample.lower Evidence.Sample.sampleUuid5 Sample.unasked
    Stream.Sample.discard Function.injective_id Sample.init_gathering ⟨.empty, ()⟩ Sample.wholeCalls
    Sample.whole_finalized [Sample.launched, Sample.connected] (by decide) Sample.whole_isFinalized

theorem incrementalCalls_orderFree_sample :
    (Sample.ended Sample.wholeCalls).snapshot.selectorResult =
        (Sample.ended Sample.splitCalls).snapshot.selectorResult ∧
      (Sample.ended Sample.wholeCalls).snapshot.evidences =
        (Sample.ended Sample.splitCalls).snapshot.evidences ∧
      (Sample.ended Sample.wholeCalls).snapshot.lineageInput =
        (Sample.ended Sample.splitCalls).snapshot.lineageInput :=
  incrementalCalls_orderFree Evidence.Sample.lower Evidence.Sample.sampleUuid5 Sample.unasked
    Stream.Sample.discard Function.injective_id Sample.init_gathering ⟨.empty, ()⟩ ⟨.empty, ()⟩
    Sample.wholeCalls Sample.splitCalls Sample.whole_finalized Sample.both_ended.1
    Sample.whole_iff_split

/-- One chunk, and two of them out of order and repeated. -/
theorem incrementalCalls_chunkingFree_sample :
    (Sample.ended Sample.wholeCalls).snapshot.evidences =
        (Sample.ended Sample.splitCalls).snapshot.evidences ∧
      ∃ lineageInput, runR1EvidencePipelineWithSelector Evidence.Sample.lower
        Evidence.Sample.sampleUuid5
        ((Sample.ended Sample.wholeCalls).snapshot.restrict [Sample.launched, Sample.connected])
        Sample.sampleConfig.selectorPolicy Sample.sampleConfig.approvedPolicy
        (some (PyDatetime.utcMillis 0)) =
      .ok ⟨(Sample.ended Sample.wholeCalls).snapshot.evidences,
        (Sample.ended Sample.wholeCalls).snapshot.selectorResult, lineageInput,
        (Sample.ended Sample.wholeCalls).snapshot.extractionDiagnostics⟩ := by
  obtain ⟨hfinal, ⟨hwhole, hsplit, hmode⟩, -⟩ := Sample.both_ended
  have hlaw := incrementalCalls_chunkingFree Evidence.Sample.lower Evidence.Sample.sampleUuid5
    Sample.unasked Stream.Sample.discard Function.injective_id Sample.init_gathering ⟨.empty, ()⟩
    ⟨.empty, ()⟩ Sample.wholeCalls Sample.splitCalls Sample.whole_finalized hfinal
    (fun e => (Sample.carries_whole e).symm.trans (Sample.carries_split e))
    (hwhole.trans hsplit.symm) hmode
  exact ⟨hlaw.1.2.1, _, hlaw.2 _ (by decide) Sample.carries_whole⟩

/-- The same chunk and close, finalized at one boundary by the run end and by a close proof: the
run end leaves out the Event after the boundary, and the proof does not. -/
theorem incrementalCalls_chunkingFree_fails :
    let byRunEnd := Sample.endedBy (.finalizeAtRunEnd (PyDatetime.utcMillis 2000))
    let byProof := Sample.endedBy (.acceptVerifiedCloseProof Sample.arguments Sample.clock)
    byRunEnd.status = .finalized ∧ byProof.status = .finalized ∧
      byRunEnd.candidateBoundaryAt = byProof.candidateBoundaryAt ∧
      byRunEnd.evidences.map (·.eventIds) = [["evt-1"], ["evt-1", "evt-2"]] ∧
      byProof.evidences.map (·.eventIds) = [["evt-1"], ["evt-1", "evt-2"], ["evt-1", "evt-3"]] ∧
      byRunEnd.diagnostics ≠ byProof.diagnostics := by
  decide +kernel

end IncidentAwareness.Incremental
