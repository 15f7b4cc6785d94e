import IncidentAwareness.Position.Bounded

/-!
# What a verified snapshot is

`verifySnapshot` compares raw records, the Events of covered chunks and canonical
records by their identities. Where it returns, the three have the same RecordIds,
each once (`verifySnapshot_reconciles`).
-/

namespace IncidentAwareness.Position

open IncidentAwareness.Common IncidentAwareness.Lib IncidentAwareness.Stream

variable {D : Type}

/-! ## Identities -/

/-- Identities of one partition with RecordIds in a bound, each once. -/
structure IdentifiesRecords (p : R1StreamPartition) (lower upper : Nat)
    (identities : List SnapshotIdentity) : Prop where
  nodup : (identities.map (·.recordId)).Nodup
  bounded : ∀ i ∈ identities, (lower : Int) ≤ i.recordId ∧ i.recordId ≤ upper
  partition : ∀ i ∈ identities, i.hostId = p.hostId ∧ i.sourceChannel = p.sourceChannel

theorem recordIdentity_eq_ok {record : RawRecord} {p : R1StreamPartition} {lower upper : Nat}
    {label : String} {i : SnapshotIdentity}
    (h : recordIdentity record p lower upper label = .ok i) :
    record.recordId = some i.recordId ∧ record.eventId = some i.eventId ∧
      ((lower : Int) ≤ i.recordId ∧ i.recordId ≤ upper) ∧
      i.hostId = p.hostId ∧ i.sourceChannel = p.sourceChannel := by
  unfold recordIdentity at h
  cases hrecord : record.recordId with
  | none => simp [hrecord] at h
  | some recordId =>
    cases hevent : record.eventId with
    | none => simp [hrecord, hevent] at h
    | some eventId =>
      simp only [hrecord, hevent, raiseIf_bind_eq_ok] at h
      obtain ⟨-, -, -, hbound, h⟩ := h
      obtain rfl := Except.pure_eq_ok.mp h
      exact ⟨rfl, rfl, not_not.mp hbound, rfl, rfl⟩

theorem uniqueIdentities_eq_ok {identities result : List SnapshotIdentity} {label : String} :
    uniqueIdentities identities label = .ok result ↔
      (identities.map (·.recordId)).Nodup ∧ result = identities := by
  rw [uniqueIdentities, raiseIf_bind_eq_ok, not_not, Except.pure_eq_ok]

/-- Identities that were read of records, one each. -/
theorem identifies_of_mapM {records : List RawRecord} {p : R1StreamPartition} {lower upper : Nat}
    {identities : List SnapshotIdentity} {read : RawRecord → Except PyError SnapshotIdentity}
    (hread : ∀ r i, read r = .ok i → ∃ label, recordIdentity r p lower upper label = .ok i)
    (h : records.mapM read = .ok identities) (hnodup : (identities.map (·.recordId)).Nodup) :
    IdentifiesRecords p lower upper identities ∧
      identities.map (fun i => some i.recordId) = records.map (·.recordId) := by
  have hall : ∀ i ∈ identities, ∃ r label, recordIdentity r p lower upper label = .ok i := by
    intro i hi
    obtain ⟨r, -, hr⟩ := exists_of_mem_mapM h hi
    exact ⟨r, hread r i hr⟩
  refine ⟨⟨hnodup, fun i hi => ?_, fun i hi => ?_⟩, map_of_mapM (fun r i hr => ?_) h⟩
  · obtain ⟨r, label, hr⟩ := hall i hi
    exact (recordIdentity_eq_ok hr).2.2.1
  · obtain ⟨r, label, hr⟩ := hall i hi
    exact (recordIdentity_eq_ok hr).2.2.2
  · obtain ⟨label, hr⟩ := hread r i hr
    exact (recordIdentity_eq_ok hr).1.symm

theorem liveIdentities_eq_ok {segments : List (List RawRecord)} {p : R1StreamPartition}
    {lower upper : Nat} {live : List SnapshotIdentity}
    (h : liveIdentities segments p lower upper = .ok live) :
    IdentifiesRecords p lower upper live ∧
      live.map (fun i => some i.recordId) = segments.flatten.map (·.recordId) := by
  obtain ⟨identities, hidentities, hunique⟩ := Except.bind_eq_ok.mp h
  obtain ⟨hnodup, rfl⟩ := uniqueIdentities_eq_ok.mp hunique
  exact identifies_of_mapM (fun _ _ hr => ⟨_, hr⟩) hidentities hnodup

theorem readCanonicalIdentities_eq_ok {records : List RawRecord} {p : R1StreamPartition}
    {lower upper : Nat} {canonical : List SnapshotIdentity}
    (h : readCanonicalIdentities records p lower upper = .ok canonical) :
    IdentifiesRecords p lower upper canonical ∧
      canonical.map (fun i => some i.recordId) = records.map (·.recordId) := by
  obtain ⟨identities, hidentities, hunique⟩ := Except.bind_eq_ok.mp h
  obtain ⟨hnodup, rfl⟩ := uniqueIdentities_eq_ok.mp hunique
  exact identifies_of_mapM (fun _ _ hr => ⟨_, (raiseIf_bind_eq_ok.mp hr).2⟩) hidentities hnodup

theorem sameElements_eq_true {xs ys : List SnapshotIdentity} :
    sameElements xs ys = true ↔ ∀ i, i ∈ xs ↔ i ∈ ys := by
  simp only [sameElements, Bool.and_eq_true, List.all_eq_true, decide_eq_true_eq]
  exact ⟨fun h i => ⟨h.1 i, h.2 i⟩, fun h => ⟨fun i => (h i).mp, fun i => (h i).mpr⟩⟩

/-- The same identities, each once, in some order. -/
theorem perm_of_sameElements {xs ys : List SnapshotIdentity} (h : sameElements xs ys = true)
    (hxs : xs.Nodup) (hys : ys.Nodup) : xs.Perm ys :=
  (List.perm_ext_iff_of_nodup hxs hys).mpr (sameElements_eq_true.mp h)

/-! ## Covered chunks -/

section Covered

variable {p : R1StreamPartition} {segments : List (List RawRecord)}

/-- An Event's identity has the RecordId that it states. -/
theorem chunkEventIdentity_eq_ok {e : NormalizedEvent} {chunkSequence : Nat} {i : SnapshotIdentity}
    (h : chunkEventIdentity e chunkSequence segments p = .ok i) :
    ∃ n, sourceRecordId e.rawRef.sourceRecordId = .ok n ∧ i.recordId = (n : Int) := by
  obtain ⟨-, h₁⟩ := raiseIf_bind_eq_ok.mp h
  split at h₁
  · cases h₁
  · obtain ⟨-, h₂⟩ := raiseIf_bind_eq_ok.mp h₁
    obtain ⟨n, hn, h₃⟩ := Except.bind_eq_ok.mp h₂
    simp only [raiseIf_bind_eq_ok] at h₃
    obtain ⟨-, -, h₄⟩ := h₃
    obtain rfl := Except.pure_eq_ok.mp h₄
    exact ⟨n, hn, rfl⟩

/-- The identities of Events, without a repetition of those seen before. -/
structure CoversEvents (seen : List SnapshotIdentity) (es : List NormalizedEvent)
    (identities : List SnapshotIdentity) : Prop where
  nodup : seen.Nodup → identities.Nodup
  recordIds : ∃ new, identities = seen ++ new ∧
    es.map (fun e => sourceRecordId e.rawRef.sourceRecordId) =
      new.map fun i => .ok i.recordId.toNat

theorem CoversEvents.nil (seen : List SnapshotIdentity) : CoversEvents seen [] seen :=
  ⟨fun h => h, [], (List.append_nil _).symm, rfl⟩

theorem CoversEvents.append {seen identities result : List SnapshotIdentity}
    {es es' : List NormalizedEvent} (h : CoversEvents seen es identities)
    (h' : CoversEvents identities es' result) : CoversEvents seen (es ++ es') result := by
  obtain ⟨new, rfl, hnew⟩ := h.recordIds
  obtain ⟨new', rfl, hnew'⟩ := h'.recordIds
  refine ⟨fun hseen => h'.nodup (h.nodup hseen), new ++ new', List.append_assoc _ _ _, ?_⟩
  rw [List.map_append, List.map_append, hnew, hnew']

theorem coveredIdentities_eq_ok {chunkSequence : Nat} {seen identities : List SnapshotIdentity}
    {es : List NormalizedEvent}
    (h : coveredIdentities chunkSequence segments p seen es = .ok identities) :
    CoversEvents seen es identities := by
  induction es generalizing seen with
  | nil =>
    obtain rfl := Except.ok.inj h
    exact .nil _
  | cons e es ih =>
    obtain ⟨i, hi, h₁⟩ := Except.bind_eq_ok.mp h
    obtain ⟨hnew, h₂⟩ := raiseIf_bind_eq_ok.mp h₁
    obtain ⟨n, hn, hrecordId⟩ := chunkEventIdentity_eq_ok hi
    have hone : CoversEvents seen [e] (seen ++ [i]) := by
      refine ⟨fun hseen => ?_, [i], rfl, ?_⟩
      · exact List.nodup_append.mpr ⟨hseen, List.nodup_singleton i, by
          intro j hj i' hi' heq
          obtain rfl := List.mem_singleton.mp hi'
          exact hnew (heq ▸ hj)⟩
      · simp [hn, hrecordId]
    exact hone.append (ih h₂)

end Covered

section Chunks

variable [DecidableEq D] {sha : CanonicalPayload → D} {spool : RunSpool D} {p : R1StreamPartition}
  {segments : List (List RawRecord)} {files : List (SpoolFile D × R1EventChunk D)}

theorem verifyChunkFiles_eq_ok {seen : List Nat} {u : Unit}
    (h : verifyChunkFiles sha p seen files = .ok u) :
    (∀ x ∈ files, x.2.partition = p ∧ chunkSha256 sha x.2 = x.2.chunkContentSha256 ∧
      x.2.chunkSequence ∉ seen) ∧ (files.map (·.2.chunkSequence)).Nodup := by
  induction files generalizing seen with
  | nil => exact ⟨fun x hx => absurd hx List.not_mem_nil, List.nodup_nil⟩
  | cons file files ih =>
    obtain ⟨f, c⟩ := file
    simp only [verifyChunkFiles, raiseIf_bind_eq_ok, not_not] at h
    obtain ⟨hpartition, hnew, hdigest, hrest⟩ := h
    obtain ⟨hall, hnodup⟩ := ih hrest
    refine ⟨fun x hx => ?_, ?_⟩
    · rcases List.mem_cons.mp hx with rfl | hx
      · exact ⟨hpartition, hdigest, hnew⟩
      · obtain ⟨hp, hd, hs⟩ := hall x hx
        exact ⟨hp, hd, fun hmem => hs (List.mem_cons_of_mem _ hmem)⟩
    · rw [List.map_cons, List.nodup_cons]
      refine ⟨fun hmem => ?_, hnodup⟩
      obtain ⟨x, hx, hsame⟩ := List.mem_map.mp hmem
      exact (hall x hx).2.2 (hsame ▸ List.mem_cons_self)

/-- A chunk file whose post-commit ack binds its bytes. -/
def Acknowledged (spool : RunSpool D) (f : SpoolFile D) : Prop :=
  ∃ ack, spool.acks.get f.name = some ack ∧ ack.message = f.message

theorem requirePostCommitAck_eq_ok {f : SpoolFile D} {u : Unit}
    (h : requirePostCommitAck spool f = .ok u) : Acknowledged spool f := by
  unfold requirePostCommitAck at h
  cases hack : spool.acks.get f.name with
  | none => simp [hack] at h
  | some ack =>
    rw [hack] at h
    exact ⟨ack, hack, not_not.mp (raiseIf_eq_ok.mp h)⟩

/-- What a delivery records of a covered chunk. -/
def coveredChunk (x : SpoolFile D × R1EventChunk D) : R1CoveredChunk D :=
  ⟨x.2.chunkSequence, x.2.chunkId, x.2.chunkContentSha256⟩

/-- The covered loop goes over one file for each sequence, which has its ack. -/
theorem verifyCovered_eq_ok {seen : List SnapshotIdentity} {sequences : List Nat}
    {result : List (R1CoveredChunk D) × List SnapshotIdentity}
    (h : verifyCovered spool segments p files seen sequences = .ok result) :
    ∃ covered : List (SpoolFile D × R1EventChunk D),
      covered.map (·.2.chunkSequence) = sequences ∧
      (∀ x ∈ covered, x ∈ files ∧ Acknowledged spool x.1) ∧
      result.1 = covered.map coveredChunk ∧
      CoversEvents seen (covered.flatMap (·.2.events)) result.2 := by
  induction sequences generalizing seen result with
  | nil =>
    obtain rfl := Except.ok.inj h
    exact ⟨[], rfl, fun x hx => absurd hx List.not_mem_nil, rfl, .nil seen⟩
  | cons sequence sequences ih =>
    simp only [verifyCovered] at h
    split at h
    · cases h
    · next f c hfind =>
      obtain ⟨_, hack, h₁⟩ := Except.bind_eq_ok.mp h
      obtain ⟨identities, hidentities, h₂⟩ := Except.bind_eq_ok.mp h₁
      obtain ⟨rest, hrest, h₃⟩ := Except.bind_eq_ok.mp h₂
      obtain rfl := Except.pure_eq_ok.mp h₃
      obtain ⟨covered, hsequences, hfiles, hchunks, hevents⟩ := ih hrest
      have hsequence : c.chunkSequence = sequence := by simpa using List.find?_some hfind
      refine ⟨(f, c) :: covered, ?_, ?_, ?_, ?_⟩
      · rw [List.map_cons, hsequences, hsequence]
      · intro x hx
        rcases List.mem_cons.mp hx with rfl | hx
        · exact ⟨List.mem_of_find?_eq_some hfind, requirePostCommitAck_eq_ok hack⟩
        · exact hfiles x hx
      · rw [List.map_cons, ← hchunks, ← hsequence]
        rfl
      · rw [List.flatMap_cons]
        exact (coveredIdentities_eq_ok hidentities).append hevents

end Chunks

/-! ## Verified snapshots -/

section Reconciles

variable [DecidableEq D] (sha : CanonicalPayload → D) (spool : RunSpool D)

/-- The chunk files of a spool, up to the sequence that is covered and beyond it. -/
structure CoversThrough (p : R1StreamPartition) (coveredThrough upper : Nat)
    (covered : List (SpoolFile D × R1EventChunk D)) : Prop where
  sequences : covered.map (·.2.chunkSequence) = List.range' 1 coveredThrough
  files : ∀ x ∈ covered, x ∈ spool.eventChunkFiles ∧ x.2.partition = p ∧
    chunkSha256 sha x.2 = x.2.chunkContentSha256
  acks : ∀ x ∈ covered, Acknowledged spool x.1
  others : ∀ x ∈ spool.eventChunkFiles, x ∈ covered ∨
    coveredThrough < x.2.chunkSequence ∧ ∀ e ∈ x.2.events, RecordIdAbove upper e

/-- The raw records of the covered segments, the Events of the covered chunks and the
canonical records have the RecordIds `recordIds`, each once. -/
structure Reconciles (sources : R1SnapshotSources D) (covered : List (SpoolFile D × R1EventChunk D))
    (recordIds : List Nat) : Prop where
  nodup : recordIds.Nodup
  bounded : ∀ n ∈ recordIds,
    sources.ack.sourceLowerRecordId ≤ n ∧ n ≤ sources.ack.sourceUpperRecordId
  live : ∃ segments : List (List RawRecord),
    (List.range' 1 sources.ack.coveredThroughChunkSequence).map sources.segments =
      segments.map some ∧
    (segments.flatten.map (·.recordId)).Perm (recordIds.map fun n : Nat => some (n : Int))
  events : ((covered.flatMap (·.2.events)).map fun e => sourceRecordId e.rawRef.sourceRecordId).Perm
    (recordIds.map .ok)
  canonical : (sources.canonicalRecords.map (·.recordId)).Perm
    (recordIds.map fun n : Nat => some (n : Int))

variable {sha spool}

theorem verifyChunks_eq_ok {p : R1StreamPartition} {coveredThrough upper : Nat}
    {segments : List (List RawRecord)}
    {result : List (R1CoveredChunk D) × List SnapshotIdentity × List Nat}
    (h : verifyChunks sha spool p coveredThrough segments upper = .ok result) :
    ∃ covered, CoversThrough sha spool p coveredThrough upper covered ∧
      result.1 = covered.map coveredChunk ∧
      CoversEvents [] (covered.flatMap (·.2.events)) result.2.1 := by
  have hpost := verifyChunks_postBound h
  obtain ⟨_, hfiles, h₁⟩ := Except.bind_eq_ok.mp h
  obtain ⟨-, h₂⟩ := raiseIf_bind_eq_ok.mp h₁
  obtain ⟨pair, hcovered, h₃⟩ := Except.bind_eq_ok.mp h₂
  obtain ⟨_, -, h₄⟩ := Except.bind_eq_ok.mp h₃
  obtain rfl := Except.pure_eq_ok.mp h₄
  obtain ⟨hall, hnodup⟩ := verifyChunkFiles_eq_ok hfiles
  obtain ⟨covered, hsequences, hmem, hchunks, hevents⟩ := verifyCovered_eq_ok hcovered
  refine ⟨covered, ⟨hsequences, fun x hx => ?_, fun x hx => (hmem x hx).2, fun x hx => ?_⟩,
    hchunks, hevents⟩
  · obtain ⟨hp, hd, -⟩ := hall x (hmem x hx).1
    exact ⟨(hmem x hx).1, hp, hd⟩
  · by_cases hbeyond : coveredThrough < x.2.chunkSequence
    · exact .inr ⟨hbeyond, hpost x hx hbeyond⟩
    · -- The file of a covered sequence is the only one of this sequence.
      have hpos := x.2.chunkSequence_pos
      have hrange : x.2.chunkSequence ∈ covered.map (·.2.chunkSequence) := by
        rw [hsequences, List.mem_range'_1]
        omega
      obtain ⟨y, hy, hsame⟩ := List.mem_map.mp hrange
      rw [← List.inj_on_of_nodup_map hnodup (hmem y hy).1 hx hsame]
      exact .inl hy

theorem verifyLiveSnapshotDelivery_eq_ok {segmentFiles : Nat → Option (List RawRecord)}
    {inventory expected : D} {p : R1StreamPartition} {lower upper coveredThrough count : Nat}
    {delivery : R1LiveSnapshotDelivery D}
    (h : verifyLiveSnapshotDelivery sha spool segmentFiles inventory p lower upper coveredThrough
      expected count = .ok delivery) :
    ∃ (covered : List (SpoolFile D × R1EventChunk D)) (segments : List (List RawRecord)),
      CoversThrough sha spool p coveredThrough upper covered ∧
      delivery.coveredChunks = covered.map coveredChunk ∧
      (List.range' 1 coveredThrough).map segmentFiles = segments.map some ∧
      IdentifiesRecords p lower upper delivery.identities ∧
      delivery.identities.map (fun i => some i.recordId) = segments.flatten.map (·.recordId) ∧
      ((covered.flatMap (·.2.events)).map fun e => sourceRecordId e.rawRef.sourceRecordId).Perm
        (delivery.identities.map fun i => .ok i.recordId.toNat) := by
  simp only [verifyLiveSnapshotDelivery, raiseIf_bind_eq_ok] at h
  obtain ⟨-, -, h⟩ := h
  obtain ⟨segments, hsegments, h₁⟩ := Except.bind_eq_ok.mp h
  obtain ⟨-, h₂⟩ := raiseIf_bind_eq_ok.mp h₁
  obtain ⟨live, hlive, h₃⟩ := Except.bind_eq_ok.mp h₂
  obtain ⟨-, h₄⟩ := raiseIf_bind_eq_ok.mp h₃
  obtain ⟨result, hchunks, h₅⟩ := Except.bind_eq_ok.mp h₄
  obtain ⟨hsame, h₆⟩ := raiseIf_bind_eq_ok.mp h₅
  obtain rfl := Except.pure_eq_ok.mp h₆
  obtain ⟨covered, hcovers, hrecords, hevents⟩ := verifyChunks_eq_ok hchunks
  obtain ⟨hidentifies, hids⟩ := liveIdentities_eq_ok hlive
  refine ⟨covered, segments, hcovers, hrecords, ?_, hidentifies, hids, ?_⟩
  · refine (@map_of_mapM _ _ _ _ _ segmentFiles some _ _ (fun n records hn => ?_) hsegments).symm
    cases hfile : segmentFiles n with
    | none => simp [hfile] at hn
    | some r =>
      simp only [hfile] at hn
      rw [Except.ok.inj hn]
  · obtain ⟨new, hnew, hstated⟩ := hevents.recordIds
    rw [hstated, ← List.nil_append new, ← hnew]
    exact (perm_of_sameElements (Bool.not_eq_false _ ▸ hsame) (hevents.nodup List.nodup_nil)
      (List.Nodup.of_map _ hidentifies.nodup)).map _

/-- Where the verification of a snapshot returns, the raw records of the covered segments,
the Events of the covered chunks and the canonical records have the same RecordIds, each
once and in the bound; the covered chunks are those of the sequences 1 to n, each with an ack
of its bytes; and every other chunk is beyond n and above the bound. -/
theorem verifySnapshot_reconciles (sources : R1SnapshotSources D) (delivery : R1LiveSnapshotDelivery D)
    (h : verifySnapshot sha spool sources = .ok delivery) :
    ∃ covered recordIds,
      CoversThrough sha spool sources.request.partition sources.ack.coveredThroughChunkSequence
        sources.ack.sourceUpperRecordId covered ∧
      delivery.coveredChunks = covered.map coveredChunk ∧
      Reconciles sources covered recordIds := by
  obtain ⟨_, -, h₁⟩ := Except.bind_eq_ok.mp h
  obtain ⟨_, -, h₂⟩ := Except.bind_eq_ok.mp h₁
  obtain ⟨canonical, hcanonical, h₃⟩ := Except.bind_eq_ok.mp h₂
  obtain ⟨-, h₄⟩ := raiseIf_bind_eq_ok.mp h₃
  obtain ⟨delivery', hlive, h₅⟩ := Except.bind_eq_ok.mp h₄
  obtain ⟨hsame, h₆⟩ := raiseIf_bind_eq_ok.mp h₅
  obtain rfl := Except.pure_eq_ok.mp h₆
  obtain ⟨covered, segments, hcovers, hrecords, hsegments, hidentifies, hids, hevents⟩ :=
    verifyLiveSnapshotDelivery_eq_ok hlive
  obtain ⟨hidentifies', hids'⟩ := readCanonicalIdentities_eq_ok hcanonical
  have hpos := sources.ack.lower_pos
  have htoNat : ∀ i ∈ delivery.identities, ((i.recordId.toNat : Nat) : Int) = i.recordId := by
    intro i hi
    have := (hidentifies.bounded i hi).1
    omega
  have hvalues : (delivery.identities.map (·.recordId.toNat)).map (fun n : Nat => some (n : Int)) =
      delivery.identities.map fun i => some i.recordId := by
    rw [List.map_map]
    exact List.map_congr_left fun i hi => congrArg some (htoNat i hi)
  refine ⟨covered, delivery.identities.map (·.recordId.toNat), hcovers, hrecords, ?_, ?_, ?_, ?_, ?_⟩
  · refine List.Nodup.of_map (fun n : Nat => (n : Int)) ?_
    rw [List.map_map]
    have hcast : delivery.identities.map ((fun n : Nat => (n : Int)) ∘ (·.recordId.toNat)) =
        delivery.identities.map (·.recordId) := List.map_congr_left htoNat
    rw [hcast]
    exact hidentifies.nodup
  · intro n hn
    obtain ⟨i, hi, rfl⟩ := List.mem_map.mp hn
    have := hidentifies.bounded i hi
    omega
  · refine ⟨segments, hsegments, ?_⟩
    rw [hvalues, hids]
  · rw [List.map_map]
    exact hevents
  · rw [hvalues, ← hids']
    exact (perm_of_sameElements (Bool.not_eq_false _ ▸ hsame) (List.Nodup.of_map _ hidentifies.nodup)
      (List.Nodup.of_map _ hidentifies'.nodup)).symm.map _

end Reconciles

namespace Sample

open Stream.Sample (discard now)

theorem one_le_three : 1 ≤ 3 := by decide

/-- A chunk past the bound, with the record of RecordId 6. -/
def pastChunk : R1EventChunk Digest :=
  chunk ⟨"past-3", by decide, by decide⟩ 3
    [recordedEvent "evt-6" "6" 3 event₃Id_ne_empty event₃Id_ne_dot one_le_three] one_le_three

def pastFile : SpoolFile Digest := ⟨3, .eventChunk pastChunk⟩

/-- The chunks of RecordIds 5 and 4 are delivered, and so is the one past the bound. -/
def snapshotSteps : List (SpoolStep Digest) :=
  [.publish file₁, .consume file₁.name contract now false,
    .publish file₂, .consume file₂.name contract now false,
    .publish pastFile, .consume pastFile.name contract now false]

/-- The spool of the three chunks. -/
abbrev snapshotSpool : RunSpool Digest :=
  (spoolAfter Digest.stream positionSha256 discard () snapshotSteps).spool

theorem one_le_four : 1 ≤ 4 := by decide

theorem four_le_five : 4 ≤ 5 := by decide

/-- The raw record of RecordId 4. -/
def earlierRecord : RawRecord := { rawRecord with recordId := some 4 }

/-- The artifacts of a snapshot from RecordId 4 to RecordId 5, covered by chunk 2. -/
def snapshotSources : R1SnapshotSources Digest :=
  { sources with
    ack := { sources.ack with
      sourceLowerRecordId := 4
      targetEventCount := 2
      coveredThroughChunkSequence := 2
      lower_pos := one_le_four
      lower_le_upper := four_le_five
      targetEventCount_pos := Nat.two_pos
      covered_pos := one_le_two }
    finalized := ⟨requestId, Stream.Sample.partition, 4, 5, 2, .file 2, 2000⟩
    canonicalRecords := [rawRecord, earlierRecord]
    segments := fun n => if n = 1 then some [rawRecord] else if n = 2 then some [earlierRecord]
      else none }

/-- What the issuer of the close verified. -/
def snapshotDelivery : R1LiveSnapshotDelivery Digest where
  eventCount := 2
  coveredChunks := [coveredChunk (file₁, chunk₁), coveredChunk (file₂, chunk₂)]
  postBoundChunkSequences := [3]
  identities := [5, 4].map fun recordId =>
    ⟨Stream.Sample.partition.hostId, Stream.Sample.partition.sourceChannel, recordId, 1⟩

end Sample

open Sample in
theorem verifySnapshot_reconciles_postBound : ∃ covered recordIds,
    CoversThrough Digest.stream snapshotSpool Stream.Sample.partition 2 5 covered ∧
      snapshotDelivery.coveredChunks = covered.map coveredChunk ∧
      Reconciles snapshotSources covered recordIds :=
  verifySnapshot_reconciles snapshotSources snapshotDelivery (by rfl)

end IncidentAwareness.Position
