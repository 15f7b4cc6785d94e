import IncidentAwareness.Telemetry.Store
import Mathlib.Data.List.Chain
import Mathlib.Logic.Function.Basic

/-!
# What the telemetry store holds

`Holds` relates the two tables to one snapshot for each execution. A save that
writes makes it the saved snapshot (`saveSnapshot_wrote`), every other call leaves
the tables (`saveSnapshot_kept`), and so after any calls the tables hold the latest
snapshot that was accepted for each execution (`holds_after`).
-/

namespace IncidentAwareness.Telemetry

open IncidentAwareness.Common IncidentAwareness.Lib

/-! ## The buckets of a snapshot -/

section Buckets

variable {s : PipelineTelemetrySnapshot} {a b : PipelineTelemetryBucket}

theorem buckets_pairwise (s : PipelineTelemetrySnapshot) :
    s.val.buckets.Pairwise fun a b => a.val.bucketStart < b.val.bucketStart :=
  List.pairwise_map.mp (List.isChain_iff_pairwise.mp s.valid.increasing)

theorem buckets_nodup (s : PipelineTelemetrySnapshot) : s.val.buckets.Nodup :=
  (buckets_pairwise s).imp fun {a b} h he => by
    rw [he] at h
    exact lt_irrefl _ h

/-- A snapshot has one bucket for a second. -/
theorem bucket_unique (ha : a ∈ s.val.buckets) (hb : b ∈ s.val.buckets)
    (h : a.val.bucketStart = b.val.bucketStart) : a = b := by
  by_contra hne
  have hsymm : Std.Symm fun a b : PipelineTelemetryBucket => a.val.bucketStart ≠ b.val.bucketStart :=
    ⟨fun _ _ hn he => hn he.symm⟩
  have hpairwise : s.val.buckets.Pairwise fun a b => a.val.bucketStart ≠ b.val.bucketStart :=
    (buckets_pairwise s).imp fun h => ne_of_lt h
  exact hpairwise.forall ha hb hne h

open TelemetryStore in
theorem bucketAt_eq_some {start : Int} :
    bucketAt s.val.buckets start = some b ↔ b ∈ s.val.buckets ∧ b.val.bucketStart = start := by
  unfold bucketAt
  constructor
  · intro h
    exact ⟨List.mem_of_find?_eq_some h, by simpa using List.find?_some h⟩
  · rintro ⟨hb, rfl⟩
    cases hfind : s.val.buckets.find? fun c => c.val.bucketStart = b.val.bucketStart with
    | none => simpa using List.find?_eq_none.mp hfind b hb
    | some a =>
      have hstart : a.val.bucketStart = b.val.bucketStart := by simpa using List.find?_some hfind
      rw [bucket_unique (List.mem_of_find?_eq_some hfind) hb hstart]

end Buckets

namespace TelemetryStore

/-- The tables hold one snapshot for each execution. -/
structure Holds (store : TelemetryStore) (latest : String → Option PipelineTelemetrySnapshot) :
    Prop where
  executions : ∀ e, (store.executions.get e).map ExecutionRow.payload =
    (latest e).map fun s => s.val.toSnapshotMetadata
  sound : ∀ row ∈ store.executions, row.PayloadAgrees ∧ row.updatedAt % 1000 = 0
  buckets : ∀ row, row ∈ store.buckets ↔
    ∃ s, latest row.executionId = some s ∧ row.payload ∈ s.val.buckets

variable {store store' : TelemetryStore} {latest : String → Option PipelineTelemetrySnapshot}
  {s p : PipelineTelemetrySnapshot} {now : Int} {e : String}

theorem holds_empty : empty.Holds fun _ => none where
  executions _ := rfl
  sound row h := absurd h (Table.not_mem_empty row)
  buckets row := ⟨fun h => absurd h (Table.not_mem_empty row), fun ⟨_, h, _⟩ => absurd h (by simp)⟩

/-- The row of an execution that has a snapshot. -/
theorem Holds.row (h : store.Holds latest) (hs : latest e = some s) :
    ∃ row, store.executions.get e = some row ∧ row.payload = s.val.toSnapshotMetadata ∧
      row.executionId = e := by
  have hrow := h.executions e
  rw [hs, Option.map_some, Option.map_eq_some_iff] at hrow
  obtain ⟨row, hrow, hpayload⟩ := hrow
  exact ⟨row, hrow, hpayload, (Table.get_eq_some.mp hrow).2⟩

theorem Holds.snapshot (h : store.Holds latest) {row : ExecutionRow}
    (hrow : store.executions.get e = some row) :
    ∃ s, latest e = some s ∧ row.payload = s.val.toSnapshotMetadata := by
  have hs := h.executions e
  rw [hrow, Option.map_some, eq_comm, Option.map_eq_some_iff] at hs
  obtain ⟨s, hs, hpayload⟩ := hs
  exact ⟨s, hs, hpayload.symm⟩

/-- The snapshot of an execution is one of this execution. -/
theorem Holds.own (h : store.Holds latest) (hs : latest e = some s) : s.val.executionId = e := by
  obtain ⟨row, hrow, hpayload, hid⟩ := h.row hs
  have hagrees := (h.sound row (Table.get_eq_some.mp hrow).1).1.1
  rw [hpayload, hid] at hagrees
  exact hagrees

/-- The bucket rows of an execution hold its snapshot's buckets, each once. -/
theorem Holds.bucketRows_perm (h : store.Holds latest) (hs : latest e = some s) :
    ((store.buckets.rows.filter fun b => b.executionId = e).map BucketRow.payload).Perm
      s.val.buckets := by
  have hnd : ((store.buckets.rows.filter fun b => b.executionId = e).map BucketRow.payload).Nodup := by
    refine List.Nodup.map_on ?_ ((store.buckets.key_nodup.of_map _).filter _)
    intro a ha b hb hab
    have hid : ∀ r ∈ store.buckets.rows.filter fun b => b.executionId = e, r.executionId = e :=
      fun r hr => of_decide_eq_true (List.mem_filter.mp hr).2
    cases a
    cases b
    have ha := hid _ ha
    have hb := hid _ hb
    simp_all
  rw [List.perm_ext_iff_of_nodup hnd (buckets_nodup s)]
  intro b
  rw [List.mem_map]
  constructor
  · rintro ⟨row, hrow, rfl⟩
    obtain ⟨hmem, hid⟩ := List.mem_filter.mp hrow
    obtain ⟨s', hs', hb⟩ := (h.buckets row).mp hmem
    rw [of_decide_eq_true hid, hs] at hs'
    rwa [Option.some.inj hs']
  · intro hb
    exact ⟨⟨e, b⟩, List.mem_filter.mpr ⟨(h.buckets ⟨e, b⟩).mpr ⟨s, hs, hb⟩, decide_eq_true rfl⟩, rfl⟩

/-- Sorting by start does not move the buckets of a snapshot. -/
theorem sortedBy_buckets (s : PipelineTelemetrySnapshot) :
    sortedBy (fun b => b.val.bucketStart) s.val.buckets = s.val.buckets := by
  refine List.Perm.eq_of_pairwise ?_ (sortedBy_pairwise _ _)
    ((buckets_pairwise s).imp fun h => le_of_lt h) (sortedBy_perm _ _)
  intro a b ha hb hab hba
  exact bucket_unique (mem_sortedBy.mp ha) hb (le_antisymm hab hba)

/-- `get_execution` returns the snapshot that the tables hold. -/
theorem Holds.getExecution (h : store.Holds latest) (e : String) :
    store.getExecution e = .ok (latest e) := by
  unfold TelemetryStore.getExecution
  cases hrow : store.executions.get e with
  | none =>
    have hnone := h.executions e
    rw [hrow, Option.map_none, eq_comm, Option.map_eq_none_iff] at hnone
    rw [hnone]
  | some row =>
    obtain ⟨s, hs, hpayload⟩ := h.snapshot hrow
    have hid : row.executionId = e := (Table.get_eq_some.mp hrow).2
    have hbuckets : sortedBy (fun b => b.val.bucketStart)
        ((store.buckets.rows.filter fun b => b.executionId = row.executionId).map
          BucketRow.payload) = s.val.buckets := by
      rw [hid]
      refine (sortedBy_eq_of_perm ?_ (h.bucketRows_perm hs)).trans (sortedBy_buckets s)
      intro a ha b hb
      have hmem := fun c => (h.bucketRows_perm hs).mem_iff (a := c)
      exact bucket_unique ((hmem a).mp ha) ((hmem b).mp hb)
    simp only [hbuckets, hpayload]
    have hvalid : (SnapshotFields.mk s.val.toSnapshotMetadata s.val.buckets).validate = .ok () :=
      s.property
    rw [construct_eq_ok hvalid, hs]
    rfl

/-! ## Writes -/

/-- What a bucket's row must be like for a write: `BIGINT` counters and an older
revision. -/
def Writable (store : TelemetryStore) (e : String) (b : PipelineTelemetryBucket) : Prop :=
  checkBucket b.val = .ok () ∧
    ∀ row, store.buckets.get (e, b.val.bucketStart) = some row →
      row.payload.val.revision < b.val.revision

/-- The tables with rows of one execution written. -/
def withBuckets (store : TelemetryStore) (e : String) (bs : List PipelineTelemetryBucket) :
    TelemetryStore :=
  { store with buckets := (bs.map (BucketRow.mk e)).foldl Table.upsert store.buckets }

theorem upsertBucket_eq_ok {b : PipelineTelemetryBucket} :
    upsertBucket e store b = .ok store' ↔
      store.Writable e b ∧ store' = store.withBuckets e [b] := by
  unfold upsertBucket Writable
  rw [Except.unit_bind_eq_ok, raiseIf_bind_eq_ok, Except.pure_eq_ok, and_assoc]
  refine and_congr_right fun _ => and_congr_left fun _ => ?_
  constructor
  · intro h row hrow
    by_contra hlt
    exact h ⟨row, hrow, hlt⟩
  · rintro h ⟨row, hrow, hlt⟩
    exact hlt (h row hrow)

/-- A block of bucket writes, each of another second. -/
theorem foldlM_upsertBucket_eq_ok {bs : List PipelineTelemetryBucket}
    (hnd : (bs.map fun b => b.val.bucketStart).Nodup) :
    bs.foldlM (upsertBucket e) store = .ok store' ↔
      (∀ b ∈ bs, store.Writable e b) ∧ store' = store.withBuckets e bs := by
  induction bs generalizing store with
  | nil =>
    rw [List.foldlM_nil, Except.pure_eq_ok]
    exact ⟨fun h => ⟨fun b hb => absurd hb List.not_mem_nil, h⟩, fun h => h.2⟩
  | cons b bs ih =>
    rw [List.map_cons, List.nodup_cons] at hnd
    have hother : ∀ c ∈ bs, (store.withBuckets e [b]).Writable e c ↔ store.Writable e c := by
      intro c hc
      have hne : c.val.bucketStart ≠ b.val.bucketStart := fun he => hnd.1 (he ▸ List.mem_map_of_mem hc)
      have hget : (store.withBuckets e [b]).buckets.get (e, c.val.bucketStart) =
          store.buckets.get (e, c.val.bucketStart) := by
        show (store.buckets.upsert ⟨e, b⟩).get _ = _
        rw [Table.get_upsert, if_neg]
        exact fun he => hne (Prod.mk.inj he).2
      unfold Writable
      rw [hget]
    rw [List.foldlM_cons, Except.bind_eq_ok]
    constructor
    · rintro ⟨mid, hmid, hrest⟩
      obtain ⟨hb, rfl⟩ := upsertBucket_eq_ok.mp hmid
      obtain ⟨hbs, rfl⟩ := (ih hnd.2).mp hrest
      refine ⟨fun c hc => ?_, rfl⟩
      rcases List.mem_cons.mp hc with rfl | hc
      · exact hb
      · exact (hother c hc).mp (hbs c hc)
    · rintro ⟨hbs, rfl⟩
      refine ⟨_, upsertBucket_eq_ok.mpr ⟨hbs b List.mem_cons_self, rfl⟩, (ih hnd.2).mpr ⟨?_, rfl⟩⟩
      intro c hc
      exact (hother c hc).mpr (hbs c (List.mem_cons_of_mem b hc))

/-- The row that a write of a snapshot leaves for its execution. -/
structure ShowsMetadata (row : ExecutionRow) (s : SnapshotMetadata) : Prop where
  id : row.executionId = s.executionId
  payload : row.payload = s
  agrees : row.PayloadAgrees
  aligned : row.updatedAt % 1000 = 0

theorem truncMillis_aligned (now : Int) : truncMillis now % 1000 = 0 := by
  unfold truncMillis
  omega

/-- The stored row agrees with the identity of a snapshot. -/
def SameScope (p s : SnapshotMetadata) : Prop :=
  p.snapshotId = s.snapshotId ∧ p.executionId = s.executionId ∧ p.runId = s.runId ∧
    p.entityId = s.entityId ∧ p.inputIdentity = s.inputIdentity

theorem validateScope_eq_ok {p s : SnapshotMetadata} : validateScope p s = .ok () ↔ SameScope p s := by
  unfold validateScope SameScope
  rw [raiseIf_eq_ok]
  simp only [not_or, not_not, ne_eq]

theorem executionRow_eq_ok {stored : Option ExecutionRow} {s : SnapshotMetadata} {row : ExecutionRow} :
    executionRow stored s now = .ok row ↔
      (∀ r, stored = some r → r.payload.revision < s.revision) ∧
        row = match stored with
          | none => ⟨s.executionId, s.snapshotId, s.runId, s.entityId, s.inputIdentity, s, truncMillis now⟩
          | some r => { r with payload := s, updatedAt := truncMillis now } := by
  cases stored with
  | none =>
    refine ⟨fun h => ⟨fun r hr => absurd hr (by simp), (Except.ok.inj h).symm⟩, ?_⟩
    rintro ⟨-, rfl⟩
    rfl
  | some r =>
    unfold executionRow
    rw [raiseIf_bind_eq_ok, Except.pure_eq_ok, not_not]
    simp only [Option.some.injEq, forall_eq']

/-- The upsert of an execution returned: the columns fit, the stored snapshot is older, and
the row written shows the new one. -/
theorem upsertExecution_returned (h : store.Holds latest)
    (hs : store.upsertExecution s.val.toSnapshotMetadata now = .ok store') :
    checkMetadata s.val.toSnapshotMetadata = .ok () ∧
      (∀ p, latest s.val.executionId = some p → p.val.revision < s.val.revision) ∧
      ∃ row, ShowsMetadata row s.val.toSnapshotMetadata ∧
        store' = { store with executions := store.executions.upsert row } := by
  unfold upsertExecution at hs
  rw [Except.unit_bind_eq_ok, Except.bind_eq_ok] at hs
  obtain ⟨hcheck, row, hrow, hs⟩ := hs
  rw [raiseIf_bind_eq_ok, not_not, Except.pure_eq_ok] at hs
  obtain ⟨hnewer, hrow⟩ := executionRow_eq_ok.mp hrow
  refine ⟨hcheck, fun p hp => ?_, row, ?_, hs.2⟩
  · obtain ⟨stored, hstored, hpayload, -⟩ := h.row hp
    have := hnewer stored hstored
    rwa [hpayload] at this
  · have hshown : row.payload = s.val.toSnapshotMetadata ∧ row.updatedAt = truncMillis now := by
      rw [hrow]
      split
      · exact ⟨rfl, rfl⟩
      · exact ⟨rfl, rfl⟩
    refine ⟨?_, hshown.1, hs.1, ?_⟩
    · rw [← hs.1.1, hshown.1]
    · rw [hshown.2]
      exact truncMillis_aligned now

/-- The upsert of an execution returns where the columns fit and the stored snapshot is an
older one of the same scope. -/
theorem upsertExecution_returns (h : store.Holds latest)
    (hcheck : checkMetadata s.val.toSnapshotMetadata = .ok ())
    (hp : ∀ p, latest s.val.executionId = some p → p.val.revision < s.val.revision ∧
      SameScope p.val.toSnapshotMetadata s.val.toSnapshotMetadata) :
    ∃ store', store.upsertExecution s.val.toSnapshotMetadata now = .ok store' ∧
      store'.buckets = store.buckets := by
  have hnewer : ∀ r, store.executions.get s.val.executionId = some r →
      r.payload.revision < s.val.toSnapshotMetadata.revision := by
    intro r hr
    obtain ⟨p, hlatest, hpayload⟩ := h.snapshot hr
    rw [hpayload]
    exact (hp p hlatest).1
  obtain ⟨row, hrow⟩ : ∃ row, executionRow (store.executions.get s.val.executionId)
      s.val.toSnapshotMetadata now = .ok row := ⟨_, executionRow_eq_ok.mpr ⟨hnewer, rfl⟩⟩
  have hagrees : row.PayloadAgrees := by
    rw [(executionRow_eq_ok.mp hrow).2]
    cases hstored : store.executions.get s.val.executionId with
    | none => exact ⟨rfl, rfl, rfl, rfl, rfl⟩
    | some r =>
      obtain ⟨p, hlatest, hpayload⟩ := h.snapshot hstored
      obtain ⟨hsnapshot, hexec, hrun, hentity, hidentity⟩ := (hp p hlatest).2
      have hkept := (h.sound r (Table.get_eq_some.mp hstored).1).1
      unfold ExecutionRow.PayloadAgrees at hkept
      rw [hpayload] at hkept
      exact ⟨hexec.symm.trans hkept.1, hsnapshot.symm.trans hkept.2.1, hrun.symm.trans hkept.2.2.1,
        hentity.symm.trans hkept.2.2.2.1, hidentity.symm.trans hkept.2.2.2.2⟩
  refine ⟨{ store with executions := store.executions.upsert row }, ?_, rfl⟩
  unfold upsertExecution
  rw [hcheck, Except.ok_bind', hrow, Except.ok_bind', raiseIf_of_not (not_not.mpr hagrees)]
  rfl

/-! ## Saves -/

/-- A replacement has a bucket for every stored one: the same, or one of a later
revision. -/
theorem validateReplacement_eq_ok {p s : SnapshotFields} : validateReplacement p s = .ok () ↔
    (p.inputTotal ≠ none → p.inputTotal = s.inputTotal ∧ p.inputAcceptedAt = s.inputAcceptedAt) ∧
      ∀ prior ∈ p.buckets, ∃ candidate, bucketAt s.buckets prior.val.bucketStart = some candidate ∧
        (prior.val.revision < candidate.val.revision ∨ candidate = prior) := by
  unfold validateReplacement
  rw [raiseIf_bind_eq_ok, forM_eq_ok]
  refine and_congr ?_ (forall₂_congr fun prior _ => ?_)
  · constructor
    · intro h htotal
      by_contra hne
      refine h ⟨htotal, ?_⟩
      by_contra hboth
      rw [not_or, not_not, not_not] at hboth
      exact hne hboth
    · rintro h ⟨htotal, hne | hne⟩
      · exact hne (h htotal).1
      · exact hne (h htotal).2
  · unfold validateSuccessor
    cases bucketAt s.buckets prior.val.bucketStart with
    | none => simp only [reduceCtorEq, false_and, exists_false]
    | some c =>
      simp only [raiseIf_bind_eq_ok, raiseIf_eq_ok, Option.some.injEq, exists_eq_left', ne_eq]
      constructor
      · rintro ⟨hle, hsame⟩
        by_cases he : c = prior
        · exact .inr he
        · refine .inl ?_
          have hne : c.val.revision ≠ prior.val.revision := fun hrev => hsame ⟨hrev, he⟩
          omega
      · rintro (hlt | rfl)
        · exact ⟨by omega, fun hsame => absurd hsame.1 (by omega)⟩
        · exact ⟨by omega, fun hsame => hsame.2 rfl⟩

/-- What `comparePrevious` lets be written: a later snapshot of the same scope that replaces
the stored one. -/
theorem comparePrevious_eq_true : comparePrevious p s = .ok true ↔
    SameScope p.val.toSnapshotMetadata s.val.toSnapshotMetadata ∧ p.val.revision < s.val.revision ∧
      validateReplacement p.val s.val = .ok () := by
  unfold comparePrevious
  rw [Except.unit_bind_eq_ok, validateScope_eq_ok]
  refine and_congr_right fun _ => ?_
  split
  · next hlt => exact ⟨fun h => absurd (Except.ok.inj h) Bool.false_ne_true, fun h => absurd h.1 (by omega)⟩
  · next hle =>
    split
    · next heq =>
      rw [raiseIf_bind_eq_ok]
      exact ⟨fun h => absurd (Except.ok.inj h.2) Bool.false_ne_true, fun h => absurd h.1 (by omega)⟩
    · next hne =>
      rw [Except.unit_bind_eq_ok]
      exact ⟨fun h => ⟨by omega, h.1⟩, fun h => ⟨h.2, rfl⟩⟩

/-- What `comparePrevious` lets be skipped: the stored snapshot, or one before it. -/
theorem comparePrevious_eq_false : comparePrevious p s = .ok false ↔
    SameScope p.val.toSnapshotMetadata s.val.toSnapshotMetadata ∧
      (s.val.revision < p.val.revision ∨ s = p) := by
  unfold comparePrevious
  rw [Except.unit_bind_eq_ok, validateScope_eq_ok]
  refine and_congr_right fun _ => ?_
  split
  · next hlt => exact ⟨fun _ => .inl hlt, fun _ => rfl⟩
  · next hle =>
    split
    · next heq =>
      rw [raiseIf_bind_eq_ok, not_not]
      exact ⟨fun h => .inr h.1, fun h => ⟨h.resolve_left hle, rfl⟩⟩
    · next hne =>
      rw [Except.unit_bind_eq_ok]
      refine ⟨fun h => absurd (Except.ok.inj h.2) (by decide), fun h => ?_⟩
      rcases h with h | rfl
      · exact absurd h hle
      · exact absurd rfl hne

/-- The buckets that a save writes have a later revision than the stored ones, so that
between the stored and the written ones every bucket of the snapshot is there. -/
theorem mem_changedBuckets {b : PipelineTelemetryBucket} : b ∈ changedBuckets (some p) s ↔
    b ∈ s.val.buckets ∧ b ∉ p.val.buckets := by
  unfold changedBuckets
  simp only [Option.map_some, Option.getD_some, List.mem_filter, decide_eq_true_eq]
  refine and_congr_right fun _ => not_congr ?_
  rw [bucketAt_eq_some]
  exact ⟨fun h => h.1, fun h => ⟨h, rfl⟩⟩

theorem changedBuckets_none : changedBuckets none s = s.val.buckets := by
  unfold changedBuckets
  simp [bucketAt]

theorem changedBuckets_nodup (previous : Option PipelineTelemetrySnapshot)
    (s : PipelineTelemetrySnapshot) :
    ((changedBuckets previous s).map fun b => b.val.bucketStart).Nodup := by
  have hsub : (changedBuckets previous s).Sublist s.val.buckets := List.filter_sublist
  refine List.Nodup.sublist (hsub.map _) ?_
  rw [List.Nodup, List.pairwise_map]
  exact (buckets_pairwise s).imp fun h => ne_of_lt h

/-- The rows after the buckets of a save were written. -/
theorem mem_withBuckets {bs : List PipelineTelemetryBucket}
    (hnd : (bs.map fun b => b.val.bucketStart).Nodup) {row : BucketRow} :
    row ∈ (store.withBuckets e bs).buckets ↔
      (row.executionId = e ∧ row.payload ∈ bs) ∨
        row ∈ store.buckets ∧ (row.executionId = e →
          ∀ b ∈ bs, row.payload.val.bucketStart ≠ b.val.bucketStart) := by
  have hkeys : ((bs.map (BucketRow.mk e)).map BucketRow.key).Nodup := by
    rw [List.map_map]
    refine List.Nodup.of_map Prod.snd ?_
    rw [List.map_map]
    exact hnd
  show row ∈ (bs.map (BucketRow.mk e)).foldl Table.upsert store.buckets ↔ _
  rw [Table.mem_foldl_upsert hkeys]
  refine or_congr ?_ (and_congr_right fun _ => ?_)
  · rw [List.mem_map]
    constructor
    · rintro ⟨b, hb, rfl⟩
      exact ⟨rfl, hb⟩
    · rintro ⟨rfl, hb⟩
      exact ⟨row.payload, hb, rfl⟩
  · constructor
    · intro h hid b hb he
      exact h ⟨e, b⟩ (List.mem_map_of_mem hb) (Prod.ext hid he)
    · intro h r hr hk
      obtain ⟨b, hb, rfl⟩ := List.mem_map.mp hr
      exact h (Prod.mk.inj hk).1 b hb (Prod.mk.inj hk).2

/-- A snapshot that replaces the stored one has every stored bucket that it did not
change. -/
theorem mem_of_unchanged (hreplaces : validateReplacement p.val s.val = .ok ())
    {b : PipelineTelemetryBucket} (hb : b ∈ p.val.buckets)
    (hkept : ∀ c ∈ changedBuckets (some p) s, b.val.bucketStart ≠ c.val.bucketStart) :
    b ∈ s.val.buckets := by
  obtain ⟨candidate, hat, -⟩ := (validateReplacement_eq_ok.mp hreplaces).2 b hb
  obtain ⟨hcandidate, hstart⟩ := bucketAt_eq_some.mp hat
  by_cases hstored : candidate ∈ p.val.buckets
  · rwa [← bucket_unique hstored hb hstart]
  · exact absurd hstart.symm (hkept candidate (mem_changedBuckets.mpr ⟨hcandidate, hstored⟩))

/-- The tables after the writes of a save hold its snapshot. -/
theorem Holds.written (h : store.Holds latest) {row : ExecutionRow}
    (hrow : ShowsMetadata row s.val.toSnapshotMetadata)
    (hreplaces : ∀ p, latest s.val.executionId = some p → validateReplacement p.val s.val = .ok ()) :
    Holds (TelemetryStore.withBuckets { store with executions := store.executions.upsert row }
        s.val.executionId (changedBuckets (latest s.val.executionId) s))
      (Function.update latest s.val.executionId (some s)) where
  executions e := by
    show ((store.executions.upsert row).get e).map _ = _
    rw [Table.get_upsert]
    by_cases he : e = s.val.executionId
    · rw [if_pos (he.trans hrow.id.symm), he, Function.update_self, Option.map_some, Option.map_some,
        hrow.payload]
    · rw [if_neg fun hk => he (hk.trans hrow.id), Function.update_of_ne he, h.executions e]
  sound r hr := by
    rcases Table.mem_upsert.mp hr with rfl | ⟨hr, -⟩
    · exact ⟨hrow.agrees, hrow.aligned⟩
    · exact h.sound r hr
  buckets r := by
    rw [mem_withBuckets (changedBuckets_nodup _ s)]
    show _ ∨ r ∈ store.buckets ∧ _ ↔ _
    by_cases he : r.executionId = s.val.executionId
    · rw [he, Function.update_self, h.buckets r, he]
      simp only [true_and, true_imp_iff, Option.some.injEq, exists_eq_left']
      cases hlatest : latest s.val.executionId with
      | none => simp only [changedBuckets_none, reduceCtorEq, false_and, exists_false, or_false]
      | some p =>
        simp only [Option.some.injEq, exists_eq_left']
        constructor
        · rintro (hchanged | ⟨hstored, hkept⟩)
          · exact (mem_changedBuckets.mp hchanged).1
          · exact mem_of_unchanged (hreplaces p hlatest) hstored hkept
        · intro hb
          by_cases hstored : r.payload ∈ p.val.buckets
          · refine .inr ⟨hstored, fun c hc hstart => ?_⟩
            obtain ⟨hcs, hcp⟩ := mem_changedBuckets.mp hc
            rw [bucket_unique hb hcs hstart] at hstored
            exact hcp hstored
          · exact .inl (mem_changedBuckets.mpr ⟨hb, hstored⟩)
    · rw [Function.update_of_ne he, ← h.buckets r]
      simp only [he, false_and, false_imp_iff, and_true, false_or]

/-- What a save decides from the snapshot that is stored. -/
def decideWrite (previous : Option PipelineTelemetrySnapshot) (s : PipelineTelemetrySnapshot) :
    Except TelemetryError Bool :=
  match previous with
  | none => .ok true
  | some p => comparePrevious p s

theorem decideWrite_eq_true {previous : Option PipelineTelemetrySnapshot}
    (h : decideWrite previous s = .ok true) : ∀ p, previous = some p →
      SameScope p.val.toSnapshotMetadata s.val.toSnapshotMetadata ∧
        p.val.revision < s.val.revision ∧ validateReplacement p.val s.val = .ok () := by
  rintro p rfl
  exact comparePrevious_eq_true.mp h

/-- A save reads, decides, and writes where there is something to write. -/
theorem Holds.saveSnapshot_eq (h : store.Holds latest) :
    store.saveSnapshot s now = do
      checkText s.val.executionId
      let write ← decideWrite (latest s.val.executionId) s
      if write then
        let store ← store.upsertExecution s.val.toSnapshotMetadata now
        let store ← (changedBuckets (latest s.val.executionId) s).foldlM
          (upsertBucket s.val.executionId) store
        return (store, true)
      else return (store, false) := by
  unfold TelemetryStore.saveSnapshot decideWrite
  rw [h.getExecution]
  cases latest s.val.executionId <;> rfl

/-- A save that wrote: the tables hold its snapshot, which is later than the one before. -/
theorem Holds.saveSnapshot_wrote (h : store.Holds latest)
    (hs : store.saveSnapshot s now = .ok (store', true)) :
    store'.Holds (Function.update latest s.val.executionId (some s)) ∧
      ∀ p, latest s.val.executionId = some p → p.val.revision < s.val.revision := by
  rw [h.saveSnapshot_eq, Except.unit_bind_eq_ok, Except.bind_eq_ok] at hs
  obtain ⟨-, write, hwrite, hs⟩ := hs
  cases write with
  | false => exact absurd (Prod.mk.inj (Except.ok.inj hs)).2 (by decide)
  | true =>
    rw [if_pos rfl, Except.bind_eq_ok] at hs
    obtain ⟨mid, hmid, hs⟩ := hs
    rw [Except.bind_eq_ok] at hs
    obtain ⟨last, hlast, hs⟩ := hs
    obtain rfl : last = store' := (Prod.mk.inj (Except.ok.inj hs)).1
    obtain ⟨-, hnewer, row, hrow, rfl⟩ := upsertExecution_returned h hmid
    obtain ⟨-, rfl⟩ := (foldlM_upsertBucket_eq_ok (changedBuckets_nodup _ s)).mp hlast
    exact ⟨h.written hrow fun p hp => (decideWrite_eq_true hwrite p hp).2.2, hnewer⟩

/-- A save that wrote nothing: the stored snapshot is this one or a later one. -/
theorem Holds.saveSnapshot_kept (h : store.Holds latest)
    (hs : store.saveSnapshot s now = .ok (store', false)) :
    store' = store ∧ ∃ p, latest s.val.executionId = some p ∧
      (s.val.revision < p.val.revision ∨ s = p) := by
  rw [h.saveSnapshot_eq, Except.unit_bind_eq_ok, Except.bind_eq_ok] at hs
  obtain ⟨-, write, hwrite, hs⟩ := hs
  cases write with
  | true =>
    rw [if_pos rfl, Except.bind_eq_ok] at hs
    obtain ⟨mid, -, hs⟩ := hs
    rw [Except.bind_eq_ok] at hs
    obtain ⟨last, -, hs⟩ := hs
    exact absurd (Prod.mk.inj (Except.ok.inj hs)).2 (by decide)
  | false =>
    refine ⟨(Prod.mk.inj (Except.ok.inj hs)).1.symm, ?_⟩
    cases hlatest : latest s.val.executionId with
    | none =>
      rw [hlatest] at hwrite
      exact absurd (Except.ok.inj hwrite) (by decide)
    | some p =>
      rw [hlatest] at hwrite
      exact ⟨p, rfl, (comparePrevious_eq_false.mp hwrite).2⟩

/-- What the columns of the tables hold: a snapshot whose texts, counters and times fit. -/
structure Storable (s : PipelineTelemetrySnapshot) : Prop where
  metadata : checkMetadata s.val.toSnapshotMetadata = .ok ()
  buckets : ∀ b ∈ s.val.buckets, checkBucket b.val = .ok ()

/-- A save of a snapshot that fits returns where the comparison with the stored one does. -/
theorem Holds.saveSnapshot_returns (h : store.Holds latest) (hstorable : Storable s) {write : Bool}
    (hwrite : decideWrite (latest s.val.executionId) s = .ok write) :
    ∃ store', store.saveSnapshot s now = .ok (store', write) := by
  have htext : checkText s.val.executionId = .ok () := by
    have hmetadata := hstorable.metadata
    unfold checkMetadata at hmetadata
    exact (Except.unit_bind_eq_ok.mp hmetadata).1
  rw [h.saveSnapshot_eq, htext, Except.ok_bind', hwrite, Except.ok_bind']
  cases write with
  | false => exact ⟨store, rfl⟩
  | true =>
    have hreplaces := decideWrite_eq_true hwrite
    obtain ⟨mid, hmid, hbuckets⟩ : ∃ mid,
        store.upsertExecution s.val.toSnapshotMetadata now = .ok mid ∧ mid.buckets = store.buckets :=
      upsertExecution_returns h hstorable.metadata
        fun p hp => ⟨(hreplaces p hp).2.1, (hreplaces p hp).1⟩
    have hwritable : ∀ b ∈ changedBuckets (latest s.val.executionId) s,
        mid.Writable s.val.executionId b := by
      intro b hb
      have hbs : b ∈ s.val.buckets := List.filter_sublist.subset hb
      refine ⟨hstorable.buckets b hbs, fun row hrow => ?_⟩
      rw [hbuckets] at hrow
      -- the row written over is one of the stored snapshot, which the new one replaces
      obtain ⟨hrow, hkey⟩ := Table.get_eq_some.mp hrow
      obtain ⟨p, hp, hprior⟩ := (h.buckets row).mp hrow
      rw [show row.executionId = s.val.executionId from (Prod.mk.inj hkey).1] at hp
      have hstart : row.payload.val.bucketStart = b.val.bucketStart := (Prod.mk.inj hkey).2
      obtain ⟨candidate, hat, hlater⟩ :=
        (validateReplacement_eq_ok.mp (hreplaces p hp).2.2).2 row.payload hprior
      obtain ⟨hcandidate, hcstart⟩ := bucketAt_eq_some.mp hat
      obtain rfl : candidate = b := bucket_unique hcandidate hbs (hcstart.trans hstart)
      rcases hlater with hlt | rfl
      · exact hlt
      · rw [hp] at hb
        exact absurd hprior (mem_changedBuckets.mp hb).2
    refine ⟨mid.withBuckets s.val.executionId (changedBuckets (latest s.val.executionId) s), ?_⟩
    rw [if_pos rfl, hmid, Except.ok_bind',
      (foldlM_upsertBucket_eq_ok (changedBuckets_nodup _ s)).mpr ⟨hwritable, rfl⟩, Except.ok_bind']
    rfl

/-! ## Runs -/

/-- A call of `save_snapshot` and what it returned. -/
abbrev SaveTrace := List ((PipelineTelemetrySnapshot × Int) × Except TelemetryError Bool)

/-- The snapshots that calls of `save_snapshot` wrote, in their order. -/
def accepted (calls : SaveTrace) : List PipelineTelemetrySnapshot :=
  calls.filterMap fun call =>
    match call.2 with
    | .ok true => some call.1.1
    | _ => none

/-- The snapshot of an execution that was accepted last. -/
def latestAccepted (calls : SaveTrace) (e : String) : Option PipelineTelemetrySnapshot :=
  ((accepted calls).filter fun s => s.val.executionId = e).getLast?

theorem accepted_snoc (calls : SaveTrace)
    (call : (PipelineTelemetrySnapshot × Int) × Except TelemetryError Bool) :
    accepted (calls ++ [call]) = accepted calls ++ accepted [call] :=
  List.filterMap_append

theorem latestAccepted_snoc_wrote (calls : SaveTrace) (call : PipelineTelemetrySnapshot × Int) :
    latestAccepted (calls ++ [(call, .ok true)]) =
      Function.update (latestAccepted calls) call.1.val.executionId (some call.1) := by
  funext e
  unfold latestAccepted
  rw [accepted_snoc, List.filter_append]
  show (_ ++ [call.1].filter _).getLast? = _
  by_cases he : call.1.val.executionId = e
  · rw [List.filter_cons_of_pos (by simp [he]), List.filter_nil, List.getLast?_concat, ← he,
      Function.update_self]
  · rw [List.filter_cons_of_neg (by simp [he]), List.filter_nil, List.append_nil,
      Function.update_of_ne (Ne.symm he)]

theorem accepted_snoc_not_wrote (calls : SaveTrace) {call : PipelineTelemetrySnapshot × Int}
    {answer : Except TelemetryError Bool} (h : answer ≠ .ok true) :
    accepted (calls ++ [(call, answer)]) = accepted calls := by
  have hnil : accepted [(call, answer)] = [] := by
    unfold accepted
    rw [List.filterMap_cons, List.filterMap_nil]
    split
    · rfl
    · next s hs =>
      split at hs
      · next heq => exact absurd heq h
      · cases hs
  rw [accepted_snoc, hnil, List.append_nil]

/-- After any calls the tables hold, for each execution, the snapshot accepted last, which
has the greatest revision of those accepted. -/
theorem holds_after (calls : List (PipelineTelemetrySnapshot × Int)) :
    (after step empty calls).Holds (latestAccepted (trace step empty calls)) ∧
      ∀ s ∈ accepted (trace step empty calls),
        ∃ last, latestAccepted (trace step empty calls) s.val.executionId = some last ∧
          (s = last ∨ s.val.revision < last.val.revision) := by
  refine run_trace_induction step (P := fun store calls => store.Holds (latestAccepted calls) ∧
    ∀ s ∈ accepted calls, ∃ last, latestAccepted calls s.val.executionId = some last ∧
      (s = last ∨ s.val.revision < last.val.revision))
    ⟨holds_empty, fun s hs => absurd hs List.not_mem_nil⟩ ?_ calls
  rintro store calls ⟨snapshot, now⟩ ⟨hholds, hlast⟩
  have hkept : ∀ answer : Except TelemetryError Bool, answer ≠ .ok true →
      store.Holds (latestAccepted (calls ++ [((snapshot, now), answer)])) ∧
        ∀ s ∈ accepted (calls ++ [((snapshot, now), answer)]), ∃ last,
          latestAccepted (calls ++ [((snapshot, now), answer)]) s.val.executionId = some last ∧
            (s = last ∨ s.val.revision < last.val.revision) := by
    intro answer hne
    unfold latestAccepted at hholds hlast ⊢
    rw [accepted_snoc_not_wrote calls hne]
    exact ⟨hholds, hlast⟩
  unfold step
  cases hsave : store.saveSnapshot snapshot now with
  | error e => exact hkept (.error e) (by simp)
  | ok saved =>
    obtain ⟨store', wrote⟩ := saved
    cases wrote with
    | false =>
      obtain ⟨rfl, -⟩ := hholds.saveSnapshot_kept hsave
      exact hkept (.ok false) (by simp)
    | true =>
      obtain ⟨hholds', hnewer⟩ := hholds.saveSnapshot_wrote hsave
      rw [latestAccepted_snoc_wrote]
      refine ⟨hholds', fun s hs => ?_⟩
      rw [accepted_snoc] at hs
      by_cases he : s.val.executionId = snapshot.val.executionId
      · rw [he, Function.update_self]
        refine ⟨snapshot, rfl, ?_⟩
        rcases List.mem_append.mp hs with hs | hs
        · obtain ⟨last, hat, hle⟩ := hlast s hs
          rw [he] at hat
          have := hnewer last hat
          rcases hle with rfl | hlt
          · exact .inr this
          · exact .inr (hlt.trans this)
        · exact .inl (List.mem_singleton.mp hs)
      · rw [Function.update_of_ne he]
        rcases List.mem_append.mp hs with hs | hs
        · exact hlast s hs
        · exact absurd (congrArg (fun s => s.val.executionId) (List.mem_singleton.mp hs)) he

end TelemetryStore

end IncidentAwareness.Telemetry
