import IncidentAwareness.Telemetry.ReadWindow
import IncidentAwareness.Telemetry.StoreSpec
import Mathlib.Algebra.BigOperators.Group.List.Basic
import Mathlib.Algebra.Order.BigOperators.Group.List

/-!
# What a window read returns

Where the tables hold one snapshot for each execution, the points of a window are
those of its seconds (`points_eq`): a second has a point exactly where a snapshot in
scope has a bucket for it, and the point sums these buckets. So the points of two
adjacent windows are those of their union (`points_append`), and whatever
`read_window` reads back is well formed (`readWindow_eq`).
-/

namespace IncidentAwareness.Telemetry

open IncidentAwareness.Common IncidentAwareness.Lib

/-! ## The points of snapshots -/

/-- A list of the snapshots that a store holds, each execution's once. -/
structure Lists (snapshots : List PipelineTelemetrySnapshot)
    (latest : String → Option PipelineTelemetrySnapshot) : Prop where
  nodup : (snapshots.map fun s => s.val.executionId).Nodup
  mem : ∀ s, s ∈ snapshots ↔ latest s.val.executionId = some s

/-- A snapshot in the scope of a read. -/
def WindowScope.Admits (scope : WindowScope) (s : PipelineTelemetrySnapshot) : Prop :=
  (∀ e, scope.executionId = some e → s.val.executionId = e) ∧
    (∀ r, scope.runId = some r → s.val.runId = r) ∧
    ∀ e, scope.entityId = some e → s.val.entityId = e

instance (scope : WindowScope) (s : PipelineTelemetrySnapshot) : Decidable (scope.Admits s) := by
  unfold WindowScope.Admits; infer_instance

/-- The snapshots in the scope of a read. -/
def WindowScope.select (scope : WindowScope) (snapshots : List PipelineTelemetrySnapshot) :
    List PipelineTelemetrySnapshot :=
  snapshots.filter fun s => scope.Admits s

/-- The bucket of a second, as a row. -/
def rowAt (start : Int) (s : PipelineTelemetrySnapshot) : Option BucketRow :=
  (TelemetryStore.bucketAt s.val.buckets start).map (BucketRow.mk s.val.executionId)

/-- The buckets of a second. -/
def secondRows (snapshots : List PipelineTelemetrySnapshot) (start : Int) : List BucketRow :=
  snapshots.filterMap (rowAt start)

/-- The key of the bucket of a second. -/
def secondKey (start : Int) : Int ×ₗ Int := toLex (start, start + oneSecond)

/-- The point of a second: what its buckets sum to, when there is one. -/
def pointAt (snapshots : List PipelineTelemetrySnapshot) (start : Int) : Option PointRow :=
  if secondRows snapshots start = [] then none
  else some (TelemetryStore.pointOf (secondKey start) (secondRows snapshots start))

/-- The `n` seconds from `start` on. -/
def seconds (start : Int) (n : Nat) : List Int := (List.range n).map fun i : Nat => start + i * oneSecond

/-- The points of the `n` seconds from `start` on. -/
def pointsOver (snapshots : List PipelineTelemetrySnapshot) (start : Int) (n : Nat) : List PointRow :=
  (seconds start n).filterMap (pointAt snapshots)

theorem seconds_pairwise (start : Int) (n : Nat) : (seconds start n).Pairwise (· < ·) := by
  unfold seconds
  rw [List.pairwise_map]
  refine List.pairwise_lt_range.imp fun {i j} h => ?_
  unfold oneSecond
  omega

theorem mem_seconds {start t : Int} {n : Nat} (hstart : start % oneSecond = 0) :
    t ∈ seconds start n ↔ t % oneSecond = 0 ∧ start ≤ t ∧ t < start + n * oneSecond := by
  unfold seconds
  unfold oneSecond at *
  rw [List.mem_map]
  constructor
  · rintro ⟨i, hi, rfl⟩
    rw [List.mem_range] at hi
    omega
  · rintro ⟨ht, hle, hlt⟩
    refine ⟨((t - start) / 1000000).toNat, ?_, ?_⟩
    · rw [List.mem_range]
      omega
    · omega

/-- The seconds of a window are those of its two parts. -/
theorem seconds_append (start : Int) (m n : Nat) :
    seconds start (m + n) = seconds start m ++ seconds (start + m * oneSecond) n := by
  unfold seconds
  rw [List.range_add, List.map_append, List.map_map]
  refine congrArg _ (List.map_congr_left fun i _ => ?_)
  simp only [Function.comp_apply]
  unfold oneSecond
  omega

theorem pointsOver_append (snapshots : List PipelineTelemetrySnapshot) (start : Int) (m n : Nat) :
    pointsOver snapshots start (m + n) =
      pointsOver snapshots start m ++ pointsOver snapshots (start + m * oneSecond) n := by
  unfold pointsOver
  rw [seconds_append, List.filterMap_append]

theorem mem_secondRows {snapshots : List PipelineTelemetrySnapshot} {start : Int} {row : BucketRow} :
    row ∈ secondRows snapshots start ↔ ∃ s ∈ snapshots, s.val.executionId = row.executionId ∧
      row.payload ∈ s.val.buckets ∧ row.payload.val.bucketStart = start := by
  unfold secondRows rowAt
  rw [List.mem_filterMap]
  refine exists_congr fun s => and_congr_right fun _ => ?_
  rw [Option.map_eq_some_iff]
  constructor
  · rintro ⟨b, hb, rfl⟩
    exact ⟨rfl, bucketAt_eq_some.mp hb⟩
  · rintro ⟨hid, hb⟩
    refine ⟨row.payload, bucketAt_eq_some.mpr hb, ?_⟩
    rw [hid]

theorem secondRows_nodup {snapshots : List PipelineTelemetrySnapshot}
    (h : (snapshots.map fun s => s.val.executionId).Nodup) (start : Int) :
    (secondRows snapshots start).Nodup := by
  unfold secondRows
  rw [List.Nodup, List.pairwise_filterMap]
  refine (List.pairwise_map.mp h).imp fun {s s'} hne b hb b' hb' he => hne ?_
  obtain ⟨c, -, rfl⟩ := Option.map_eq_some_iff.mp hb
  obtain ⟨c', -, rfl⟩ := Option.map_eq_some_iff.mp hb'
  exact congrArg BucketRow.executionId he

/-- The order in which rows come does not show in their maximum. -/
theorem max?_eq_of_perm {l l' : List Int} (h : l.Perm l') : l.max? = l'.max? := by
  refine Option.ext fun a => ?_
  rw [List.max?_eq_some_iff, List.max?_eq_some_iff, h.mem_iff]
  exact and_congr_right fun _ => forall_congr' fun b => by rw [h.mem_iff]

theorem pointOf_perm {key : Int ×ₗ Int} {g g' : List BucketRow} (h : g.Perm g') :
    TelemetryStore.pointOf key g = TelemetryStore.pointOf key g' := by
  have htotal : ∀ column, TelemetryStore.total column g = TelemetryStore.total column g' :=
    fun column => (h.map _).sum_eq
  unfold TelemetryStore.pointOf
  simp only [htotal, h.length_eq, max?_eq_of_perm (h.map _)]

/-! ## Points as read -/

namespace TelemetryStore

variable {store : TelemetryStore} {latest : String → Option PipelineTelemetrySnapshot}
  {snapshots : List PipelineTelemetrySnapshot} {scope : WindowScope} {start ends : Int}

theorem matchesText_iff {parameter : Option String} {column : String} :
    matchesText parameter column = true ↔ ∀ value, parameter = some value → column = value := by
  unfold matchesText
  cases parameter <;> simp

/-- The executions whose bucket rows in the window are joined: those in scope. -/
theorem mem_scopedRows_ids (h : store.Holds latest) {row : BucketRow} (hrow : row ∈ store.buckets)
    (hwindow : InWindow start ends row) :
    row.executionId ∈ (store.scopedRows scope start ends).map ExecutionRow.executionId ↔
      ∃ s, latest row.executionId = some s ∧ scope.Admits s := by
  have hreported : store.buckets.rows.any (fun b => b.executionId = row.executionId ∧
      InWindow start ends b) = true := by
    rw [List.any_eq_true]
    exact ⟨row, hrow, decide_eq_true ⟨rfl, hwindow⟩⟩
  unfold scopedRows
  rw [List.mem_map]
  constructor
  · rintro ⟨e, he, hid⟩
    obtain ⟨hmem, hscope⟩ := List.mem_filter.mp he
    obtain ⟨s, hs, hpayload⟩ := h.snapshot (Table.get_eq_some.mpr ⟨hmem, hid⟩)
    have hagrees := (h.sound e hmem).1
    unfold ExecutionRow.PayloadAgrees at hagrees
    rw [hpayload] at hagrees
    unfold inScope at hscope
    simp only [Bool.and_eq_true, matchesText_iff] at hscope
    obtain ⟨⟨⟨hexec, hrun⟩, hentity⟩, -⟩ := hscope
    exact ⟨s, hs, fun v hv => hagrees.1.trans (hexec v hv),
      fun v hv => hagrees.2.2.1.trans (hrun v hv), fun v hv => hagrees.2.2.2.1.trans (hentity v hv)⟩
  · rintro ⟨s, hs, hexec, hrun, hentity⟩
    obtain ⟨e, he, hpayload, hid⟩ := h.row hs
    have hmem := (Table.get_eq_some.mp he).1
    have hagrees := (h.sound e hmem).1
    unfold ExecutionRow.PayloadAgrees at hagrees
    rw [hpayload] at hagrees
    refine ⟨e, List.mem_filter.mpr ⟨hmem, ?_⟩, hid⟩
    unfold inScope
    simp only [Bool.and_eq_true, matchesText_iff, Bool.or_eq_true, hid, hreported, or_true, and_true]
    exact ⟨⟨fun v hv => hid ▸ hagrees.1.symm.trans (hexec v hv),
      fun v hv => hagrees.2.2.1.symm.trans (hrun v hv)⟩,
      fun v hv => hagrees.2.2.2.1.symm.trans (hentity v hv)⟩

/-- The bucket rows of the window. -/
def windowRows (store : TelemetryStore) (scope : WindowScope) (start ends : Int) : List BucketRow :=
  (joinOn BucketRow.executionId ExecutionRow.executionId store.buckets.rows
    (store.scopedRows scope start ends)).filter (InWindow start ends)

theorem windowRows_eq (store : TelemetryStore) (scope : WindowScope) (start ends : Int) :
    store.windowRows scope start ends = (store.buckets.rows.filter fun row =>
      row.executionId ∈ (store.scopedRows scope start ends).map ExecutionRow.executionId).filter
        (InWindow start ends) := by
  unfold windowRows
  rw [joinOn_of_nodup]
  exact store.executions.key_nodup.sublist (List.filter_sublist.map _)

theorem mem_windowRows (h : store.Holds latest) {row : BucketRow} :
    row ∈ store.windowRows scope start ends ↔ InWindow start ends row ∧
      ∃ s, latest row.executionId = some s ∧ scope.Admits s ∧ row.payload ∈ s.val.buckets := by
  rw [windowRows_eq, List.mem_filter, List.mem_filter, decide_eq_true_eq, decide_eq_true_eq]
  constructor
  · rintro ⟨⟨hrow, hscoped⟩, hwindow⟩
    obtain ⟨s, hs, hb⟩ := (h.buckets row).mp hrow
    obtain ⟨s', hs', hadmits⟩ := (mem_scopedRows_ids h hrow hwindow).mp hscoped
    obtain rfl : s = s' := Option.some.inj (hs.symm.trans hs')
    exact ⟨hwindow, s, hs, hadmits, hb⟩
  · rintro ⟨hwindow, s, hs, hadmits, hb⟩
    have hrow : row ∈ store.buckets := (h.buckets row).mpr ⟨s, hs, hb⟩
    exact ⟨⟨hrow, (mem_scopedRows_ids h hrow hwindow).mpr ⟨s, hs, hadmits⟩⟩, hwindow⟩

theorem bucketKey_eq {row : BucketRow} {t : Int} :
    bucketKey row = secondKey t ↔ row.payload.val.bucketStart = t := by
  unfold bucketKey secondKey
  rw [row.payload.valid.ends]
  constructor
  · intro h
    exact (Prod.mk.inj (toLex_inj.mp h)).1
  · rintro rfl
    rfl

/-- The rows of a second of the window are the buckets of the snapshots in scope. -/
theorem windowRows_perm (h : store.Holds latest) (hl : Lists snapshots latest) {t : Int}
    (ht : start ≤ t ∧ t < ends) :
    ((store.windowRows scope start ends).filter fun row => bucketKey row = secondKey t).Perm
      (secondRows (scope.select snapshots) t) := by
  have hnd : ((store.windowRows scope start ends).filter fun row =>
      bucketKey row = secondKey t).Nodup := by
    rw [windowRows_eq]
    exact (((store.buckets.key_nodup.of_map _).filter _).filter _).filter _
  have hnd' : (secondRows (scope.select snapshots) t).Nodup :=
    secondRows_nodup (hl.nodup.sublist (List.filter_sublist.map _)) t
  rw [List.perm_ext_iff_of_nodup hnd hnd']
  intro row
  rw [List.mem_filter, mem_windowRows h, decide_eq_true_eq, bucketKey_eq, mem_secondRows]
  unfold WindowScope.select
  constructor
  · rintro ⟨⟨-, s, hs, hadmits, hb⟩, hstart⟩
    have hid := h.own hs
    refine ⟨s, List.mem_filter.mpr ⟨(hl.mem s).mpr ?_, decide_eq_true hadmits⟩, hid, hb, hstart⟩
    rwa [hid]
  · rintro ⟨s, hs, hid, hb, rfl⟩
    obtain ⟨hmem, hadmits⟩ := List.mem_filter.mp hs
    refine ⟨⟨ht, s, ?_, of_decide_eq_true hadmits, hb⟩, rfl⟩
    rw [← hid]
    exact (hl.mem s).mp hmem

/-- The points of a window are those of its seconds. -/
theorem points_eq (h : store.Holds latest) (hl : Lists snapshots latest)
    (hstart : start % oneSecond = 0) (n : Nat) :
    store.points scope start (start + n * oneSecond) =
      pointsOver (scope.select snapshots) start n := by
  have hkeys : ∀ row ∈ store.windowRows scope start (start + n * oneSecond),
      bucketKey row ∈ (seconds start n).map secondKey := by
    intro row hrow
    obtain ⟨⟨hle, hlt⟩, -⟩ := (mem_windowRows h).mp hrow
    rw [List.mem_map]
    exact ⟨row.payload.val.bucketStart,
      (mem_seconds hstart).mpr ⟨row.payload.valid.start, hle, hlt⟩, (bucketKey_eq.mpr rfl).symm⟩
  have hsorted : ((seconds start n).map secondKey).Pairwise (· < ·) := by
    rw [List.pairwise_map]
    exact (seconds_pairwise start n).imp fun hlt => Prod.Lex.toLex_lt_toLex.mpr (.inl hlt)
  show groupBy bucketKey pointOf (store.windowRows scope start (start + n * oneSecond)) = _
  rw [groupBy_eq_filterMap hsorted hkeys, List.filterMap_map]
  unfold pointsOver
  refine List.filterMap_congr fun t ht => ?_
  have hperm := @windowRows_perm _ _ _ scope _ _ h hl _ ((mem_seconds hstart).mp ht).2
  show groupAt bucketKey pointOf _ (secondKey t) = _
  unfold groupAt pointAt
  rw [pointOf_perm hperm]
  refine if_congr ?_ rfl rfl
  rw [← List.length_eq_zero_iff, ← List.length_eq_zero_iff, hperm.length_eq]

/-! ## Conflicting inputs -/

/-- Of more than one element, the values that are there are not one value for all. -/
theorem disagree_iff {α β : Type} [DecidableEq β] {f : α → Option β} {l : List α} (hnd : l.Nodup) :
    (1 < l.length ∧ ((l.filterMap f).length ≠ l.length ∨ (l.filterMap f).dedup.length ≠ 1)) ↔
      ∃ a ∈ l, ∃ b ∈ l, a ≠ b ∧ (f a = none ∨ f a ≠ f b) := by
  have hfull : (l.filterMap f).length = l.length ↔ ∀ a ∈ l, f a ≠ none := by
    rw [List.filterMap_length_eq_length]
    simp only [Option.isSome_iff_ne_none]
  constructor
  · rintro ⟨hlen, hdisagree⟩
    by_cases hall : ∀ a ∈ l, f a ≠ none
    · -- every value is there, so two of them differ
      have htwo := hdisagree.resolve_left (not_not.mpr (hfull.mpr hall))
      by_contra hagree
      simp only [not_exists, not_and, not_or, not_not] at hagree
      obtain ⟨a, ha⟩ : ∃ a, a ∈ l := List.exists_mem_of_length_pos (by omega)
      obtain ⟨v, hv⟩ := Option.ne_none_iff_exists'.mp (hall a ha)
      have hone : (l.filterMap f).dedup = [v] := by
        refine List.perm_singleton.mp ?_
        rw [List.perm_ext_iff_of_nodup (List.nodup_dedup _) (List.nodup_singleton v)]
        intro w
        rw [List.mem_dedup, List.mem_filterMap, List.mem_singleton]
        constructor
        · rintro ⟨b, hb, hw⟩
          by_cases hab : a = b
          · rw [← hab, hv] at hw
            exact (Option.some.inj hw).symm
          · have := (hagree a ha b hb hab).2
            rw [hv, hw] at this
            exact (Option.some.inj this).symm
        · rintro rfl
          exact ⟨a, ha, hv⟩
      rw [hone] at htwo
      exact htwo rfl
    · push Not at hall
      obtain ⟨a, ha, hnone⟩ := hall
      obtain ⟨b, hb, hne⟩ : ∃ b ∈ l, b ≠ a := by
        by_contra hsame
        push Not at hsame
        have hle : l.length ≤ 1 := by
          have hsub : l.Subperm [a] :=
            List.subperm_of_subset hnd fun b hb => List.mem_singleton.mpr (hsame b hb)
          exact hsub.length_le
        omega
      exact ⟨a, ha, b, hb, hne.symm, .inl hnone⟩
  · rintro ⟨a, ha, b, hb, hne, hdiffers⟩
    have hlen : 1 < l.length := by
      have hsub : [a, b].Subperm l :=
        List.subperm_of_subset (by simp [hne]) fun c hc => by
          rcases List.mem_pair.mp hc with rfl | rfl
          · exact ha
          · exact hb
      exact hsub.length_le
    refine ⟨hlen, ?_⟩
    by_contra hagree
    rw [not_or, not_not, not_not] at hagree
    have hall := hfull.mp hagree.1
    have hdiffer : f a ≠ f b := hdiffers.resolve_left (hall a ha)
    obtain ⟨v, hv⟩ := List.length_eq_one_iff.mp hagree.2
    have hvalue : ∀ c ∈ l, f c = some v := by
      intro c hc
      obtain ⟨w, hw⟩ := Option.ne_none_iff_exists'.mp (hall c hc)
      have hmem : w ∈ (l.filterMap f).dedup := List.mem_dedup.mpr (List.mem_filterMap.mpr ⟨c, hc, hw⟩)
      rw [hv] at hmem
      rw [hw, List.mem_singleton.mp hmem]
    exact hdiffer ((hvalue a ha).trans (hvalue b hb).symm)

/-- The inputs of a run's executions conflict: one of several is not identified, or two are
identified as different ones. -/
def Conflicting (snapshots : List PipelineTelemetrySnapshot) (runId : String) : Prop :=
  ∃ a ∈ snapshots, ∃ b ∈ snapshots, a ≠ b ∧ a.val.runId = runId ∧ b.val.runId = runId ∧
    (a.val.inputIdentity = none ∨ a.val.inputIdentity ≠ b.val.inputIdentity)

/-- The row of a listed snapshot. -/
theorem Holds.rowOf (h : store.Holds latest) (hl : Lists snapshots latest)
    {s : PipelineTelemetrySnapshot} (hs : s ∈ snapshots) :
    ∃ row ∈ store.executions, row.executionId = s.val.executionId ∧ row.runId = s.val.runId ∧
      row.inputIdentity = s.val.inputIdentity := by
  obtain ⟨row, hrow, hpayload, hid⟩ := h.row ((hl.mem s).mp hs)
  have hmem := (Table.get_eq_some.mp hrow).1
  have hagrees := (h.sound row hmem).1
  unfold ExecutionRow.PayloadAgrees at hagrees
  rw [hpayload] at hagrees
  exact ⟨row, hmem, hid, hagrees.2.2.1.symm, hagrees.2.2.2.2.symm⟩

/-- The listed snapshot of a row. -/
theorem Holds.snapshotOf (h : store.Holds latest) (hl : Lists snapshots latest) {row : ExecutionRow}
    (hrow : row ∈ store.executions) :
    ∃ s ∈ snapshots, row.payload = s.val.toSnapshotMetadata ∧
      row.executionId = s.val.executionId ∧ row.runId = s.val.runId ∧
      row.inputIdentity = s.val.inputIdentity := by
  obtain ⟨s, hs, hpayload⟩ := h.snapshot (Table.get_of_mem hrow)
  have hagrees := (h.sound row hrow).1
  unfold ExecutionRow.PayloadAgrees at hagrees
  rw [hpayload] at hagrees
  refine ⟨s, (hl.mem s).mpr ?_, hpayload, hagrees.1.symm, hagrees.2.2.1.symm,
    hagrees.2.2.2.2.symm⟩
  rw [show s.val.executionId = row.executionId from hagrees.1]
  exact hs

theorem inputConflict_iff (h : store.Holds latest) (hl : Lists snapshots latest) {runId : Option String} :
    store.inputConflict runId = true ↔ ∃ r, runId = some r ∧ Conflicting snapshots r := by
  have hnd : (store.executions.rows.filter fun row => runId = some row.runId).Nodup :=
    (store.executions.key_nodup.of_map _).filter _
  unfold inputConflict
  simp only [Bool.and_eq_true, Bool.or_eq_true, decide_eq_true_eq]
  rw [disagree_iff hnd]
  constructor
  · rintro ⟨a, ha, b, hb, hne, hdiffers⟩
    obtain ⟨hamem, harun⟩ := List.mem_filter.mp ha
    obtain ⟨hbmem, hbrun⟩ := List.mem_filter.mp hb
    obtain ⟨s, hs, -, hsid, hsrun, hsidentity⟩ := h.snapshotOf hl hamem
    obtain ⟨s', hs', -, hsid', hsrun', hsidentity'⟩ := h.snapshotOf hl hbmem
    rw [hsidentity, hsidentity'] at hdiffers
    refine ⟨a.runId, of_decide_eq_true harun, s, hs, s', hs', ?_, hsrun.symm, ?_, hdiffers⟩
    · rintro rfl
      refine hne (Table.eq_of_conflict hamem hbmem ?_)
      exact hsid.trans hsid'.symm
    · rw [← hsrun']
      exact Option.some.inj ((of_decide_eq_true hbrun).symm.trans (of_decide_eq_true harun))
  · rintro ⟨r, rfl, s, hs, s', hs', hne, hrun, hrun', hdiffers⟩
    obtain ⟨a, ha, hid, harun, hidentity⟩ := h.rowOf hl hs
    obtain ⟨b, hb, hid', hbrun, hidentity'⟩ := h.rowOf hl hs'
    rw [← hidentity, ← hidentity'] at hdiffers
    refine ⟨a, List.mem_filter.mpr ⟨ha, ?_⟩, b, List.mem_filter.mpr ⟨hb, ?_⟩, ?_, hdiffers⟩
    · rw [harun, hrun, decide_eq_true_eq]
    · rw [hbrun, hrun', decide_eq_true_eq]
    · rintro rfl
      have hsame := (hl.mem s).mp hs
      rw [hid.symm.trans hid', (hl.mem s').mp hs'] at hsame
      exact hne (Option.some.inj hsame).symm

end TelemetryStore

/-! ## Well-formed points -/

/-- The point of the second that starts at `t`. -/
structure PointRow.WellFormed (p : PointRow) (t : Int) : Prop where
  start : p.bucketStart = t
  ends : p.bucketEnd = t + oneSecond
  aligned : t % oneSecond = 0
  range : datetimeMin ≤ t + oneSecond ∧ t + oneSecond ≤ datetimeMax
  observed : ∃ o, p.observedAt = some o ∧ t ≤ o ∧ o < t + oneSecond ∧ o % 1000 = 0
  executions : 1 ≤ p.executionsCount
  samples : p.processingLatencySampleCount ≤ p.processingCompletedCount
  sum : p.processingLatencySampleCount = 0 → p.processingLatencySumNs = 0
  counted : ¬ (p.inputAcceptedCount = 0 ∧ p.processingCompletedCount = 0 ∧
    p.processingFailedCount = 0)

section Totals

variable {rows : List BucketRow} {column column' : BucketFields → Nat}

theorem total_le (h : ∀ b : BucketFields, b.Valid → column b ≤ column' b) :
    TelemetryStore.total column rows ≤ TelemetryStore.total column' rows := by
  unfold TelemetryStore.total
  exact List.sum_le_sum fun row _ => h row.payload.val row.payload.valid

theorem total_eq_zero : TelemetryStore.total column rows = 0 ↔ ∀ row ∈ rows, column row.payload.val = 0 := by
  unfold TelemetryStore.total
  rw [List.sum_eq_zero_iff_forall_eq_nat]
  exact List.forall_mem_map

end Totals

theorem pointAt_wellFormed {snapshots : List PipelineTelemetrySnapshot} {t : Int} {p : PointRow}
    (h : pointAt snapshots t = some p) : p.WellFormed t := by
  unfold pointAt at h
  split at h
  · cases h
  · next hne =>
    obtain ⟨row, hrow⟩ := List.exists_mem_of_ne_nil _ hne
    have hof : ∀ r ∈ secondRows snapshots t, r.payload.val.bucketStart = t := by
      intro r hr
      obtain ⟨s, -, -, -, hstart⟩ := mem_secondRows.mp hr
      exact hstart
    have hstart := hof row hrow
    have hvalid := row.payload.valid
    obtain rfl : TelemetryStore.pointOf (secondKey t) (secondRows snapshots t) = p := Option.some.inj h
    refine ⟨rfl, rfl, hstart ▸ hvalid.start, ?_, ?_, List.length_pos_iff.mpr hne,
      total_le fun b hb => hb.samples, fun hz => ?_, fun hz => ?_⟩
    · rw [← hstart, ← hvalid.ends]
      exact hvalid.range
    · obtain ⟨o, ho⟩ : ∃ o, ((secondRows snapshots t).map fun r => r.payload.val.lastObservedAt).max? =
          some o := Option.ne_none_iff_exists'.mp (by simpa using hne)
      obtain ⟨r, hr, rfl⟩ := List.mem_map.mp (List.max?_mem ho)
      have hr' := r.payload.valid
      have hend := hr'.ends
      rw [hof r hr] at hend
      refine ⟨_, ho, ?_, ?_, hr'.aligned.2⟩
      · have := hr'.first
        have := hr'.last
        have := hof r hr
        omega
      · rw [← hend]
        exact hr'.before
    · refine total_eq_zero.mpr fun r hr => ?_
      exact r.payload.valid.sum (total_eq_zero.mp hz r hr)
    · exact hvalid.observed ⟨total_eq_zero.mp hz.1 row hrow, total_eq_zero.mp hz.2.1 row hrow,
        total_eq_zero.mp hz.2.2 row hrow⟩

theorem mem_pointsOver {snapshots : List PipelineTelemetrySnapshot} {start : Int} {n : Nat} {p : PointRow} :
    p ∈ pointsOver snapshots start n ↔ ∃ t ∈ seconds start n, pointAt snapshots t = some p :=
  List.mem_filterMap

theorem pointAt_start {snapshots : List PipelineTelemetrySnapshot} {t : Int} {p : PointRow}
    (h : pointAt snapshots t = some p) : p.bucketStart = t := (pointAt_wellFormed h).start

/-- The points of a window are in the order of their seconds. -/
theorem pointsOver_pairwise (snapshots : List PipelineTelemetrySnapshot) (start : Int) (n : Nat) :
    (pointsOver snapshots start n).Pairwise fun p q => p.bucketStart < q.bucketStart := by
  unfold pointsOver
  rw [List.pairwise_filterMap]
  refine (seconds_pairwise start n).imp fun {t t'} hlt p hp q hq => ?_
  rw [pointAt_start hp, pointAt_start hq]
  exact hlt

theorem length_pointsOver_le (snapshots : List PipelineTelemetrySnapshot) (start : Int) (n : Nat) :
    (pointsOver snapshots start n).length ≤ n := by
  refine (List.length_filterMap_le _ _).trans ?_
  unfold seconds
  rw [List.length_map, List.length_range]

/-! ## What `read_window` returns -/

namespace TelemetryStore

variable {store : TelemetryStore} {latest : String → Option PipelineTelemetrySnapshot}
  {snapshots : List PipelineTelemetrySnapshot} {scope : WindowScope} {start : Int} {n : Nat}

theorem greatest_mem {a b : Option Int} {t : Int} (h : greatest a b = some t) : a = some t ∨ b = some t := by
  cases a with
  | none => exact .inr h
  | some a =>
    cases b with
    | none => exact .inl h
    | some b =>
      have hmax : max a b = t := Option.some.inj h
      rcases max_choice a b with he | he
      · exact .inl (by rw [← hmax, he])
      · exact .inr (by rw [← hmax, he])

/-- The last observation of a window is a millisecond before its end. -/
theorem lastObservedAt_lt (h : store.Holds latest) (hl : Lists snapshots latest)
    (hstart : start % oneSecond = 0) {t : Int}
    (ht : (store.windowData scope start (start + n * oneSecond)).lastObservedAt = some t) :
    t % 1000 = 0 ∧ t < start + n * oneSecond := by
  rcases greatest_mem ht with hmeta | hpoint
  · obtain ⟨hmem, hlt⟩ := List.mem_filter.mp (List.max?_mem hmeta)
    obtain ⟨row, hrow, hlast⟩ := List.mem_filterMap.mp hmem
    obtain ⟨s, -, hpayload, -⟩ := h.snapshotOf hl (List.mem_filter.mp hrow).1
    rw [hpayload, s.valid.last, Option.map_eq_some_iff] at hlast
    obtain ⟨b, -, rfl⟩ := hlast
    exact ⟨b.valid.aligned.2, of_decide_eq_true hlt⟩
  · obtain ⟨p, hp, hobserved⟩ := List.mem_filterMap.mp (List.max?_mem hpoint)
    rw [points_eq h hl hstart, mem_pointsOver] at hp
    obtain ⟨second, hsecond, hp⟩ := hp
    obtain ⟨o, ho, -, hlt, haligned⟩ := (pointAt_wellFormed hp).observed
    obtain rfl : o = t := Option.some.inj (ho.symm.trans hobserved)
    obtain ⟨hs, -, hbefore⟩ := (mem_seconds hstart).mp hsecond
    unfold oneSecond at *
    refine ⟨haligned, ?_⟩
    omega

theorem persistedAt_aligned (h : store.Holds latest) {ends t : Int}
    (ht : (store.windowData scope start ends).persistedAt = some t) : t % 1000 = 0 := by
  obtain ⟨row, hrow, rfl⟩ := List.mem_map.mp (List.max?_mem ht)
  exact (h.sound row (List.mem_filter.mp hrow).1).2

/-- The text parameters of a scope are ones that PostgreSQL holds. -/
def ScopeText (scope : WindowScope) : Prop :=
  ∀ value ∈ [scope.executionId, scope.runId, scope.entityId], ∀ text, value = some text →
    checkText text = .ok ()

theorem scopeText_iff :
    ([scope.executionId, scope.runId, scope.entityId].forM fun value =>
      value.toList.forM checkText) = .ok () ↔ ScopeText scope := by
  rw [forM_eq_ok]
  refine forall₂_congr fun value _ => ?_
  rw [forM_eq_ok]
  simp only [Option.mem_toList]

/-- A window of whole seconds in a valid scope passes the checks of `read_window`. -/
theorem readWindow_of_valid (hscope : checkScope scope = .ok ()) (hstart : start % oneSecond = 0)
    (hn : 0 < n ∧ n ≤ 300) :
    store.readWindow scope start (start + n * oneSecond) = do
      [scope.executionId, scope.runId, scope.entityId].forM fun value => value.toList.forM checkText
      raiseIf (store.inputConflict scope.runId = true) .inputConflict
      let data := store.windowData scope start (start + n * oneSecond)
      (readUtcDatetime data.lastObservedAt).mapError .invalid
      (readUtcDatetime data.persistedAt).mapError .invalid
      (data.points.forM fun point => do
        readUtcDatetime (some point.bucketStart)
        readUtcDatetime (some point.bucketEnd)
        readUtcDatetime point.observedAt).mapError .invalid
      return data := by
  have hboundary : ∀ name (t : Int), t % oneSecond = 0 → checkBoundary name t = .ok () := by
    intro name t ht
    unfold checkBoundary validateTelemetryDatetime
    rw [raiseIf_of_not, Except.ok_bind', raiseIf_of_not (not_not.mpr ht)]
    unfold oneSecond at ht
    omega
  have hspan : raiseIf (¬ (0 < start + n * oneSecond - start ∧
      start + n * oneSecond - start ≤ 300 * oneSecond))
      (PyError.valueError "telemetry window must span 1 to 300 seconds") = .ok () := by
    refine raiseIf_of_not (not_not.mpr ?_)
    unfold oneSecond
    omega
  have hends : (start + n * oneSecond) % oneSecond = 0 := by
    unfold oneSecond at *
    omega
  unfold readWindow
  rw [hboundary "start" start hstart, hboundary "end" _ hends, hspan, hscope]
  rfl

/-- A text that PostgreSQL does not hold is an error of the database. -/
theorem readWindow_of_not_text (hscope : checkScope scope = .ok ()) (hstart : start % oneSecond = 0)
    (hn : 0 < n ∧ n ≤ 300) (htext : ¬ ScopeText scope) :
    ∃ text, store.readWindow scope start (start + n * oneSecond) = .error (.database text) := by
  rw [readWindow_of_valid hscope hstart hn]
  have hraises : RaisesOnly (fun e => ∃ text, e = TelemetryError.database text)
      ([scope.executionId, scope.runId, scope.entityId].forM fun value =>
        value.toList.forM checkText) := by
    refine raisesOnly_forM fun value _ => raisesOnly_forM fun text _ => ?_
    exact raisesOnly_raiseIf ⟨"PostgreSQL text fields cannot contain NUL bytes", rfl⟩
  cases htexts : [scope.executionId, scope.runId, scope.entityId].forM fun value =>
      value.toList.forM checkText with
  | ok u => exact absurd (scopeText_iff.mp htexts) htext
  | error e =>
    obtain ⟨text, rfl⟩ := hraises e htexts
    exact ⟨text, rfl⟩

/-- A read of a window of whole seconds in a valid scope returns the window's data, where the
inputs do not conflict. -/
theorem Holds.readWindow_eq (h : store.Holds latest) (hl : Lists snapshots latest)
    (hscope : checkScope scope = .ok ()) (htext : ScopeText scope) (hstart : start % oneSecond = 0)
    (hn : 0 < n ∧ n ≤ 300) :
    store.readWindow scope start (start + n * oneSecond) =
      if store.inputConflict scope.runId then .error .inputConflict
      else .ok (store.windowData scope start (start + n * oneSecond)) := by
  rw [readWindow_of_valid hscope hstart hn, scopeText_iff.mpr htext, Except.ok_bind']
  by_cases hconflict : store.inputConflict scope.runId = true
  · rw [raiseIf_of hconflict, if_pos hconflict]
    rfl
  · have hlast : readUtcDatetime (store.windowData scope start (start + n * oneSecond)).lastObservedAt =
        .ok () := SnapshotFields.validateOptionalDatetime_eq_ok.mpr fun t ht =>
      (lastObservedAt_lt h hl hstart ht).1
    have hpersisted : readUtcDatetime (store.windowData scope start (start + n * oneSecond)).persistedAt =
        .ok () := SnapshotFields.validateOptionalDatetime_eq_ok.mpr fun t ht =>
      persistedAt_aligned h ht
    have hpoints : ((store.windowData scope start (start + n * oneSecond)).points.forM fun point => do
        readUtcDatetime (some point.bucketStart)
        readUtcDatetime (some point.bucketEnd)
        readUtcDatetime point.observedAt) = .ok () := by
      rw [forM_eq_ok]
      intro p hp
      rw [show (store.windowData scope start (start + n * oneSecond)).points = _ from
        points_eq h hl hstart n, mem_pointsOver] at hp
      obtain ⟨t, -, hp⟩ := hp
      have hform := pointAt_wellFormed hp
      have haligned := hform.aligned
      obtain ⟨o, ho, -, -, hmillis⟩ := hform.observed
      unfold oneSecond at haligned
      simp only [Except.unit_bind_eq_ok, readUtcDatetime,
        SnapshotFields.validateOptionalDatetime_eq_ok, Option.some.injEq, forall_eq', ho, hform.start,
        hform.ends, oneSecond]
      omega
    rw [raiseIf_of_not hconflict, if_neg hconflict, Except.ok_bind']
    dsimp only
    rw [hlast, hpersisted]
    simp only [Except.ok_bind', Except.mapError, hpoints]
    rfl

/-! ## The snapshots of a run of saves -/

/-- The snapshots that were accepted last, of every execution. -/
def latestSnapshots (saves : SaveTrace) : List PipelineTelemetrySnapshot :=
  ((accepted saves).map fun s => s.val.executionId).dedup.filterMap (latestAccepted saves)

theorem latestAccepted_own {saves : SaveTrace} {e : String} {s : PipelineTelemetrySnapshot}
    (h : latestAccepted saves e = some s) : s ∈ accepted saves ∧ s.val.executionId = e := by
  have hmem := List.mem_of_getLast? h
  exact ⟨(List.mem_filter.mp hmem).1, of_decide_eq_true (List.mem_filter.mp hmem).2⟩

/-- They list what the tables hold. -/
theorem lists_latestSnapshots (saves : SaveTrace) :
    Lists (latestSnapshots saves) (latestAccepted saves) where
  nodup := by
    unfold latestSnapshots
    rw [List.Nodup, List.pairwise_map, List.pairwise_filterMap]
    refine (List.nodup_dedup _).imp fun {e e'} hne s hs s' hs' he => hne ?_
    rw [← (latestAccepted_own hs).2, ← (latestAccepted_own hs').2, he]
  mem s := by
    unfold latestSnapshots
    rw [List.mem_filterMap]
    constructor
    · rintro ⟨e, -, hs⟩
      rw [(latestAccepted_own hs).2]
      exact hs
    · intro hs
      refine ⟨s.val.executionId, ?_, hs⟩
      rw [List.mem_dedup]
      exact List.mem_map_of_mem (latestAccepted_own hs).1

/-- The sum of a counter over the buckets of one second. -/
def secondTotal (column : BucketFields → Nat) (snapshots : List PipelineTelemetrySnapshot) (t : Int) :
    Nat :=
  (snapshots.map fun s => ((bucketAt s.val.buckets t).map fun b => column b.val).getD 0).sum

theorem total_secondRows (column : BucketFields → Nat) (snapshots : List PipelineTelemetrySnapshot)
    (t : Int) : total column (secondRows snapshots t) = secondTotal column snapshots t := by
  unfold secondTotal secondRows total
  induction snapshots with
  | nil => rfl
  | cons s snapshots ih =>
    cases hb : bucketAt s.val.buckets t with
    | none =>
      rw [List.filterMap_cons_none (by rw [rowAt, hb]; rfl), ih, List.map_cons, List.sum_cons, hb]
      simp
    | some b =>
      rw [List.filterMap_cons_some (by rw [rowAt, hb]; rfl), List.map_cons, List.sum_cons, ih,
        List.map_cons, List.sum_cons, hb]
      simp

end TelemetryStore

end IncidentAwareness.Telemetry
