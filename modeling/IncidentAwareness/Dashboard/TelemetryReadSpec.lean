import IncidentAwareness.Dashboard.TelemetryReadModel
import IncidentAwareness.Telemetry.WindowSpec
import Mathlib.Algebra.Order.Field.Basic
import Mathlib.Tactic.Positivity

/-!
# What the telemetry reader returns

The reader validates once more what it read. Where the tables hold one snapshot for
each execution it accepts all of it (`getTelemetry_eq`): its points are those of the
window, and its summary adds up those of the last 60 seconds.
-/

namespace IncidentAwareness.Dashboard

open IncidentAwareness.Common IncidentAwareness.Lib IncidentAwareness.Telemetry

/-! ## Points -/

/-- What a point shows, but for its mean. -/
def TelemetryPoint.row (p : TelemetryPoint) : PointRow where
  bucketStart := p.val.bucketStart
  bucketEnd := p.val.bucketEnd
  executionsCount := p.val.executionsCount
  inputAcceptedCount := p.val.inputAcceptedCount
  processingCompletedCount := p.val.processingCompletedCount
  processingFailedCount := p.val.processingFailedCount
  processingLatencySampleCount := p.val.processingLatencySampleCount
  processingLatencySumNs := p.val.processingLatencySumNs
  observedAt := some p.val.observedAt

theorem meanMs_nonneg {total count : Nat} {m : ℚ} (h : meanMs total count = some m) : 0 ≤ m := by
  unfold meanMs at h
  split at h
  · cases h
  · obtain rfl := Option.some.inj h
    positivity

theorem validateMean_eq_ok {mean : Option ℚ} :
    PointFields.validateMean mean = .ok () ↔ ∀ m, mean = some m → 0 ≤ m := by
  unfold PointFields.validateMean
  rw [raiseIf_eq_ok]
  constructor
  · intro h m hm
    by_contra hlt
    exact h ⟨m, hm, not_le.mp hlt⟩
  · rintro h ⟨m, hm, hlt⟩
    exact absurd (h m hm) (not_le.mpr hlt)

/-- A well-formed row passes the validation of `TelemetryPoint` with any mean that is not
negative. -/
theorem validate_ofRow {row : PointRow} {t : Int} (h : row.WellFormed t) {p : PointFields}
    (hp : PointFields.ofRow row = .ok p) {mean : Option ℚ} (hmean : ∀ m, mean = some m → 0 ≤ m) :
    PointFields.validate { p with processingLatencyMeanMs := mean } = .ok () := by
  obtain ⟨o, ho, hle, hlt, hmillis⟩ := h.observed
  unfold PointFields.ofRow at hp
  rw [ho] at hp
  obtain rfl := Except.ok.inj hp
  have haligned := h.aligned
  have hstart := h.start
  have hends := h.ends
  have hrange := h.range
  have hexecutions := h.executions
  have hsamples := h.samples
  have hsum : ¬ (row.processingLatencySampleCount = 0 ∧ row.processingLatencySumNs ≠ 0) :=
    fun hz => hz.2 (h.sum hz.1)
  unfold PointFields.validate PointFields.validatePoint
  simp only [validateTelemetryDatetime, Except.unit_bind_eq_ok, addTimedelta_bind_eq_ok,
    raiseIf_eq_ok, validateMean_eq_ok, not_not, ne_eq, not_or, hstart, hends]
  unfold oneSecond at *
  refine ⟨?_, ?_, hmillis, ?_, hmean, hrange, ⟨haligned, trivial⟩, ⟨hle, hlt⟩, ?_, hsum, h.counted⟩
  · omega
  · omega
  · omega
  · omega

/-- A well-formed row is accepted as a point. -/
theorem pointOfRow_returns {row : PointRow} {t : Int} (h : row.WellFormed t) :
    ∃ p, pointOfRow row = .ok p ∧ p.row = row := by
  obtain ⟨o, ho, -⟩ := h.observed
  have hfields : ∃ f, PointFields.ofRow row = .ok f ∧ f.processingLatencyMeanMs = none ∧
      ∀ hf : f.validate = .ok (), TelemetryPoint.row ⟨f, hf⟩ = row := by
    cases row with
    | mk bucketStart bucketEnd executions input completed failed samples sum observed =>
      obtain rfl : observed = some o := ho
      exact ⟨_, rfl, rfl, fun _ => rfl⟩
  obtain ⟨f, hf, hmean, hrow⟩ := hfields
  have hvalid : f.validate = .ok () := by
    have hnone : ∀ m : ℚ, none = some m → 0 ≤ m := fun m hm => absurd hm (by simp)
    have hvalid := validate_ofRow h hf hnone
    rwa [← hmean] at hvalid
  refine ⟨⟨f, hvalid⟩, ?_, hrow hvalid⟩
  unfold pointOfRow
  rw [hf, Except.ok_bind', construct_eq_ok hvalid]

/-- A point is accepted again with its mean. -/
theorem withMean_returns {p : TelemetryPoint} {t : Int} (h : p.row.WellFormed t) :
    ∃ q, withMean p = .ok q ∧ q.row = p.row := by
  have hfields : PointFields.ofRow p.row = .ok { p.val with processingLatencyMeanMs := none } := rfl
  have hmean : ∀ m, meanMs p.val.processingLatencySumNs p.val.processingLatencySampleCount = some m →
      0 ≤ m := fun m hm => meanMs_nonneg hm
  have hvalid := validate_ofRow h hfields hmean
  exact ⟨⟨_, hvalid⟩, construct_eq_ok hvalid, rfl⟩

/-! ## Responses -/

section Response

variable {store : TelemetryStore} {latest : String → Option PipelineTelemetrySnapshot}
  {snapshots : List PipelineTelemetrySnapshot} {scope : WindowScope} {start now : Int} {n : Nat}
  {points : List TelemetryPoint}

/-- The points of the last 60 seconds of a window are those of these seconds. -/
theorem recentPoints_row (hstart : start % oneSecond = 0) (hn : 60 ≤ n)
    (hpoints : points.map TelemetryPoint.row = pointsOver snapshots start n) :
    (recentPoints points (start + n * oneSecond)).map TelemetryPoint.row =
      pointsOver snapshots (start + n * oneSecond - 60 * oneSecond) 60 := by
  have hrecent : (recentPoints points (start + n * oneSecond)).map TelemetryPoint.row =
      (points.map TelemetryPoint.row).filter fun r =>
        start + n * oneSecond - 60 * oneSecond ≤ r.bucketStart := by
    rw [List.filter_map]
    rfl
  obtain ⟨m, rfl⟩ : ∃ m, n = m + 60 := ⟨n - 60, by omega⟩
  have hcut : start + (m + 60 : Nat) * oneSecond - 60 * oneSecond = start + m * oneSecond := by
    unfold oneSecond
    omega
  rw [hrecent, hpoints, pointsOver_append, hcut, List.filter_append]
  have hbefore : (pointsOver snapshots start m).filter
      (fun r => start + m * oneSecond ≤ r.bucketStart) = [] := by
    rw [List.filter_eq_nil_iff]
    intro p hp
    obtain ⟨t, ht, hp⟩ := mem_pointsOver.mp hp
    have hlt := ((mem_seconds hstart).mp ht).2.2
    rw [decide_eq_true_eq, pointAt_start hp]
    omega
  have hafter : (pointsOver snapshots (start + m * oneSecond) 60).filter
      (fun r => start + m * oneSecond ≤ r.bucketStart) =
        pointsOver snapshots (start + m * oneSecond) 60 := by
    rw [List.filter_eq_self]
    intro p hp
    obtain ⟨t, ht, hp⟩ := mem_pointsOver.mp hp
    have haligned : (start + m * oneSecond) % oneSecond = 0 := by
      unfold oneSecond at *
      omega
    have hle := ((mem_seconds haligned).mp ht).2.1
    rw [decide_eq_true_eq, pointAt_start hp]
    exact hle
  rw [hbefore, hafter, List.nil_append]

theorem summaryOf_valid (hstart : start % oneSecond = 0) (hn : 60 ≤ n)
    (hpoints : points.map TelemetryPoint.row = pointsOver snapshots start n) :
    (summaryOf points (start + n * oneSecond)).validate = .ok () := by
  have hlen : (recentPoints points (start + n * oneSecond)).length ≤ 60 := by
    have := length_pointsOver_le snapshots (start + n * oneSecond - 60 * oneSecond) 60
    rwa [← recentPoints_row hstart hn hpoints, List.length_map] at this
  have hmean : ∀ m, (summaryOf points (start + n * oneSecond)).processingLatencyMeanMs = some m →
      0 ≤ m := by
    intro m hm
    unfold summaryOf at hm
    simp only [Option.bind_eq_bind, Option.bind_eq_some_iff] at hm
    obtain ⟨sum, -, count, -, hm⟩ := hm
    exact meanMs_nonneg hm
  unfold TelemetrySummary.validate
  simp only [validateTelemetryDatetime, Except.unit_bind_eq_ok, raiseIf_eq_ok, validateMean_eq_ok,
    not_not, ne_eq]
  refine ⟨?_, ?_, ?_, ?_, ?_, hmean⟩
  · show (start + n * oneSecond - 60 * oneSecond) % 1000 = 0
    unfold oneSecond at *
    omega
  · show (start + n * oneSecond) % 1000 = 0
    unfold oneSecond at *
    omega
  · exact not_lt.mpr hlen
  · show ¬ (60 - (recentPoints points (start + n * oneSecond)).length : Int) < 0
    omega
  · show ¬ 60 < (60 - (recentPoints points (start + n * oneSecond)).length : Int)
    omega

/-- The reader accepts the data of a window, and shows its points. -/
theorem buildResponse_returns (h : store.Holds latest) (hl : Lists snapshots latest)
    {query : TelemetryQuery} (hquery : query.val.windowSeconds = n) (hn : 60 ≤ n ∧ n ≤ 300)
    (hstart : start % oneSecond = 0) (hnow : now % 1000 = 0) :
    ∃ r, buildResponse query (store.windowData scope start (start + n * oneSecond)) start
        (start + n * oneSecond) now = .ok r ∧
      r.points.map TelemetryPoint.row = pointsOver (scope.select snapshots) start n ∧
      r.recent60sSummary = summaryOf r.points (start + n * oneSecond) ∧
      r.rangeStart = start ∧ r.rangeEnd = start + n * oneSecond := by
  have hdata : (store.windowData scope start (start + n * oneSecond)).points =
      pointsOver (scope.select snapshots) start n := TelemetryStore.points_eq h hl hstart n
  have hform : ∀ p ∈ pointsOver (scope.select snapshots) start n,
      p.WellFormed p.bucketStart ∧ start ≤ p.bucketStart ∧ p.bucketStart < start + n * oneSecond := by
    intro p hp
    obtain ⟨t, ht, hp⟩ := mem_pointsOver.mp hp
    have hwell := pointAt_wellFormed hp
    obtain ⟨-, hle, hlt⟩ := (mem_seconds hstart).mp ht
    rw [hwell.start]
    exact ⟨hwell, hle, hlt⟩
  -- every row is accepted as a point, and again with its mean
  obtain ⟨raw, hraw, hrows⟩ : ∃ raw, (pointsOver (scope.select snapshots) start n).mapM pointOfRow =
      .ok raw ∧ raw.map TelemetryPoint.row = pointsOver (scope.select snapshots) start n := by
    obtain ⟨raw, hraw, hrows⟩ := exists_mapM (f := pointOfRow) (g := id)
      fun p hp => pointOfRow_returns (hform p hp).1
    exact ⟨raw, hraw, hrows.trans (List.map_id _)⟩
  obtain ⟨points, hpoints, hsame⟩ : ∃ points, raw.mapM withMean = .ok points ∧
      points.map TelemetryPoint.row = raw.map TelemetryPoint.row := by
    refine exists_mapM fun p hp => ?_
    have hmem : p.row ∈ pointsOver (scope.select snapshots) start n := hrows ▸ List.mem_map_of_mem hp
    exact withMean_returns (hform _ hmem).1
  have hshown : points.map TelemetryPoint.row = pointsOver (scope.select snapshots) start n :=
    hsame.trans hrows
  have hlen : raw.length ≤ n := by
    rw [← List.length_map (f := TelemetryPoint.row), hrows]
    exact length_pointsOver_le _ start n
  have hchecked : ¬ (query.val.windowSeconds < raw.length ∨
      (∃ p ∈ raw, ¬ (start ≤ p.val.bucketStart ∧ p.val.bucketStart < start + n * oneSecond)) ∨
      ¬ (raw.map fun p => p.val.bucketStart).IsChain (· < ·)) := by
    rw [not_or, not_or, not_not, hquery]
    refine ⟨not_lt.mpr hlen, ?_, ?_⟩
    · rintro ⟨p, hp, hout⟩
      have hmem : p.row ∈ pointsOver (scope.select snapshots) start n := hrows ▸ List.mem_map_of_mem hp
      exact hout (hform _ hmem).2
    · rw [List.isChain_iff_pairwise, List.pairwise_map]
      have hpairwise := pointsOver_pairwise (scope.select snapshots) start n
      rw [← hrows, List.pairwise_map] at hpairwise
      exact hpairwise
  have hlast : ∀ t, (store.windowData scope start (start + n * oneSecond)).lastObservedAt = some t →
      t % 1000 = 0 ∧ t < start + n * oneSecond := fun t ht =>
    TelemetryStore.lastObservedAt_lt h hl hstart ht
  have hbefore : ¬ ∃ last ∈ (store.windowData scope start (start + n * oneSecond)).lastObservedAt,
      start + n * oneSecond ≤ last := by
    rintro ⟨t, ht, hle⟩
    exact absurd (hlast t ht).2 (not_lt.mpr hle)
  have hlastValid : validateOptionalDatetime "last_observed_at"
      (store.windowData scope start (start + n * oneSecond)).lastObservedAt = .ok () :=
    SnapshotFields.validateOptionalDatetime_eq_ok.mpr fun t ht => (hlast t ht).1
  have hpersisted : validateOptionalDatetime "persisted_at"
      (store.windowData scope start (start + n * oneSecond)).persistedAt = .ok () :=
    SnapshotFields.validateOptionalDatetime_eq_ok.mpr
    fun t (ht : (store.windowData scope start (start + n * oneSecond)).persistedAt = some t) =>
      TelemetryStore.persistedAt_aligned h ht
  have hpointsLen : ¬ 300 < points.length := by
    have : points.length = raw.length := by
      rw [← List.length_map (f := TelemetryPoint.row), hsame, List.length_map]
    omega
  have hstartMillis : start % 1000 = 0 := by
    unfold oneSecond at hstart
    omega
  have hendsMillis : (start + n * oneSecond) % 1000 = 0 := by
    unfold oneSecond at *
    omega
  unfold buildResponse
  rw [hdata, hraw, Except.ok_bind', raiseIf_of_not hchecked, Except.ok_bind', hpoints, Except.ok_bind']
  dsimp only
  rw [summaryOf_valid hstart hn.1 hshown, Except.ok_bind', hlastValid, Except.ok_bind',
    raiseIf_of_not hbefore, Except.ok_bind']
  refine ⟨_, Except.unit_bind_eq_ok.mpr ⟨?_, rfl⟩, hshown, rfl, rfl, rfl⟩
  unfold PipelineTelemetryResponse.validate
  simp only [validateTelemetryDatetime, Except.unit_bind_eq_ok, raiseIf_eq_ok, not_not, ne_eq]
  exact ⟨hstartMillis, hendsMillis, hpointsLen, hlastValid, hpersisted, hnow⟩

/-! ## The reader -/

/-- A request that the reader serves: its end is not in the future, its window does not start
before the first year, and PostgreSQL holds its texts. -/
structure Served (query : TelemetryQuery) (now : Int) : Prop where
  clock : now % 1000 = 0
  past : ∀ t, query.val.endAt = some t → t ≤ now
  start : datetimeMin ≤ windowStart query now
  text : TelemetryStore.ScopeText query.val.windowScope

theorem query_valid (query : TelemetryQuery) :
    (60 ≤ query.val.windowSeconds ∧ query.val.windowSeconds ≤ 300) ∧
      TelemetryStore.checkScope query.val.windowScope = .ok () := by
  have h := query.property
  unfold TelemetryQueryFields.validate at h
  simp only [Except.unit_bind_eq_ok, raiseIf_eq_ok, not_lt, not_not] at h
  obtain ⟨hexec, -, -, -, hmin, hmax, hscope⟩ := h
  refine ⟨⟨hmin, hmax⟩, ?_⟩
  unfold TelemetryQueryFields.ScopeMatches at hscope
  unfold TelemetryStore.checkScope TelemetryQueryFields.windowScope
  rw [raiseIf_eq_ok]
  cases hs : query.val.scope with
  | execution =>
    rw [hs] at hscope
    obtain ⟨hexecution, hrun, hentity⟩ := hscope
    simp [hrun, hentity, hexecution, TelemetryStore.given]
  | run =>
    rw [hs] at hscope
    obtain ⟨hrun, hexecution⟩ := hscope
    simp [hrun, hexecution]
  | reported =>
    rw [hs] at hscope
    obtain ⟨hexecution, hrun, hentity⟩ := hscope
    simp [hrun, hentity, hexecution, TelemetryStore.given]

theorem windowStart_aligned (query : TelemetryQuery) (now : Int) :
    windowStart query now % oneSecond = 0 := by
  unfold windowStart windowEnd secondOf oneSecond
  omega

theorem windowEnd_eq (query : TelemetryQuery) (now : Int) :
    windowEnd query now = windowStart query now + query.val.windowSeconds * oneSecond := by
  unfold windowStart
  omega

/-- A request that is served is answered with the points of its window, where the inputs do
not conflict. -/
theorem getTelemetry_served (h : store.Holds latest) (hl : Lists snapshots latest)
    {query : TelemetryQuery} (hserved : Served query now) :
    (store.inputConflict query.val.runId = true ∧
      getTelemetry store query now = .error .inputConflict) ∨
    (store.inputConflict query.val.runId = false ∧ ∃ r, getTelemetry store query now = .ok r ∧
      r.points.map TelemetryPoint.row = pointsOver (query.val.windowScope.select snapshots)
        (windowStart query now) query.val.windowSeconds ∧
      r.recent60sSummary = summaryOf r.points (windowEnd query now) ∧
      r.rangeStart = windowStart query now ∧ r.rangeEnd = windowEnd query now) := by
  obtain ⟨hn, hscope⟩ := query_valid query
  have hstart := windowStart_aligned query now
  have hpast : ¬ ∃ endAt ∈ query.val.endAt, now < endAt := by
    rintro ⟨t, ht, hlt⟩
    exact absurd (hserved.past t ht) (not_le.mpr hlt)
  have hclock : (validateTelemetryDatetime "response_generated_at" now).mapError
      TelemetryReadError.request = .ok () := by
    unfold validateTelemetryDatetime
    rw [raiseIf_of_not (not_not.mpr hserved.clock)]
    rfl
  have hread := h.readWindow_eq hl hscope hserved.text hstart ⟨by omega, hn.2⟩
  unfold getTelemetry
  rw [hclock, Except.ok_bind', raiseIf_of_not hpast, Except.ok_bind']
  dsimp only
  rw [raiseIf_of_not (not_lt.mpr hserved.start), Except.ok_bind', windowEnd_eq, hread]
  by_cases hconflict : store.inputConflict query.val.windowScope.runId = true
  · refine .inl ⟨hconflict, ?_⟩
    rw [if_pos hconflict]
    rfl
  · refine .inr ⟨Bool.eq_false_iff.mpr hconflict, ?_⟩
    obtain ⟨r, hr, hrest⟩ :=
      @buildResponse_returns _ _ _ query.val.windowScope _ _ _ h hl _ rfl hn hstart hserved.clock
    refine ⟨r, ?_, hrest⟩
    rw [if_neg hconflict]
    show (buildResponse query _ _ _ now).mapError _ = _
    rw [hr]
    rfl

/-- The reader never reports stored telemetry as invalid. -/
theorem getTelemetry_ne_storedInvalid (h : store.Holds latest) (hl : Lists snapshots latest)
    (query : TelemetryQuery) (now : Int) :
    getTelemetry store query now ≠ .error .storedInvalid := by
  intro hinvalid
  unfold getTelemetry at hinvalid
  rcases Except.bind_eq_error.mp hinvalid with hclock | ⟨_, hclock, hlater⟩
  · cases hv : validateTelemetryDatetime "response_generated_at" now with
    | ok u => rw [hv] at hclock; cases hclock
    | error e => rw [hv] at hclock; cases hclock
  rcases Except.bind_eq_error.mp hlater with hpast | ⟨_, hpast, hlater⟩
  · unfold raiseIf at hpast
    split at hpast <;> cases hpast
  dsimp only at hlater
  rcases Except.bind_eq_error.mp hlater with hstart | ⟨_, hstart, hlater⟩
  · unfold raiseIf at hstart
    split at hstart <;> cases hstart
  obtain ⟨hn, hscope⟩ := query_valid query
  by_cases htext : TelemetryStore.ScopeText query.val.windowScope
  · have hserved : Served query now := by
      refine ⟨?_, ?_, not_lt.mp (raiseIf_eq_ok.mp hstart), htext⟩
      · rw [Except.mapError_eq_ok, validateTelemetryDatetime, raiseIf_eq_ok] at hclock
        exact not_not.mp hclock
      · intro t ht
        by_contra hlt
        exact raiseIf_eq_ok.mp hpast ⟨t, ht, not_le.mp hlt⟩
    rcases getTelemetry_served h hl hserved with ⟨-, hconflict⟩ | ⟨-, r, hr, -⟩
    · exact absurd (hinvalid.symm.trans hconflict) (by simp)
    · exact absurd (hinvalid.symm.trans hr) (by simp)
  · obtain ⟨text, hread⟩ := TelemetryStore.readWindow_of_not_text hscope
      (windowStart_aligned query now) ⟨by omega, hn.2⟩ htext
    rw [windowEnd_eq, hread] at hlater
    cases hlater

end Response

/-! ## Conservation -/

open TelemetryStore (secondTotal)

/-- The points of a window of snapshots: one for every second of the window that a snapshot has
a bucket for, in the order of the seconds, each the sum of the buckets of its second. -/
structure PointsOf (points : List PointRow) (snapshots : List PipelineTelemetrySnapshot)
    (start ends : Int) : Prop where
  increasing : points.Pairwise fun p q => p.bucketStart < q.bucketStart
  present : ∀ t, (∃ p ∈ points, p.bucketStart = t) ↔
    start ≤ t ∧ t < ends ∧ ∃ s ∈ snapshots, ∃ b ∈ s.val.buckets, b.val.bucketStart = t
  inputAccepted : ∀ p ∈ points,
    p.inputAcceptedCount = secondTotal BucketFields.inputAcceptedCount snapshots p.bucketStart
  processingCompleted : ∀ p ∈ points, p.processingCompletedCount =
    secondTotal BucketFields.processingCompletedCount snapshots p.bucketStart
  processingFailed : ∀ p ∈ points, p.processingFailedCount =
    secondTotal BucketFields.processingFailedCount snapshots p.bucketStart
  latencySamples : ∀ p ∈ points, p.processingLatencySampleCount =
    secondTotal BucketFields.latencySampleCount snapshots p.bucketStart
  latencySum : ∀ p ∈ points, p.processingLatencySumNs =
    secondTotal BucketFields.latencySumNs snapshots p.bucketStart

theorem pointsOf_pointsOver (snapshots : List PipelineTelemetrySnapshot) {start : Int}
    (hstart : start % oneSecond = 0) (n : Nat) :
    PointsOf (pointsOver snapshots start n) snapshots start (start + n * oneSecond) := by
  have hsum : ∀ (column : BucketFields → Nat) (counter : PointRow → Nat),
      (∀ key rows, counter (TelemetryStore.pointOf key rows) = TelemetryStore.total column rows) →
      ∀ p ∈ pointsOver snapshots start n,
        counter p = secondTotal column snapshots p.bucketStart := by
    intro column counter hcounter p hp
    obtain ⟨t, -, hp⟩ := mem_pointsOver.mp hp
    rw [pointAt_start hp]
    unfold pointAt at hp
    split at hp
    · cases hp
    · rw [← Option.some.inj hp, hcounter, TelemetryStore.total_secondRows]
  refine ⟨pointsOver_pairwise snapshots start n, fun t => ?_, ?_, ?_, ?_, ?_, ?_⟩
  · constructor
    · rintro ⟨p, hp, rfl⟩
      obtain ⟨t, ht, hp⟩ := mem_pointsOver.mp hp
      rw [pointAt_start hp]
      obtain ⟨-, hle, hlt⟩ := (mem_seconds hstart).mp ht
      refine ⟨hle, hlt, ?_⟩
      unfold pointAt at hp
      split at hp
      · cases hp
      · next hne =>
        obtain ⟨row, hrow⟩ := List.exists_mem_of_ne_nil _ hne
        obtain ⟨s, hs, -, hb, hstart⟩ := mem_secondRows.mp hrow
        exact ⟨s, hs, row.payload, hb, hstart⟩
    · rintro ⟨hle, hlt, s, hs, b, hb, rfl⟩
      have hrow : BucketRow.mk s.val.executionId b ∈ secondRows snapshots b.val.bucketStart :=
        mem_secondRows.mpr ⟨s, hs, rfl, hb, rfl⟩
      have hpoint : pointAt snapshots b.val.bucketStart = some (TelemetryStore.pointOf
          (secondKey b.val.bucketStart) (secondRows snapshots b.val.bucketStart)) :=
        if_neg (List.ne_nil_of_mem hrow)
      refine ⟨_, mem_pointsOver.mpr ⟨b.val.bucketStart, ?_, hpoint⟩, rfl⟩
      exact (mem_seconds hstart).mpr ⟨b.valid.start, hle, hlt⟩
  · exact hsum _ PointRow.inputAcceptedCount fun _ _ => rfl
  · exact hsum _ PointRow.processingCompletedCount fun _ _ => rfl
  · exact hsum _ PointRow.processingFailedCount fun _ _ => rfl
  · exact hsum _ PointRow.processingLatencySampleCount fun _ _ => rfl
  · exact hsum _ PointRow.processingLatencySumNs fun _ _ => rfl

/-- The sum of a counter over points; of no points there is none. -/
def totalOf (column : PointRow → Nat) (points : List PointRow) : Option Nat :=
  if points = [] then none else some (points.map column).sum

/-- A summary adds up the counters of points. -/
structure Summarises (s : TelemetrySummary) (points : List PointRow) : Prop where
  observed : s.observedBucketCount = points.length
  inputAccepted : s.inputAcceptedCount = totalOf PointRow.inputAcceptedCount points
  processingCompleted : s.processingCompletedCount =
    totalOf PointRow.processingCompletedCount points
  processingFailed : s.processingFailedCount = totalOf PointRow.processingFailedCount points
  latencySamples : s.processingLatencySampleCount =
    totalOf PointRow.processingLatencySampleCount points
  latencySum : s.processingLatencySumNs = totalOf PointRow.processingLatencySumNs points

theorem summarises_summaryOf (points : List TelemetryPoint) (ends : Int) :
    Summarises (summaryOf points ends) ((recentPoints points ends).map TelemetryPoint.row) := by
  have htotal : ∀ (column : PointFields → Nat) (counter : PointRow → Nat),
      (∀ p : TelemetryPoint, counter p.row = column p.val) →
      recentTotal column (recentPoints points ends) =
        totalOf counter ((recentPoints points ends).map TelemetryPoint.row) := by
    intro column counter hcounter
    have hmap : ((recentPoints points ends).map TelemetryPoint.row).map counter =
        (recentPoints points ends).map fun p => column p.val := by
      rw [List.map_map]
      exact List.map_congr_left fun p _ => hcounter p
    unfold recentTotal totalOf
    rw [hmap]
    exact if_congr List.map_eq_nil_iff.symm rfl rfl
  refine ⟨(List.length_map _).symm, ?_, ?_, ?_, ?_, ?_⟩
  · exact htotal _ _ fun _ => rfl
  · exact htotal _ _ fun _ => rfl
  · exact htotal _ _ fun _ => rfl
  · exact htotal _ _ fun _ => rfl
  · exact htotal _ _ fun _ => rfl

open TelemetryStore in
/-- After any calls of `save_snapshot` the tables hold for each execution the snapshot accepted
last, which has the greatest accepted revision. A read of a valid window in a valid scope
without conflicting inputs returns the points of these snapshots, and those of two adjacent
windows are those of their union. A request that the reader serves is answered with the points
of its window and their sums over the last 60 seconds, unless the inputs of its run conflict,
and no request is answered with an error about stored telemetry. -/
theorem telemetryReads_conserve (calls : List (PipelineTelemetrySnapshot × Int)) :
    let store := after step empty calls
    let saves := trace step empty calls
    let snapshots := latestSnapshots saves
    (store.Holds (latestAccepted saves) ∧
      (∀ e, store.getExecution e = .ok (latestAccepted saves e)) ∧
      ∀ s ∈ accepted saves, ∃ last, latestAccepted saves s.val.executionId = some last ∧
        (s = last ∨ s.val.revision < last.val.revision)) ∧
    (∀ (scope : WindowScope) (start : Int) (n : Nat), checkScope scope = .ok () → ScopeText scope →
      (∀ r, scope.runId = some r → ¬ Conflicting snapshots r) → start % oneSecond = 0 →
      0 < n → n ≤ 300 →
      ∃ data, store.readWindow scope start (start + n * oneSecond) = .ok data ∧
        PointsOf data.points (scope.select snapshots) start (start + n * oneSecond) ∧
        ∀ m k : Nat, n = m + k → 0 < m → 0 < k → ∃ left right,
          store.readWindow scope start (start + m * oneSecond) = .ok left ∧
          store.readWindow scope (start + m * oneSecond)
            (start + m * oneSecond + k * oneSecond) = .ok right ∧
          data.points = left.points ++ right.points) ∧
    ∀ (query : TelemetryQuery) (now : Int),
      getTelemetry store query now ≠ .error .storedInvalid ∧
      (Served query now → (∀ r, query.val.runId = some r → ¬ Conflicting snapshots r) →
        ∃ response, getTelemetry store query now = .ok response ∧
          PointsOf (response.points.map TelemetryPoint.row)
            (query.val.windowScope.select snapshots) (windowStart query now) (windowEnd query now) ∧
          ∃ recent, recent = (response.points.map TelemetryPoint.row).filter (fun p =>
              windowEnd query now - 60 * oneSecond ≤ p.bucketStart) ∧
            Summarises response.recent60sSummary recent ∧
            PointsOf recent (query.val.windowScope.select snapshots)
              (windowEnd query now - 60 * oneSecond) (windowEnd query now)) := by
  intro store saves snapshots
  obtain ⟨hholds, haccepted⟩ := holds_after calls
  have hl : Lists snapshots (latestAccepted saves) := lists_latestSnapshots saves
  have hnoConflict : ∀ runId : Option String,
      (∀ r, runId = some r → ¬ Conflicting snapshots r) → store.inputConflict runId = false := by
    intro runId hrun
    rw [Bool.eq_false_iff]
    intro hconflict
    obtain ⟨r, hr, hc⟩ := (inputConflict_iff hholds hl).mp hconflict
    exact hrun r hr hc
  refine ⟨⟨hholds, hholds.getExecution, haccepted⟩, ?_, fun query now => ⟨?_, ?_⟩⟩
  · intro scope start n hscope htext hconflict hstart hpos hmax
    have hread : ∀ (start : Int) (n : Nat), start % oneSecond = 0 → 0 < n → n ≤ 300 →
        store.readWindow scope start (start + n * oneSecond) =
          .ok (store.windowData scope start (start + n * oneSecond)) := by
      intro start n hstart hpos hmax
      rw [hholds.readWindow_eq hl hscope htext hstart ⟨hpos, hmax⟩, hnoConflict _ hconflict]
      rfl
    have hpoints : ∀ (start : Int) (n : Nat), start % oneSecond = 0 →
        (store.windowData scope start (start + n * oneSecond)).points =
          pointsOver (scope.select snapshots) start n := fun start n hstart =>
      points_eq hholds hl hstart n
    refine ⟨_, hread start n hstart hpos hmax, ?_, ?_⟩
    · rw [hpoints start n hstart]
      exact pointsOf_pointsOver _ hstart n
    · rintro m k rfl hm hk
      have hmid : (start + m * oneSecond) % oneSecond = 0 := by
        unfold oneSecond at *
        omega
      refine ⟨_, _, hread start m hstart hm (by omega), hread _ k hmid hk (by omega), ?_⟩
      rw [hpoints start m hstart, hpoints _ k hmid, hpoints start (m + k) hstart, pointsOver_append]
  · exact getTelemetry_ne_storedInvalid hholds hl query now
  · intro hserved hconflict
    rcases getTelemetry_served hholds hl hserved with ⟨hc, -⟩ | ⟨-, response, hr, hrows, hsummary, -⟩
    · exact absurd (hc.symm.trans (hnoConflict _ hconflict)) (by decide)
    · have hstart := windowStart_aligned query now
      have hends := windowEnd_eq query now
      have hrecent := recentPoints_row hstart (query_valid query).1.1 hrows
      rw [← hends] at hrecent
      have hsixty : (windowEnd query now - 60 * oneSecond) % oneSecond = 0 := by
        rw [hends]
        unfold oneSecond at *
        omega
      refine ⟨response, hr, ?_, _, rfl, ?_, ?_⟩
      · rw [hrows, hends]
        exact pointsOf_pointsOver _ hstart _
      · rw [hsummary, List.filter_map]
        exact summarises_summaryOf response.points (windowEnd query now)
      · have hof := pointsOf_pointsOver (query.val.windowScope.select snapshots) hsixty 60
        rw [List.filter_map]
        show PointsOf ((recentPoints response.points (windowEnd query now)).map TelemetryPoint.row) _ _ _
        rw [hrecent]
        convert hof using 1
        unfold oneSecond
        omega

namespace TelemetryReadSpec.Sample

/-- A batch of three records is admitted. -/
def bucketFields : BucketFields where
  bucketStart := 1767225600000000
  bucketEnd := 1767225601000000
  firstObservedAt := 1767225600250000
  lastObservedAt := 1767225600250000
  revision := 1
  inputAcceptedCount := 3

theorem bucketFields_valid : bucketFields.validate = .ok () := by decide +kernel

def snapshotFields : SnapshotFields where
  snapshotId := "pipeline-telemetry:exec-1"
  executionId := "exec-1"
  runId := "RUN-1"
  entityId := "host:a"
  revision := 1
  inputTotal := some 3
  inputAcceptedAt := some 1767225600250000
  lastObservedAt := some 1767225600250000
  observationStatus := .observed
  buckets := [⟨bucketFields, bucketFields_valid⟩]

theorem snapshotFields_valid : snapshotFields.validate = .ok () := by decide +kernel

def calls : List (PipelineTelemetrySnapshot × Int) :=
  [(⟨snapshotFields, snapshotFields_valid⟩, 1767225601000000)]

def queryFields : TelemetryQueryFields where
  scope := .run
  runId := some "RUN-1"

theorem queryFields_valid : queryFields.validate = .ok () := by decide +kernel

end TelemetryReadSpec.Sample

open TelemetryReadSpec.Sample in
/-- The admission shows in the point of its second. -/
theorem telemetryReads_conserve_sample :
    ∃ response, getTelemetry (after TelemetryStore.step .empty calls) ⟨queryFields, queryFields_valid⟩
        1767225660000000 = .ok response ∧
      ∃ p ∈ response.points.map TelemetryPoint.row,
        p.bucketStart = 1767225600000000 ∧ p.inputAcceptedCount = 3 := by
  have hsnapshots : TelemetryStore.latestSnapshots (trace TelemetryStore.step .empty calls) =
      [⟨snapshotFields, snapshotFields_valid⟩] := by decide +kernel
  have hserved : Served ⟨queryFields, queryFields_valid⟩ 1767225660000000 := by
    refine ⟨by decide, fun t ht => absurd ht (by simp [queryFields]), by decide, ?_⟩
    intro value hvalue text htext
    have hone : text = "RUN-1" := by
      simp only [queryFields, TelemetryQueryFields.windowScope, List.mem_cons, List.not_mem_nil,
        or_false] at hvalue
      rcases hvalue with rfl | rfl | rfl <;> simp at htext
      exact htext.symm
    rw [hone]
    decide +kernel
  have hread := ((telemetryReads_conserve calls).2.2 ⟨queryFields, queryFields_valid⟩
    1767225660000000).2 hserved
  simp only [hsnapshots] at hread
  obtain ⟨response, hr, hpoints, -⟩ := hread fun r _ => by
    rintro ⟨a, ha, b, hb, hne, -⟩
    exact hne ((List.mem_singleton.mp ha).trans (List.mem_singleton.mp hb).symm)
  have hselect : (queryFields.windowScope).select [⟨snapshotFields, snapshotFields_valid⟩] =
      [⟨snapshotFields, snapshotFields_valid⟩] := by decide +kernel
  rw [hselect] at hpoints
  obtain ⟨p, hp, hstart⟩ := (hpoints.present 1767225600000000).mpr ⟨by decide, by decide, _,
    List.mem_cons_self, _, List.mem_cons_self, rfl⟩
  refine ⟨response, hr, p, hp, hstart, ?_⟩
  rw [hpoints.inputAccepted p hp, hstart]
  decide +kernel

end IncidentAwareness.Dashboard
