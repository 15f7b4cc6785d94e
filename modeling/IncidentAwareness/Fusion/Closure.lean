import IncidentAwareness.Fusion.ReplaySpec
import IncidentAwareness.Fusion.Result
import IncidentAwareness.Fusion.StoppingSpec

/-!
# The pipeline closes

What a replay returns passes every validator of the output models:
`ReplaySound` collects what a replay guarantees, `exists_trace` and
`exists_fusionResult` build the outputs from it, and `runFusionPipeline_closed_iff`
says what they hold and when: a step that reads as whole milliseconds can be a
`timedelta` that is not, and then the trace does not take its points.
-/

namespace IncidentAwareness.Fusion

open IncidentAwareness.Common IncidentAwareness.Lib

variable {φ : Type}

/-! ## Episode ids -/

theorem episodeId_injective : Function.Injective episodeId := by
  intro m n h
  have hdecode : ∀ k, Nat.ofDigitChars 10
      (List.replicate (3 - (decimalStr k).length) '0' ++ decimalStr k) 0 = k := by
    intro k
    rw [Nat.ofDigitChars_append, Nat.ofDigitChars_replicate_zero, Nat.mul_zero, decimalStr,
      Nat.ofDigitChars_ten_toDigits]
  have hlist := congrArg String.toList h
  simp only [episodeId, String.toList_append, String.toList_ofList] at hlist
  rw [← hdecode m, ← hdecode n, List.append_cancel_left hlist]

theorem episodeId_ne_empty (n : Nat) : episodeId n ≠ "" := by
  intro h
  have := congrArg String.toList h
  simp [episodeId] at this

/-! ## What a replay guarantees -/

/-- What holds of the result of a plain replay. -/
structure ReplaySound (runner : TemporalReplayRunner) (evidences : List (Evidence φ))
    (runId entityId : String) (start stop : Int) (r : TemporalReplayResult) : Prop where
  start_le : start ≤ stop
  on_grid : (stop - start) % runner.stepSize = 0
  entity : isBlank entityId = false
  observed : (r.trajectory, r.evidenceSnapshots) =
    observations runner.scorer (windowAt runner.windowEngine evidences) (gridOf runner start stop)
  evaluation : EvaluationSound runner.stoppingPolicy runId entityId r.trajectory stop
    r.stoppingResult r.stoppingTrace

theorem endReason_of_boundary {start stop : Int} {replayEnd : Option PyDatetime}
    {boundary : Boundary} (h : TemporalReplayRunner.boundary start stop replayEnd = .ok boundary) :
    start ≤ stop → start ≤ boundary.effectiveEnd ∧
      (boundary.endReason = .runEnd ∨ boundary.endReason = .replayEnd) := by
  intro hle
  cases replayEnd with
  | none =>
    obtain rfl := Except.ok.inj h
    exact ⟨hle, .inl rfl⟩
  | some value =>
    obtain ⟨t, -, h⟩ := Except.bind_eq_ok.mp h
    rw [raiseIf_bind_eq_ok, raiseIf_bind_eq_ok] at h
    obtain ⟨hstart, -, h⟩ := h
    split at h
    · obtain rfl := Except.pure_eq_ok.mp h
      exact ⟨Int.not_lt.mp hstart, .inr rfl⟩
    · obtain rfl := Except.pure_eq_ok.mp h
      exact ⟨Int.not_lt.mp hstart, .inl rfl⟩

theorem replaySound_of_ok {runner : TemporalReplayRunner} {evidences : List (Evidence φ)}
    {runId entityId : String} {runStart runEnd : PyDatetime} {replayEnd : Option PyDatetime}
    {s : WindowState φ} {r : TemporalReplayResult}
    (h : outcome (runner.run evidences runId entityId runStart runEnd replayEnd) s = .ok r) :
    ∃ start stop boundary, runStart = .utc start ∧ runEnd = .utc stop ∧
      TemporalReplayRunner.boundary start stop replayEnd = .ok boundary ∧
      ReplaySound runner evidences runId entityId start boundary.effectiveEnd r := by
  obtain ⟨start, stop, boundary, rfl, rfl, hvalid⟩ := runValid_of_ok h
  obtain ⟨hle, hreason⟩ := endReason_of_boundary hvalid.boundary_eq hvalid.start_le
  rw [outcome_run hvalid] at h
  split_ifs at h
  obtain ⟨⟨result, trace⟩, heval, hr⟩ := Except.bind_eq_ok.mp h
  obtain rfl := Except.pure_eq_ok.mp hr
  have hentity : isBlank entityId = false := by
    by_contra hblank
    rw [ThresholdStoppingPolicy.evaluate, raiseIf_of (by simpa using hblank)] at heval
    cases heval
  refine ⟨start, stop, boundary, rfl, rfl, hvalid.boundary_eq, hle, hvalid.on_grid, hentity, rfl, ?_⟩
  obtain ⟨result', trace', heval', hsound⟩ := runner.stoppingPolicy.exists_evaluate
    ((gridOf runner start boundary.effectiveEnd).map fun t =>
      ⟨t, runner.scorer.score (windowAt runner.windowEngine evidences t)⟩) runId hentity hreason
    (List.pairwise_map.mpr (grid_pairwise runner.stepSize_pos))
    (List.forall_mem_map.mpr fun t _ => ⟨runner.scorer.score_nonneg _, runner.scorer.score_le_one _⟩)
    (List.forall_mem_map.mpr fun t ht => (le_of_mem_grid runner.stepSize_pos ht).2)
  obtain ⟨rfl, rfl⟩ := Prod.mk.inj (Except.ok.inj (heval.symm.trans heval'))
  exact hsound

namespace ReplaySound

variable {runner : TemporalReplayRunner} {evidences : List (Evidence φ)} {runId entityId : String}
  {start stop : Int} {r : TemporalReplayResult}

/-- The ids that contribute at a time. -/
abbrev idsAt (runner : TemporalReplayRunner) (evidences : List (Evidence φ)) (t : Int) :
    List String :=
  runner.scorer.contributingEvidenceIds (windowAt runner.windowEngine evidences t)

theorem mem_trajectory (h : ReplaySound runner evidences runId entityId start stop r)
    {p : ScorePoint} : p ∈ r.trajectory ↔ p.timestamp ∈ gridOf runner start stop ∧
      p.score = runner.scorer.score (windowAt runner.windowEngine evidences p.timestamp) := by
  rw [show r.trajectory = _ from congrArg Prod.fst h.observed, observations, List.mem_map]
  constructor
  · rintro ⟨t, ht, rfl⟩
    exact ⟨ht, rfl⟩
  · rintro ⟨ht, hscore⟩
    exact ⟨p.timestamp, ht, by rw [← hscore]⟩

/-- Of the snapshots, the one of a grid point holds the ids of its window. -/
theorem evidenceIdsAt_eq (h : ReplaySound runner evidences runId entityId start stop r) {t : Int}
    (ht : t ∈ gridOf runner start stop) :
    evidenceIdsAt r.evidenceSnapshots t = some (idsAt runner evidences t) := by
  have hsnapshots : r.evidenceSnapshots = _ := congrArg Prod.snd h.observed
  unfold evidenceIdsAt
  cases hfind : r.evidenceSnapshots.reverse.find? fun s => s.timestamp = t with
  | none =>
    rw [List.find?_eq_none] at hfind
    refine absurd ?_ (hfind ⟨t, idsAt runner evidences t⟩ ?_)
    · exact decide_eq_true rfl
    · rw [List.mem_reverse, hsnapshots]
      exact List.mem_map_of_mem ht
  | some snapshot =>
    have hmem := List.mem_of_find?_eq_some hfind
    have htime : snapshot.timestamp = t := by simpa using List.find?_some hfind
    rw [List.mem_reverse, hsnapshots] at hmem
    obtain ⟨t', -, rfl⟩ := List.mem_map.mp hmem
    obtain rfl : t' = t := htime
    rfl

/-- At the start of an episode some Evidence contributes. -/
theorem start_mem (h : ReplaySound runner evidences runId entityId start stop r) {e : FusionEpisode}
    (he : e ∈ r.stoppingResult.fusionEpisodes) :
    e.startTime ∈ gridOf runner start stop ∧ idsAt runner evidences e.startTime ≠ [] := by
  obtain ⟨hmem, habove⟩ := h.evaluation.starts e he
  obtain ⟨ht, hscore⟩ := h.mem_trajectory.mp hmem
  refine ⟨ht, SimpleScorer.contributingEvidenceIds_ne_nil ?_⟩
  have hoff := runner.stoppingPolicy.thresholdOff_mem.1
  have hlt := runner.stoppingPolicy.thresholdOff_lt
  change e.scoreAtStart = _ at hscore
  rw [← hscore]
  linarith

/-! ### The trace -/

theorem trace_point (h : ReplaySound runner evidences runId entityId start stop r)
    {p : StoppingTracePoint} (hp : p ∈ r.stoppingTrace) :
    (tracePointFields p).validate = raiseIf (p.timestamp % 1000 ≠ 0) notMillisecond := by
  have hmem : p.point ∈ r.trajectory := by
    rw [← h.evaluation.trace_points]
    exact List.mem_map_of_mem hp
  obtain ⟨ht, hscore⟩ := h.mem_trajectory.mp hmem
  have hnonneg : 0 ≤ p.score := (runner.scorer.score_nonneg _).trans_eq hscore.symm
  have hle : p.score ≤ 1 := hscore.trans_le (runner.scorer.score_le_one _)
  have hcount : ¬ ∃ n ∈ p.persistenceCount, n < 1 := by
    rintro ⟨n, hn, hlt⟩
    have := h.evaluation.count p hp n hn
    omega
  by_cases haligned : p.timestamp % 1000 = 0
  · rw [raiseIf_of_not (not_not.mpr haligned), TracePointFields.validate, raiseIf_bind_eq_ok,
      raiseIf_bind_eq_ok, raiseIf_bind_eq_ok, raiseIf_eq_ok]
    exact ⟨not_not.mpr haligned, not_lt.mpr hnonneg, not_lt.mpr hle, hcount⟩
  · rw [raiseIf_of haligned]
    exact Except.bind_eq_error.mpr (.inl (raiseIf_of haligned))

end ReplaySound

/-- Points in order pass the validator of the trace. -/
theorem validatePointTimestamps_of_pairwise {previous : Option Int}
    {points : List FusionStoppingTracePoint}
    (hsorted : points.Pairwise fun p q => p.val.timestamp < q.val.timestamp)
    (hlater : ∀ t ∈ previous, ∀ p ∈ points, t < p.val.timestamp) :
    validatePointTimestamps previous points = .ok () := by
  induction points generalizing previous with
  | nil => rfl
  | cons p points ih =>
    rw [List.pairwise_cons] at hsorted
    rw [validatePointTimestamps, raiseIf_bind_eq_ok]
    refine ⟨?_, ih hsorted.2 ?_⟩
    · rintro ⟨t, ht, hle⟩
      exact absurd (hlater t ht p List.mem_cons_self) (Int.not_lt.mpr hle)
    · rintro t ⟨⟩
      exact hsorted.1

theorem requireNonempty_bind_eq_ok {β : Type} {value : String} {f : Unit → Except PyError β}
    {b : β} : (requireNonempty value >>= f) = .ok b ↔ value ≠ "" ∧ f () = .ok b :=
  raiseIf_bind_eq_ok

theorem ne_empty_of_nonblank {value : String} (h : isBlank value = false) : value ≠ "" := by
  rintro rfl
  exact absurd h (by decide)

namespace ReplaySound

variable {runner : TemporalReplayRunner} {evidences : List (Evidence φ)} {runId entityId : String}
  {start stop : Int} {r : TemporalReplayResult}

/-- The trace has the points of the grid. -/
theorem trace_times (h : ReplaySound runner evidences runId entityId start stop r) :
    r.stoppingTrace.map (·.timestamp) = gridOf runner start stop := by
  have htimes : r.stoppingTrace.map (·.timestamp) = r.trajectory.map (·.timestamp) := by
    rw [← h.evaluation.trace_points, List.map_map]
    rfl
  rw [htimes, show r.trajectory = _ from congrArg Prod.fst h.observed, observations, List.map_map]
  exact List.map_id _

theorem trace_pairwise (h : ReplaySound runner evidences runId entityId start stop r) :
    (r.stoppingTrace.map (·.timestamp)).Pairwise (· < ·) :=
  h.trace_times ▸ grid_pairwise runner.stepSize_pos

theorem trace_time_mem (h : ReplaySound runner evidences runId entityId start stop r)
    {p : StoppingTracePoint} (hp : p ∈ r.stoppingTrace) : p.timestamp ∈ gridOf runner start stop :=
  h.trace_times ▸ List.mem_map_of_mem hp

/-- The trace ends at the end of the replay. -/
theorem trace_getLast? (h : ReplaySound runner evidences runId entityId start stop r) :
    (r.stoppingTrace.map (·.timestamp)).getLast? = some stop := by
  rw [h.trace_times]
  exact getLast?_eq_of_mem (grid_pairwise runner.stepSize_pos) (stop_mem_gridOf h.start_le h.on_grid)
    fun t ht => (mem_gridOf.mp ht).1

/-- The trace passes its validators. -/
theorem exists_trace (h : ReplaySound runner evidences runId entityId start stop r)
    (haligned : ∀ t ∈ gridOf runner start stop, t % 1000 = 0) (hrun : runId ≠ "")
    {version : String} (hversion : version ≠ "") :
    ∃ points, (r.stoppingTrace.mapM fun p => construct TracePointFields.validate (tracePointFields p))
        = .ok points ∧ points.map Subtype.val = r.stoppingTrace.map tracePointFields ∧
      ∃ trace : FusionStoppingTrace, construct TraceFields.validate ⟨runId, entityId, version, points⟩ =
        .ok trace ∧ trace.val.points = points := by
  have hpoint : ∀ p ∈ r.stoppingTrace, ∃ point : FusionStoppingTracePoint,
      construct TracePointFields.validate (tracePointFields p) = .ok point ∧
        point.val = tracePointFields p := by
    intro p hp
    have hvalid : (tracePointFields p).validate = .ok () := by
      rw [h.trace_point hp, raiseIf_of_not (not_not.mpr (haligned _ (h.trace_time_mem hp)))]
    exact ⟨⟨tracePointFields p, hvalid⟩, construct_eq_ok _, rfl⟩
  obtain ⟨points, hpoints, hmap⟩ := exists_mapM hpoint
  have hsorted : points.Pairwise fun p q => p.val.timestamp < q.val.timestamp := by
    have hpairwise := h.trace_pairwise
    have htimes : r.stoppingTrace.map (·.timestamp) = points.map (·.val.timestamp) := by
      rw [show (points.map (·.val.timestamp)) = (points.map Subtype.val).map (·.timestamp) by
        rw [List.map_map]; rfl, hmap, List.map_map]
      rfl
    rwa [htimes, List.pairwise_map] at hpairwise
  refine ⟨points, hpoints, hmap, ⟨⟨runId, entityId, version, points⟩, ?_⟩, construct_eq_ok _, rfl⟩
  rw [TraceFields.validate, requireNonempty_bind_eq_ok, requireNonempty_bind_eq_ok,
    requireNonempty_bind_eq_ok]
  refine ⟨hrun, ne_empty_of_nonblank h.entity, hversion, ?_⟩
  exact validatePointTimestamps_of_pairwise hsorted fun t ht _ _ => nomatch ht

/-- Where a point of the replay is off the milliseconds, the trace points raise. -/
theorem trace_error (h : ReplaySound runner evidences runId entityId start stop r)
    (hoff : ∃ t ∈ gridOf runner start stop, ¬ t % 1000 = 0) :
    (r.stoppingTrace.mapM fun p => construct TracePointFields.validate (tracePointFields p)) =
      .error notMillisecond := by
  have hpoint : ∀ p ∈ r.stoppingTrace, ¬ p.timestamp % 1000 = 0 →
      construct TracePointFields.validate (tracePointFields p) = .error notMillisecond := by
    intro p hp hp'
    exact construct_eq_error ((h.trace_point hp).trans (raiseIf_of hp'))
  refine mapM_eq_error (fun p hp => ?_) ?_
  · by_cases haligned : p.timestamp % 1000 = 0
    · have hvalid := (h.trace_point hp).trans (raiseIf_of_not (not_not.mpr haligned))
      exact .inl ⟨_, construct_eq_ok hvalid⟩
    · exact .inr (hpoint p hp haligned)
  · obtain ⟨t, ht, hoff⟩ := hoff
    rw [← h.trace_times] at ht
    obtain ⟨p, hp, rfl⟩ := List.mem_map.mp ht
    exact ⟨p, hp, hpoint p hp hoff⟩

/-! ### The result -/

/-- Every episode passes its validator. -/
theorem buildEpisode_eq (h : ReplaySound runner evidences runId entityId start stop r)
    (hrun : runId ≠ "") {e : FusionEpisode} (he : e ∈ r.stoppingResult.fusionEpisodes) :
    ∃ result, buildEpisode r.evidenceSnapshots e = .ok result ∧
      result.val = episodeFields e (idsAt runner evidences e.startTime) := by
  have hid : e.episodeId ≠ "" := by
    have hmem : e.episodeId ∈ r.stoppingResult.fusionEpisodes.map (·.episodeId) :=
      List.mem_map_of_mem he
    rw [h.evaluation.ids] at hmem
    obtain ⟨i, -, hi⟩ := List.mem_map.mp hmem
    exact hi ▸ episodeId_ne_empty _
  obtain ⟨hrunId, hentityId⟩ := h.evaluation.scope e he
  have hend : ¬ ∃ t ∈ some e.endTime, t < e.startTime := by
    rintro ⟨t, ⟨⟩, hlt⟩
    exact absurd (h.evaluation.times e he).1 (Int.not_le.mpr hlt)
  have hvalid : (episodeFields e (idsAt runner evidences e.startTime)).validate = .ok () := by
    rw [EpisodeFields.validate, requireNonempty_bind_eq_ok, requireNonempty_bind_eq_ok,
      requireNonempty_bind_eq_ok, raiseIf_bind_eq_ok, raiseIf_bind_eq_ok, raiseIf_eq_ok]
    refine ⟨hid, hrunId.trans_ne hrun, hentityId.trans_ne (ne_empty_of_nonblank h.entity), ?_, ?_,
      hend⟩
    · simp [episodeFields]
    · simp [episodeFields]
  refine ⟨⟨_, hvalid⟩, ?_, rfl⟩
  rw [buildEpisode, requireSnapshot, h.evidenceIdsAt_eq (h.start_mem he).1, Except.ok_bind',
    construct_eq_ok hvalid]

/-- The episodes pass their validators, one by one. -/
theorem exists_episodes (h : ReplaySound runner evidences runId entityId start stop r)
    (hrun : runId ≠ "") :
    ∃ episodes, r.stoppingResult.fusionEpisodes.mapM (buildEpisode r.evidenceSnapshots) =
        .ok episodes ∧
      episodes.map Subtype.val = r.stoppingResult.fusionEpisodes.map fun e =>
        episodeFields e (idsAt runner evidences e.startTime) :=
  exists_mapM fun _ he => h.buildEpisode_eq hrun he

end ReplaySound

theorem minBy_mem {α : Type} {key : α → Int} {l : List α} {m : α} (h : minBy key l = some m) :
    m ∈ l := by
  induction l generalizing m with
  | nil => cases h
  | cons a l ih =>
    cases hmin : minBy key l with
    | none =>
      rw [minBy, hmin] at h
      exact Option.some.inj h ▸ List.mem_cons_self
    | some b =>
      rw [minBy, hmin] at h
      change (if key b < key a then some b else some a) = some m at h
      split at h
      · exact List.mem_cons_of_mem _ (Option.some.inj h ▸ ih hmin)
      · exact Option.some.inj h ▸ List.mem_cons_self

/-- The first of a list is the one with the least key, where all others have greater ones. -/
theorem minBy_cons_of_lt {α : Type} {key : α → Int} {a : α} {l : List α}
    (h : ∀ b ∈ l, key a < key b) : minBy key (a :: l) = some a := by
  cases hmin : minBy key l with
  | none => rw [minBy, hmin]
  | some b =>
    have hlt : key a < key b := h b (minBy_mem hmin)
    rw [minBy, hmin]
    exact if_neg (by omega)

/-- Metadata whose strings are not empty. -/
structure ScoringMetadata.Valid (m : ScoringMetadata) : Prop where
  scoringConfigVersion : m.scoringConfigVersion ≠ ""
  scoringProfileId : m.scoringProfileId ≠ ""
  scoringMethod : m.scoringMethod ≠ ""
  scorerVersion : m.scorerVersion ≠ ""
  modelVersion : m.modelVersion ≠ some ""

theorem FusionConfig.metadata_valid (config : FusionConfig) : config.metadata.Valid where
  scoringConfigVersion := ne_empty_of_nonblank config.configVersion_nonblank
  scoringProfileId := ne_empty_of_nonblank config.profileId_nonblank
  scoringMethod := by
    change "simple_score" ≠ ""
    decide
  scorerVersion := ne_empty_of_nonblank config.scorerVersion_nonblank
  modelVersion := fun h => ne_empty_of_nonblank (config.modelVersion_nonblank "" h) rfl

/-- The detection of a result: its first episode with its ids, or none at all. -/
def DetectionConsistent (fields : ResultFields) : Prop :=
  (fields.fusionStatus = .miss ∧ fields.fusionTime = none ∧ fields.scoreAtDecision = none ∧
      fields.contributingEvidenceIds = [] ∧ fields.fusionEpisodes = []) ∨
    (fields.fusionStatus = .detected ∧ fields.contributingEvidenceIds ≠ [] ∧
      ∃ first rest, fields.fusionEpisodes = first :: rest ∧
        fields.fusionTime = some first.val.startTime ∧
        fields.scoreAtDecision = some first.val.scoreAtStart ∧
        first.val.contributingEvidenceIds = some fields.contributingEvidenceIds)

/-- A result that is consistent passes its validator. -/
theorem ResultFields.validate_of_consistent {fields : ResultFields} (hrun : fields.runId ≠ "")
    (hentity : fields.entityId ≠ "") (hconfig : fields.scoringConfigVersion ≠ "")
    (hprofile : fields.scoringProfileId ≠ "") (hmodel : fields.modelVersion ≠ some "")
    (hmethod : fields.scoringMethod ≠ "") (hscorer : fields.scorerVersion ≠ "")
    (hscope : ∀ e ∈ fields.fusionEpisodes, e.val.runId = fields.runId ∧
      e.val.entityId = fields.entityId)
    (hunique : (fields.fusionEpisodes.map (·.val.episodeId)).Nodup)
    (hordered : fields.fusionEpisodes.Pairwise fun e f => e.val.startTime < f.val.startTime)
    (hdetection : DetectionConsistent fields) : fields.validate = .ok () := by
  have hcontract : fields.validateStatusContract = .ok () := by
    rw [ResultFields.validateStatusContract, raiseIf_bind_eq_ok, raiseIf_bind_eq_ok,
      raiseIf_bind_eq_ok]
    refine ⟨?_, ?_, not_not.mpr hunique, ?_⟩
    · rintro ⟨e, he, hne⟩
      exact hne (hscope e he).1
    · rintro ⟨e, he, hne⟩
      exact hne (hscope e he).2
    rcases hdetection with ⟨hstatus, htime, -, -, hepisodes⟩ | ⟨hstatus, hids, first, rest, hepisodes,
      htime, hscore, hfirst⟩
    · simp only [hstatus, raiseIf_bind_eq_ok, raiseIf_eq_ok, htime, hepisodes]
      exact ⟨fun hne => hne rfl, fun hne => hne rfl⟩
    · rw [hepisodes, List.pairwise_cons] at hordered
      simp only [hstatus, ResultFields.validateDetected, hepisodes,
        minBy_cons_of_lt hordered.1, raiseIf_bind_eq_ok, raiseIf_eq_ok, htime, hscore, hfirst]
      refine ⟨Option.some_ne_none _, fun hne => hne rfl, Option.some_ne_none _, fun hne => hne rfl,
        hids, ?_⟩
      rintro ⟨ids, hmem, hne⟩
      exact hne (Option.some.inj hmem)
  rw [ResultFields.validate, requireNonempty_bind_eq_ok, requireNonempty_bind_eq_ok,
    requireNonempty_bind_eq_ok, requireNonempty_bind_eq_ok, raiseIf_bind_eq_ok,
    requireNonempty_bind_eq_ok, requireNonempty_bind_eq_ok]
  exact ⟨hrun, hentity, hconfig, hprofile, hmodel, hmethod, hscorer, hcontract⟩

/-- What the outputs of the pipeline hold, for a replay that ends at `stop`. -/
structure ClosedOutputs (stop : Int) (out : FusionPipelineResult) : Prop where
  starts : ∀ e ∈ out.replayResult.stoppingResult.fusionEpisodes,
    (∃ p ∈ out.replayResult.trajectory, p.timestamp = e.startTime) ∧
      ∃ snapshot ∈ out.replayResult.evidenceSnapshots, snapshot.timestamp = e.startTime ∧
        snapshot.contributingEvidenceIds ≠ []
  tracePoints : out.stoppingTrace.val.points.map Subtype.val =
    out.replayResult.stoppingTrace.map tracePointFields
  increasing : (out.stoppingTrace.val.points.map (·.val.timestamp)).Pairwise (· < ·)
  terminal : (out.stoppingTrace.val.points.map (·.val.timestamp)).getLast? = some stop
  states : ∀ p ∈ out.stoppingTrace.val.points, p.val.policyState = .on ↔
    ∃ e ∈ out.fusionResult.val.fusionEpisodes, e.val.startTime ≤ p.val.timestamp ∧
      ((∃ t ∈ e.val.endTime, p.val.timestamp < t) ∨ e.val.endReason ≠ some .released)
  episodeIds : out.fusionResult.val.fusionEpisodes.map (·.val.episodeId) =
    (List.range out.fusionResult.val.fusionEpisodes.length).map fun i => episodeId (i + 1)
  unique : (out.fusionResult.val.fusionEpisodes.map (·.val.episodeId)).Nodup
  ordered : out.fusionResult.val.fusionEpisodes.Pairwise fun e f => e.val.startTime < f.val.startTime
  detection : DetectionConsistent out.fusionResult.val

namespace ReplaySound

variable {runner : TemporalReplayRunner} {evidences : List (Evidence φ)} {runId entityId : String}
  {start stop : Int} {r : TemporalReplayResult}

/-- The fields of the result of a replay. -/
abbrev fieldsOf (r : TemporalReplayResult) (runId entityId : String) (metadata : ScoringMetadata)
    (ids : List String) (episodes : List FusionEpisodeResult) : ResultFields where
  runId := runId
  entityId := entityId
  fusionTime := r.stoppingResult.fusionTime
  fusionStatus := r.stoppingResult.fusionStatus
  scoreAtDecision := r.stoppingResult.scoreAtDecision
  contributingEvidenceIds := ids
  scoringConfigVersion := metadata.scoringConfigVersion
  scoringProfileId := metadata.scoringProfileId
  modelVersion := metadata.modelVersion
  scoringMethod := metadata.scoringMethod
  scorerVersion := metadata.scorerVersion
  fusionEpisodes := episodes

/-- The ids of the detection are those of the first episode. -/
theorem exists_ids (h : ReplaySound runner evidences runId entityId start stop r)
    {episodes : List FusionEpisodeResult}
    (hmap : episodes.map Subtype.val = r.stoppingResult.fusionEpisodes.map fun e =>
      episodeFields e (idsAt runner evidences e.startTime)) (metadata : ScoringMetadata) :
    ∃ ids, resultEvidenceIds r = .ok ids ∧
      DetectionConsistent (fieldsOf r runId entityId metadata ids episodes) := by
  rcases h.evaluation.status with ⟨hstatus, htime, hscore, hepisodes⟩ |
    ⟨hstatus, first, rest, hepisodes, htime, hscore⟩
  · rw [hepisodes, List.map_nil, List.map_eq_nil_iff] at hmap
    refine ⟨[], ?_, .inl ⟨hstatus, htime, hscore, rfl, hmap⟩⟩
    rw [resultEvidenceIds, hstatus]
  · obtain ⟨hmem, hne⟩ := h.start_mem (e := first) (by rw [hepisodes]; exact List.mem_cons_self)
    rw [hepisodes, List.map_cons] at hmap
    obtain ⟨firstResult, restResults, rfl, hfirst, -⟩ := List.map_eq_cons_iff.mp hmap
    refine ⟨idsAt runner evidences first.startTime, ?_, .inr ⟨hstatus, hne, firstResult, restResults,
      rfl, ?_, ?_, ?_⟩⟩
    · simp only [resultEvidenceIds, hstatus, htime, requireSnapshot, h.evidenceIdsAt_eq hmem]
    · rw [hfirst]
      exact htime
    · rw [hfirst]
      exact hscore
    · rw [hfirst]
      rfl

/-- The result passes its validators. -/
theorem exists_fusionResult (h : ReplaySound runner evidences runId entityId start stop r)
    (hrun : runId ≠ "") {metadata : ScoringMetadata} (hmetadata : metadata.Valid) :
    ∃ result, buildFusionResult r runId entityId metadata = .ok result ∧
      result.val.fusionEpisodes.map Subtype.val = r.stoppingResult.fusionEpisodes.map (fun e =>
        episodeFields e (idsAt runner evidences e.startTime)) ∧
      (result.val.fusionEpisodes.map (·.val.episodeId)).Nodup ∧
      (result.val.fusionEpisodes.Pairwise fun e f => e.val.startTime < f.val.startTime) ∧
      DetectionConsistent result.val := by
  obtain ⟨episodes, hepisodes, hmap⟩ := h.exists_episodes hrun
  have hview : ∀ {β : Type} (view : EpisodeFields → β), episodes.map (fun e => view e.val) =
      r.stoppingResult.fusionEpisodes.map fun e =>
        view (episodeFields e (idsAt runner evidences e.startTime)) := by
    intro β view
    have := congrArg (List.map view) hmap
    rwa [List.map_map, List.map_map] at this
  have hunique : (episodes.map (·.val.episodeId)).Nodup := by
    rw [hview (·.episodeId)]
    change (r.stoppingResult.fusionEpisodes.map (·.episodeId)).Nodup
    rw [h.evaluation.ids]
    refine List.nodup_range.map fun i j hij => ?_
    have := episodeId_injective hij
    omega
  have hordered : episodes.Pairwise fun e f => e.val.startTime < f.val.startTime := by
    have := List.pairwise_map.mpr h.evaluation.ordered
    have htimes := hview (·.startTime)
    rw [← List.pairwise_map (R := fun x y : Int => x < y), htimes]
    exact this
  have hscope : ∀ e ∈ episodes, e.val.runId = runId ∧ e.val.entityId = entityId := by
    intro e he
    have hmem : e.val ∈ episodes.map Subtype.val := List.mem_map_of_mem he
    rw [hmap] at hmem
    obtain ⟨e', he', heq⟩ := List.mem_map.mp hmem
    rw [← heq]
    exact h.evaluation.scope e' he'
  obtain ⟨ids, hids, hdetection⟩ := h.exists_ids hmap metadata
  have hvalid : (fieldsOf r runId entityId metadata ids episodes).validate = .ok () :=
    ResultFields.validate_of_consistent hrun (ne_empty_of_nonblank h.entity)
      hmetadata.scoringConfigVersion hmetadata.scoringProfileId hmetadata.modelVersion
      hmetadata.scoringMethod hmetadata.scorerVersion hscope hunique hordered hdetection
  refine ⟨⟨fieldsOf r runId entityId metadata ids episodes, hvalid⟩, ?_, hmap, hunique, hordered,
    hdetection⟩
  rw [buildFusionResult, hepisodes, Except.ok_bind', hids, Except.ok_bind']
  exact construct_eq_ok hvalid

end ReplaySound

/-- What `run_fusion_pipeline` makes of a sound replay. -/
theorem ReplaySound.exists_buildOutputs {runner : TemporalReplayRunner}
    {evidences : List (Evidence φ)} {runId entityId : String} {start stop : Int}
    {r : TemporalReplayResult} (h : ReplaySound runner evidences runId entityId start stop r)
    (haligned : ∀ t ∈ gridOf runner start stop, t % 1000 = 0) (hrun : runId ≠ "")
    {metadata : ScoringMetadata} (hmetadata : metadata.Valid) :
    ∃ out, buildOutputs r runId entityId metadata = .ok out ∧ out.replayResult = r ∧
      ClosedOutputs stop out := by
  obtain ⟨result, hresult, hmap, hunique, hordered, hdetection⟩ := h.exists_fusionResult hrun hmetadata
  obtain ⟨points, hpoints, hpointsMap, trace, htrace, rfl⟩ := h.exists_trace haligned hrun
    hmetadata.scoringConfigVersion
  refine ⟨⟨r, result, trace⟩, ?_, rfl, ?_⟩
  · rw [buildOutputs, hresult, Except.ok_bind', hpoints, Except.ok_bind', htrace, Except.ok_bind']
    rfl
  have htimes : trace.val.points.map (·.val.timestamp) = r.stoppingTrace.map (·.timestamp) := by
    have := congrArg (List.map TracePointFields.timestamp) hpointsMap
    rwa [List.map_map, List.map_map] at this
  refine
    { starts := ?_, tracePoints := hpointsMap, increasing := htimes ▸ h.trace_pairwise,
      terminal := htimes ▸ h.trace_getLast?, states := ?_, episodeIds := ?_, unique := hunique,
      ordered := hordered, detection := hdetection }
  · intro e he
    obtain ⟨hmem, hne⟩ := h.start_mem he
    refine ⟨⟨_, (h.evaluation.starts e he).1, rfl⟩, ⟨e.startTime, idsAt runner evidences e.startTime⟩,
      ?_, rfl, hne⟩
    change _ ∈ r.evidenceSnapshots
    rw [show r.evidenceSnapshots = _ from congrArg Prod.snd h.observed]
    exact List.mem_map_of_mem hmem
  · intro p hp
    have hmem : p.val ∈ trace.val.points.map Subtype.val := List.mem_map_of_mem hp
    rw [hpointsMap] at hmem
    obtain ⟨q, hq, hpq⟩ := List.mem_map.mp hmem
    rw [← hpq]
    change q.policyState = .on ↔ _
    rw [h.evaluation.states q hq]
    have hepisodes : ∀ P : EpisodeFields → Prop, (∃ e ∈ result.val.fusionEpisodes, P e.val) ↔
        ∃ e ∈ r.stoppingResult.fusionEpisodes,
          P (episodeFields e (idsAt runner evidences e.startTime)) := by
      intro P
      have hany := congrArg (fun l => ∃ e ∈ l, P e) hmap
      simpa using iff_of_eq hany
    refine Iff.trans ?_ (hepisodes fun e => e.startTime ≤ q.timestamp ∧
      ((∃ t ∈ e.endTime, q.timestamp < t) ∨ e.endReason ≠ some .released)).symm
    refine exists_congr fun e => and_congr_right fun _ => and_congr_right fun _ => ?_
    simp [episodeFields]
  · have hview := congrArg (List.map EpisodeFields.episodeId) hmap
    rw [List.map_map, List.map_map] at hview
    have hlength := congrArg List.length hmap
    rw [List.length_map, List.length_map] at hlength
    change List.map (EpisodeFields.episodeId ∘ Subtype.val) result.val.fusionEpisodes = _
    rw [hview, hlength, ← h.evaluation.ids]
    rfl

/-- A replay with a point off the milliseconds has no outputs. -/
theorem ReplaySound.buildOutputs_error {runner : TemporalReplayRunner}
    {evidences : List (Evidence φ)} {runId entityId : String} {start stop : Int}
    {r : TemporalReplayResult} (h : ReplaySound runner evidences runId entityId start stop r)
    (hoff : ∃ t ∈ gridOf runner start stop, ¬ t % 1000 = 0) (hrun : runId ≠ "")
    {metadata : ScoringMetadata} (hmetadata : metadata.Valid) :
    buildOutputs r runId entityId metadata = .error notMillisecond := by
  obtain ⟨result, hresult, -⟩ := h.exists_fusionResult hrun hmetadata
  rw [buildOutputs, hresult, Except.ok_bind', h.trace_error hoff, Except.error_bind']

/-- From a millisecond, the points of a replay are milliseconds where its step is, or where it
ends at its start. -/
theorem ReplaySound.aligned_iff {runner : TemporalReplayRunner} {evidences : List (Evidence φ)}
    {runId entityId : String} {start stop : Int} {r : TemporalReplayResult}
    (h : ReplaySound runner evidences runId entityId start stop r) (hstart : start % 1000 = 0) :
    (∀ t ∈ gridOf runner start stop, t % 1000 = 0) ↔
      runner.stepSize % 1000 = 0 ∨ stop = start := by
  have hpos := runner.stepSize_pos
  constructor
  · intro haligned
    refine or_iff_not_imp_right.mpr fun hne => ?_
    have hlt : start < stop := lt_of_le_of_ne h.start_le (Ne.symm hne)
    have hstep : runner.stepSize ≤ stop - start :=
      Int.le_of_dvd (by omega) (Int.dvd_of_emod_eq_zero h.on_grid)
    have hsecond := haligned (start + runner.stepSize)
      (mem_gridOf.mpr ⟨by omega, 1, by rw [Nat.cast_one, one_mul]⟩)
    omega
  · rintro (hstep | rfl) t ht
    · obtain ⟨-, i, rfl⟩ := mem_gridOf.mp ht
      rw [Int.add_emod, hstart, Int.mul_emod, hstep]
      rfl
    · obtain ⟨hle, i, rfl⟩ := mem_gridOf.mp ht
      have hnonneg : 0 ≤ (i : Int) * runner.stepSize := Int.mul_nonneg (Int.natCast_nonneg i) hpos.le
      have hzero : (i : Int) * runner.stepSize = 0 := by omega
      rw [hzero, Int.add_zero, hstart]

/-! ## The pipeline of a configuration -/

/-- Below `2 ^ 33` seconds a float of whole milliseconds is a `timedelta` of as many. -/
theorem timedeltaSeconds_of_millis {millis : Int} (hpos : 0 < millis) (hlt : millis < 2 ^ 33 * 1000) :
    timedeltaSeconds (binary64 (millis / 1000)) = millis * 1000 := by
  have hpos' : (0 : ℚ) < millis := by exact_mod_cast hpos
  have hlt' : (millis : ℚ) < 2 ^ 33 * 1000 := by exact_mod_cast hlt
  -- The float is less than half a microsecond away.
  have hx := (abs_binary64_sub (millis / 1000)).trans
    (div_le_div_of_nonneg_right (ulp_le (e := 33) (by positivity) (by norm_num; linarith)) two_pos.le)
  -- Its microseconds past the second are rounded much closer.
  have hfract := Int.fract_nonneg (binary64 (millis / 1000))
  have hy : |binary64 (Int.fract (binary64 (millis / 1000)) * 1000000) -
      Int.fract (binary64 (millis / 1000)) * 1000000| ≤ 2 ^ (20 - 53 : ℤ) / 2 := by
    rcases hfract.eq_or_lt with hzero | hfract
    · rw [← hzero, zero_mul, binary64_zero]
      norm_num
    · refine (abs_binary64_sub _).trans (div_le_div_of_nonneg_right (ulp_le (e := 20)
        (by positivity) ?_) two_pos.le)
      have := Int.fract_lt_one (binary64 ((millis : ℚ) / 1000))
      norm_num
      linarith
  rw [timedeltaSeconds, roundHalfEven_eq (n := millis * 1000 - ⌊binary64 (millis / 1000)⌋ * 1000000)]
  · ring
  · have hfloor := Int.self_sub_floor (binary64 ((millis : ℚ) / 1000))
    rw [abs_le] at hx hy
    push_cast
    norm_num at hx hy
    rw [abs_lt]
    constructor <;> linarith [hx.1, hx.2, hy.1, hy.2]

/-- A step below `2 ^ 33` seconds is a whole number of milliseconds. -/
theorem FusionConfig.stepSize_millis (config : FusionConfig) (h : config.stepSizeSec < 2 ^ 33) :
    config.stepSize % 1000 = 0 := by
  obtain ⟨millis, hmillis⟩ : ∃ millis : Int, config.stepSizeSec * 1000 = millis :=
    ⟨(config.stepSizeSec * 1000).num, (Rat.den_eq_one_iff _).mp
      (by simpa [Rat.isInt] using config.stepSizeSec_millis) ▸ rfl⟩
  have hsec : config.stepSizeSec = millis / 1000 := by linarith
  have hpos := config.stepSizeSec_pos
  have hlower : (0 : ℚ) < millis := by linarith
  have hupper : (millis : ℚ) < 2 ^ 33 * 1000 := by linarith
  rw [stepSize, hsec, timedeltaSeconds_of_millis (by exact_mod_cast hlower) (by exact_mod_cast hupper)]
  exact Int.mul_emod_left _ _

/-- The runner of a configuration. -/
def FusionConfig.runner (config : FusionConfig) : TemporalReplayRunner where
  windowEngine := ⟨config.windowSize, config.windowSize_pos⟩
  scorer := ⟨config.evidenceTypes, config.evidenceTypes_ne_nil, config.evidenceTypes_nonblank,
    config.evidenceTypes_nodup⟩
  stoppingPolicy := ⟨config.thresholdOn, config.thresholdOff, config.persistenceK,
    config.thresholdOn_mem, config.thresholdOff_mem, config.thresholdOff_lt, config.persistenceK_pos⟩
  stepSize := config.stepSize
  stepSize_pos := config.stepSize_pos

/-- A validated configuration builds its runner. -/
theorem FusionConfig.buildRunner_eq (config : FusionConfig) :
    config.buildRunner = .ok config.runner := by
  have hengine : WindowEngine.new config.windowSize = .ok config.runner.windowEngine :=
    dif_pos config.windowSize_pos
  have hscorer : SimpleScorer.new config.evidenceTypes = .ok config.runner.scorer :=
    SimpleScorer.new_eq_ok _ _ _
  have hpolicy : ThresholdStoppingPolicy.new config.thresholdOn config.thresholdOff
      config.persistenceK = .ok config.runner.stoppingPolicy := by
    rw [ThresholdStoppingPolicy.new, dif_pos config.thresholdOn_mem, dif_pos config.thresholdOff_mem,
      dif_pos config.thresholdOff_lt, dif_pos config.persistenceK_pos]
    rfl
  rw [buildRunner, hengine, Except.ok_bind', hscorer, Except.ok_bind', hpolicy, Except.ok_bind']
  exact dif_pos config.stepSize_pos

/-- The pipeline of a configuration is its replay, and what is built from it. -/
theorem outcome_runFusionPipelineFromConfig (config : FusionConfig) (evidences : List (Evidence φ))
    (runId entityId : String) (runStart runEnd : PyDatetime) (replayEnd : Option PyDatetime)
    (s : WindowState φ) :
    outcome (runFusionPipelineFromConfig evidences config runId entityId runStart runEnd replayEnd) s =
      outcome (config.runner.run evidences runId entityId runStart runEnd replayEnd) s >>=
        fun r => buildOutputs r runId entityId config.metadata := by
  rw [runFusionPipelineFromConfig, outcome_reads_bind, config.buildRunner_eq, Except.ok_bind',
    runFusionPipeline]
  refine outcome_bind ?_ s
  intro r s'
  exact outcome_reads _ s'

section Closes

variable (config : FusionConfig) (runId entityId : String) (start : Int) (runEnd : PyDatetime)
  (replayEnd : Option PyDatetime) (evidences : List (Evidence φ)) (s : WindowState φ)

/-- The pipeline returns outputs of a replay, and they are consistent. -/
def Closes (r : TemporalReplayResult) : Prop :=
  ∃ stop boundary out, runEnd = .utc stop ∧
    TemporalReplayRunner.boundary start stop replayEnd = .ok boundary ∧
    outcome (runFusionPipelineFromConfig evidences config runId entityId (.utc start) runEnd
      replayEnd) s = .ok out ∧
    out.replayResult = r ∧ ClosedOutputs boundary.effectiveEnd out

/-- The `timedelta` of the step is a whole number of milliseconds, or the replay ends where it
starts. -/
def StepsOnMilliseconds : Prop :=
  config.stepSize % 1000 = 0 ∨ ∃ stop boundary, runEnd = .utc stop ∧
    TemporalReplayRunner.boundary start stop replayEnd = .ok boundary ∧ boundary.effectiveEnd = start

variable {config runId entityId start runEnd replayEnd evidences s}

/-- What the pipeline makes of a replay. -/
theorem closes_or_error (hrun : runId ≠ "") (hstart : start % 1000 = 0) {r : TemporalReplayResult}
    (hr : outcome (config.runner.run evidences runId entityId (.utc start) runEnd replayEnd) s =
      .ok r) :
    (StepsOnMilliseconds config start runEnd replayEnd ∧
      Closes config runId entityId start runEnd replayEnd evidences s r) ∨
    (¬ StepsOnMilliseconds config start runEnd replayEnd ∧
      outcome (runFusionPipelineFromConfig evidences config runId entityId (.utc start) runEnd
        replayEnd) s = .error notMillisecond) := by
  have hpipeline := outcome_runFusionPipelineFromConfig config evidences runId entityId (.utc start)
    runEnd replayEnd s
  rw [hr, Except.ok_bind'] at hpipeline
  obtain ⟨start', stop, boundary, hstart', rfl, hboundary, hsound⟩ := replaySound_of_ok hr
  obtain ⟨rfl, -⟩ := PyDatetime.aware.inj hstart'
  have hiff : StepsOnMilliseconds config start (.utc stop) replayEnd ↔
      config.stepSize % 1000 = 0 ∨ boundary.effectiveEnd = start := by
    refine or_congr_right ⟨?_, fun h => ⟨stop, boundary, rfl, hboundary, h⟩⟩
    rintro ⟨stop', boundary', hstop, hboundary', heq⟩
    obtain ⟨rfl, -⟩ := PyDatetime.aware.inj hstop
    obtain rfl := Except.ok.inj (hboundary.symm.trans hboundary')
    exact heq
  rw [hiff]
  have haligned := hsound.aligned_iff hstart
  by_cases hsteps : config.stepSize % 1000 = 0 ∨ boundary.effectiveEnd = start
  · obtain ⟨out, hout, hreplay, hclosed⟩ := hsound.exists_buildOutputs (haligned.mpr hsteps) hrun
      config.metadata_valid
    exact .inl ⟨hsteps, stop, boundary, out, rfl, hboundary, hpipeline.trans hout, hreplay, hclosed⟩
  · have hoff : ∃ t ∈ gridOf config.runner start boundary.effectiveEnd, ¬ t % 1000 = 0 := by
      simpa only [not_forall, exists_prop] using mt haligned.mp hsteps
    exact .inr ⟨hsteps, hpipeline.trans (hsound.buildOutputs_error hoff hrun config.metadata_valid)⟩

variable (config entityId runEnd replayEnd evidences s) in
/-- The pipeline of a validated configuration builds its runner and fails where its replay
fails. Of a replay that returns it returns consistent outputs exactly where the replay steps on
milliseconds, as it does below `2 ^ 33` seconds, and raises elsewhere; its callers name a run and
start it on a millisecond. -/
theorem runFusionPipeline_closed_iff (hrun : runId ≠ "") (hstart : start % 1000 = 0) :
    config.buildRunner = .ok config.runner ∧
      (config.stepSizeSec < 2 ^ 33 → StepsOnMilliseconds config start runEnd replayEnd) ∧
      (∀ e, outcome (config.runner.run evidences runId entityId (.utc start) runEnd replayEnd) s =
          .error e →
        outcome (runFusionPipelineFromConfig evidences config runId entityId (.utc start) runEnd
          replayEnd) s = .error e) ∧
      ∀ r, outcome (config.runner.run evidences runId entityId (.utc start) runEnd replayEnd) s =
          .ok r →
        (Closes config runId entityId start runEnd replayEnd evidences s r ↔
          StepsOnMilliseconds config start runEnd replayEnd) ∧
        (¬ StepsOnMilliseconds config start runEnd replayEnd →
          outcome (runFusionPipelineFromConfig evidences config runId entityId (.utc start) runEnd
            replayEnd) s = .error notMillisecond) := by
  refine ⟨config.buildRunner_eq, fun hlt => .inl (config.stepSize_millis hlt), fun e he => ?_,
    fun r hr => ?_⟩
  · rw [outcome_runFusionPipelineFromConfig, he, Except.error_bind']
  · rcases closes_or_error hrun hstart hr with ⟨hsteps, hcloses⟩ | ⟨hsteps, herror⟩
    · exact ⟨iff_of_true hcloses hsteps, fun hnot => absurd hsteps hnot⟩
    · refine ⟨iff_of_false ?_ hsteps, fun _ => herror⟩
      rintro ⟨-, -, out, -, -, hout, -⟩
      exact absurd (hout.symm.trans herror) nofun

end Closes

namespace Sample

theorem noModel_nonblank : ∀ v ∈ (none : Option String), isBlank v = false := by decide

theorem halfSecond : timedeltaSeconds (binary64 (1 / 2)) = 500000 := by decide +kernel

theorem halfSecond_pos : 0 < timedeltaSeconds (binary64 (1 / 2)) := by
  rw [halfSecond]
  decide

theorem halfSecond_millis : ((1 / 2 : ℚ) * 1000).isInt = true := by decide +kernel

/-- One Evidence type with an hour of memory, observed every half second. -/
def config : FusionConfig where
  configVersion := "fusion_v0"
  windowSize := 3600000000
  stepSizeSec := 1 / 2
  scorerVersion := "score_v0"
  profileId := "profile_v0"
  evidenceTypes := ["encoded_command"]
  thresholdOn := 3 / 4
  thresholdOff := 1 / 3
  persistenceK := 4
  stepSize_pos := halfSecond_pos
  stepSizeSec_millis := halfSecond_millis
  thresholdOn_mem := by norm_num
  thresholdOff_mem := by norm_num
  thresholdOff_lt := by norm_num
  modelVersion_nonblank := noModel_nonblank

/-- Evidence of that type. -/
def command : Evidence Unit where
  evidenceId := "EV-2"
  runId := "RUN-2"
  timestamp := 700000
  entityId := "host-2"
  evidenceType := "encoded_command"
  eventIds := ["EVT-2"]
  derivedFromSourceLayer := .detectorOutput
  featureChannelGroup := .fusionFeature
  extractorVersion := "v0.3"
  features := ()

/-- A step that reads as whole milliseconds, and is one microsecond less. -/
theorem unevenStep : timedeltaSeconds (binary64 (8600000000001 / 1000)) = 8600000000000999 := by
  decide +kernel

theorem unevenStep_pos : 0 < timedeltaSeconds (binary64 (8600000000001 / 1000)) := by
  rw [unevenStep]
  decide

theorem unevenStep_millis : ((8600000000001 / 1000 : ℚ) * 1000).isInt = true := by decide +kernel

def unevenConfig : FusionConfig :=
  { config with
    stepSizeSec := 8600000000001 / 1000
    stepSizeSec_pos := by norm_num
    stepSize_pos := unevenStep_pos
    stepSizeSec_millis := unevenStep_millis }

end Sample

/-- From 1970 to one step later, without Evidence, the replay returns and its outputs raise. -/
theorem runFusionPipeline_closed_fails :
    (outcome (Sample.unevenConfig.runner.run (φ := Unit) [] "RUN-2" "host-2" (.utc 0)
      (.utc 8600000000000999) none) .empty).toBool = true ∧
    outcome (runFusionPipelineFromConfig (φ := Unit) [] Sample.unevenConfig "RUN-2" "host-2" (.utc 0)
      (.utc 8600000000000999) none) .empty = .error notMillisecond := by
  have hruns : (outcome (Sample.unevenConfig.runner.run (φ := Unit) [] "RUN-2" "host-2" (.utc 0)
      (.utc 8600000000000999) none) .empty).toBool = true := by
    decide +kernel
  refine ⟨hruns, ?_⟩
  cases hr : outcome (Sample.unevenConfig.runner.run (φ := Unit) [] "RUN-2" "host-2" (.utc 0)
      (.utc 8600000000000999) none) .empty with
  | error e =>
    rw [hr] at hruns
    exact absurd hruns Bool.false_ne_true
  | ok r =>
    rcases closes_or_error (by decide) (by decide) hr with ⟨hsteps, -⟩ | ⟨-, herror⟩
    · have hstep : Sample.unevenConfig.stepSize = 8600000000000999 := Sample.unevenStep
      rcases hsteps with hsteps | ⟨stop, boundary, hend, hboundary, hsame⟩
      · rw [hstep] at hsteps
        exact absurd hsteps (by decide)
      · obtain ⟨rfl, -⟩ := PyDatetime.aware.inj hend
        obtain rfl := Except.ok.inj hboundary
        exact absurd hsame (by decide)
    · exact herror

theorem runFusionPipeline_closed_iff_sample :
    ∃ r, Closes Sample.config "RUN-2" "host-2" 0 (.utc 1500000) none [Sample.command] .empty r := by
  have hruns : (outcome (Sample.config.runner.run [Sample.command] "RUN-2" "host-2" (.utc 0)
      (.utc 1500000) none) .empty).toBool = true := by
    decide +kernel
  cases hr : outcome (Sample.config.runner.run [Sample.command] "RUN-2" "host-2" (.utc 0)
      (.utc 1500000) none) .empty with
  | error e =>
    rw [hr] at hruns
    exact absurd hruns Bool.false_ne_true
  | ok r =>
    obtain ⟨-, hsteps, -, hcloses⟩ := runFusionPipeline_closed_iff Sample.config "host-2"
      (.utc 1500000) none [Sample.command] .empty (by decide : "RUN-2" ≠ "")
      (by decide : (0 : Int) % 1000 = 0)
    exact ⟨r, (hcloses r hr).1.mpr (hsteps (by decide +kernel))⟩

end IncidentAwareness.Fusion
