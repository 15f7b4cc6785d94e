import IncidentAwareness.Fusion.Closure
import IncidentAwareness.Fusion.Episodes
import IncidentAwareness.Lib.Run

/-!
# What an evaluation reports

From the phases of a trajectory (`evaluated`):

* `firstPassage`: when the detection is made, and that stricter thresholds detect later;
* `episodes_wellFormed`: each episode is a phase, in order, and no run lies outside;
* `prefixCausal`: more points extend the trace and leave what is settled alone.
-/

namespace IncidentAwareness.Fusion

open IncidentAwareness.Common IncidentAwareness.Lib Hysteresis

variable {policy : ThresholdStoppingPolicy} {points : List ScorePoint} {runId entityId : String}
  {runEnd : Int} {reason : FusionEndReason} {result : StoppingResult} {stoppingTrace : List StoppingTracePoint}
  {s : Evaluation}

/-- The episode of a phase that has not ended. -/
def openEpisodes (runId entityId : String) (runEnd : Int) (reason : FusionEndReason)
    (x : Phases policy.hysteresis) : List FusionEpisode :=
  x.current.phase?.toList.map fun phase =>
    episodeOf runId entityId x.released.length phase runEnd reason

/-- A result holds the phases of its trajectory. -/
structure Reports (policy : ThresholdStoppingPolicy) (points : List ScorePoint) (runId entityId : String)
    (runEnd : Int) (reason : FusionEndReason) (result : StoppingResult) : Prop where
  fusionTime : result.fusionTime =
    (policy.hysteresis.phases points).all.head?.map (·.start.timestamp)
  status : result.fusionStatus = .miss ↔ (policy.hysteresis.phases points).all = []
  episodes : result.fusionEpisodes =
    releasedEpisodes runId entityId (policy.hysteresis.phases points).released ++
      openEpisodes runId entityId runEnd reason (policy.hysteresis.phases points)

/-- What `evaluate` concludes. -/
theorem reports_of_conclude (h : Refines policy runId entityId points s)
    (hresult : s.conclude runId entityId runEnd reason = .ok result) :
    Reports policy points runId entityId runEnd reason result := by
  have htime := h.fusionTime
  unfold Evaluation.conclude at hresult
  by_cases hnone : s.fusionTime = none
  · rw [if_pos hnone] at hresult
    obtain rfl := Except.pure_eq_ok.mp hresult
    have hall : (policy.hysteresis.phases points).all = [] := by
      rw [hnone] at htime
      exact List.head?_eq_none_iff.mp (Option.map_eq_none_iff.mp htime.symm)
    obtain ⟨hreleased, hopen⟩ := List.append_eq_nil_iff.mp hall
    rw [List.map_eq_nil_iff] at hreleased
    refine ⟨hnone.symm.trans htime, iff_of_true rfl hall, ?_⟩
    rw [openEpisodes, hopen, hreleased]
    rfl
  · have hall : (policy.hysteresis.phases points).all ≠ [] := by
      intro hnil
      rw [htime, hnil] at hnone
      exact hnone rfl
    rw [if_neg hnone] at hresult
    cases hcurrent : (policy.hysteresis.phases points).current with
    | waiting quiet hq =>
      have hinactive : ¬ s.active = true := by
        rw [h.active_of_waiting hcurrent]
        decide
      rw [if_neg hinactive] at hresult
      obtain rfl := Except.pure_eq_ok.mp hresult
      refine ⟨htime, iff_of_false (fun hmiss => by cases hmiss) hall, ?_⟩
      rw [openEpisodes, hcurrent]
      exact h.episodes.trans (List.append_nil _).symm
    | holding phase =>
      obtain ⟨hstart, hscore, hpeak⟩ := h.opened phase hcurrent
      rw [if_pos (h.active_of_holding hcurrent)] at hresult
      obtain ⟨episode, hclose, hresult⟩ := Except.bind_eq_ok.mp hresult
      obtain ⟨t, x, y, ht, hx, hy, rfl⟩ := ThresholdStoppingPolicy.closeEpisode_eq_ok.mp hclose
      obtain rfl := Except.pure_eq_ok.mp hresult
      obtain rfl := Option.some.inj (hstart.symm.trans ht)
      obtain rfl := Option.some.inj (hscore.symm.trans hx)
      obtain rfl := Option.some.inj (hpeak.symm.trans hy)
      refine ⟨htime, iff_of_false (fun hmiss => by cases hmiss) hall, ?_⟩
      rw [openEpisodes, hcurrent, h.episodes, Refines.length_releasedEpisodes]
      rfl

/-- The points that are evaluated are valid. -/
theorem sound_of_foldlM (h : points.foldlM (policy.observe runId entityId runEnd) {} = .ok s) :
    Sound policy runId entityId points s ∧ ∀ p ∈ points, p.timestamp ≤ runEnd := by
  induction points using List.reverseRecOn generalizing s with
  | nil =>
    obtain rfl := Except.pure_eq_ok.mp h
    exact ⟨.empty, fun p hp => absurd hp List.not_mem_nil⟩
  | append_singleton points p ih =>
    rw [List.foldlM_append] at h
    obtain ⟨s₁, hfold, h⟩ := Except.bind_eq_ok.mp h
    rw [List.foldlM_cons] at h
    obtain ⟨s₂, hstep, h⟩ := Except.bind_eq_ok.mp h
    obtain rfl := Except.pure_eq_ok.mp h
    obtain ⟨hvalid, hobserved⟩ := ThresholdStoppingPolicy.observe_cases hstep
    obtain ⟨hsound, hle⟩ := ih hfold
    refine ⟨hsound.step hvalid hobserved, fun q hq => ?_⟩
    rcases List.mem_append.mp hq with hq | hq
    · exact hle q hq
    · rw [List.mem_singleton.mp hq]
      exact hvalid.le_runEnd

/-- Of two points the later index has the later time. -/
theorem timestamp_le_of_sorted (h : points.Pairwise fun p q => p.timestamp < q.timestamp) {i j : Nat}
    {p q : ScorePoint} (hp : points[i]? = some p) (hq : points[j]? = some q) (hij : i ≤ j) :
    p.timestamp ≤ q.timestamp := by
  obtain ⟨hi, rfl⟩ := List.getElem?_eq_some_iff.mp hp
  obtain ⟨hj, rfl⟩ := List.getElem?_eq_some_iff.mp hq
  rcases hij.lt_or_eq with hlt | rfl
  · exact (List.pairwise_iff_getElem.mp h i j hi hj hlt).le
  · exact le_rfl

/-- What is known of an evaluation. -/
structure Evaluated (policy : ThresholdStoppingPolicy) (points : List ScorePoint) (runId entityId : String)
    (runEnd : Int) (reason : FusionEndReason) (result : StoppingResult)
    (stoppingTrace : List StoppingTracePoint) : Prop where
  reports : Reports policy points runId entityId runEnd reason result
  sound : EvaluationSound policy runId entityId points runEnd result stoppingTrace
  trace : stoppingTrace = traceFrom policy [] points
  sorted : points.Pairwise fun p q => p.timestamp < q.timestamp
  le_runEnd : ∀ p ∈ points, p.timestamp ≤ runEnd
  boundary : reason ≠ .released

theorem evaluated
    (h : policy.evaluate points runId entityId (.utc runEnd) reason = .ok (result, stoppingTrace)) :
    Evaluated policy points runId entityId runEnd reason result stoppingTrace := by
  have hboundary : reason ≠ .released := by
    rw [ThresholdStoppingPolicy.evaluate, raiseIf_bind_eq_ok, requireUtc_utc, Except.ok_bind',
      raiseIf_bind_eq_ok] at h
    rintro rfl
    exact h.2.1 ⟨by decide, by decide⟩
  obtain ⟨s, hfold, hresult, rfl⟩ := ThresholdStoppingPolicy.evaluate_eq_ok h
  have hrefines : Refines policy runId entityId points s := refines_foldlM hfold
  obtain ⟨hsound, hle⟩ := sound_of_foldlM hfold
  obtain ⟨result', hresult', hevaluation⟩ := hsound.exists_conclude hle hboundary
  obtain rfl := Except.ok.inj (hresult.symm.trans hresult')
  exact ⟨reports_of_conclude hrefines hresult, hevaluation, hrefines.observed, hsound.sorted, hle,
    hboundary⟩

/-! ## First passage -/

/-- The last `k` scores up to an index are at the upper threshold or above. -/
def ThresholdStoppingPolicy.PassesAt (policy : ThresholdStoppingPolicy) (points : List ScorePoint)
    (i : Nat) : Prop :=
  policy.persistenceK ≤ i + 1 ∧ ∀ j, j ≤ i → i < j + policy.persistenceK →
    ∃ p ∈ points[j]?, policy.thresholdOn ≤ p.score

theorem passesAt_hysteresis {i : Nat} :
    policy.hysteresis.PassesAt points i ↔ policy.PassesAt points i := by
  simp only [Hysteresis.PassesAt, ThresholdStoppingPolicy.PassesAt, on_hysteresis]
  exact Iff.rfl

/-- The detection is made at the first passage. -/
theorem Reports.fusionTime_iff (h : Reports policy points runId entityId runEnd reason result) (t : Int) :
    result.fusionTime = some t ↔ ∃ i p, IsLeast {i | policy.PassesAt points i} i ∧
      points[i]? = some p ∧ p.timestamp = t := by
  rw [h.fusionTime]
  cases hall : (policy.hysteresis.phases points).all with
  | nil =>
    refine iff_of_false (by simp) ?_
    rintro ⟨i, p, hleast, -⟩
    exact not_passesAt_of_all hall i (passesAt_hysteresis.mpr hleast.1)
  | cons phase rest =>
    obtain ⟨hleast, hstart⟩ := isLeast_of_all hall
    simp only [passesAt_hysteresis] at hleast
    simp only [List.head?_cons, Option.map_some, Option.some.injEq]
    constructor
    · intro ht
      exact ⟨_, _, hleast, hstart, ht⟩
    · rintro ⟨i, p, hleast', hp, rfl⟩
      obtain rfl := hleast.unique hleast'
      rw [Option.some.inj (hstart.symm.trans hp)]

theorem Reports.miss_iff (h : Reports policy points runId entityId runEnd reason result) :
    result.fusionStatus = .miss ↔ ∀ i, ¬ policy.PassesAt points i := by
  rw [h.status]
  constructor
  · intro hall i hi
    exact not_passesAt_of_all hall i (passesAt_hysteresis.mpr hi)
  · intro hnone
    cases hall : (policy.hysteresis.phases points).all with
    | nil => rfl
    | cons phase rest =>
      exact absurd (passesAt_hysteresis.mp (isLeast_of_all hall).1.1) (hnone _)

/-- A stricter policy passes where the other does. -/
theorem ThresholdStoppingPolicy.PassesAt.mono {strict : ThresholdStoppingPolicy} {i : Nat}
    (h : strict.PassesAt points i) (hon : policy.thresholdOn ≤ strict.thresholdOn)
    (hk : policy.persistenceK ≤ strict.persistenceK) :
    policy.PassesAt points i := by
  refine passesAt_hysteresis.mp ((passesAt_hysteresis.mpr h).mono (fun p hp => ?_) hk)
  rw [on_hysteresis] at hp ⊢
  exact hon.trans hp

/-- The detection of an evaluation is its first passage, a miss has none, and a policy with
a higher upper threshold or a longer persistence detects no earlier and nothing more. -/
theorem firstPassage
    (h : policy.evaluate points runId entityId (.utc runEnd) reason = .ok (result, stoppingTrace)) :
    (∀ t, result.fusionTime = some t ↔ ∃ i p, IsLeast {i | policy.PassesAt points i} i ∧
        points[i]? = some p ∧ p.timestamp = t) ∧
      (result.fusionStatus = .miss ↔ ∀ i, ¬ policy.PassesAt points i) ∧
      ∀ (strict : ThresholdStoppingPolicy) (result' : StoppingResult)
        (stoppingTrace' : List StoppingTracePoint),
        policy.thresholdOn ≤ strict.thresholdOn → policy.persistenceK ≤ strict.persistenceK →
        strict.evaluate points runId entityId (.utc runEnd) reason = .ok (result', stoppingTrace') →
        (result.fusionStatus = .miss → result'.fusionStatus = .miss) ∧
          ∀ t', result'.fusionTime = some t' → ∃ t, result.fusionTime = some t ∧ t ≤ t' := by
  have hevaluated := evaluated h
  refine ⟨hevaluated.reports.fusionTime_iff, hevaluated.reports.miss_iff, ?_⟩
  intro strict result' stoppingTrace' hon hk h'
  have hstrict := (evaluated h').reports
  constructor
  · intro hmiss
    refine hstrict.miss_iff.mpr fun i hi => ?_
    exact hevaluated.reports.miss_iff.mp hmiss i (ThresholdStoppingPolicy.PassesAt.mono hi hon hk)
  · intro t' ht'
    obtain ⟨i', p', hleast', hp', rfl⟩ := (hstrict.fusionTime_iff t').mp ht'
    have hpasses : policy.PassesAt points i' := ThresholdStoppingPolicy.PassesAt.mono hleast'.1 hon hk
    cases hall : (policy.hysteresis.phases points).all with
    | nil => exact absurd (passesAt_hysteresis.mpr hpasses) (not_passesAt_of_all hall i')
    | cons phase rest =>
      obtain ⟨hleast, hstart⟩ := isLeast_of_all hall
      have hle : phase.quiet.length ≤ i' := hleast.2 (passesAt_hysteresis.mpr hpasses)
      refine ⟨phase.start.timestamp, ?_, ?_⟩
      · rw [hevaluated.reports.fusionTime, hall]
        rfl
      · exact timestamp_le_of_sorted hevaluated.sorted hstart hp' hle

/-! A sample trajectory: two high scores, a low one, and three high ones. -/

theorem half_mem : 0 ≤ (1 / 2 : ℚ) ∧ (1 / 2 : ℚ) ≤ 1 := by norm_num

theorem quarter_mem : 0 ≤ (1 / 4 : ℚ) ∧ (1 / 4 : ℚ) ≤ 1 := by norm_num

theorem quarter_lt_half : (1 / 4 : ℚ) < 1 / 2 := by norm_num

/-- Two scores in a row at a half switch on, one below a quarter off. -/
def samplePolicy : ThresholdStoppingPolicy :=
  ⟨1 / 2, 1 / 4, 2, half_mem, quarter_mem, quarter_lt_half, Nat.le_succ 1⟩

/-- The same with three scores in a row. -/
def patientPolicy : ThresholdStoppingPolicy :=
  ⟨1 / 2, 1 / 4, 3, half_mem, quarter_mem, quarter_lt_half, Nat.le_add_left 1 2⟩

def samplePoints : List ScorePoint := [⟨0, 3 / 5⟩, ⟨1, 3 / 5⟩, ⟨2, 0⟩, ⟨3, 1 / 2⟩, ⟨4, 7 / 10⟩, ⟨5, 4 / 5⟩]

def sampleResult : StoppingResult :=
  ⟨.detected, some 1, some (3 / 5),
    [⟨"FEP-001", "RUN-1", "host-1", 1, 2, .released, 3 / 5, 3 / 5⟩,
      ⟨"FEP-002", "RUN-1", "host-1", 4, 6, .runEnd, 7 / 10, 4 / 5⟩]⟩

def sampleTrace : List StoppingTracePoint :=
  [⟨0, 3 / 5, some 1, .off⟩, ⟨1, 3 / 5, some 2, .on⟩, ⟨2, 0, none, .off⟩, ⟨3, 1 / 2, some 1, .off⟩,
    ⟨4, 7 / 10, some 2, .on⟩, ⟨5, 4 / 5, none, .on⟩]

theorem evaluate_sample :
    samplePolicy.evaluate samplePoints "RUN-1" "host-1" (.utc 6) .runEnd = .ok (sampleResult, sampleTrace) := by
  decide +kernel

def patientResult : StoppingResult :=
  ⟨.detected, some 5, some (4 / 5), [⟨"FEP-001", "RUN-1", "host-1", 5, 6, .runEnd, 4 / 5, 4 / 5⟩]⟩

def patientTrace : List StoppingTracePoint :=
  [⟨0, 3 / 5, some 1, .off⟩, ⟨1, 3 / 5, some 2, .off⟩, ⟨2, 0, none, .off⟩, ⟨3, 1 / 2, some 1, .off⟩,
    ⟨4, 7 / 10, some 2, .off⟩, ⟨5, 4 / 5, some 3, .on⟩]

theorem evaluate_patient : patientPolicy.evaluate samplePoints "RUN-1" "host-1" (.utc 6) .runEnd =
    .ok (patientResult, patientTrace) := by
  decide +kernel

theorem firstPassage_sample :
    (∀ t, sampleResult.fusionTime = some t ↔ ∃ i p, IsLeast {i | samplePolicy.PassesAt samplePoints i} i ∧
        samplePoints[i]? = some p ∧ p.timestamp = t) ∧
      ∃ t, sampleResult.fusionTime = some t ∧ t ≤ 5 := by
  obtain ⟨htime, -, hstrict⟩ := firstPassage evaluate_sample
  refine ⟨htime, ?_⟩
  exact (hstrict patientPolicy patientResult patientTrace le_rfl (by decide) evaluate_patient).2 5 rfl

/-! ## Episodes -/

/-- An episode on its trajectory, behind earlier ones: the points before its start, its
start, the points that follow inside, and the rest. -/
structure EpisodeSpan (policy : ThresholdStoppingPolicy) (points : List ScorePoint)
    (earlier : List FusionEpisode) (e : FusionEpisode) (before : List ScorePoint) (start : ScorePoint)
    (inside rest : List ScorePoint) : Prop where
  points_eq : points = before ++ start :: inside ++ rest
  startTime : e.startTime = start.timestamp
  scoreAtStart : e.scoreAtStart = start.score
  /-- It starts at the end of `k` high scores behind the earlier episodes. -/
  run : ∃ quiet run, before ++ [start] = quiet ++ run ∧ run.length = policy.persistenceK ∧
    ∀ p ∈ run, policy.thresholdOn ≤ p.score ∧ ∀ f ∈ earlier, f.endTime < p.timestamp
  above : ∀ p ∈ start :: inside, policy.thresholdOff ≤ p.score
  peak : IsGreatest {x | ∃ p ∈ start :: inside, p.score = x} e.peakScore

/-- The episodes of a result are well formed, and no run lies outside them. -/
structure EpisodesWellFormed (policy : ThresholdStoppingPolicy) (points : List ScorePoint) (runEnd : Int)
    (reason : FusionEndReason) (episodes : List FusionEpisode) : Prop where
  ordered : episodes.Pairwise fun e f => e.endTime < f.startTime
  times : ∀ e ∈ episodes, e.startTime ≤ e.endTime
  /-- An episode is released at the first low score, or it is the last and still on. -/
  span : ∀ earlier e later, episodes = earlier ++ e :: later →
    ∃ before start inside rest, EpisodeSpan policy points earlier e before start inside rest ∧
      ((e.endReason = .released ∧ ∃ release after, rest = release :: after ∧
          release.score < policy.thresholdOff ∧ e.endTime = release.timestamp) ∨
        (e.endReason = reason ∧ e.endTime = runEnd ∧ rest = [] ∧ later = []))
  ids : episodes.map (·.episodeId) = (List.range episodes.length).map fun i => episodeId (i + 1)
  ids_nodup : (episodes.map (·.episodeId)).Nodup
  maximal : ∀ before run after, points = before ++ run ++ after → run.length = policy.persistenceK →
    (∀ p ∈ run, policy.thresholdOn ≤ p.score) → ∃ p ∈ run, ∃ e ∈ episodes,
      e.startTime ≤ p.timestamp ∧ (p.timestamp < e.endTime ∨ e.endReason ≠ .released)

theorem isGreatest_foldl_max (x : ℚ) (l : List ScorePoint) :
    IsGreatest {y | y = x ∨ ∃ p ∈ l, p.score = y} (l.foldl (fun peak p => max peak p.score) x) := by
  induction l using List.reverseRecOn with
  | nil =>
    refine ⟨.inl rfl, ?_⟩
    rintro y (rfl | ⟨p, hp, -⟩)
    · exact le_rfl
    · exact absurd hp List.not_mem_nil
  | append_singleton l p ih =>
    rw [List.foldl_concat]
    constructor
    · rcases max_choice (l.foldl (fun peak p => max peak p.score) x) p.score with h | h
      · rw [h]
        rcases ih.1 with hx | ⟨q, hq, hscore⟩
        · exact .inl hx
        · exact .inr ⟨q, List.mem_append_left _ hq, hscore⟩
      · rw [h]
        exact .inr ⟨p, by simp, rfl⟩
    · rintro y (rfl | ⟨q, hq, rfl⟩)
      · exact (ih.2 (.inl rfl)).trans (le_max_left ..)
      · rcases List.mem_append.mp hq with hq | hq
        · exact (ih.2 (.inr ⟨q, hq, rfl⟩)).trans (le_max_left ..)
        · rw [List.mem_singleton.mp hq]
          exact le_max_right ..

theorem isGreatest_peakOf (phase : Phase policy.hysteresis) :
    IsGreatest {x | ∃ p ∈ phase.points, p.score = x} (peakOf phase) := by
  have hset : {x | ∃ p ∈ phase.points, p.score = x} =
      {y | y = phase.start.score ∨ ∃ p ∈ phase.inside, p.score = y} := by
    ext y
    simp [Phase.points, eq_comm]
  rw [hset]
  exact isGreatest_foldl_max ..

/-- The episode of a phase lies where the phase does. -/
theorem span_of_phase {phase : Phase policy.hysteresis} {before rest : List ScorePoint}
    (hpoints : points = before ++ phase.toList ++ rest)
    (hsorted : points.Pairwise fun p q => p.timestamp < q.timestamp) {earlier : List FusionEpisode}
    (hearlier : ∀ f ∈ earlier, ∃ p ∈ before, f.endTime = p.timestamp) (n : Nat) (endTime : Int)
    (endReason : FusionEndReason) :
    EpisodeSpan policy points earlier (episodeOf runId entityId n phase endTime endReason)
      (before ++ phase.quiet) phase.start phase.inside rest where
  points_eq := by
    rw [hpoints, Phase.toList, ← List.append_assoc]
    rfl
  startTime := rfl
  scoreAtStart := rfl
  run := by
    obtain ⟨quiet, run, hrun, hlength, hon⟩ := phase.endsInRun
    refine ⟨before ++ quiet, run, ?_, hlength, fun p hp => ⟨on_hysteresis.mp (hon p hp), ?_⟩⟩
    · rw [List.append_assoc, List.append_assoc, hrun]
    · intro f hf
      obtain ⟨q, hq, hend⟩ := hearlier f hf
      have hmem : p ∈ phase.toList := by
        have hrunMem : p ∈ phase.quiet ++ [phase.start] := hrun ▸ List.mem_append_right _ hp
        rcases List.mem_append.mp hrunMem with hquiet | hstart
        · exact List.mem_append_left _ hquiet
        · rw [List.mem_singleton.mp hstart]
          exact List.mem_append_right _ List.mem_cons_self
      rw [hpoints, List.append_assoc] at hsorted
      rw [hend]
      exact (List.pairwise_append.mp hsorted).2.2 q hq p (List.mem_append_left _ hmem)
  above := by
    intro p hp
    have hoff : policy.hysteresis.off p = false := by
      rcases List.mem_cons.mp hp with rfl | hp
      · exact policy.hysteresis.off_of_on _ (on_of_endsInRun phase.endsInRun)
      · exact phase.off_inside p hp
    rw [← not_lt, ← off_hysteresis, hoff]
    decide
  peak := isGreatest_peakOf phase

/-- A split of the released episodes is one of their phases. -/
theorem split_releasedEpisodes {rs : List (Released policy.hysteresis)} {earlier later : List FusionEpisode}
    {e : FusionEpisode} (h : releasedEpisodes runId entityId rs = earlier ++ e :: later) :
    ∃ rs₁ r rs₂, rs = rs₁ ++ r :: rs₂ ∧ earlier = releasedEpisodes runId entityId rs₁ ∧
      e = episodeOf runId entityId rs₁.length r.toPhase r.release.timestamp .released := by
  induction rs using List.reverseRecOn generalizing later with
  | nil => simp [releasedEpisodes] at h
  | append_singleton rs r ih =>
    rw [releasedEpisodes, List.mapIdx_concat] at h
    rcases split_append_singleton h with ⟨hearlier, he⟩ | ⟨later', hsplit⟩
    · exact ⟨rs, r, [], rfl, hearlier.symm, he.symm⟩
    · obtain ⟨rs₁, r', rs₂, rfl, hearlier, he⟩ := ih hsplit
      exact ⟨rs₁, r', rs₂ ++ [r], by rw [List.append_assoc]; rfl, hearlier, he⟩

theorem exists_release_of_mem {rs : List (Released policy.hysteresis)} {f : FusionEpisode}
    (hf : f ∈ releasedEpisodes runId entityId rs) :
    f.endReason = .released ∧ ∃ p ∈ rs.flatMap Released.toList, f.endTime = p.timestamp := by
  obtain ⟨n, hn, rfl⟩ := List.mem_mapIdx.mp hf
  refine ⟨rfl, rs[n].release, ?_, rfl⟩
  exact List.mem_flatMap.mpr ⟨rs[n], List.getElem_mem hn, by simp [Released.toList]⟩

theorem pairwise_of_split {α : Type} {R : α → α → Prop} {l : List α}
    (h : ∀ l₁ a l₂, l = l₁ ++ a :: l₂ → ∀ b ∈ l₁, R b a) : l.Pairwise R := by
  induction l using List.reverseRecOn with
  | nil => exact .nil
  | append_singleton l a ih =>
    rw [List.pairwise_append]
    refine ⟨ih fun l₁ b l₂ hl => ?_, List.pairwise_singleton _ _, fun b hb c hc => ?_⟩
    · exact h l₁ b (l₂ ++ [a]) (by rw [hl, List.append_assoc]; rfl)
    · rw [List.mem_singleton.mp hc]
      exact h l a [] rfl b hb

section WellFormed

variable (h : Evaluated policy points runId entityId runEnd reason result stoppingTrace)
include h

/-- Each episode of a result is a phase. -/
theorem Evaluated.exists_span {earlier later : List FusionEpisode} {e : FusionEpisode}
    (hsplit : result.fusionEpisodes = earlier ++ e :: later) :
    ∃ before start inside rest, EpisodeSpan policy points earlier e before start inside rest ∧
      ((e.endReason = .released ∧ ∃ release after, rest = release :: after ∧
          release.score < policy.thresholdOff ∧ e.endTime = release.timestamp) ∨
        (e.endReason = reason ∧ e.endTime = runEnd ∧ rest = [] ∧ later = [])) := by
  obtain ⟨x, hlist, hepisodes⟩ : ∃ x : Phases policy.hysteresis, x.toList = points ∧
      releasedEpisodes runId entityId x.released ++ openEpisodes runId entityId runEnd reason x =
        earlier ++ e :: later :=
    ⟨_, toList_phases points, h.reports.episodes.symm.trans hsplit⟩
  have hreleased : ∀ later', releasedEpisodes runId entityId x.released = earlier ++ e :: later' →
      ∃ before start inside rest, EpisodeSpan policy points earlier e before start inside rest ∧
        (e.endReason = .released ∧ ∃ release after, rest = release :: after ∧
          release.score < policy.thresholdOff ∧ e.endTime = release.timestamp) := by
    intro later' hrs
    obtain ⟨rs₁, r, rs₂, hall, rfl, rfl⟩ := split_releasedEpisodes hrs
    have hpoints : points = rs₁.flatMap Released.toList ++ r.toPhase.toList ++
        r.release :: (rs₂.flatMap Released.toList ++ x.current.toList) := by
      rw [← hlist, Phases.toList, hall, List.flatMap_append, List.flatMap_cons, Released.toList]
      simp only [List.append_assoc, List.cons_append, List.nil_append]
    exact ⟨_, _, _, _, span_of_phase hpoints h.sorted (fun f hf => (exists_release_of_mem hf).2) _ _ _,
      rfl, _, _, rfl, off_hysteresis.mp r.off_release, rfl⟩
  obtain ⟨rs, current⟩ := x
  cases current with
  | waiting quiet hq =>
    obtain ⟨before, start, inside, rest, hspan, hend⟩ :=
      hreleased later ((List.append_nil _).symm.trans hepisodes)
    exact ⟨before, start, inside, rest, hspan, .inl hend⟩
  | holding phase =>
    rcases split_append_singleton hepisodes with ⟨hearlier, he⟩ | ⟨later', hrs⟩
    · have hlater : later = [] := by
        rw [hearlier, ← he] at hepisodes
        exact (List.cons.inj (List.append_cancel_left hepisodes)).2.symm
      have hpoints : points = rs.flatMap Released.toList ++ phase.toList ++ [] :=
        hlist.symm.trans (List.append_nil _).symm
      rw [← he]
      refine ⟨_, _, _, _, span_of_phase hpoints h.sorted (fun f hf => ?_) _ _ _,
        .inr ⟨rfl, rfl, rfl, hlater⟩⟩
      rw [← hearlier] at hf
      exact (exists_release_of_mem hf).2
    · obtain ⟨before, start, inside, rest, hspan, hend⟩ := hreleased later' hrs
      exact ⟨before, start, inside, rest, hspan, .inl hend⟩

/-- Where a run ends, the observer sees the policy on. -/
theorem Evaluated.mem_trace {before after : List ScorePoint} {p : ScorePoint}
    (hpoints : points = before ++ p :: after) : tracePointOf policy before p ∈ stoppingTrace := by
  rw [h.trace, hpoints, traceFrom_append, traceFrom]
  exact List.mem_append_right _ List.mem_cons_self

/-- No run lies outside the episodes. -/
theorem Evaluated.maximal {before run after : List ScorePoint} (hpoints : points = before ++ run ++ after)
    (hlength : run.length = policy.persistenceK) (hon : ∀ p ∈ run, policy.thresholdOn ≤ p.score) :
    ∃ p ∈ run, ∃ e ∈ result.fusionEpisodes,
      e.startTime ≤ p.timestamp ∧ (p.timestamp < e.endTime ∨ e.endReason ≠ .released) := by
  have hrun : policy.hysteresis.EndsInRun (before ++ run) :=
    ⟨before, run, rfl, hlength, fun p hp => on_hysteresis.mpr (hon p hp)⟩
  rcases List.eq_nil_or_concat' run with rfl | ⟨init, p, rfl⟩
  · have := policy.persistenceK_pos
    rw [List.length_nil] at hlength
    omega
  · rw [← List.append_assoc] at hrun
    have hsplit : points = (before ++ init) ++ p :: after := by
      rw [hpoints]
      simp only [List.append_assoc, List.cons_append, List.nil_append]
    have hmem : tracePointOf policy (before ++ init) p ∈ stoppingTrace := h.mem_trace hsplit
    have hstate : (tracePointOf policy (before ++ init) p).policyState = .on :=
      if_pos (isHolding_of_endsInRun hrun)
    obtain ⟨e, he, hstart, hend⟩ := (h.sound.states _ hmem).mp hstate
    exact ⟨p, by simp, e, he, hstart, hend⟩

end WellFormed

/-- The episodes of an evaluation are well formed, and no run lies outside them. -/
theorem episodes_wellFormed
    (h : policy.evaluate points runId entityId (.utc runEnd) reason = .ok (result, stoppingTrace)) :
    EpisodesWellFormed policy points runEnd reason result.fusionEpisodes where
  ordered := by
    refine pairwise_of_split fun earlier e later hsplit f hf => ?_
    obtain ⟨before, start, inside, rest, hspan, -⟩ := (evaluated h).exists_span hsplit
    obtain ⟨quiet, run, hrun, hlength, hafter⟩ := hspan.run
    have hstart : start ∈ run := by
      rcases List.eq_nil_or_concat' run with rfl | ⟨init, p, rfl⟩
      · have := policy.persistenceK_pos
        rw [List.length_nil] at hlength
        omega
      · rw [← List.append_assoc] at hrun
        rw [(List.cons.inj (List.append_inj' hrun rfl).2).1]
        exact List.mem_append_right _ (List.mem_singleton_self p)
    rw [hspan.startTime]
    exact (hafter start hstart).2 f hf
  times e he := ((evaluated h).sound.times e he).1
  span earlier e later hsplit := (evaluated h).exists_span hsplit
  ids := (evaluated h).sound.ids
  ids_nodup := by
    rw [(evaluated h).sound.ids]
    refine List.Nodup.map (fun i j hij => ?_) List.nodup_range
    exact Nat.succ.inj (episodeId_injective hij)
  maximal before run after hpoints hlength hon := (evaluated h).maximal hpoints hlength hon

theorem episodes_wellFormed_sample :
    EpisodesWellFormed samplePolicy samplePoints 6 .runEnd sampleResult.fusionEpisodes :=
  episodes_wellFormed evaluate_sample

/-! ## The trace -/

/-- The high scores in a row that end at an index. -/
def persistenceRun (policy : ThresholdStoppingPolicy) (points : List ScorePoint) (i : Nat) :
    List ScorePoint :=
  (points.take (i + 1)).rtakeWhile fun q => policy.thresholdOn ≤ q.score

/-- Whether the policy was on before the point at an index. -/
def wasOn (stoppingTrace : List StoppingTracePoint) : Nat → Bool
  | 0 => false
  | i + 1 => stoppingTrace[i]?.any (·.policyState = .on)

/-- A trace tells the points of its trajectory and where its episodes are. -/
structure TraceAgrees (policy : ThresholdStoppingPolicy) (points : List ScorePoint)
    (episodes : List FusionEpisode) (stoppingTrace : List StoppingTracePoint) : Prop where
  points_eq : stoppingTrace.map (·.point) = points
  states : ∀ p ∈ stoppingTrace, p.policyState = .on ↔ ∃ e ∈ episodes,
    e.startTime ≤ p.timestamp ∧ (p.timestamp < e.endTime ∨ e.endReason ≠ .released)
  counts : ∀ i p, stoppingTrace[i]? = some p → p.persistenceCount =
    if wasOn stoppingTrace i = true ∨ p.score < policy.thresholdOn then none
    else some (persistenceRun policy points i).length
  /-- What is counted comes after the last release. -/
  since : ∀ i p, stoppingTrace[i]? = some p → ∀ q ∈ persistenceRun policy points i, ∀ e ∈ episodes,
    e.endReason = .released → e.endTime ≤ p.timestamp → e.endTime < q.timestamp

section Trace

variable (h : Evaluated policy points runId entityId runEnd reason result stoppingTrace)
include h

theorem Evaluated.getElem?_trace (i : Nat) :
    stoppingTrace[i]? = points[i]?.map (tracePointOf policy (points.take i)) := by
  rw [h.trace, getElem?_traceFrom]
  rfl

theorem Evaluated.wasOn_eq {i : Nat} (hi : i < points.length) :
    wasOn stoppingTrace i = (policy.hysteresis.phases (points.take i)).isHolding := by
  cases i with
  | zero => rfl
  | succ j =>
    have hget : points[j]? = some points[j] := List.getElem?_eq_getElem (by omega)
    have htake : points.take (j + 1) = points.take j ++ [points[j]] := by
      rw [List.take_add_one, hget]
      rfl
    rw [wasOn, h.getElem?_trace, hget, Option.map_some, Option.any_some, tracePointOf, ← htake]
    cases (policy.hysteresis.phases (points.take (j + 1))).isHolding with
    | false => rfl
    | true => rfl

/-- What is counted comes after the last release. -/
theorem Evaluated.since_release {i : Nat} {p : StoppingTracePoint} (hp : stoppingTrace[i]? = some p)
    {q : ScorePoint} (hq : q ∈ persistenceRun policy points i) {e : FusionEpisode}
    (he : e ∈ result.fusionEpisodes) (hreleased : e.endReason = .released)
    (hend : e.endTime ≤ p.timestamp) : e.endTime < q.timestamp := by
  obtain ⟨earlier, later, hsplit⟩ := List.append_of_mem he
  obtain ⟨before, start, inside, rest, hspan, hlast⟩ := h.exists_span hsplit
  rcases hlast with ⟨-, release, after, rfl, hlow, hrelease⟩ | ⟨hreason, -⟩
  swap
  · exact absurd (hreason.symm.trans hreleased) h.boundary
  have hmem : release ∈ points := by
    rw [hspan.points_eq]
    exact List.mem_append_right _ List.mem_cons_self
  obtain ⟨j, hj, hget⟩ := List.mem_iff_getElem.mp hmem
  -- the release is among the points up to the index
  rw [h.getElem?_trace] at hp
  obtain ⟨point, hpoint, rfl⟩ := Option.map_eq_some_iff.mp hp
  have hle : j ≤ i := by
    by_contra hlt
    obtain ⟨hi, rfl⟩ := List.getElem?_eq_some_iff.mp hpoint
    have hbefore := List.pairwise_iff_getElem.mp h.sorted i j hi hj (by omega)
    rw [hget, ← hrelease] at hbefore
    exact absurd hend (Int.not_le.mpr hbefore)
  have htaken : release ∈ points.take (i + 1) := by
    rw [← hget]
    exact List.mem_take_iff_getElem.mpr ⟨j, by omega, rfl⟩
  obtain ⟨quiet, hquiet⟩ : persistenceRun policy points i <:+ points.take (i + 1) :=
    List.rtakeWhile_suffix ..
  have hsorted : (quiet ++ persistenceRun policy points i).Pairwise
      fun p q => p.timestamp < q.timestamp := by
    rw [hquiet]
    exact h.sorted.sublist (List.take_sublist ..)
  rw [← hquiet] at htaken
  rw [hrelease]
  rcases List.mem_append.mp htaken with hout | hin
  · exact (List.pairwise_append.mp hsorted).2.2 release hout q hq
  · have hon := List.mem_rtakeWhile_imp hin
    have hhigh : policy.thresholdOn ≤ release.score := of_decide_eq_true hon
    exact absurd (hlow.trans policy.thresholdOff_lt) (not_lt.mpr hhigh)

theorem Evaluated.traceAgrees : TraceAgrees policy points result.fusionEpisodes stoppingTrace where
  points_eq := h.sound.trace_points
  states := h.sound.states
  counts i p hp := by
    rw [h.getElem?_trace] at hp
    obtain ⟨point, hpoint, rfl⟩ := Option.map_eq_some_iff.mp hp
    obtain ⟨hi, rfl⟩ := List.getElem?_eq_some_iff.mp hpoint
    have htake : points.take i ++ [points[i]] = points.take (i + 1) := by
      rw [List.take_add_one, hpoint]
      rfl
    have hcount : (policy.hysteresis.trailing (points.take i ++ [points[i]])).length =
        (persistenceRun policy points i).length := by
      rw [htake]
      rfl
    rw [tracePointOf, hcount]
    simp only [h.wasOn_eq hi]
  since i p hp q hq e he := h.since_release hp hq he

end Trace

/-- What more points leave as it is: the trace so far, a detection, and the released
episodes. -/
structure Extends (result result' : StoppingResult)
    (stoppingTrace stoppingTrace' : List StoppingTracePoint) : Prop where
  trace : stoppingTrace <+: stoppingTrace'
  fusionTime : ∀ t, result.fusionTime = some t → result'.fusionTime = some t
  released : result.fusionEpisodes.filter (·.endReason = .released) <+: result'.fusionEpisodes

theorem releasedEpisodes_isPrefix {rs rs' : List (Released policy.hysteresis)} (h : rs <+: rs') :
    releasedEpisodes runId entityId rs <+: releasedEpisodes runId entityId rs' := by
  obtain ⟨more, rfl⟩ := h
  rw [releasedEpisodes, releasedEpisodes, List.mapIdx_append]
  exact List.prefix_append _ _

/-- The released episodes of a result. -/
theorem Evaluated.filter_released
    (h : Evaluated policy points runId entityId runEnd reason result stoppingTrace) :
    result.fusionEpisodes.filter (·.endReason = .released) =
      releasedEpisodes runId entityId (policy.hysteresis.phases points).released := by
  have hopen : ∀ e ∈ openEpisodes runId entityId runEnd reason (policy.hysteresis.phases points),
      ¬ e.endReason = .released := by
    intro e he
    obtain ⟨phase, -, rfl⟩ := List.mem_map.mp he
    exact h.boundary
  have hnone : (openEpisodes runId entityId runEnd reason (policy.hysteresis.phases points)).filter
      (fun e => decide (e.endReason = .released)) = [] := by
    rw [List.filter_eq_nil_iff]
    exact fun e he => decide_eq_true_iff.not.mpr (hopen e he)
  rw [h.reports.episodes, List.filter_append, hnone, List.append_nil, List.filter_eq_self]
  intro e he
  exact decide_eq_true (exists_release_of_mem he).1

/-- An index passes in more points when it passes. -/
theorem passesAt_append_iff {more : List ScorePoint} {i : Nat} (hi : i < points.length) :
    policy.PassesAt (points ++ more) i ↔ policy.PassesAt points i := by
  refine and_congr_right fun _ => forall_congr' fun j => forall_congr' fun hj => ?_
  rw [List.getElem?_append_left (by omega)]

theorem Evaluated.extends {more : List ScorePoint} {runEnd' : Int} {reason' : FusionEndReason}
    {result' : StoppingResult} {stoppingTrace' : List StoppingTracePoint}
    (h : Evaluated policy points runId entityId runEnd reason result stoppingTrace)
    (h' : Evaluated policy (points ++ more) runId entityId runEnd' reason' result' stoppingTrace') :
    Extends result result' stoppingTrace stoppingTrace' where
  trace := by
    rw [h.trace, h'.trace, traceFrom_append]
    exact List.prefix_append _ _
  fusionTime t ht := by
    obtain ⟨i, p, hleast, hp, htime⟩ := (h.reports.fusionTime_iff t).mp ht
    have hi : i < points.length := (List.getElem?_eq_some_iff.mp hp).1
    refine (h'.reports.fusionTime_iff t).mpr ⟨i, p, ⟨(passesAt_append_iff hi).mpr hleast.1, ?_⟩, ?_, htime⟩
    · intro j hj
      by_contra hlt
      exact hlt (hleast.2 ((passesAt_append_iff (by omega)).mp hj))
    · rwa [List.getElem?_append_left hi]
  released := by
    rw [h.filter_released, h'.reports.episodes]
    exact (releasedEpisodes_isPrefix (released_phases_append points more)).trans
      (List.prefix_append _ _)

/-- A trace agrees with its episodes, and more points extend it and leave what is settled
alone. -/
theorem prefixCausal
    (h : policy.evaluate points runId entityId (.utc runEnd) reason = .ok (result, stoppingTrace)) :
    TraceAgrees policy points result.fusionEpisodes stoppingTrace ∧
      ∀ (more : List ScorePoint) (runEnd' : Int) (reason' : FusionEndReason) (result' : StoppingResult)
        (stoppingTrace' : List StoppingTracePoint),
        policy.evaluate (points ++ more) runId entityId (.utc runEnd') reason' = .ok (result', stoppingTrace') →
        Extends result result' stoppingTrace stoppingTrace' :=
  ⟨(evaluated h).traceAgrees, fun _ _ _ _ _ h' => (evaluated h).extends (evaluated h')⟩

/-- The sample, cut off inside its second episode. -/
def cutResult : StoppingResult :=
  ⟨.detected, some 1, some (3 / 5),
    [⟨"FEP-001", "RUN-1", "host-1", 1, 2, .released, 3 / 5, 3 / 5⟩,
      ⟨"FEP-002", "RUN-1", "host-1", 4, 4, .replayEnd, 7 / 10, 7 / 10⟩]⟩

theorem evaluate_cut : samplePolicy.evaluate (samplePoints.take 5) "RUN-1" "host-1" (.utc 4) .replayEnd =
    .ok (cutResult, sampleTrace.take 5) := by
  decide +kernel

theorem prefixCausal_sample :
    TraceAgrees samplePolicy (samplePoints.take 5) cutResult.fusionEpisodes (sampleTrace.take 5) ∧
      Extends cutResult sampleResult (sampleTrace.take 5) sampleTrace := by
  obtain ⟨hagrees, hextends⟩ := prefixCausal evaluate_cut
  exact ⟨hagrees, hextends (samplePoints.drop 5) 6 .runEnd _ _ evaluate_sample⟩

end IncidentAwareness.Fusion
