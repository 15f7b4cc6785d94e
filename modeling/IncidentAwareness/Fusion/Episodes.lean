import IncidentAwareness.Fusion.StoppingSpec
import IncidentAwareness.Lib.Hysteresis

/-!
# The episodes of a trajectory

The stopping policy is a hysteresis (`ThresholdStoppingPolicy.hysteresis`): after any
points its evaluation holds the phases of the points (`Refines`, `refines_foldlM`), the
released ones as episodes, and the observer has seen where the switch was (`traceFrom`).
-/

namespace IncidentAwareness.Fusion

open IncidentAwareness.Common IncidentAwareness.Lib Hysteresis

/-- The policy as a switch. -/
def ThresholdStoppingPolicy.hysteresis (policy : ThresholdStoppingPolicy) : Hysteresis ScorePoint where
  on p := policy.thresholdOn ≤ p.score
  off p := p.score < policy.thresholdOff
  k := policy.persistenceK
  k_pos := policy.persistenceK_pos
  off_of_on p hon := by
    have hlt : policy.thresholdOff < p.score :=
      policy.thresholdOff_lt.trans_le (of_decide_eq_true hon)
    exact decide_eq_false (not_lt.mpr hlt.le)

variable {policy : ThresholdStoppingPolicy}

@[simp] theorem on_hysteresis {p : ScorePoint} :
    policy.hysteresis.on p = true ↔ policy.thresholdOn ≤ p.score := decide_eq_true_iff

@[simp] theorem off_hysteresis {p : ScorePoint} :
    policy.hysteresis.off p = true ↔ p.score < policy.thresholdOff := decide_eq_true_iff

/-- The largest score of a phase. -/
def peakOf (phase : Phase policy.hysteresis) : ℚ :=
  phase.inside.foldl (fun peak p => max peak p.score) phase.start.score

/-- The episode of a phase, under its number. -/
def episodeOf (runId entityId : String) (n : Nat) (phase : Phase policy.hysteresis) (endTime : Int)
    (endReason : FusionEndReason) : FusionEpisode where
  episodeId := episodeId (n + 1)
  runId := runId
  entityId := entityId
  startTime := phase.start.timestamp
  endTime := endTime
  endReason := endReason
  scoreAtStart := phase.start.score
  peakScore := peakOf phase

/-- The episodes of the phases that have ended. -/
def releasedEpisodes (runId entityId : String) (rs : List (Released policy.hysteresis)) :
    List FusionEpisode :=
  rs.mapIdx fun n r => episodeOf runId entityId n r.toPhase r.release.timestamp .released

/-- What the observer sees of a point. -/
def tracePointOf (policy : ThresholdStoppingPolicy) (before : List ScorePoint) (p : ScorePoint) :
    StoppingTracePoint where
  timestamp := p.timestamp
  score := p.score
  persistenceCount :=
    if (policy.hysteresis.phases before).isHolding = true ∨ p.score < policy.thresholdOn then none
    else some (policy.hysteresis.trailing (before ++ [p])).length
  policyState := if (policy.hysteresis.phases (before ++ [p])).isHolding then .on else .off

/-- What the observer sees of some points, behind others. -/
def traceFrom (policy : ThresholdStoppingPolicy) : List ScorePoint → List ScorePoint →
    List StoppingTracePoint
  | _, [] => []
  | before, p :: points => tracePointOf policy before p :: traceFrom policy (before ++ [p]) points

theorem traceFrom_append (before points more : List ScorePoint) :
    traceFrom policy before (points ++ more) =
      traceFrom policy before points ++ traceFrom policy (before ++ points) more := by
  induction points generalizing before with
  | nil => rw [List.nil_append, List.append_nil, traceFrom, List.nil_append]
  | cons p points ih =>
    rw [List.cons_append, traceFrom, traceFrom, ih, List.cons_append, List.append_assoc]
    rfl

theorem getElem?_traceFrom (before points : List ScorePoint) (i : Nat) :
    (traceFrom policy before points)[i]? =
      points[i]?.map (tracePointOf policy (before ++ points.take i)) := by
  induction points generalizing before i with
  | nil => rfl
  | cons p points ih =>
    cases i with
    | zero => rw [List.take_zero, List.append_nil]; rfl
    | succ i =>
      rw [traceFrom, List.getElem?_cons_succ, List.getElem?_cons_succ, ih, List.take_succ_cons,
        List.append_assoc]
      rfl

/-- The evaluation after some points holds their phases. -/
structure Refines (policy : ThresholdStoppingPolicy) (runId entityId : String) (points : List ScorePoint)
    (s : Evaluation) : Prop where
  active : s.active = (policy.hysteresis.phases points).isHolding
  consecutive : ∀ quiet hq, (policy.hysteresis.phases points).current = .waiting quiet hq →
    s.consecutive = (policy.hysteresis.trailing quiet).length
  opened : ∀ phase, (policy.hysteresis.phases points).current = .holding phase →
    s.episodeStartTime = some phase.start.timestamp ∧
      s.episodeScoreAtStart = some phase.start.score ∧ s.peakScore = some (peakOf phase)
  episodes : s.episodes = releasedEpisodes runId entityId (policy.hysteresis.phases points).released
  fusionTime : s.fusionTime = (policy.hysteresis.phases points).all.head?.map (·.start.timestamp)
  observed : s.observed = traceFrom policy [] points

namespace Refines

variable {runId entityId : String} {points : List ScorePoint} {s s' : Evaluation} {point : ScorePoint}
  {runEnd : Int}

theorem empty : Refines policy runId entityId [] {} where
  active := rfl
  consecutive quiet hq hcurrent := by
    obtain rfl : [] = quiet := by cases hcurrent; rfl
    rfl
  opened phase hcurrent := by cases hcurrent
  episodes := rfl
  fusionTime := rfl
  observed := rfl

theorem active_of_waiting (h : Refines policy runId entityId points s) {quiet : List ScorePoint}
    {hq : policy.hysteresis.Quiet quiet}
    (hcurrent : (policy.hysteresis.phases points).current = .waiting quiet hq) : s.active = false := by
  rw [h.active, Phases.isHolding, hcurrent]
  rfl

theorem active_of_holding (h : Refines policy runId entityId points s)
    {phase : Phase policy.hysteresis}
    (hcurrent : (policy.hysteresis.phases points).current = .holding phase) : s.active = true := by
  rw [h.active, Phases.isHolding, hcurrent]
  rfl

/-- The signals at the end of all points are those since the last release. -/
theorem trailing_concat_of_waiting {quiet : List ScorePoint} {hq : policy.hysteresis.Quiet quiet}
    (hcurrent : (policy.hysteresis.phases points).current = .waiting quiet hq) :
    policy.hysteresis.trailing (points ++ [point]) = policy.hysteresis.trailing (quiet ++ [point]) := by
  have hlist : (policy.hysteresis.phases points).toList = points := toList_phases points
  rw [Phases.toList, hcurrent] at hlist
  have hpoints : points = (policy.hysteresis.phases points).released.flatMap Released.toList ++ quiet :=
    hlist.symm
  rw [hpoints, List.append_assoc, trailing_append (endsOff_released _)]

/-- What the observer sees of one point more. -/
theorem traceFrom_concat : traceFrom policy [] (points ++ [point]) =
    traceFrom policy [] points ++ [tracePointOf policy points point] := traceFrom_append ..

/-- A point that ends no run. -/
theorem wait (h : Refines policy runId entityId points s) {quiet : List ScorePoint}
    {hq : policy.hysteresis.Quiet quiet}
    (hcurrent : (policy.hysteresis.phases points).current = .waiting quiet hq)
    (hrun : ¬ policy.hysteresis.EndsInRun (quiet ++ [point])) :
    Refines policy runId entityId (points ++ [point])
      { s with
        consecutive := (policy.hysteresis.trailing (quiet ++ [point])).length
        previousTimestamp := some point.timestamp
        observed := s.observed ++ [tracePointOf policy points point] } := by
  have hstep : policy.hysteresis.phases (points ++ [point]) =
      ⟨(policy.hysteresis.phases points).released, .waiting (quiet ++ [point]) (hq.concat hrun)⟩ := by
    rw [phases_concat, step_wait hcurrent hrun]
  refine ⟨?_, fun quiet' hq' hcurrent' => ?_, fun phase hphase => ?_, ?_, ?_, ?_⟩
  · rw [hstep]
    exact h.active_of_waiting hcurrent
  · rw [hstep] at hcurrent'
    obtain rfl := Current.waiting.inj hcurrent'
    rfl
  · rw [hstep] at hphase
    cases hphase
  · rw [hstep]
    exact h.episodes
  · have hall : (policy.hysteresis.phases points).all =
        (policy.hysteresis.phases (points ++ [point])).all := by
      rw [hstep, Phases.all, hcurrent]
      rfl
    rw [← hall]
    exact h.fusionTime
  · rw [traceFrom_concat, ← h.observed]

/-- A point that ends a run. -/
theorem begin (h : Refines policy runId entityId points s) {quiet : List ScorePoint}
    {hq : policy.hysteresis.Quiet quiet}
    (hcurrent : (policy.hysteresis.phases points).current = .waiting quiet hq)
    (hrun : policy.hysteresis.EndsInRun (quiet ++ [point])) :
    Refines policy runId entityId (points ++ [point])
      { s with
        consecutive := 0
        active := true
        fusionTime := if s.fusionTime = none then some point.timestamp else s.fusionTime
        scoreAtDecision := if s.fusionTime = none then some point.score else s.scoreAtDecision
        episodeStartTime := some point.timestamp
        episodeScoreAtStart := some point.score
        peakScore := some point.score
        previousTimestamp := some point.timestamp
        observed := s.observed ++ [tracePointOf policy points point] } := by
  have hstep : policy.hysteresis.phases (points ++ [point]) =
      ⟨(policy.hysteresis.phases points).released, .holding (.begin quiet hq point hrun)⟩ := by
    rw [phases_concat, step_begin hcurrent hrun]
  refine ⟨?_, fun quiet' hq' hcurrent' => ?_, fun phase hphase => ?_, ?_, ?_, ?_⟩
  · rw [hstep]
    rfl
  · rw [hstep] at hcurrent'
    cases hcurrent'
  · rw [hstep] at hphase
    obtain rfl := Current.holding.inj hphase
    exact ⟨rfl, rfl, rfl⟩
  · rw [hstep]
    exact h.episodes
  · have hall : (policy.hysteresis.phases points).all =
        (policy.hysteresis.phases points).released.map Released.toPhase := by
      rw [Phases.all, hcurrent]
      exact List.append_nil _
    rw [hstep, h.fusionTime, hall]
    cases (policy.hysteresis.phases points).released with
    | nil => rfl
    | cons r rs => rfl
  · rw [traceFrom_concat, ← h.observed]

/-- A point while the policy waits. -/
theorem step_waiting (h : Refines policy runId entityId points s) {quiet : List ScorePoint}
    {hq : policy.hysteresis.Quiet quiet}
    (hcurrent : (policy.hysteresis.phases points).current = .waiting quiet hq) :
    Refines policy runId entityId (points ++ [point])
      (policy.observeInactive { s with previousTimestamp := some point.timestamp } point) := by
  have hinactive : s.active = false := h.active_of_waiting hcurrent
  have hnotHolding : ¬ (policy.hysteresis.phases points).isHolding = true := by
    rw [← h.active, hinactive]
    decide
  have hcount := h.consecutive quiet hq hcurrent
  have htrailing : policy.hysteresis.trailing (quiet ++ [point]) = _ := Hysteresis.trailing_concat
  by_cases hon : policy.thresholdOn ≤ point.score
  · have hlength : (policy.hysteresis.trailing (quiet ++ [point])).length = s.consecutive + 1 := by
      rw [htrailing, if_pos (on_hysteresis.mpr hon), List.length_append, List.length_singleton, hcount]
    have hseen : ∀ state, (if (policy.hysteresis.phases (points ++ [point])).isHolding then .on else .off) =
        state → tracePointOf policy points point =
          ⟨point.timestamp, point.score, some (s.consecutive + 1), state⟩ := by
      rintro state rfl
      rw [tracePointOf, trailing_concat_of_waiting hcurrent, hlength,
        if_neg (not_or.mpr ⟨hnotHolding, not_lt.mpr hon⟩)]
    by_cases hk : policy.persistenceK ≤ s.consecutive + 1
    · have hrun : policy.hysteresis.EndsInRun (quiet ++ [point]) := by
        rw [endsInRun_iff, hlength]
        exact hk
      have hnext := h.begin hcurrent hrun
      rw [hseen .on (by rw [phases_concat, step_begin hcurrent hrun]; rfl)] at hnext
      simp only [ThresholdStoppingPolicy.observeInactive, if_pos hon, if_pos hk]
      rw [ThresholdStoppingPolicy.notify_of_active rfl]
      exact hnext
    · have hrun : ¬ policy.hysteresis.EndsInRun (quiet ++ [point]) := by
        rw [endsInRun_iff, hlength]
        exact hk
      have hnext := h.wait hcurrent hrun
      rw [hlength, hseen .off (by rw [phases_concat, step_wait hcurrent hrun]; rfl)] at hnext
      simp only [ThresholdStoppingPolicy.observeInactive, if_pos hon, if_neg hk]
      rw [ThresholdStoppingPolicy.notify_of_inactive]
      · exact hnext
      · exact hinactive
  · have hlength : (policy.hysteresis.trailing (quiet ++ [point])).length = 0 := by
      rw [htrailing, if_neg (on_hysteresis.not.mpr hon), List.length_nil]
    have hk : ¬ policy.persistenceK ≤ 0 := by
      have := policy.persistenceK_pos
      omega
    have hrun : ¬ policy.hysteresis.EndsInRun (quiet ++ [point]) := by
      rw [endsInRun_iff, hlength]
      exact hk
    have hseen : tracePointOf policy points point = ⟨point.timestamp, point.score, none, .off⟩ := by
      rw [tracePointOf, if_pos (.inr (not_le.mp hon)), phases_concat, step_wait hcurrent hrun]
      rfl
    have hnext := h.wait hcurrent hrun
    rw [hlength, hseen] at hnext
    simp only [ThresholdStoppingPolicy.observeInactive, if_neg hon, if_neg hk]
    rw [ThresholdStoppingPolicy.notify_of_inactive]
    · exact hnext
    · exact hinactive

/-- The peak of a phase that goes on. -/
theorem peakOf_extend {phase : Phase policy.hysteresis} (ha : policy.hysteresis.off point = false) :
    peakOf (phase.extend point ha) = max (peakOf phase) point.score := List.foldl_concat ..

theorem length_releasedEpisodes (runId entityId : String) (rs : List (Released policy.hysteresis)) :
    (releasedEpisodes runId entityId rs).length = rs.length := List.length_mapIdx ..

/-- A point below the lower threshold. -/
theorem release (h : Refines policy runId entityId points s) {phase : Phase policy.hysteresis}
    (hcurrent : (policy.hysteresis.phases points).current = .holding phase)
    (hoff : policy.hysteresis.off point = true) :
    Refines policy runId entityId (points ++ [point])
      { s with
        consecutive := 0
        active := false
        episodeStartTime := none
        episodeScoreAtStart := none
        peakScore := none
        episodes := s.episodes ++
          [episodeOf runId entityId s.episodes.length phase point.timestamp .released]
        previousTimestamp := some point.timestamp
        observed := s.observed ++ [tracePointOf policy points point] } := by
  have hstep : policy.hysteresis.phases (points ++ [point]) =
      ⟨(policy.hysteresis.phases points).released ++ [⟨phase, point, hoff⟩], .waiting [] quiet_nil⟩ := by
    rw [phases_concat, step_release hcurrent hoff]
  refine ⟨?_, fun quiet' hq' hcurrent' => ?_, fun phase' hphase => ?_, ?_, ?_, ?_⟩
  · rw [hstep]
    rfl
  · rw [hstep] at hcurrent'
    obtain rfl := Current.waiting.inj hcurrent'
    rfl
  · rw [hstep] at hphase
    cases hphase
  · rw [hstep, h.episodes, length_releasedEpisodes, releasedEpisodes, releasedEpisodes,
      List.mapIdx_concat]
  · have hall : (policy.hysteresis.phases points).all =
        (policy.hysteresis.phases (points ++ [point])).all := by
      rw [hstep, Phases.all, Phases.all, hcurrent, List.map_append]
      exact (List.append_nil _).symm
    rw [← hall]
    exact h.fusionTime
  · rw [traceFrom_concat, ← h.observed]

/-- A point at the lower threshold or above. -/
theorem hold (h : Refines policy runId entityId points s) {phase : Phase policy.hysteresis}
    (hcurrent : (policy.hysteresis.phases points).current = .holding phase)
    (hoff : policy.hysteresis.off point = false) :
    Refines policy runId entityId (points ++ [point])
      { s with
        peakScore := some (max (peakOf phase) point.score)
        previousTimestamp := some point.timestamp
        observed := s.observed ++ [tracePointOf policy points point] } := by
  have hstep : policy.hysteresis.phases (points ++ [point]) =
      ⟨(policy.hysteresis.phases points).released, .holding (phase.extend point hoff)⟩ := by
    rw [phases_concat, step_hold hcurrent hoff]
  obtain ⟨hstart, hscore, -⟩ := h.opened phase hcurrent
  refine ⟨?_, fun quiet' hq' hcurrent' => ?_, fun phase' hphase => ?_, ?_, ?_, ?_⟩
  · rw [hstep]
    exact h.active_of_holding hcurrent
  · rw [hstep] at hcurrent'
    cases hcurrent'
  · rw [hstep] at hphase
    obtain rfl := Current.holding.inj hphase
    exact ⟨hstart, hscore, congrArg some (peakOf_extend hoff).symm⟩
  · rw [hstep]
    exact h.episodes
  · rw [hstep, h.fusionTime, Phases.all, Phases.all, hcurrent]
    cases (policy.hysteresis.phases points).released with
    | nil => rfl
    | cons r rs => rfl
  · rw [traceFrom_concat, ← h.observed]

/-- A point while the policy holds. -/
theorem step_holding (h : Refines policy runId entityId points s) {phase : Phase policy.hysteresis}
    (hcurrent : (policy.hysteresis.phases points).current = .holding phase)
    (hs' : policy.observeActive runId entityId { s with previousTimestamp := some point.timestamp }
      point = .ok s') :
    Refines policy runId entityId (points ++ [point]) s' := by
  have hactive : s.active = true := h.active_of_holding hcurrent
  have hseen : ∀ state, (if (policy.hysteresis.phases (points ++ [point])).isHolding then .on else .off) =
      state → tracePointOf policy points point = ⟨point.timestamp, point.score, none, state⟩ := by
    rintro state rfl
    rw [tracePointOf, if_pos (.inl (h.active ▸ hactive))]
  obtain ⟨hstart, hscore, hpeak⟩ := h.opened phase hcurrent
  by_cases hbelow : point.score < policy.thresholdOff
  · have hoff : policy.hysteresis.off point = true := off_hysteresis.mpr hbelow
    have hnext := h.release hcurrent hoff
    rw [hseen .off (by rw [phases_concat, step_release hcurrent hoff]; rfl)] at hnext
    simp only [ThresholdStoppingPolicy.observeActive, if_pos hbelow, Evaluation.closeEpisode, hstart,
      hscore, hpeak, Except.ok_bind', Except.pure_eq_ok] at hs'
    rw [hs', ThresholdStoppingPolicy.notify_of_inactive rfl]
    exact hnext
  · have hoff : policy.hysteresis.off point = false := by
      rw [← Bool.not_eq_true, off_hysteresis]
      exact hbelow
    have hnext := h.hold hcurrent hoff
    rw [hseen .on (by rw [phases_concat, step_hold hcurrent hoff]; rfl)] at hnext
    simp only [ThresholdStoppingPolicy.observeActive, if_neg hbelow, hpeak] at hs'
    by_cases hhigher : peakOf phase < point.score
    · rw [if_pos (by simpa using hhigher), Except.pure_eq_ok] at hs'
      rw [max_eq_right hhigher.le] at hnext
      rw [hs', ThresholdStoppingPolicy.notify_of_active]
      · exact hnext
      · exact hactive
    · rw [if_neg (by simpa using hhigher), Except.pure_eq_ok] at hs'
      rw [max_eq_left (not_lt.mp hhigher)] at hnext
      rw [hs', ThresholdStoppingPolicy.notify_of_active]
      · exact hnext
      · exact hactive

/-- A point keeps the refinement. -/
theorem step (h : Refines policy runId entityId points s)
    (hs' : policy.observe runId entityId runEnd s point = .ok s') :
    Refines policy runId entityId (points ++ [point]) s' := by
  obtain ⟨u, -, hs'⟩ := Except.bind_eq_ok.mp hs'
  cases hcurrent : (policy.hysteresis.phases points).current with
  | waiting quiet hq =>
    have hinactive : ¬ s.active = true := by
      rw [h.active_of_waiting hcurrent]
      decide
    rw [if_neg hinactive, Except.pure_eq_ok] at hs'
    rw [hs']
    exact h.step_waiting hcurrent
  | holding phase =>
    rw [if_pos (h.active_of_holding hcurrent)] at hs'
    exact h.step_holding hcurrent hs'

end Refines

/-- After any points the evaluation holds their phases. -/
theorem refines_foldlM {runId entityId : String} {runEnd : Int} {points : List ScorePoint}
    {s : Evaluation} (h : points.foldlM (policy.observe runId entityId runEnd) {} = .ok s) :
    Refines policy runId entityId points s := by
  induction points using List.reverseRecOn generalizing s with
  | nil =>
    obtain rfl := Except.pure_eq_ok.mp h
    exact .empty
  | append_singleton points p ih =>
    rw [List.foldlM_append] at h
    obtain ⟨s₁, hfold, h⟩ := Except.bind_eq_ok.mp h
    rw [List.foldlM_cons] at h
    obtain ⟨s₂, hstep, h⟩ := Except.bind_eq_ok.mp h
    obtain rfl := Except.pure_eq_ok.mp h
    exact (ih hfold).step hstep

end IncidentAwareness.Fusion
