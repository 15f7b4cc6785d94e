import IncidentAwareness.Fusion.Stopping
import Mathlib.Data.List.Basic
import Mathlib.Tactic.Linarith

/-!
# What the stopping policy decides

What a point does to the evaluation: `observe_cases` is all that can happen.
From it, over a whole trajectory: the observer sees each point once
(`Sound.trace`), a detection is never changed (`observe_fusionTime`), and the
episodes, their ids and the states observed agree (`Sound`).
-/

namespace IncidentAwareness.Fusion

open IncidentAwareness.Common IncidentAwareness.Lib

namespace ThresholdStoppingPolicy

variable {policy : ThresholdStoppingPolicy} {runId entityId : String} {runEnd : Int}
  {s s' : Evaluation} {point : ScorePoint}

/-! ## What a point does -/

/-- The checks of a point. -/
structure PointValid (s : Evaluation) (point : ScorePoint) (runEnd : Int) : Prop where
  score : 0 ≤ point.score ∧ point.score ≤ 1
  later : ∀ previous ∈ s.previousTimestamp, previous < point.timestamp
  le_runEnd : point.timestamp ≤ runEnd

theorem validatePoint_eq_ok {u : Unit} :
    validatePoint s point runEnd = .ok u ↔ PointValid s point runEnd := by
  have horder : (¬ ∃ previous ∈ s.previousTimestamp, point.timestamp ≤ previous) ↔
      ∀ previous ∈ s.previousTimestamp, previous < point.timestamp := by
    simp only [not_exists, not_and, Int.not_le]
  rw [validatePoint, raiseIf_bind_eq_ok, raiseIf_bind_eq_ok, raiseIf_bind_eq_ok, raiseIf_eq_ok,
    not_not, horder, Int.not_lt]
  exact ⟨fun ⟨h₁, h₂, _, h₃⟩ => ⟨h₁, h₂, h₃⟩, fun h => ⟨h.score, h.later, h.later, h.le_runEnd⟩⟩

/-- All that a point can do to the evaluation. -/
inductive Observed (policy : ThresholdStoppingPolicy) (runId entityId : String) (s : Evaluation)
    (point : ScorePoint) : Evaluation → Prop
  | released {startTime : Int} {scoreAtStart peakScore : ℚ} (active : s.active = true)
      (below : point.score < policy.thresholdOff) (hstart : s.episodeStartTime = some startTime)
      (hscore : s.episodeScoreAtStart = some scoreAtStart) (hpeak : s.peakScore = some peakScore) :
      Observed policy runId entityId s point
        { s with
          consecutive := 0
          active := false
          episodeStartTime := none
          episodeScoreAtStart := none
          peakScore := none
          episodes := s.episodes ++
            [{ episodeId := episodeId (s.episodes.length + 1), runId, entityId, startTime,
               endTime := point.timestamp, endReason := .released, scoreAtStart, peakScore }]
          previousTimestamp := some point.timestamp
          observed := s.observed ++ [⟨point.timestamp, point.score, none, .off⟩] }
  | held {peakScore : ℚ} (active : s.active = true) (above : policy.thresholdOff ≤ point.score) :
      Observed policy runId entityId s point
        { s with
          peakScore := some peakScore
          previousTimestamp := some point.timestamp
          observed := s.observed ++ [⟨point.timestamp, point.score, none, .on⟩] }
  | activated (inactive : s.active = false) (above : policy.thresholdOn ≤ point.score) :
      Observed policy runId entityId s point
        { s with
          consecutive := 0
          active := true
          fusionTime := if s.fusionTime = none then some point.timestamp else s.fusionTime
          scoreAtDecision := if s.fusionTime = none then some point.score else s.scoreAtDecision
          episodeStartTime := some point.timestamp
          episodeScoreAtStart := some point.score
          peakScore := some point.score
          previousTimestamp := some point.timestamp
          observed := s.observed ++
            [⟨point.timestamp, point.score, some (s.consecutive + 1), .on⟩] }
  | waiting {consecutive : Nat} {persistenceCount : Option Nat} (inactive : s.active = false)
      (hcount : ∀ n ∈ persistenceCount, 1 ≤ n) :
      Observed policy runId entityId s point
        { s with
          consecutive := consecutive
          previousTimestamp := some point.timestamp
          observed := s.observed ++ [⟨point.timestamp, point.score, persistenceCount, .off⟩] }

theorem closeEpisode_eq_ok {endTime : Int} {endReason : FusionEndReason} {episode : FusionEpisode} :
    s.closeEpisode runId entityId endTime endReason = .ok episode ↔
      ∃ startTime scoreAtStart peakScore, s.episodeStartTime = some startTime ∧
        s.episodeScoreAtStart = some scoreAtStart ∧ s.peakScore = some peakScore ∧
        episode = { episodeId := episodeId (s.episodes.length + 1), runId, entityId, startTime,
                    endTime, endReason, scoreAtStart, peakScore } := by
  unfold Evaluation.closeEpisode
  cases s.episodeStartTime <;> cases s.episodeScoreAtStart <;> cases s.peakScore <;>
    simp [eq_comm]

theorem notify_of_active {persistenceCount : Option Nat} (h : s.active = true) :
    s.notify point persistenceCount = { s with
      observed := s.observed ++ [⟨point.timestamp, point.score, persistenceCount, .on⟩] } := by
  simp [Evaluation.notify, h]

theorem notify_of_inactive {persistenceCount : Option Nat} (h : s.active = false) :
    s.notify point persistenceCount = { s with
      observed := s.observed ++ [⟨point.timestamp, point.score, persistenceCount, .off⟩] } := by
  simp [Evaluation.notify, h]

theorem observed_of_observeActive (hactive : s.active = true)
    (h : policy.observeActive runId entityId { s with previousTimestamp := some point.timestamp }
      point = .ok s') :
    Observed policy runId entityId s point s' := by
  unfold observeActive at h
  split at h
  · next hbelow =>
    obtain ⟨episode, hclose, h⟩ := Except.bind_eq_ok.mp h
    obtain ⟨startTime, scoreAtStart, peakScore, hstart, hscore, hpeak, rfl⟩ :=
      closeEpisode_eq_ok.mp hclose
    rw [Except.pure_eq_ok] at h
    rw [h]
    exact .released hactive hbelow hstart hscore hpeak
  · next habove =>
    split at h
    · rw [Except.pure_eq_ok, notify_of_active] at h
      · rw [h]
        exact .held hactive (not_lt.mp habove)
      · exact hactive
    · next hpeak =>
      rw [Except.pure_eq_ok, notify_of_active] at h
      swap
      · exact hactive
      obtain ⟨peakScore, hsome⟩ : ∃ peakScore, s.peakScore = some peakScore := by
        cases hnone : s.peakScore with
        | none => simp [hnone] at hpeak
        | some peakScore => exact ⟨peakScore, rfl⟩
      rw [h, hsome]
      exact .held hactive (not_lt.mp habove)

theorem observed_observeInactive (hactive : s.active = false) :
    Observed policy runId entityId s point
      (policy.observeInactive { s with previousTimestamp := some point.timestamp } point) := by
  have hk := policy.persistenceK_pos
  by_cases habove : policy.thresholdOn ≤ point.score
  · by_cases hcount : policy.persistenceK ≤ s.consecutive + 1
    · simp only [observeInactive, habove, hcount, if_true]
      rw [notify_of_active rfl]
      exact .activated hactive habove
    · simp only [observeInactive, habove, hcount, if_true, if_false]
      rw [notify_of_inactive]
      · refine .waiting hactive fun n hn => ?_
        obtain rfl := Option.some.inj hn
        omega
      · exact hactive
  · have hcount : ¬ policy.persistenceK ≤ 0 := by omega
    simp only [observeInactive, habove, hcount, if_false]
    rw [notify_of_inactive]
    · exact .waiting hactive fun n hn => nomatch hn
    · exact hactive

/-- What a point that is accepted does. -/
theorem observe_cases (h : policy.observe runId entityId runEnd s point = .ok s') :
    PointValid s point runEnd ∧ Observed policy runId entityId s point s' := by
  obtain ⟨u, hvalid, h⟩ := Except.bind_eq_ok.mp h
  refine ⟨validatePoint_eq_ok.mp hvalid, ?_⟩
  cases hactive : s.active with
  | true =>
    simp only [hactive, if_true] at h
    exact observed_of_observeActive hactive (by simpa only [hactive] using h)
  | false =>
    simp only [hactive, Bool.false_eq_true, if_false, Except.pure_eq_ok] at h
    have : Observed policy runId entityId s point _ := observed_observeInactive hactive
    rw [h]
    simpa only [hactive] using this

/-- A valid point is observed, where an active evaluation knows its episode. -/
theorem exists_observe (hvalid : PointValid s point runEnd)
    (hopen : s.active = true → ∃ startTime scoreAtStart peakScore,
      s.episodeStartTime = some startTime ∧ s.episodeScoreAtStart = some scoreAtStart ∧
        s.peakScore = some peakScore) :
    ∃ s', policy.observe runId entityId runEnd s point = .ok s' := by
  unfold observe
  rw [validatePoint_eq_ok (u := ()) |>.mpr hvalid, Except.ok_bind']
  cases hactive : s.active with
  | false => exact ⟨_, rfl⟩
  | true =>
    obtain ⟨startTime, scoreAtStart, peakScore, hstart, hscore, hpeak⟩ := hopen hactive
    simp only [if_true, observeActive, Evaluation.closeEpisode, hstart, hscore, hpeak]
    split
    · exact ⟨_, rfl⟩
    · split
      · exact ⟨_, rfl⟩
      · exact ⟨_, rfl⟩

/-- A detection is never changed, and a new one is made at the point. -/
theorem Observed.fusionTime (h : Observed policy runId entityId s point s') :
    (s'.fusionTime = s.fusionTime ∧ s'.scoreAtDecision = s.scoreAtDecision) ∨
      (s.fusionTime = none ∧ s'.fusionTime = some point.timestamp ∧
        s'.scoreAtDecision = some point.score) := by
  cases h with
  | released => exact .inl ⟨rfl, rfl⟩
  | held => exact .inl ⟨rfl, rfl⟩
  | waiting => exact .inl ⟨rfl, rfl⟩
  | activated =>
    by_cases hnone : s.fusionTime = none
    · exact .inr ⟨hnone, by simp [hnone], by simp [hnone]⟩
    · exact .inl ⟨by simp [hnone], by simp [hnone]⟩

/-- The observer sees the point. -/
theorem Observed.observed (h : Observed policy runId entityId s point s') :
    ∃ count state, (∀ n ∈ count, 1 ≤ n) ∧
      s'.observed = s.observed ++ [⟨point.timestamp, point.score, count, state⟩] := by
  cases h with
  | released => exact ⟨none, .off, (fun n hn => nomatch hn), rfl⟩
  | held => exact ⟨none, .on, (fun n hn => nomatch hn), rfl⟩
  | waiting _ hcount => exact ⟨_, .off, hcount, rfl⟩
  | activated =>
    refine ⟨some (s.consecutive + 1), .on, fun n hn => ?_, rfl⟩
    obtain rfl := Option.some.inj hn
    omega

theorem Observed.previousTimestamp (h : Observed policy runId entityId s point s') :
    s'.previousTimestamp = some point.timestamp := by
  cases h <;> rfl

end ThresholdStoppingPolicy

/-! ## Over a trajectory -/

/-- The point that a trace point repeats. -/
def StoppingTracePoint.point (p : StoppingTracePoint) : ScorePoint := ⟨p.timestamp, p.score⟩

/-- The start of the episode that is still active. -/
def Evaluation.openStart (s : Evaluation) : Option ScorePoint :=
  s.episodeStartTime.bind fun t => s.episodeScoreAtStart.map fun x => ⟨t, x⟩

/-- The starts of the episodes so far. -/
def Evaluation.starts (s : Evaluation) : List ScorePoint :=
  s.episodes.map (fun e => ⟨e.startTime, e.scoreAtStart⟩) ++ s.openStart.toList

/-- What holds of an episode that was released at one of the points. -/
structure ReleasedEpisode (runId entityId : String) (points : List ScorePoint) (e : FusionEpisode) :
    Prop where
  runId_eq : e.runId = runId
  entityId_eq : e.entityId = entityId
  start_lt : e.startTime < e.endTime
  endReason : e.endReason = .released
  endTime_mem : ∃ p ∈ points, p.timestamp = e.endTime

/-- What holds of the evaluation after some points. -/
structure Sound (policy : ThresholdStoppingPolicy) (runId entityId : String)
    (points : List ScorePoint) (s : Evaluation) : Prop where
  sorted : points.Pairwise fun p q => p.timestamp < q.timestamp
  trace : s.observed.map (·.point) = points
  previous : s.previousTimestamp = points.getLast?.map (·.timestamp)
  count : ∀ p ∈ s.observed, ∀ n ∈ p.persistenceCount, 1 ≤ n
  opened : s.active = true → s.openStart.isSome ∧ s.peakScore.isSome
  closed : s.active = false → s.episodeStartTime = none
  episodes : ∀ e ∈ s.episodes, ReleasedEpisode runId entityId points e
  ids : s.episodes.map (·.episodeId) = (List.range s.episodes.length).map fun i => episodeId (i + 1)
  starts_mem : ∀ p ∈ s.starts, p ∈ points ∧ policy.thresholdOn ≤ p.score
  starts_sorted : s.starts.Pairwise fun p q => p.timestamp < q.timestamp
  fusionTime : s.fusionTime = s.starts.head?.map (·.timestamp)
  scoreAtDecision : s.scoreAtDecision = s.starts.head?.map (·.score)
  states : ∀ p ∈ s.observed, p.policyState = .on ↔
    (∃ e ∈ s.episodes, e.startTime ≤ p.timestamp ∧ p.timestamp < e.endTime) ∨
      ∃ t ∈ s.episodeStartTime, t ≤ p.timestamp

namespace Sound

variable {policy : ThresholdStoppingPolicy} {runId entityId : String} {points : List ScorePoint}
  {s s' : Evaluation} {point : ScorePoint} {runEnd : Int}

theorem empty : Sound policy runId entityId [] {} where
  sorted := .nil
  trace := rfl
  previous := rfl
  count := fun _ hp => nomatch hp
  opened := fun h => nomatch h
  closed := fun _ => rfl
  episodes := fun _ he => nomatch he
  ids := rfl
  starts_mem := fun _ hp => nomatch hp
  starts_sorted := .nil
  fusionTime := rfl
  scoreAtDecision := rfl
  states := fun _ hp => nomatch hp

/-- A valid point comes after all points before it. -/
theorem later (h : Sound policy runId entityId points s)
    (hvalid : ThresholdStoppingPolicy.PointValid s point runEnd) :
    ∀ p ∈ points, p.timestamp < point.timestamp := by
  have hlater := hvalid.later
  rw [h.previous] at hlater
  rcases List.eq_nil_or_concat' points with rfl | ⟨init, last, rfl⟩
  · exact fun p hp => nomatch hp
  · have hlast : last.timestamp < point.timestamp := hlater _ (by simp)
    intro p hp
    rcases List.mem_append.mp hp with hp | hp
    · have := (List.pairwise_append.mp h.sorted).2.2 p hp last (by simp)
      omega
    · rwa [List.mem_singleton.mp hp]

theorem observed_timestamp (h : Sound policy runId entityId points s) {p : StoppingTracePoint}
    (hp : p ∈ s.observed) : p.point ∈ points := h.trace ▸ List.mem_map_of_mem hp

theorem openStart_eq_none (h : Sound policy runId entityId points s) (hactive : s.active = false) :
    s.openStart = none := by
  rw [Evaluation.openStart, h.closed hactive]
  rfl

/-- An episode starts at the point, or the starts stay as they are. -/
theorem step_starts (h : Sound policy runId entityId points s)
    (hobs : ThresholdStoppingPolicy.Observed policy runId entityId s point s') :
    (s'.starts = s.starts ∧ s'.fusionTime = s.fusionTime ∧
        s'.scoreAtDecision = s.scoreAtDecision) ∨
      (policy.thresholdOn ≤ point.score ∧ s'.starts = s.starts ++ [point] ∧
        s'.fusionTime = (if s.fusionTime = none then some point.timestamp else s.fusionTime) ∧
        s'.scoreAtDecision =
          if s.fusionTime = none then some point.score else s.scoreAtDecision) := by
  cases hobs with
  | released active below hstart hscore hpeak =>
    left
    simp [Evaluation.starts, Evaluation.openStart, hstart, hscore]
  | held active above => exact .inl ⟨rfl, rfl, rfl⟩
  | waiting inactive hcount => exact .inl ⟨rfl, rfl, rfl⟩
  | activated inactive above =>
    refine .inr ⟨above, ?_, rfl, rfl⟩
    simp [Evaluation.starts, h.openStart_eq_none inactive]
    rfl

theorem step_episodes (h : Sound policy runId entityId points s)
    (hlater : ∀ p ∈ points, p.timestamp < point.timestamp)
    (hobs : ThresholdStoppingPolicy.Observed policy runId entityId s point s') :
    ∀ e ∈ s'.episodes, ReleasedEpisode runId entityId (points ++ [point]) e := by
  have hold : ∀ e ∈ s.episodes, ReleasedEpisode runId entityId (points ++ [point]) e := by
    intro e he
    obtain ⟨h₁, h₂, h₃, h₄, p, hp, h₅⟩ := h.episodes e he
    exact ⟨h₁, h₂, h₃, h₄, p, List.mem_append_left _ hp, h₅⟩
  cases hobs with
  | held | waiting | activated => exact hold
  | @released startTime scoreAtStart peakScore active below hstart hscore hpeak =>
    intro e he
    rcases List.mem_append.mp he with he | he
    · exact hold e he
    · rw [List.mem_singleton.mp he]
      have hmem : (⟨startTime, scoreAtStart⟩ : ScorePoint) ∈ s.starts := by
        simp [Evaluation.starts, Evaluation.openStart, hstart, hscore]
      have hlt := hlater _ (h.starts_mem _ hmem).1
      exact ⟨rfl, rfl, hlt, rfl, point, by simp, rfl⟩

theorem step_ids (h : Sound policy runId entityId points s)
    (hobs : ThresholdStoppingPolicy.Observed policy runId entityId s point s') :
    s'.episodes.map (·.episodeId) =
      (List.range s'.episodes.length).map fun i => episodeId (i + 1) := by
  cases hobs with
  | held | waiting | activated => exact h.ids
  | released =>
    rw [List.map_append, h.ids, List.length_append, List.length_singleton, List.range_succ,
      List.map_append]
    rfl

/-- The start of the active episode, one of the points. -/
theorem episodeStartTime_mem (h : Sound policy runId entityId points s)
    (hactive : s.active = true) : ∃ p ∈ points, s.episodeStartTime = some p.timestamp := by
  obtain ⟨p, hp⟩ := Option.isSome_iff_exists.mp (h.opened hactive).1
  have hmem : p ∈ s.starts := List.mem_append_right _ (by simp [hp])
  refine ⟨p, (h.starts_mem p hmem).1, ?_⟩
  obtain ⟨t, ht, hx⟩ := Option.bind_eq_some_iff.mp hp
  obtain ⟨x, -, rfl⟩ := Option.map_eq_some_iff.mp hx
  exact ht

theorem step_states (h : Sound policy runId entityId points s)
    (hlater : ∀ p ∈ points, p.timestamp < point.timestamp)
    (hobs : ThresholdStoppingPolicy.Observed policy runId entityId s point s') :
    ∀ p ∈ s'.observed, p.policyState = .on ↔
      (∃ e ∈ s'.episodes, e.startTime ≤ p.timestamp ∧ p.timestamp < e.endTime) ∨
        ∃ t ∈ s'.episodeStartTime, t ≤ p.timestamp := by
  -- an episode that has ended is over at the new point
  have hended : ¬ ∃ e ∈ s.episodes, e.startTime ≤ point.timestamp ∧ point.timestamp < e.endTime := by
    rintro ⟨e, he, -, hlt⟩
    obtain ⟨p, hp, hend⟩ := (h.episodes e he).endTime_mem
    have := hlater p hp
    omega
  have hbefore : ∀ p ∈ s.observed, p.timestamp < point.timestamp := fun p hp =>
    hlater _ (h.observed_timestamp hp)
  intro p hp
  cases hobs with
  | waiting inactive hcount =>
    rcases List.mem_append.mp hp with hp | hp
    · exact h.states p hp
    · obtain rfl := List.mem_singleton.mp hp
      simp [hended, h.closed inactive]
  | held active above =>
    rcases List.mem_append.mp hp with hp | hp
    · exact h.states p hp
    · obtain rfl := List.mem_singleton.mp hp
      obtain ⟨q, hq, hstart⟩ := h.episodeStartTime_mem active
      have := (hlater q hq).le
      simp [hstart, this]
  | activated inactive above =>
    rcases List.mem_append.mp hp with hp | hp
    · have hlt := Int.not_le.mpr (hbefore p hp)
      rw [h.states p hp, h.closed inactive]
      simp [hlt]
    · obtain rfl := List.mem_singleton.mp hp
      simp
  | @released startTime scoreAtStart peakScore active below hstart hscore hpeak =>
    rcases List.mem_append.mp hp with hp | hp
    · have hlt := hbefore p hp
      rw [h.states p hp, hstart]
      simp [or_and_right, exists_or, hlt]
    · obtain rfl := List.mem_singleton.mp hp
      simp only [reduceCtorEq, false_iff, Option.not_mem_none, false_and, exists_false, or_false]
      rintro ⟨e, he, hle, hlt⟩
      rcases List.mem_append.mp he with he | he
      · exact hended ⟨e, he, hle, hlt⟩
      · rw [List.mem_singleton.mp he] at hlt
        exact lt_irrefl _ hlt

/-- What one point preserves. -/
theorem step (h : Sound policy runId entityId points s)
    (hvalid : ThresholdStoppingPolicy.PointValid s point runEnd)
    (hobs : ThresholdStoppingPolicy.Observed policy runId entityId s point s') :
    Sound policy runId entityId (points ++ [point]) s' := by
  have hlater := h.later hvalid
  obtain ⟨count, state, hcount, hobserved⟩ := hobs.observed
  have hstarts := h.step_starts hobs
  have hhead : ∀ {β : Type} (f : ScorePoint → β), (s.starts ++ [point]).head?.map f =
      if s.fusionTime = none then some (f point) else s.starts.head?.map f := by
    intro β f
    rw [h.fusionTime]
    cases s.starts <;> simp
  refine
    { sorted := ?_, trace := ?_, previous := ?_, count := ?_, opened := ?_, closed := ?_,
      episodes := h.step_episodes hlater hobs, ids := h.step_ids hobs, starts_mem := ?_,
      starts_sorted := ?_, fusionTime := ?_, scoreAtDecision := ?_,
      states := h.step_states hlater hobs }
  · rw [List.pairwise_append]
    refine ⟨h.sorted, List.pairwise_singleton _ _, fun p hp q hq => ?_⟩
    rw [List.mem_singleton.mp hq]
    exact hlater p hp
  · rw [hobserved, List.map_append, h.trace]
    rfl
  · rw [hobs.previousTimestamp, List.getLast?_concat]
    rfl
  · intro p hp
    rw [hobserved] at hp
    rcases List.mem_append.mp hp with hp | hp
    · exact h.count p hp
    · rw [List.mem_singleton.mp hp]
      exact hcount
  · cases hobs with
    | released => exact fun hactive => nomatch hactive
    | waiting inactive => exact fun hactive => absurd (inactive.symm.trans hactive) (by decide)
    | held active => exact fun _ => ⟨(h.opened active).1, rfl⟩
    | activated => exact fun _ => ⟨rfl, rfl⟩
  · cases hobs with
    | released => exact fun _ => rfl
    | waiting inactive => exact fun _ => h.closed inactive
    | held active => exact fun hinactive => absurd (hinactive.symm.trans active) (by decide)
    | activated => exact fun hinactive => nomatch hinactive
  · rcases hstarts with ⟨hsame, -⟩ | ⟨habove, hnew, -⟩
    · rw [hsame]
      exact fun p hp => ⟨List.mem_append_left _ (h.starts_mem p hp).1, (h.starts_mem p hp).2⟩
    · rw [hnew]
      intro p hp
      rcases List.mem_append.mp hp with hp | hp
      · exact ⟨List.mem_append_left _ (h.starts_mem p hp).1, (h.starts_mem p hp).2⟩
      · rw [List.mem_singleton.mp hp]
        exact ⟨by simp, habove⟩
  · rcases hstarts with ⟨hsame, -⟩ | ⟨-, hnew, -⟩
    · rw [hsame]
      exact h.starts_sorted
    · rw [hnew, List.pairwise_append]
      refine ⟨h.starts_sorted, List.pairwise_singleton _ _, fun p hp q hq => ?_⟩
      rw [List.mem_singleton.mp hq]
      exact hlater p (h.starts_mem p hp).1
  · rcases hstarts with ⟨hsame, htime, -⟩ | ⟨-, hnew, htime, -⟩
    · rw [hsame, htime, h.fusionTime]
    · rw [hnew, htime, hhead, h.fusionTime]
  · rcases hstarts with ⟨hsame, -, hscore⟩ | ⟨-, hnew, -, hscore⟩
    · rw [hsame, hscore, h.scoreAtDecision]
    · rw [hnew, hscore, hhead, h.scoreAtDecision]

end Sound

/-- What the rest of a trajectory adds: its points to the trace, and a detection
at one of them where there is none yet. -/
theorem foldlM_observe {policy : ThresholdStoppingPolicy} {runId entityId : String} {runEnd : Int}
    {more : List ScorePoint} {s s' : Evaluation}
    (h : more.foldlM (policy.observe runId entityId runEnd) s = .ok s') :
    (∃ obs : List StoppingTracePoint, s'.observed = s.observed ++ obs ∧ obs.map (·.point) = more) ∧
      ((s'.fusionTime = s.fusionTime ∧ s'.scoreAtDecision = s.scoreAtDecision) ∨
        (s.fusionTime = none ∧ ∃ p ∈ more, s'.fusionTime = some p.timestamp)) := by
  induction more generalizing s with
  | nil =>
    obtain rfl := Except.pure_eq_ok.mp h
    exact ⟨⟨[], by simp, rfl⟩, .inl ⟨rfl, rfl⟩⟩
  | cons p more ih =>
    rw [List.foldlM_cons] at h
    obtain ⟨s₁, hstep, hrest⟩ := Except.bind_eq_ok.mp h
    have hobs := (ThresholdStoppingPolicy.observe_cases hstep).2
    obtain ⟨count, state, -, hobserved⟩ := hobs.observed
    obtain ⟨⟨obs, hobs', hmap⟩, hdetection⟩ := ih hrest
    refine ⟨⟨_ :: obs, by rw [hobs', hobserved, List.append_assoc]; rfl, ?_⟩, ?_⟩
    · rw [List.map_cons, hmap]
      rfl
    · rcases hdetection with ⟨htime, hscore⟩ | ⟨hnone, q, hq, htime⟩
      · rcases hobs.fusionTime with ⟨htime₁, hscore₁⟩ | ⟨hnone, htime₁, -⟩
        · exact .inl ⟨htime.trans htime₁, hscore.trans hscore₁⟩
        · exact .inr ⟨hnone, p, List.mem_cons_self, htime.trans htime₁⟩
      · refine .inr ⟨?_, q, List.mem_cons_of_mem _ hq, htime⟩
        rcases hobs.fusionTime with ⟨htime₁, -⟩ | ⟨hnone₁, -⟩
        · exact htime₁.symm.trans hnone
        · exact hnone₁

namespace Sound

variable {policy : ThresholdStoppingPolicy} {runId entityId : String} {points : List ScorePoint}
  {s s' : Evaluation} {point : ScorePoint} {runEnd : Int}

/-- A valid point can be observed. -/
theorem exists_step (h : Sound policy runId entityId points s)
    (hvalid : ThresholdStoppingPolicy.PointValid s point runEnd) :
    ∃ s', policy.observe runId entityId runEnd s point = .ok s' ∧
      Sound policy runId entityId (points ++ [point]) s' := by
  have hexists : ∃ s', policy.observe runId entityId runEnd s point = .ok s' := by
    refine ThresholdStoppingPolicy.exists_observe hvalid fun hactive => ?_
    obtain ⟨hstart, hpeak⟩ := h.opened hactive
    obtain ⟨p, hp⟩ := Option.isSome_iff_exists.mp hstart
    obtain ⟨t, ht, hx⟩ := Option.bind_eq_some_iff.mp hp
    obtain ⟨x, hx, -⟩ := Option.map_eq_some_iff.mp hx
    obtain ⟨y, hy⟩ := Option.isSome_iff_exists.mp hpeak
    exact ⟨t, x, y, ht, hx, hy⟩
  obtain ⟨s', hs'⟩ := hexists
  exact ⟨s', hs', h.step hvalid (ThresholdStoppingPolicy.observe_cases hs').2⟩

/-- A trajectory of valid points in order is observed to its end. -/
theorem exists_foldlM (h : Sound policy runId entityId points s) {more : List ScorePoint}
    (hsorted : (points ++ more).Pairwise fun p q => p.timestamp < q.timestamp)
    (hscore : ∀ p ∈ more, 0 ≤ p.score ∧ p.score ≤ 1) (hle : ∀ p ∈ more, p.timestamp ≤ runEnd) :
    ∃ s', more.foldlM (policy.observe runId entityId runEnd) s = .ok s' ∧
      Sound policy runId entityId (points ++ more) s' := by
  induction more generalizing points s with
  | nil => exact ⟨s, rfl, by rwa [List.append_nil]⟩
  | cons p more ih =>
    have hlater : ∀ previous ∈ s.previousTimestamp, previous < p.timestamp := by
      rw [h.previous]
      intro previous hprevious
      obtain ⟨q, hq, rfl⟩ := Option.map_eq_some_iff.mp hprevious
      exact (List.pairwise_append.mp hsorted).2.2 q (List.mem_of_getLast? hq) p List.mem_cons_self
    have hvalid : ThresholdStoppingPolicy.PointValid s p runEnd :=
      ⟨hscore p List.mem_cons_self, hlater, hle p List.mem_cons_self⟩
    obtain ⟨s₁, hstep, h₁⟩ := h.exists_step hvalid
    obtain ⟨s₂, hfold, h₂⟩ := ih h₁ (by simpa using hsorted)
      (fun q hq => hscore q (List.mem_cons_of_mem _ hq))
      (fun q hq => hle q (List.mem_cons_of_mem _ hq))
    refine ⟨s₂, ?_, by simpa using h₂⟩
    rw [List.foldlM_cons, hstep, Except.ok_bind', hfold]

end Sound

/-! ## The result -/

/-- What holds of the result and the trace of an evaluation. -/
structure EvaluationSound (policy : ThresholdStoppingPolicy) (runId entityId : String)
    (points : List ScorePoint) (runEnd : Int) (result : StoppingResult)
    (trace : List StoppingTracePoint) : Prop where
  trace_points : trace.map (·.point) = points
  count : ∀ p ∈ trace, ∀ n ∈ p.persistenceCount, 1 ≤ n
  scope : ∀ e ∈ result.fusionEpisodes, e.runId = runId ∧ e.entityId = entityId
  times : ∀ e ∈ result.fusionEpisodes, e.startTime ≤ e.endTime ∧ e.endTime ≤ runEnd
  starts : ∀ e ∈ result.fusionEpisodes,
    ⟨e.startTime, e.scoreAtStart⟩ ∈ points ∧ policy.thresholdOn ≤ e.scoreAtStart
  ids : result.fusionEpisodes.map (·.episodeId) =
    (List.range result.fusionEpisodes.length).map fun i => episodeId (i + 1)
  ordered : result.fusionEpisodes.Pairwise fun e f => e.startTime < f.startTime
  status : (result.fusionStatus = .miss ∧ result.fusionTime = none ∧
      result.scoreAtDecision = none ∧ result.fusionEpisodes = []) ∨
    (result.fusionStatus = .detected ∧ ∃ first rest, result.fusionEpisodes = first :: rest ∧
      result.fusionTime = some first.startTime ∧ result.scoreAtDecision = some first.scoreAtStart)
  states : ∀ p ∈ trace, p.policyState = .on ↔ ∃ e ∈ result.fusionEpisodes,
    e.startTime ≤ p.timestamp ∧ (p.timestamp < e.endTime ∨ e.endReason ≠ .released)

section Conclude

variable {policy : ThresholdStoppingPolicy} {runId entityId : String} {points : List ScorePoint}
  {s : Evaluation} {runEnd : Int} {reason : FusionEndReason}

/-- A detected result, from episodes that start where the evaluation saw them start. -/
theorem Sound.evaluationSound (h : Sound policy runId entityId points s) {episodes : List FusionEpisode}
    (hdetected : s.fusionTime ≠ none)
    (hstarts : episodes.map (fun e => (⟨e.startTime, e.scoreAtStart⟩ : ScorePoint)) = s.starts)
    (hids : episodes.map (·.episodeId) = (List.range episodes.length).map fun i => episodeId (i + 1))
    (hscope : ∀ e ∈ episodes, e.runId = runId ∧ e.entityId = entityId)
    (htimes : ∀ e ∈ episodes, e.startTime ≤ e.endTime ∧ e.endTime ≤ runEnd)
    (hstates : ∀ p ∈ s.observed, p.policyState = .on ↔ ∃ e ∈ episodes,
      e.startTime ≤ p.timestamp ∧ (p.timestamp < e.endTime ∨ e.endReason ≠ .released)) :
    EvaluationSound policy runId entityId points runEnd
      ⟨.detected, s.fusionTime, s.scoreAtDecision, episodes⟩ s.observed where
  trace_points := h.trace
  count := h.count
  scope := hscope
  times := htimes
  starts := fun e he => h.starts_mem _ (hstarts ▸ List.mem_map_of_mem he)
  ids := hids
  ordered := by
    have hsorted := h.starts_sorted
    rwa [← hstarts, List.pairwise_map] at hsorted
  status := by
    have htime := h.fusionTime
    have hscore := h.scoreAtDecision
    rw [← hstarts] at htime hscore
    cases episodes with
    | nil => exact absurd htime hdetected
    | cons first rest => exact .inr ⟨rfl, first, rest, rfl, htime, hscore⟩
  states := hstates

/-- The episodes of the result: those released, and the one still active. -/
theorem Sound.exists_conclude (h : Sound policy runId entityId points s)
    (hle : ∀ p ∈ points, p.timestamp ≤ runEnd) (hreason : reason ≠ .released) :
    ∃ result, s.conclude runId entityId runEnd reason = .ok result ∧
      EvaluationSound policy runId entityId points runEnd result s.observed := by
  have hscope : ∀ e ∈ s.episodes, e.runId = runId ∧ e.entityId = entityId := fun e he =>
    ⟨(h.episodes e he).runId_eq, (h.episodes e he).entityId_eq⟩
  have htimes : ∀ e ∈ s.episodes, e.startTime ≤ e.endTime ∧ e.endTime ≤ runEnd := by
    intro e he
    obtain ⟨p, hp, hend⟩ := (h.episodes e he).endTime_mem
    exact ⟨(h.episodes e he).start_lt.le, hend ▸ hle p hp⟩
  have hreleased : ∀ p ∈ s.observed,
      (∃ e ∈ s.episodes, e.startTime ≤ p.timestamp ∧
        (p.timestamp < e.endTime ∨ e.endReason ≠ .released)) ↔
      ∃ e ∈ s.episodes, e.startTime ≤ p.timestamp ∧ p.timestamp < e.endTime := by
    intro p _
    refine exists_congr fun e => and_congr_right fun he => ?_
    simp [(h.episodes e he).endReason]
  unfold Evaluation.conclude
  by_cases hnone : s.fusionTime = none
  · rw [if_pos hnone]
    have hstarts : s.starts = [] := by
      have := h.fusionTime
      rw [hnone] at this
      cases hs : s.starts with
      | nil => rfl
      | cons a l => simp [hs] at this
    rw [Evaluation.starts, List.append_eq_nil_iff, List.map_eq_nil_iff] at hstarts
    have hinactive : s.active = false := by
      by_contra hactive
      have := (h.opened (by simpa using hactive)).1
      rw [Option.toList_eq_nil_iff] at hstarts
      simp [hstarts.2] at this
    refine ⟨_, rfl, h.trace, h.count, fun e he => ?_, fun e he => ?_, fun e he => ?_, rfl, .nil,
      .inl ⟨rfl, rfl, rfl, rfl⟩, fun p hp => ?_⟩
    · exact absurd he (List.not_mem_nil)
    · exact absurd he (List.not_mem_nil)
    · exact absurd he (List.not_mem_nil)
    · rw [h.states p hp, hstarts.1, h.closed hinactive]
      simp
  · rw [if_neg hnone]
    cases hactive : s.active with
    | false =>
      refine ⟨_, rfl, h.evaluationSound hnone ?_ h.ids hscope htimes fun p hp => ?_⟩
      · rw [Evaluation.starts, h.openStart_eq_none hactive, Option.toList_none, List.append_nil]
      · rw [hreleased p hp, h.states p hp, h.closed hactive]
        simp
    | true =>
      obtain ⟨q, hq, hstart⟩ := h.episodeStartTime_mem hactive
      obtain ⟨hopen, hpeak⟩ := h.opened hactive
      obtain ⟨peak, hpeak⟩ := Option.isSome_iff_exists.mp hpeak
      obtain ⟨score, hscore⟩ : ∃ score, s.episodeScoreAtStart = some score := by
        rw [Evaluation.openStart, hstart, Option.bind_some, Option.isSome_map] at hopen
        exact Option.isSome_iff_exists.mp hopen
      rw [if_pos rfl, ThresholdStoppingPolicy.closeEpisode_eq_ok.mpr
        ⟨q.timestamp, score, peak, hstart, hscore, hpeak, rfl⟩, Except.ok_bind']
      refine ⟨_, rfl, h.evaluationSound hnone ?_ ?_ ?_ ?_ fun p hp => ?_⟩
      · rw [List.map_append, Evaluation.starts, Evaluation.openStart, hstart, hscore]
        rfl
      · rw [List.map_append, h.ids, List.length_append, List.length_singleton, List.range_succ,
          List.map_append]
        rfl
      · intro e he
        rcases List.mem_append.mp he with he | he
        · exact hscope e he
        · rw [List.mem_singleton.mp he]
          exact ⟨rfl, rfl⟩
      · intro e he
        rcases List.mem_append.mp he with he | he
        · exact htimes e he
        · rw [List.mem_singleton.mp he]
          exact ⟨hle q hq, le_rfl⟩
      · rw [h.states p hp, ← hreleased p hp, hstart]
        simp [or_and_right, exists_or, hreason]

/-- `evaluate` of a trajectory of valid points in order. -/
theorem ThresholdStoppingPolicy.exists_evaluate (policy : ThresholdStoppingPolicy)
    (points : List ScorePoint) (runId : String) {entityId : String} {runEnd : Int}
    {reason : FusionEndReason} (hentity : isBlank entityId = false)
    (hreason : reason = .runEnd ∨ reason = .replayEnd)
    (hsorted : points.Pairwise fun p q => p.timestamp < q.timestamp)
    (hscore : ∀ p ∈ points, 0 ≤ p.score ∧ p.score ≤ 1) (hle : ∀ p ∈ points, p.timestamp ≤ runEnd) :
    ∃ result trace, policy.evaluate points runId entityId (.utc runEnd) reason = .ok (result, trace) ∧
      EvaluationSound policy runId entityId points runEnd result trace := by
  have hempty : Sound policy runId entityId [] {} := .empty
  obtain ⟨s, hfold, hsound⟩ := hempty.exists_foldlM (by simpa using hsorted) hscore hle
  have hne : reason ≠ .released := by rcases hreason with rfl | rfl <;> decide
  obtain ⟨result, hresult, hevaluation⟩ := hsound.exists_conclude (by simpa using hle) hne
  refine ⟨result, s.observed, ?_, by simpa using hevaluation⟩
  have hboundary : ¬ (reason ≠ .runEnd ∧ reason ≠ .replayEnd) := by
    rintro ⟨h₁, h₂⟩
    exact hreason.elim h₁ h₂
  rw [evaluate, raiseIf_of_not (by simp [hentity]), Except.ok_bind', requireUtc_utc,
    Except.ok_bind', raiseIf_of_not hboundary, Except.ok_bind', hfold, Except.ok_bind', hresult,
    Except.ok_bind']
  rfl

/-- The detection that a result reports is the evaluation's. -/
theorem conclude_detection {result : StoppingResult}
    (h : s.conclude runId entityId runEnd reason = .ok result) :
    result.fusionTime = s.fusionTime ∧
      (s.fusionTime ≠ none → result.scoreAtDecision = s.scoreAtDecision) := by
  unfold Evaluation.conclude at h
  split at h
  · next hnone =>
    obtain rfl := Except.pure_eq_ok.mp h
    exact ⟨hnone.symm, fun hne => absurd hnone hne⟩
  · split at h
    · obtain ⟨episode, -, h⟩ := Except.bind_eq_ok.mp h
      obtain rfl := Except.pure_eq_ok.mp h
      exact ⟨rfl, fun _ => rfl⟩
    · obtain rfl := Except.pure_eq_ok.mp h
      exact ⟨rfl, fun _ => rfl⟩

/-- A trajectory that is evaluated was observed, and the result concluded from it. -/
theorem ThresholdStoppingPolicy.evaluate_eq_ok {policy : ThresholdStoppingPolicy}
    {result : StoppingResult} {trace : List StoppingTracePoint}
    (h : policy.evaluate points runId entityId (.utc runEnd) reason = .ok (result, trace)) :
    ∃ s, points.foldlM (policy.observe runId entityId runEnd) {} = .ok s ∧
      s.conclude runId entityId runEnd reason = .ok result ∧ trace = s.observed := by
  rw [evaluate, raiseIf_bind_eq_ok, requireUtc_utc, Except.ok_bind', raiseIf_bind_eq_ok,
    Except.bind_eq_ok] at h
  obtain ⟨-, -, s, hfold, h⟩ := h
  obtain ⟨r, hresult, h⟩ := Except.bind_eq_ok.mp h
  obtain ⟨rfl, rfl⟩ := Prod.mk.inj (Except.pure_eq_ok.mp h)
  exact ⟨s, hfold, hresult, rfl⟩

end Conclude

end IncidentAwareness.Fusion
