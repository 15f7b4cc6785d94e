import IncidentAwareness.Fusion.Agreement
import IncidentAwareness.Fusion.Closure

/-!
# The date arithmetic of a replay

A replay adds its step to every grid point and subtracts its window from the points where
it evicts or filters. Its checks and its stopping policy raise no overflow
(`raisesOnly_evaluate`, `runValid_of_overflow`, `itemsValid_of_overflow`), so it overflows
exactly where one of these results is no datetime (`Run.exists_plainFails_iff`,
`exists_causalFails_iff`). The loops end within their fuel (`replayLoop_of_fuel`,
`gridPoints_of_fuel`).
-/

namespace IncidentAwareness.Fusion

open IncidentAwareness.Common IncidentAwareness.Lib

variable {φ : Type}

/-! ## What raises no overflow -/

/-- An error other than an overflow. -/
def NotOverflow (e : PyError) : Prop := ∀ text, e ≠ .overflowError text

theorem notOverflow_valueError (text : String) : NotOverflow (.valueError text) :=
  fun _ h => nomatch h

theorem not_notOverflow : ¬ NotOverflow dateValueOutOfRange := fun h => h _ rfl

/-- An overflow after a program that raises none comes from the rest. -/
theorem bind_eq_overflow {α β : Type} {x : Except PyError α} {f : α → Except PyError β}
    (hx : RaisesOnly NotOverflow x) {text : String}
    (h : (x >>= f) = .error (.overflowError text)) :
    ∃ a, x = .ok a ∧ f a = .error (.overflowError text) := by
  rcases Except.bind_eq_error.mp h with herror | hok
  · exact absurd rfl (hx _ herror text)
  · exact hok

theorem raiseIf_bind_eq_overflow {β : Type} {p : Prop} [Decidable p] {message text : String}
    {f : Unit → Except PyError β}
    (h : (raiseIf p (.valueError message) >>= f) = .error (.overflowError text)) :
    ¬ p ∧ f () = .error (.overflowError text) := by
  obtain ⟨u, hu, hf⟩ := bind_eq_overflow (raisesOnly_raiseIf (notOverflow_valueError message)) h
  exact ⟨raiseIf_eq_ok.mp hu, hf⟩

theorem raisesOnly_guard {β : Type} {p : Prop} [Decidable p] {message : String}
    {f : Unit → Except PyError β} (h : RaisesOnly NotOverflow (f ())) :
    RaisesOnly NotOverflow (raiseIf p (.valueError message) >>= f) :=
  raisesOnly_bind (raisesOnly_raiseIf (notOverflow_valueError message)) fun _ => h

theorem raisesOnly_requireUtc (fieldName : String) (value : PyDatetime) :
    RaisesOnly NotOverflow (requireUtc fieldName value) := by
  cases value with
  | naive => exact raisesOnly_error (notOverflow_valueError _)
  | aware instant utcoffset =>
    exact raisesOnly_guard (raisesOnly_ok _)

theorem raisesOnly_boundary (start stop : Int) (replayEnd : Option PyDatetime) :
    RaisesOnly NotOverflow (TemporalReplayRunner.boundary start stop replayEnd) := by
  cases replayEnd with
  | none => exact raisesOnly_ok _
  | some replayEnd =>
    refine raisesOnly_bind (raisesOnly_requireUtc _ _) fun t => ?_
    refine raisesOnly_guard ?_
    refine raisesOnly_guard ?_
    split
    · exact raisesOnly_ok _
    · exact raisesOnly_ok _

theorem raisesOnly_validateEvidences (runId entityId : String) (start : Int) (boundary : Boundary)
    (previous : Option Int) (evidences : List (Evidence φ)) :
    RaisesOnly NotOverflow (TemporalReplayRunner.validateEvidences runId entityId start boundary
      previous evidences) := by
  induction evidences generalizing previous with
  | nil => exact raisesOnly_ok _
  | cons e rest ih =>
    refine raisesOnly_guard ?_
    refine raisesOnly_guard ?_
    refine raisesOnly_guard ?_
    refine raisesOnly_guard ?_
    exact raisesOnly_guard (ih _)

theorem raisesOnly_validateScheduled (runId entityId : String) (start stop : Int)
    (seen : List String) (inputs : List (ScheduledEvidence φ)) :
    RaisesOnly NotOverflow (TemporalReplayRunner.validateScheduled runId entityId start stop seen
      inputs) := by
  induction inputs generalizing seen with
  | nil => exact raisesOnly_ok _
  | cons item rest ih =>
    refine raisesOnly_bind (raisesOnly_requireUtc _ _) fun t => ?_
    refine raisesOnly_guard ?_
    refine raisesOnly_guard ?_
    refine raisesOnly_guard ?_
    refine raisesOnly_guard ?_
    refine raisesOnly_guard ?_
    refine raisesOnly_guard ?_
    exact raisesOnly_bind (ih _) fun _ => raisesOnly_ok _

section Stopping

variable (policy : ThresholdStoppingPolicy) (runId entityId : String)

theorem raisesOnly_closeEpisode (s : Evaluation) (endTime : Int) (endReason : FusionEndReason) :
    RaisesOnly NotOverflow (s.closeEpisode runId entityId endTime endReason) := by
  unfold Evaluation.closeEpisode
  split
  · exact raisesOnly_ok _
  · exact raisesOnly_error fun _ h => nomatch h

theorem raisesOnly_observe (runEnd : Int) (s : Evaluation) (point : ScorePoint) :
    RaisesOnly NotOverflow (policy.observe runId entityId runEnd s point) := by
  unfold ThresholdStoppingPolicy.observe ThresholdStoppingPolicy.validatePoint
  refine raisesOnly_bind ?_ fun _ => ?_
  · refine raisesOnly_guard ?_
    refine raisesOnly_guard ?_
    refine raisesOnly_guard ?_
    exact raisesOnly_raiseIf (notOverflow_valueError _)
  · dsimp only
    split
    · unfold ThresholdStoppingPolicy.observeActive
      split
      · exact raisesOnly_bind (raisesOnly_closeEpisode _ _ _ _ _) fun _ => raisesOnly_ok _
      · split
        · exact raisesOnly_ok _
        · exact raisesOnly_ok _
    · exact raisesOnly_ok _

/-- The stopping policy computes no datetime. -/
theorem raisesOnly_evaluate (trajectory : List ScorePoint) (runEnd : PyDatetime)
    (reason : FusionEndReason) :
    RaisesOnly NotOverflow (policy.evaluate trajectory runId entityId runEnd reason) := by
  have hloop : ∀ (runEnd : Int) (s : Evaluation),
      RaisesOnly NotOverflow (trajectory.foldlM (policy.observe runId entityId runEnd) s) := by
    intro runEnd s
    induction trajectory generalizing s with
    | nil => exact raisesOnly_ok _
    | cons point rest ih =>
      rw [List.foldlM_cons]
      exact raisesOnly_bind (raisesOnly_observe policy runId entityId runEnd s point) ih
  refine raisesOnly_guard ?_
  refine raisesOnly_bind (raisesOnly_requireUtc _ _) fun runEnd => ?_
  refine raisesOnly_guard ?_
  refine raisesOnly_bind (hloop runEnd _) fun s => raisesOnly_bind ?_ fun _ => raisesOnly_ok _
  unfold Evaluation.conclude
  split
  · exact raisesOnly_ok _
  · split
    · exact raisesOnly_bind (raisesOnly_closeEpisode _ _ _ _ _) fun _ => raisesOnly_ok _
    · exact raisesOnly_ok _

theorem raisesOnly_replayResult (runner : TemporalReplayRunner) (stop : Int)
    (reason : FusionEndReason) (obs : Observations) :
    RaisesOnly NotOverflow (replayResult runner runId entityId stop reason obs) :=
  raisesOnly_bind (raisesOnly_evaluate _ _ _ _ _ _) fun _ => raisesOnly_ok _

end Stopping

/-! ## The plain replay -/

/-- An outcome that is no overflow. -/
def NeverOverflows {α : Type} (x : Except PyError α) : Prop := RaisesOnly NotOverflow x

section Plain

variable {runner : TemporalReplayRunner} {evidences : List (Evidence φ)} {runId entityId : String}
  {start stop : Int} {replayEnd : Option PyDatetime} {boundary : Boundary} {s : WindowState φ}

/-- A run that overflows has passed its checks. -/
theorem runValid_of_overflow {text : String}
    (h : outcome (runner.run evidences runId entityId (.utc start) (.utc stop) replayEnd) s =
      .error (.overflowError text)) :
    ∃ boundary, RunValid runner evidences runId entityId start stop replayEnd boundary := by
  rw [TemporalReplayRunner.run, outcome_reads_bind, requireUtc_utc, Except.ok_bind',
    outcome_reads_bind, requireUtc_utc, Except.ok_bind', outcome_reads_bind] at h
  obtain ⟨hle, h⟩ := raiseIf_bind_eq_overflow h
  rw [outcome_reads_bind] at h
  obtain ⟨boundary, hboundary, h⟩ := bind_eq_overflow (raisesOnly_boundary _ _ _) h
  rw [outcome_reads_bind] at h
  obtain ⟨hgrid, h⟩ := raiseIf_bind_eq_overflow h
  rw [outcome_reads_bind] at h
  obtain ⟨u, hvalid, -⟩ := bind_eq_overflow (raisesOnly_validateEvidences _ _ _ _ _ _) h
  exact ⟨boundary, Int.not_lt.mp hle, hboundary, not_not.mp hgrid,
    (validateEvidences_eq_ok.mp hvalid).1⟩

/-- The effective end lies within the run. -/
theorem RunValid.effectiveEnd_mem
    (h : RunValid runner evidences runId entityId start stop replayEnd boundary) :
    start ≤ boundary.effectiveEnd ∧ boundary.effectiveEnd ≤ stop := by
  have hboundary := h.boundary_eq
  have hle := h.start_le
  cases replayEnd with
  | none =>
    rw [← Except.ok.inj hboundary]
    exact ⟨hle, le_rfl⟩
  | some replayEnd =>
    rw [TemporalReplayRunner.boundary, Except.bind_eq_ok] at hboundary
    obtain ⟨t, -, hboundary⟩ := hboundary
    rw [raiseIf_bind_eq_ok, raiseIf_bind_eq_ok] at hboundary
    obtain ⟨hlower, hupper, hboundary⟩ := hboundary
    have heffective : boundary.effectiveEnd = t := by
      split at hboundary
      · rw [Except.pure_eq_ok.mp hboundary]
      · rw [Except.pure_eq_ok.mp hboundary]
    omega

/-- The results of the date arithmetic of a plain replay are datetimes: the end plus a step, and
the cutoff of every grid point that is not before some Evidence. -/
structure PlainInRange (runner : TemporalReplayRunner) (evidences : List (Evidence φ))
    (start effectiveEnd : Int) : Prop where
  next : effectiveEnd + runner.stepSize ≤ datetimeMax
  cutoff : ∀ e ∈ evidences, ∀ i : Nat, e.timestamp ≤ start + i * runner.stepSize →
    start + i * runner.stepSize ≤ effectiveEnd →
      datetimeMin ≤ start + i * runner.stepSize - runner.windowEngine.windowSize

theorem RunValid.exists_plainFails_iff
    (h : RunValid runner evidences runId entityId start stop replayEnd boundary)
    (hstart : IsDatetime start) (hstop : IsDatetime stop) :
    (∃ t ∈ gridOf runner start boundary.effectiveEnd, PlainFails runner evidences t) ↔
      ¬ PlainInRange runner evidences start boundary.effectiveEnd := by
  obtain ⟨hlower, hupper⟩ := h.effectiveEnd_mem
  have hstep := runner.stepSize_pos
  have hwindow := runner.windowEngine.pos
  have hmin := hstart.1
  have hmax := hstop.2
  constructor
  · rintro ⟨t, ht, hfails⟩ hrange
    obtain ⟨hle, i, rfl⟩ := mem_gridOf.mp ht
    have hge := (le_of_mem_grid hstep ht).1
    rcases hfails with ⟨⟨e, he, hbefore⟩, hcutoff⟩ | hnext
    · have hdatetime := hrange.cutoff e he i hbefore hle
      unfold CutoffFails IsDatetime at hcutoff
      omega
    · have hend := hrange.next
      unfold IsDatetime at hnext
      omega
  · intro hnot
    by_contra hnone
    refine hnot ⟨?_, fun e he i hbefore hle => ?_⟩
    · by_contra hlt
      refine hnone ⟨boundary.effectiveEnd, stop_mem_gridOf hlower h.on_grid, .inr fun hdatetime => ?_⟩
      exact hlt hdatetime.2
    · by_contra hlt
      refine hnone ⟨_, mem_gridOf.mpr ⟨hle, i, rfl⟩, .inl ⟨⟨e, he, hbefore⟩, fun hdatetime => ?_⟩⟩
      exact hlt hdatetime.1

/-- When a plain replay never overflows. -/
theorem neverOverflows_run_iff (hstart : IsDatetime start) (hstop : IsDatetime stop) :
    NeverOverflows
        (outcome (runner.run evidences runId entityId (.utc start) (.utc stop) replayEnd) s) ↔
      ∀ boundary, RunValid runner evidences runId entityId start stop replayEnd boundary →
        PlainInRange runner evidences start boundary.effectiveEnd := by
  constructor
  · intro hnever boundary hvalid
    by_contra hnot
    have hfails := (hvalid.exists_plainFails_iff hstart hstop).mpr hnot
    refine not_notOverflow (hnever _ ?_)
    rw [outcome_run hvalid, if_pos hfails]
  · intro hrange e he text hoverflow
    rw [hoverflow] at he
    obtain ⟨boundary, hvalid⟩ := runValid_of_overflow he
    have hnone : ¬ ∃ t ∈ gridOf runner start boundary.effectiveEnd, PlainFails runner evidences t :=
      fun hfails => (hvalid.exists_plainFails_iff hstart hstop).mp hfails (hrange boundary hvalid)
    rw [outcome_run hvalid, if_neg hnone] at he
    exact raisesOnly_replayResult _ _ _ _ _ _ _ he text rfl

end Plain

/-! ## The causal replay -/

section Causal

variable {runner : TemporalReplayRunner} {inputs : List (ScheduledEvidence φ)}
  {items : List (Scheduled φ)} {runId entityId : String} {start stop : Int}

/-- A causal replay that overflows has passed its checks. -/
theorem itemsValid_of_overflow {text : String}
    (h : runner.runCausal inputs runId entityId (.utc start) (.utc stop) =
      .error (.overflowError text)) :
    ∃ items : List (Scheduled φ), start ≤ stop ∧ inputs = items.map (·.input) ∧
      ItemsValid runId entityId start stop items := by
  rw [TemporalReplayRunner.runCausal, requireUtc_utc, Except.ok_bind', requireUtc_utc,
    Except.ok_bind'] at h
  obtain ⟨hle, h⟩ := raiseIf_bind_eq_overflow h
  obtain ⟨items, hitems, -⟩ := bind_eq_overflow (raisesOnly_validateScheduled _ _ _ _ _ _) h
  obtain ⟨hinputs, hvalid, -⟩ := validateScheduled_eq_ok.mp hitems
  exact ⟨items, Int.not_lt.mp hle, hinputs, hvalid⟩

/-- The first grid point after the end of the run. -/
def nextPoint (runner : TemporalReplayRunner) (start stop : Int) : Int :=
  start + ((stop - start) / runner.stepSize + 1) * runner.stepSize

/-- The results of the date arithmetic of a causal replay are datetimes: the first grid point
after the run, and the cutoff of its first point. -/
structure CausalInRange (runner : TemporalReplayRunner) (start stop : Int) : Prop where
  next : nextPoint runner start stop ≤ datetimeMax
  cutoff : datetimeMin ≤ start - runner.windowEngine.windowSize

/-- The last step leads to the first grid point after the run. -/
theorem exists_step_iff (hle : start ≤ stop) (hstart : IsDatetime start) :
    (∃ t ∈ gridOf runner start stop, ¬ IsDatetime (t + runner.stepSize)) ↔
      datetimeMax < nextPoint runner start stop := by
  have hstep := runner.stepSize_pos
  have hdiv := Int.ediv_nonneg (sub_nonneg.mpr hle) hstep.le
  have hmin := hstart.1
  constructor
  · rintro ⟨t, ht, hnot⟩
    have hge := (le_of_mem_grid hstep ht).1
    obtain ⟨hle', i, rfl⟩ := mem_gridOf.mp ht
    have hi : (i : Int) ≤ (stop - start) / runner.stepSize := by
      rw [Int.le_ediv_iff_mul_le hstep]
      omega
    have hlast : ((i : Int) + 1) * runner.stepSize ≤
        ((stop - start) / runner.stepSize + 1) * runner.stepSize :=
      mul_le_mul_of_nonneg_right (by omega) hstep.le
    rw [add_mul, one_mul] at hlast
    unfold IsDatetime at hnot
    unfold nextPoint
    omega
  · intro hlt
    have hlast : (stop - start) / runner.stepSize * runner.stepSize ≤ stop - start :=
      Int.ediv_mul_le _ hstep.ne'
    refine ⟨start + (stop - start) / runner.stepSize * runner.stepSize, mem_gridOf.mpr
      ⟨by omega, ((stop - start) / runner.stepSize).toNat, by rw [Int.toNat_of_nonneg hdiv]⟩, ?_⟩
    unfold nextPoint at hlt
    rw [add_mul, one_mul] at hlt
    intro hdatetime
    have := hdatetime.2
    omega

theorem start_mem_causalPoints (hle : start ≤ stop) : start ∈ causalPoints runner start stop := by
  have hgrid : start ∈ gridOf runner start stop := mem_gridOf.mpr ⟨hle, 0, by simp⟩
  rw [causalPoints]
  split
  · exact List.mem_append_left _ hgrid
  · exact hgrid

theorem le_of_mem_causalPoints (hle : start ≤ stop) {t : Int}
    (ht : t ∈ causalPoints runner start stop) : start ≤ t ∧ t ≤ stop := by
  rw [causalPoints] at ht
  split at ht
  · rcases List.mem_append.mp ht with ht | ht
    · exact le_of_mem_grid runner.stepSize_pos ht
    · rw [List.mem_singleton.mp ht]
      exact ⟨hle, le_rfl⟩
  · exact le_of_mem_grid runner.stepSize_pos ht

/-- The earliest cutoff is that of the first point. -/
theorem exists_cutoffFails_iff (hle : start ≤ stop) (hstop : IsDatetime stop) :
    (∃ t ∈ causalPoints runner start stop, CutoffFails runner t) ↔
      start - runner.windowEngine.windowSize < datetimeMin := by
  have hwindow := runner.windowEngine.pos
  have hmax := hstop.2
  constructor
  · rintro ⟨t, ht, hfails⟩
    obtain ⟨hge, hle'⟩ := le_of_mem_causalPoints hle ht
    unfold CutoffFails IsDatetime at hfails
    omega
  · intro hlt
    refine ⟨start, start_mem_causalPoints hle, fun hdatetime => ?_⟩
    exact absurd hdatetime.1 (Int.not_le.mpr hlt)

/-- When a causal replay never overflows. -/
theorem neverOverflows_runCausal_iff (hstart : IsDatetime start) (hstop : IsDatetime stop) :
    NeverOverflows (runner.runCausal inputs runId entityId (.utc start) (.utc stop)) ↔
      ∀ items : List (Scheduled φ), start ≤ stop → inputs = items.map (·.input) →
        ItemsValid runId entityId start stop items → CausalInRange runner start stop := by
  constructor
  · intro hnever items hle hinputs hvalid
    by_contra hnot
    have hfails : (∃ t ∈ gridOf runner start stop, ¬ IsDatetime (t + runner.stepSize)) ∨
        ∃ t ∈ causalPoints runner start stop, CutoffFails runner t := by
      rw [exists_step_iff hle hstart, exists_cutoffFails_iff hle hstop]
      by_contra hnone
      rw [not_or, Int.not_lt, Int.not_lt] at hnone
      exact hnot ⟨hnone.1, hnone.2⟩
    refine not_notOverflow (hnever _ ?_)
    rw [hinputs, runCausal_eq hle hvalid, if_pos hfails]
  · intro hrange e he text hoverflow
    rw [hoverflow] at he
    obtain ⟨items, hle, hinputs, hvalid⟩ := itemsValid_of_overflow he
    obtain ⟨hnext, hcutoff⟩ := hrange items hle hinputs hvalid
    have hnone : ¬ ((∃ t ∈ gridOf runner start stop, ¬ IsDatetime (t + runner.stepSize)) ∨
        ∃ t ∈ causalPoints runner start stop, CutoffFails runner t) := by
      rw [exists_step_iff hle hstart, exists_cutoffFails_iff hle hstop, not_or, Int.not_lt,
        Int.not_lt]
      exact ⟨hnext, hcutoff⟩
    rw [hinputs, runCausal_eq hle hvalid, if_neg hnone] at he
    exact raisesOnly_replayResult _ _ _ _ _ _ _ he text rfl

end Causal

/-! ## The loops end -/

section Fuel

variable (runner : TemporalReplayRunner) {runId entityId : String} {stop t : Int} {fuel : Nat}

theorem reads_bind_congr {σ α β : Type} {x : Except PyError α} {f f' : α → EStateM PyError σ β}
    (h : ∀ a, x = .ok a → f a = f' a) :
    ((reads fun _ => x) >>= f : EStateM PyError σ β) = (reads fun _ => x) >>= f' := by
  cases x with
  | error e => rfl
  | ok a => exact h a rfl

/-- Fuel that reaches beyond the end is enough for the plain replay. -/
theorem replayLoop_of_fuel (hfuel : stop < t + fuel * runner.stepSize) (extra : Nat)
    (pending : List (Evidence φ)) (obs : Observations) :
    runner.replayLoop runId entityId stop (fuel + extra) t pending obs =
      runner.replayLoop runId entityId stop fuel t pending obs := by
  induction fuel generalizing t pending obs with
  | zero =>
    have hend : ¬ t ≤ stop := by
      rw [Nat.cast_zero, zero_mul] at hfuel
      omega
    cases extra with
    | zero => rfl
    | succ extra =>
      rw [Nat.zero_add]
      exact if_neg hend
  | succ fuel ih =>
    have hnext : stop < t + runner.stepSize + fuel * runner.stepSize := by
      rw [Nat.cast_succ, add_mul, one_mul] at hfuel
      omega
    rw [Nat.succ_add, TemporalReplayRunner.replayLoop, TemporalReplayRunner.replayLoop]
    split
    · refine bind_congr fun pending => bind_congr fun _ => bind_congr fun active => ?_
      refine reads_bind_congr fun next hadd => ?_
      rw [(addTimedelta_eq_ok.mp hadd).1]
      exact ih hnext pending _
    · rfl

/-- Fuel that reaches beyond the end is enough for the causal grid. -/
theorem gridPoints_of_fuel (hfuel : stop < t + fuel * runner.stepSize) (extra : Nat) :
    runner.gridPoints stop (fuel + extra) t = runner.gridPoints stop fuel t := by
  induction fuel generalizing t with
  | zero =>
    have hend : ¬ t ≤ stop := by
      rw [Nat.cast_zero, zero_mul] at hfuel
      omega
    cases extra with
    | zero => rfl
    | succ extra =>
      rw [Nat.zero_add]
      exact if_neg hend
  | succ fuel ih =>
    have hnext : stop < t + runner.stepSize + fuel * runner.stepSize := by
      rw [Nat.cast_succ, add_mul, one_mul] at hfuel
      omega
    rw [Nat.succ_add, TemporalReplayRunner.gridPoints, TemporalReplayRunner.gridPoints]
    split
    · cases hadd : addTimedelta t runner.stepSize with
      | error e => rfl
      | ok next =>
        rw [Except.ok_bind', Except.ok_bind', (addTimedelta_eq_ok.mp hadd).1, ih hnext]
    · rfl

end Fuel

/-- A replay of an accepted configuration ends, and it never overflows exactly when the results
of its date arithmetic are datetimes. -/
theorem replay_inRange_iff (config : FusionConfig) {start stop : Int} (hstart : IsDatetime start)
    (hstop : IsDatetime stop) (runId entityId : String) :
    config.buildRunner = .ok config.runner ∧
    (∀ (evidences : List (Evidence φ)) (replayEnd : Option PyDatetime) (s : WindowState φ),
      NeverOverflows (outcome (config.runner.run evidences runId entityId (.utc start) (.utc stop)
          replayEnd) s) ↔
        ∀ boundary, RunValid config.runner evidences runId entityId start stop replayEnd boundary →
          PlainInRange config.runner evidences start boundary.effectiveEnd) ∧
    (∀ inputs : List (ScheduledEvidence φ),
      NeverOverflows (config.runner.runCausal inputs runId entityId (.utc start) (.utc stop)) ↔
        ∀ items : List (Scheduled φ), start ≤ stop → inputs = items.map (·.input) →
          ItemsValid runId entityId start stop items → CausalInRange config.runner start stop) ∧
    ∀ (effectiveEnd : Int) (extra : Nat),
      (∀ (pending : List (Evidence φ)) (obs : Observations),
        config.runner.replayLoop runId entityId effectiveEnd
            (config.runner.replayFuel start effectiveEnd + extra) start pending obs =
          config.runner.replayLoop runId entityId effectiveEnd
            (config.runner.replayFuel start effectiveEnd) start pending obs) ∧
      config.runner.gridPoints effectiveEnd (config.runner.replayFuel start effectiveEnd + extra)
          start =
        config.runner.gridPoints effectiveEnd (config.runner.replayFuel start effectiveEnd) start := by
  refine ⟨config.buildRunner_eq, fun evidences replayEnd s => neverOverflows_run_iff hstart hstop,
    fun inputs => neverOverflows_runCausal_iff hstart hstop, fun effectiveEnd extra => ?_⟩
  have hfuel := replayFuel_spec config.runner start effectiveEnd
  exact ⟨replayLoop_of_fuel config.runner hfuel extra, gridPoints_of_fuel config.runner hfuel extra⟩

namespace Sample

theorem epoch_isDatetime : IsDatetime 0 := by decide

theorem secondLater_isDatetime : IsDatetime 1000000 := by decide

/-- The configuration of an hour's window, with one of 70 000 000 000 s instead. -/
def longConfig : FusionConfig :=
  { config with windowSize := longWindow, windowSize_pos := longWindow_pos }

end Sample

/-- A window that reaches before the year 1 overflows at the start of the run, and a step
overflows after a run that ends with the year 9999. -/
theorem replay_inRange_fails :
    Sample.longConfig.runner.runCausal (φ := Unit) [] "RUN-2" "host-2" (.utc 0) (.utc 1000000) =
      .error dateValueOutOfRange ∧
    outcome (Sample.config.runner.run (φ := Unit) [] "RUN-2" "host-2" (.utc datetimeMax)
      (.utc datetimeMax) none) .empty = .error dateValueOutOfRange := by
  constructor
  · decide +kernel
  · decide +kernel

theorem replay_inRange_iff_epoch :
    NeverOverflows (Sample.config.runner.runCausal (φ := Unit) [] "RUN-2" "host-2" (.utc 0)
      (.utc 1000000)) ∧
    NeverOverflows (outcome (Sample.config.runner.run [Sample.command] "RUN-2" "host-2" (.utc 0)
      (.utc 1000000) none) .empty) := by
  obtain ⟨-, hplain, hcausal, -⟩ := replay_inRange_iff Sample.config Sample.epoch_isDatetime
    Sample.secondLater_isDatetime "RUN-2" "host-2" (φ := Unit)
  constructor
  · refine (hcausal []).mpr fun items _ _ _ => ⟨by decide +kernel, by decide⟩
  · refine (hplain [Sample.command] none .empty).mpr fun boundary hvalid => ?_
    obtain ⟨hlower, hupper⟩ := hvalid.effectiveEnd_mem
    have hstep : Sample.config.runner.stepSize = 500000 := Sample.halfSecond
    refine ⟨?_, fun e _ i _ _ => ?_⟩
    · rw [hstep]
      unfold datetimeMax
      omega
    · rw [hstep]
      show datetimeMin ≤ 0 + (i : Int) * 500000 - 3600000000
      unfold datetimeMin
      omega

end IncidentAwareness.Fusion
