import IncidentAwareness.Fusion.Replay
import Mathlib.Tactic.Linarith

/-!
# What a replay observes

Both replays observe, at each of their points in time, the score and the ids of
a set of active Evidence, unless the arithmetic at a point leaves the range of
datetimes (`observeAll`). `causalLoop_eq` and `replayLoop_eq` name that set: a
filter of the Evidence by the window, for the plain replay of all of it
(`windowAt`), for the causal replay of what is available (`availableAt`).
-/

namespace IncidentAwareness.Fusion

open IncidentAwareness.Common IncidentAwareness.Lib

variable {φ : Type}

/-! ## Grids -/

/-- The points `start`, `start + step`, … up to `stop`, at most as many as the fuel. -/
def grid (step stop : Int) : Nat → Int → List Int
  | 0, _ => []
  | fuel + 1, t => if t ≤ stop then t :: grid step stop fuel (t + step) else []

section Grid

variable {step stop t x : Int} {fuel : Nat}

theorem mem_grid (hfuel : stop < t + fuel * step) (hstep : 0 < step) :
    x ∈ grid step stop fuel t ↔ x ≤ stop ∧ ∃ i : Nat, x = t + i * step := by
  induction fuel generalizing t with
  | zero =>
    simp only [grid, List.not_mem_nil, false_iff, not_and, not_exists]
    intro hx i hi
    have : (0 : Int) ≤ i * step := by positivity
    simp only [Nat.cast_zero, zero_mul] at hfuel
    omega
  | succ fuel ih =>
    have hfuel' : stop < t + step + fuel * step := by
      rw [Nat.cast_succ, add_mul, one_mul] at hfuel
      omega
    unfold grid
    split
    · next ht =>
      rw [List.mem_cons, ih hfuel']
      constructor
      · rintro (rfl | ⟨hx, i, rfl⟩)
        · exact ⟨ht, 0, by simp⟩
        · exact ⟨hx, i + 1, by push_cast; ring⟩
      · rintro ⟨hx, i, rfl⟩
        cases i with
        | zero => exact .inl (by simp)
        | succ i => exact .inr ⟨hx, i, by push_cast; ring⟩
    · next ht =>
      simp only [List.not_mem_nil, false_iff, not_and, not_exists]
      intro hx i hi
      have : (0 : Int) ≤ i * step := by positivity
      omega

theorem le_of_mem_grid (hstep : 0 < step) (hx : x ∈ grid step stop fuel t) : t ≤ x ∧ x ≤ stop := by
  induction fuel generalizing t with
  | zero => simp [grid] at hx
  | succ fuel ih =>
    unfold grid at hx
    split at hx
    · next ht =>
      rcases List.mem_cons.mp hx with rfl | hx
      · exact ⟨le_rfl, ht⟩
      · have := ih hx
        omega
    · exact absurd hx (List.not_mem_nil)

theorem grid_pairwise (hstep : 0 < step) : (grid step stop fuel t).Pairwise (· < ·) := by
  induction fuel generalizing t with
  | zero => exact .nil
  | succ fuel ih =>
    unfold grid
    split
    · refine List.pairwise_cons.mpr ⟨fun x hx => ?_, ih⟩
      have := (le_of_mem_grid hstep hx).1
      omega
    · exact .nil

/-- An increasing list ends with its greatest element. -/
theorem getLast?_eq_of_mem {l : List Int} (hl : l.Pairwise (· < ·)) (hx : x ∈ l)
    (hle : ∀ y ∈ l, y ≤ x) : l.getLast? = some x := by
  rcases List.eq_nil_or_concat' l with rfl | ⟨init, last, rfl⟩
  · exact absurd hx List.not_mem_nil
  · rw [List.getLast?_concat]
    rcases List.mem_append.mp hx with hx | hx
    · have hlt := (List.pairwise_append.mp hl).2.2 x hx last (by simp)
      have := hle last (by simp)
      omega
    · rw [List.mem_singleton.mp hx]

/-- The fuel of a replay reaches beyond its end. -/
theorem replayFuel_spec (runner : TemporalReplayRunner) (start stop : Int) :
    stop < start + (runner.replayFuel start stop : Nat) * runner.stepSize := by
  have hpos := runner.stepSize_pos
  have hlt := Int.lt_ediv_add_one_mul_self (stop - start) hpos
  have hle : (stop - start) / runner.stepSize + 1 ≤ (runner.replayFuel start stop : Int) := by
    unfold TemporalReplayRunner.replayFuel
    omega
  have := mul_le_mul_of_nonneg_right hle hpos.le
  omega

end Grid

/-! ## Observing -/

/-- `t` is a datetime. -/
def IsDatetime (t : Int) : Prop := datetimeMin ≤ t ∧ t ≤ datetimeMax

instance : DecidablePred IsDatetime := fun _ => inferInstanceAs (Decidable (_ ∧ _))

/-- The observations at some points, after earlier ones, where none of the points fails. -/
def observeAll (scorer : SimpleScorer) (active : Int → List (Evidence φ))
    (fails : Int → Prop) [DecidablePred fails] (points : List Int)
    (obs : Observations) : Except PyError Observations :=
  if ∃ t ∈ points, fails t then .error dateValueOutOfRange
  else .ok (obs.1 ++ points.map fun t => ⟨t, scorer.score (active t)⟩,
    obs.2 ++ points.map fun t => ⟨t, scorer.contributingEvidenceIds (active t)⟩)

section ObserveAll

variable {scorer : SimpleScorer} {active : Int → List (Evidence φ)}
  {fails : Int → Prop} [DecidablePred fails] {points : List Int} {t : Int}
  {obs : Observations}

@[simp] theorem observeAll_nil : observeAll scorer active fails [] obs = .ok obs := by
  simp [observeAll]

theorem observeAll_cons_of_fails (h : fails t) :
    observeAll scorer active fails (t :: points) obs = .error dateValueOutOfRange :=
  if_pos ⟨t, List.mem_cons_self, h⟩

theorem observeAll_cons_of_not (h : ¬ fails t) :
    observeAll scorer active fails (t :: points) obs =
      observeAll scorer active fails points (obs.append scorer t (active t)) := by
  simp only [observeAll, List.exists_mem_cons_iff, h, false_or, List.map_cons, Observations.append,
    List.append_assoc, List.singleton_append]

/-- What a replay observes at its points. -/
def observations (scorer : SimpleScorer) (active : Int → List (Evidence φ)) (points : List Int) :
    Observations :=
  (points.map fun t => ⟨t, scorer.score (active t)⟩,
    points.map fun t => ⟨t, scorer.contributingEvidenceIds (active t)⟩)

theorem observeAll_bind {β : Type} {f : Observations → Except PyError β} :
    observeAll scorer active fails points ([], []) >>= f =
      if ∃ t ∈ points, fails t then .error dateValueOutOfRange
      else f (observations scorer active points) := by
  unfold observeAll
  split
  · rfl
  · rfl

end ObserveAll

/-- The Evidence in the window that ends at a time. -/
def windowAt (engine : WindowEngine) (evidences : List (Evidence φ)) (t : Int) :
    List (Evidence φ) :=
  evidences.filter fun e => t - engine.windowSize ≤ e.timestamp ∧ e.timestamp ≤ t

theorem addTimedelta_of {t delta : Int} (h : IsDatetime (t + delta)) :
    addTimedelta t delta = .ok (t + delta) :=
  addTimedelta_eq_ok.mpr ⟨rfl, h.1, h.2⟩

theorem addTimedelta_of_not {t delta : Int} (h : ¬ IsDatetime (t + delta)) :
    addTimedelta t delta = .error dateValueOutOfRange := by
  refine addTimedelta_eq_error.mpr ⟨rfl, ?_⟩
  unfold IsDatetime at h
  omega

/-! ## The checks -/

section Checks

variable {runId entityId : String} {start stop : Int} {boundary : Boundary}

/-- Evidence that `run` accepts. -/
structure EvidencesValid (runId entityId : String) (start stop : Int)
    (evidences : List (Evidence φ)) : Prop where
  sorted : evidences.Pairwise fun a b => a.timestamp ≤ b.timestamp
  runId_eq : ∀ e ∈ evidences, e.runId = runId
  entityId_eq : ∀ e ∈ evidences, e.entityId = entityId
  within : ∀ e ∈ evidences, start ≤ e.timestamp ∧ e.timestamp ≤ stop

theorem validateEvidences_eq_ok {previous : Option Int} {evidences : List (Evidence φ)} {u : Unit} :
    TemporalReplayRunner.validateEvidences runId entityId start boundary previous evidences = .ok u ↔
      EvidencesValid runId entityId start boundary.effectiveEnd evidences ∧
        ∀ p ∈ previous, ∀ e ∈ evidences, p ≤ e.timestamp := by
  induction evidences generalizing previous with
  | nil =>
    refine iff_of_true rfl ⟨⟨.nil, ?_, ?_, ?_⟩, ?_⟩
    · exact fun e he => nomatch he
    · exact fun e he => nomatch he
    · exact fun e he => nomatch he
    · exact fun p _ e he => nomatch he
  | cons e rest ih =>
    have hprevious : (¬ ∃ p ∈ previous, e.timestamp < p) ↔ ∀ p ∈ previous, p ≤ e.timestamp := by
      simp only [not_exists, not_and, Int.not_lt]
    rw [TemporalReplayRunner.validateEvidences, raiseIf_bind_eq_ok, raiseIf_bind_eq_ok,
      raiseIf_bind_eq_ok, raiseIf_bind_eq_ok, raiseIf_bind_eq_ok, ih, hprevious, not_not, not_not,
      Int.not_lt, Int.not_lt]
    constructor
    · rintro ⟨hrun, hentity, hstart, hend, hlast, hrest, hnext⟩
      have hle := hnext e.timestamp rfl
      refine ⟨⟨List.pairwise_cons.mpr ⟨hle, hrest.sorted⟩, ?_, ?_, ?_⟩, ?_⟩
      · exact List.forall_mem_cons.mpr ⟨hrun, hrest.runId_eq⟩
      · exact List.forall_mem_cons.mpr ⟨hentity, hrest.entityId_eq⟩
      · exact List.forall_mem_cons.mpr ⟨⟨hstart, hend⟩, hrest.within⟩
      · intro p hp
        refine List.forall_mem_cons.mpr ⟨hlast p hp, fun x hx => ?_⟩
        exact (hlast p hp).trans (hle x hx)
    · rintro ⟨hvalid, hlast⟩
      have hsorted := List.pairwise_cons.mp hvalid.sorted
      have hwithin := List.forall_mem_cons.mp hvalid.within
      refine ⟨hvalid.runId_eq e List.mem_cons_self, hvalid.entityId_eq e List.mem_cons_self,
        hwithin.1.1, hwithin.1.2, fun p hp => hlast p hp e List.mem_cons_self, ⟨hsorted.2, ?_, ?_,
          hwithin.2⟩, ?_⟩
      · exact (List.forall_mem_cons.mp hvalid.runId_eq).2
      · exact (List.forall_mem_cons.mp hvalid.entityId_eq).2
      · rintro p ⟨⟩
        exact hsorted.1

/-- Items that `run_causal` accepts. -/
structure ItemsValid (runId entityId : String) (start stop : Int) (items : List (Scheduled φ)) :
    Prop where
  unique : (items.map (·.evidence.evidenceId)).Nodup
  runId_eq : ∀ i ∈ items, i.evidence.runId = runId
  entityId_eq : ∀ i ∈ items, i.evidence.entityId = entityId
  within : ∀ i ∈ items, start ≤ i.evidence.timestamp ∧ i.evidence.timestamp ≤ stop
  available : ∀ i ∈ items, start ≤ i.availableAt ∧ i.availableAt ≤ stop
  causal : ∀ i ∈ items, i.evidence.timestamp ≤ i.availableAt

/-- The item of a caller, with a UTC `available_at`. -/
def Scheduled.input (item : Scheduled φ) : ScheduledEvidence φ :=
  ⟨item.evidence, .utc item.availableAt⟩

theorem validateScheduled_eq_ok {seen : List String} {inputs : List (ScheduledEvidence φ)}
    {items : List (Scheduled φ)} :
    TemporalReplayRunner.validateScheduled runId entityId start stop seen inputs = .ok items ↔
      inputs = items.map (·.input) ∧ ItemsValid runId entityId start stop items ∧
        ∀ i ∈ items, i.evidence.evidenceId ∉ seen := by
  induction inputs generalizing seen items with
  | nil =>
    rw [TemporalReplayRunner.validateScheduled]
    constructor
    · rintro ⟨⟩
      refine ⟨rfl, ⟨.nil, ?_, ?_, ?_, ?_, ?_⟩, ?_⟩ <;> exact fun i hi => nomatch hi
    · rintro ⟨hnil, -⟩
      rw [List.map_eq_nil_iff.mp hnil.symm]
  | cons input rest ih =>
    rw [TemporalReplayRunner.validateScheduled, Except.bind_eq_ok]
    simp only [requireUtc_eq_ok, raiseIf_bind_eq_ok, not_not, Int.not_lt]
    simp only [Except.bind_eq_ok, ih, Except.pure_eq_ok]
    constructor
    · rintro ⟨t, ht, hseen, hrun, hentity, hwithin, havailable, hcausal, items, ⟨rfl, hitems, hnot⟩,
        rfl⟩
      have hinput : input = Scheduled.input ⟨input.evidence, t⟩ := by
        cases input
        simp_all [Scheduled.input]
      refine ⟨by rw [List.map_cons, ← hinput], ⟨?_, ?_, ?_, ?_, ?_, ?_⟩, ?_⟩
      · refine List.nodup_cons.mpr ⟨?_, hitems.unique⟩
        rw [List.mem_map]
        rintro ⟨i, hi, heq⟩
        exact hnot i hi (heq ▸ List.mem_cons_self)
      · exact List.forall_mem_cons.mpr ⟨hrun, hitems.runId_eq⟩
      · exact List.forall_mem_cons.mpr ⟨hentity, hitems.entityId_eq⟩
      · exact List.forall_mem_cons.mpr ⟨hwithin, hitems.within⟩
      · exact List.forall_mem_cons.mpr ⟨havailable, hitems.available⟩
      · exact List.forall_mem_cons.mpr ⟨hcausal, hitems.causal⟩
      · exact List.forall_mem_cons.mpr ⟨hseen, fun i hi hmem => hnot i hi (List.mem_cons_of_mem _ hmem)⟩
    · rintro ⟨hinputs, hvalid, hnot⟩
      cases items with
      | nil => exact absurd hinputs (List.cons_ne_nil _ _)
      | cons item items =>
        obtain ⟨rfl, rfl⟩ := List.cons.inj hinputs
        have hunique := List.nodup_cons.mp hvalid.unique
        have hruns := List.forall_mem_cons.mp hvalid.runId_eq
        have hentities := List.forall_mem_cons.mp hvalid.entityId_eq
        have hwithin := List.forall_mem_cons.mp hvalid.within
        have havailable := List.forall_mem_cons.mp hvalid.available
        have hcausal := List.forall_mem_cons.mp hvalid.causal
        have hseen := List.forall_mem_cons.mp hnot
        refine ⟨item.availableAt, rfl, hseen.1, hruns.1, hentities.1, hwithin.1, havailable.1,
          hcausal.1, items, ⟨rfl, ⟨hunique.2, hruns.2, hentities.2, hwithin.2, havailable.2,
            hcausal.2⟩, ?_⟩, rfl⟩
        intro i hi hmem
        rcases List.mem_cons.mp hmem with heq | hmem
        · exact hunique.1 (List.mem_map.mpr ⟨i, hi, heq⟩)
        · exact hseen.2 i hi hmem

end Checks

/-- The points on the grid from `start` up to `stop`. -/
abbrev gridOf (runner : TemporalReplayRunner) (start stop : Int) : List Int :=
  grid runner.stepSize stop (runner.replayFuel start stop) start

theorem mem_gridOf {runner : TemporalReplayRunner} {start stop x : Int} :
    x ∈ gridOf runner start stop ↔ x ≤ stop ∧ ∃ i : Nat, x = start + i * runner.stepSize :=
  mem_grid (replayFuel_spec runner start stop) runner.stepSize_pos

/-- An end on the grid is its last point. -/
theorem stop_mem_gridOf {runner : TemporalReplayRunner} {start stop : Int} (hle : start ≤ stop)
    (hgrid : (stop - start) % runner.stepSize = 0) : stop ∈ gridOf runner start stop := by
  refine mem_gridOf.mpr ⟨le_rfl, ((stop - start) / runner.stepSize).toNat, ?_⟩
  have hdiv := Int.ediv_nonneg (sub_nonneg.mpr hle) runner.stepSize_pos.le
  have hmul := Int.ediv_mul_cancel (Int.dvd_of_emod_eq_zero hgrid)
  rw [Int.toNat_of_nonneg hdiv]
  omega

/-- What both replays make of their observations. -/
def replayResult (runner : TemporalReplayRunner) (runId entityId : String) (stop : Int)
    (reason : FusionEndReason) (obs : Observations) : Except PyError TemporalReplayResult := do
  let (stoppingResult, stoppingTrace) ←
    runner.stoppingPolicy.evaluate obs.1 runId entityId (.utc stop) reason
  return ⟨obs.1, obs.2, stoppingResult, stoppingTrace⟩

/-! ## The points of the causal replay -/

/-- The points of the causal replay, where no datetime arithmetic fails. -/
def causalPoints (runner : TemporalReplayRunner) (start stop : Int) : List Int :=
  let points := gridOf runner start stop
  if points.getLast? ≠ some stop then points ++ [stop] else points

/-- The points of the causal replay increase. -/
theorem causalPoints_pairwise (runner : TemporalReplayRunner) (start stop : Int) :
    (causalPoints runner start stop).Pairwise (· < ·) := by
  have hgrid : (gridOf runner start stop).Pairwise (· < ·) :=
    grid_pairwise runner.stepSize_pos
  rw [causalPoints]
  split_ifs with hlast
  · rw [List.pairwise_append]
    refine ⟨hgrid, List.pairwise_singleton _ _, fun x hx y hy => ?_⟩
    rw [List.mem_singleton.mp hy]
    refine lt_of_le_of_ne (le_of_mem_grid runner.stepSize_pos hx).2 fun heq => hlast ?_
    exact getLast?_eq_of_mem hgrid (heq ▸ hx) fun y hy => (le_of_mem_grid runner.stepSize_pos hy).2
  · exact hgrid

/-- The points of the causal replay, where its end is on the grid. -/
theorem causalPoints_of_mem {runner : TemporalReplayRunner} {start stop : Int}
    (h : stop ∈ gridOf runner start stop) :
    causalPoints runner start stop = gridOf runner start stop := by
  have hlast := getLast?_eq_of_mem (grid_pairwise runner.stepSize_pos) h
    fun y hy => (le_of_mem_grid runner.stepSize_pos hy).2
  rw [causalPoints, if_neg (by simpa using hlast)]

theorem gridPoints_eq (runner : TemporalReplayRunner) (stop : Int) (fuel : Nat) (t : Int) :
    runner.gridPoints stop fuel t =
      if ∃ x ∈ grid runner.stepSize stop fuel t, ¬ IsDatetime (x + runner.stepSize) then
        .error dateValueOutOfRange
      else .ok (grid runner.stepSize stop fuel t) := by
  induction fuel generalizing t with
  | zero => simp [TemporalReplayRunner.gridPoints, grid]
  | succ fuel ih =>
    unfold TemporalReplayRunner.gridPoints grid
    by_cases ht : t ≤ stop
    · rw [if_pos ht, if_pos ht]
      simp only [List.exists_mem_cons_iff]
      by_cases hnext : IsDatetime (t + runner.stepSize)
      · rw [addTimedelta_of hnext, Except.ok_bind', ih]
        simp only [hnext, not_true_eq_false, false_or]
        split
        · rfl
        · rfl
      · rw [addTimedelta_of_not hnext, if_pos (.inl hnext)]
        rfl
    · rw [if_neg ht, if_neg ht]
      simp

/-- The points of the causal replay, or the overflow of a step from one of the grid. -/
theorem causalReplayPoints_eq (runner : TemporalReplayRunner) (start stop : Int) :
    runner.causalReplayPoints start stop =
      if ∃ x ∈ gridOf runner start stop, ¬ IsDatetime (x + runner.stepSize) then
        .error dateValueOutOfRange
      else .ok (causalPoints runner start stop) := by
  rw [TemporalReplayRunner.causalReplayPoints, gridPoints_eq]
  split
  · rfl
  · rw [Except.ok_bind', causalPoints]
    split
    · rfl
    · rfl

/-! ## The causal replay -/

section Causal

variable (runner : TemporalReplayRunner)

/-- The Evidence that is available at a time. -/
def availableAt (items : List (Scheduled φ)) (t : Int) : List (Evidence φ) :=
  (items.takeWhile fun item => item.availableAt ≤ t).map (·.evidence)

theorem sortedBy_scheduledKey_pairwise (items : List (Scheduled φ)) :
    (sortedBy TemporalReplayRunner.scheduledKey items).Pairwise fun a b =>
      a.availableAt ≤ b.availableAt := by
  refine (sortedBy_pairwise TemporalReplayRunner.scheduledKey items).imp fun {a b} hab => ?_
  exact Prod.Lex.monotone_fst _ _ hab

/-- What is available at a time, of items read in their order. -/
theorem mem_availableAt {items : List (Scheduled φ)} {t : Int} {e : Evidence φ} :
    e ∈ availableAt (sortedBy TemporalReplayRunner.scheduledKey items) t ↔
      ∃ i ∈ items, i.availableAt ≤ t ∧ i.evidence = e := by
  have hread : (sortedBy TemporalReplayRunner.scheduledKey items).Pairwise fun a b =>
      decide (b.availableAt ≤ t) → decide (a.availableAt ≤ t) :=
    (sortedBy_scheduledKey_pairwise items).imp fun hab hb =>
      decide_eq_true (hab.trans (of_decide_eq_true hb))
  rw [availableAt, takeWhile_eq_filter hread]
  simp [and_assoc]

/-- The window's cutoff at `t` is no datetime. -/
def CutoffFails (t : Int) : Prop := ¬ IsDatetime (t - runner.windowEngine.windowSize)

instance : DecidablePred (CutoffFails runner) := fun _ => inferInstanceAs (Decidable (¬ _))

variable {runner}

theorem filterByEventTimeWindow_of_fails {evidences : List (Evidence φ)} {t : Int}
    (h : CutoffFails runner t) :
    runner.windowEngine.filterByEventTimeWindow evidences (.utc t) = .error dateValueOutOfRange := by
  rw [WindowEngine.filterByEventTimeWindow, requireUtc_utc, Except.ok_bind',
    addTimedelta_of_not (by rwa [← Int.sub_eq_add_neg]), Except.error_bind']

theorem filterByEventTimeWindow_of_not {evidences : List (Evidence φ)} {t : Int}
    (h : ¬ CutoffFails runner t) :
    runner.windowEngine.filterByEventTimeWindow evidences (.utc t) =
      .ok (windowAt runner.windowEngine evidences t) := by
  rw [WindowEngine.filterByEventTimeWindow, requireUtc_utc, Except.ok_bind',
    addTimedelta_of (by rw [← Int.sub_eq_add_neg]; exact not_not.mp h), Except.ok_bind']
  rfl

/-- Available items stay available, and the pending ones are read in order. -/
theorem causalLoop_eq_of_read {items : List (Scheduled φ)} {points : List Int}
    (hpoints : points.Pairwise (· ≤ ·)) (p : Scheduled φ → Bool)
    (hp : ∀ t ∈ points, ∀ item, p item → item.availableAt ≤ t) {obs : Observations} :
    runner.causalLoop points (items.dropWhile p) ((items.takeWhile p).map (·.evidence)) obs =
      observeAll runner.scorer (fun t => windowAt runner.windowEngine (availableAt items t) t)
        (CutoffFails runner) points obs := by
  induction points generalizing p obs with
  | nil => rw [observeAll_nil, TemporalReplayRunner.causalLoop]
  | cons t points ih =>
    rw [List.pairwise_cons] at hpoints
    have hread : ∀ item, p item → decide (item.availableAt ≤ t) := fun item h =>
      decide_eq_true (hp t List.mem_cons_self item h)
    have hactivated : (items.takeWhile p).map (·.evidence) ++
        ((items.dropWhile p).takeWhile fun item => item.availableAt ≤ t).map (·.evidence) =
          availableAt items t := by
      rw [← List.map_append, takeWhile_append_takeWhile hread, availableAt]
    rw [TemporalReplayRunner.causalLoop]
    simp only [hactivated, dropWhile_dropWhile hread]
    by_cases hfails : CutoffFails runner t
    · rw [filterByEventTimeWindow_of_fails hfails, observeAll_cons_of_fails hfails]
      rfl
    · rw [filterByEventTimeWindow_of_not hfails, observeAll_cons_of_not hfails, Except.ok_bind']
      refine ih hpoints.2 _ fun t' ht' item hitem => ?_
      exact (of_decide_eq_true hitem).trans (hpoints.1 t' ht')

theorem causalLoop_eq {items : List (Scheduled φ)} {points : List Int}
    (hpoints : points.Pairwise (· ≤ ·)) :
    runner.causalLoop points items [] ([], []) =
      observeAll runner.scorer (fun t => windowAt runner.windowEngine (availableAt items t) t)
        (CutoffFails runner) points ([], []) := by
  have hdrop : items.dropWhile (fun _ => false) = items := by cases items <;> rfl
  have htake : items.takeWhile (fun _ => false) = [] := by cases items <;> rfl
  have h : runner.causalLoop points (items.dropWhile fun _ => false)
      ((items.takeWhile fun _ => false).map (·.evidence)) ([], []) = _ :=
    causalLoop_eq_of_read hpoints (fun _ => false) fun _ _ _ hread => nomatch hread
  rwa [hdrop, htake] at h

/-- The Evidence that the causal replay finds active at a time. -/
def causalWindow (runner : TemporalReplayRunner) (items : List (Scheduled φ)) (t : Int) :
    List (Evidence φ) :=
  windowAt runner.windowEngine (availableAt (sortedBy TemporalReplayRunner.scheduledKey items) t) t

theorem mem_causalWindow {items : List (Scheduled φ)} {t : Int} {e : Evidence φ} :
    e ∈ causalWindow runner items t ↔ (∃ i ∈ items, i.availableAt ≤ t ∧ i.evidence = e) ∧
      t - runner.windowEngine.windowSize ≤ e.timestamp ∧ e.timestamp ≤ t := by
  rw [causalWindow, windowAt, List.mem_filter, mem_availableAt, decide_eq_true_eq]

/-- The causal replay observes its windows, unless it leaves the datetimes. -/
theorem runCausal_eq {items : List (Scheduled φ)} {runId entityId : String} {start stop : Int}
    (hle : start ≤ stop) (hvalid : ItemsValid runId entityId start stop items) :
    runner.runCausal (items.map (·.input)) runId entityId (.utc start) (.utc stop) =
      if (∃ t ∈ gridOf runner start stop, ¬ IsDatetime (t + runner.stepSize)) ∨
          ∃ t ∈ causalPoints runner start stop, CutoffFails runner t then
        .error dateValueOutOfRange
      else replayResult runner runId entityId stop .runEnd
        (observations runner.scorer (causalWindow runner items) (causalPoints runner start stop)) := by
  have hchecked : TemporalReplayRunner.validateScheduled runId entityId start stop []
      (items.map (·.input)) = .ok items :=
    validateScheduled_eq_ok.mpr ⟨rfl, hvalid, fun _ _ => List.not_mem_nil⟩
  rw [TemporalReplayRunner.runCausal, requireUtc_utc, Except.ok_bind', requireUtc_utc,
    Except.ok_bind', raiseIf_of_not (Int.not_lt.mpr hle), Except.ok_bind', hchecked, Except.ok_bind',
    causalReplayPoints_eq]
  by_cases hstep : ∃ t ∈ gridOf runner start stop, ¬ IsDatetime (t + runner.stepSize)
  · rw [if_pos hstep, if_pos (.inl hstep)]
    rfl
  · rw [if_neg hstep, Except.ok_bind',
      causalLoop_eq ((causalPoints_pairwise runner start stop).imp le_of_lt)]
    refine (observeAll_bind (f := replayResult runner runId entityId stop .runEnd)).trans ?_
    simp only [hstep, false_or]
    rfl

/-- A causal replay that returns has passed its checks. -/
theorem items_of_ok {inputs : List (ScheduledEvidence φ)} {runId entityId : String}
    {runStart runEnd : PyDatetime} {r : TemporalReplayResult}
    (h : runner.runCausal inputs runId entityId runStart runEnd = .ok r) :
    ∃ start stop items, runStart = .utc start ∧ runEnd = .utc stop ∧ start ≤ stop ∧
      inputs = items.map (·.input) ∧ ItemsValid runId entityId start stop items := by
  rw [TemporalReplayRunner.runCausal, Except.bind_eq_ok] at h
  obtain ⟨start, hstart, h⟩ := h
  obtain ⟨stop, hstop, h⟩ := Except.bind_eq_ok.mp h
  rw [raiseIf_bind_eq_ok] at h
  obtain ⟨items, hitems, -⟩ := Except.bind_eq_ok.mp h.2
  obtain ⟨hinputs, hvalid, -⟩ := validateScheduled_eq_ok.mp hitems
  exact ⟨start, stop, items, requireUtc_eq_ok.mp hstart, requireUtc_eq_ok.mp hstop,
    Int.not_lt.mp h.1, hinputs, hvalid⟩

end Causal

/-- Observations of active Evidence with the same members. -/
theorem observations_congr {scorer : SimpleScorer} {active active' : Int → List (Evidence φ)}
    {points : List Int} (h : ∀ t ∈ points, ∀ e, e ∈ active t ↔ e ∈ active' t) :
    observations scorer active points = observations scorer active' points := by
  unfold observations
  congr 1
  · exact List.map_congr_left fun t ht => by rw [SimpleScorer.score_congr (h t ht)]
  · exact List.map_congr_left fun t ht => by rw [SimpleScorer.contributingEvidenceIds_congr (h t ht)]

/-! ## The plain replay -/

section Plain

variable {runner : TemporalReplayRunner} {key : StateKey} {s : WindowState φ} {t : Int}
  {consumed due pending evidences : List (Evidence φ)} {p : Evidence φ → Bool}
  {advance : Option Int} {obs : Observations}

/-- What the engine holds of a key: of the Evidence `consumed` up to the last
advance what is not evicted (`p`), and the Evidence ingested since (`due`). -/
structure Holds (key : StateKey) (consumed : List (Evidence φ)) (p : Evidence φ → Bool)
    (due : List (Evidence φ)) (advance : Option Int) (s : WindowState φ) : Prop where
  states : s.states key =
    if consumed ++ due = [] then none else some (consumed.dropWhile p ++ due)
  last : s.lastTimestamp key = (consumed ++ due).getLast?.map (·.timestamp)
  advance : s.lastAdvanceTimestamp key = advance

/-- Sorted Evidence ends with its latest timestamp. -/
theorem le_of_getLast? {l : List (Evidence φ)} {e : Evidence φ} {x : Int}
    (h : x ∈ l.getLast?.map (·.timestamp)) (hl : ∀ a ∈ l, a.timestamp ≤ e.timestamp) :
    x ≤ e.timestamp := by
  obtain ⟨a, ha, rfl⟩ := Option.map_eq_some_iff.mp h
  exact hl a (List.mem_of_getLast? ha)

theorem Holds.ingest (h : Holds key consumed p due advance s) {e : Evidence φ}
    (hkey : (e.runId, e.entityId) = key) (hadvance : ∀ a ∈ advance, a ≤ e.timestamp)
    (hle : ∀ a ∈ consumed ++ due, a.timestamp ≤ e.timestamp) :
    ∃ s', (WindowEngine.ingest e).run s = .ok () s' ∧
      Holds key consumed p (due ++ [e]) advance s' := by
  subst hkey
  refine ⟨_, WindowEngine.run_ingest rfl rfl ?_ ?_, ?_, ?_, ?_⟩
  · rw [h.advance]
    exact hadvance
  · rw [h.last]
    exact fun x hx => le_of_getLast? hx hle
  · have hne : consumed ++ (due ++ [e]) ≠ [] := by simp
    rw [WindowState.states_set, h.states, if_neg hne]
    split
    · next hnil =>
      rw [List.append_eq_nil_iff] at hnil
      simp [hnil.1, hnil.2]
    · simp
  · rw [WindowState.lastTimestamp_set, ← List.append_assoc, List.getLast?_concat]
    rfl
  · rw [WindowState.lastAdvanceTimestamp_set, h.advance]

/-- The inner loop ingests the pending Evidence up to `t`. -/
theorem Holds.ingestUntil (h : Holds key consumed p due advance s)
    (hkey : ∀ e ∈ pending, (e.runId, e.entityId) = key)
    (hadvance : ∀ a ∈ advance, ∀ e ∈ pending, a ≤ e.timestamp)
    (hsorted : (consumed ++ due ++ pending).Pairwise fun a b => a.timestamp ≤ b.timestamp) :
    ∃ s', (TemporalReplayRunner.ingestUntil t pending).run s =
        .ok (pending.dropWhile fun e => e.timestamp ≤ t) s' ∧
      Holds key consumed p (due ++ pending.takeWhile fun e => e.timestamp ≤ t) advance s' := by
  induction pending generalizing due s with
  | nil => exact ⟨s, rfl, by simpa using h⟩
  | cons e rest ih =>
    by_cases he : e.timestamp ≤ t
    · have hle : ∀ a ∈ consumed ++ due, a.timestamp ≤ e.timestamp := fun a ha =>
        (List.pairwise_append.mp hsorted).2.2 a ha e List.mem_cons_self
      obtain ⟨s₁, hrun₁, h₁⟩ := h.ingest (hkey e List.mem_cons_self)
        (fun a ha => hadvance a ha e List.mem_cons_self) hle
      obtain ⟨s₂, hrun₂, h₂⟩ := ih h₁ (fun e' he' => hkey e' (List.mem_cons_of_mem _ he'))
        (fun a ha e' he' => hadvance a ha e' (List.mem_cons_of_mem _ he'))
        (by simpa using hsorted)
      refine ⟨s₂, ?_, ?_⟩
      · rw [TemporalReplayRunner.ingestUntil, if_pos he, EStateM.run_bind, hrun₁,
          List.dropWhile_cons_of_pos (by simpa using he)]
        exact hrun₂
      · rw [List.takeWhile_cons_of_pos (by simpa using he)]
        simpa using h₂
    · refine ⟨s, ?_, ?_⟩
      · rw [TemporalReplayRunner.ingestUntil, if_neg he,
          List.dropWhile_cons_of_neg (by simpa using he)]
        rfl
      · rw [List.takeWhile_cons_of_neg (by simpa using he), List.append_nil]
        exact h

section Advance

variable {runId entityId : String} (h : Holds (runId, entityId) consumed p due advance s)
  (hadvance : ∀ a ∈ advance, a ≤ t) (hle : ∀ e ∈ consumed ++ due, e.timestamp ≤ t)

include h hadvance hle

/-- The advance is recorded before anything is evicted. -/
theorem Holds.run_advanceTo :
    (runner.windowEngine.advanceTo runId entityId (.utc t)).run s =
      (runner.windowEngine.evict (runId, entityId) t).run
        (WindowEngine.advanced s (runId, entityId) t) := by
  refine WindowEngine.run_advanceTo ?_ ?_
  · rw [h.advance]
    exact hadvance
  · rw [h.last]
    intro x hx
    obtain ⟨a, ha, rfl⟩ := Option.map_eq_some_iff.mp hx
    exact hle a (List.mem_of_getLast? ha)

/-- After an advance the deque holds the Evidence from the cutoff on. -/
theorem Holds.advanceTo (hcutoff : consumed ++ due = [] ∨ ¬ CutoffFails runner t)
    (hp : ∀ e, p e → e.timestamp < t - runner.windowEngine.windowSize) :
    ∃ s', (runner.windowEngine.advanceTo runId entityId (.utc t)).run s = .ok () s' ∧
      Holds (runId, entityId) (consumed ++ due)
        (fun e => e.timestamp < t - runner.windowEngine.windowSize) [] (some t) s' := by
  rw [h.run_advanceTo hadvance hle]
  by_cases hnil : consumed ++ due = []
  · have hstate : (WindowEngine.advanced s (runId, entityId) t).states (runId, entityId) = none := by
      rw [WindowEngine.advanced, WindowState.states_set, h.states, if_pos hnil]
    refine ⟨_, WindowEngine.run_evict_of_none hstate, ?_, ?_, ?_⟩
    · rw [hstate, List.append_nil, if_pos hnil]
    · rw [WindowEngine.advanced, WindowState.lastTimestamp_set, h.last, List.append_nil]
    · rw [WindowEngine.advanced, WindowState.lastAdvanceTimestamp_set]
  · have hstate : (WindowEngine.advanced s (runId, entityId) t).states (runId, entityId) =
        some (consumed.dropWhile p ++ due) := by
      rw [WindowEngine.advanced, WindowState.states_set, h.states, if_neg hnil]
    have hdatetime : IsDatetime (t + -runner.windowEngine.windowSize) := by
      rw [← Int.sub_eq_add_neg]
      exact not_not.mp (hcutoff.resolve_left hnil)
    refine ⟨_, WindowEngine.run_evict_of_some hstate (addTimedelta_of hdatetime), ?_, ?_, ?_⟩
    · rw [WindowState.states_set, List.append_nil, if_neg hnil, List.append_nil]
      congr 1
      rw [← Int.sub_eq_add_neg]
      exact dropWhile_dropWhile_append (fun e he => decide_eq_true (hp e he)) consumed due
    · rw [WindowState.lastTimestamp_set, WindowEngine.advanced, WindowState.lastTimestamp_set,
        h.last, List.append_nil]
    · rw [WindowState.lastAdvanceTimestamp_set, WindowEngine.advanced,
        WindowState.lastAdvanceTimestamp_set]

/-- An advance with Evidence in the deque fails with its cutoff. -/
theorem Holds.advanceTo_error (hne : consumed ++ due ≠ []) (hcutoff : CutoffFails runner t) :
    ∃ s', (runner.windowEngine.advanceTo runId entityId (.utc t)).run s =
      .error dateValueOutOfRange s' := by
  have hstate : (WindowEngine.advanced s (runId, entityId) t).states (runId, entityId) =
      some (consumed.dropWhile p ++ due) := by
    rw [WindowEngine.advanced, WindowState.states_set, h.states, if_neg hne]
  have herror : addTimedelta t (-runner.windowEngine.windowSize) = .error dateValueOutOfRange :=
    addTimedelta_of_not (by rwa [← Int.sub_eq_add_neg])
  exact ⟨_, (h.run_advanceTo hadvance hle).trans (WindowEngine.run_evict_error hstate herror)⟩

end Advance

/-- The active Evidence after an advance to `t` is the window that ends there. -/
theorem Holds.getActiveEvidence {runId entityId : String}
    (h : Holds (runId, entityId) (evidences.takeWhile fun e => e.timestamp ≤ t)
      (fun e => e.timestamp < t - runner.windowEngine.windowSize) [] (some t) s)
    (hsorted : evidences.Pairwise fun a b => a.timestamp ≤ b.timestamp) :
    WindowEngine.getActiveEvidence runId entityId s = windowAt runner.windowEngine evidences t := by
  have hwindow := slidingWindow_eq_filter hsorted (t - runner.windowEngine.windowSize) t
  have hstates := h.states
  rw [List.append_nil, List.append_nil, hwindow] at hstates
  rw [WindowEngine.getActiveEvidence, windowAt, hstates]
  split_ifs with hnil
  · rw [hnil] at hwindow
    exact hwindow
  · rw [h.advance]
    change List.filter _ (List.filter _ evidences) = _
    rw [List.filter_filter]
    refine List.filter_congr fun e _ => ?_
    by_cases he : e.timestamp ≤ t <;> simp [he]

/-- Where the plain replay leaves the datetimes: at the cutoff, once there is
Evidence in the deque, or at the next grid point. -/
def PlainFails (runner : TemporalReplayRunner) (evidences : List (Evidence φ)) (t : Int) : Prop :=
  ((∃ e ∈ evidences, e.timestamp ≤ t) ∧ CutoffFails runner t) ∨ ¬ IsDatetime (t + runner.stepSize)

instance : DecidablePred (PlainFails runner evidences) := fun _ =>
  inferInstanceAs (Decidable ((_ ∧ _) ∨ ¬ _))

theorem takeWhile_ne_nil_iff (hsorted : evidences.Pairwise fun a b => a.timestamp ≤ b.timestamp) :
    (evidences.takeWhile fun e => e.timestamp ≤ t) ≠ [] ↔ ∃ e ∈ evidences, e.timestamp ≤ t := by
  have hread : evidences.Pairwise fun a b => decide (b.timestamp ≤ t) → decide (a.timestamp ≤ t) :=
    hsorted.imp fun hab hb => decide_eq_true (hab.trans (of_decide_eq_true hb))
  rw [takeWhile_eq_filter hread, ne_eq, List.filter_eq_nil_iff]
  simp

theorem Holds.replayLoop {runId entityId : String} {stop : Int} {fuel : Nat}
    (h : Holds (runId, entityId) consumed p [] advance s) (hsplit : consumed ++ pending = evidences)
    (hkey : ∀ e ∈ evidences, (e.runId, e.entityId) = (runId, entityId))
    (hsorted : evidences.Pairwise fun a b => a.timestamp ≤ b.timestamp)
    (hconsumed : ∀ e ∈ consumed, e.timestamp ≤ t)
    (hadvance : ∀ a ∈ advance, a ≤ t ∧ ∀ e ∈ pending, a ≤ e.timestamp)
    (hp : ∀ e, p e → e.timestamp < t - runner.windowEngine.windowSize) :
    outcome (runner.replayLoop runId entityId stop fuel t pending obs) s =
      observeAll runner.scorer (windowAt runner.windowEngine evidences)
        (PlainFails runner evidences) (grid runner.stepSize stop fuel t) obs := by
  induction fuel generalizing t consumed p pending advance s obs with
  | zero => rw [TemporalReplayRunner.replayLoop, outcome_pure, grid, observeAll_nil]
  | succ fuel ih =>
    rw [TemporalReplayRunner.replayLoop, grid]
    by_cases ht : t ≤ stop
    swap
    · rw [if_neg ht, if_neg ht, outcome_pure, observeAll_nil]
    rw [if_pos ht, if_pos ht]
    have hdue : consumed ++ (pending.takeWhile fun e => e.timestamp ≤ t) =
        evidences.takeWhile fun e => e.timestamp ≤ t := by
      rw [← hsplit, List.takeWhile_append_of_pos]
      exact fun e he => decide_eq_true (hconsumed e he)
    obtain ⟨s₁, hrun₁, h₁⟩ := h.ingestUntil (t := t)
      (fun e he => hkey e (hsplit ▸ List.mem_append_right _ he))
      (fun a ha => (hadvance a ha).2) (by rwa [List.append_nil, hsplit])
    rw [List.nil_append] at h₁
    rw [outcome_bind_of_ok hrun₁]
    have hle : ∀ e ∈ consumed ++ pending.takeWhile (fun e => e.timestamp ≤ t), e.timestamp ≤ t := by
      rw [hdue]
      exact fun e he => by simpa using List.mem_takeWhile_imp he
    have hle' := fun a ha => (hadvance a ha).1
    by_cases hfails : (∃ e ∈ evidences, e.timestamp ≤ t) ∧ CutoffFails runner t
    · have hne := (takeWhile_ne_nil_iff hsorted).mpr hfails.1
      obtain ⟨s₂, hrun₂⟩ := h₁.advanceTo_error hle' hle (hdue ▸ hne) hfails.2
      rw [outcome_bind_of_error hrun₂, observeAll_cons_of_fails (.inl hfails)]
    have hcutoff : consumed ++ pending.takeWhile (fun e => e.timestamp ≤ t) = [] ∨
        ¬ CutoffFails runner t := by
      rw [hdue, or_iff_not_imp_left]
      exact fun hne hc => hfails ⟨(takeWhile_ne_nil_iff hsorted).mp hne, hc⟩
    obtain ⟨s₂, hrun₂, h₂⟩ := h₁.advanceTo hle' hle hcutoff hp
    rw [hdue] at h₂
    rw [outcome_bind_of_ok hrun₂, outcome_reads_bind, Except.ok_bind', outcome_reads_bind,
      h₂.getActiveEvidence hsorted]
    by_cases hnext : IsDatetime (t + runner.stepSize)
    · rw [addTimedelta_of hnext, Except.ok_bind',
        observeAll_cons_of_not (by rintro (hc | hc); exacts [hfails hc, hc hnext])]
      have hstep := runner.stepSize_pos
      have hpending : (pending.dropWhile fun e => e.timestamp ≤ t) =
          pending.filter fun e => ! decide (e.timestamp ≤ t) := by
        have hrest : pending.Pairwise fun a b => a.timestamp ≤ b.timestamp := by
          rw [← hsplit] at hsorted
          exact (List.pairwise_append.mp hsorted).2.1
        refine dropWhile_eq_filter (hrest.imp fun hab hb => ?_)
        exact decide_eq_true (hab.trans (of_decide_eq_true hb))
      refine ih h₂ ?_ ?_ ?_ ?_
      · rw [← hdue, List.append_assoc, List.takeWhile_append_dropWhile, hsplit]
      · intro e he
        have := hle e (hdue ▸ he)
        omega
      · rintro a ⟨⟩
        refine ⟨by omega, fun e he => ?_⟩
        rw [hpending, List.mem_filter] at he
        have := he.2
        simp only [Bool.not_eq_true', decide_eq_false_iff_not] at this
        omega
      · intro e he
        have := of_decide_eq_true he
        omega
    · rw [addTimedelta_of_not hnext, Except.error_bind', observeAll_cons_of_fails (.inr hnext)]

section Run

variable {runId entityId : String} {start stop : Int} {replayEnd : Option PyDatetime}
  {boundary : Boundary}

/-- The inputs that pass the checks of `run`. -/
structure RunValid (runner : TemporalReplayRunner) (evidences : List (Evidence φ))
    (runId entityId : String) (start stop : Int) (replayEnd : Option PyDatetime)
    (boundary : Boundary) : Prop where
  start_le : start ≤ stop
  boundary_eq : TemporalReplayRunner.boundary start stop replayEnd = .ok boundary
  on_grid : (boundary.effectiveEnd - start) % runner.stepSize = 0
  evidences : EvidencesValid runId entityId start boundary.effectiveEnd evidences

/-- The plain replay observes the windows of the grid, unless it leaves the datetimes. -/
theorem outcome_run (h : RunValid runner evidences runId entityId start stop replayEnd boundary) :
    outcome (runner.run evidences runId entityId (.utc start) (.utc stop) replayEnd) s =
      if ∃ t ∈ gridOf runner start boundary.effectiveEnd, PlainFails runner evidences t then
        .error dateValueOutOfRange
      else replayResult runner runId entityId boundary.effectiveEnd boundary.endReason
        (observations runner.scorer (windowAt runner.windowEngine evidences)
          (gridOf runner start boundary.effectiveEnd)) := by
  have hvalid : TemporalReplayRunner.validateEvidences runId entityId start boundary none evidences =
      .ok () :=
    validateEvidences_eq_ok.mpr ⟨h.evidences, fun p hp => nomatch hp⟩
  have hreset : (WindowEngine.reset runId entityId).run s =
      .ok () (s.set (runId, entityId) none none none) := rfl
  have hholds : Holds (runId, entityId) [] (fun _ => false) [] none
      (s.set (runId, entityId) none none none) := ⟨by simp, by simp, by simp⟩
  have hloop : outcome (runner.replayLoop runId entityId boundary.effectiveEnd
      (runner.replayFuel start boundary.effectiveEnd) start evidences ([], [])) _ = _ :=
    hholds.replayLoop (List.nil_append evidences)
      (fun e he => by rw [h.evidences.runId_eq e he, h.evidences.entityId_eq e he])
      h.evidences.sorted (fun e he => nomatch he) (fun a ha => nomatch ha) (fun e he => nomatch he)
  rw [TemporalReplayRunner.run, outcome_reads_bind, requireUtc_utc, Except.ok_bind',
    outcome_reads_bind, requireUtc_utc, Except.ok_bind', outcome_reads_bind,
    raiseIf_of_not (Int.not_lt.mpr h.start_le), Except.ok_bind', outcome_reads_bind, h.boundary_eq,
    Except.ok_bind', outcome_reads_bind, raiseIf_of_not (not_not.mpr h.on_grid), Except.ok_bind',
    outcome_reads_bind, hvalid, Except.ok_bind', outcome_bind_of_ok hreset]
  rw [outcome_bind (g := replayResult runner runId entityId boundary.effectiveEnd boundary.endReason),
    hloop, observeAll_bind]
  intro obs s'
  rw [outcome_reads_bind]
  rfl

/-- A run that returns has passed its checks. -/
theorem runValid_of_ok {runStart runEnd : PyDatetime} {r : TemporalReplayResult}
    (h : outcome (runner.run evidences runId entityId runStart runEnd replayEnd) s = .ok r) :
    ∃ start stop boundary, runStart = .utc start ∧ runEnd = .utc stop ∧
      RunValid runner evidences runId entityId start stop replayEnd boundary := by
  rw [TemporalReplayRunner.run, outcome_reads_bind, Except.bind_eq_ok] at h
  obtain ⟨start, hstart, h⟩ := h
  rw [outcome_reads_bind, Except.bind_eq_ok] at h
  obtain ⟨stop, hstop, h⟩ := h
  rw [outcome_reads_bind, raiseIf_bind_eq_ok, outcome_reads_bind, Except.bind_eq_ok] at h
  obtain ⟨hle, boundary, hboundary, h⟩ := h
  rw [outcome_reads_bind, raiseIf_bind_eq_ok, outcome_reads_bind, Except.bind_eq_ok] at h
  obtain ⟨hgrid, u, hvalid, -⟩ := h
  exact ⟨start, stop, boundary, requireUtc_eq_ok.mp hstart, requireUtc_eq_ok.mp hstop,
    Int.not_lt.mp hle, hboundary, not_not.mp hgrid, (validateEvidences_eq_ok.mp hvalid).1⟩

end Run

end Plain

end IncidentAwareness.Fusion
