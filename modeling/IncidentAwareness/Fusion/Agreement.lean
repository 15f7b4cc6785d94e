import IncidentAwareness.Fusion.ReplaySpec
import IncidentAwareness.Fusion.StoppingSpec
import Mathlib.Data.Prod.Lex

/-!
# The plain and the causal replay

Evidence that is available when it happens makes both replays observe the same
windows, so they agree (`ReplayAgreement`) unless one raises: the causal replay
computes the cutoff of every window, the plain replay only those of a deque that
has been filled. `replayAgreement_iff` says when they agree, datetimes and all.
-/

namespace IncidentAwareness.Fusion

open IncidentAwareness.Common IncidentAwareness.Lib

variable {φ : Type}

/-- The inputs of both replays: Evidence of the run and entity with distinct ids,
sorted and within the run, and a run end on the grid. -/
structure ReplayInput (runner : TemporalReplayRunner) (evidences : List (Evidence φ))
    (runId entityId : String) (start stop : Int) : Prop where
  start_datetime : IsDatetime start
  stop_datetime : IsDatetime stop
  start_le : start ≤ stop
  on_grid : (stop - start) % runner.stepSize = 0
  unique : (evidences.map (·.evidenceId)).Nodup
  sorted : evidences.Pairwise fun a b => a.timestamp ≤ b.timestamp
  runId_eq : ∀ e ∈ evidences, e.runId = runId
  entityId_eq : ∀ e ∈ evidences, e.entityId = entityId
  within : ∀ e ∈ evidences, start ≤ e.timestamp ∧ e.timestamp ≤ stop

/-- Evidence that is available at its timestamp. -/
def availableAtTimestamp (evidences : List (Evidence φ)) : List (ScheduledEvidence φ) :=
  evidences.map fun e => ⟨e, .utc e.timestamp⟩

/-- Both replays return the same trajectory, snapshots, result and trace, or raise the same. -/
def ReplayAgreement (runner : TemporalReplayRunner) (evidences : List (Evidence φ))
    (runId entityId : String) (start stop : Int) (s : WindowState φ) : Prop :=
  outcome (runner.run evidences runId entityId (.utc start) (.utc stop) none) s =
    runner.runCausal (availableAtTimestamp evidences) runId entityId (.utc start) (.utc stop)

namespace ReplayInput

variable {runner : TemporalReplayRunner} {evidences : List (Evidence φ)} {runId entityId : String}
  {start stop : Int} {s : WindowState φ}

theorem start_mem (h : ReplayInput runner evidences runId entityId start stop) :
    start ∈ gridOf runner start stop := mem_gridOf.mpr ⟨h.start_le, 0, by simp⟩

theorem stop_mem (h : ReplayInput runner evidences runId entityId start stop) :
    stop ∈ gridOf runner start stop := stop_mem_gridOf h.start_le h.on_grid

/-- The last grid point is the end of the run. -/
theorem causalPoints_eq (h : ReplayInput runner evidences runId entityId start stop) :
    causalPoints runner start stop = gridOf runner start stop := causalPoints_of_mem h.stop_mem

theorem evidencesValid (h : ReplayInput runner evidences runId entityId start stop) :
    EvidencesValid runId entityId start stop evidences :=
  ⟨h.sorted, h.runId_eq, h.entityId_eq, h.within⟩

/-- The items of Evidence that is available at its timestamp. -/
def items (evidences : List (Evidence φ)) : List (Scheduled φ) :=
  evidences.map fun e => ⟨e, e.timestamp⟩

theorem itemsValid (h : ReplayInput runner evidences runId entityId start stop) :
    ItemsValid runId entityId start stop (items evidences) where
  unique := by
    rw [items, List.map_map]
    exact h.unique
  runId_eq := List.forall_mem_map.mpr h.runId_eq
  entityId_eq := List.forall_mem_map.mpr h.entityId_eq
  within := List.forall_mem_map.mpr h.within
  available := List.forall_mem_map.mpr h.within
  causal := List.forall_mem_map.mpr fun _ _ => le_rfl

/-- Both replays take these inputs. -/
theorem runValid (h : ReplayInput runner evidences runId entityId start stop) :
    RunValid runner evidences runId entityId start stop none ⟨stop, .runEnd, "run_end"⟩ :=
  ⟨h.start_le, rfl, h.on_grid, h.evidencesValid⟩

/-- The causal replay observes the same windows. -/
theorem runCausal_eq (h : ReplayInput runner evidences runId entityId start stop) :
    runner.runCausal (availableAtTimestamp evidences) runId entityId (.utc start) (.utc stop) =
      if (∃ t ∈ gridOf runner start stop, ¬ IsDatetime (t + runner.stepSize)) ∨
          ∃ t ∈ gridOf runner start stop, CutoffFails runner t then
        .error dateValueOutOfRange
      else replayResult runner runId entityId stop .runEnd (observations runner.scorer
        (windowAt runner.windowEngine evidences) (gridOf runner start stop)) := by
  have hinputs : availableAtTimestamp evidences = (items evidences).map (·.input) := by
    rw [items, List.map_map]
    rfl
  have hactive : ∀ t ∈ gridOf runner start stop, ∀ e,
      e ∈ causalWindow runner (items evidences) t ↔ e ∈ windowAt runner.windowEngine evidences t := by
    intro t _ e
    rw [mem_causalWindow, windowAt, List.mem_filter, decide_eq_true_eq]
    simp only [items, List.mem_map]
    constructor
    · rintro ⟨⟨i, ⟨e, he, rfl⟩, -, rfl⟩, hwindow⟩
      exact ⟨he, hwindow⟩
    · rintro ⟨he, hwindow⟩
      exact ⟨⟨⟨e, e.timestamp⟩, ⟨e, he, rfl⟩, hwindow.2, rfl⟩, hwindow⟩
  rw [hinputs, Fusion.runCausal_eq h.start_le h.itemsValid, h.causalPoints_eq,
    observations_congr hactive]

/-- The evaluation of observations does not leave the datetimes. -/
theorem replayResult_ne (_ : ReplayInput runner evidences runId entityId start stop)
    (active : Int → List (Evidence φ)) :
    replayResult runner runId entityId stop .runEnd
      (observations runner.scorer active (gridOf runner start stop)) ≠
        .error dateValueOutOfRange := by
  unfold replayResult
  cases hentity : isBlank entityId with
  | true =>
    rw [ThresholdStoppingPolicy.evaluate, raiseIf_of hentity]
    intro herror
    cases Except.error.inj herror
  | false =>
    obtain ⟨result, trace, hresult, -⟩ := runner.stoppingPolicy.exists_evaluate
      ((gridOf runner start stop).map fun t => ⟨t, runner.scorer.score (active t)⟩) runId hentity
      (.inl rfl)
      (List.pairwise_map.mpr (grid_pairwise runner.stepSize_pos))
      (List.forall_mem_map.mpr fun t _ => ⟨runner.scorer.score_nonneg _, runner.scorer.score_le_one _⟩)
      (List.forall_mem_map.mpr fun t ht => (mem_gridOf.mp ht).1)
    rw [observations, hresult]
    intro herror
    cases herror

/-- A step from the grid leaves the datetimes when the last one does. -/
theorem exists_step_iff (h : ReplayInput runner evidences runId entityId start stop) :
    (∃ t ∈ gridOf runner start stop, ¬ IsDatetime (t + runner.stepSize)) ↔
      datetimeMax < stop + runner.stepSize := by
  have hstep := runner.stepSize_pos
  have hmin := h.start_datetime.1
  constructor
  · rintro ⟨t, ht, hnot⟩
    have hle := le_of_mem_grid hstep ht
    unfold IsDatetime at hnot
    omega
  · intro hlt
    refine ⟨stop, h.stop_mem, fun hdatetime => ?_⟩
    exact absurd hdatetime.2 (Int.not_le.mpr hlt)

/-- A cutoff is no datetime when it lies before the first one. -/
theorem cutoffFails_iff (h : ReplayInput runner evidences runId entityId start stop) {t : Int}
    (ht : t ≤ stop) :
    CutoffFails runner t ↔ t - runner.windowEngine.windowSize < datetimeMin := by
  have hpos := runner.windowEngine.pos
  have hmax := h.stop_datetime.2
  unfold CutoffFails IsDatetime
  omega

theorem exists_cutoff_iff (h : ReplayInput runner evidences runId entityId start stop) :
    (∃ t ∈ gridOf runner start stop, CutoffFails runner t) ↔
      start - runner.windowEngine.windowSize < datetimeMin := by
  constructor
  · rintro ⟨t, ht, hfails⟩
    have hle := le_of_mem_grid runner.stepSize_pos ht
    rw [h.cutoffFails_iff hle.2] at hfails
    omega
  · exact fun hlt => ⟨start, h.start_mem, (h.cutoffFails_iff h.start_le).mpr hlt⟩

theorem exists_filled_cutoff_iff (h : ReplayInput runner evidences runId entityId start stop) :
    (∃ t ∈ gridOf runner start stop,
        (∃ e ∈ evidences, e.timestamp ≤ t) ∧ CutoffFails runner t) ↔
      ∃ e ∈ evidences, ∃ i : Nat, e.timestamp ≤ start + i * runner.stepSize ∧
        start + i * runner.stepSize ≤ stop ∧
        start + i * runner.stepSize - runner.windowEngine.windowSize < datetimeMin := by
  constructor
  · rintro ⟨t, ht, ⟨e, he, hle⟩, hfails⟩
    obtain ⟨hstop, i, rfl⟩ := mem_gridOf.mp ht
    exact ⟨e, he, i, hle, hstop, (h.cutoffFails_iff hstop).mp hfails⟩
  · rintro ⟨e, he, i, hle, hstop, hlt⟩
    exact ⟨_, mem_gridOf.mpr ⟨hstop, i, rfl⟩, ⟨e, he, hle⟩, (h.cutoffFails_iff hstop).mpr hlt⟩

end ReplayInput

/-- When the replays agree: a step of the grid leaves the datetimes, which both
compute; or every cutoff is a datetime; or a cutoff that is none is computed with
Evidence in the deque too. -/
def AgreementCondition (runner : TemporalReplayRunner) (evidences : List (Evidence φ))
    (start stop : Int) : Prop :=
  datetimeMax < stop + runner.stepSize ∨
    datetimeMin ≤ start - runner.windowEngine.windowSize ∨
    ∃ e ∈ evidences, ∃ i : Nat, e.timestamp ≤ start + i * runner.stepSize ∧
      start + i * runner.stepSize ≤ stop ∧
      start + i * runner.stepSize - runner.windowEngine.windowSize < datetimeMin

/-- Two alternatives that share one, where the other one implies its counterpart. -/
theorem or_iff_or_iff {p q r : Prop} (h : q → r) : (q ∨ p ↔ p ∨ r) ↔ p ∨ ¬ r ∨ q := by
  tauto

theorem replayAgreement_iff {runner : TemporalReplayRunner} {evidences : List (Evidence φ)}
    {runId entityId : String} {start stop : Int} (s : WindowState φ)
    (h : ReplayInput runner evidences runId entityId start stop) :
    ReplayAgreement runner evidences runId entityId start stop s ↔
      AgreementCondition runner evidences start stop := by
  have hplain : (∃ t ∈ gridOf runner start stop, PlainFails runner evidences t) ↔
      (∃ t ∈ gridOf runner start stop,
        (∃ e ∈ evidences, e.timestamp ≤ t) ∧ CutoffFails runner t) ∨
        ∃ t ∈ gridOf runner start stop, ¬ IsDatetime (t + runner.stepSize) := by
    simp only [PlainFails, and_or_left, exists_or]
  have hfilled : (∃ t ∈ gridOf runner start stop,
      (∃ e ∈ evidences, e.timestamp ≤ t) ∧ CutoffFails runner t) →
        ∃ t ∈ gridOf runner start stop, CutoffFails runner t :=
    fun ⟨t, ht, _, hfails⟩ => ⟨t, ht, hfails⟩
  have hagree : ReplayAgreement runner evidences runId entityId start stop s ↔
      ((∃ t ∈ gridOf runner start stop, PlainFails runner evidences t) ↔
        (∃ t ∈ gridOf runner start stop, ¬ IsDatetime (t + runner.stepSize)) ∨
          ∃ t ∈ gridOf runner start stop, CutoffFails runner t) := by
    have hne := h.replayResult_ne (windowAt runner.windowEngine evidences)
    rw [ReplayAgreement, outcome_run h.runValid, h.runCausal_eq]
    split_ifs with hplain hcausal hcausal
    · exact iff_of_true rfl (iff_of_true hplain hcausal)
    · exact iff_of_false hne.symm fun hiff => hcausal (hiff.mp hplain)
    · exact iff_of_false hne fun hiff => hplain (hiff.mpr hcausal)
    · exact iff_of_true rfl (iff_of_false hplain hcausal)
  rw [hagree, hplain, or_iff_or_iff hfilled, AgreementCondition, ← h.exists_step_iff,
    ← h.exists_filled_cutoff_iff, ← Int.not_lt, ← h.exists_cutoff_iff]

namespace Sample

/-- One Evidence type, active for `windowSize` microseconds, observed every second. -/
def runner (windowSize : Int) (pos : 0 < windowSize) : TemporalReplayRunner where
  windowEngine := ⟨windowSize, pos⟩
  scorer := { profileTypes := ["suspicious_script"] }
  stoppingPolicy :=
    { thresholdOn := 1 / 2
      thresholdOff := 1 / 4
      persistenceK := 3
      thresholdOn_mem := by norm_num
      thresholdOff_mem := by norm_num
      thresholdOff_lt := by norm_num
      persistenceK_pos := by norm_num }
  stepSize := 1000000

/-- Evidence one second into the epoch. -/
def evidence : Evidence Unit where
  evidenceId := "EV-1"
  runId := "RUN-1"
  timestamp := 1000000
  entityId := "host-1"
  evidenceType := "suspicious_script"
  eventIds := ["EVT-1"]
  derivedFromSourceLayer := .rawTelemetry
  featureChannelGroup := .fusionFeature
  extractorVersion := "v0.2"
  features := ()

/-- Two seconds of the run with this Evidence. -/
theorem replayInput {windowSize : Int} (pos : 0 < windowSize) {evidences : List (Evidence Unit)}
    (h : evidences = [] ∨ evidences = [evidence]) :
    ReplayInput (runner windowSize pos) evidences "RUN-1" "host-1" 0 2000000 := by
  rcases h with rfl | rfl
  · constructor <;> simp [IsDatetime, datetimeMin, datetimeMax, runner]
  · constructor <;> simp [IsDatetime, datetimeMin, datetimeMax, runner, evidence]

/-- A window longer than the years since the year 1. -/
def longWindow : Int := 70000000000000000

theorem longWindow_pos : 0 < longWindow := by decide

/-- A runner with that window. -/
def longRunner : TemporalReplayRunner := runner longWindow longWindow_pos

end Sample

theorem replayAgreement_iff_sample :
    ReplayAgreement (Sample.runner 1 Int.one_pos) [Sample.evidence] "RUN-1" "host-1" 0 2000000 .empty ↔
      AgreementCondition (Sample.runner 1 Int.one_pos) [Sample.evidence] 0 2000000 :=
  replayAgreement_iff .empty (Sample.replayInput Int.one_pos (.inr rfl))

/-- The replays agree on all their inputs. -/
def ReplayAgreementLaw : Prop :=
  ∀ (φ : Type) (runner : TemporalReplayRunner) (evidences : List (Evidence φ))
    (runId entityId : String) (start stop : Int) (s : WindowState φ),
    ReplayInput runner evidences runId entityId start stop →
      ReplayAgreement runner evidences runId entityId start stop s

/-- A window of 70 000 000 000 s reaches before the year 1: the plain replay of no
Evidence returns a miss, the causal one raises. -/
theorem replayAgreementLaw_fails : ¬ ReplayAgreementLaw := by
  intro hlaw
  have hagree := hlaw Unit Sample.longRunner [] "RUN-1" "host-1" 0 2000000 .empty
    (Sample.replayInput Sample.longWindow_pos (.inl rfl))
  have hcausal : Sample.longRunner.runCausal (φ := Unit) [] "RUN-1" "host-1" (.utc 0) (.utc 2000000) =
      .error dateValueOutOfRange := by
    rfl
  have hplain : (outcome (Sample.longRunner.run (φ := Unit) [] "RUN-1" "host-1" (.utc 0)
      (.utc 2000000) none) .empty).toBool = true := by
    decide +kernel
  have hnot : (outcome (Sample.longRunner.run (φ := Unit) [] "RUN-1" "host-1" (.utc 0)
      (.utc 2000000) none) .empty).toBool = false := by
    rw [hagree.trans hcausal]
    rfl
  exact absurd (hplain.symm.trans hnot) (by decide)

end IncidentAwareness.Fusion
