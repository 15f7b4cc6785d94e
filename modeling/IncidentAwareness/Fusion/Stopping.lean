import IncidentAwareness.Common.Datetime
import Mathlib.Algebra.Order.Ring.Rat
import Mathlib.Tactic.Common

/-!
# The stopping policy

`ThresholdStoppingPolicy`: hysteresis over a trajectory of scores. An episode
starts after `persistence_k` points in a row at `threshold_on` or more, and ends
at the first point below `threshold_off`. The observer sees every point with the
policy's state.
-/

namespace IncidentAwareness.Fusion

open IncidentAwareness.Common IncidentAwareness.Lib

/-- `ScorePoint`. -/
structure ScorePoint where
  timestamp : Int
  score : ℚ
  deriving DecidableEq, Repr

/-- `policy_state`. -/
inductive PolicyState where
  | off | on
  deriving DecidableEq, Repr

/-- `StoppingTracePoint`. -/
structure StoppingTracePoint where
  timestamp : Int
  score : ℚ
  persistenceCount : Option Nat
  policyState : PolicyState
  deriving DecidableEq, Repr

/-- `FusionEndReason`. -/
inductive FusionEndReason where
  | released | runEnd | replayEnd
  deriving DecidableEq, Repr

/-- `FusionEpisode`. -/
structure FusionEpisode where
  episodeId : String
  runId : String
  entityId : String
  startTime : Int
  endTime : Int
  endReason : FusionEndReason
  scoreAtStart : ℚ
  peakScore : ℚ
  deriving DecidableEq, Repr

/-- `FusionStatus`; a `StoppingResult` is never `not_evaluated`. -/
inductive FusionStatus where
  | detected | miss | notEvaluated
  deriving DecidableEq, Repr

/-- `StoppingResult`. -/
structure StoppingResult where
  fusionStatus : FusionStatus
  fusionTime : Option Int
  scoreAtDecision : Option ℚ
  fusionEpisodes : List FusionEpisode
  deriving DecidableEq, Repr

/-- `ThresholdStoppingPolicy`, with what its constructor has checked. -/
structure ThresholdStoppingPolicy where
  thresholdOn : ℚ
  thresholdOff : ℚ
  persistenceK : Nat
  thresholdOn_mem : 0 ≤ thresholdOn ∧ thresholdOn ≤ 1 := by decide
  thresholdOff_mem : 0 ≤ thresholdOff ∧ thresholdOff ≤ 1 := by decide
  thresholdOff_lt : thresholdOff < thresholdOn := by decide
  persistenceK_pos : 1 ≤ persistenceK := by decide
  deriving Repr

/-- `FEP-{n:03d}`. -/
def episodeId (n : Nat) : String :=
  let digits := decimalStr n
  "FEP-" ++ String.ofList (List.replicate (3 - digits.length) '0' ++ digits)

/-- The local variables of `evaluate`, with what the observer has seen. -/
structure Evaluation where
  consecutive : Nat := 0
  active : Bool := false
  fusionTime : Option Int := none
  scoreAtDecision : Option ℚ := none
  episodeStartTime : Option Int := none
  episodeScoreAtStart : Option ℚ := none
  peakScore : Option ℚ := none
  episodes : List FusionEpisode := []
  previousTimestamp : Option Int := none
  observed : List StoppingTracePoint := []
  deriving DecidableEq, Repr

/-- The episode that ends, under the next id; its three values must be there. -/
def Evaluation.closeEpisode (s : Evaluation) (runId entityId : String) (endTime : Int)
    (endReason : FusionEndReason) : Except PyError FusionEpisode :=
  match s.episodeStartTime, s.episodeScoreAtStart, s.peakScore with
  | some startTime, some scoreAtStart, some peakScore =>
    .ok { episodeId := episodeId (s.episodes.length + 1), runId, entityId, startTime, endTime,
          endReason, scoreAtStart, peakScore }
  | _, _, _ => .error .assertionError

/-- `observer(StoppingTracePoint(...))`. -/
def Evaluation.notify (s : Evaluation) (point : ScorePoint) (persistenceCount : Option Nat) :
    Evaluation :=
  { s with observed := s.observed ++
      [{ timestamp := point.timestamp, score := point.score, persistenceCount,
         policyState := if s.active then .on else .off }] }

/-- What `evaluate` returns after its loop. -/
def Evaluation.conclude (s : Evaluation) (runId entityId : String) (runEnd : Int)
    (boundaryEndReason : FusionEndReason) : Except PyError StoppingResult := do
  if s.fusionTime = none then
    return { fusionStatus := .miss, fusionTime := none, scoreAtDecision := none,
             fusionEpisodes := [] }
  else if s.active then
    let episode ← s.closeEpisode runId entityId runEnd boundaryEndReason
    return { fusionStatus := .detected, fusionTime := s.fusionTime,
             scoreAtDecision := s.scoreAtDecision, fusionEpisodes := s.episodes ++ [episode] }
  else
    return { fusionStatus := .detected, fusionTime := s.fusionTime,
             scoreAtDecision := s.scoreAtDecision, fusionEpisodes := s.episodes }

namespace ThresholdStoppingPolicy

/-- `ThresholdStoppingPolicy(...)`. -/
def new (thresholdOn thresholdOff : ℚ) (persistenceK : Nat) :
    Except PyError ThresholdStoppingPolicy :=
  if h₁ : 0 ≤ thresholdOn ∧ thresholdOn ≤ 1 then
    if h₂ : 0 ≤ thresholdOff ∧ thresholdOff ≤ 1 then
      if h₃ : thresholdOff < thresholdOn then
        if h₄ : 1 ≤ persistenceK then .ok ⟨thresholdOn, thresholdOff, persistenceK, h₁, h₂, h₃, h₄⟩
        else .error (.valueError "persistence_k must be at least 1")
      else .error (.valueError "threshold_off must be less than threshold_on")
    else .error (.valueError "threshold_off must be between 0.0 and 1.0")
  else .error (.valueError "threshold_on must be between 0.0 and 1.0")

variable (policy : ThresholdStoppingPolicy)

/-- The checks of a point; the second check of the order repeats the first. -/
def validatePoint (s : Evaluation) (point : ScorePoint) (runEnd : Int) :
    Except PyError Unit := do
  raiseIf (¬ (0 ≤ point.score ∧ point.score ≤ 1))
    (.valueError "ScorePoint score must be between 0 and 1")
  raiseIf (∃ previous ∈ s.previousTimestamp, point.timestamp ≤ previous)
    (.valueError "ScorePoint timestamps must be strictly increasing")
  raiseIf (∃ previous ∈ s.previousTimestamp, point.timestamp ≤ previous)
    (.valueError "ScorePoint timestamps must be strictly increasing")
  raiseIf (runEnd < point.timestamp) (.valueError "ScorePoint timestamp must not exceed run_end")

/-- A point while an episode is active. -/
def observeActive (runId entityId : String) (s : Evaluation) (point : ScorePoint) :
    Except PyError Evaluation := do
  if point.score < policy.thresholdOff then
    let episode ← s.closeEpisode runId entityId point.timestamp .released
    let released := { s with
      episodes := s.episodes ++ [episode]
      active := false
      consecutive := 0
      episodeStartTime := none
      episodeScoreAtStart := none
      peakScore := none }
    return released.notify point none
  else if ∀ peak ∈ s.peakScore, peak < point.score then
    return { s with peakScore := some point.score }.notify point none
  else
    return s.notify point none

/-- A point while no episode is active. -/
def observeInactive (s : Evaluation) (point : ScorePoint) : Evaluation :=
  let consecutive := if policy.thresholdOn ≤ point.score then s.consecutive + 1 else 0
  let persistenceCount := if policy.thresholdOn ≤ point.score then some consecutive else none
  if policy.persistenceK ≤ consecutive then
    let activated := { s with
      active := true
      episodeStartTime := some point.timestamp
      episodeScoreAtStart := some point.score
      peakScore := some point.score
      fusionTime := if s.fusionTime = none then some point.timestamp else s.fusionTime
      scoreAtDecision := if s.fusionTime = none then some point.score else s.scoreAtDecision
      consecutive := 0 }
    activated.notify point persistenceCount
  else
    { s with consecutive }.notify point persistenceCount

/-- The body of the loop of `evaluate`. -/
def observe (runId entityId : String) (runEnd : Int) (s : Evaluation) (point : ScorePoint) :
    Except PyError Evaluation := do
  validatePoint s point runEnd
  let s := { s with previousTimestamp := some point.timestamp }
  if s.active then policy.observeActive runId entityId s point
  else return policy.observeInactive s point

/-- `evaluate`: the result, and what the observer has seen. -/
def evaluate (trajectory : List ScorePoint) (runId entityId : String) (runEnd : PyDatetime)
    (boundaryEndReason : FusionEndReason) :
    Except PyError (StoppingResult × List StoppingTracePoint) := do
  raiseIf (isBlank entityId) (.valueError "entity_id must be a non-empty string")
  let runEnd ← requireUtc "run_end" runEnd
  raiseIf (boundaryEndReason ≠ .runEnd ∧ boundaryEndReason ≠ .replayEnd)
    (.valueError "boundary_end_reason must be run_end or replay_end")
  let s ← trajectory.foldlM (policy.observe runId entityId runEnd) {}
  let result ← s.conclude runId entityId runEnd boundaryEndReason
  return (result, s.observed)

end ThresholdStoppingPolicy

end IncidentAwareness.Fusion
