import IncidentAwareness.Common.Evidence
import IncidentAwareness.Lib.Window
import Mathlib.Logic.Function.Basic

/-!
# The window engine

`WindowEngine`: a deque of Evidence for each Run and entity, filled by `ingest`
and evicted by `advance_to`; and `filter_by_event_time_window`, which keeps no
state. `run_ingest`, `run_advanceTo` and `run_getActiveEvidence` say what a
method does to the dicts' entries of its key.
-/

namespace IncidentAwareness.Fusion

open IncidentAwareness.Common IncidentAwareness.Lib

/-- `StateKey`. -/
abbrev StateKey := String × String

/-- `WindowEngine`, its window size in microseconds. -/
structure WindowEngine where
  windowSize : Int
  pos : 0 < windowSize := by decide
  deriving Repr

/-- The dicts of a `WindowEngine`; `none` is an absent key. -/
structure WindowState (φ : Type) where
  states : StateKey → Option (List (Evidence φ))
  lastTimestamp : StateKey → Option Int
  lastAdvanceTimestamp : StateKey → Option Int

variable {φ : Type}

/-- The dicts of a new engine. -/
def WindowState.empty : WindowState φ := ⟨fun _ => none, fun _ => none, fun _ => none⟩

/-- The dicts with all three entries of a key replaced. -/
def WindowState.set (s : WindowState φ) (key : StateKey) (state : Option (List (Evidence φ)))
    (last advance : Option Int) : WindowState φ where
  states := Function.update s.states key state
  lastTimestamp := Function.update s.lastTimestamp key last
  lastAdvanceTimestamp := Function.update s.lastAdvanceTimestamp key advance

section Set

variable (s : WindowState φ) (key : StateKey) (state : Option (List (Evidence φ)))
  (last advance : Option Int)

@[simp] theorem WindowState.states_set : (s.set key state last advance).states key = state :=
  Function.update_self ..

@[simp] theorem WindowState.lastTimestamp_set :
    (s.set key state last advance).lastTimestamp key = last :=
  Function.update_self ..

@[simp] theorem WindowState.lastAdvanceTimestamp_set :
    (s.set key state last advance).lastAdvanceTimestamp key = advance :=
  Function.update_self ..

end Set

namespace WindowEngine

/-- `WindowEngine(window_size=...)`. -/
def new (windowSize : Int) : Except PyError WindowEngine :=
  if h : 0 < windowSize then .ok ⟨windowSize, h⟩
  else .error (.valueError "window_size must be greater than zero")

/-- `if last is not None and timestamp < last: raise ValueError(text)`. -/
def refuseBefore (last : Option Int) (timestamp : Int) (text : String) :
    Except PyError Unit :=
  raiseIf (∃ l ∈ last, timestamp < l) (.valueError text)

/-- `ingest`. -/
def ingest (evidence : Evidence φ) : EStateM PyError (WindowState φ) Unit := do
  let key : StateKey := (evidence.runId, evidence.entityId)
  reads fun s => refuseBefore (s.lastAdvanceTimestamp key) evidence.timestamp
    "cannot ingest evidence before latest window advance timestamp"
  reads fun s => refuseBefore (s.lastTimestamp key) evidence.timestamp
    "Evidence timestamps must be non-decreasing within the same run_id/entity_id"
  modify fun s => s.set key (some ((s.states key).getD [] ++ [evidence]))
    (some evidence.timestamp) (s.lastAdvanceTimestamp key)

variable (engine : WindowEngine)

/-- The eviction of `advance_to`. -/
def evict (key : StateKey) (t : Int) : EStateM PyError (WindowState φ) Unit := do
  match (← get).states key with
  | none => pure ()
  | some state =>
    let cutoff ← reads fun _ => addTimedelta t (-engine.windowSize)
    modify fun s => s.set key (some (state.dropWhile fun e => e.timestamp < cutoff))
      (s.lastTimestamp key) (s.lastAdvanceTimestamp key)

/-- `advance_to`. The advance timestamp is recorded before the cutoff is computed. -/
def advanceTo (runId entityId : String) (timestamp : PyDatetime) :
    EStateM PyError (WindowState φ) Unit := do
  let t ← reads fun _ => requireUtc "timestamp" timestamp
  let key : StateKey := (runId, entityId)
  reads fun s => refuseBefore (s.lastAdvanceTimestamp key) t
    "advance timestamp must be non-decreasing"
  reads fun s => refuseBefore (s.lastTimestamp key) t
    "cannot advance window before latest ingested evidence timestamp"
  modify fun s => s.set key (s.states key) (s.lastTimestamp key) (some t)
  engine.evict key t

/-- `get_active_evidence`. -/
def getActiveEvidence (runId entityId : String) (s : WindowState φ) : List (Evidence φ) :=
  match s.states (runId, entityId) with
  | none => []
  | some state =>
    match s.lastAdvanceTimestamp (runId, entityId) with
    | none => state
    | some last => state.filter fun e => e.timestamp ≤ last

/-- `filter_by_event_time_window`. -/
def filterByEventTimeWindow (evidences : List (Evidence φ)) (timestamp : PyDatetime) :
    Except PyError (List (Evidence φ)) := do
  let t ← requireUtc "timestamp" timestamp
  let cutoff ← addTimedelta t (-engine.windowSize)
  return evidences.filter fun e => cutoff ≤ e.timestamp ∧ e.timestamp ≤ t

/-- `reset`. -/
def reset (runId entityId : String) : EStateM PyError (WindowState φ) Unit :=
  modify fun s => s.set (runId, entityId) none none none

/-! ## What the methods do -/

section Methods

variable {engine} {s : WindowState φ} {runId entityId : String} {t : Int}

theorem refuseBefore_of_le {last : Option Int} {text : String} (h : ∀ l ∈ last, l ≤ t) :
    refuseBefore last t text = .ok () := by
  refine raiseIf_of_not ?_
  rintro ⟨l, hl, hlt⟩
  exact absurd (h l hl) (Int.not_le.mpr hlt)

/-- Evidence at or after what the engine has seen is appended to its deque. -/
theorem run_ingest {e : Evidence φ} (hrun : e.runId = runId) (hentity : e.entityId = entityId)
    (hadvance : ∀ l ∈ s.lastAdvanceTimestamp (runId, entityId), l ≤ e.timestamp)
    (hlast : ∀ l ∈ s.lastTimestamp (runId, entityId), l ≤ e.timestamp) :
    (ingest e).run s = .ok () (s.set (runId, entityId)
      (some ((s.states (runId, entityId)).getD [] ++ [e])) (some e.timestamp)
      (s.lastAdvanceTimestamp (runId, entityId))) := by
  subst hrun hentity
  simp only [ingest, EStateM.run_bind, run_reads, refuseBefore_of_le hadvance,
    refuseBefore_of_le hlast]
  rfl

/-- The dicts with the advance to `t` recorded. -/
def advanced (s : WindowState φ) (key : StateKey) (t : Int) : WindowState φ :=
  s.set key (s.states key) (s.lastTimestamp key) (some t)

section Advance

variable (hadvance : ∀ l ∈ s.lastAdvanceTimestamp (runId, entityId), l ≤ t)
  (hlast : ∀ l ∈ s.lastTimestamp (runId, entityId), l ≤ t)

include hadvance hlast

/-- An advance is recorded, and then evicts. -/
theorem run_advanceTo :
    (engine.advanceTo runId entityId (.utc t)).run s =
      (engine.evict (runId, entityId) t).run (advanced s (runId, entityId) t) := by
  simp only [advanceTo, EStateM.run_bind, run_reads, requireUtc_utc, refuseBefore_of_le hadvance,
    refuseBefore_of_le hlast]
  rfl

end Advance

/-- Without a deque there is no cutoff. -/
theorem run_evict_of_none {key : StateKey} (h : s.states key = none) :
    (engine.evict key t).run s = .ok () s := by
  simp only [evict, EStateM.run_bind, EStateM.run_get, h, EStateM.run_pure]

/-- The deque loses what is before the cutoff, -/
theorem run_evict_of_some {key : StateKey} {state : List (Evidence φ)} {cutoff : Int}
    (h : s.states key = some state) (hcutoff : addTimedelta t (-engine.windowSize) = .ok cutoff) :
    (engine.evict key t).run s =
      .ok () (s.set key (some (state.dropWhile fun e => e.timestamp < cutoff))
        (s.lastTimestamp key) (s.lastAdvanceTimestamp key)) := by
  simp only [evict, EStateM.run_bind, EStateM.run_get, h, run_reads, hcutoff]
  rfl

/-- or the advance raises, where the cutoff is no datetime. -/
theorem run_evict_error {key : StateKey} {state : List (Evidence φ)} {e : PyError}
    (h : s.states key = some state) (hcutoff : addTimedelta t (-engine.windowSize) = .error e) :
    (engine.evict key t).run s = .error e s := by
  simp only [evict, EStateM.run_bind, EStateM.run_get, h, run_reads, hcutoff]

end Methods

end WindowEngine

end IncidentAwareness.Fusion
