import IncidentAwareness.Telemetry.Collector
import IncidentAwareness.Telemetry.Store

/-!
# Telemetry sessions

`PipelineTelemetrySession` with the `PostgresPipelineTelemetryObserver` it flushes to,
over the store. What the database does during an attempt is given with the call:
whether it connects, whether it fails during the save, and how the commit ends, which
may raise although the transaction became durable. Other executions are saved in
between.
-/

namespace IncidentAwareness.Telemetry

open IncidentAwareness.Common IncidentAwareness.Lib

/-- How a commit ends: it returns, or it raises and the transaction is lost or durable. -/
inductive CommitOutcome where
  | returns | lost | ambiguous
  deriving DecidableEq, Repr

/-- What the database does during an attempt. The connection is opened where none is open;
`now` is what its clock shows. -/
structure Attempt where
  connects : Bool := true
  saves : Bool := true
  commit : CommitOutcome := .returns
  now : Int := 0
  deriving DecidableEq, Repr

/-! ## The observer -/

/-- `PostgresPipelineTelemetryObserver`. -/
structure Observer where
  connected : Bool := false
  pending : Option PipelineTelemetrySnapshot := none
  lastSaved : Option PipelineTelemetrySnapshot := none
  consecutiveFailures : Nat := 0
  disabled : Bool := false
  closed : Bool := false
  deriving DecidableEq

/-- `_MAX_FAILURES`. -/
def maxFailures : Nat := 3

/-- `_MAX_BUCKETS`. -/
def maxBuckets : Nat := 3600

namespace Observer

/-- `buffer`. -/
def buffer (o : Observer) (snapshot : PipelineTelemetrySnapshot) : Except PyError Observer := do
  raiseIf (maxBuckets < snapshot.val.buckets.length)
    (.valueError "telemetry pending snapshot exceeds the bucket budget")
  match o.pending <|> o.lastSaved with
  | none => return { o with pending := some snapshot }
  | some reference =>
    raiseIf (snapshot.val.executionId ≠ reference.val.executionId)
      (.valueError "one telemetry Observer must serve only one execution")
    if snapshot.val.revision < reference.val.revision then return o
    raiseIf (snapshot.val.revision = reference.val.revision ∧ snapshot ≠ reference)
      (.valueError "same pending revision has different payload")
    return { o with pending := some snapshot }

/-- `_failed`. -/
def failed (o : Observer) : Observer :=
  { o with
    consecutiveFailures := o.consecutiveFailures + 1
    disabled := maxFailures ≤ o.consecutiveFailures + 1
    connected := false }

/-- An observer whose pending snapshot is saved. -/
def confirmed (o : Observer) (lastSaved : Option PipelineTelemetrySnapshot) : Observer :=
  { o with pending := none, lastSaved := lastSaved, consecutiveFailures := 0 }

/-- `save_snapshot` and `commit` on an open connection: the store they leave, and whether both
returned. -/
def saveAndCommit (store : TelemetryStore) (snapshot : PipelineTelemetrySnapshot)
    (attempt : Attempt) : TelemetryStore × Bool :=
  if attempt.saves then
    match store.saveSnapshot snapshot attempt.now with
    | .error _ => (store, false)
    | .ok (saved, _) =>
      match attempt.commit with
      | .returns => (saved, true)
      | .lost => (store, false)
      | .ambiguous => (saved, false)
  else (store, false)

/-- `flush`: the observer and the store after it, and its answer. -/
def flush (o : Observer) (store : TelemetryStore) (attempt : Attempt) :
    Observer × TelemetryStore × Bool :=
  if o.disabled ∨ o.closed then (o, store, false)
  else match o.pending with
    | none => ({ o with consecutiveFailures := 0 }, store, true)
    | some pending =>
      if o.lastSaved = some pending then (o.confirmed o.lastSaved, store, true)
      else if o.connected ∨ attempt.connects then
        match saveAndCommit store pending attempt with
        | (store, true) => ({ o.confirmed (some pending) with connected := true }, store, true)
        | (store, false) => (o.failed, store, false)
      else (o.failed, store, false)

/-- `__call__`. -/
def call (o : Observer) (snapshot : PipelineTelemetrySnapshot) (store : TelemetryStore)
    (attempt : Attempt) : Observer × TelemetryStore × Bool :=
  if o.disabled ∨ o.closed then (o, store, false)
  else match o.buffer snapshot with
    | .error _ => (o.failed, store, false)
    | .ok o => o.flush store attempt

end Observer

/-! ## The session -/

/-- `PipelineTelemetrySession`; times are nanoseconds of the monotonic clock. -/
structure Session where
  collector : PipelineTelemetryCollector
  observer : Observer := {}
  flushInterval : Int
  lastAttemptAt : Option Int := none
  failures : Nat := 0
  disabled : Bool := false
  clockFailed : Bool := false

/-- A call of the observer: the snapshot passed to it, and its answer. -/
abbrev ObserverCall := PipelineTelemetrySnapshot × Bool

namespace Session

/-- `_internal_failure`. -/
def internalFailure (s : Session) : Session :=
  { s with collector := s.collector.markObservationIssue .internalError true }

/-- The session after its observer answered, or after a failed answer (`except` and `else` of
`flush`). -/
def settle (s : Session) (answer : Bool) : Session :=
  if answer then { s with failures := 0 }
  else
    let disabled := decide (maxFailures ≤ s.failures + 1)
    let collector := s.collector.markObservationIssue .storageError disabled
    -- the snapshot with the new issue is kept for the next attempt
    let (collector, observer) := match collector.snapshot with
      | (collector, .ok snapshot) =>
        match s.observer.buffer snapshot with
        | .ok observer => (collector, observer)
        | .error _ => (collector, s.observer)
      | (collector, .error _) => (collector, s.observer)
    { s with
      collector := collector
      observer := observer
      failures := s.failures + 1
      disabled := disabled }

/-- The attempt of a flush, from the snapshot on. -/
def attemptFlush (s : Session) (store : TelemetryStore) (attempt : Attempt) :
    Session × TelemetryStore × Option ObserverCall :=
  match s.collector.snapshot with
  | (collector, .error _) => ({ s with collector := collector }.internalFailure, store, none)
  | (collector, .ok snapshot) =>
    let (observer, store, answer) := s.observer.call snapshot store attempt
    (({ s with collector := collector, observer := observer }.settle answer), store,
      some (snapshot, answer))

/-- Whether a flush that is not forced waits for the flush interval. -/
def throttles (s : Session) (force : Bool) (now : Option Int) : Bool :=
  !force && match s.lastAttemptAt, now with
    | some last, some now => now - last < s.flushInterval
    | _, _ => false

/-- `flush`. -/
def flush (s : Session) (store : TelemetryStore) (force : Bool) (clock : Option Int)
    (attempt : Attempt) : Session × TelemetryStore × Option ObserverCall :=
  if s.disabled ∨ s.clockFailed ∧ ¬ force then (s, store, none)
  else if ¬ s.clockFailed ∧ clock = none then
    let s := { s with clockFailed := true }.internalFailure
    if ¬ force then (s, store, none)
    else { s with lastAttemptAt := none }.attemptFlush store attempt
  else
    let now := if s.clockFailed then none else clock
    if s.throttles force now then (s, store, none)
    else { s with lastAttemptAt := now }.attemptFlush store attempt

/-- A call on the session's collector, on the session, or of another execution's session. -/
inductive Call where
  | acceptBatch (inputTotal : Int) (clock : Option Int)
  | beginRecord (recordNo : Int) (monotonic : Option Nat)
  | recordSuccess (token : Option RecordToken) (monotonic : Option Nat) (wall : Option Int)
      (clock : Option Int) (attempt : Attempt)
  | recordFailure (token : Option RecordToken) (wall : Option Int) (clock : Option Int)
      (attempt : Attempt)
  | flush (force : Bool) (clock : Option Int) (attempt : Attempt)
  | saveOther (snapshot : PipelineTelemetrySnapshot) (now : Int)

/-- One call: the session and the store after it, and the call of the observer in it. -/
def step (state : Session × TelemetryStore) : Call → (Session × TelemetryStore) × Option ObserverCall
  | .acceptBatch inputTotal clock =>
    (({ state.1 with collector := state.1.collector.acceptBatch inputTotal clock }, state.2), none)
  | .beginRecord recordNo monotonic =>
    (({ state.1 with collector := (state.1.collector.beginRecord recordNo monotonic).1 }, state.2),
      none)
  | .recordSuccess token monotonic wall clock attempt =>
    let s := { state.1 with collector := state.1.collector.finishRecord token true monotonic wall }
    let r := s.flush state.2 false clock attempt
    ((r.1, r.2.1), r.2.2)
  | .recordFailure token wall clock attempt =>
    let s := { state.1 with collector := state.1.collector.finishRecord token false none wall }
    let r := s.flush state.2 true clock attempt
    ((r.1, r.2.1), r.2.2)
  | .flush force clock attempt =>
    let r := state.1.flush state.2 force clock attempt
    ((r.1, r.2.1), r.2.2)
  | .saveOther snapshot now => ((state.1, (state.2.step (snapshot, now)).1), none)

end Session

end IncidentAwareness.Telemetry
