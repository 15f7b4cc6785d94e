import IncidentAwareness.Lib.Program
import IncidentAwareness.Persistence.Persist

/-!
# The current Decision of the dashboard

`DashboardDecisionReader.get_current` as a program of queries, each of which sees
the tables that are committed at its time, and the system in which persistence calls
commit between them. A call commits at once: what calls of many sessions do in any
interleaving is what the committed ones do one after the other (`persisted_serial`).
-/

namespace IncidentAwareness.Dashboard

open IncidentAwareness.Common IncidentAwareness.Lib IncidentAwareness.Persistence

/-- `CurrentDecisionReadModel`. -/
structure CurrentDecisionReadModel where
  decision : DecisionResult
  latestDetectionResult : Option DetectionResult
  latestFusionResult : Option FusionResult
  latestFusionStoppingTrace : Option FusionStoppingTrace
  deriving DecidableEq, Repr

/-- The exceptions of the reader: of a query, of a payload, and its own. -/
inductive DashboardError where
  | driver (text : String)
  | persistence (e : PersistenceError)
  | readConsistency (text : String) (quoted : List (String × String))
  deriving DecidableEq, Repr

/-- The queries of the reader. -/
inductive DashboardQuery where
  | currentHead | detectionResult | fusionResult | stoppingTrace
  deriving DecidableEq, Repr

/-- A part of the reader. -/
abbrev Reader (α : Type) := Program DashboardQuery DashboardError Database α

/-- One query. -/
def query {α : Type} (site : DashboardQuery) (q : Database → Except PersistenceError α) : Reader α :=
  .request site fun db => some ((q db).mapError .persistence, db)

/-- `_CURRENT_READ_MAX_ATTEMPTS`. -/
def currentReadMaxAttempts : Nat := 3

section Reader

variable (runId entityId : String)

/-- `get_current_head`. -/
def queryCurrentHead : Reader (Option DecisionResult) :=
  query .currentHead fun db => db.getCurrentHead runId entityId

/-- The queries of the details, and the head after them. -/
def readDetails (headBefore : DecisionResult) :
    Reader (CurrentDecisionReadModel × Option DecisionResult) := do
  let detectionResult ← query .detectionResult fun db => .ok (db.detectionResults.get (runId, entityId))
  let fusionResult ← query .fusionResult fun db => .ok (db.fusionResults.get (runId, entityId))
  let stoppingTrace ← query .stoppingTrace fun db => .ok (db.fusionStoppingTraces.get (runId, entityId))
  let headAfter ← queryCurrentHead runId entityId
  return (⟨headBefore, detectionResult, fusionResult, stoppingTrace⟩, headAfter)

/-- The loop of `get_current`, with the attempts that are left. -/
def getCurrentWithin : Nat → Reader (Option CurrentDecisionReadModel)
  | 0 => .raise (.readConsistency
      "unable to read a stable Current Decision and Runtime view after 3 attempts for "
      [("run_id", runId), ("entity_id", entityId)])
  | attempts + 1 => do
    match ← queryCurrentHead runId entityId with
    | none => return none
    | some headBefore => do
      let (model, headAfter) ← readDetails runId entityId headBefore
      if headAfter.map (·.decisionId) = some headBefore.decisionId then return some model
      else getCurrentWithin attempts

/-- `get_current`. -/
def getCurrent : Reader (Option CurrentDecisionReadModel) :=
  getCurrentWithin runId entityId currentReadMaxAttempts

end Reader

/-! ## The system -/

/-- The committed tables, and what is left of a read. -/
structure DashboardState where
  db : Database
  reader : Reader (Option CurrentDecisionReadModel)

/-- What happens: a persistence call runs, or the reader makes its next query, which
may fail. -/
inductive DashboardStep where
  | persist (persistenceCall : PersistenceCall)
  | query (failure : Option String)

/-- How a step ends. -/
inductive DashboardAnswer where
  | committed (persistenceCall : PersistenceCall)
  | refused (e : PersistenceError)
  | queried
  | ignored

/-- The call that a step committed. -/
def DashboardAnswer.committed? : DashboardAnswer → Option PersistenceCall
  | .committed persistenceCall => some persistenceCall
  | _ => none

/-- The fault of a query. -/
def queryFault : Option String → Fault DashboardError
  | none => .none
  | some text => .raises (.driver text) false

/-- One step. -/
def DashboardState.step (hashtext : String → Int) (s : DashboardState) :
    DashboardStep → DashboardState × DashboardAnswer
  | .persist persistenceCall =>
    match (persistenceCall.transaction hashtext).exec s.db with
    | .ok db => ({ s with db := db }, .committed persistenceCall)
    | .error e => (s, .refused e)
  | .query failure =>
    match s.reader.advance (queryFault failure) s.db with
    | .called _ _ (some reader) db => ({ db := db, reader := reader }, .queried)
    | _ => (s, .ignored)

/-- The calls that a trace committed, in their order. -/
def committedCalls (t : List (DashboardStep × DashboardAnswer)) : List PersistenceCall :=
  t.filterMap (·.2.committed?)

end IncidentAwareness.Dashboard
