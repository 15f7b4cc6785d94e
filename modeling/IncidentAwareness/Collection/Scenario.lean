import IncidentAwareness.Collection.Records

/-!
# The scenario definition of a run

`load_scenario_run` and what it refuses. Every refusal is a `ScenarioError`,
which the validator reports as one more failed check.
-/

namespace IncidentAwareness.Collection

open IncidentAwareness.Common IncidentAwareness.Lib IncidentAwareness.Persistence

/-- `ScenarioError`, by what it says. `label` names the field in the file. -/
inductive ScenarioError where
  /-- `scenario is not readable YAML (…): …`. -/
  | notReadable (error : ReadError)
  /-- `scenario must be a mapping: …`. -/
  | notMapping
  /-- `… must be a non-empty string, found …`. -/
  | notNonEmptyStr (label : String) (found : PyValue)
  /-- `….… must be a YAML boolean (true or false), found …`. -/
  | notBoolean (label key : String) (found : PyValue)
  /-- `scenario has no run_length mapping`. -/
  | noRunLength
  /-- `run_length.evaluation_horizon_sec must be a positive integer, found …`. -/
  | horizon (found : PyValue)
  /-- `scenario has no runs mapping`. -/
  | noRuns
  /-- `scenario has no runs.… mapping`. -/
  | noRun (runType : RunType)
  /-- `runs.….run_type is …; the key and the field must agree`. -/
  | runTypeMismatch (runType : RunType) (declared : String)
  /-- `runs.….actions must be a non-empty list`. -/
  | noActions (runType : RunType)
  /-- `… must be a mapping, found …`. -/
  | actionNotMapping (label : String) (found : PyValue)
  /-- `runs.… defines action_id … more than once`. -/
  | repeatedAction (runType : RunType) (actionId : String)
  /-- `runs.….reference_action_id is missing`. -/
  | referenceMissing (runType : RunType)
  /-- `runs.….reference_action_id must be null, found …`. -/
  | referenceNotNull (runType : RunType) (found : PyValue)
  /-- `runs.….reference_action_id … is not one of its actions (…)`. -/
  | referenceNotAction (runType : RunType) (actionId : String) (actionIds : List String)

/-- `ScenarioAction`. -/
structure ScenarioAction where
  actionId : String
  actionType : String
  usesExternalConnection : Bool
  deriving DecidableEq, Repr

/-- `ScenarioRun`; the actions in the order of the file, one for each id. -/
structure ScenarioRun where
  scenarioId : String
  runType : RunType
  evaluationHorizonSec : Int
  actions : List ScenarioAction
  referenceActionId : Option String
  deriving DecidableEq, Repr

/-- The keys of `actions`. -/
def ScenarioRun.actionIds (s : ScenarioRun) : List String := s.actions.map (·.actionId)

/-- `external_action_ids`. -/
def ScenarioRun.externalActionIds (s : ScenarioRun) : List String :=
  (s.actions.filter (·.usesExternalConnection)).map (·.actionId)

/-- `_require_non_empty_str`. -/
def requireNonEmptyStr (value : PyValue) (label : String) : Except ScenarioError String :=
  match value with
  | .str text => if isBlank text then .error (.notNonEmptyStr label value) else .ok text
  | _ => .error (.notNonEmptyStr label value)

/-- `_require_optional_flag`: a missing key is false. -/
def requireOptionalFlag (rawAction : PyDict) (key label : String) : Except ScenarioError Bool :=
  match rawAction.lookup key with
  | none => .ok false
  | some (.bool flag) => .ok flag
  | some value => .error (.notBoolean label key value)

/-- `_require_horizon`. -/
def requireHorizon : PyValue → Except ScenarioError Int
  | .int n => if n ≤ 0 then .error (.horizon (.int n)) else .ok n
  | value => .error (.horizon value)

/-- The path of a run in the file. -/
def runLabel (runType : RunType) : String := "runs." ++ runTypeValue runType

/-- The turns of the loop over `actions`, with the actions read so far. -/
def readActions (runType : RunType) :
    Nat → List PyValue → List ScenarioAction → Except ScenarioError (List ScenarioAction)
  | _, [], actions => .ok actions
  | index, rawAction :: rest, actions => do
    let label := runLabel runType ++ ".actions[" ++ toString index ++ "]"
    match rawAction.dict? with
    | some entries =>
      let actionId ← requireNonEmptyStr (entries.get "action_id") (label ++ ".action_id")
      raiseIf (actionId ∈ actions.map (·.actionId)) (.repeatedAction runType actionId)
      let actionType ← requireNonEmptyStr (entries.get "action_type") (label ++ ".action_type")
      let usesExternalConnection ← requireOptionalFlag entries "uses_external_connection" label
      readActions runType (index + 1) rest
        (actions ++ [{ actionId, actionType, usesExternalConnection }])
    | none => .error (.actionNotMapping label rawAction)

/-- `_require_reference_action_id`: a normal run says null. -/
def requireReferenceActionId (run : PyDict) (runType : RunType) (actions : List ScenarioAction) :
    Except ScenarioError (Option String) :=
  match run.lookup "reference_action_id", runType with
  | none, _ => .error (.referenceMissing runType)
  | some .none, .normal => .ok none
  | some value, .normal => .error (.referenceNotNull runType value)
  | some value, .attack => do
    let actionId ← requireNonEmptyStr value (runLabel runType ++ ".reference_action_id")
    raiseIf (actionId ∉ actions.map (·.actionId))
      (.referenceNotAction runType actionId (actions.map (·.actionId)))
    return some actionId

/-- `yaml.safe_load` of an open scenario file. -/
def readScenario {B : Type} (h : Host B) (scenario : File B) : Except ReadError PyValue := do
  match h.yamlSafeLoad (← scenario.readText h) with
  | none => .error .yamlError
  | some value => .ok value

/-- The value of a `dict`, or the error raised where it is none. -/
def requireDict (value : PyValue) (e : ScenarioError) : Except ScenarioError PyDict :=
  match value.dict? with
  | some entries => .ok entries
  | none => .error e

/-- `load_scenario_run`. -/
def loadScenarioRun {B : Type} (h : Host B) (scenario : File B) (runType : RunType) :
    Except ScenarioError ScenarioRun := do
  let loaded ← (readScenario h scenario).mapError .notReadable
  let entries ← requireDict loaded .notMapping
  let scenarioId ← requireNonEmptyStr (entries.get "scenario_id") "scenario_id"
  let runLength ← requireDict (entries.get "run_length") .noRunLength
  let evaluationHorizonSec ← requireHorizon (runLength.get "evaluation_horizon_sec")
  let runs ← requireDict (entries.get "runs") .noRuns
  let run ← requireDict (runs.get (runTypeValue runType)) (.noRun runType)
  let declared ← requireNonEmptyStr (run.get "run_type") (runLabel runType ++ ".run_type")
  raiseIf (declared ≠ runTypeValue runType) (.runTypeMismatch runType declared)
  match run.get "actions" with
  | .list (rawAction :: rawActions) =>
    let actions ← readActions runType 0 (rawAction :: rawActions) []
    let referenceActionId ← requireReferenceActionId run runType actions
    return { scenarioId, runType, evaluationHorizonSec, actions, referenceActionId }
  | _ => .error (.noActions runType)

end IncidentAwareness.Collection
