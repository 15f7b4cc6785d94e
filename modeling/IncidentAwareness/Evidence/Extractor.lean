import IncidentAwareness.Common.Event
import IncidentAwareness.Common.Evidence

/-!
# The S0 extractor

`extract_evidence`: the Evidence of one Event, at most one. What it takes from
the standard library is a parameter (`ExtractorLibrary`).
-/

namespace IncidentAwareness.Evidence

open IncidentAwareness.Common IncidentAwareness.Lib

/-- What the extractor asks of an address literal. -/
structure IpAddress where
  text : String
  isGlobal : Bool
  isMulticast : Bool
  deriving DecidableEq, Repr

/-- `str.casefold`, `shlex.split(..., posix=False)` and `ip_address`, which give
`none` where they raise a `ValueError`, and `uuid5` of an identity before
`json.dumps` writes it. -/
structure ExtractorLibrary where
  casefold : String → String
  shlexSplit : String → Option (List String)
  ipAddress : String → Option IpAddress
  uuid5 : List IdentityPart → String

/-- The `features` of an S0 Evidence. -/
inductive S0Features where
  | encodedPowershellCommand (processName matchedOption : String)
  | scriptInterpreterExternalConnection (processName : String) (protocol : Option String)
      (dstIp : String) (dstPort : Option (Fin 65536))
  deriving DecidableEq, Repr

def s0ExtractorVersion : String := "s0-v0.1"

def powershellProcessNames : List String := ["powershell.exe", "pwsh.exe"]

def scriptInterpreterProcessNames : List String :=
  ["powershell.exe", "pwsh.exe", "cmd.exe", "wscript.exe", "cscript.exe"]

def encodedCommandOptions : List String := ["-e", "-ec", "-enc", "-encodedcommand"]

def powershellCommandBoundaryOptions : List String := ["-f", "-file", "-c", "-command"]

/-- The apostrophe. -/
def singleQuote : Char := Char.ofNat 39

/-- `_strip_matching_quotes`. -/
def stripMatchingQuotes (value : String) : String :=
  match value.toList with
  | first :: second :: rest =>
    let last := (second :: rest).getLast (List.cons_ne_nil _ _)
    if first = last ∧ (first = '"' ∨ first = singleQuote) then
      String.ofList (second :: rest).dropLast
    else value
  | _ => value

/-- `_required_string`. -/
def requiredString (key value : String) : Except PyError String := do
  raiseIf (value = "") (.valueError (key ++ " must be a non-empty string"))
  return value

/-- `derived_from_source_layer` of an Event's `source_layer`. -/
def derivedFrom : SourceLayer → DerivedFromSourceLayer
  | .rawTelemetry => .rawTelemetry
  | .detectorOutput => .detectorOutput

variable (library : ExtractorLibrary)

/-- `_normalized_string`. -/
def normalizedString (value : Option String) : Option String :=
  value.map fun value => library.casefold (String.ofList (strip value))

/-- The loop of `_find_encoded_command_option`. -/
def encodedCommandOption : List String → Option String
  | [] => none
  | token :: tokens =>
    let normalizedToken := library.casefold (stripMatchingQuotes token)
    if normalizedToken ∈ powershellCommandBoundaryOptions then none
    else if normalizedToken ∈ encodedCommandOptions then some normalizedToken
    else encodedCommandOption tokens

/-- `_find_encoded_command_option`. -/
def findEncodedCommandOption (commandLine : String) : Option String :=
  (library.shlexSplit commandLine).bind (encodedCommandOption library)

/-- The features of `_extract_encoded_powershell_command`. -/
def encodedPowershellFeatures (event : NormalizedEvent) : Option S0Features := do
  let process ← event.process
  let processName ← normalizedString library process.name
  guard (processName ∈ powershellProcessNames)
  let commandLine ← process.commandLine
  let matchedOption ← findEncodedCommandOption library commandLine
  return .encodedPowershellCommand processName matchedOption

/-- The features of `_extract_script_interpreter_external_connection`. -/
def externalConnectionFeatures (event : NormalizedEvent) : Option S0Features := do
  let process ← event.process
  let network ← event.network
  let processName ← normalizedString library process.name
  guard (processName ∈ scriptInterpreterProcessNames)
  let destination ← network.dstIp
  let destinationIp ← library.ipAddress (String.ofList (strip destination))
  guard (destinationIp.isGlobal ∧ ¬ destinationIp.isMulticast)
  return .scriptInterpreterExternalConnection processName (normalizedString library network.protocol)
    destinationIp.text network.dstPort

/-- The Evidence of an Event, as `_new_evidence` fills it. -/
def evidenceOf (event : NormalizedEvent) (evidenceType : String) (features : S0Features) :
    Evidence S0Features where
  evidenceId := "E-" ++ library.uuid5
    [.text event.runId, .text event.eventId, .text evidenceType, .text s0ExtractorVersion]
  runId := event.runId
  timestamp := eventInstant event
  entityId := event.hostId
  evidenceType
  eventIds := [event.eventId]
  derivedFromSourceLayer := derivedFrom event.sourceLayer
  featureChannelGroup := .fusionFeature
  extractorVersion := s0ExtractorVersion
  features

/-- `_new_evidence`. -/
def newEvidence (event : NormalizedEvent) (evidenceType : String) (features : S0Features) :
    Except PyError (Evidence S0Features) := do
  let _ ← requiredString "event_id" event.eventId
  let _ ← requiredString "run_id" event.runId
  let _ ← requiredString "host_id" event.hostId
  return evidenceOf library event evidenceType features

/-- The evidence type and features that an Event matches. -/
def matchedRule (event : NormalizedEvent) : Option (String × S0Features) :=
  if event.eventType = "process_create" then
    (encodedPowershellFeatures library event).map ("encoded_powershell_command", ·)
  else if event.eventType = "network_connection" then
    (externalConnectionFeatures library event).map ("script_interpreter_external_connection", ·)
  else none

/-- `extract_evidence`. -/
def extractEvidence (event : NormalizedEvent) : Except PyError (List (Evidence S0Features)) :=
  match matchedRule library event with
  | none => .ok []
  | some (evidenceType, features) => do
    let evidence ← newEvidence library event evidenceType features
    return [evidence]

/-- The Evidence of an Event with its required strings. -/
def evidencesOf (event : NormalizedEvent) : List (Evidence S0Features) :=
  ((matchedRule library event).map fun rule => evidenceOf library event rule.1 rule.2).toList

variable {library}

theorem requiredString_of_ne {key value : String} (h : value ≠ "") :
    requiredString key value = .ok value := by
  rw [requiredString, raiseIf_of_not h]
  rfl

/-- An Event of a named run and host is extracted without an error. -/
theorem extractEvidence_eq {event : NormalizedEvent} (hrun : event.runId ≠ "")
    (hhost : event.hostId ≠ "") : extractEvidence library event = .ok (evidencesOf library event) := by
  rw [extractEvidence, evidencesOf]
  cases matchedRule library event with
  | none => rfl
  | some rule =>
    simp only [newEvidence, requiredString_of_ne event.eventId_nonempty, requiredString_of_ne hrun,
      requiredString_of_ne hhost, Except.ok_bind']
    rfl

/-- The Evidence of an Event is of its run, its host and its time. -/
theorem mem_evidencesOf {event : NormalizedEvent} {e : Evidence S0Features}
    (h : e ∈ evidencesOf library event) :
    e.runId = event.runId ∧ e.entityId = event.hostId ∧ e.timestamp = eventInstant event := by
  obtain ⟨rule, -, rfl⟩ := Option.map_eq_some_iff.mp (Option.mem_toList.mp h)
  exact ⟨rfl, rfl, rfl⟩

end IncidentAwareness.Evidence
