import IncidentAwareness.Collection.Records
import IncidentAwareness.Common.Python
import IncidentAwareness.Lib.Canonical
import IncidentAwareness.Lib.Findings
import Mathlib.Data.Prod.Lex
import Mathlib.Data.String.Basic

/-!
# The lineage of a raw capture

`verify_r1_lineage`: who created whom and who connected where, read off the raw
Sysmon records of one file. What it reports are texts, each naming what it is
about; the name of the file stands before the faults of a record.

`pyInt` is `int` of a text, `casefold` is `str.casefold`.
-/

namespace IncidentAwareness.Collection

open IncidentAwareness.Common IncidentAwareness.Lib

def sysmonProcessCreateEventId : Int := 1

def sysmonNetworkConnectionEventId : Int := 3

/-- What the checks report, with the text of it. -/
abbrev R1Finding := Finding String String

/-- `R1LineageReport`. -/
structure R1LineageReport where
  errors : List String
  checks : List String
  deriving DecidableEq, Repr

/-- `R1LineageReport.ok`. -/
def R1LineageReport.ok (report : R1LineageReport) : Bool := report.errors.isEmpty

/-- The report that the findings make. -/
def lineageReportOf (findings : List R1Finding) : R1LineageReport where
  errors := findings.filterMap Finding.failure?
  checks := findings.filterMap Finding.check?

/-- A text that a record states: `_string` gives none that is empty. -/
abbrev StatedText := { s : String // s ≠ "" }

/-- `stripped or None`. -/
def stated (s : String) : Option StatedText := if h : s ≠ "" then some ⟨s, h⟩ else none

/-- `ProcessKey`. -/
structure ProcessKey where
  host : String
  processGuid : String
  deriving DecidableEq, Repr

/-- The order of `ProcessKey`. -/
def ProcessKey.sortKey (key : ProcessKey) : String ×ₗ String := toLex (key.host, key.processGuid)

/-- `ProcessRecord`. -/
structure ProcessRecord where
  key : ProcessKey
  parentProcessGuid : Option StatedText
  image : Option StatedText
  recordId : Option StatedText
  recordNo : Nat
  timeCreated : Option StatedText
  eventUtcTime : Option StatedText
  deriving DecidableEq, Repr

/-- `ConnectionRecord`. -/
structure ConnectionRecord where
  key : ProcessKey
  image : Option StatedText
  sourceIp : Option StatedText
  sourcePort : Option StatedText
  destinationIp : Option StatedText
  destinationPort : Option StatedText
  protocol : Option StatedText
  recordId : Option StatedText
  recordNo : Nat
  timeCreated : Option StatedText
  eventUtcTime : Option StatedText
  deriving DecidableEq, Repr

/-- `LineageStatus`. -/
inductive LineageStatus where
  | complete | truncated | cycle
  deriving DecidableEq, Repr

/-- The literal of a status. -/
def LineageStatus.value : LineageStatus → String
  | .complete => "complete"
  | .truncated => "truncated"
  | .cycle => "cycle"

/-- `LineageChain`. -/
structure LineageChain where
  status : LineageStatus
  nodes : List ProcessRecord
  missingParentProcessGuid : Option String := none
  deriving DecidableEq, Repr

/-- `LineageChain.process_guids`. -/
def LineageChain.processGuids (chain : LineageChain) : List String :=
  chain.nodes.map (·.key.processGuid)

/-- `LineageChain.depth`. -/
def LineageChain.depth (chain : LineageChain) : Nat := chain.nodes.length

/-! ## Reading the records -/

/-- `_string`. -/
def statedString (mapping : PyDict) (key : String) : Option StatedText :=
  match mapping.get key with
  | .str value => stated (String.ofList (strip value))
  | _ => none

/-- `_scalar_string`. -/
def scalarString (mapping : PyDict) (key : String) : Option StatedText :=
  match mapping.get key with
  | .int value => stated (toString value)
  | _ => statedString mapping key

variable (pyInt : String → Option Int) (casefold : String → String)

/-- `_event_id`. -/
def rawEventId (data : PyDict) : Option Int :=
  match data.get "EventId" with
  | .int value => some value
  | .str value => pyInt (String.ofList (strip value))
  | _ => none

/-- Why a record cannot be identified. -/
inductive RecordFault where
  | noEventId
  | noComputer (eventId : Int)
  | noEventData (eventId : Int)
  | noProcessGuid (eventId : Int)
  deriving DecidableEq, Repr

/-- The text of a fault. -/
def RecordFault.text : RecordFault → String
  | .noEventId => "record carries no usable EventId"
  | .noComputer eventId => "EID " ++ toString eventId ++ " has no Computer"
  | .noEventData eventId => "EID " ++ toString eventId ++ " has no EventData"
  | .noProcessGuid eventId => "EID " ++ toString eventId ++ " has no ProcessGuid"

/-- What a record is to the lineage. -/
inductive LineageRow where
  | other
  | process (record : ProcessRecord)
  | connection (record : ConnectionRecord)
  deriving DecidableEq, Repr

/-- The process creation of a record. -/
def processRecord (key : ProcessKey) (record : SysmonJsonlRecord) (eventData : PyDict) :
    ProcessRecord where
  key
  parentProcessGuid := statedString eventData "ParentProcessGuid"
  image := statedString eventData "Image"
  recordId := scalarString record.data "RecordId"
  recordNo := record.recordNo
  timeCreated := statedString record.data "TimeCreated"
  eventUtcTime := statedString eventData "UtcTime"

/-- The network connection of a record. -/
def connectionRecord (key : ProcessKey) (record : SysmonJsonlRecord) (eventData : PyDict) :
    ConnectionRecord where
  key
  image := statedString eventData "Image"
  sourceIp := statedString eventData "SourceIp"
  sourcePort := scalarString eventData "SourcePort"
  destinationIp := statedString eventData "DestinationIp"
  destinationPort := scalarString eventData "DestinationPort"
  protocol := statedString eventData "Protocol"
  recordId := scalarString record.data "RecordId"
  recordNo := record.recordNo
  timeCreated := statedString record.data "TimeCreated"
  eventUtcTime := statedString eventData "UtcTime"

/-- One turn of the loop of `read_r1_lineage_records`. -/
def readLineageRow (record : SysmonJsonlRecord) : Except RecordFault LineageRow :=
  match rawEventId pyInt record.data with
  | none => .error .noEventId
  | some eventId =>
    if eventId ≠ sysmonProcessCreateEventId ∧ eventId ≠ sysmonNetworkConnectionEventId then
      .ok .other
    else
      match statedString record.data "Computer", (record.data.get "EventData").dict? with
      | none, _ => .error (.noComputer eventId)
      | some _, none => .error (.noEventData eventId)
      | some host, some eventData =>
        match statedString eventData "ProcessGuid" with
        | none => .error (.noProcessGuid eventId)
        | some processGuid =>
          let key : ProcessKey := ⟨host.1, processGuid.1⟩
          if eventId = sysmonProcessCreateEventId then
            .ok (.process (processRecord key record eventData))
          else .ok (.connection (connectionRecord key record eventData))

/-- The process creations that the loop keeps. -/
def processesOf (records : List SysmonJsonlRecord) : List ProcessRecord :=
  records.filterMap fun record =>
    match readLineageRow pyInt record with
    | .ok (.process process) => some process
    | _ => none

/-- The connections that the loop keeps. -/
def connectionsOf (records : List SysmonJsonlRecord) : List ConnectionRecord :=
  records.filterMap fun record =>
    match readLineageRow pyInt record with
    | .ok (.connection connection) => some connection
    | _ => none

/-- The faults that the loop reports. -/
def faultsOf (jsonlName : String) (records : List SysmonJsonlRecord) : List String :=
  records.filterMap fun record =>
    match readLineageRow pyInt record with
    | .error fault => some (jsonlName ++ ":" ++ toString record.recordNo ++ ": " ++ fault.text)
    | .ok _ => none

/-- `read_r1_lineage_records`, of what `read_sysmon_jsonl` returns or the text of
the error it raises. -/
def readR1LineageRecords (jsonlName : String) (read : Except String (List SysmonJsonlRecord)) :
    Option (List ProcessRecord × List ConnectionRecord) × List R1Finding :=
  match read with
  | .error error => (none, [.fail (jsonlName ++ " is not readable: " ++ error)])
  | .ok records =>
    if records = [] then
      (none, [.fail (jsonlName ++ " holds no records; an empty capture is not a capture")])
    else if faultsOf pyInt jsonlName records ≠ [] then
      (none, (faultsOf pyInt jsonlName records).map .fail)
    else
      (some (processesOf pyInt records, connectionsOf pyInt records),
        [.passed (jsonlName ++ " holds " ++ toString records.length ++ " record(s): " ++
          toString (processesOf pyInt records).length ++ " EID 1, " ++
          toString (connectionsOf pyInt records).length ++ " EID 3")])

/-! ## The tree and the walk -/

/-- One turn of the loop of `build_process_tree`: the tree and the duplicates. -/
def addProcess (s : List ProcessRecord × List ProcessKey) (process : ProcessRecord) :
    List ProcessRecord × List ProcessKey :=
  if process.key ∈ s.1.map (·.key) then (s.1, s.2.insert process.key)
  else (s.1 ++ [process], s.2)

/-- `build_process_tree`: a record for every key, in their order. -/
def buildProcessTree (processes : List ProcessRecord) :
    Option (List ProcessRecord) × List R1Finding :=
  let (tree, duplicates) := processes.foldl addProcess ([], [])
  if duplicates ≠ [] then
    (none, (sortedBy ProcessKey.sortKey duplicates).map fun key =>
      .fail ("duplicate EID 1 for the same host and ProcessGuid, so the lineage through it " ++
        "is ambiguous: host=" ++ key.host ++ " ProcessGuid=" ++ key.processGuid))
  else
    (some tree, [.passed (toString tree.length ++
      " EID 1 record(s) are unique per host and ProcessGuid")])

/-- `tree.get(key)`. -/
def processOf (tree : List ProcessRecord) (key : ProcessKey) : Option ProcessRecord :=
  tree.find? fun process => process.key = key

/-- Walking on from a process of the tree leaves fewer unseen. -/
theorem unseenProcesses_lt {tree : List ProcessRecord} {current : ProcessRecord}
    {seen : List ProcessKey} (hcurrent : current ∈ tree) (hseen : current.key ∉ seen) :
    (tree.filter fun process => process.key ∉ current.key :: seen).length <
      (tree.filter fun process => process.key ∉ seen).length := by
  have hsub : (tree.filter fun process => process.key ∉ current.key :: seen) =
      (tree.filter fun process => process.key ∉ seen).filter fun process =>
        process.key ≠ current.key := by
    rw [List.filter_filter]
    refine List.filter_congr fun process _ => ?_
    rw [← Bool.decide_and, decide_eq_decide, List.mem_cons, not_or]
  rw [hsub]
  refine List.length_filter_lt_length_iff_exists.mpr ⟨current, ?_, by simp⟩
  exact List.mem_filter.mpr ⟨hcurrent, decide_eq_true hseen⟩

/-- The loop of `resolve_lineage`. -/
def resolveFrom (tree : List ProcessRecord) (current : ProcessRecord) (_hcurrent : current ∈ tree)
    (seen : List ProcessKey) (nodes : List ProcessRecord) : LineageChain :=
  if _hseen : current.key ∈ seen then { status := .cycle, nodes }
  else match current.parentProcessGuid with
    | none => { status := .complete, nodes := nodes ++ [current] }
    | some parentGuid =>
      let parentKey : ProcessKey := ⟨current.key.host, parentGuid.1⟩
      if parentKey ∈ current.key :: seen then { status := .cycle, nodes := nodes ++ [current] }
      else match hparent : processOf tree parentKey with
        | none =>
          { status := .truncated, nodes := nodes ++ [current],
            missingParentProcessGuid := some parentGuid.1 }
        | some parent =>
          resolveFrom tree parent (List.mem_of_find?_eq_some hparent) (current.key :: seen)
            (nodes ++ [current])
termination_by (tree.filter fun process => process.key ∉ seen).length
decreasing_by exact unseenProcesses_lt _hcurrent _hseen

/-- `resolve_lineage`. -/
def resolveLineage (tree : List ProcessRecord) (key : ProcessKey) : Option LineageChain :=
  match hstart : processOf tree key with
  | none => none
  | some start => some (resolveFrom tree start (List.mem_of_find?_eq_some hstart) [] [])

/-! ## The connections -/

/-- The rank of a RecordId in `_connection_sort_key`. -/
def recordIdRank : Option StatedText → ℕ ×ₗ ℕ ×ₗ String ×ₗ String
  | none => toLex (2, toLex (0, toLex ("", "")))
  | some recordId =>
    if isAsciiDecimal recordId.1 then
      let magnitude := recordId.1.toList.dropWhile (· = '0')
      toLex (0, toLex (magnitude.length, toLex (String.ofList magnitude, recordId.1)))
    else toLex (1, toLex (0, toLex (recordId.1, "")))

/-- `value or ""`. -/
def orEmpty (value : Option StatedText) : String := (value.map Subtype.val).getD ""

/-- `_connection_sort_key`. -/
def connectionSortKey (c : ConnectionRecord) :
    (ℕ ×ₗ ℕ ×ₗ String ×ₗ String) ×ₗ String ×ₗ String ×ₗ String ×ₗ String ×ₗ String ×ₗ String ×ₗ
      String ×ₗ String :=
  toLex (recordIdRank c.recordId, toLex (orEmpty c.image, toLex (orEmpty c.destinationIp,
    toLex (orEmpty c.destinationPort, toLex (orEmpty c.protocol, toLex (orEmpty c.sourceIp,
      toLex (orEmpty c.sourcePort, toLex (orEmpty c.timeCreated, orEmpty c.eventUtcTime))))))))

/-- `select_connections`. -/
def selectConnections (connections : List ConnectionRecord) (key : ProcessKey) :
    List ConnectionRecord :=
  sortedBy connectionSortKey (connections.filter fun connection => connection.key = key)

/-- `connection_uses_protocol`. -/
def connectionUsesProtocol (connection : ConnectionRecord) (protocol : String) : Bool :=
  match connection.protocol with
  | none => false
  | some recorded => casefold recorded.1 = casefold protocol

/-- `_connection_matches_destination`. -/
def connectionMatchesDestination (connection : ConnectionRecord)
    (expectedIp expectedPort : Option String) : Bool :=
  (expectedIp = none ∨ connection.destinationIp.map Subtype.val = expectedIp) ∧
    (expectedPort = none ∨ connection.destinationPort.map Subtype.val = expectedPort)

/-! ## The checks -/

/-- What the caller of `verify_r1_lineage` expects. -/
structure LineageExpectations where
  parentProcessGuids : Option (List String) := none
  destinationIp : Option String := none
  destinationPort : Option String := none
  protocol : Option String := none
  deriving DecidableEq, Repr

/-- `expected or "(any)"`, and the like. -/
def textOr (default : String) (value : String) : String := if value = "" then default else value

/-- `' -> '.join(guids)`. -/
def arrows (guids : List String) : String := String.intercalate " -> " guids

/-- `host=... ProcessGuid=...`. -/
def keyText (host processGuid : String) : String := "host=" ++ host ++ " ProcessGuid=" ++ processGuid

/-- `_check_expected_parents`. -/
def checkExpectedParents (chain : LineageChain) (anchor : ProcessKey) :
    Option (List String) → List R1Finding
  | none => []
  | some expected =>
    let observed := chain.processGuids.tail
    if observed = expected then
      [.passed (if expected ≠ [] then
          "the recorded parents match the expected chain: " ++ arrows expected
        else "the anchor was expected to have no recorded parent and has none")]
    else if chain.status = .truncated ∧ expected.take observed.length = observed then
      [.fail ("a required parent link is missing from this capture: " ++
        keyText anchor.host (chain.missingParentProcessGuid.getD "None"))]
    else
      [.fail ("the recorded parents differ from the expected chain: expected " ++
        textOr "(none)" (arrows expected) ++ ", observed " ++ textOr "(none)" (arrows observed))]

/-- `wanted`. -/
def wantedDestination (expected : LineageExpectations) : String :=
  textOr "(any)" (expected.destinationIp.getD "") ++ ":" ++
    textOr "(any)" (expected.destinationPort.getD "")

/-- `destination_given`. -/
def destinationGiven (expected : LineageExpectations) : Bool :=
  expected.destinationIp ≠ none ∨ expected.destinationPort ≠ none

/-- `where`. -/
def whereText (expected : LineageExpectations) : String :=
  if destinationGiven expected then
    " to the expected destination " ++ wantedDestination expected
  else ""

/-- The findings where no linked connection is accepted. -/
def notAccepted (expected : LineageExpectations) (atDestination : List ConnectionRecord) :
    List R1Finding :=
  match expected.protocol with
  | some protocol =>
    if atDestination ≠ [] then
      let recorded := sortedBy id
        (atDestination.map fun c => textOr "(missing)" (orEmpty c.protocol)).dedup
      [.fail ("no connection with the anchor host and ProcessGuid" ++ whereText expected ++
        " was recorded with the expected Protocol " ++ protocol ++ ": the " ++
        toString atDestination.length ++ " EID 3 record(s) found carry Protocol " ++
        String.intercalate ", " recorded)]
    else noDestination protocol
  | none => noDestination ""
where
  /-- No linked connection reaches the destination. -/
  noDestination (protocol : String) : List R1Finding :=
    if destinationGiven expected then
      [.fail ("no connection with the anchor host and ProcessGuid reaches the expected " ++
        "destination " ++ wantedDestination expected)]
    else
      [.fail ("no connection with the anchor host and ProcessGuid was recorded with the expected " ++
        "Protocol " ++ protocol)]

/-- The findings where a linked connection is accepted. -/
def acceptedChecks (expected : LineageExpectations) : List R1Finding :=
  (if destinationGiven expected then
    [.passed ("a linked connection reaches the expected destination " ++ wantedDestination expected)]
  else []) ++
  match expected.protocol with
  | some protocol =>
    [.passed ("a linked connection" ++ whereText expected ++
      " was recorded with the expected Protocol " ++ protocol)]
  | none => []

/-- Whether a connection is recorded as the caller expects. -/
def usesExpectedProtocol (expected : LineageExpectations) (connection : ConnectionRecord) : Bool :=
  match expected.protocol with
  | none => true
  | some protocol => connectionUsesProtocol casefold connection protocol

/-- `_check_connections`, of the linked connections. -/
def checkLinked (anchor : ProcessKey) (expected : LineageExpectations)
    (linked : List ConnectionRecord) : List R1Finding :=
  let atDestination := linked.filter fun c =>
    connectionMatchesDestination c expected.destinationIp expected.destinationPort
  let accepted := atDestination.filter (usesExpectedProtocol casefold expected)
  (if linked ≠ [] then
    [.passed (toString linked.length ++ " EID 3 record(s) carry the anchor host and ProcessGuid")]
  else
    [.fail ("no EID 3 record carries the anchor host and ProcessGuid: " ++
      keyText anchor.host anchor.processGuid)]) ++
  if ¬ destinationGiven expected ∧ expected.protocol = none then []
  else if accepted ≠ [] then acceptedChecks expected
  else notAccepted expected atDestination

/-- `_check_connections`. -/
def checkConnections (connections : List ConnectionRecord) (anchor : ProcessKey)
    (expected : LineageExpectations) : List R1Finding :=
  checkLinked casefold anchor expected (selectConnections connections anchor)

/-- What `verify_r1_lineage` finds once the tree is built. -/
def checkLineage (tree : List ProcessRecord) (connections : List ConnectionRecord)
    (anchor : ProcessKey) (expected : LineageExpectations) : List R1Finding :=
  match resolveLineage tree anchor with
  | none =>
    [.fail ("the anchor process has no EID 1 in this capture: " ++
      keyText anchor.host anchor.processGuid)]
  | some chain =>
    if chain.status = .cycle then
      [.fail ("the parent chain returns to a process already on the walk: " ++
        keyText anchor.host anchor.processGuid)]
    else
      .passed ("the anchor process has an EID 1 and a " ++ toString chain.depth ++
        "-step lineage (" ++ chain.status.value ++ "): " ++ arrows chain.processGuids) ::
      (checkExpectedParents chain anchor expected.parentProcessGuids ++
        checkConnections casefold connections anchor expected)

/-- What `verify_r1_lineage` finds once the records are read. -/
def checkRecords (processes : List ProcessRecord) (connections : List ConnectionRecord)
    (anchor : ProcessKey) (expected : LineageExpectations) : List R1Finding :=
  let (built, treeFindings) := buildProcessTree processes
  treeFindings ++
    match built with
    | none => []
    | some tree => checkLineage casefold tree connections anchor expected

/-- The findings of `verify_r1_lineage`. -/
def lineageFindings (jsonlName : String) (read : Except String (List SysmonJsonlRecord))
    (anchor : ProcessKey) (expected : LineageExpectations) : List R1Finding :=
  let (loaded, readFindings) := readR1LineageRecords pyInt jsonlName read
  readFindings ++
    match loaded with
    | none => []
    | some (processes, connections) => checkRecords casefold processes connections anchor expected

/-- `verify_r1_lineage`. -/
def verifyR1Lineage (jsonlName : String) (read : Except String (List SysmonJsonlRecord))
    (anchor : ProcessKey) (expected : LineageExpectations) : R1LineageReport :=
  lineageReportOf (lineageFindings pyInt casefold jsonlName read anchor expected)

end IncidentAwareness.Collection
