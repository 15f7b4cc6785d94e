import IncidentAwareness.Lib.Canonical
import IncidentAwareness.Lib.Run
import IncidentAwareness.Position.Spool
import IncidentAwareness.Stream.DeadLetter
import Mathlib.Data.String.Basic

/-!
# Consuming the file spool

`consume_spool_once` over the files of a spool and the ledger's database: the
messages of the outbox in the order of their names, each delivered in a
transaction and acknowledged by a file after the commit. `_publish_immutable`
is modelled with its stage file. Every call to the file system and the database
is a `call` under the fault that the environment of the run decides, so a run may
raise or crash at each of them, before or after the call took effect.

The world keeps which commits were made (`commits`); the program does not read it.
-/

namespace IncidentAwareness.Spool

open IncidentAwareness.Common IncidentAwareness.Lib IncidentAwareness.Stream
  IncidentAwareness.Position

variable {D : Type}

/-! ## Files -/

/-- What an ack says. -/
structure DeliveryAck (D : Type) where
  messagePath : Path
  messageSha256 : D
  disposition : R1StreamDeliveryDisposition
  acceptedAt : UtcMillis
  requiredPartitionContractSha256 : Option D
  deriving DecidableEq

/-- The content of a file: the canonical bytes of a record, or anything else. A
message may be laid out in any way, which `layout` tells. -/
inductive SpoolContent (D : Type) where
  | message (message : SpoolMessage D) (layout : String)
  | deadLetter (deadLetter : R1LateEventDeadLetter)
  | ack (ack : DeliveryAck D)
  | contract (contract : R1RequiredPartitionContract)
  | other (text : String)
  deriving DecidableEq

/-- `spool_root / "outbox" / name`. -/
def outboxPath (spoolRoot : Path) (name : String) : Path := spoolRoot ++ ["outbox", name]

/-- `spool_root / "acks" / f"{name}.ack.json"`. -/
def ackPath (spoolRoot : Path) (name : String) : Path := spoolRoot ++ ["acks", name ++ ".ack.json"]

/-- `path.with_name(f".{path.name}.{os.getpid()}.tmp")`. -/
def stagePath (path : Path) (pid : String) : Path :=
  path.dropLast ++ ["." ++ path.getLast?.getD "" ++ "." ++ pid ++ ".tmp"]

/-! ## The world -/

/-- What a run raises. -/
inductive SpoolError where
  | python (e : PyError)
  | fileExists
  | os (text : String)
  deriving DecidableEq

/-- A commit that was made for a file of the outbox. -/
structure SpoolCommit (D : Type) where
  name : String
  message : SpoolMessage D
  disposition : R1StreamDeliveryDisposition

/-- The database, as committed and as the connection sees it, and the files. -/
structure World (D : Type) where
  committed : Ledger D
  session : Ledger D
  files : Files (SpoolContent D)
  commits : List (SpoolCommit D)

/-- A part of a run. -/
abbrev Consumer (D α : Type) := Process SpoolError (World D) α

/-- The calls of `_publish_immutable`. -/
inductive PublishSite where
  | makeDirectory | openStage | writeStage | link | unlinkStage | cleanStage
  deriving DecidableEq

/-- The calls for one message. -/
inductive ConsumeSite where
  | readMessage | ingress | commit | rollback
  | deadLetter (site : PublishSite)
  | ack (site : PublishSite)
  deriving DecidableEq

/-- The environment of one run: its process id, its clock, which is read once for every
message that is rejected or acknowledged, and its faults. -/
structure RunEnvironment where
  pid : String
  clock : String → PyDatetime
  faults : String → ConsumeSite → Fault SpoolError

section Files

variable [DecidableEq D]

/-- The files after a write. -/
def writeFile (path : Path) (content : SpoolContent D) : Consumer D Unit :=
  modify fun s => { s with files := s.files.write path content }

/-- A new file, for `open("xb")` and `os.link`. -/
def createFile (path : Path) (content : SpoolContent D) : Consumer D Unit := do
  let s ← get
  if (s.files.read path).isSome then raise .fileExists
  else writeFile path content

/-- `stage.unlink(missing_ok=True)`. -/
def unlinkFile (path : Path) : Consumer D Unit :=
  modify fun s => { s with files := s.files.unlink path }

/-- `if path.read_bytes() != data: raise ValueError(...)`. -/
def requireSame (path : Path) (data : SpoolContent D) : Consumer D Unit := do
  let s ← get
  if s.files.read path ≠ some data then
    raise (.python (.valueError "immutable spool path conflicts with existing content"))
  else return ()

/-- `os.link(stage, path)`, whose `FileExistsError` is an exception only where the file
differs. -/
def linkStage (faults : PublishSite → Fault SpoolError) (path : Path) (data : SpoolContent D) :
    Consumer D Unit := do
  match ← attempt (call (faults .link) (createFile path data)) with
  | .ok () => return ()
  | .error .fileExists => requireSame path data
  | .error e => raise e

/-- The stage file, its link and its removal. -/
def publishStage (faults : PublishSite → Fault SpoolError) (path stage : Path)
    (data : SpoolContent D) : Consumer D Unit := do
  call (faults .openStage) (createFile stage (.other ""))
  call (faults .writeStage) (writeFile stage data)
  match ← attempt (linkStage faults path data) with
  | .ok () => call (faults .unlinkStage) (unlinkFile stage)
  | .error e => do
    call (faults .unlinkStage) (unlinkFile stage)
    raise e

/-- `_publish_immutable`. -/
def publishImmutable (pid : String) (faults : PublishSite → Fault SpoolError) (path : Path)
    (data : SpoolContent D) : Consumer D Unit := do
  call (faults .makeDirectory) (pure ())
  let s ← get
  if (s.files.read path).isSome then requireSame path data
  else
    match ← attempt (publishStage faults path (stagePath path pid) data) with
    | .ok () => return ()
    | .error e => do
      call (faults .cleanStage) (unlinkFile (stagePath path pid))
      raise e

end Files

/-! ## One message -/

section Consume

variable [DecidableEq D] (sha256 : CanonicalPayload → D) (fileSha256 : SpoolContent D → D)
  (spoolRoot : Path) (contract : R1RequiredPartitionContract) (env : RunEnvironment)

/-- The sink of the ingress, which keeps the dead letter for `fileDeadLetter`. -/
def deadLetterSink : DeadLetterSink (Option R1LateEventDeadLetter) where
  write deadLetter := set (some deadLetter)

/-- `_FileDeadLetterSink.write`. -/
def fileDeadLetter (name : String) : Option R1LateEventDeadLetter → Consumer D Unit
  | none => return ()
  | some deadLetter =>
    publishImmutable env.pid (fun site => env.faults name (.deadLetter site))
      (deadLetterPath spoolRoot deadLetter.chunkId) (.deadLetter deadLetter)

/-- The call of the ingress. The dead letter is written before its exception goes on. -/
def ingress (name : String) (message : SpoolMessage D) : Consumer D R1StreamDeliveryResult := do
  let s ← get
  match (accept sha256 deadLetterSink (message.delivery (env.clock name))).run ⟨s.session, none⟩ with
  | .ok result s' => do
    set { s with session := s'.ledger }
    return result
  | .error e s' => do
    set { s with session := s'.ledger }
    fileDeadLetter spoolRoot env name s'.sink
    raise (.python e)

/-- `connection.commit()`. -/
def commit (name : String) (message : SpoolMessage D) (result : R1StreamDeliveryResult) :
    Consumer D Unit :=
  modify fun s => { s with
    committed := s.session
    commits := s.commits ++ [⟨name, message, result.disposition⟩] }

/-- `connection.rollback()`. -/
def rollback : Consumer D Unit := modify fun s => { s with session := s.committed }

/-- The body of the `try`. -/
def deliverContent (name : String) : SpoolContent D → Consumer D (R1StreamDeliveryResult)
  | .message message _ =>
    match requireContract contract message with
    | .error e => raise (.python e)
    | .ok () => do
      let result ← call (env.faults name .ingress) (ingress sha256 spoolRoot env name message)
      call (env.faults name .commit) (commit name message result)
      return result
  | _ => raise (.python (.valueError "unsupported spool message_type"))

/-- The `try`, whose exceptions roll the transaction back. -/
def deliverFile (name : String) (content : SpoolContent D) : Consumer D R1StreamDeliveryResult := do
  match ← attempt (deliverContent sha256 spoolRoot contract env name content) with
  | .ok result => return result
  | .error e => do
    call (env.faults name .rollback) rollback
    raise e

/-- `required_partition_contract_sha256`, for a run close. -/
def contractSha256 : SpoolContent D → Option D
  | .message (.runClosed _) _ => some (fileSha256 (.contract contract))
  | _ => none

/-- The ack of a delivered message. -/
def acknowledge (name : String) (content : SpoolContent D) (result : R1StreamDeliveryResult) :
    Consumer D Unit :=
  match utcMilliseconds (env.clock name) with
  | .error e => raise (.python e)
  | .ok acceptedAt =>
    publishImmutable env.pid (fun site => env.faults name (.ack site)) (ackPath spoolRoot name)
      (.ack
        { messagePath := outboxPath spoolRoot name
          messageSha256 := fileSha256 content
          disposition := result.disposition
          acceptedAt := acceptedAt
          requiredPartitionContractSha256 := contractSha256 fileSha256 contract content })

/-- The message of a file without an ack. -/
def consumeContent (name : String) : Option (SpoolContent D) → Consumer D Unit
  | none => raise (.os "No such file or directory")
  | some content => do
    let result ← deliverFile sha256 spoolRoot contract env name content
    acknowledge fileSha256 spoolRoot contract env name content result

/-- The body of the loop of `consume_spool_once`. -/
def consumeFile (name : String) : Consumer D Unit := do
  let s ← get
  if (s.files.read (ackPath spoolRoot name)).isSome then return ()
  else do
    call (env.faults name .readMessage) (pure ())
    consumeContent sha256 fileSha256 spoolRoot contract env name
      (s.files.read (outboxPath spoolRoot name))

/-- `sorted((spool_root / "outbox").glob("*.json"))`. -/
def outboxNames (files : Files (SpoolContent D)) : List String :=
  sortedBy id (files.rows.filterMap fun f =>
    if f.1.dropLast = spoolRoot ++ ["outbox"] ∧ ".json".toList <:+ (f.1.getLast?.getD "").toList
    then f.1.getLast? else none)

/-- `consume_spool_once`. -/
def consumeSpoolOnce : Consumer D Unit := do
  let s ← get
  (outboxNames spoolRoot s.files).forM (consumeFile sha256 fileSha256 spoolRoot contract env)

/-! ## Runs -/

/-- One run of the consumer. -/
structure SpoolRun where
  contract : R1RequiredPartitionContract
  env : RunEnvironment

/-- The world on a new connection. -/
def World.reconnect (s : World D) : World D := { s with session := s.committed }

/-- The world after a program, however it ended. -/
def World.after (s : World D) (x : Consumer D Unit) : World D :=
  match x.run s with
  | .ok _ s' => s'
  | .error _ s' => s'

/-- The world after a run. -/
def consume (s : World D) (run : SpoolRun) : World D × Unit :=
  (s.reconnect.after (consumeSpoolOnce sha256 fileSha256 spoolRoot run.contract run.env), ())

omit [DecidableEq D] in
theorem outboxPath_inj {name name' : String} (h : outboxPath spoolRoot name = outboxPath spoolRoot name') :
    name = name' := by
  simpa [outboxPath] using h

/-- A spool with an outbox and nothing else, and a database. -/
def World.initial (ledger : Ledger D)
    (outbox : Table (SameKey (Prod.fst : String × SpoolContent D → String))) : World D where
  committed := ledger
  session := ledger
  files := ⟨outbox.rows.map fun f => (outboxPath spoolRoot f.1, f.2), by
    rw [List.pairwise_map]
    exact outbox.unique.imp fun hne hpath => hne (outboxPath_inj spoolRoot hpath)⟩
  commits := []

/-! ## Loading a message -/

/-- The checks of an ack. -/
def requireAck (messagePath : Path) (content : SpoolContent D) (ack : DeliveryAck D) :
    Except PyError Unit := do
  raiseIf (ack.messagePath ≠ messagePath)
    (.valueError "Role3 ack is bound to another spool message path")
  raiseIf (ack.messageSha256 ≠ fileSha256 content)
    (.valueError "Role3 ack does not match the spool message bytes")
  raiseIf (ack.disposition ∉ [.accepted, .duplicate])
    (.valueError "Role3 ack has no accepted delivery disposition")

/-- The typed message of a file. -/
def messageOf : SpoolContent D → Except SpoolError (SpoolMessage D)
  | .message message _ => .ok message
  | _ => .error (.python (.valueError "unsupported accepted spool message_type"))

/-- `load_accepted_spool_message`. -/
def loadAcceptedSpoolMessage (files : Files (SpoolContent D)) (messagePath ackPath : Path) :
    Except SpoolError (SpoolMessage D) :=
  match files.read messagePath, files.read ackPath with
  | none, _ | _, none => .error (.os "No such file or directory")
  | some content, some (.ack ack) =>
    match requireAck fileSha256 messagePath content ack with
    | .error e => .error (.python e)
    | .ok () => messageOf content
  | some _, some _ =>
    .error (.python (.valueError "Role3 ack is bound to another spool message path"))

end Consume

end IncidentAwareness.Spool
