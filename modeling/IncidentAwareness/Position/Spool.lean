import IncidentAwareness.Position.Freeze
import IncidentAwareness.Position.Snapshot

/-!
# The run spool and its processes

One Run's spool with the ledger: the producer publishes files, consumers deliver
a file and ack it after the commit, an issuer verifies the spool and later
publishes the close, and the position-close consumer and exporter. A step is
what one process does at one point; processes interleave freely. A consumer
may die between its commit and its ack (`crash`).
-/

namespace IncidentAwareness.Position

open IncidentAwareness.Common IncidentAwareness.Lib IncidentAwareness.Stream

variable {D S : Type}

/-- The ledger with its dead-letter sink, the spool, and the closes of issuers
that have verified the spool and not published yet. -/
structure SpoolSystem (D S : Type) where
  ingress : IngressState D S
  spool : RunSpool D
  issuing : List (R1RecordPositionClose D)

namespace SpoolSystem

/-- The ledger. -/
abbrev ledger (s : SpoolSystem D S) : Ledger D := s.ingress.ledger

/-- An empty ledger and an empty spool. -/
def initial (sink₀ : S) : SpoolSystem D S := ⟨⟨.empty, sink₀⟩, .empty, []⟩

/-- A close that an issuer has verified, published or not. -/
def Issued (s : SpoolSystem D S) (close : R1RecordPositionClose D) : Prop :=
  close ∈ s.issuing ∨ s.spool.positionClose = some close

end SpoolSystem

/-- A contract file: its resolved path, the digest of its bytes, and the contract
that it loads as. -/
structure ContractFile (D : Type) where
  path : String
  sha256 : D
  contract : R1RequiredPartitionContract

/-- A step of one of the processes. The position-close consumer and the exporter
each resolve the path of the published close. -/
inductive SpoolStep (D : Type) where
  | publish (file : SpoolFile D)
  | consume (name : Nat × MessageType) (contract : R1RequiredPartitionContract) (now : PyDatetime)
      (crash : Bool)
  | issue (sources : R1SnapshotSources D) (now : PyDatetime)
  | publishClose (close : R1RecordPositionClose D)
  | consumeClose (messagePath : String) (contract : R1RequiredPartitionContract) (now : PyDatetime)
      (crash : Bool)
  | exportClose (messagePath : String) (contractFile : ContractFile D)

/-- What a step answers. -/
inductive SpoolAnswer (D : Type) where
  | done
  | stream (result : R1StreamDeliveryResult)
  | issued (close : R1RecordPositionClose D)
  | positionClose (admission : R1PositionCloseAdmission D)
  | exported (close : R1RecordPositionClose D) (receipt : R1AcceptedRecordPositionCloseReceipt D)

/-! ## Consumers -/

local instance instLawfulBEqIdentity : LawfulBEq (String × String) := inferInstance

/-- `_require_partition`. -/
def requirePartition (contract : R1RequiredPartitionContract) (p : R1StreamPartition) :
    Except PyError Unit := do
  raiseIf (p.hostId ≠ contract.targetHost)
    (.valueError "stream partition host_id does not match required-partition contract")
  raiseIf ((p.source.val, p.sourceChannel.val) ∉ contract.partitionIdentities)
    (.valueError "stream partition is not required by the contract")

/-- The partition of a final watermark, without its Run. -/
def finalPartition (w : R1FinalPartitionWatermark) : String × String × String :=
  (w.partition.hostId.val, w.partition.source.val, w.partition.sourceChannel.val)

/-- The partitions that a contract expects of a close. -/
def expectedPartitions (contract : R1RequiredPartitionContract) : List (String × String × String) :=
  contract.partitionIdentities.map fun i => (contract.targetHost.val, i.1, i.2)

/-- The contract check of `consume_spool_once` before a delivery. -/
def requireContract (contract : R1RequiredPartitionContract) :
    SpoolMessage D → Except PyError Unit
  | .eventChunk c => requirePartition contract c.partition
  | .sourceWatermark w => requirePartition contract w.partition
  | .runClosed r =>
    raiseIf (¬ ((∀ w ∈ r.finalWatermarks, finalPartition w ∈ expectedPartitions contract) ∧
        ∀ i ∈ expectedPartitions contract, i ∈ r.finalWatermarks.map finalPartition))
      (.valueError "run_closed does not exactly cover required partitions")

/-- The delivery of a message. -/
def SpoolMessage.delivery (now : PyDatetime) : SpoolMessage D → Delivery D
  | .eventChunk c => .chunk c now
  | .sourceWatermark w => .watermark w
  | .runClosed r => .runClosed r

/-- `_publish_immutable` of an ack whose path does not exist. -/
def RunSpool.writeAck (spool : RunSpool D) (ack : SpoolAck D) : RunSpool D :=
  { spool with acks := (spool.acks.insert? ack).getD spool.acks }

variable [DecidableEq D] (sha : CanonicalPayload → D) (sha256 : PositionPayload D → D)
  (sink : DeadLetterSink S)

/-- `_publish_immutable` in the outbox. -/
def publishFile (s : SpoolSystem D S) (file : SpoolFile D) :
    SpoolSystem D S × Except PyError (SpoolAnswer D) :=
  match s.spool.outbox.get file.name with
  | none =>
    ({ s with spool :=
        { s.spool with outbox := (s.spool.outbox.insert? file).getD s.spool.outbox } }, .ok .done)
  | some existing =>
    if existing.message = file.message then (s, .ok .done)
    else (s, .error (.valueError "immutable path conflicts with existing content"))

/-- `consume_spool_once` at one file: what is not acked is delivered, and acked
after the commit. -/
def consumeFile (s : SpoolSystem D S) (name : Nat × MessageType)
    (contract : R1RequiredPartitionContract) (now : PyDatetime) (crash : Bool) :
    SpoolSystem D S × Except PyError (SpoolAnswer D) :=
  match s.spool.outbox.get name, s.spool.acks.get name with
  | none, _ => (s, .ok .done)
  | some _, some _ => (s, .ok .done)
  | some file, none =>
    match requireContract contract file.message with
    | .error e => (s, .error e)
    | .ok _ =>
      let r := deliver sha sink s.ingress (file.message.delivery now)
      match r.2 with
      | .error e => ({ s with ingress := r.1 }, .error e)
      | .ok result =>
        let spool := if crash then s.spool
          else s.spool.writeAck ⟨name, file.message, result.disposition⟩
        ({ s with ingress := r.1, spool }, .ok (.stream result))

/-- `disposition` of a position-close ack. -/
def closeDisposition (accepted : Bool) : R1StreamDeliveryDisposition :=
  if accepted then .accepted else .duplicate

/-- `consume_r1_record_position_close`. -/
def consumePositionClose (s : SpoolSystem D S) (messagePath : String)
    (contract : R1RequiredPartitionContract) (now : PyDatetime) (crash : Bool) :
    SpoolSystem D S × Except PyError (SpoolAnswer D) :=
  match s.spool.positionCloseAck, s.spool.positionClose with
  | some _, _ => (s, .ok .done)
  | none, none => (s, .ok .done)
  | none, some close =>
    let r := deliverPositionClose sha256 s.ingress close contract now
    match r.2 with
    | .error e => ({ s with ingress := r.1 }, .error e)
    | .ok a =>
      let ack : PositionCloseAck D :=
        { messagePath := messagePath
          message := close
          disposition := closeDisposition a.accepted
          ledgerEntryId := a.receipt.ledgerEntryId
          acceptedAt := a.receipt.acceptedAt
          requiredPartitionContractSha256 := requiredPartitionContractSha256 sha256 contract }
      let spool := if crash then s.spool else { s.spool with positionCloseAck := some ack }
      ({ s with ingress := r.1, spool }, .ok (.positionClose a))

/-! ## Issuer and exporter -/

/-- `publish_r1_record_position_close`, of a close that was issued. -/
def publishPositionClose (s : SpoolSystem D S) (close : R1RecordPositionClose D) :
    SpoolSystem D S × Except PyError (SpoolAnswer D) :=
  if close ∈ s.issuing then
    match s.spool.positionClose with
    | none => ({ s with spool := { s.spool with positionClose := some close } }, .ok .done)
    | some existing =>
      if existing = close then (s, .ok .done)
      else (s, .error (.valueError "immutable path conflicts with existing content"))
  else (s, .ok .done)

/-- `_load_post_commit_ack`. -/
def loadPostCommitAck (spool : RunSpool D) (messagePath : String)
    (close : R1RecordPositionClose D) : Except PyError (PositionCloseAck D) :=
  match spool.positionCloseAck with
  | none => .error (.valueError "position close has no readable post-commit ack")
  | some ack => do
    raiseIf (ack.messagePath ≠ messagePath)
      (.valueError "position close ack is bound to another message path")
    raiseIf (ack.message ≠ close)
      (.valueError "position close ack does not match the message bytes")
    return ack

omit [DecidableEq D] in
/-- The payload of an export. -/
def closeExport (close : R1RecordPositionClose D)
    (receipt : R1AcceptedRecordPositionCloseReceipt D) (contractFile : ContractFile D) :
    PositionCloseExport D where
  acceptedRecordPositionClose := close
  acceptanceReceipt := receipt
  contractPath := contractFile.path
  contractSha256 := contractFile.sha256
  contractContentSha256 := requiredPartitionContractSha256 sha256 contractFile.contract
  targetHost := contractFile.contract.targetHost

/-- The checks of `export_r1_accepted_record_position_close`, and its payload. -/
def exportPayload (s : SpoolSystem D S) (messagePath : String) (contractFile : ContractFile D) :
    Except PyError (PositionCloseExport D) :=
  match s.spool.positionClose with
  | none => .error (.valueError "position close cannot be loaded")
  | some close => do
    let contract := contractFile.contract
    raiseIf (contract.targetHost ≠ close.partition.hostId) (.valueError
      "required-partition contract target_host must match expected_target_host")
    requireContractBinding sha256 close contract
    let ack ← loadPostCommitAck s.spool messagePath close
    match loadAcceptedPositionCloseReceipt s.ledger close.runId with
    | none => .error (.valueError "Role3 ledger has no accepted position close for the run")
    | some receipt =>
      requireReceiptBindsClose sha256 receipt close
      raiseIf (ack.ledgerEntryId ≠ receipt.ledgerEntryId)
        (.valueError "Role3 ack does not name the committed ledger entry")
      raiseIf (ack.requiredPartitionContractSha256 ≠
          requiredPartitionContractSha256 sha256 contract)
        (.valueError "contract digest differs from the one used at acceptance")
      return closeExport sha256 close receipt contractFile

/-- `export_r1_accepted_record_position_close`: the payload is published once, and
only the same payload again. -/
def exportPositionClose (s : SpoolSystem D S) (messagePath : String)
    (contractFile : ContractFile D) : SpoolSystem D S × Except PyError (SpoolAnswer D) :=
  match exportPayload sha256 s messagePath contractFile with
  | .error e => (s, .error e)
  | .ok payload =>
    let answer := .exported payload.acceptedRecordPositionClose payload.acceptanceReceipt
    match s.spool.positionCloseExport with
    | none => ({ s with spool := { s.spool with positionCloseExport := some payload } }, .ok answer)
    | some existing =>
      if existing = payload then (s, .ok answer)
      else (s, .error (.valueError "immutable path conflicts with existing content"))

/-- One step. -/
def spoolStep (s : SpoolSystem D S) :
    SpoolStep D → SpoolSystem D S × Except PyError (SpoolAnswer D)
  | .publish file => publishFile s file
  | .consume name contract now crash => consumeFile sha sink s name contract now crash
  | .issue sources now =>
    match issuePositionClose sha sha256 s.spool sources now with
    | .error e => (s, .error e)
    | .ok close => ({ s with issuing := close :: s.issuing }, .ok (.issued close))
  | .publishClose close => publishPositionClose s close
  | .consumeClose messagePath contract now crash =>
    consumePositionClose sha256 s messagePath contract now crash
  | .exportClose messagePath contractFile => exportPositionClose sha256 s messagePath contractFile

/-- The state after steps from an empty ledger and an empty spool. -/
abbrev spoolAfter (sink₀ : S) (steps : List (SpoolStep D)) : SpoolSystem D S :=
  after (spoolStep sha sha256 sink) (.initial sink₀) steps

end IncidentAwareness.Position
