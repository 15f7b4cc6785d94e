import IncidentAwareness.Lib.Files
import IncidentAwareness.Lib.Process
import IncidentAwareness.Lib.Run
import IncidentAwareness.Seal.PositionProof

/-!
# The position handoff

`issue_r1_position_handoff` over the files of its output directory. A run is a process that
the environment may stop at every file call and at its start. An output is created empty and
then written, so a run that stops between the two leaves a `torn` file, which is the text of
no artifact. What `load_accepted_position_close` and `build_seal_inputs` read is the same in
every run over unchanged sources: it is `HandoffInputs`, with what they check of it.
-/

namespace IncidentAwareness.Seal

open IncidentAwareness.Common IncidentAwareness.Lib IncidentAwareness.Stream
open IncidentAwareness.Position

variable {D : Type}

/-! ## Records -/

/-- `R1PositionHandoffExpectation`, without the policy values that only the loader reads. -/
structure R1PositionHandoffExpectation where
  runId : String
  hostId : String
  familyId : String

/-- The accepted close with its receipt and partition, and `_SealInputs`. -/
structure HandoffInputs (D : Type) where
  expected : R1PositionHandoffExpectation
  close : R1RecordPositionClose D
  receipt : R1AcceptedRecordPositionCloseReceipt D
  partition : R1StreamPartition
  runMetadata : RunMetadata
  scenarioActions : List R1ScenarioAction
  boundary : R1CandidateBoundaryAttestation
  boundaryActionRecord : ExecutionRecordRow
  boundaryCompletion : R1CandidateBoundaryCompletion
  policy : R1CandidateGenerationPolicy D
  close_runId : close.runId.val = expected.runId
  close_partition : close.partition = partition
  partition_hostId : partition.hostId.val = expected.hostId
  policy_familyId : policy.familyId.val.val = expected.familyId

/-- What a file of the output directory holds. -/
inductive OutputContent (D : Type) where
  | torn
  | positionSeal (source : R1PositionCandidateGenerationSeal D)
  | projectionRecord (record : R1PositionSealProjectionRecord D)
  | closeProof (proof : R1Role2VerifiedPositionCloseProof D)

/-- The output directory, by file name. -/
abbrev Outputs (D : Type) := Files (OutputContent D)

/-- `SEAL_FILENAME`. -/
def sealFilename : String := "position-candidate-generation-seal.json"

/-- `PROJECTION_RECORD_FILENAME`. -/
def projectionRecordFilename : String := "position-seal-projection-record.json"

/-- `PROOF_FILENAME`. -/
def proofFilename : String := "role2-verified-position-close-proof.json"

/-- What a handoff raises. -/
inductive HandoffError where
  | positionHandoffError (text : String)
  | positionHandoffErrorFrom (text : String) (cause : PyError)
  | python (e : PyError)
  | fileExistsError (name : String)
  | osError (text : String)

/-- `R1PositionHandoffResult`, without the paths. -/
structure R1PositionHandoffResult (D : Type) where
  sealId : Identifier
  projectionSha256 : D
  projectionRecordSha256 : D
  proofContentSha256 : D
  reused : List String

/-- The readings of the clock in a run, and what the environment does to its calls. -/
structure HandoffRun where
  sealClock : PyDatetime
  recordClock : PyDatetime
  proofClock : PyDatetime
  start : Fault HandoffError
  sealOpen : Fault HandoffError
  sealWrite : Fault HandoffError
  recordOpen : Fault HandoffError
  recordWrite : Fault HandoffError
  proofOpen : Fault HandoffError
  proofWrite : Fault HandoffError

/-! ## Files -/

/-- A handoff process. -/
abbrev Handoff (D α : Type) := Process HandoffError (Outputs D) α

/-- A computation of a run that asks nothing of the files. -/
def compute {α : Type} (x : Except HandoffError α) : Handoff D α :=
  reads fun _ => x.mapError Stop.raised

/-- `open("x")`: the file is there and empty. -/
def createExclusive (name : String) : Handoff D Unit := fun files =>
  match files.read [name] with
  | some _ => .error (.raised (.fileExistsError name)) files
  | none => .ok () (files.write [name] .torn)

/-- `write_r1_position_message` and `write_r1_role2_verified_position_close_proof`. -/
def writeOutput (opening writing : Fault HandoffError) (name : String) (content : OutputContent D) :
    Handoff D Unit := do
  call opening (createExclusive name)
  call writing (modify fun files => files.write [name] content)

/-- Write an output that is not there. -/
def writeMissing (present : Bool) (opening writing : Fault HandoffError) (name : String)
    (content : OutputContent D) : Handoff D Unit :=
  if present then pure () else writeOutput opening writing name content

/-- `_load_existing`. -/
def loadExisting {α : Type} (kind : OutputContent D → Option α) (name : String)
    (content : Option (OutputContent D)) : Except HandoffError α :=
  match content.bind kind with
  | some a => .ok a
  | none => .error (.positionHandoffError
      ("an existing output is not a valid artifact of this kind and is kept: " ++ name))

/-- `load_r1_position_candidate_generation_seal`, of a content. -/
def OutputContent.asSeal : OutputContent D → Option (R1PositionCandidateGenerationSeal D)
  | .positionSeal source => some source
  | _ => none

/-- `load_r1_position_seal_projection_record`, of a content. -/
def OutputContent.asRecord : OutputContent D → Option (R1PositionSealProjectionRecord D)
  | .projectionRecord record => some record
  | _ => none

/-- `load_r1_role2_verified_position_close_proof`, of a content. -/
def OutputContent.asProof : OutputContent D → Option (R1Role2VerifiedPositionCloseProof D)
  | .closeProof proof => some proof
  | _ => none

/-! ## Steps -/

/-- `seal_id_for`. -/
def sealIdFor (runId : String) : String := "SEAL-" ++ runId ++ "-position-000001"

/-- `proof_id_for`. -/
def proofIdFor (runId : String) : String := "PROOF-" ++ runId ++ "-position-000001"

section Steps

variable [DecidableEq D] (casefold : String → String) (sha256 : PositionSealPayload D → D)
  (inputs : HandoffInputs D)

/-- A seal of the inputs, issued at a reading of the clock. -/
def issueSealAt (clock : PyDatetime) : Except PyError (R1PositionCandidateGenerationSeal D) := do
  let emitted ← utcMilliseconds clock
  issuePositionSeal casefold sha256 (sealIdFor inputs.expected.runId) inputs.runMetadata inputs.close
    inputs.receipt inputs.scenarioActions inputs.boundary inputs.boundaryActionRecord
    inputs.boundaryCompletion inputs.policy (PyDatetime.utcMillis emitted)

/-- `_verify_seal`. -/
def verifySeal (source : R1PositionCandidateGenerationSeal D) :
    Except HandoffError R1VerifiedPositionCandidateBoundary := do
  raiseIf (source.boundary ≠ inputs.boundary)
    (.positionHandoffError "the position seal does not bind this Run: another boundary")
  (validatePositionSealBinding casefold sha256 source inputs.runMetadata inputs.close inputs.receipt
    inputs.scenarioActions inputs.boundaryActionRecord inputs.boundaryCompletion
    inputs.policy).mapError (.positionHandoffErrorFrom "the position seal does not bind this Run: ")

/-- The seal that is there, or a new one. -/
def presentSeal (clock : PyDatetime) (content : Option (OutputContent D)) :
    Except HandoffError (R1PositionCandidateGenerationSeal D) :=
  if content.isSome then loadExisting OutputContent.asSeal sealFilename content
  else (issueSealAt casefold sha256 inputs clock).mapError .python

/-- The seal of a run, with its verified boundary. -/
def sealOf (clock : PyDatetime) (content : Option (OutputContent D)) :
    Except HandoffError (R1PositionCandidateGenerationSeal D × R1VerifiedPositionCandidateBoundary) := do
  let source ← presentSeal casefold sha256 inputs clock content
  raiseIf (source.sealId.val ≠ sealIdFor inputs.expected.runId)
    (.positionHandoffError "the position seal has another seal_id")
  let verified ← verifySeal casefold sha256 inputs source
  return (source, verified)

/-- A projection record of a seal, issued at a reading of the clock. -/
def issueRecordAt (clock : PyDatetime) (source : R1PositionCandidateGenerationSeal D)
    (verified : R1VerifiedPositionCandidateBoundary) :
    Except PyError (R1PositionSealProjectionRecord D) := do
  let recorded ← utcMilliseconds clock
  issueProjectionRecord sha256 source verified inputs.expected.hostId (PyDatetime.utcMillis recorded)

/-- The projection record that is there, or a new one. -/
def presentRecord (clock : PyDatetime) (source : R1PositionCandidateGenerationSeal D)
    (verified : R1VerifiedPositionCandidateBoundary) (content : Option (OutputContent D)) :
    Except HandoffError (R1PositionSealProjectionRecord D) :=
  if content.isSome then loadExisting OutputContent.asRecord projectionRecordFilename content
  else (issueRecordAt sha256 inputs clock source verified).mapError .python

/-- `_verify_projection_record`. -/
def verifyProjectionRecord (record : R1PositionSealProjectionRecord D)
    (source : R1PositionCandidateGenerationSeal D) : Except HandoffError Unit := do
  raiseIf ((record.sealId, record.runId, record.hostId.val) ≠
      (source.sealId, source.runId.val, inputs.expected.hostId))
    (.positionHandoffError "the projection record is bound to another seal, Run or host")
  raiseIf (record.sealContentSha256 ≠ positionSealSha256 sha256 source)
    (.positionHandoffError "the projection record was not made from this seal")
  let projectionSha256 ← (role2SafePositionSealProjectionSha256 sha256 source
    inputs.expected.hostId).mapError .python
  raiseIf (record.projectionSha256 ≠ projectionSha256)
    (.positionHandoffError "the projection record digest does not match the seal")
  raiseIf (record.recordedAt < source.emittedAt)
    (.positionHandoffError "the projection record precedes its seal")

/-- What the handoff expects of its proof. -/
def handoffExpectation (source : R1PositionCandidateGenerationSeal D)
    (trusted : R1PositionSealProjectionRecord D) : PositionProofExpectation D where
  runId := inputs.expected.runId
  familyId := inputs.expected.familyId
  selectorPartition := inputs.partition
  requiredPartitionContractSha256 := inputs.close.requiredPartitionContract.contentSha256
  acceptedSourceSealId := source.sealId.val
  acceptedSourceSealProjectionSha256 := trusted.projectionSha256
  acceptedSourceSealProjectionRecordSha256 := projectionRecordSha256 sha256 trusted

/-- A proof over the inputs, issued at a reading of the clock. -/
def issueProofAt (clock : PyDatetime) (source : R1PositionCandidateGenerationSeal D)
    (verified : R1VerifiedPositionCandidateBoundary) (trusted : R1PositionSealProjectionRecord D) :
    Except PyError (R1Role2VerifiedPositionCloseProof D) := do
  let created ← utcMilliseconds clock
  issuePositionProof sha256 (proofIdFor inputs.expected.runId) inputs.expected.hostId verified source
    inputs.close inputs.receipt trusted inputs.policy (PyDatetime.utcMillis created)

/-- The proof that is there, or a new one. -/
def presentProof (clock : PyDatetime) (source : R1PositionCandidateGenerationSeal D)
    (verified : R1VerifiedPositionCandidateBoundary) (trusted : R1PositionSealProjectionRecord D)
    (content : Option (OutputContent D)) :
    Except HandoffError (R1Role2VerifiedPositionCloseProof D) :=
  if content.isSome then loadExisting OutputContent.asProof proofFilename content
  else (issueProofAt sha256 inputs clock source verified trusted).mapError .python

/-- The proof of a run, validated at its own creation. -/
def proofOf (clock : PyDatetime) (source : R1PositionCandidateGenerationSeal D)
    (verified : R1VerifiedPositionCandidateBoundary) (trusted : R1PositionSealProjectionRecord D)
    (content : Option (OutputContent D)) :
    Except HandoffError (R1Role2VerifiedPositionCloseProof D) := do
  let proof ← presentProof sha256 inputs clock source verified trusted content
  raiseIf (proof.proofId.val ≠ proofIdFor inputs.expected.runId)
    (.positionHandoffError "the position close proof has another proof_id")
  let _ ← (validatePositionProof sha256 proof inputs.close inputs.receipt inputs.policy
    (handoffExpectation sha256 inputs source trusted)
    (PyDatetime.utcMillis proof.proofCreatedAt)).mapError
      (.positionHandoffErrorFrom "the position close proof does not validate: ")
  return proof

/-! ## A run -/

/-- The seal step. -/
def handoffSeal (run : HandoffRun) :
    Handoff D (R1PositionCandidateGenerationSeal D × R1VerifiedPositionCandidateBoundary) := do
  let content := (← get).read [sealFilename]
  let handed ← compute (sealOf casefold sha256 inputs run.sealClock content)
  writeMissing content.isSome run.sealOpen run.sealWrite sealFilename (.positionSeal handed.1)
  return handed

/-- The projection record step: the record is read back from its file. -/
def handoffRecord (run : HandoffRun) (source : R1PositionCandidateGenerationSeal D)
    (verified : R1VerifiedPositionCandidateBoundary) :
    Handoff D (R1PositionSealProjectionRecord D) := do
  let content := (← get).read [projectionRecordFilename]
  let record ← compute (presentRecord sha256 inputs run.recordClock source verified content)
  writeMissing content.isSome run.recordOpen run.recordWrite projectionRecordFilename
    (.projectionRecord record)
  let written := (← get).read [projectionRecordFilename]
  let trusted ← compute (loadExisting OutputContent.asRecord projectionRecordFilename written)
  compute (verifyProjectionRecord sha256 inputs trusted source)
  return trusted

/-- The proof step. -/
def handoffProof (run : HandoffRun) (source : R1PositionCandidateGenerationSeal D)
    (verified : R1VerifiedPositionCandidateBoundary) (trusted : R1PositionSealProjectionRecord D) :
    Handoff D (R1Role2VerifiedPositionCloseProof D) := do
  let content := (← get).read [proofFilename]
  let proof ← compute (proofOf sha256 inputs run.proofClock source verified trusted content)
  writeMissing content.isSome run.proofOpen run.proofWrite proofFilename (.closeProof proof)
  return proof

/-- The outputs that are there. -/
def existingOutputs (files : Outputs D) : List String :=
  [sealFilename, projectionRecordFilename, proofFilename].filter fun name =>
    (files.read [name]).isSome

/-- `issue_r1_position_handoff`. -/
def issueHandoff (run : HandoffRun) : Handoff D (R1PositionHandoffResult D) := do
  call run.start (pure ())
  let files ← get
  let handed ← handoffSeal casefold sha256 inputs run
  let trusted ← handoffRecord sha256 inputs run handed.1 handed.2
  let proof ← handoffProof sha256 inputs run handed.1 handed.2 trusted
  return {
    sealId := handed.1.sealId
    projectionSha256 := trusted.projectionSha256
    projectionRecordSha256 := projectionRecordSha256 sha256 trusted
    proofContentSha256 := proof.proofContentSha256
    reused := existingOutputs files }

/-- One run over the outputs that are there: the outputs that it leaves, and its answer. -/
def handoffStep (files : Outputs D) (run : HandoffRun) :
    Outputs D × Except (Stop HandoffError) (R1PositionHandoffResult D) :=
  match (issueHandoff casefold sha256 inputs run).run files with
  | .ok result files' => (files', .ok result)
  | .error stop files' => (files', .error stop)

end Steps

end IncidentAwareness.Seal
