import IncidentAwareness.Artifacts.PublishFiles
import IncidentAwareness.Evidence.Pipeline
import IncidentAwareness.Stream.Messages
import Mathlib.Data.List.Lex

/-!
# The R1 Evidence artifact

`run_and_write_r1_evidence_artifacts` and `write_r1_collection_provenance`: the
extraction, its summary and the files that are published, and the system in which many
publishers share one output directory, which may hold other files before.

A file's content is what its bytes spell. The collection provenance is any value, for
nothing here reads it.
-/

namespace IncidentAwareness.Artifacts

open IncidentAwareness.Common IncidentAwareness.Lib IncidentAwareness.Evidence

/-! ## The summary -/

/-- `R1LineageInputProvenance`. -/
structure R1LineageInputProvenance where
  anchorEventId : String
  terminalEventId : String
  policyId : String
  policyVersion : String
  policyConfigHash : String
  contextEventIds : List String := []
  deriving DecidableEq, Repr

/-- `R1SelectorStatus`. -/
inductive R1SelectorStatus where
  | selected | failed
  deriving DecidableEq, Repr

/-- The arguments of `R1SelectorProvenance`. -/
structure R1SelectorProvenanceFields where
  policyId : String
  version : String
  configHash : String
  status : R1SelectorStatus
  diagnostics : List R1SelectorDiagnostic
  deriving DecidableEq, Repr

/-- `R1SelectorProvenance.__post_init__`. -/
def validateSelectorProvenance (selector : R1SelectorProvenanceFields) : Except PyError Unit := do
  requireNonBlank "policy_id" selector.policyId
  requireNonBlank "version" selector.version
  requireNonBlank "config_hash" selector.configHash
  raiseIf (selector.status = .selected ∧ selector.diagnostics ≠ [])
    (.valueError "selected selector provenance must not contain diagnostics")
  raiseIf (selector.status = .failed ∧ selector.diagnostics = [])
    (.valueError "failed selector provenance requires diagnostics")

/-- `R1SelectorProvenance`. -/
abbrev R1SelectorProvenance := Validated validateSelectorProvenance

/-- `R1ExtractionStatus`. -/
inductive R1ExtractionStatus where
  | completed | failed
  deriving DecidableEq, Repr

/-- `R1ExtractionSummary`. -/
structure R1ExtractionSummary where
  runId : String
  extractorVersion : String
  inputEventCount : Option Int
  evidenceCount : Option Int
  status : R1ExtractionStatus
  lineageInputs : Option (List R1LineageInputProvenance)
  warnings : List String
  diagnostics : List R1ExtractionDiagnostic
  errorType : Option String
  errorMessage : Option String
  evidenceArtifactSha256 : Option String
  selector : Option R1SelectorProvenance := none
  deriving DecidableEq

/-- `_lineage_provenance_key`. -/
def lineageProvenanceKey (p : R1LineageInputProvenance) :
    String ×ₗ String ×ₗ String ×ₗ String ×ₗ String ×ₗ List String :=
  toLex (p.anchorEventId, toLex (p.terminalEventId, toLex (p.policyId, toLex (p.policyVersion,
    toLex (p.policyConfigHash, p.contextEventIds)))))

/-- `_lineage_input_provenance`. -/
def lineageInputProvenance (lineageInputs : List R1LineageInput) : List R1LineageInputProvenance :=
  sortedBy lineageProvenanceKey (lineageInputs.map fun input =>
    ⟨input.val.anchorEventId, input.val.terminalEventId, input.val.approvedPolicy.policyId,
      input.val.approvedPolicy.version, input.val.approvedPolicy.configHash,
      input.val.contextEventIds⟩)

/-- `_RUN_ID_PATTERN.fullmatch`. -/
def matchesRunIdPattern (runId : String) : Bool :=
  let cs := runId.toList
  cs.take 4 = ['R', 'U', 'N', '-'] && ((cs.drop 4).take 8).length = 8 &&
    ((cs.drop 4).take 8).all Char.isDigit && (cs.drop 12).take 1 = ['-'] &&
    (cs.drop 13).length = 3 && (cs.drop 13).all Char.isDigit

/-- `_validate_run_id`. -/
def validateRunId (runId : String) : Except PyError Unit := do
  raiseIf (isPadded runId) (.valueError "식별자에는 앞뒤 공백을 포함할 수 없습니다.")
  raiseIf (matchesRunIdPattern runId = false)
    (.valueError "run_id는 RUN-YYYYMMDD-NNN의 형태를 가져야합니다.")
  raiseIf (Stream.isIsoDate ((runId.toList.drop 4).take 8) = false)
    (.valueError "run_id는 유효한 날짜이어야 합니다.")

/-- `_is_sha256`. -/
def isSha256 (value : String) : Bool :=
  value.length = 64 && value.toList.all "0123456789abcdef".toList.contains

/-- A count of a summary. -/
def validateCount (fieldName : String) (value : Option Int) : Except PyError Unit :=
  raiseIf (∃ n ∈ value, n < 0) (.valueError (fieldName ++ " must not be negative"))

/-- A lineage input of a summary. -/
def validateLineageProvenance (p : R1LineageInputProvenance) : Except PyError Unit := do
  raiseIf (¬ p.contextEventIds.Nodup)
    (.valueError "context_event_ids must contain unique Event IDs")
  raiseIf (p.contextEventIds ≠ [] ∧ p.contextEventIds.head? ≠ some p.anchorEventId)
    (.valueError "context_event_ids must start with anchor_event_id")
  raiseIf (p.terminalEventId ∈ p.contextEventIds)
    (.valueError "terminal_event_id must not be a context Event")

/-- The lineage inputs of a summary. -/
def validateLineageInputs (lineageInputs : List R1LineageInputProvenance) : Except PyError Unit := do
  raiseIf (lineageInputs ≠ sortedBy lineageProvenanceKey lineageInputs)
    (.valueError "lineage_inputs must use the writer's canonical ordering")
  lineageInputs.forM validateLineageProvenance

/-- The selector of a summary. -/
def validateSelector (summary : R1ExtractionSummary) (selector : R1SelectorProvenance) :
    Except PyError Unit :=
  let lineageInputs := summary.lineageInputs.getD []
  match selector.val.status with
  | .selected => raiseIf (lineageInputs = [])
      (.valueError "selected selector provenance requires a lineage input")
  | .failed => do
    raiseIf (lineageInputs ≠ [])
      (.valueError "failed selector provenance must not contain lineage inputs")
    raiseIf (summary.status = .completed ∧ summary.evidenceCount ≠ some 0)
      (.valueError "failed selector provenance must not contain Evidence")

/-- The status of a summary. -/
def validateStatus (summary : R1ExtractionSummary) : Except PyError Unit :=
  match summary.status with
  | .completed => do
    raiseIf (summary.inputEventCount = none ∨ summary.evidenceCount = none)
      (.valueError "completed summary requires Event and Evidence counts")
    raiseIf (summary.lineageInputs = none)
      (.valueError "completed summary requires lineage_inputs provenance")
    raiseIf (summary.errorType ≠ none ∨ summary.errorMessage ≠ none)
      (.valueError "completed summary must not contain extraction errors")
    raiseIf (¬ ∃ value ∈ summary.evidenceArtifactSha256, isSha256 value)
      (.valueError "completed summary requires a SHA-256 value")
  | .failed => do
    raiseIf (summary.evidenceCount ≠ none ∨ summary.evidenceArtifactSha256 ≠ none)
      (.valueError "failed summary must not describe a completed Evidence artifact")
    raiseIf (summary.diagnostics ≠ [])
      (.valueError "failed summary must not store extraction exceptions as diagnostics")
    raiseIf (summary.errorType.getD "" = "" ∨ summary.errorMessage = none)
      (.valueError "failed summary requires error_type and error_message")

/-- `_validate_summary_contract`. -/
def validateSummaryContract (summary : R1ExtractionSummary) : Except PyError Unit := do
  validateRunId summary.runId
  validateCount "input_event_count" summary.inputEventCount
  validateCount "evidence_count" summary.evidenceCount
  summary.lineageInputs.elim (.ok ()) validateLineageInputs
  summary.selector.elim (.ok ()) (validateSelector summary)
  validateStatus summary

/-! ## The files -/

/-- The files of an R1 output directory. -/
inductive R1ArtifactName where
  | evidence | extractionSummary | collectionProvenance
  deriving DecidableEq, Repr

/-- `R1_EVIDENCE_FILENAME`, `R1_EXTRACTION_SUMMARY_FILENAME` and
`R1_COLLECTION_PROVENANCE_FILENAME`. -/
def R1ArtifactName.filename : R1ArtifactName → String
  | .evidence => "r1_evidence.jsonl"
  | .extractionSummary => "r1_extraction_summary.json"
  | .collectionProvenance => "r1_collection_provenance.json"

variable {ι P : Type}

/-- What the bytes of a file spell. -/
inductive R1Content (P : Type) where
  | evidences (evidences : List (Evidence R1Features))
  | extractionSummary (summary : R1ExtractionSummary)
  | collectionProvenance (provenance : P)
  deriving DecidableEq

/-- A completed summary. -/
def R1Content.isCompletedSummary : R1Content P → Bool
  | .extractionSummary summary => summary.status = .completed
  | _ => false

/-- A file that is published. -/
abbrev R1File (P : Type) := R1ArtifactName × R1Content P

/-- The arguments of `run_and_write_r1_evidence_artifacts`. -/
structure R1EvidenceRequest (P : Type) where
  events : List NormalizedEvent
  runId : String
  lineageInputs : List R1LineageInput := []
  selectorProvenance : Option R1SelectorProvenance := none
  collectionProvenance : Option P := none

/-- `R1EvidenceArtifactRun`. -/
structure R1EvidenceArtifactRun where
  evidences : List (Evidence R1Features)
  summary : R1ExtractionSummary

/-- `type(error).__name__`. -/
def errorTypeName : PyError → String
  | .valueError _ => "ValueError"
  | .valueErrorQuoting .. => "ValueError"
  | .typeError _ => "TypeError"
  | .lateStreamEventError .. => "LateStreamEventError"
  | .databaseError _ => "DatabaseError"
  | .overflowError _ => "OverflowError"
  | .assertionError => "AssertionError"

/-- What the publication takes from outside: the pipeline's `casefold` and `uuid5`, the
SHA-256 of the Evidence lines, and `str` of an error. -/
structure R1Environment where
  casefold : String → String
  uuid5 : List IdentityPart → String
  evidenceSha256 : List (Evidence R1Features) → String
  errorText : PyError → String

namespace R1EvidenceRequest

variable (env : R1Environment) (request : R1EvidenceRequest P)

/-- `_validate_event_run_scope`. -/
def validateEventRunScope : Except PyError Unit :=
  request.events.forM fun event => raiseIf (event.runId ≠ request.runId)
    (.valueError ("all events must belong to the requested run_id: " ++ event.eventId ++
      " belongs to " ++ event.runId))

/-- The `try` around the pipeline. -/
def extract : Except PyError R1EvidencePipelineResult := do
  request.validateEventRunScope
  runR1EvidencePipelineWithDiagnostics env.casefold env.uuid5 request.events request.lineageInputs

/-- The summary of an extraction that raised. -/
def failedSummary (error : PyError) : R1ExtractionSummary where
  runId := request.runId
  extractorVersion := extractorVersion
  inputEventCount := some request.events.length
  evidenceCount := none
  status := .failed
  lineageInputs := some (lineageInputProvenance request.lineageInputs)
  warnings := []
  diagnostics := []
  errorType := some (errorTypeName error)
  errorMessage := some (env.errorText error)
  evidenceArtifactSha256 := none
  selector := request.selectorProvenance

/-- The summary of an extraction that returned. -/
def completedSummary (result : R1EvidencePipelineResult) : R1ExtractionSummary where
  runId := request.runId
  extractorVersion := extractorVersion
  inputEventCount := some request.events.length
  evidenceCount := some result.evidences.length
  status := .completed
  lineageInputs := some (lineageInputProvenance request.lineageInputs)
  warnings := []
  diagnostics := result.diagnostics
  errorType := none
  errorMessage := none
  evidenceArtifactSha256 := some (env.evidenceSha256 result.evidences)
  selector := request.selectorProvenance

/-- The file of the failed summary. -/
def failedFiles (error : PyError) : List (R1File P) :=
  [(.extractionSummary, .extractionSummary (request.failedSummary env error))]

/-- `files`. -/
def completedFiles (result : R1EvidencePipelineResult) : List (R1File P) :=
  [(.evidence, .evidences result.evidences),
    (.extractionSummary, .extractionSummary (request.completedSummary env result))] ++
    request.collectionProvenance.toList.map fun p => (.collectionProvenance, .collectionProvenance p)

end R1EvidenceRequest

/-! ## The publishers -/

section Publishers

variable [DecidableEq ι] (env : R1Environment) (i : ι)

/-- The paths of a list that exist. -/
def existingPaths : List R1ArtifactName → Publisher ι R1ArtifactName (R1Content P) (List R1ArtifactName)
  | [] => return []
  | name :: names => do
    let found ← pathExists name
    let existing ← existingPaths names
    return if found then name :: existing else existing

/-- `_prepare_output_paths`, whose names are joined by commas. -/
def prepareOutputPaths (names : List R1ArtifactName) : Publisher ι R1ArtifactName (R1Content P) Unit := do
  let existing ← existingPaths names
  .ofExcept <| raiseIf (existing ≠ []) (.call (.fileExistsError
    ("R1 artifact files must not already exist: " ++
      String.intercalate ", " (existing.map (·.filename)))))

/-- What follows the publication of a failed summary. -/
def raiseExtraction {α : Type} (error : PyError) :
    Except ArtifactError Unit → Publisher ι R1ArtifactName (R1Content P) α
  | .ok () => .raise (.extraction error none)
  | .error (.call publicationError) =>
    if publicationError.isOSError then
      .raise (.extraction error (some ("R1 failed summary publication also failed: " ++
        publicationError.describe)))
    else .raise (.call publicationError)
  | .error publicationError => .raise publicationError

/-- `run_and_write_r1_evidence_artifacts`. -/
def runAndWriteR1EvidenceArtifacts (request : R1EvidenceRequest P) :
    Publisher ι R1ArtifactName (R1Content P) R1EvidenceArtifactRun := do
  .ofExcept ((validateRunId request.runId).mapError .pyError)
  prepareOutputPaths ([.evidence, .extractionSummary] ++
    if request.collectionProvenance.isSome then [.collectionProvenance] else [])
  match request.extract env with
  | .error error => do
    let r ← (publishFiles i (request.failedFiles env error)).attempt
    raiseExtraction error r
  | .ok result => do
    .ofExcept ((validateSummaryContract (request.completedSummary env result)).mapError .pyError)
    publishFiles i (request.completedFiles env result)
    return ⟨result.evidences, request.completedSummary env result⟩

/-- `write_r1_collection_provenance` of a provenance that was built. -/
def writeR1CollectionProvenance (provenance : P) :
    Publisher ι R1ArtifactName (R1Content P) Unit := do
  prepareOutputPaths [.collectionProvenance]
  publishFiles i [(.collectionProvenance, .collectionProvenance provenance)]

/-- What a publisher is asked for. -/
inductive R1Request (P : Type) where
  | evidence (request : R1EvidenceRequest P)
  | collectionProvenance (provenance : P)

namespace R1Request

/-- The files of a publication. -/
def files : R1Request P → List (R1File P)
  | .evidence request =>
    match request.extract env with
    | .error error => request.failedFiles env error
    | .ok result => request.completedFiles env result
  | .collectionProvenance provenance => [(.collectionProvenance, .collectionProvenance provenance)]

/-- The program of a publisher. -/
def program : R1Request P → Publisher ι R1ArtifactName (R1Content P) Unit
  | .evidence request => do
    let _ ← runAndWriteR1EvidenceArtifacts env i request
  | .collectionProvenance provenance => writeR1CollectionProvenance i provenance

end R1Request

end Publishers

/-! ## The system -/

/-- Where a publisher is. -/
inductive R1PublisherState (ι P : Type) where
  | idle
  | running (request : R1Request P) (rest : Publisher ι R1ArtifactName (R1Content P) Unit)
  | killed (request : R1Request P)

/-- What a publisher was asked for. -/
def R1PublisherState.request? : R1PublisherState ι P → Option (R1Request P)
  | .idle => none
  | .running request _ => some request
  | .killed request => some request

/-- What a publisher raised. -/
def R1PublisherState.error? : R1PublisherState ι P → Option ArtifactError
  | .running _ rest => match rest.result? with
    | some (.error e) => some e
    | _ => none
  | _ => none

/-- The publishers of one output directory. -/
structure R1Publishers (ι P : Type) where
  directory : OutputDirectory ι R1ArtifactName (R1Content P)
  publishers : ι → R1PublisherState ι P

/-- A publisher starts, or makes its next call, under a fault. -/
inductive R1PublisherStep (ι P : Type) where
  | start (i : ι) (request : R1Request P)
  | advance (i : ι) (fault : Fault CallError)

/-- How a step ends. -/
inductive R1PublisherAnswer where
  | started
  | called (site : PublishSite R1ArtifactName)
  | ignored
  deriving DecidableEq

namespace R1Publishers

/-- Nobody publishes yet, and the directory may hold files. -/
def initial (prior : R1ArtifactName → Option (R1Content P)) : R1Publishers ι P where
  directory :=
    { entries := fun path => match path with
        | .artifact name => (prior name).map fun _ => .prior name
        | .temporary _ _ => none
      contents := fun file => match file with
        | .prior name => prior name
        | .staged _ _ => none }
  publishers _ := .idle

variable [DecidableEq ι] (env : R1Environment)

/-- One step. -/
def step (s : R1Publishers ι P) : R1PublisherStep ι P → R1Publishers ι P × R1PublisherAnswer
  | .start i request =>
    match s.publishers i with
    | .idle =>
      ({ s with publishers := Function.update s.publishers i (.running request (request.program env i)) },
        .started)
    | _ => (s, .ignored)
  | .advance i fault =>
    match s.publishers i with
    | .running request rest =>
      match rest.advance (fault.map .call) s.directory with
      | .called site _ (some rest) d =>
        (⟨d, Function.update s.publishers i (.running request rest)⟩, .called site)
      | .called site _ none d =>
        (⟨d, Function.update s.publishers i (.killed request)⟩, .called site)
      | _ => (s, .ignored)
    | _ => (s, .ignored)

end R1Publishers

end IncidentAwareness.Artifacts
