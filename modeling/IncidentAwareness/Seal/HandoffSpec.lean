import IncidentAwareness.Seal.Handoff
import IncidentAwareness.Seal.PositionProofSpec

/-!
# Restarting a position handoff

* `Layout`: what a sequence of runs leaves: an output is absent, torn or issued from the
  outputs before it (`wp_issueHandoff`);
* `keeps_issueHandoff`: an output that is not torn never changes;
* `handoff_restartable`: an uninterrupted run succeeds exactly where no output is torn and the
  clock admits the missing ones, and ends as a run that was never stopped.
-/

namespace IncidentAwareness.Seal

open IncidentAwareness.Common IncidentAwareness.Lib IncidentAwareness.Stream
open IncidentAwareness.Position

variable {D : Type}

/-! ## Calls -/

section Calls

theorem wp_compute {α : Type} {x : Except HandoffError α} {Q : α → Outputs D → Prop}
    {R : Stop HandoffError → Outputs D → Prop} {files : Outputs D} :
    wp (compute x) Q R files ↔
      (∀ a, x = .ok a → Q a files) ∧ ∀ e, x = .error e → R (.raised e) files := by
  rw [compute, wp_reads]
  cases x with
  | ok a => simp [Except.mapError]
  | error e => simp [Except.mapError]

/-- A write leaves `content` under a name, and every other file as it was. -/
def Wrote (files files' : Outputs D) (name : String) (content : Option (OutputContent D)) : Prop :=
  ∀ p, files'.read p = if p = [name] then content else files.read p

/-- A write that stops leaves the file absent, torn or written. -/
def Stopped (files files' : Outputs D) (name : String) (content : OutputContent D) : Prop :=
  ∃ left, (left = none ∨ left = some .torn ∨ left = some content) ∧ Wrote files files' name left

theorem wp_writeOutput {opening writing : Fault HandoffError} {name : String}
    {content : OutputContent D} {Q : Unit → Outputs D → Prop}
    {R : Stop HandoffError → Outputs D → Prop} {files : Outputs D} (h : files.read [name] = none)
    (hQ : ∀ files', Wrote files files' name (some content) → Q () files')
    (hR : ∀ stop files', ¬ (opening = .none ∧ writing = .none) →
      Stopped files files' name content → R stop files') :
    wp (writeOutput opening writing name content) Q R files := by
  have hfault : ∀ (fault : Fault HandoffError) applied stop, fault.Interrupts applied stop →
      fault ≠ .none := by
    rintro fault applied stop (⟨e, rfl, -⟩ | ⟨rfl, -⟩) <;> exact fun hf => nomatch hf
  have habsent : Wrote files files name none := by
    intro p
    by_cases hp : p = [name]
    · rw [if_pos hp, hp, h]
    · rw [if_neg hp]
  have htorn : Wrote files (files.write [name] .torn) name (some .torn) :=
    fun p => Files.read_write files [name] p .torn
  have hwritten : Wrote files ((files.write [name] .torn).write [name] content) name
      (some content) := by
    intro p
    rw [Files.read_write, Files.read_write]
    by_cases hp : p = [name]
    · rw [if_pos hp, if_pos hp]
    · rw [if_neg hp, if_neg hp, if_neg hp]
  have hcreate : (createExclusive name).run files = .ok () (files.write [name] .torn) := by
    show createExclusive name files = _
    rw [createExclusive, h]
  rw [writeOutput, wp_bind]
  refine wp_call ?_ (fun stop hs => ?_) fun stop hs => ?_
  · rw [wp_of_ok hcreate]
    refine wp_call ?_ (fun stop hs => ?_) fun stop hs => ?_
    · exact hQ _ hwritten
    · exact hR stop _ (fun hn => hfault _ _ _ hs hn.2) ⟨_, .inr (.inl rfl), htorn⟩
    · exact hR stop _ (fun hn => hfault _ _ _ hs hn.2) ⟨_, .inr (.inr rfl), hwritten⟩
  · exact hR stop _ (fun hn => hfault _ _ _ hs hn.1) ⟨_, .inl rfl, habsent⟩
  · rw [wp_of_ok hcreate]
    exact hR stop _ (fun hn => hfault _ _ _ hs hn.1) ⟨_, .inr (.inl rfl), htorn⟩

theorem wp_writeMissing {opening writing : Fault HandoffError} {name : String}
    {content : OutputContent D} {Q : Unit → Outputs D → Prop}
    {R : Stop HandoffError → Outputs D → Prop} {files : Outputs D}
    (hpresent : ∀ c, files.read [name] = some c → c = content)
    (hQ : ∀ files', Wrote files files' name (some content) → Q () files')
    (hR : ∀ stop files', files.read [name] = none → ¬ (opening = .none ∧ writing = .none) →
      Stopped files files' name content → R stop files') :
    wp (writeMissing (files.read [name]).isSome opening writing name content) Q R files := by
  cases hread : files.read [name] with
  | none => exact wp_writeOutput hread hQ fun stop files' => hR stop files' hread
  | some c =>
    obtain rfl := hpresent c hread
    refine hQ files fun p => ?_
    by_cases hp : p = [name]
    · rw [if_pos hp, hp, hread]
    · rw [if_neg hp]

/-- A file that is there and not torn. -/
def HasOutput (p : Path) (content : OutputContent D) (files : Outputs D) : Prop :=
  files.read p = some content

theorem keeps_compute {I : Outputs D → Prop} {α : Type} (x : Except HandoffError α) :
    Keeps I (compute x : Handoff D α) := keeps_reads _

/-- A write changes no file that is there. -/
theorem keeps_writeOutput (opening writing : Fault HandoffError) (name : String)
    (written : OutputContent D) (p : Path) (content : OutputContent D) :
    Keeps (HasOutput p content) (writeOutput opening writing name written) := by
  intro files h
  cases hread : files.read [name] with
  | none =>
    have hne : p ≠ [name] := by
      rintro rfl
      rw [HasOutput, hread] at h
      cases h
    refine wp_writeOutput hread (fun files' hw => ?_) fun stop files' _ hs => ?_
    · rw [HasOutput, hw p, if_neg hne]
      exact h
    · obtain ⟨left, -, hw⟩ := hs
      rw [HasOutput, hw p, if_neg hne]
      exact h
  | some existing =>
    have hcreate : (createExclusive name).run files =
        .error (.raised (.fileExistsError name)) files := by
      show createExclusive name files = _
      rw [createExclusive, hread]
    have hkept : wp (createExclusive name) (fun _ _ => False) (fun _ => HasOutput p content) files :=
      (wp_of_error hcreate).mpr h
    rw [writeOutput, wp_bind]
    refine wp_call ?_ (fun _ _ => h) fun _ _ => ?_
    · exact wp_mono hkept (fun _ _ hf => hf.elim) fun _ _ h' => h'
    · exact wp_mono hkept (fun _ _ hf => hf.elim) fun _ _ h' => h'

theorem keeps_writeMissing (present : Bool) (opening writing : Fault HandoffError) (name : String)
    (written : OutputContent D) (p : Path) (content : OutputContent D) :
    Keeps (HasOutput p content) (writeMissing present opening writing name written) := by
  cases present with
  | true => exact keeps_pure ()
  | false => exact keeps_writeOutput opening writing name written p content

end Calls

/-! ## What a run issues -/

section Issued

variable [DecidableEq D] {casefold : String → String} {sha256 : PositionSealPayload D → D}
  {inputs : HandoffInputs D}

theorem utcMilliseconds_utcMillis (t : UtcMillis) :
    utcMilliseconds (PyDatetime.utcMillis t) = .ok t := by
  rw [PyDatetime.utcMillis, utcMilliseconds, Int.mul_ediv_cancel t (by decide)]

/-- A seal that is issued at its own time. -/
def SealIssued (casefold : String → String) (sha256 : PositionSealPayload D → D)
    (inputs : HandoffInputs D) (source : R1PositionCandidateGenerationSeal D) : Prop :=
  issueSealAt casefold sha256 inputs (PyDatetime.utcMillis source.emittedAt) = .ok source

theorem issueSealAt_eq_ok {clock : PyDatetime} {source : R1PositionCandidateGenerationSeal D} :
    issueSealAt casefold sha256 inputs clock = .ok source ↔
      utcMilliseconds clock = .ok source.emittedAt ∧ SealIssued casefold sha256 inputs source := by
  constructor
  · intro h
    obtain ⟨t, ht, h₁⟩ := Except.bind_eq_ok.mp h
    obtain ⟨⟨-, -, -, hemitted⟩, -⟩ := issuePositionSeal_eq_ok h₁
    obtain rfl := PyDatetime.utcMillis_inj hemitted
    exact ⟨ht, Except.bind_eq_ok.mpr ⟨_, utcMilliseconds_utcMillis _, h₁⟩⟩
  · rintro ⟨ht, h⟩
    obtain ⟨t, ht', h₁⟩ := Except.bind_eq_ok.mp h
    obtain rfl := Except.ok.inj ((utcMilliseconds_utcMillis _).symm.trans ht')
    exact Except.bind_eq_ok.mpr ⟨_, ht, h₁⟩

section Seal

variable {source : R1PositionCandidateGenerationSeal D}
  (h : SealIssued casefold sha256 inputs source)

include h

theorem SealIssued.values :
    source.sealId.val = sealIdFor inputs.expected.runId ∧ source.boundary = inputs.boundary := by
  obtain ⟨t, -, h₁⟩ := Except.bind_eq_ok.mp h
  obtain ⟨⟨hsealId, -, hboundary, -⟩, -⟩ := issuePositionSeal_eq_ok h₁
  exact ⟨hsealId, hboundary⟩

theorem SealIssued.verified :
    verifySeal casefold sha256 inputs source = .ok (positionBoundaryOf source) ∧
      PositionReceiptBinds sha256 inputs.receipt inputs.close ∧
      PositionSealBinds sha256 source inputs.close inputs.receipt inputs.policy := by
  obtain ⟨t, -, h₁⟩ := Except.bind_eq_ok.mp h
  obtain ⟨-, boundary, hbinding⟩ := issuePositionSeal_eq_ok h₁
  obtain ⟨rfl, hreceipt, hbinds⟩ := validatePositionSealBinding_eq_ok hbinding
  refine ⟨?_, hreceipt, hbinds⟩
  rw [verifySeal, raiseIf_of_not (not_not.mpr h.values.2), Except.ok_bind', hbinding]
  rfl

theorem SealIssued.hostId : source.sealedPartition.hostId.val = inputs.expected.hostId := by
  rw [h.verified.2.2.partition, inputs.close_partition, inputs.partition_hostId]

theorem SealIssued.runId : source.runId.val = inputs.expected.runId := by
  rw [h.verified.2.2.runId, inputs.close_runId]

/-- What the handoff expects of the proof is what Role2 expects over the seal. -/
theorem SealIssued.expectation (trusted : R1PositionSealProjectionRecord D) :
    handoffExpectation sha256 inputs source trusted =
      positionExpectationOf sha256 source inputs.close trusted := by
  have hfamily : source.familyId.val.val = inputs.expected.familyId := by
    rw [h.verified.2.2.familyId, inputs.policy_familyId]
  rw [handoffExpectation, positionExpectationOf, h.runId, hfamily, inputs.close_partition]

theorem SealIssued.verifyProjectionRecord {t : UtcMillis} (ht : source.emittedAt ≤ t) :
    verifyProjectionRecord sha256 inputs (projectionRecordOf sha256 source t) source = .ok () := by
  have hnames : ((projectionRecordOf sha256 source t).sealId,
      (projectionRecordOf sha256 source t).runId,
      (projectionRecordOf sha256 source t).hostId.val) =
      (source.sealId, source.runId.val, inputs.expected.hostId) := by
    rw [← h.hostId]
    rfl
  have hseal : (projectionRecordOf sha256 source t).sealContentSha256 =
      positionSealSha256 sha256 source := rfl
  have hdigest : role2SafePositionSealProjectionSha256 sha256 source inputs.expected.hostId =
      .ok (projectionRecordOf sha256 source t).projectionSha256 :=
    role2SafePositionSealProjectionSha256_eq_ok.mpr ⟨h.hostId.symm, rfl⟩
  rw [Seal.verifyProjectionRecord, raiseIf_of_not (not_not.mpr hnames), Except.ok_bind',
    raiseIf_of_not (not_not.mpr hseal), Except.ok_bind', hdigest]
  show (do raiseIf _ _; raiseIf _ _) = _
  rw [raiseIf_of_not (not_not.mpr rfl), Except.ok_bind']
  exact raiseIf_of_not (not_lt.mpr ht)

theorem SealIssued.issueRecordAt_eq_ok {clock : PyDatetime}
    {record : R1PositionSealProjectionRecord D} :
    issueRecordAt sha256 inputs clock source (positionBoundaryOf source) = .ok record ↔
      ∃ t, utcMilliseconds clock = .ok t ∧ source.emittedAt ≤ t ∧
        record = projectionRecordOf sha256 source t := by
  rw [issueRecordAt, Except.bind_eq_ok]
  constructor
  · rintro ⟨t, ht, hrecord⟩
    obtain ⟨-, -, t', hsame, hemitted, rfl⟩ := issueProjectionRecord_eq_ok.mp hrecord
    obtain rfl := PyDatetime.utcMillis_inj hsame
    exact ⟨t, ht, hemitted, rfl⟩
  · rintro ⟨t, ht, hemitted, rfl⟩
    exact ⟨t, ht, issueProjectionRecord_eq_ok.mpr ⟨rfl, h.hostId.symm, t, rfl, hemitted, rfl⟩⟩

end Seal

/-- A proof that is issued at its own time, over a seal and its record of a time. -/
def ProofIssued (sha256 : PositionSealPayload D → D) (inputs : HandoffInputs D)
    (source : R1PositionCandidateGenerationSeal D) (recorded : UtcMillis)
    (proof : R1Role2VerifiedPositionCloseProof D) : Prop :=
  issueProofAt sha256 inputs (PyDatetime.utcMillis proof.proofCreatedAt) source
    (positionBoundaryOf source) (projectionRecordOf sha256 source recorded) = .ok proof

theorem issueProofAt_eq_ok {clock : PyDatetime} {source : R1PositionCandidateGenerationSeal D}
    {recorded : UtcMillis} {proof : R1Role2VerifiedPositionCloseProof D} :
    issueProofAt sha256 inputs clock source (positionBoundaryOf source)
        (projectionRecordOf sha256 source recorded) = .ok proof ↔
      utcMilliseconds clock = .ok proof.proofCreatedAt ∧
        ProofIssued sha256 inputs source recorded proof := by
  constructor
  · intro h
    obtain ⟨t, ht, h₁⟩ := Except.bind_eq_ok.mp h
    obtain ⟨id, t', -, hsame, hcontent, -⟩ := issuePositionProof_eq_ok h₁
    obtain rfl := PyDatetime.utcMillis_inj hsame
    have hcreated : proof.proofCreatedAt = t := by rw [hcontent]; rfl
    refine ⟨hcreated ▸ ht, ?_⟩
    rw [ProofIssued, hcreated]
    exact Except.bind_eq_ok.mpr ⟨_, utcMilliseconds_utcMillis _, h₁⟩
  · rintro ⟨ht, h⟩
    obtain ⟨t, ht', h₁⟩ := Except.bind_eq_ok.mp h
    obtain rfl := Except.ok.inj ((utcMilliseconds_utcMillis _).symm.trans ht')
    exact Except.bind_eq_ok.mpr ⟨_, ht, h₁⟩

omit [DecidableEq D] in
/-- The proof id of a Run is an identifier. -/
theorem exists_proofId (inputs : HandoffInputs D) :
    ∃ id : Identifier, id.val = proofIdFor inputs.expected.runId := by
  have hspace : ∀ c ∈ (proofIdFor inputs.expected.runId).toList, isSpace c = false := by
    have hhead : "PROOF-".toList.all (fun c => !isSpace c) = true := by decide
    have htail : "-position-000001".toList.all (fun c => !isSpace c) = true := by decide
    simp only [List.all_eq_true, Bool.not_eq_true'] at hhead htail
    intro c hc
    rw [← inputs.close_runId, proofIdFor, String.toList_append, String.toList_append] at hc
    rcases List.mem_append.mp hc with hc | hc
    · rcases List.mem_append.mp hc with hc | hc
      · exact hhead c hc
      · exact runId_no_space _ c hc
    · exact htail c hc
  have hne : proofIdFor inputs.expected.runId ≠ "" := by
    intro h
    have hlength := congrArg (fun s => s.toList.length) h
    simp [proofIdFor] at hlength
  exact ⟨⟨_, hne, not_isPadded_of_no_space hspace⟩, rfl⟩

/-- A proof is issued at every reading from the seal's time on. -/
theorem SealIssued.exists_proof {source : R1PositionCandidateGenerationSeal D}
    (h : SealIssued casefold sha256 inputs source) {recorded created : UtcMillis}
    (hrecorded : source.emittedAt ≤ recorded) (hcreated : source.emittedAt ≤ created)
    {clock : PyDatetime} (hclock : utcMilliseconds clock = .ok created) :
    ∃ proof, issueProofAt sha256 inputs clock source (positionBoundaryOf source)
      (projectionRecordOf sha256 source recorded) = .ok proof := by
  obtain ⟨id, hid⟩ := exists_proofId inputs
  obtain ⟨-, hreceipt, hbinds⟩ := h.verified
  obtain ⟨proof, hproof⟩ := exists_issuePositionProof hreceipt hbinds id hrecorded hcreated
  rw [hid, h.hostId] at hproof
  exact ⟨proof, Except.bind_eq_ok.mpr ⟨created, hclock, hproof⟩⟩

/-- An issued proof has the id of its Run, follows its seal and validates at its creation. -/
theorem SealIssued.proof_checks {source : R1PositionCandidateGenerationSeal D}
    (h : SealIssued casefold sha256 inputs source) {recorded : UtcMillis}
    {proof : R1Role2VerifiedPositionCloseProof D}
    (hproof : ProofIssued sha256 inputs source recorded proof) :
    proof.proofId.val = proofIdFor inputs.expected.runId ∧
      source.emittedAt ≤ proof.proofCreatedAt ∧
      validatePositionProof sha256 proof inputs.close inputs.receipt inputs.policy
        (handoffExpectation sha256 inputs source (projectionRecordOf sha256 source recorded))
        (PyDatetime.utcMillis proof.proofCreatedAt) = .ok ⟨proof, proof.proofCreatedAt⟩ := by
  obtain ⟨t, -, h₁⟩ := Except.bind_eq_ok.mp hproof
  obtain ⟨id, t', hid, -, hcontent, -⟩ := issuePositionProof_eq_ok h₁
  obtain ⟨-, hreceipt, hbinds⟩ := h.verified
  have hchecks := positionChecks_of_issued hreceipt hbinds h₁
  have hverified : proof.verifiedSealAt = source.emittedAt := by rw [hcontent]; rfl
  refine ⟨by rw [hcontent]; exact hid, hverified ▸ proof.verified_le_created, ?_⟩
  rw [h.expectation]
  exact validatePositionProof_eq_ok.mpr ⟨hchecks, _, rfl, le_rfl, rfl⟩

end Issued

/-! ## Outputs that stay -/

section Stays

variable [DecidableEq D] {casefold : String → String} {sha256 : PositionSealPayload D → D}
  {inputs : HandoffInputs D}

/-- No run changes an output that is there. -/
theorem keeps_issueHandoff (run : HandoffRun) (p : Path) (content : OutputContent D) :
    Keeps (HasOutput p content) (issueHandoff casefold sha256 inputs run) := by
  refine keeps_bind (keeps_call (keeps_pure ())) fun _ => keeps_bind keeps_get fun files => ?_
  refine keeps_bind ?_ fun handed => keeps_bind ?_ fun trusted => keeps_bind ?_ fun proof =>
    keeps_pure _
  · refine keeps_bind keeps_get fun files => keeps_bind (keeps_compute _) fun handed => ?_
    exact keeps_bind (keeps_writeMissing _ _ _ _ _ p content) fun _ => keeps_pure _
  · refine keeps_bind keeps_get fun files => keeps_bind (keeps_compute _) fun record => ?_
    refine keeps_bind (keeps_writeMissing _ _ _ _ _ p content) fun _ => ?_
    refine keeps_bind keeps_get fun files => keeps_bind (keeps_compute _) fun trusted => ?_
    exact keeps_bind (keeps_compute _) fun _ => keeps_pure _
  · refine keeps_bind keeps_get fun files => keeps_bind (keeps_compute _) fun proof => ?_
    exact keeps_bind (keeps_writeMissing _ _ _ _ _ p content) fun _ => keeps_pure _

end Stays

/-! ## The outputs of a sequence of runs -/

section Runs

variable [DecidableEq D] {casefold : String → String} {sha256 : PositionSealPayload D → D}
  {inputs : HandoffInputs D}

/-- Nothing stops the run. -/
structure HandoffRun.Uninterrupted (run : HandoffRun) : Prop where
  start : run.start = .none
  sealOpen : run.sealOpen = .none
  sealWrite : run.sealWrite = .none
  recordOpen : run.recordOpen = .none
  recordWrite : run.recordWrite = .none
  proofOpen : run.proofOpen = .none
  proofWrite : run.proofWrite = .none

/-- The seal of the outputs, or of a run without one. -/
def SealFrom (casefold : String → String) (sha256 : PositionSealPayload D → D)
    (inputs : HandoffInputs D) (clock : PyDatetime) (content : Option (OutputContent D))
    (source : R1PositionCandidateGenerationSeal D) : Prop :=
  SealIssued casefold sha256 inputs source ∧ (content = some (.positionSeal source) ∨
    content = none ∧ utcMilliseconds clock = .ok source.emittedAt)

/-- The time of the projection record of the outputs, or of a run without one. -/
def RecordFrom (sha256 : PositionSealPayload D → D) (clock : PyDatetime)
    (content : Option (OutputContent D)) (source : R1PositionCandidateGenerationSeal D)
    (recorded : UtcMillis) : Prop :=
  source.emittedAt ≤ recorded ∧
    (content = some (.projectionRecord (projectionRecordOf sha256 source recorded)) ∨
      content = none ∧ utcMilliseconds clock = .ok recorded)

/-- The proof of the outputs, or of a run without one. -/
def ProofFrom (sha256 : PositionSealPayload D → D) (inputs : HandoffInputs D) (clock : PyDatetime)
    (content : Option (OutputContent D)) (source : R1PositionCandidateGenerationSeal D)
    (recorded : UtcMillis) (proof : R1Role2VerifiedPositionCloseProof D) : Prop :=
  ProofIssued sha256 inputs source recorded proof ∧ (content = some (.closeProof proof) ∨
    content = none ∧ utcMilliseconds clock = .ok proof.proofCreatedAt)

/-- Every output is absent, torn or issued from the outputs before it. -/
structure Layout (casefold : String → String) (sha256 : PositionSealPayload D → D)
    (inputs : HandoffInputs D) (files : Outputs D) : Prop where
  sealed : ∀ c, files.read [sealFilename] = some c → c = .torn ∨ ∃ source,
    SealIssued casefold sha256 inputs source ∧ c = .positionSeal source
  recorded : ∀ c, files.read [projectionRecordFilename] = some c → ∃ source,
    SealIssued casefold sha256 inputs source ∧
    files.read [sealFilename] = some (.positionSeal source) ∧
    (c = .torn ∨ ∃ t, source.emittedAt ≤ t ∧
      c = .projectionRecord (projectionRecordOf sha256 source t))
  proved : ∀ c, files.read [proofFilename] = some c → ∃ source t,
    SealIssued casefold sha256 inputs source ∧
    files.read [sealFilename] = some (.positionSeal source) ∧ source.emittedAt ≤ t ∧
    files.read [projectionRecordFilename] =
      some (.projectionRecord (projectionRecordOf sha256 source t)) ∧
    (c = .torn ∨ ∃ proof, ProofIssued sha256 inputs source t proof ∧ c = .closeProof proof)

theorem sealOf_eq_ok {clock : PyDatetime} {content : Option (OutputContent D)}
    (hcontent : ∀ c, content = some c → c = .torn ∨ ∃ source,
      SealIssued casefold sha256 inputs source ∧ c = .positionSeal source)
    {x : R1PositionCandidateGenerationSeal D × R1VerifiedPositionCandidateBoundary} :
    sealOf casefold sha256 inputs clock content = .ok x ↔
      SealFrom casefold sha256 inputs clock content x.1 ∧ x.2 = positionBoundaryOf x.1 := by
  have hpresent : ∀ source, presentSeal casefold sha256 inputs clock content = .ok source ↔
      SealFrom casefold sha256 inputs clock content source := by
    intro source
    cases content with
    | none =>
      have habsent : presentSeal casefold sha256 inputs clock none =
        (issueSealAt casefold sha256 inputs clock).mapError .python := rfl
      rw [habsent, Except.mapError_eq_ok, issueSealAt_eq_ok, SealFrom]
      simp [and_comm]
    | some c =>
      rcases hcontent c rfl with rfl | ⟨source', hissued, rfl⟩
      · simp [presentSeal, loadExisting, OutputContent.asSeal, SealFrom]
      · have hload : presentSeal casefold sha256 inputs clock (some (.positionSeal source')) =
          .ok source' := rfl
        rw [hload, SealFrom]
        constructor
        · rintro ⟨⟩
          exact ⟨hissued, .inl rfl⟩
        · rintro ⟨-, hsame | ⟨hnone, -⟩⟩
          · rw [OutputContent.positionSeal.inj (Option.some.inj hsame)]
          · cases hnone
  rw [sealOf, Except.bind_eq_ok]
  constructor
  · rintro ⟨source, hsource, h₁⟩
    have hfrom := (hpresent source).mp hsource
    obtain ⟨-, h₂⟩ := raiseIf_bind_eq_ok.mp h₁
    rw [hfrom.1.verified.1, Except.ok_bind'] at h₂
    obtain rfl := Except.pure_eq_ok.mp h₂
    exact ⟨hfrom, rfl⟩
  · rintro ⟨hfrom, hboundary⟩
    refine ⟨x.1, (hpresent x.1).mpr hfrom, ?_⟩
    rw [raiseIf_of_not (not_not.mpr hfrom.1.values.1), Except.ok_bind', hfrom.1.verified.1,
      Except.ok_bind', ← hboundary]
    rfl

theorem SealIssued.presentRecord_eq_ok {source : R1PositionCandidateGenerationSeal D}
    (h : SealIssued casefold sha256 inputs source) {clock : PyDatetime}
    {content : Option (OutputContent D)}
    (hcontent : ∀ c, content = some c → c = .torn ∨ ∃ t, source.emittedAt ≤ t ∧
      c = .projectionRecord (projectionRecordOf sha256 source t))
    {record : R1PositionSealProjectionRecord D} :
    presentRecord sha256 inputs clock source (positionBoundaryOf source) content = .ok record ↔
      ∃ t, RecordFrom sha256 clock content source t ∧ record = projectionRecordOf sha256 source t := by
  cases content with
  | none =>
    have habsent : presentRecord sha256 inputs clock source (positionBoundaryOf source) none =
      (issueRecordAt sha256 inputs clock source (positionBoundaryOf source)).mapError .python := rfl
    rw [habsent, Except.mapError_eq_ok, h.issueRecordAt_eq_ok]
    constructor
    · rintro ⟨t, ht, hemitted, rfl⟩
      exact ⟨t, ⟨hemitted, .inr ⟨rfl, ht⟩⟩, rfl⟩
    · rintro ⟨t, ⟨hemitted, hnone | ⟨-, ht⟩⟩, rfl⟩
      · cases hnone
      · exact ⟨t, ht, hemitted, rfl⟩
  | some c =>
    rcases hcontent c rfl with rfl | ⟨t, hemitted, rfl⟩
    · simp [presentRecord, loadExisting, OutputContent.asRecord, RecordFrom]
    · have hload : presentRecord sha256 inputs clock source (positionBoundaryOf source)
        (some (.projectionRecord (projectionRecordOf sha256 source t))) =
        .ok (projectionRecordOf sha256 source t) := rfl
      rw [hload]
      constructor
      · rintro ⟨⟩
        exact ⟨t, ⟨hemitted, .inl rfl⟩, rfl⟩
      · rintro ⟨t', ⟨-, hsame | ⟨hnone, -⟩⟩, rfl⟩
        · rw [OutputContent.projectionRecord.inj (Option.some.inj hsame)]
        · cases hnone

theorem SealIssued.proofOf_eq_ok {source : R1PositionCandidateGenerationSeal D}
    (h : SealIssued casefold sha256 inputs source) {clock : PyDatetime} {recorded : UtcMillis}
    {content : Option (OutputContent D)}
    (hcontent : ∀ c, content = some c → c = .torn ∨ ∃ proof,
      ProofIssued sha256 inputs source recorded proof ∧ c = .closeProof proof)
    {proof : R1Role2VerifiedPositionCloseProof D} :
    proofOf sha256 inputs clock source (positionBoundaryOf source)
        (projectionRecordOf sha256 source recorded) content = .ok proof ↔
      ProofFrom sha256 inputs clock content source recorded proof := by
  have hpresent : ∀ proof, presentProof sha256 inputs clock source (positionBoundaryOf source)
      (projectionRecordOf sha256 source recorded) content = .ok proof ↔
      ProofFrom sha256 inputs clock content source recorded proof := by
    intro proof
    cases content with
    | none =>
      have habsent : presentProof sha256 inputs clock source (positionBoundaryOf source)
        (projectionRecordOf sha256 source recorded) none = (issueProofAt sha256 inputs clock source
          (positionBoundaryOf source) (projectionRecordOf sha256 source recorded)).mapError
            .python := rfl
      rw [habsent, Except.mapError_eq_ok, issueProofAt_eq_ok, ProofFrom]
      simp [and_comm]
    | some c =>
      rcases hcontent c rfl with rfl | ⟨proof', hissued, rfl⟩
      · simp [presentProof, loadExisting, OutputContent.asProof, ProofFrom]
      · have hload : presentProof sha256 inputs clock source (positionBoundaryOf source)
          (projectionRecordOf sha256 source recorded) (some (.closeProof proof')) = .ok proof' := rfl
        rw [hload, ProofFrom]
        constructor
        · rintro ⟨⟩
          exact ⟨hissued, .inl rfl⟩
        · rintro ⟨-, hsame | ⟨hnone, -⟩⟩
          · rw [OutputContent.closeProof.inj (Option.some.inj hsame)]
          · cases hnone
  rw [proofOf, Except.bind_eq_ok]
  constructor
  · rintro ⟨proof', hproof', h₁⟩
    obtain ⟨-, h₂⟩ := raiseIf_bind_eq_ok.mp h₁
    obtain ⟨_, -, h₃⟩ := Except.bind_eq_ok.mp h₂
    obtain rfl := Except.pure_eq_ok.mp h₃
    exact (hpresent proof).mp hproof'
  · intro hfrom
    obtain ⟨hid, -, hvalid⟩ := h.proof_checks hfrom.1
    refine ⟨proof, (hpresent proof).mpr hfrom, ?_⟩
    rw [raiseIf_of_not (not_not.mpr hid), Except.ok_bind', hvalid]
    rfl

/-! ### The steps -/

/-- The names of the outputs differ. -/
theorem filenames_ne : [projectionRecordFilename] ≠ [sealFilename] ∧
    [proofFilename] ≠ [sealFilename] ∧ [proofFilename] ≠ [projectionRecordFilename] := by decide

omit [DecidableEq D] in
/-- Writing what is there changes nothing. -/
theorem Wrote.same {files files' : Outputs D} {name : String} {content : Option (OutputContent D)}
    (hw : Wrote files files' name content) (h : files.read [name] = content) :
    ∀ p, files'.read p = files.read p := by
  intro p
  rw [hw p]
  by_cases hp : p = [name]
  · rw [if_pos hp, hp, h]
  · rw [if_neg hp]

section Layout

variable {files files' : Outputs D} (h : Layout casefold sha256 inputs files)

include h

theorem Layout.congr (hsame : ∀ p, files'.read p = files.read p) :
    Layout casefold sha256 inputs files' := by
  refine ⟨fun c hc => ?_, fun c hc => ?_, fun c hc => ?_⟩
  · exact h.sealed c (hsame _ ▸ hc)
  · rw [hsame]
    exact h.recorded c (hsame _ ▸ hc)
  · rw [hsame, hsame]
    exact h.proved c (hsame _ ▸ hc)

/-- Nothing stands after a seal that is absent. -/
theorem Layout.absent_of_seal (hseal : files.read [sealFilename] = none) :
    files.read [projectionRecordFilename] = none ∧ files.read [proofFilename] = none := by
  refine ⟨Option.eq_none_iff_forall_ne_some.mpr fun c hc => ?_,
    Option.eq_none_iff_forall_ne_some.mpr fun c hc => ?_⟩
  · obtain ⟨source, -, hsource, -⟩ := h.recorded c hc
    rw [hseal] at hsource
    cases hsource
  · obtain ⟨source, t, -, hsource, -⟩ := h.proved c hc
    rw [hseal] at hsource
    cases hsource

/-- No proof stands after a projection record that is absent. -/
theorem Layout.absent_of_record (hrecord : files.read [projectionRecordFilename] = none) :
    files.read [proofFilename] = none := by
  refine Option.eq_none_iff_forall_ne_some.mpr fun c hc => ?_
  obtain ⟨source, t, -, -, -, hsource, -⟩ := h.proved c hc
  rw [hrecord] at hsource
  cases hsource

theorem Layout.wrote_seal {source : R1PositionCandidateGenerationSeal D}
    (hissued : SealIssued casefold sha256 inputs source)
    (hseal : files.read [sealFilename] = none) {left : Option (OutputContent D)}
    (hleft : left = none ∨ left = some .torn ∨ left = some (.positionSeal source))
    (hw : Wrote files files' sealFilename left) : Layout casefold sha256 inputs files' := by
  obtain ⟨hrecord, hproof⟩ := h.absent_of_seal hseal
  refine ⟨fun c hc => ?_, fun c hc => ?_, fun c hc => ?_⟩
  · rw [hw, if_pos rfl] at hc
    rcases hleft with rfl | rfl | rfl
    · cases hc
    · exact .inl (Option.some.inj hc).symm
    · exact .inr ⟨source, hissued, (Option.some.inj hc).symm⟩
  · rw [hw, if_neg filenames_ne.1, hrecord] at hc
    cases hc
  · rw [hw, if_neg filenames_ne.2.1, hproof] at hc
    cases hc

theorem Layout.wrote_record {source : R1PositionCandidateGenerationSeal D}
    (hissued : SealIssued casefold sha256 inputs source)
    (hseal : files.read [sealFilename] = some (.positionSeal source)) {t : UtcMillis}
    (ht : source.emittedAt ≤ t) (hrecord : files.read [projectionRecordFilename] = none)
    {left : Option (OutputContent D)} (hleft : left = none ∨ left = some .torn ∨
      left = some (.projectionRecord (projectionRecordOf sha256 source t)))
    (hw : Wrote files files' projectionRecordFilename left) :
    Layout casefold sha256 inputs files' := by
  have hseal' : files'.read [sealFilename] = some (.positionSeal source) := by
    rw [hw, if_neg filenames_ne.1.symm, hseal]
  have hproof := h.absent_of_record hrecord
  refine ⟨fun c hc => ?_, fun c hc => ?_, fun c hc => ?_⟩
  · exact .inr ⟨source, hissued, Option.some.inj (hc.symm.trans hseal')⟩
  · refine ⟨source, hissued, hseal', ?_⟩
    rw [hw, if_pos rfl] at hc
    rcases hleft with rfl | rfl | rfl
    · cases hc
    · exact .inl (Option.some.inj hc).symm
    · exact .inr ⟨t, ht, (Option.some.inj hc).symm⟩
  · rw [hw, if_neg filenames_ne.2.2, hproof] at hc
    cases hc

omit h in
theorem Layout.of_wrote_proof {source : R1PositionCandidateGenerationSeal D}
    (hissued : SealIssued casefold sha256 inputs source)
    (hseal : files.read [sealFilename] = some (.positionSeal source)) {t : UtcMillis}
    (ht : source.emittedAt ≤ t) (hrecord : files.read [projectionRecordFilename] =
      some (.projectionRecord (projectionRecordOf sha256 source t)))
    {proof : R1Role2VerifiedPositionCloseProof D} (hproof : ProofIssued sha256 inputs source t proof)
    {left : Option (OutputContent D)}
    (hleft : left = none ∨ left = some .torn ∨ left = some (.closeProof proof))
    (hw : Wrote files files' proofFilename left) : Layout casefold sha256 inputs files' := by
  have hseal' : files'.read [sealFilename] = some (.positionSeal source) := by
    rw [hw, if_neg filenames_ne.2.1.symm, hseal]
  have hrecord' : files'.read [projectionRecordFilename] =
      some (.projectionRecord (projectionRecordOf sha256 source t)) := by
    rw [hw, if_neg filenames_ne.2.2.symm, hrecord]
  refine ⟨fun c hc => ?_, fun c hc => ?_, fun c hc => ?_⟩
  · exact .inr ⟨source, hissued, Option.some.inj (hc.symm.trans hseal')⟩
  · exact ⟨source, hissued, hseal', .inr ⟨t, ht, Option.some.inj (hc.symm.trans hrecord')⟩⟩
  · refine ⟨source, t, hissued, hseal', ht, hrecord', ?_⟩
    rw [hw, if_pos rfl] at hc
    rcases hleft with rfl | rfl | rfl
    · cases hc
    · exact .inl (Option.some.inj hc).symm
    · exact .inr ⟨proof, hproof, (Option.some.inj hc).symm⟩

variable (run : HandoffRun)

theorem wp_handoffSeal :
    wp (handoffSeal casefold sha256 inputs run)
      (fun x files' => SealFrom casefold sha256 inputs run.sealClock (files.read [sealFilename]) x.1 ∧
        x.2 = positionBoundaryOf x.1 ∧
        Wrote files files' sealFilename (some (.positionSeal x.1)) ∧
        Layout casefold sha256 inputs files')
      (fun _ files' => Layout casefold sha256 inputs files' ∧ (run.Uninterrupted →
        ∀ source, ¬ SealFrom casefold sha256 inputs run.sealClock (files.read [sealFilename]) source))
      files := by
  have hsealOf := @sealOf_eq_ok D _ casefold sha256 inputs run.sealClock
    (files.read [sealFilename]) h.sealed
  rw [handoffSeal, wp_bind, wp_get, wp_bind, wp_compute]
  constructor
  · intro x hx
    obtain ⟨⟨hissued, hfrom⟩, hboundary⟩ := hsealOf.mp hx
    have hpresent : ∀ c, files.read [sealFilename] = some c → c = .positionSeal x.1 := by
      intro c hc
      rcases hfrom with hsome | ⟨hnone, -⟩
      · exact Option.some.inj (hc.symm.trans hsome)
      · rw [hnone] at hc
        cases hc
    rw [wp_bind]
    refine wp_writeMissing hpresent (fun files' hw => ?_) fun stop files' hnone hfault hs => ?_
    · refine ⟨⟨hissued, hfrom⟩, hboundary, hw, ?_⟩
      rcases hfrom with hsome | ⟨hnone, -⟩
      · exact h.congr (hw.same hsome)
      · exact h.wrote_seal hissued hnone (.inr (.inr rfl)) hw
    · obtain ⟨left, hleft, hw⟩ := hs
      exact ⟨h.wrote_seal hissued hnone hleft hw,
        fun hun => absurd ⟨hun.sealOpen, hun.sealWrite⟩ hfault⟩
  · intro e he
    refine ⟨h, fun _ source hsource => ?_⟩
    rw [hsealOf (x := (source, positionBoundaryOf source)) |>.mpr ⟨hsource, rfl⟩] at he
    cases he

theorem wp_handoffRecord {source : R1PositionCandidateGenerationSeal D}
    (hissued : SealIssued casefold sha256 inputs source)
    (hseal : files.read [sealFilename] = some (.positionSeal source)) :
    wp (handoffRecord sha256 inputs run source (positionBoundaryOf source))
      (fun trusted files' => ∃ t,
        RecordFrom sha256 run.recordClock (files.read [projectionRecordFilename]) source t ∧
        trusted = projectionRecordOf sha256 source t ∧
        Wrote files files' projectionRecordFilename (some (.projectionRecord trusted)) ∧
        Layout casefold sha256 inputs files')
      (fun _ files' => Layout casefold sha256 inputs files' ∧ (run.Uninterrupted →
        ∀ t, ¬ RecordFrom sha256 run.recordClock (files.read [projectionRecordFilename]) source t))
      files := by
  have hcontent : ∀ c, files.read [projectionRecordFilename] = some c → c = .torn ∨
      ∃ t, source.emittedAt ≤ t ∧ c = .projectionRecord (projectionRecordOf sha256 source t) := by
    intro c hc
    obtain ⟨source', -, hsource, hrecord⟩ := h.recorded c hc
    obtain rfl := OutputContent.positionSeal.inj (Option.some.inj (hseal.symm.trans hsource))
    exact hrecord
  have hpresentRecord := @SealIssued.presentRecord_eq_ok D _ casefold sha256 inputs source hissued
    run.recordClock _ hcontent
  rw [handoffRecord, wp_bind, wp_get, wp_bind, wp_compute]
  constructor
  · intro record hrecord
    obtain ⟨t, ⟨ht, hfrom⟩, rfl⟩ := hpresentRecord.mp hrecord
    have hpresent : ∀ c, files.read [projectionRecordFilename] = some c →
        c = .projectionRecord (projectionRecordOf sha256 source t) := by
      intro c hc
      rcases hfrom with hsome | ⟨hnone, -⟩
      · exact Option.some.inj (hc.symm.trans hsome)
      · rw [hnone] at hc
        cases hc
    rw [wp_bind]
    refine wp_writeMissing hpresent (fun files' hw => ?_) fun stop files' hnone hfault hs => ?_
    · have hread : files'.read [projectionRecordFilename] =
          some (.projectionRecord (projectionRecordOf sha256 source t)) := by rw [hw, if_pos rfl]
      have hload : loadExisting OutputContent.asRecord projectionRecordFilename
          (files'.read [projectionRecordFilename]) = .ok (projectionRecordOf sha256 source t) := by
        rw [hread]
        rfl
      have hlayout : Layout casefold sha256 inputs files' := by
        rcases hfrom with hsome | ⟨hnone, -⟩
        · exact h.congr (hw.same hsome)
        · exact h.wrote_record hissued hseal ht hnone (.inr (.inr rfl)) hw
      rw [wp_bind, wp_get, wp_bind, wp_compute]
      refine ⟨fun trusted htrusted => ?_, fun e he => ?_⟩
      · obtain rfl := Except.ok.inj (hload.symm.trans htrusted)
        rw [wp_bind, wp_compute, hissued.verifyProjectionRecord ht]
        refine ⟨fun _ _ => ⟨t, ⟨ht, hfrom⟩, rfl, hw, hlayout⟩, fun e he => ?_⟩
        cases he
      · rw [hload] at he
        cases he
    · obtain ⟨left, hleft, hw⟩ := hs
      exact ⟨h.wrote_record hissued hseal ht hnone hleft hw,
        fun hun => absurd ⟨hun.recordOpen, hun.recordWrite⟩ hfault⟩
  · intro e he
    refine ⟨h, fun _ t hfrom => ?_⟩
    rw [hpresentRecord.mpr ⟨t, hfrom, rfl⟩] at he
    cases he

theorem wp_handoffProof {source : R1PositionCandidateGenerationSeal D}
    (hissued : SealIssued casefold sha256 inputs source)
    (hseal : files.read [sealFilename] = some (.positionSeal source)) {t : UtcMillis}
    (ht : source.emittedAt ≤ t) (hrecord : files.read [projectionRecordFilename] =
      some (.projectionRecord (projectionRecordOf sha256 source t))) :
    wp (handoffProof sha256 inputs run source (positionBoundaryOf source)
        (projectionRecordOf sha256 source t))
      (fun proof files' =>
        ProofFrom sha256 inputs run.proofClock (files.read [proofFilename]) source t proof ∧
        Wrote files files' proofFilename (some (.closeProof proof)) ∧
        Layout casefold sha256 inputs files')
      (fun _ files' => Layout casefold sha256 inputs files' ∧ (run.Uninterrupted →
        ∀ proof, ¬ ProofFrom sha256 inputs run.proofClock (files.read [proofFilename]) source t proof))
      files := by
  have hcontent : ∀ c, files.read [proofFilename] = some c → c = .torn ∨
      ∃ proof, ProofIssued sha256 inputs source t proof ∧ c = .closeProof proof := by
    intro c hc
    obtain ⟨source', t', -, hsource, -, hrecord', hproof⟩ := h.proved c hc
    obtain rfl := OutputContent.positionSeal.inj (Option.some.inj (hseal.symm.trans hsource))
    have hsame := OutputContent.projectionRecord.inj (Option.some.inj (hrecord.symm.trans hrecord'))
    obtain rfl : t = t' := congrArg (·.recordedAt) hsame
    exact hproof
  have hproofOf := @SealIssued.proofOf_eq_ok D _ casefold sha256 inputs source hissued run.proofClock t
    _ hcontent
  rw [handoffProof, wp_bind, wp_get, wp_bind, wp_compute]
  constructor
  · intro proof hproof
    obtain ⟨hproofIssued, hfrom⟩ := hproofOf.mp hproof
    have hpresent : ∀ c, files.read [proofFilename] = some c → c = .closeProof proof := by
      intro c hc
      rcases hfrom with hsome | ⟨hnone, -⟩
      · exact Option.some.inj (hc.symm.trans hsome)
      · rw [hnone] at hc
        cases hc
    rw [wp_bind]
    refine wp_writeMissing hpresent (fun files' hw => ?_) fun stop files' hnone hfault hs => ?_
    · refine ⟨⟨hproofIssued, hfrom⟩, hw, ?_⟩
      rcases hfrom with hsome | ⟨hnone, -⟩
      · exact h.congr (hw.same hsome)
      · exact Layout.of_wrote_proof hissued hseal ht hrecord hproofIssued (.inr (.inr rfl)) hw
    · obtain ⟨left, hleft, hw⟩ := hs
      exact ⟨Layout.of_wrote_proof hissued hseal ht hrecord hproofIssued hleft hw,
        fun hun => absurd ⟨hun.proofOpen, hun.proofWrite⟩ hfault⟩
  · intro e he
    refine ⟨h, fun _ proof hfrom => ?_⟩
    rw [hproofOf.mpr hfrom] at he
    cases he

end Layout

/-! ### A run -/

theorem SealFrom.unique {clock : PyDatetime} {content : Option (OutputContent D)}
    {source source' : R1PositionCandidateGenerationSeal D}
    (h : SealFrom casefold sha256 inputs clock content source)
    (h' : SealFrom casefold sha256 inputs clock content source') : source = source' := by
  obtain ⟨hissued, hfrom⟩ := h
  obtain ⟨hissued', hfrom'⟩ := h'
  rcases hfrom with hsome | ⟨hnone, hclock⟩
  · rcases hfrom' with hsome' | ⟨hnone', -⟩
    · exact OutputContent.positionSeal.inj (Option.some.inj (hsome.symm.trans hsome'))
    · rw [hnone'] at hsome
      cases hsome
  · rcases hfrom' with hsome' | ⟨-, hclock'⟩
    · rw [hnone] at hsome'
      cases hsome'
    · have hemitted := Except.ok.inj (hclock.symm.trans hclock')
      rw [SealIssued, hemitted] at hissued
      exact Except.ok.inj (hissued.symm.trans hissued')

omit [DecidableEq D] in
theorem RecordFrom.unique {clock : PyDatetime} {content : Option (OutputContent D)}
    {source : R1PositionCandidateGenerationSeal D} {t t' : UtcMillis}
    (h : RecordFrom sha256 clock content source t)
    (h' : RecordFrom sha256 clock content source t') : t = t' := by
  obtain ⟨-, hfrom⟩ := h
  obtain ⟨-, hfrom'⟩ := h'
  rcases hfrom with hsome | ⟨hnone, hclock⟩
  · rcases hfrom' with hsome' | ⟨hnone', -⟩
    · have hsame := OutputContent.projectionRecord.inj (Option.some.inj (hsome.symm.trans hsome'))
      exact congrArg (·.recordedAt) hsame
    · rw [hnone'] at hsome
      cases hsome
  · rcases hfrom' with hsome' | ⟨-, hclock'⟩
    · rw [hnone] at hsome'
      cases hsome'
    · exact Except.ok.inj (hclock.symm.trans hclock')

/-- The outputs that a run starts from, with its clock, yield a seal, a record and a proof. -/
def Yields (casefold : String → String) (sha256 : PositionSealPayload D → D)
    (inputs : HandoffInputs D) (files : Outputs D) (run : HandoffRun)
    (source : R1PositionCandidateGenerationSeal D) (recorded : UtcMillis)
    (proof : R1Role2VerifiedPositionCloseProof D) : Prop :=
  SealFrom casefold sha256 inputs run.sealClock (files.read [sealFilename]) source ∧
    RecordFrom sha256 run.recordClock (files.read [projectionRecordFilename]) source recorded ∧
    ProofFrom sha256 inputs run.proofClock (files.read [proofFilename]) source recorded proof

/-- The outputs are complete: a seal, its record of a time and a proof. -/
structure Holds (sha256 : PositionSealPayload D → D) (files : Outputs D)
    (source : R1PositionCandidateGenerationSeal D) (recorded : UtcMillis)
    (proof : R1Role2VerifiedPositionCloseProof D) : Prop where
  sealed : files.read [sealFilename] = some (.positionSeal source)
  recorded : files.read [projectionRecordFilename] =
    some (.projectionRecord (projectionRecordOf sha256 source recorded))
  proved : files.read [proofFilename] = some (.closeProof proof)

/-- The result of a handoff states the digests of a seal, its record and its proof. -/
structure Reports (sha256 : PositionSealPayload D → D) (result : R1PositionHandoffResult D)
    (source : R1PositionCandidateGenerationSeal D) (recorded : UtcMillis)
    (proof : R1Role2VerifiedPositionCloseProof D) : Prop where
  sealId : result.sealId = source.sealId
  projection : result.projectionSha256 = (projectionRecordOf sha256 source recorded).projectionSha256
  record : result.projectionRecordSha256 =
    projectionRecordSha256 sha256 (projectionRecordOf sha256 source recorded)
  proof : result.proofContentSha256 = proof.proofContentSha256

/-- A run that returns holds and reports what its outputs and its clock yield; a run that
stops leaves a layout, and was interrupted unless they yield nothing. -/
theorem wp_issueHandoff {files : Outputs D} (h : Layout casefold sha256 inputs files)
    (run : HandoffRun) :
    wp (issueHandoff casefold sha256 inputs run)
      (fun result files' => Layout casefold sha256 inputs files' ∧ ∃ source recorded proof,
        Yields casefold sha256 inputs files run source recorded proof ∧
        Holds sha256 files' source recorded proof ∧ Reports sha256 result source recorded proof)
      (fun _ files' => Layout casefold sha256 inputs files' ∧ (run.Uninterrupted →
        ∀ source recorded proof, ¬ Yields casefold sha256 inputs files run source recorded proof))
      files := by
  have hstart : ∀ applied stop, run.start.Interrupts applied stop → ¬ run.Uninterrupted := by
    rintro applied stop (⟨e, hs, -⟩ | ⟨hs, -⟩) hun <;> rw [hun.start] at hs <;> cases hs
  rw [issueHandoff, wp_bind]
  refine wp_call ?_ (fun stop hs => ⟨h, fun hun => absurd hun (hstart _ _ hs)⟩) fun stop hs => ?_
  · rw [wp_pure, wp_bind, wp_get, wp_bind]
    refine wp_mono (wp_handoffSeal h run) ?_ ?_
    · rintro ⟨source, verified⟩ files₁ ⟨hseal, hverified, hw₁, h₁⟩
      obtain rfl : verified = positionBoundaryOf source := hverified
      have hread₁ : files₁.read [sealFilename] = some (.positionSeal source) := by
        rw [hw₁, if_pos rfl]
      have hrecord₁ : files₁.read [projectionRecordFilename] =
          files.read [projectionRecordFilename] := by rw [hw₁, if_neg filenames_ne.1]
      rw [wp_bind]
      refine wp_mono (wp_handoffRecord h₁ run hseal.1 hread₁) ?_ ?_
      · rintro trusted files₂ ⟨t, hrecord, rfl, hw₂, h₂⟩
        have hread₂ : files₂.read [projectionRecordFilename] =
            some (.projectionRecord (projectionRecordOf sha256 source t)) := by rw [hw₂, if_pos rfl]
        have hseal₂ : files₂.read [sealFilename] = some (.positionSeal source) := by
          rw [hw₂, if_neg filenames_ne.1.symm, hread₁]
        have hproof₂ : files₂.read [proofFilename] = files.read [proofFilename] := by
          rw [hw₂, if_neg filenames_ne.2.2, hw₁, if_neg filenames_ne.2.1]
        rw [hrecord₁] at hrecord
        rw [wp_bind]
        refine wp_mono (wp_handoffProof h₂ run hseal.1 hseal₂ hrecord.1 hread₂) ?_ ?_
        · rintro proof files₃ ⟨hproof, hw₃, h₃⟩
          rw [hproof₂] at hproof
          refine ⟨h₃, source, t, proof, ⟨hseal, hrecord, hproof⟩, ⟨?_, ?_, ?_⟩, ⟨rfl, rfl, rfl, rfl⟩⟩
          · rw [hw₃, if_neg filenames_ne.2.1.symm, hseal₂]
          · rw [hw₃, if_neg filenames_ne.2.2.symm, hread₂]
          · rw [hw₃, if_pos rfl]
        · rintro stop files₃ ⟨h₃, hnone⟩
          refine ⟨h₃, fun hun source' t' proof hyields => ?_⟩
          obtain rfl := hyields.1.unique hseal
          obtain rfl := hyields.2.1.unique hrecord
          exact hnone hun proof (hproof₂ ▸ hyields.2.2)
      · rintro stop files₂ ⟨h₂, hnone⟩
        refine ⟨h₂, fun hun source' t' proof hyields => ?_⟩
        obtain rfl := hyields.1.unique hseal
        exact hnone hun t' (hrecord₁ ▸ hyields.2.1)
    · rintro stop files₁ ⟨h₁, hnone⟩
      exact ⟨h₁, fun hun source t proof hyields => hnone hun source hyields.1⟩
  · exact ⟨h, fun hun => absurd hun (hstart _ _ hs)⟩

/-! ### Restarts -/

/-- No output was left by a run that stopped in the middle of writing it. -/
def NoTorn (files : Outputs D) : Prop :=
  ∀ name ∈ [sealFilename, projectionRecordFilename, proofFilename],
    files.read [name] ≠ some .torn

/-- The clock of a run admits the outputs that are missing: it issues a seal where none is there,
and reads the record's and the proof's time not before the seal. -/
def ClocksAdmit (casefold : String → String) (sha256 : PositionSealPayload D → D)
    (inputs : HandoffInputs D) (files : Outputs D) (run : HandoffRun) : Prop :=
  ∃ source, (files.read [sealFilename] = some (.positionSeal source) ∨
      files.read [sealFilename] = none ∧
        issueSealAt casefold sha256 inputs run.sealClock = .ok source) ∧
    (files.read [projectionRecordFilename] = none →
      ∃ t, utcMilliseconds run.recordClock = .ok t ∧ source.emittedAt ≤ t) ∧
    (files.read [proofFilename] = none →
      ∃ t, utcMilliseconds run.proofClock = .ok t ∧ source.emittedAt ≤ t)

theorem exists_yields_iff {files : Outputs D} (h : Layout casefold sha256 inputs files)
    (run : HandoffRun) :
    (∃ source recorded proof, Yields casefold sha256 inputs files run source recorded proof) ↔
      NoTorn files ∧ ClocksAdmit casefold sha256 inputs files run := by
  constructor
  · rintro ⟨source, t, proof, ⟨hissued, hseal⟩, ⟨ht, hrecord⟩, ⟨hproofIssued, hproof⟩⟩
    constructor
    · intro name hname htorn
      simp only [List.mem_cons, List.not_mem_nil, or_false] at hname
      rcases hname with rfl | rfl | rfl
      · simp [htorn] at hseal
      · simp [htorn] at hrecord
      · simp [htorn] at hproof
    · refine ⟨source, ?_, fun hnone => ?_, fun hnone => ?_⟩
      · rcases hseal with hsome | ⟨hnone, hclock⟩
        · exact .inl hsome
        · exact .inr ⟨hnone, issueSealAt_eq_ok.mpr ⟨hclock, hissued⟩⟩
      · rcases hrecord with hsome | ⟨-, hclock⟩
        · rw [hnone] at hsome
          cases hsome
        · exact ⟨t, hclock, ht⟩
      · rcases hproof with hsome | ⟨-, hclock⟩
        · rw [hnone] at hsome
          cases hsome
        · exact ⟨_, hclock, (hissued.proof_checks hproofIssued).2.1⟩
  · rintro ⟨htorn, source, hseal, hrecord, hproof⟩
    have hnot : ∀ name ∈ [sealFilename, projectionRecordFilename, proofFilename], ∀ c,
        files.read [name] = some c → c ≠ .torn := by
      rintro name hname c hc rfl
      exact htorn name hname hc
    -- The seal, then a record of it, then a proof over both.
    have hsealFrom : SealFrom casefold sha256 inputs run.sealClock (files.read [sealFilename])
        source := by
      rcases hseal with hsome | ⟨hnone, hissue⟩
      · obtain hc | ⟨source', hissued, hc⟩ := h.sealed _ hsome
        · exact absurd hc (hnot _ (by simp) _ hsome)
        · exact ⟨OutputContent.positionSeal.inj hc ▸ hissued, .inl hsome⟩
      · obtain ⟨hclock, hissued⟩ := issueSealAt_eq_ok.mp hissue
        exact ⟨hissued, .inr ⟨hnone, hclock⟩⟩
    have hsealThere : ∀ c, files.read [projectionRecordFilename] = some c →
        files.read [sealFilename] = some (.positionSeal source) := by
      intro c hc
      rcases hsealFrom.2 with hsome | ⟨hnone, -⟩
      · exact hsome
      · rw [(h.absent_of_seal hnone).1] at hc
        cases hc
    have hrecordFrom : ∃ t, RecordFrom sha256 run.recordClock
        (files.read [projectionRecordFilename]) source t := by
      cases hread : files.read [projectionRecordFilename] with
      | none =>
        obtain ⟨t, hclock, ht⟩ := hrecord hread
        exact ⟨t, ht, .inr ⟨rfl, hclock⟩⟩
      | some c =>
        obtain ⟨source', -, hsource, hc⟩ := h.recorded c hread
        obtain rfl := OutputContent.positionSeal.inj
          (Option.some.inj ((hsealThere c hread).symm.trans hsource))
        rcases hc with rfl | ⟨t, ht, rfl⟩
        · exact absurd rfl (hnot _ (by simp) _ hread)
        · exact ⟨t, ht, .inl rfl⟩
    obtain ⟨t, ht, hrecordFrom⟩ := hrecordFrom
    have hproofFrom : ∃ proof, ProofFrom sha256 inputs run.proofClock (files.read [proofFilename])
        source t proof := by
      cases hread : files.read [proofFilename] with
      | none =>
        obtain ⟨created, hclock, hcreated⟩ := hproof hread
        obtain ⟨proof, hissue⟩ := hsealFrom.1.exists_proof ht hcreated hclock
        obtain ⟨hclock', hissued⟩ := issueProofAt_eq_ok.mp hissue
        exact ⟨proof, hissued, .inr ⟨rfl, hclock'⟩⟩
      | some c =>
        obtain ⟨source', t', -, hsource, -, hrecord', hc⟩ := h.proved c hread
        obtain rfl := OutputContent.positionSeal.inj
          (Option.some.inj ((hsealThere _ hrecord').symm.trans hsource))
        have hsame : RecordFrom sha256 run.recordClock (files.read [projectionRecordFilename])
            source t' := by
          rcases hrecordFrom with hsome | ⟨hnone, -⟩
          · have heq := OutputContent.projectionRecord.inj
              (Option.some.inj (hsome.symm.trans hrecord'))
            obtain rfl : t = t' := congrArg (·.recordedAt) heq
            exact ⟨ht, .inl hsome⟩
          · rw [hnone] at hrecord'
            cases hrecord'
        obtain rfl := hsame.unique ⟨ht, hrecordFrom⟩
        rcases hc with rfl | ⟨proof, hissued, rfl⟩
        · exact absurd rfl (hnot _ (by simp) _ hread)
        · exact ⟨proof, hissued, .inl rfl⟩
    obtain ⟨proof, hproofFrom⟩ := hproofFrom
    exact ⟨source, t, proof, hsealFrom, ⟨ht, hrecordFrom⟩, hproofFrom⟩

theorem handoffStep_of_wp {files : Outputs D} {run : HandoffRun}
    {Q : R1PositionHandoffResult D → Outputs D → Prop} {R : Stop HandoffError → Outputs D → Prop}
    (h : wp (issueHandoff casefold sha256 inputs run) Q R files) :
    (∃ result, (handoffStep casefold sha256 inputs files run).2 = .ok result ∧
        Q result (handoffStep casefold sha256 inputs files run).1) ∨
      ∃ stop, (handoffStep casefold sha256 inputs files run).2 = .error stop ∧
        R stop (handoffStep casefold sha256 inputs files run).1 := by
  unfold handoffStep
  cases hrun : (issueHandoff casefold sha256 inputs run).run files with
  | ok result files' => exact .inl ⟨result, rfl, (wp_of_ok hrun).mp h⟩
  | error stop files' => exact .inr ⟨stop, rfl, (wp_of_error hrun).mp h⟩

theorem layout_empty : Layout casefold sha256 inputs (.empty : Outputs D) := by
  refine ⟨fun c hc => ?_, fun c hc => ?_, fun c hc => ?_⟩ <;> simp at hc

/-- Every sequence of runs leaves a layout. -/
theorem layout_after (runs : List HandoffRun) :
    Layout casefold sha256 inputs (after (handoffStep casefold sha256 inputs) .empty runs) := by
  refine run_induction _ (fun files run h => ?_) layout_empty runs
  rcases handoffStep_of_wp (wp_issueHandoff h run) with ⟨_, -, h', -⟩ | ⟨_, -, h', -⟩
  · exact h'
  · exact h'

/-- Every sequence of runs keeps the outputs that are there. -/
theorem hasOutput_after (p : Path) (content : OutputContent D) {files : Outputs D}
    (h : files.read p = some content) (runs : List HandoffRun) :
    (after (handoffStep casefold sha256 inputs) files runs).read p = some content := by
  refine run_induction (P := HasOutput p content) _ (fun files run h => ?_) h runs
  rcases handoffStep_of_wp (keeps_issueHandoff run p content files h) with ⟨_, -, h'⟩ | ⟨_, -, h'⟩
  · exact h'
  · exact h'

/-- A run that nothing stops, with these readings of its clock. -/
def uninterruptedRun (sealed recorded created : UtcMillis) : HandoffRun where
  sealClock := PyDatetime.utcMillis sealed
  recordClock := PyDatetime.utcMillis recorded
  proofClock := PyDatetime.utcMillis created
  start := .none
  sealOpen := .none
  sealWrite := .none
  recordOpen := .none
  recordWrite := .none
  proofOpen := .none
  proofWrite := .none

/-- The digests that a handoff reports. -/
def R1PositionHandoffResult.digests (result : R1PositionHandoffResult D) : Identifier × D × D × D :=
  (result.sealId, result.projectionSha256, result.projectionRecordSha256, result.proofContentSha256)

/-- A result and its outputs are those of one uninterrupted run over an empty directory, at the
times that the outputs record. -/
def AsNeverStopped (casefold : String → String) (sha256 : PositionSealPayload D → D)
    (inputs : HandoffInputs D) (result : R1PositionHandoffResult D) (files : Outputs D) : Prop :=
  ∃ source recorded proof, Holds sha256 files source recorded proof ∧ ∃ fresh result₀,
    fresh = handoffStep casefold sha256 inputs .empty
      (uninterruptedRun source.emittedAt recorded proof.proofCreatedAt) ∧
    fresh.2 = .ok result₀ ∧ result₀.digests = result.digests ∧
    Holds sha256 fresh.1 source recorded proof

omit [DecidableEq D] in
theorem Reports.digests {result : R1PositionHandoffResult D}
    {source : R1PositionCandidateGenerationSeal D} {recorded : UtcMillis}
    {proof : R1Role2VerifiedPositionCloseProof D} (h : Reports sha256 result source recorded proof) :
    result.digests = (source.sealId, (projectionRecordOf sha256 source recorded).projectionSha256,
      projectionRecordSha256 sha256 (projectionRecordOf sha256 source recorded),
      proof.proofContentSha256) := by
  rw [R1PositionHandoffResult.digests, h.sealId, h.projection, h.record, h.proof]

/-- What a run yields is what an uninterrupted run at its times yields. -/
theorem asNeverStopped {files files' : Outputs D} {run : HandoffRun}
    {source : R1PositionCandidateGenerationSeal D} {recorded : UtcMillis}
    {proof : R1Role2VerifiedPositionCloseProof D}
    (hyields : Yields casefold sha256 inputs files run source recorded proof)
    (hholds : Holds sha256 files' source recorded proof) {result : R1PositionHandoffResult D}
    (hreports : Reports sha256 result source recorded proof) :
    AsNeverStopped casefold sha256 inputs result files' := by
  obtain ⟨⟨hseal, -⟩, ⟨hrecord, -⟩, ⟨hproof, -⟩⟩ := hyields
  let fresh := uninterruptedRun source.emittedAt recorded proof.proofCreatedAt
  have hfresh : Yields casefold sha256 inputs .empty fresh source recorded proof :=
    ⟨⟨hseal, .inr ⟨rfl, utcMilliseconds_utcMillis _⟩⟩,
      ⟨hrecord, .inr ⟨rfl, utcMilliseconds_utcMillis _⟩⟩,
      ⟨hproof, .inr ⟨rfl, utcMilliseconds_utcMillis _⟩⟩⟩
  have hempty : Layout casefold sha256 inputs .empty := layout_empty
  rcases handoffStep_of_wp (wp_issueHandoff hempty fresh) with
    ⟨result₀, hresult, -, source', recorded', proof', hyields', hholds', hreports'⟩ |
    ⟨stop, -, -, hnone⟩
  · obtain rfl := hyields'.1.unique hfresh.1
    obtain rfl := hyields'.2.1.unique hfresh.2.1
    -- Both proofs are issued at one time, from one seal and one record.
    have hcreated : proof'.proofCreatedAt = proof.proofCreatedAt := by
      rcases hyields'.2.2.2 with hsome | ⟨-, hclock⟩
      · simp at hsome
      · exact Except.ok.inj (hclock.symm.trans (utcMilliseconds_utcMillis _))
    have hproof' := hyields'.2.2.1
    rw [ProofIssued, hcreated] at hproof'
    obtain rfl := Except.ok.inj (hproof'.symm.trans hproof)
    exact ⟨source', recorded', proof', hholds, _, result₀, rfl, hresult,
      hreports'.digests.trans hreports.digests.symm, hholds'⟩
  · have hun : fresh.Uninterrupted := ⟨rfl, rfl, rfl, rfl, rfl, rfl, rfl⟩
    exact absurd hfresh (hnone hun source recorded proof)

/-- Over a layout, an uninterrupted run succeeds where no output is torn and the clock admits
the missing ones. -/
theorem succeeds_iff {files : Outputs D} (h : Layout casefold sha256 inputs files)
    {run : HandoffRun} (hun : run.Uninterrupted) :
    (∃ result, (handoffStep casefold sha256 inputs files run).2 = .ok result ∧
        AsNeverStopped casefold sha256 inputs result
          (handoffStep casefold sha256 inputs files run).1) ↔
      NoTorn files ∧ ClocksAdmit casefold sha256 inputs files run := by
  rw [← exists_yields_iff h run]
  rcases handoffStep_of_wp (wp_issueHandoff h run) with
    ⟨result, hresult, -, source, recorded, proof, hyields, hholds, hreports⟩ |
    ⟨stop, hstop, -, hnone⟩
  · constructor
    · intro _
      exact ⟨source, recorded, proof, hyields⟩
    · intro _
      exact ⟨result, hresult, asNeverStopped hyields hholds hreports⟩
  · constructor
    · rintro ⟨result, hresult, -⟩
      rw [hstop] at hresult
      cases hresult
    · rintro ⟨source, recorded, proof, hyields⟩
      exact absurd hyields (hnone hun source recorded proof)

/-- After any sequence of runs: an output that is there never changes, and an uninterrupted
run succeeds, as one that was never stopped, exactly where no output was left torn and its clock
admits the missing outputs. -/
theorem handoff_restartable (casefold : String → String) (sha256 : PositionSealPayload D → D)
    (inputs : HandoffInputs D) (runs : List HandoffRun) :
    (∀ more p content,
      (after (handoffStep casefold sha256 inputs) .empty runs).read p = some content →
      (after (handoffStep casefold sha256 inputs) .empty (runs ++ more)).read p = some content) ∧
    ∀ run, run.Uninterrupted →
      ((∃ result,
          (handoffStep casefold sha256 inputs
            (after (handoffStep casefold sha256 inputs) .empty runs) run).2 = .ok result ∧
          AsNeverStopped casefold sha256 inputs result (handoffStep casefold sha256 inputs
            (after (handoffStep casefold sha256 inputs) .empty runs) run).1) ↔
        NoTorn (after (handoffStep casefold sha256 inputs) .empty runs) ∧
          ClocksAdmit casefold sha256 inputs
            (after (handoffStep casefold sha256 inputs) .empty runs) run) := by
  constructor
  · intro more p content h
    rw [after_append]
    exact hasOutput_after p content h more
  · intro run hun
    exact succeeds_iff (layout_after runs) hun

end Runs

/-! ## A run that is killed while it writes -/

/-- Instants in order. -/
def InOrder : PyDatetime → PyDatetime → Prop
  | .aware s _, .aware t _ => s ≤ t
  | _, _ => False

/-- The readings of the clock in a run. -/
def HandoffRun.readings (run : HandoffRun) : List PyDatetime :=
  [run.sealClock, run.recordClock, run.proofClock]

/-- After any sequence of runs, killed or not, whose clock never goes back and issues the seal, an
uninterrupted run succeeds as one that was never stopped. -/
def HandoffRestartable [DecidableEq D] (casefold : String → String)
    (sha256 : PositionSealPayload D → D) (inputs : HandoffInputs D) : Prop :=
  ∀ runs run, run.Uninterrupted →
    ((runs ++ [run]).flatMap HandoffRun.readings).Pairwise InOrder →
    (∀ r ∈ runs ++ [run], ∃ source, issueSealAt casefold sha256 inputs r.sealClock = .ok source) →
    ∃ result,
      (handoffStep casefold sha256 inputs
        (after (handoffStep casefold sha256 inputs) .empty runs) run).2 = .ok result ∧
      AsNeverStopped casefold sha256 inputs result (handoffStep casefold sha256 inputs
        (after (handoffStep casefold sha256 inputs) .empty runs) run).1

namespace Sample

def handoffInputs : HandoffInputs PositionDigest where
  expected := ⟨"RUN-20260101-001", "host-a", "family-a"⟩
  close := positionClose
  receipt := positionReceipt
  partition := Stream.Sample.partition
  runMetadata := runMetadata
  scenarioActions := [action]
  boundary := attestation
  boundaryActionRecord := record
  boundaryCompletion := completion
  policy := positionPolicy
  close_runId := rfl
  close_partition := rfl
  partition_hostId := rfl
  policy_familyId := rfl

/-- A run that is killed after it has written its seal. -/
def stoppedRun : HandoffRun :=
  { uninterruptedRun 4000 5000 6000 with sealWrite := .crash true }

/-- A run that is killed while it writes its seal. -/
def killedRun : HandoffRun :=
  { uninterruptedRun 4000 5000 6000 with sealWrite := .crash false }

/-- The same run, that nothing stops, some seconds later. -/
def rerun : HandoffRun := uninterruptedRun 7000 8000 9000

theorem issueSealAt_sample : ∀ r ∈ [killedRun] ++ [rerun],
    ∃ source, issueSealAt id digestOf handoffInputs r.sealClock = .ok source := by
  have hok : ∀ r ∈ [killedRun] ++ [rerun],
      (issueSealAt id digestOf handoffInputs r.sealClock).isOk = true := by
    intro r hr
    simp only [List.cons_append, List.nil_append, List.mem_cons, List.not_mem_nil, or_false] at hr
    rcases hr with rfl | rfl <;> decide
  intro r hr
  have h := hok r hr
  cases hissue : issueSealAt id digestOf handoffInputs r.sealClock with
  | ok source => exact ⟨source, rfl⟩
  | error e => simp [hissue, Except.isOk, Except.toBool] at h

theorem readings_inOrder :
    (([killedRun] ++ [rerun]).flatMap HandoffRun.readings).Pairwise InOrder := by
  simp [HandoffRun.readings, killedRun, rerun, uninterruptedRun, PyDatetime.utcMillis, InOrder]

/-- The seal that the stopped run left. -/
theorem stoppedRun_seal : ∃ source,
    (handoffStep id digestOf handoffInputs .empty stoppedRun).1.read [sealFilename] =
        some (.positionSeal source) ∧ source.emittedAt = 4000 :=
  ⟨_, rfl, rfl⟩

theorem stoppedRun_missing : ∀ name ∈ [projectionRecordFilename, proofFilename],
    (handoffStep id digestOf handoffInputs .empty stoppedRun).1.read [name] = none := by
  intro name hname
  simp only [List.mem_cons, List.not_mem_nil, or_false] at hname
  rcases hname with rfl | rfl <;> rfl

theorem rerun_uninterrupted : rerun.Uninterrupted := ⟨rfl, rfl, rfl, rfl, rfl, rfl, rfl⟩

theorem killedRun_torn :
    (handoffStep id digestOf handoffInputs .empty killedRun).1.read [sealFilename] =
      some .torn := by
  rfl

end Sample

open Sample

/-- The run after a kill between the seal and the record. -/
theorem handoff_restartable_stopped : ∃ result,
    (handoffStep id digestOf handoffInputs
      (after (handoffStep id digestOf handoffInputs) .empty [stoppedRun]) rerun).2 = .ok result ∧
    AsNeverStopped id digestOf handoffInputs result (handoffStep id digestOf handoffInputs
      (after (handoffStep id digestOf handoffInputs) .empty [stoppedRun]) rerun).1 := by
  obtain ⟨source, hseal, hemitted⟩ := stoppedRun_seal
  refine ((handoff_restartable id digestOf handoffInputs [stoppedRun]).2 rerun
    rerun_uninterrupted).mpr ⟨fun name hname htorn => ?_, source, .inl hseal, fun _ => ?_, fun _ => ?_⟩
  · rcases List.mem_cons.mp hname with rfl | hname
    · cases hseal.symm.trans htorn
    · cases (stoppedRun_missing name hname).symm.trans htorn
  · exact ⟨8000, rfl, by rw [hemitted]; decide⟩
  · exact ⟨9000, rfl, by rw [hemitted]; decide⟩

/-- After a kill in the middle of writing the seal every later run fails. -/
theorem handoffRestartable_fails : ¬ HandoffRestartable id digestOf handoffInputs := by
  intro h
  have hsucceeds := h [killedRun] rerun rerun_uninterrupted readings_inOrder issueSealAt_sample
  obtain ⟨htorn, -⟩ := (succeeds_iff (layout_after [killedRun]) rerun_uninterrupted).mp hsucceeds
  exact htorn sealFilename (by simp) killedRun_torn

end IncidentAwareness.Seal
