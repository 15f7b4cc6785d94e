import IncidentAwareness.Persistence.Results

/-!
# The Hybrid combiner

`combine_results` with the validators of the `DecisionResult` that it builds, and
`combine_fast_adapter_result`. Of a Fusion result it reads what persistence keeps; a
datetime that the exchange of models passes through JSON keeps its milliseconds only.

`combineResults_supersedes`: the id that a Decision supersedes changes nothing else in it.
-/

namespace IncidentAwareness.Decision

open IncidentAwareness.Common IncidentAwareness.Lib IncidentAwareness.Persistence

/-! ## Validators -/

/-- `reject_dot_segment_decision_id`. -/
def rejectDotSegment (decisionId : String) : Except PyError Unit :=
  raiseIf (decisionId = "." ∨ decisionId = "..") (.valueError "Decision ID cannot be a dot segment")

/-- `validate_status_times`. -/
def validateStatusTimes (d : DecisionResult) : Except PyError Unit := do
  raiseIf (d.fastStatus = .detected ∧ d.detectorTime = none)
    (.valueError "fast_status가 detected이면 detector_time이 필요합니다.")
  raiseIf (d.fastStatus ≠ .detected ∧ d.detectorTime ≠ none)
    (.valueError "fast_status가 miss 또는 not_evaluated이면 detector_time은 null이어야 합니다.")
  raiseIf (d.fusionStatus = .detected ∧ d.fusionTime = none)
    (.valueError "fusion_status가 detected이면 fusion_time이 필요합니다.")
  raiseIf (d.fusionStatus ≠ .detected ∧ d.fusionTime ≠ none)
    (.valueError "fusion_status가 miss 또는 not_evaluated이면 fusion_time은 null이어야 합니다.")

/-- The path of the earlier of two times. -/
def winningPathOf (detectorTime fusionTime : UtcMillis) : WinningPath :=
  if detectorTime < fusionTime then .fast
  else if fusionTime < detectorTime then .fusion
  else .tie

/-- The part of `validate_decision_paths` for two detections. -/
def validateBothPaths (d : DecisionResult) (detectorTime fusionTime : UtcMillis) :
    Except PyError Unit := do
  raiseIf (d.tE ≠ some (min detectorTime fusionTime))
    (.valueError "두 경로가 detected이면 t_e는 더 이른 판단 시각이어야 합니다.")
  raiseIf (d.decisionPath ≠ some .fastAndFusion)
    (.valueError "두 경로가 detected이면 decision_path는 fast_and_fusion이어야 합니다.")
  raiseIf (d.winningPath ≠ some (winningPathOf detectorTime fusionTime))
    (.valueError "winning_path는 더 이른 판단 시각의 경로와 일치해야 합니다.")

/-- `validate_decision_paths`. -/
def validateDecisionPaths (d : DecisionResult) : Except PyError Unit :=
  if d.fastStatus = .notEvaluated ∨ d.fusionStatus = .notEvaluated then
    raiseIf (d.tE ≠ none ∨ d.decisionPath ≠ none ∨ d.winningPath ≠ none)
      (.valueError "not_evaluated requires null t_e, decision_path and winning_path")
  else
    match d.fastStatus, d.fusionStatus, d.detectorTime, d.fusionTime with
    | .detected, .detected, some detectorTime, some fusionTime =>
      validateBothPaths d detectorTime fusionTime
    | .detected, .detected, _, _ => .ok ()
    | .detected, _, some detectorTime, _ =>
      raiseIf (d.tE ≠ some detectorTime ∨ d.decisionPath ≠ some .fast ∨ d.winningPath ≠ some .fast)
        (.valueError "Fast 경로만 detected이면 t_e와 경로는 Fast 결과와 일치해야 합니다.")
    | .detected, _, none, _ => .ok ()
    | _, .detected, _, some fusionTime =>
      raiseIf (d.tE ≠ some fusionTime ∨ d.decisionPath ≠ some .fusion ∨
          d.winningPath ≠ some .fusion)
        (.valueError "Fusion 경로만 detected이면 t_e와 경로는 Fusion 결과와 일치해야 합니다.")
    | _, .detected, _, none => .ok ()
    | _, _, _, _ =>
      raiseIf (d.tE ≠ none ∨ d.decisionPath ≠ some .none ∨ d.winningPath ≠ some .none)
        (.valueError "두 경로가 miss이면 t_e는 null이고 경로는 none이어야 합니다.")

/-- `validate_fast_hit_provenance`. -/
def validateFastHitProvenance (d : DecisionResult) : Except PyError Unit := do
  raiseIf (∃ ids ∈ d.sourceHitIds, ∃ hitId ∈ ids, isBlank hitId)
    (.valueError "source_hit_ids must not contain blank values")
  raiseIf (∃ ids ∈ d.sourceHitIds, ¬ ids.Nodup)
    (.valueError "source_hit_ids must not contain duplicates")
  raiseIf (∃ hitId ∈ d.selectedSourceHitId, isBlank hitId)
    (.valueError "selected_source_hit_id must not be blank")
  raiseIf (∃ hitId ∈ d.selectedSourceHitId, hitId ∉ d.sourceHitIds.getD [])
    (.valueError "selected_source_hit_id must be included in source_hit_ids")
  raiseIf (d.fastStatus ≠ .detected ∧ d.selectedSourceHitId ≠ none)
    (.valueError "only detected fast_status may include selected_source_hit_id")

/-- The validators of `DecisionResult` on what `combine_results` builds, whose run id the
Detection has had validated. -/
def validateDecision (d : DecisionResult) : Except PyError Unit := do
  rejectDotSegment d.decisionId
  d.supersedesDecisionId.elim (.ok ()) rejectDotSegment
  validateStatusTimes d
  validateDecisionPaths d
  validateFastHitProvenance d

/-! ## The combiner -/

/-- A datetime as JSON keeps it. -/
def millisOf (t : UtcMicros) : UtcMillis := t / 1000

/-- The time of a Fusion result that is validated again: it has one exactly when it is
`detected`. -/
def revalidatedFusionTime (fusion : FusionResult) : Except PyError (Option UtcMillis) := do
  raiseIf (fusion.fusionStatus = .detected ∧ fusion.fusionTime = none)
    (.valueError "detected FusionResult must include fusion_time")
  raiseIf (fusion.fusionStatus ≠ .detected ∧ fusion.fusionTime ≠ none)
    (.valueError (fusion.fusionStatus.value ++ " FusionResult must not include fusion_time"))
  return fusion.fusionTime.map millisOf

/-- The check of an identifier of a combination. -/
def requireIdentifier (name value : String) : Except PyError Unit :=
  raiseIf (isBlank value ∨ isPadded value)
    (.valueError (name ++ " must be a non-blank identifier without surrounding whitespace"))

/-- `t_e`, the two paths and the reason. -/
structure Combination where
  tE : Option UtcMillis := none
  decisionPath : Option DecisionPath := none
  winningPath : Option WinningPath := none
  reason : String

/-- The truth table. -/
def combination (fastStatus fusionStatus : DetectorStatus) (detectorTime fusionTime : Option UtcMillis) :
    Combination :=
  match fastStatus, fusionStatus with
  | .notEvaluated, _ => { reason := "Required parallel evaluation was not completed" }
  | _, .notEvaluated => { reason := "Required parallel evaluation was not completed" }
  | .detected, .detected =>
    let detectorTime := detectorTime.getD 0
    let fusionTime := fusionTime.getD 0
    { tE := some (min detectorTime fusionTime), decisionPath := some .fastAndFusion
      winningPath := some (winningPathOf detectorTime fusionTime)
      reason := "Both paths detected; compared canonical UTC millisecond timestamps" }
  | .detected, .miss =>
    { tE := detectorTime, decisionPath := some .fast, winningPath := some .fast
      reason := "Only Fast detected" }
  | .miss, .detected =>
    { tE := fusionTime, decisionPath := some .fusion, winningPath := some .fusion
      reason := "Only Fusion detected" }
  | .miss, .miss =>
    { decisionPath := some .none, winningPath := some .none, reason := "Both evaluated paths missed" }

/-- What `combine_results` takes beside the results. -/
structure CombineArguments where
  decisionId : String
  configVersion : String
  sourceHitIds : Option (List String) := none
  selectedSourceHitId : Option String := none
  supersedesDecisionId : Option String := none

/-- The Decision of two results. -/
def combinedDecision (detection : DetectionResult) (fusion : FusionResult)
    (fusionTime : Option UtcMillis) (args : CombineArguments) : DecisionResult :=
  let c := combination detection.detectorStatus fusion.fusionStatus detection.detectorTime fusionTime
  { runId := detection.runId
    decisionId := args.decisionId
    entityId := detection.entityId
    fastStatus := detection.detectorStatus
    fusionStatus := fusion.fusionStatus
    fusionTime
    detectorTime := detection.detectorTime
    tE := c.tE
    decisionPath := c.decisionPath
    winningPath := c.winningPath
    decisionReason := c.reason
    configVersion := args.configVersion
    contributingEvidenceIds := some fusion.contributingEvidenceIds
    modelVersion := fusion.modelVersion
    ruleVersion := detection.ruleVersion
    sourceHitIds := args.sourceHitIds
    selectedSourceHitId := args.selectedSourceHitId
    supersedesDecisionId := args.supersedesDecisionId }

/-- `combine_results`, with `parallel_required=True`. -/
def combineResults (detection : DetectionResult) (fusion : FusionResult) (args : CombineArguments) :
    Except PyError DecisionResult := do
  requireIdentifier "decision_id" args.decisionId
  requireIdentifier "config_version" args.configVersion
  let fusionTime ← revalidatedFusionTime fusion
  raiseIf (detection.runId ≠ fusion.runId ∨ detection.entityId ≠ fusion.entityId)
    (.valueError "Fast and Fusion must have the same run_id and entity_id")
  raiseIf (isBlank detection.entityId ∨ isPadded detection.entityId)
    (.valueError "entity_id must not be blank or contain surrounding whitespace")
  validateDecision (combinedDecision detection fusion fusionTime args)
  return combinedDecision detection fusion fusionTime args

/-- `combine_fast_adapter_result`. -/
def combineFastAdapterResult (fast : FastDetectionAdapterResult) (fusion : FusionResult)
    (decisionId configVersion : String) (supersedesDecisionId : Option String) :
    Except PyError DecisionResult :=
  combineResults fast.detectionResult fusion
    { decisionId, configVersion, sourceHitIds := some fast.sourceHitIds
      selectedSourceHitId := fast.selectedSourceHitId, supersedesDecisionId }

section Spec

variable {detection : DetectionResult} {fusion : FusionResult} {args : CombineArguments} {d : DecisionResult}

/-- A combination that returns, check by check. -/
theorem combineResults_eq_ok_iff :
    combineResults detection fusion args = .ok d ↔
      (requireIdentifier "decision_id" args.decisionId = .ok () ∧
        requireIdentifier "config_version" args.configVersion = .ok () ∧
        revalidatedFusionTime fusion = .ok (fusion.fusionTime.map millisOf) ∧
        ¬ (detection.runId ≠ fusion.runId ∨ detection.entityId ≠ fusion.entityId) ∧
        ¬ (isBlank detection.entityId ∨ isPadded detection.entityId)) ∧
      validateDecision d = .ok () ∧
        d = combinedDecision detection fusion (fusion.fusionTime.map millisOf) args := by
  have htime : ∀ {t}, revalidatedFusionTime fusion = .ok t → t = fusion.fusionTime.map millisOf := by
    intro t h
    simp only [revalidatedFusionTime, raiseIf_bind_eq_ok] at h
    exact (Except.ok.inj h.2.2).symm
  unfold combineResults
  cases ht : revalidatedFusionTime fusion with
  | error e => simp [Except.unit_bind_eq_ok]
  | ok t =>
    obtain rfl := htime ht
    simp only [Except.ok_bind', Except.unit_bind_eq_ok, raiseIf_eq_ok, Except.pure_eq_ok]
    constructor
    · rintro ⟨hid, hversion, hscope, hentity, hvalid, rfl⟩
      exact ⟨⟨hid, hversion, trivial, hscope, hentity⟩, hvalid, rfl⟩
    · rintro ⟨⟨hid, hversion, -, hscope, hentity⟩, hvalid, rfl⟩
      exact ⟨hid, hversion, hscope, hentity, hvalid, rfl⟩

/-- What a combination returns. -/
theorem combineResults_eq_ok (h : combineResults detection fusion args = .ok d) :
    d = combinedDecision detection fusion (fusion.fusionTime.map millisOf) args :=
  (combineResults_eq_ok_iff.mp h).2.2

/-- The id that a Decision supersedes changes nothing else in it. -/
theorem combineResults_supersedes (h : combineResults detection fusion args = .ok d) {s : Option String}
    (hs : ∀ id ∈ s, rejectDotSegment id = .ok ()) :
    combineResults detection fusion { args with supersedesDecisionId := s } =
      .ok { d with supersedesDecisionId := s } := by
  obtain ⟨hchecks, hvalid, rfl⟩ := combineResults_eq_ok_iff.mp h
  refine combineResults_eq_ok_iff.mpr ⟨hchecks, ?_, rfl⟩
  simp only [validateDecision, Except.unit_bind_eq_ok] at hvalid ⊢
  obtain ⟨hid, -, htimes, hpaths, hhits⟩ := hvalid
  refine ⟨hid, ?_, htimes, hpaths, hhits⟩
  cases s with
  | none => rfl
  | some id => exact hs id rfl

end Spec

end IncidentAwareness.Decision
