import IncidentAwareness.Common.Datetime
import IncidentAwareness.Evaluation.ResultInputs
import Mathlib.Logic.Function.Basic

/-!
# Development episodes of Fast hits

The hits of an entity, in the order of their selection, are grouped under their alert
keys: a hit whose distance from the last one of its key reaches the inactivity gap opens
another episode (`build_development_episodes`). The checks of the scan's artifacts are a
parameter.
-/

namespace IncidentAwareness.Detection

open IncidentAwareness.Common IncidentAwareness.Evaluation IncidentAwareness.Lib

/-- `DevelopmentEpisodePolicy`. -/
structure DevelopmentEpisodePolicy where
  inactivityGapSec : Nat
  positive : 0 < inactivityGapSec

/-- `sys.get_int_max_str_digits()`. -/
def intMaxStrDigits : Nat := 4300

/-- `str(n)`. -/
def strInt (n : Nat) : Except FastError String := do
  raiseIf (10 ^ intMaxStrDigits ≤ n)
    (.valueError ("Exceeds the limit (4300 digits) for integer string conversion; " ++
      "use sys.set_int_max_str_digits() to increase the limit"))
  return toString n

/-- The identity of a `DevelopmentEpisodePolicy` in a result. -/
def DevelopmentEpisodePolicy.version (policy : DevelopmentEpisodePolicy) :
    Except FastError String := do
  let gap ← strInt policy.inactivityGapSec
  return "fast-development-episodes-v2-gap" ++ gap ++ "s"

/-- The least number of seconds that a `timedelta` does not hold. -/
def timedeltaSecondsLimit : Nat := 86400 * 10 ^ 9

/-- What `timedelta` raises; its days are a C `int`. -/
def timedeltaOverflow (seconds : Nat) : FastError :=
  if seconds / 86400 < 2 ^ 31 then
    .overflowError ("days=" ++ toString (seconds / 86400) ++ "; must have magnitude <= 999999999")
  else .overflowError "Python int too large to convert to C int"

/-- `timedelta(seconds=seconds)`, in milliseconds. -/
def timedeltaSeconds (seconds : Nat) : Except FastError Int := do
  raiseIf (timedeltaSecondsLimit ≤ seconds) (timedeltaOverflow seconds)
  return (seconds : Int) * 1000

/-- A group of `build_development_episodes`. -/
structure EpisodeGroup where
  startTime : UtcMillis
  alertKey : String
  hitIds : List String
  deriving DecidableEq, Repr

/-- Add a hit to a group. -/
def EpisodeGroup.append (group : EpisodeGroup) (hitId : String) : EpisodeGroup :=
  { group with hitIds := group.hitIds ++ [hitId] }

/-- The loop's variables: the groups, and for an alert key the time of its last hit with the
position of that hit's group. -/
structure Grouping where
  groups : List EpisodeGroup := []
  active : String → Option (UtcMillis × Nat) := fun _ => none

namespace Grouping

/-- A hit opens a group. -/
def openGroup (s : Grouping) (hit : FastHitRecord) : Grouping where
  groups := s.groups ++ [⟨hit.val.timestamp, hit.val.alertKey, [hit.val.hitId]⟩]
  active := Function.update s.active hit.val.alertKey (some (hit.val.timestamp, s.groups.length))

/-- A hit joins the group at a position. -/
def joinGroup (s : Grouping) (position : Nat) (hit : FastHitRecord) : Grouping where
  groups := s.groups.modify position fun group => group.append hit.val.hitId
  active := Function.update s.active hit.val.alertKey (some (hit.val.timestamp, position))

@[simp] theorem openGroup_active_self (s : Grouping) (hit : FastHitRecord) :
    (s.openGroup hit).active hit.val.alertKey = some (hit.val.timestamp, s.groups.length) :=
  Function.update_self _ _ _

theorem openGroup_active_of_ne (s : Grouping) {hit : FastHitRecord} {key : String}
    (h : key ≠ hit.val.alertKey) : (s.openGroup hit).active key = s.active key :=
  Function.update_of_ne h _ _

@[simp] theorem joinGroup_active_self (s : Grouping) (position : Nat) (hit : FastHitRecord) :
    (s.joinGroup position hit).active hit.val.alertKey = some (hit.val.timestamp, position) :=
  Function.update_self _ _ _

theorem joinGroup_active_of_ne (s : Grouping) (position : Nat) {hit : FastHitRecord} {key : String}
    (h : key ≠ hit.val.alertKey) : (s.joinGroup position hit).active key = s.active key :=
  Function.update_of_ne h _ _

/-- One turn of the loop. -/
def addHit (policy : DevelopmentEpisodePolicy) (observationStart observationEnd : UtcMillis)
    (s : Grouping) (hit : FastHitRecord) : Except FastError Grouping := do
  raiseIf (¬ (observationStart ≤ hit.val.timestamp ∧ hit.val.timestamp ≤ observationEnd))
    (.valueError "hit outside observation interval")
  match s.active hit.val.alertKey with
  | none => return s.openGroup hit
  | some (last, position) => do
    let gap ← timedeltaSeconds policy.inactivityGapSec
    return if gap ≤ hit.val.timestamp - last then s.openGroup hit else s.joinGroup position hit

end Grouping

/-- The groups of the hits of an entity, with the check of their identities. -/
def groupHits (policy : DevelopmentEpisodePolicy) (observationStart observationEnd : UtcMillis)
    (hits : List FastHitRecord) : Except FastError (List EpisodeGroup) := do
  let records := sortedBy selectionKey hits
  raiseIf (¬ (records.map fun h => h.val.hitId).Nodup) (.valueError "duplicate hit identity")
  let s ← records.foldlM (Grouping.addHit policy observationStart observationEnd) {}
  return s.groups

/-- The version of the policy and the groups of the hits of an entity. -/
def groupEpisodes (policy : DevelopmentEpisodePolicy) (observationStart observationEnd : UtcMillis)
    (hits : List FastHitRecord) : Except FastError (String × List EpisodeGroup) := do
  let groups ← groupHits policy observationStart observationEnd hits
  let policyVersion ← policy.version
  return (policyVersion, groups)

/-- `FastScanCoverage`, as far as the episodes are checked against it. -/
structure FastScanCoverage where
  runId : String
  entityId : String
  observationStart : PyDatetime
  observationEnd : PyDatetime
  sourceSha256 : String
  csvSha256 : String
  configSha256 : String

/-- The files beside a handoff: the coverage and its digest, the digest of the source, and
what `verify_scan` makes of the artifacts that the coverage names. -/
structure CoverageFiles where
  coverage : FastScanCoverage
  coverageSha256 : String
  sourceSha256 : String
  verifyScan : FastScanCoverage → Except FastError Unit

/-- An observation timestamp, as its millisecond. -/
def requireObservation : PyDatetime → Except FastError UtcMillis
  | .naive => .error (.valueError "observation timestamps must be UTC aware")
  | .aware instant utcoffset => do
    raiseIf (utcoffset ≠ 0) (.valueError "observation timestamps must be UTC aware")
    raiseIf (instant % 1000 ≠ 0)
      (.valueError "observation timestamps must have millisecond precision")
    return instant / 1000

/-- The checks of the coverage; the observation interval that they accept. -/
def verifyCoverage (files : CoverageFiles) (coverageSha256 runId entityId : String)
    (observationStart observationEnd : PyDatetime) : Except FastError (UtcMillis × UtcMillis) := do
  raiseIf (files.coverageSha256 ≠ coverageSha256) (.valueError "coverage hash mismatch")
  let start ← requireObservation observationStart
  let stop ← requireObservation observationEnd
  let coverageStart ← requireObservation files.coverage.observationStart
  let coverageStop ← requireObservation files.coverage.observationEnd
  raiseIf (stop ≤ start) (.valueError "observation interval must be positive")
  raiseIf ((files.coverage.runId, files.coverage.entityId, coverageStart, coverageStop) ≠
      (runId, entityId, start, stop))
    (.valueError "coverage identity or observation interval mismatch")
  raiseIf (files.sourceSha256 ≠ files.coverage.sourceSha256) (.valueError "source hash mismatch")
  files.verifyScan files.coverage
  return (start, stop)

/-- `build_development_episodes`. -/
def buildDevelopmentEpisodes (utcMillis : String → Except FastError UtcMillis) (files : FastFiles)
    (coverageFiles : CoverageFiles) (selectionPolicy : FastSelectionPolicy)
    (episodePolicy : DevelopmentEpisodePolicy) (coverageSha256 runId entityId : String)
    (observationStart observationEnd : PyDatetime) :
    Except FastError (FastEpisodeStarts × FastDetectionSelection × List EpisodeGroup) := do
  let (start, stop) ← verifyCoverage coverageFiles coverageSha256 runId entityId observationStart
    observationEnd
  let (selection, audit) ← selectFastHit utcMillis files selectionPolicy runId entityId
  raiseIf (coverageFiles.coverage.csvSha256 ≠ audit.inputCsvSha256 ∨
      coverageFiles.coverage.configSha256 ≠ selectionPolicy.val.configSha256)
    (.valueError "coverage CSV/config binding mismatch")
  let handoff ← readFastHitHandoff files runId
  raiseIf (handoff.trace.val.outputSha256 ≠ audit.hitsSha256 ∨
      handoff.trace.val.inputSha256 ≠ audit.inputCsvSha256)
    (.valueError "handoff changed after selection")
  let (policyVersion, groups) ← groupEpisodes episodePolicy start stop
    (handoff.records.filter fun h => h.val.nativeHostId.bind selectionPolicy.entityOf = some entityId)
  return ({
    runId := runId
    entityId := entityId
    policyVersion := policyVersion
    detectorSetVersion := selectionPolicy.val.detectorSetVersion
    observationStart := observationStart
    observationEnd := observationEnd
    startTimes := groups.map fun g => .utc (g.startTime * 1000) }, selection, groups)

end IncidentAwareness.Detection
