import IncidentAwareness.Detection.FastHits

/-!
# What a Fast result says of the rows

* `adaptFastHitHandoff_sound`: a result is detected exactly when a record maps to the entity,
  and a miss only when each maps to another one;
* `exists_hit_iff`: the hits of a CSV are those of its qualifying rows;
* `selectFastHit_eq_ok`: the stages of a selection;
* `candidatesOf_perm`, `selectionOf_candidatesOf`: it is the least hit, in any order;
* `fastHandoff_sound`: what a selection says of the source rows.
-/

namespace IncidentAwareness.Detection

open IncidentAwareness.Common IncidentAwareness.Lib IncidentAwareness.Persistence

/-! ## The adapter -/

section Adapter

variable {files : FastFiles} {handoff : FastHitHandoff} {entityId : String}
  {entityMapper : String → Option String} {record : FastHitRecord}

theorem resolveRecordEntityId_eq_ok {resolved : Option String}
    (h : resolveRecordEntityId entityMapper record = .ok resolved) :
    record.val.nativeHostId.bind entityMapper = resolved := by
  unfold resolveRecordEntityId at h
  split at h
  · next hnone => rw [hnone, ← Except.ok.inj h]
  · next e he =>
    rw [Except.unit_bind_eq_ok, Except.pure_eq_ok] at h
    rw [he, h.2]

theorem validateMissRecord_eq_ok (h : validateMissRecord entityMapper entityId record = .ok ()) :
    ∃ e, record.val.nativeHostId.bind entityMapper = some e ∧ e ≠ entityId := by
  unfold validateMissRecord at h
  rw [Except.bind_eq_ok] at h
  obtain ⟨resolved, hresolved, h⟩ := h
  split at h
  · cases h
  · exact ⟨_, resolveRecordEntityId_eq_ok hresolved, raiseIf_eq_ok.mp h⟩

theorem validateSelectedEntity_eq_ok
    (h : validateSelectedEntity entityMapper entityId record = .ok ()) :
    record.val.nativeHostId.bind entityMapper = some entityId := by
  unfold validateSelectedEntity at h
  rw [Except.bind_eq_ok] at h
  obtain ⟨resolved, hresolved, h⟩ := h
  split at h
  · cases h
  · rw [resolveRecordEntityId_eq_ok hresolved, not_not.mp (raiseIf_eq_ok.mp h)]

theorem fastDetectionAdapterResult_eq_ok {detection : DetectionResult} {ids : List String}
    {selected : Option String} {result : FastDetectionAdapterResult}
    (h : fastDetectionAdapterResult detection ids selected = .ok result) :
    result = ⟨detection, ids, selected⟩ := by
  unfold fastDetectionAdapterResult at h
  rw [raiseIf_bind_eq_ok, Except.unit_bind_eq_ok, Except.pure_eq_ok] at h
  exact h.2.2

/-- What a result of the adapter says of the records. -/
theorem adaptFastHitHandoff_sound {selection : FastDetectionSelection}
    {result : FastDetectionAdapterResult}
    (h : adaptFastHitHandoff files handoff entityId selection entityMapper = .ok result) :
    (result.detectionResult.detectorStatus = .detected ↔
      ∃ hit ∈ handoff.records, hit.val.nativeHostId.bind entityMapper = some entityId) ∧
    (result.detectionResult.detectorStatus = .miss → ∀ hit ∈ handoff.records,
      ∃ e, hit.val.nativeHostId.bind entityMapper = some e ∧ e ≠ entityId) ∧
    result.detectionResult.detectorStatus = selection.detectorStatus := by
  unfold adaptFastHitHandoff at h
  rw [Except.unit_bind_eq_ok, Except.unit_bind_eq_ok] at h
  obtain ⟨-, -, h⟩ := h
  split at h
  · cases h
  · next hstatus =>
    unfold adaptMiss at h
    rw [Except.unit_bind_eq_ok, forM_eq_ok] at h
    obtain ⟨hmiss, h⟩ := h
    rw [fastDetectionAdapterResult_eq_ok h]
    refine ⟨⟨fun hd => (by cases hd), ?_⟩, fun _ hit hhit => validateMissRecord_eq_ok (hmiss hit hhit),
      hstatus.symm⟩
    rintro ⟨hit, hhit, hmaps⟩
    obtain ⟨e, he, hne⟩ := validateMissRecord_eq_ok (hmiss hit hhit)
    exact absurd (Option.some.inj (he.symm.trans hmaps)) hne
  · next hstatus =>
    unfold adaptDetected at h
    split at h
    · cases h
    · next record hfind =>
      rw [Except.unit_bind_eq_ok] at h
      obtain ⟨hselected, h⟩ := h
      dsimp only at h
      rw [Except.unit_bind_eq_ok] at h
      rw [fastDetectionAdapterResult_eq_ok h.2]
      exact ⟨⟨fun _ => ⟨record, List.mem_of_find?_eq_some hfind,
        validateSelectedEntity_eq_ok hselected⟩, fun _ => rfl⟩, fun hm => (by cases hm), hstatus.symm⟩

/-- The hit whose time a detection reports. -/
theorem adaptFastHitHandoff_detectorTime {selection : FastDetectionSelection}
    {result : FastDetectionAdapterResult}
    (h : adaptFastHitHandoff files handoff entityId selection entityMapper = .ok result)
    (hdetected : result.detectionResult.detectorStatus = .detected) :
    ∃ hit ∈ handoff.records, selection.selectedHitId = some hit.val.hitId ∧
      result.detectionResult.detectorTime = some hit.val.timestamp := by
  have hstatus := (adaptFastHitHandoff_sound h).2.2
  rw [hdetected] at hstatus
  unfold adaptFastHitHandoff at h
  rw [Except.unit_bind_eq_ok, Except.unit_bind_eq_ok, ← hstatus] at h
  replace h := h.2.2
  dsimp only at h
  unfold adaptDetected at h
  split at h
  · cases h
  · next record hfind =>
    rw [Except.unit_bind_eq_ok] at h
    replace h := h.2
    dsimp only at h
    rw [Except.unit_bind_eq_ok] at h
    refine ⟨record, List.mem_of_find?_eq_some hfind, ?_, ?_⟩
    · have hfound := List.find?_some hfind
      exact (of_decide_eq_true hfound).symm
    · rw [fastDetectionAdapterResult_eq_ok h.2]
      rfl

end Adapter

/-! ## The hits of the rows -/

section Rows

variable {utcMillis : String → Except FastError UtcMillis} {runId : String}
  {config : FastRunnerConfig} {rows : List HayabusaRow} {hits : List FastHitFields}

theorem qualifyingFrom_eq (index : Nat) : qualifyingFrom config index rows =
    (rows.zipIdx index).filter fun item => isQualifyingHit config item.1 := by
  induction rows generalizing index with
  | nil => rfl
  | cons row rows ih =>
    rw [qualifyingFrom, List.zipIdx_cons, List.filter_cons, ih]

/-- The qualifying rows, with their positions. -/
theorem mem_qualifyingFrom {row : HayabusaRow} {i : Nat} : (row, i) ∈ qualifyingFrom config 1 rows ↔
    1 ≤ i ∧ rows[i - 1]? = some row ∧ isQualifyingHit config row = true := by
  rw [qualifyingFrom_eq, List.mem_filter, List.mk_mem_zipIdx_iff_le_and_getElem?_sub, and_assoc]

theorem mem_rows_iff {row : HayabusaRow} (hrow : isQualifyingHit config row = true) :
    row ∈ rows ↔ ∃ i, (row, i) ∈ qualifyingFrom config 1 rows := by
  simp only [mem_qualifyingFrom, hrow, and_true]
  rw [List.mem_iff_getElem?]
  constructor
  · rintro ⟨i, hi⟩
    exact ⟨i + 1, by omega, hi⟩
  · rintro ⟨i, -, hi⟩
    exact ⟨i - 1, hi⟩

/-- What a hit keeps of its row. -/
theorem hitOf_eq_ok {row : HayabusaRow} {i : Nat} {hit : FastHitFields}
    (h : hitOf utcMillis runId config (row, i) = .ok hit) :
    hit.hitId = hitIdOf runId i ∧ hit.ruleId = row.ruleId ∧
      hit.nativeHostId = orNone row.computer ∧ utcMillis row.timestamp = .ok hit.timestamp := by
  unfold hitOf hayabusaRowToFastHit at h
  rw [Except.bind_eq_ok] at h
  obtain ⟨metadata, -, h⟩ := h
  rw [Except.bind_eq_ok] at h
  obtain ⟨timestamp, htimestamp, h⟩ := h
  rw [Except.pure_eq_ok.mp h]
  exact ⟨rfl, rfl, rfl, htimestamp⟩

/-- No stage discards a qualifying row, and none adds a hit. -/
theorem exists_hit_iff (h : hayabusaRowsToFastHits utcMillis rows runId config = .ok hits)
    (p : Option String → Prop) :
    (∃ hit ∈ hits, p hit.nativeHostId) ↔
      ∃ row ∈ rows, isQualifyingHit config row = true ∧ p (orNone row.computer) := by
  constructor
  · rintro ⟨hit, hhit, hp⟩
    obtain ⟨⟨row, i⟩, hrow, hhitOf⟩ := exists_of_mem_mapM h hhit
    have hqualifying := (mem_qualifyingFrom.mp hrow).2.2
    rw [(hitOf_eq_ok hhitOf).2.2.1] at hp
    exact ⟨row, (mem_rows_iff hqualifying).mpr ⟨i, hrow⟩, hqualifying, hp⟩
  · rintro ⟨row, hrow, hqualifying, hp⟩
    obtain ⟨i, hi⟩ := (mem_rows_iff hqualifying).mp hrow
    obtain ⟨hit, hhit, hhitOf⟩ := exists_of_mapM_mem h hi
    rw [← (hitOf_eq_ok hhitOf).2.2.1] at hp
    exact ⟨hit, hhit, hp⟩

end Rows

/-! ## The selection -/

section Selection

variable {utcMillis : String → Except FastError UtcMillis} {files : FastFiles}
  {policy : FastSelectionPolicy} {runId entityId : String} {config : FastRunnerConfig}
  {records : List FastHitRecord}

theorem readSelectionConfig_eq_ok {trace : FastHitTrace}
    (h : readSelectionConfig files policy trace = .ok config) :
    (files.config trace.val.configPath).map Prod.snd = some config.val := by
  unfold readSelectionConfig at h
  rw [raiseIf_bind_eq_ok] at h
  replace h := h.2
  split at h
  · cases h
  · next digest fields hfields =>
    rw [Except.bind_eq_ok] at h
    obtain ⟨c, hc, h⟩ := h
    rw [raiseIf_bind_eq_ok, raiseIf_bind_eq_ok, raiseIf_bind_eq_ok, Except.pure_eq_ok] at h
    rw [h.2.2.2, hfields, val_of_construct hc]
    rfl

theorem replayHits_eq_ok {trace : FastHitTrace}
    (h : replayHits utcMillis files trace config runId = .ok records) :
    ∃ rows, (files.csv trace.val.inputCsv).map Prod.snd = some rows ∧
      hayabusaRowsToFastHits utcMillis rows runId config = .ok (records.map Subtype.val) := by
  unfold replayHits at h
  split at h
  · cases h
  · next digest rows hrows =>
    rw [Except.bind_eq_ok] at h
    obtain ⟨expected, hexpected, h⟩ := h
    have hval : records.map Subtype.val = expected.map id :=
      map_of_mapM (fun fields record hrecord => val_of_construct hrecord) h
    rw [List.map_id] at hval
    refine ⟨rows, by rw [hrows]; rfl, ?_⟩
    rw [hval, hexpected]

theorem validateEntries_nodup {artifact recordsName runName : String} {trace : FastHitTrace}
    (h : validateEntries artifact recordsName runName runId records trace = .ok ()) :
    (records.map fun r => r.val.hitId).Nodup := by
  unfold validateEntries at h
  rw [raiseIf_bind_eq_ok, raiseIf_bind_eq_ok] at h
  exact not_not.mp h.2.1

theorem readFastHitHandoff_eq_ok {handoff : FastHitHandoff}
    (h : readFastHitHandoff files runId = .ok handoff) :
    handoff.trace.val = files.trace ∧ (handoff.records.map fun r => r.val.hitId).Nodup := by
  unfold readFastHitHandoff at h
  rw [Except.unit_bind_eq_ok, Except.bind_eq_ok] at h
  obtain ⟨-, read, -, h⟩ := h
  rw [Except.bind_eq_ok] at h
  obtain ⟨trace, htrace, h⟩ := h
  rw [Except.unit_bind_eq_ok, Except.pure_eq_ok] at h
  obtain ⟨hvalid, rfl⟩ := h
  refine ⟨val_of_construct (Except.mapError_eq_ok.mp htrace), ?_⟩
  unfold validateHandoff at hvalid
  rw [raiseIf_bind_eq_ok, Except.unit_bind_eq_ok, Except.unit_bind_eq_ok, raiseIf_bind_eq_ok] at hvalid
  exact validateEntries_nodup hvalid.2.2.2.2

/-- The stages of a selection. -/
theorem selectFastHit_eq_ok {selection : FastDetectionSelection} {audit : SelectionAudit}
    (h : selectFastHit utcMillis files policy runId entityId = .ok (selection, audit)) :
    ∃ handoff config result,
      readFastHitHandoff files runId = .ok handoff ∧
      readSelectionConfig files policy handoff.trace = .ok config ∧
      replayHits utcMillis files handoff.trace config runId = .ok handoff.records ∧
      (∀ hit ∈ handoff.records, hit.val.nativeHostId.bind policy.entityOf ≠ none) ∧
      selection = selectionOf (candidatesOf policy handoff.records entityId) ∧
      adaptFastHitHandoff files handoff entityId selection policy.entityOf = .ok result ∧
      audit.hitsSha256 = handoff.trace.val.outputSha256 ∧
      audit.inputCsvSha256 = handoff.trace.val.inputSha256 := by
  unfold selectFastHit at h
  rw [raiseIf_bind_eq_ok, Except.bind_eq_ok] at h
  obtain ⟨-, handoff, hhandoff, h⟩ := h
  rw [Except.bind_eq_ok] at h
  obtain ⟨config, hconfig, h⟩ := h
  rw [Except.bind_eq_ok] at h
  obtain ⟨expected, hexpected, h⟩ := h
  rw [raiseIf_bind_eq_ok, raiseIf_bind_eq_ok] at h
  obtain ⟨hsame, hmapped, h⟩ := h
  dsimp only at h
  rw [Except.bind_eq_ok] at h
  obtain ⟨result, hresult, h⟩ := h
  obtain ⟨hselection, rfl⟩ := Prod.mk.inj (Except.pure_eq_ok.mp h)
  rw [not_not.mp hsame] at hexpected
  rw [← hselection] at hresult
  exact ⟨handoff, config, result, hhandoff, hconfig, hexpected,
    fun hit hhit hnone => hmapped ⟨hit, hhit, hnone⟩, hselection, hresult, rfl, rfl⟩

theorem mem_candidatesOf {hit : FastHitRecord} : hit ∈ candidatesOf policy records entityId ↔
    hit ∈ records ∧ hit.val.nativeHostId.bind policy.entityOf = some entityId := by
  unfold candidatesOf
  rw [mem_sortedBy, List.mem_filter, decide_eq_true_eq]

theorem hit_of_key_eq (hnodup : (records.map fun r => r.val.hitId).Nodup) {a b : FastHitRecord}
    (ha : a ∈ records) (hb : b ∈ records) (hkey : selectionKey a = selectionKey b) : a = b := by
  have hpair := toLex.injective hkey
  have hids := toLex.injective (Prod.mk.inj hpair).2
  exact List.inj_on_of_nodup_map hnodup ha hb (Prod.mk.inj hids).2

/-- The candidates do not depend on the order of the records. -/
theorem candidatesOf_perm (hnodup : (records.map fun r => r.val.hitId).Nodup)
    {records' : List FastHitRecord} (hperm : records'.Perm records) :
    candidatesOf policy records' entityId = candidatesOf policy records entityId := by
  refine sortedBy_eq_of_perm (fun a ha b hb hkey => ?_) (hperm.filter _)
  have ha' := hperm.subset (List.mem_of_mem_filter ha)
  have hb' := hperm.subset (List.mem_of_mem_filter hb)
  exact hit_of_key_eq hnodup ha' hb' hkey

/-- The first candidate is the least one. -/
theorem selectionKey_le_of_head {hit : FastHitRecord} {rest : List FastHitRecord}
    (h : candidatesOf policy records entityId = hit :: rest) :
    ∀ other ∈ hit :: rest, selectionKey hit ≤ selectionKey other := by
  have hsorted := sortedBy_pairwise selectionKey
    (records.filter fun r => r.val.nativeHostId.bind policy.entityOf = some entityId)
  rw [show sortedBy selectionKey _ = hit :: rest from h, List.pairwise_cons] at hsorted
  intro other hother
  rcases List.mem_cons.mp hother with rfl | hother
  · exact le_rfl
  · exact hsorted.1 other hother

/-- What the selection of the candidates says of the records. -/
theorem selectionOf_candidatesOf {hitId : String}
    (h : (selectionOf (candidatesOf policy records entityId)).selectedHitId = some hitId) :
    ∃ hit ∈ records, hit.val.hitId = hitId ∧
      hit.val.nativeHostId.bind policy.entityOf = some entityId ∧
      ∀ other ∈ records, other.val.nativeHostId.bind policy.entityOf = some entityId →
        selectionKey hit ≤ selectionKey other := by
  cases hcandidates : candidatesOf policy records entityId with
  | nil =>
    rw [hcandidates] at h
    cases h
  | cons hit rest =>
    rw [hcandidates] at h
    have hmem : hit ∈ candidatesOf policy records entityId := by
      rw [hcandidates]
      exact List.mem_cons_self
    obtain ⟨hhit, hmaps⟩ := mem_candidatesOf.mp hmem
    refine ⟨hit, hhit, Option.some.inj h, hmaps, fun other hother hothers => ?_⟩
    have hother' : other ∈ candidatesOf policy records entityId :=
      mem_candidatesOf.mpr ⟨hother, hothers⟩
    rw [hcandidates] at hother'
    exact selectionKey_le_of_head hcandidates other hother'

/-- A result of the adapter is detected exactly when a record maps to the entity, and a miss when
each maps to another entity. A selection reads every qualifying row of the source, and no other:
it is detected exactly when the host of one maps to the entity, it selects the hit that is least
by time, rule and id whatever the order of the records, and its time is the time reported; a
miss has each qualifying row mapped to another entity. -/
theorem fastHandoff_sound :
    (∀ (files : FastFiles) (handoff : FastHitHandoff) (entityId : String)
        (selection : FastDetectionSelection) (entityMapper : String → Option String)
        (result : FastDetectionAdapterResult),
      adaptFastHitHandoff files handoff entityId selection entityMapper = .ok result →
      (result.detectionResult.detectorStatus = .detected ↔
        ∃ hit ∈ handoff.records, hit.val.nativeHostId.bind entityMapper = some entityId) ∧
      (result.detectionResult.detectorStatus = .miss → ∀ hit ∈ handoff.records,
        ∃ e, hit.val.nativeHostId.bind entityMapper = some e ∧ e ≠ entityId)) ∧
    ∀ (utcMillis : String → Except FastError UtcMillis) (files : FastFiles)
      (policy : FastSelectionPolicy) (runId entityId : String)
      (selection : FastDetectionSelection) (audit : SelectionAudit),
      selectFastHit utcMillis files policy runId entityId = .ok (selection, audit) →
      ∃ (rows : List HayabusaRow) (config : FastRunnerConfig) (handoff : FastHitHandoff)
        (result : FastDetectionAdapterResult),
        (files.csv files.trace.inputCsv).map Prod.snd = some rows ∧
        (files.config files.trace.configPath).map Prod.snd = some config.val ∧
        readFastHitHandoff files runId = .ok handoff ∧
        hayabusaRowsToFastHits utcMillis rows runId config = .ok (handoff.records.map Subtype.val) ∧
        adaptFastHitHandoff files handoff entityId selection policy.entityOf = .ok result ∧
        (result.detectionResult.detectorStatus = .detected ↔
          ∃ row ∈ rows, isQualifyingHit config row = true ∧
            (orNone row.computer).bind policy.entityOf = some entityId) ∧
        (result.detectionResult.detectorStatus = .miss →
          ∀ row ∈ rows, isQualifyingHit config row = true →
            ∃ e, (orNone row.computer).bind policy.entityOf = some e ∧ e ≠ entityId) ∧
        (result.detectionResult.detectorStatus = .detected →
          ∃ hit ∈ handoff.records, selection.selectedHitId = some hit.val.hitId ∧
            result.detectionResult.detectorTime = some hit.val.timestamp ∧
            hit.val.nativeHostId.bind policy.entityOf = some entityId ∧
            ∀ other ∈ handoff.records,
              other.val.nativeHostId.bind policy.entityOf = some entityId →
                selectionKey hit ≤ selectionKey other) ∧
        ∀ records : List FastHitRecord, records.Perm handoff.records →
          selectionOf (candidatesOf policy records entityId) = selection := by
  refine ⟨fun files handoff entityId selection entityMapper result h =>
    ⟨(adaptFastHitHandoff_sound h).1, (adaptFastHitHandoff_sound h).2.1⟩, ?_⟩
  intro utcMillis files policy runId entityId selection audit h
  obtain ⟨handoff, config, result, hread, hconfig, hreplay, -, hselection, hadapt, -, -⟩ :=
    selectFastHit_eq_ok h
  obtain ⟨htrace, hnodup⟩ := readFastHitHandoff_eq_ok hread
  obtain ⟨rows, hrows, hhits⟩ := replayHits_eq_ok hreplay
  have hfields := readSelectionConfig_eq_ok hconfig
  rw [htrace] at hrows hfields
  obtain ⟨hdetected, hmiss, -⟩ := adaptFastHitHandoff_sound hadapt
  refine ⟨rows, config, handoff, result, hrows, hfields, hread, hhits, hadapt, ?_, ?_, ?_, ?_⟩
  · rw [hdetected, ← exists_hit_iff hhits fun host => host.bind policy.entityOf = some entityId]
    simp only [List.mem_map, exists_exists_and_eq_and]
  · intro hstatus row hrow hqualifying
    by_contra hnot
    have hrow' := (exists_hit_iff hhits fun host =>
      ¬ ∃ e, host.bind policy.entityOf = some e ∧ e ≠ entityId).mpr ⟨row, hrow, hqualifying, hnot⟩
    simp only [List.mem_map, exists_exists_and_eq_and] at hrow'
    obtain ⟨hit, hhit, hnot'⟩ := hrow'
    exact hnot' (hmiss hstatus hit hhit)
  · intro hstatus
    obtain ⟨hit, hhit, hselected, htime⟩ := adaptFastHitHandoff_detectorTime hadapt hstatus
    rw [hselection] at hselected
    obtain ⟨least, hleast, hid, hmaps, hle⟩ := selectionOf_candidatesOf hselected
    have hsame : least = hit := List.inj_on_of_nodup_map hnodup hleast hhit hid
    rw [hsame] at hmaps hle
    rw [← hselection] at hselected
    exact ⟨hit, hhit, hselected, htime, hmaps, hle⟩
  · intro records hperm
    rw [candidatesOf_perm hnodup hperm, hselection]

end Selection

namespace Sample

/-- The timestamps of the rows below. -/
def clock (timestamp : String) : Except FastError UtcMillis :=
  if timestamp = "2026-01-01 00:00:05.000 +00:00" then .ok 1767225605000
  else if timestamp = "2026-01-01 00:00:09.000 +00:00" then .ok 1767225609000
  else .error (.valueError "unrecognized Hayabusa timestamp format")

/-- A row of a rule that does not qualify, and two hits of a host, the later one first. -/
def rows : List HayabusaRow :=
  [⟨"2026-01-01 00:00:05.000 +00:00", "noise", some "unknown-host", none⟩,
    ⟨"2026-01-01 00:00:09.000 +00:00", "r1", some "HOST-A", some "17"⟩,
    ⟨"2026-01-01 00:00:05.000 +00:00", "r1", some "HOST-A", none⟩]

def configFields : FastRunnerConfigFields where
  detectorEngineVersion := "2.0"
  detectorConfigVersion := "c1"
  qualifyingRuleIds := ["r1"]
  ruleMetadata := [("r1", ⟨"v1", "k1"⟩)]

/-- A digest. -/
def digest : String := String.ofList (List.replicate 64 'a')

def hit (id : String) (timestamp : UtcMillis) (recordRef : Option String) : FastHitFields where
  hitId := id
  runId := "RUN-20260101-001"
  timestamp := timestamp
  detectorEngine := "hayabusa"
  detectorEngineVersion := "2.0"
  ruleId := "r1"
  ruleVersion := "v1"
  alertKey := "k1"
  nativeHostId := some "HOST-A"
  nativeRecordRef := recordRef
  detectorConfigVersion := "c1"

/-- The files that the runner writes for the rows. -/
def handoffFiles : FastFiles where
  hits := [hit "RUN-20260101-001-hit-2" 1767225609000 (some "17"),
    hit "RUN-20260101-001-hit-3" 1767225605000 none]
  hitsSha256 := digest
  trace := {
    runId := "RUN-20260101-001"
    inputCsv := "hits.csv"
    inputSha256 := digest
    configPath := "config.json"
    configSha256 := digest
    outputSha256 := digest
    inputRowCount := 3
    hitCount := 2
    hits := [⟨"RUN-20260101-001-hit-2", 2, "r1"⟩, ⟨"RUN-20260101-001-hit-3", 3, "r1"⟩] }
  csv path := if path = "hits.csv" then some (digest, rows) else none
  config path := if path = "config.json" then some (digest, configFields) else none

def policyFields : FastSelectionPolicyFields where
  detectorSetVersion := "s1"
  detectorConfigVersion := "c1"
  configSha256 := digest
  hostEntityMap := [("HOST-A", "host-a")]

theorem policyFields_valid : policyFields.validate = .ok () := by decide +kernel

def policy : FastSelectionPolicy := ⟨policyFields, policyFields_valid⟩

example : (runFastHandoff clock "hits.csv" digest rows "config.json" digest configFields
    "RUN-20260101-001" digest).toOption = some (handoffFiles.hits, handoffFiles.trace) := by
  decide +kernel

/-- The earlier hit is selected. -/
theorem selectFastHit_handoffFiles :
    (selectFastHit clock handoffFiles policy "RUN-20260101-001" "host-a").toOption.map
      (fun selected => selected.1.selectedHitId) = some (some "RUN-20260101-001-hit-3") := by
  decide +kernel

end Sample

theorem fastHandoff_sound_earlierHit :
    ∃ selection audit handoff result,
      selectFastHit Sample.clock Sample.handoffFiles Sample.policy "RUN-20260101-001" "host-a" =
        .ok (selection, audit) ∧
      selection.selectedHitId = some "RUN-20260101-001-hit-3" ∧
      adaptFastHitHandoff Sample.handoffFiles handoff "host-a" selection Sample.policy.entityOf =
        .ok result ∧
      (result.detectionResult.detectorStatus = .detected ↔
        ∃ hit ∈ handoff.records, hit.val.nativeHostId.bind Sample.policy.entityOf = some "host-a") ∧
      ∀ records : List FastHitRecord, records.Perm handoff.records →
        (selectionOf (candidatesOf Sample.policy records "host-a")).selectedHitId =
          some "RUN-20260101-001-hit-3" := by
  have hselected := Sample.selectFastHit_handoffFiles
  cases h : selectFastHit Sample.clock Sample.handoffFiles Sample.policy "RUN-20260101-001" "host-a" with
  | error e =>
    rw [h] at hselected
    cases hselected
  | ok pair =>
    rw [h] at hselected
    have hid : pair.1.selectedHitId = some "RUN-20260101-001-hit-3" := Option.some.inj hselected
    obtain ⟨_, _, handoff, result, -, -, -, -, hadapt, -, -, -, hperm⟩ :=
      fastHandoff_sound.2 _ _ _ _ _ _ _ h
    refine ⟨pair.1, pair.2, handoff, result, rfl, hid, hadapt,
      (fastHandoff_sound.1 _ _ _ _ _ _ hadapt).1, fun records hrecords => ?_⟩
    rw [hperm records hrecords, hid]

end IncidentAwareness.Detection
