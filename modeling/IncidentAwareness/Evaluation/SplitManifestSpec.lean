import IncidentAwareness.Evaluation.SplitManifest
import Mathlib.Data.List.Perm.Basic

/-!
# What a split manifest keeps apart

* `Separated`, `validate_eq_ok`: an accepted manifest is a partition of its inventory in
  which no run, Pair, family or group is in two splits;
* `auditSplitManifest_report`: the lists of an audit are that partition;
* `SamePolicy`, `SameManifest`, `canonicalUsage_eq_iff`, `manifestDigest_eq_iff`: what the
  digests tell apart;
* `LeakFree`, `splitManifest_canonical`: what is accepted, and what its digest tells apart;
* `exists_buildSplitManifest_iff`: which inventories a manifest is built of;
* `loadUsagePolicy_permits`: a loaded policy permits what a sidecar permits, in any order.
-/

namespace IncidentAwareness.Evaluation

open IncidentAwareness.Common IncidentAwareness.Lib

/-! ## Partitions -/

section Partition

variable {manifest : SplitManifestFields} {rows done : List SplitAssignment}

/-- Every run of the inventory is in one split for which its usage record permits it, and what
runs share is in one split. -/
structure Separated (manifest : SplitManifestFields) : Prop where
  covers : (manifest.assignments.map (·.runId)).Perm manifest.inventoryRunIds
  every : ∀ split, ∃ row ∈ manifest.assignments, row.split = split
  families : ∀ runId, (manifest.family runId).isSome ↔ runId ∈ manifest.inventoryRunIds
  eligible : ∀ row ∈ manifest.assignments, ∃ record ∈ manifest.usagePolicy.val.runs,
    record.runId = row.runId ∧ row.split ∈ record.eligibleSplits ∧ record.usedForTuning = false
  pair : Agrees manifest.pair (·.split) manifest.assignments
  family : Agrees (fun row => manifest.family row.runId) (·.split) manifest.assignments
  group : Agrees (fun row => some row.groupId) (·.split) manifest.assignments

/-- What a valid policy says of its records. -/
theorem records_of_valid (policy : UsagePolicy) : (policy.val.runs.map (·.runId)).Nodup ∧
    ∀ record ∈ policy.val.runs, record.validate = .ok () := by
  obtain ⟨-, h⟩ := Except.unit_bind_eq_ok.mp policy.property
  obtain ⟨-, h⟩ := Except.unit_bind_eq_ok.mp h
  obtain ⟨-, h⟩ := raiseIf_bind_eq_ok.mp h
  obtain ⟨hruns, h⟩ := Except.unit_bind_eq_ok.mp h
  obtain ⟨-, h⟩ := raiseIf_bind_eq_ok.mp h
  exact ⟨not_not.mp (raiseIf_eq_ok.mp h), forM_eq_ok.mp hruns⟩

/-- What a valid record says of its splits. -/
theorem splits_of_valid {record : RunUsage} (h : record.validate = .ok ()) :
    record.eligibleSplits.Nodup ∧ (record.eligibleSplits ≠ [] → record.usedForTuning = false) := by
  obtain ⟨-, h⟩ := Except.unit_bind_eq_ok.mp h
  obtain ⟨-, h⟩ := Except.unit_bind_eq_ok.mp h
  obtain ⟨-, h⟩ := Except.unit_bind_eq_ok.mp h
  obtain ⟨-, h⟩ := Except.unit_bind_eq_ok.mp h
  obtain ⟨hnodup, h⟩ := raiseIf_bind_eq_ok.mp h
  refine ⟨not_not.mp hnodup, fun hne => ?_⟩
  have htuning := raiseIf_eq_ok.mp h
  rw [not_and, not_not] at htuning
  rw [← Bool.not_eq_true]
  exact fun hused => hne (htuning hused)

theorem usage_eq_some {policy : UsagePolicy} {runId : String} {record : RunUsage} :
    policy.val.usage runId = some record ↔ record ∈ policy.val.runs ∧ record.runId = runId := by
  constructor
  · intro h
    have hrunId := List.find?_some h
    exact ⟨List.mem_of_find?_eq_some h, of_decide_eq_true hrunId⟩
  · rintro ⟨hmem, rfl⟩
    cases hfind : policy.val.usage record.runId with
    | none =>
      have hnone := List.find?_eq_none.mp hfind record hmem
      simp at hnone
    | some other =>
      rw [UsagePolicyFields.usage] at hfind
      have hother := List.find?_some hfind
      have heq := List.inj_on_of_nodup_map (records_of_valid policy).1
        (List.mem_of_find?_eq_some hfind) hmem (of_decide_eq_true hother)
      rw [heq]

theorem sameSet_eq_true {l l' : List String} :
    SplitManifestFields.sameSet l l' = true ↔ ∀ a, a ∈ l ↔ a ∈ l' := by
  rw [SplitManifestFields.sameSet, Bool.and_eq_true, List.all_eq_true, List.all_eq_true]
  simp only [decide_eq_true_eq]
  exact ⟨fun h a => ⟨h.1 a, h.2 a⟩, fun h => ⟨fun a => (h a).mp, fun a => (h a).mpr⟩⟩

theorem family_isSome {runId : String} : (manifest.family runId).isSome ↔
    runId ∈ manifest.inventoryFamilyIds.map Prod.fst := by
  rw [SplitManifestFields.family, List.lookup_isSome_iff, List.mem_map]
  refine exists_congr fun item => and_congr_right fun _ => ?_
  rw [beq_iff_eq]
  exact eq_comm

/-- The loop over usage and Pairs lets the rows through that are permitted, and whose Pairs are in
one split with the rows before them. -/
theorem checkUsage_eq_ok {seen : Seen String Split}
    (h : seen.Holds manifest.pair (·.split) done) : manifest.checkUsage seen rows = .ok () ↔
      (∀ row ∈ rows, ∃ record, manifest.usagePolicy.val.usage row.runId = some record ∧
        row.split ∈ record.eligibleSplits) ∧
      Agrees manifest.pair (·.split) (done ++ rows) := by
  induction rows generalizing seen done with
  | nil => simpa [SplitManifestFields.checkUsage] using h.agrees
  | cons row rows ih =>
    rw [SplitManifestFields.checkUsage, List.forall_mem_cons]
    cases husage : manifest.usagePolicy.val.usage row.runId with
    | none => simp
    | some record =>
      have hpair : manifest.pair row = record.pairId := by
        rw [SplitManifestFields.pair, husage]
        rfl
      have happend : done ++ row :: rows = (done ++ [row]) ++ rows := by simp
      dsimp only
      rw [raiseIf_bind_eq_ok, not_not, Except.bind_eq_ok, ← hpair, happend]
      constructor
      · rintro ⟨heligible, seen', hclaim, hrest⟩
        obtain ⟨hrows, hagrees⟩ := (ih (holds_claim h hclaim)).mp hrest
        exact ⟨⟨⟨record, rfl, heligible⟩, hrows⟩, hagrees⟩
      · rintro ⟨⟨⟨record', heq, heligible⟩, hrows⟩, hagrees⟩
        obtain rfl := Option.some.inj heq
        obtain ⟨seen', hclaim⟩ := exists_claim
          (e := DatasetError.valueError "a usage Pair must not cross split boundaries") h
          (hagrees.subset (List.subset_append_left _ _))
        exact ⟨heligible, seen', hclaim, (ih (holds_claim h hclaim)).mpr ⟨hrows, hagrees⟩⟩

/-- The loop over families and groups lets the rows through whose families and groups are in one
split with the rows before them. -/
theorem checkFamilies_eq_ok {families groups : Seen String Split}
    (hf : families.Holds (fun row => manifest.family row.runId) (·.split) done)
    (hg : groups.Holds (fun row => some row.groupId) (·.split) done) :
    manifest.checkFamilies families groups rows = .ok () ↔
      (∀ row ∈ rows, (manifest.family row.runId).isSome) ∧
      Agrees (fun row => manifest.family row.runId) (·.split) (done ++ rows) ∧
      Agrees (fun row => some row.groupId) (·.split) (done ++ rows) := by
  induction rows generalizing families groups done with
  | nil => simpa [SplitManifestFields.checkFamilies] using ⟨hf.agrees, hg.agrees⟩
  | cons row rows ih =>
    rw [SplitManifestFields.checkFamilies, List.forall_mem_cons]
    have happend : done ++ row :: rows = (done ++ [row]) ++ rows := by simp
    cases hfamily : manifest.family row.runId with
    | none => simp
    | some family =>
      dsimp only
      rw [Except.bind_eq_ok, happend]
      constructor
      · rintro ⟨families', hfclaim, hrest⟩
        obtain ⟨groups', hgclaim, hrest⟩ := Except.bind_eq_ok.mp hrest
        rw [← hfamily] at hfclaim
        have hf' := holds_claim (a := row) hf hfclaim
        have hg' := holds_claim (a := row) hg hgclaim
        obtain ⟨hrows, hagrees⟩ := (ih hf' hg').mp hrest
        exact ⟨⟨rfl, hrows⟩, hagrees⟩
      · rintro ⟨⟨-, hrows⟩, hfagrees, hgagrees⟩
        obtain ⟨families', hfclaim⟩ := exists_claim
          (e := DatasetError.valueError "a family must not cross split boundaries") hf
          (hfagrees.subset (List.subset_append_left _ _))
        obtain ⟨groups', hgclaim⟩ := exists_claim
          (e := DatasetError.valueError "a group must not cross split boundaries") hg
          (hgagrees.subset (List.subset_append_left _ _))
        have hf' := holds_claim (a := row) hf hfclaim
        have hg' := holds_claim (a := row) hg hgclaim
        rw [hfamily] at hfclaim
        refine ⟨families', hfclaim, Except.bind_eq_ok.mpr ⟨groups', hgclaim, ?_⟩⟩
        exact (ih hf' hg').mpr ⟨hrows, hfagrees, hgagrees⟩

/-- `valid_partition` accepts exactly what keeps the splits apart. -/
theorem validPartition_eq_ok (hnodup : manifest.inventoryRunIds.Nodup) :
    manifest.validPartition = .ok () ↔ Separated manifest := by
  have hsplit : ∀ split : Split, split ∈ splits := by
    intro split
    cases split <;> decide
  rw [SplitManifestFields.validPartition]
  simp only [Except.unit_bind_eq_ok, raiseIf_eq_ok, not_not, sameSet_eq_true, ne_eq]
  rw [checkUsage_eq_ok (holds_nil _ _), checkFamilies_eq_ok (holds_nil _ _) (holds_nil _ _)]
  simp only [List.nil_append]
  constructor
  · rintro ⟨hassigned, hcover, hevery, hfamilies, -, ⟨husage, hpair⟩, -, hfamily, hgroup⟩
    refine ⟨(List.perm_ext_iff_of_nodup hassigned hnodup).mpr hcover, fun split => ?_,
      fun runId => family_isSome.trans (hfamilies runId), fun row hrow => ?_, hpair, hfamily,
      hgroup⟩
    · obtain ⟨row, hrow, heq⟩ := List.mem_map.mp (hevery split (hsplit split))
      exact ⟨row, hrow, heq⟩
    · obtain ⟨record, hrecord, heligible⟩ := husage row hrow
      obtain ⟨hmem, hrunId⟩ := usage_eq_some.mp hrecord
      have hvalid := (records_of_valid manifest.usagePolicy).2 record hmem
      exact ⟨record, hmem, hrunId, heligible,
        (splits_of_valid hvalid).2 (List.ne_nil_of_mem heligible)⟩
  · intro h
    have husage : ∀ row ∈ manifest.assignments, ∃ record,
        manifest.usagePolicy.val.usage row.runId = some record ∧
          row.split ∈ record.eligibleSplits := by
      intro row hrow
      obtain ⟨record, hmem, hrunId, heligible, -⟩ := h.eligible row hrow
      exact ⟨record, usage_eq_some.mpr ⟨hmem, hrunId⟩, heligible⟩
    refine ⟨h.covers.nodup_iff.mpr hnodup, fun runId => h.covers.mem_iff, fun split _ => ?_,
      fun runId => family_isSome.symm.trans (h.families runId), ?_, ⟨husage, h.pair⟩,
      fun row hrow => ?_, h.family, h.group⟩
    · obtain ⟨row, hrow, heq⟩ := h.every split
      exact List.mem_map.mpr ⟨row, hrow, heq⟩
    · rw [List.filter_eq_nil_iff]
      intro runId hrunId
      obtain ⟨row, hrow, rfl⟩ := List.mem_map.mp (h.covers.mem_iff.mpr hrunId)
      obtain ⟨record, hmem, heq, -⟩ := h.eligible row hrow
      rw [decide_eq_true_eq, not_not, ← heq]
      exact List.mem_map_of_mem hmem
    · exact (h.families row.runId).mpr (h.covers.mem_iff.mp (List.mem_map_of_mem hrow))

theorem nodup_of_checkFields (h : manifest.checkFields = .ok ()) :
    manifest.inventoryRunIds.Nodup := by
  obtain ⟨-, h⟩ := Except.unit_bind_eq_ok.mp h
  obtain ⟨-, h⟩ := Except.unit_bind_eq_ok.mp h
  obtain ⟨-, h⟩ := Except.unit_bind_eq_ok.mp h
  obtain ⟨-, h⟩ := raiseIf_bind_eq_ok.mp h
  obtain ⟨-, h⟩ := Except.unit_bind_eq_ok.mp h
  exact not_not.mp (raiseIf_bind_eq_ok.mp h).1

theorem separated_of_validate (h : manifest.validate = .ok ()) :
    manifest.inventoryRunIds.Nodup ∧ Separated manifest := by
  obtain ⟨hfields, h⟩ := Except.unit_bind_eq_ok.mp h
  have hnodup := nodup_of_checkFields hfields
  exact ⟨hnodup, (validPartition_eq_ok hnodup).mp h⟩

/-- A run with one assignment is in one split. -/
theorem agrees_runId (h : (rows.map (·.runId)).Nodup) :
    Agrees (fun row : SplitAssignment => some row.runId) (·.split) rows := by
  intro row hrow row' hrow' runId hkey hkey'
  rw [List.inj_on_of_nodup_map h hrow hrow' (Option.some.inj (hkey.trans hkey'.symm))]

/-- The assignments are a partition of the inventory in which no run, Pair, family or group is in
two splits, and no run is in a split that its usage record does not permit. -/
structure LeakFree (manifest : SplitManifestFields) : Prop where
  covers : (manifest.assignments.map (·.runId)).Perm manifest.inventoryRunIds
  run : Agrees (fun row => some row.runId) (·.split) manifest.assignments
  pair : Agrees manifest.pair (·.split) manifest.assignments
  family : Agrees (fun row => manifest.family row.runId) (·.split) manifest.assignments
  group : Agrees (fun row => some row.groupId) (·.split) manifest.assignments
  recorded : ∀ row ∈ manifest.assignments, ∃ record ∈ manifest.usagePolicy.val.runs,
    record.runId = row.runId
  permitted : ∀ row ∈ manifest.assignments, ∀ record ∈ manifest.usagePolicy.val.runs,
    record.runId = row.runId → row.split ∈ record.eligibleSplits

/-- An accepted manifest is free of leaks. -/
theorem leakFree_of_validate (h : manifest.validate = .ok ()) : LeakFree manifest := by
  obtain ⟨hnodup, hsep⟩ := separated_of_validate h
  refine ⟨hsep.covers, agrees_runId (hsep.covers.nodup_iff.mpr hnodup), hsep.pair, hsep.family,
    hsep.group, fun row hrow => ?_, fun row hrow record hrecord hrunId => ?_⟩
  · obtain ⟨record, hrecord, hrunId, -⟩ := hsep.eligible row hrow
    exact ⟨record, hrecord, hrunId⟩
  · obtain ⟨record', hrecord', hrunId', hsplit, -⟩ := hsep.eligible row hrow
    -- A policy has one record for a run.
    rw [List.inj_on_of_nodup_map (records_of_valid manifest.usagePolicy).1 hrecord hrecord'
      (hrunId.trans hrunId'.symm)]
    exact hsplit

/-- A manifest whose fields are valid is accepted if and only if every run of its inventory has one
assignment, to a split for which its usage record permits it, every split has a run, and no Pair,
family or group is in two splits. -/
theorem validate_eq_ok (hfields : manifest.checkFields = .ok ()) :
    manifest.validate = .ok () ↔ Separated manifest := by
  rw [SplitManifestFields.validate, Except.unit_bind_eq_ok, validPartition_eq_ok
    (nodup_of_checkFields hfields)]
  exact and_iff_right hfields

end Partition

/-! ## The lists of an audit -/

section Report

variable {D : Type} {sha256 : List UInt8 → D} {manifest : SplitManifestFields} {audit : SplitAudit D}

/-- A list without repetition, in the order of its texts. -/
abbrev Increasing (l : List String) : Prop := l.Pairwise (· < ·)

theorem increasing_sortedBy {l : List String} (h : l.Nodup) : Increasing (sortedBy id l) := by
  have hnodup := (sortedBy_perm id l).nodup_iff.mpr h
  exact ((sortedBy_pairwise id l).and hnodup).imp fun hab => lt_of_le_of_ne hab.1 hab.2

/-- What a report lists of a split: the values of a key of its rows. -/
structure Lists (manifest : SplitManifestFields) (report : Split → List String)
    (key : SplitAssignment → Option String) : Prop where
  increasing : ∀ split, Increasing (report split)
  mem : ∀ split value, value ∈ report split ↔
    ∃ row ∈ manifest.assignments, row.split = split ∧ key row = some value

theorem Lists.disjoint {report : Split → List String} {key : SplitAssignment → Option String}
    (h : Lists manifest report key) (hagrees : Agrees key (·.split) manifest.assignments)
    {s s' : Split} (hne : s ≠ s') : List.Disjoint (report s) (report s') := by
  intro value hs hs'
  obtain ⟨row, hrow, rfl, hkey⟩ := (h.mem _ _).mp hs
  obtain ⟨row', hrow', rfl, hkey'⟩ := (h.mem _ _).mp hs'
  exact hne (hagrees row hrow row' hrow' value hkey hkey')

theorem lists_runIds (hnodup : (manifest.assignments.map (·.runId)).Nodup) :
    Lists manifest (fun s => (manifest.report s).runIds) fun row => some row.runId where
  increasing split := by
    have hsub : ((manifest.assignments.filter (·.split = split)).map (·.runId)).Nodup :=
      hnodup.sublist (List.filter_sublist.map _)
    exact increasing_sortedBy hsub
  mem split value := by
    simp only [SplitManifestFields.report, mem_sortedBy, List.mem_map, List.mem_filter,
      decide_eq_true_eq, Option.some.injEq, and_assoc]

theorem lists_familyIds : Lists manifest (fun s => (manifest.report s).familyIds)
    fun row => manifest.family row.runId where
  increasing split := increasing_sortedBy (List.nodup_dedup _)
  mem split value := by
    simp only [SplitManifestFields.report, mem_sortedBy, List.mem_dedup, List.mem_filterMap,
      List.mem_filter, decide_eq_true_eq, and_assoc]

theorem lists_groupIds : Lists manifest (fun s => (manifest.report s).groupIds)
    fun row => some row.groupId where
  increasing split := increasing_sortedBy (List.nodup_dedup _)
  mem split value := by
    simp only [SplitManifestFields.report, mem_sortedBy, List.mem_dedup, List.mem_map,
      List.mem_filter, decide_eq_true_eq, Option.some.injEq, and_assoc]

/-- The lists of two splits share nothing. -/
def Apart (report : Split → List String) : Prop :=
  ∀ s s', s ≠ s' → List.Disjoint (report s) (report s')

/-- An audit that returns lists every run of the inventory in one split, in order and once; the
runs, the families and the groups of two splits share nothing; a run, with its family, is only in
a split for which its usage record permits it. -/
theorem auditSplitManifest_report (h : auditSplitManifest sha256 manifest = .ok audit) :
    (∀ runId, runId ∈ manifest.inventoryRunIds ↔ ∃ s, runId ∈ (audit.report s).runIds) ∧
      (∀ s, Increasing (audit.report s).runIds ∧ Increasing (audit.report s).familyIds ∧
        Increasing (audit.report s).groupIds) ∧
      Apart (fun s => (audit.report s).runIds) ∧ Apart (fun s => (audit.report s).familyIds) ∧
      Apart (fun s => (audit.report s).groupIds) ∧
      ∀ s, ∀ runId ∈ (audit.report s).runIds,
        (∃ family ∈ (audit.report s).familyIds, manifest.family runId = some family) ∧
        ∃ record ∈ manifest.usagePolicy.val.runs, record.runId = runId ∧
          s ∈ record.eligibleSplits := by
  obtain ⟨hvalid, h⟩ := Except.unit_bind_eq_ok.mp h
  obtain rfl := Except.ok.inj h
  obtain ⟨hnodup, hsep⟩ := separated_of_validate hvalid
  have hassigned := hsep.covers.nodup_iff.mpr hnodup
  have hruns := lists_runIds hassigned
  have honce := agrees_runId hassigned
  refine ⟨fun runId => ?_, fun s => ⟨hruns.increasing s, lists_familyIds.increasing s,
    lists_groupIds.increasing s⟩, fun s s' hne => hruns.disjoint honce hne,
    fun s s' hne => lists_familyIds.disjoint hsep.family hne,
    fun s s' hne => lists_groupIds.disjoint hsep.group hne, fun s runId hmem => ?_⟩
  · rw [← hsep.covers.mem_iff, List.mem_map]
    constructor
    · rintro ⟨row, hrow, rfl⟩
      exact ⟨row.split, (hruns.mem _ _).mpr ⟨row, hrow, rfl, rfl⟩⟩
    · rintro ⟨s, hmem⟩
      obtain ⟨row, hrow, -, hkey⟩ := (hruns.mem _ _).mp hmem
      exact ⟨row, hrow, Option.some.inj hkey⟩
  · obtain ⟨row, hrow, rfl, hkey⟩ := (hruns.mem _ _).mp hmem
    obtain rfl := Option.some.inj hkey
    have hinventory := hsep.covers.mem_iff.mp (List.mem_map_of_mem hrow)
    obtain ⟨family, hfamily⟩ := Option.isSome_iff_exists.mp ((hsep.families _).mpr hinventory)
    obtain ⟨record, hrecord, hrunId, heligible, -⟩ := hsep.eligible row hrow
    exact ⟨⟨family, (lists_familyIds.mem _ _).mpr ⟨row, hrow, rfl, hfamily⟩, hfamily⟩,
      record, hrecord, hrunId, heligible⟩

end Report

/-! ## What the digests tell apart -/

section Digests

/-- A record with the eligible splits in another order. -/
structure SameUsage (r r' : RunUsage) : Prop where
  runId : r.runId = r'.runId
  pairId : r.pairId = r'.pairId
  splits : r.eligibleSplits.Perm r'.eligibleSplits
  tuning : r.usedForTuning = r'.usedForTuning
  reason : r.reason = r'.reason

theorem SameUsage.refl (r : RunUsage) : SameUsage r r := ⟨rfl, rfl, List.Perm.refl _, rfl, rfl⟩

/-- Policies that differ in the order of records and of eligible splits, and in the order and the
repetition of hashes. -/
structure SamePolicy (p p' : UsagePolicyFields) : Prop where
  version : p.policyVersion = p'.policyVersion
  sources : ∀ digest, digest ∈ p.sourceSha256 ↔ digest ∈ p'.sourceSha256
  runs : ∀ r ∈ p.runs, ∃ r' ∈ p'.runs, SameUsage r r'
  runs' : ∀ r' ∈ p'.runs, ∃ r ∈ p.runs, SameUsage r r'

theorem SamePolicy.refl (p : UsagePolicyFields) : SamePolicy p p :=
  ⟨rfl, fun _ => Iff.rfl, fun r hr => ⟨r, hr, .refl r⟩, fun r hr => ⟨r, hr, .refl r⟩⟩

theorem Split.text_injective : Function.Injective Split.text := by
  intro s s'
  cases s <;> cases s' <;> decide

theorem map_str_injective {l l' : List String} : l.map Json.str = l'.map Json.str ↔ l = l' :=
  List.map_inj_right fun _ _ h => Json.str.inj h

/-- The canonical rows are equal where only the order of the eligible splits differs. -/
theorem canonical_eq_iff {r r' : RunUsage} : r.canonical = r'.canonical ↔ SameUsage r r' := by
  simp only [RunUsage.canonical, Json.obj.injEq, List.cons.injEq, Prod.mk.injEq, true_and, and_true,
    Json.arr.injEq, Json.str.injEq, map_str_injective, sortedBy_eq_iff_of_injective Function.injective_id,
    List.map_perm_map_iff Split.text_injective]
  constructor
  · rintro ⟨hsplits, hpair, hreason, hrunId, htuning⟩
    exact ⟨hrunId, Json.strOrNull_injective hpair, hsplits, Json.bool_injective htuning, hreason⟩
  · rintro ⟨hrunId, hpair, hsplits, htuning, hreason⟩
    exact ⟨hsplits, by rw [hpair], hreason, hrunId, by rw [htuning]⟩

theorem sorted_dedup_eq_iff {l l' : List String} :
    sortedBy id l.dedup = sortedBy id l'.dedup ↔ ∀ a, a ∈ l ↔ a ∈ l' := by
  rw [sortedBy_eq_iff_of_injective Function.injective_id,
    List.perm_ext_iff_of_nodup (List.nodup_dedup l) (List.nodup_dedup l')]
  simp only [List.mem_dedup]

/-- Policies with one record for a run have one canonical form where they are the same. -/
theorem canonicalUsage_eq_iff {p p' : UsagePolicyFields} (h : (p.runs.map (·.runId)).Nodup)
    (h' : (p'.runs.map (·.runId)).Nodup) :
    canonicalUsage p = canonicalUsage p' ↔ SamePolicy p p' := by
  simp only [canonicalUsage, Json.obj.injEq, List.cons.injEq, Prod.mk.injEq, true_and, and_true,
    Json.arr.injEq, Json.str.injEq, map_str_injective, sorted_dedup_eq_iff]
  constructor
  · rintro ⟨hversion, hruns, hsources⟩
    have hmem : ∀ json, json ∈ (sortedBy (·.runId) p.runs).map RunUsage.canonical ↔
        json ∈ (sortedBy (·.runId) p'.runs).map RunUsage.canonical := by
      intro json
      rw [hruns]
    simp only [List.mem_map, mem_sortedBy] at hmem
    refine ⟨hversion, hsources, fun r hr => ?_, fun r' hr' => ?_⟩
    · obtain ⟨r', hr', heq⟩ := (hmem _).mp ⟨r, hr, rfl⟩
      exact ⟨r', hr', canonical_eq_iff.mp heq.symm⟩
    · obtain ⟨r, hr, heq⟩ := (hmem _).mpr ⟨r', hr', rfl⟩
      exact ⟨r, hr, canonical_eq_iff.mp heq⟩
  · intro hsame
    refine ⟨hsame.version, map_sortedBy_eq h h' (fun r hr => ?_) (fun r' hr' => ?_), hsame.sources⟩
    · obtain ⟨r', hr', husage⟩ := hsame.runs r hr
      exact ⟨r', hr', husage.runId.symm, (canonical_eq_iff.mpr husage).symm⟩
    · obtain ⟨r, hr, husage⟩ := hsame.runs' r' hr'
      exact ⟨r, hr, husage.runId, canonical_eq_iff.mpr husage⟩

/-- Manifests that differ in the order of their entries. -/
structure SameManifest (m m' : SplitManifestFields) : Prop where
  version : m.manifestVersion = m'.manifestVersion
  grouping : m.groupingPolicyVersion = m'.groupingPolicyVersion
  inventory : m.inventoryRunIds.Perm m'.inventoryRunIds
  families : m.inventoryFamilyIds.Perm m'.inventoryFamilyIds
  assignments : m.assignments.Perm m'.assignments
  policy : SamePolicy m.usagePolicy.val m'.usagePolicy.val

theorem assignment_canonical_injective : Function.Injective SplitAssignment.canonical := by
  intro row row' h
  simp only [SplitAssignment.canonical, Json.obj.injEq, List.cons.injEq, Prod.mk.injEq, true_and,
    and_true, Json.str.injEq] at h
  obtain ⟨hgroup, hrunId, hsplit⟩ := h
  cases row
  cases row'
  simp_all [Split.text_injective.eq_iff]

theorem family_item_injective :
    Function.Injective fun item : String × String => (item.1, Json.str item.2) := by
  intro a b h
  obtain ⟨hkey, hvalue⟩ := Prod.mk.inj h
  exact Prod.ext hkey (Json.str.inj hvalue)

/-- The canonical manifests are equal where only orders differ. -/
theorem canonicalManifest_eq_iff {m m' : SplitManifestFields}
    (h : (m.assignments.map (·.runId)).Nodup) :
    canonicalManifest m = canonicalManifest m' ↔ SameManifest m m' := by
  simp only [canonicalManifest, Json.obj.injEq, List.cons.injEq, Prod.mk.injEq, true_and, and_true,
    Json.arr.injEq, Json.str.injEq, map_str_injective, sortedBy_eq_iff_of_injective Function.injective_id,
    List.map_inj_right assignment_canonical_injective, List.map_inj_right family_item_injective,
    sortedBy_eq_iff_of_nodup h, sortedBy_eq_iff_of_nodup m.familyKeys_nodup,
    canonicalUsage_eq_iff (records_of_valid m.usagePolicy).1 (records_of_valid m'.usagePolicy).1]
  constructor
  · rintro ⟨hassignments, hgrouping, hfamilies, hinventory, hversion, hpolicy⟩
    exact ⟨hversion, hgrouping, hinventory, hfamilies, hassignments, hpolicy⟩
  · rintro ⟨hversion, hgrouping, hinventory, hfamilies, hassignments, hpolicy⟩
    exact ⟨hassignments, hgrouping, hfamilies, hinventory, hversion, hpolicy⟩

/-- A hash that tells texts apart tells values apart by their texts. -/
theorem sha256_dumps_eq_iff {D : Type} {sha256 : List UInt8 → D}
    (hinjective : Function.Injective sha256) {v w : Json} :
    sha256 (dumps v) = sha256 (dumps w) ↔ v = w :=
  ⟨fun heq => dumps_injective (hinjective heq), fun heq => by rw [heq]⟩

/-- Where the hash tells texts apart, two audited manifests have one digest if and only if they
differ in no more than the order of the inventory, the families, the assignments, the usage records
and their eligible splits, and the order and repetition of source hashes; so do their policies. -/
theorem manifestDigest_eq_iff {D : Type} {sha256 : List UInt8 → D}
    (hinjective : Function.Injective sha256) {m m' : SplitManifestFields} {a a' : SplitAudit D}
    (h : auditSplitManifest sha256 m = .ok a) (h' : auditSplitManifest sha256 m' = .ok a') :
    (a.manifestSha256 = a'.manifestSha256 ↔ SameManifest m m') ∧
      (a.usageSha256 = a'.usageSha256 ↔ SamePolicy m.usagePolicy.val m'.usagePolicy.val) := by
  obtain ⟨hvalid, h⟩ := Except.unit_bind_eq_ok.mp h
  obtain ⟨-, h'⟩ := Except.unit_bind_eq_ok.mp h'
  obtain rfl := Except.ok.inj h
  obtain rfl := Except.ok.inj h'
  obtain ⟨hnodup, hsep⟩ := separated_of_validate hvalid
  constructor
  · exact (sha256_dumps_eq_iff hinjective).trans
      (canonicalManifest_eq_iff (hsep.covers.nodup_iff.mpr hnodup))
  · exact (sha256_dumps_eq_iff hinjective).trans (canonicalUsage_eq_iff
      (records_of_valid m.usagePolicy).1 (records_of_valid m'.usagePolicy).1)

/-- Every accepted manifest is free of leaks and is audited, and where the hash tells texts apart,
the digests of two of them are equal if and only if they differ in orders and repetitions only. -/
theorem splitManifest_canonical {D : Type} {sha256 : List UInt8 → D}
    (hinjective : Function.Injective sha256) (m m' : SplitManifest) :
    LeakFree m.val ∧ ∃ a a', auditSplitManifest sha256 m.val = .ok a ∧
      auditSplitManifest sha256 m'.val = .ok a' ∧
      (a.manifestSha256 = a'.manifestSha256 ↔ SameManifest m.val m'.val) := by
  obtain ⟨hnodup, hsep⟩ := separated_of_validate m.property
  refine ⟨leakFree_of_validate m.property, _, _, Except.unit_bind_eq_ok.mpr ⟨m.property, rfl⟩,
    Except.unit_bind_eq_ok.mpr ⟨m'.property, rfl⟩, ?_⟩
  exact (sha256_dumps_eq_iff hinjective).trans
    (canonicalManifest_eq_iff (hsep.covers.nodup_iff.mpr hnodup))

end Digests

/-! ## Building a manifest -/

section Build

variable {inventory : SplitInventory} {policy : UsagePolicy}

/-- A policy that is embedded in an inventory has to be the supplied one. -/
theorem requireSamePolicy_eq_ok {embedded : Option UsagePolicyFields} :
    requireSamePolicy policy embedded = .ok () ↔
      ∀ p, embedded = some p → p.validate = .ok () ∧ SamePolicy p policy.val := by
  cases embedded with
  | none => simp [requireSamePolicy]
  | some p =>
    rw [requireSamePolicy, Except.unit_bind_eq_ok, raiseIf_eq_ok, not_not]
    have hdumps : dumps (canonicalUsage p) = dumps (canonicalUsage policy.val) ↔
        canonicalUsage p = canonicalUsage policy.val :=
      ⟨fun h => dumps_injective h, fun h => by rw [h]⟩
    rw [hdumps]
    constructor
    · rintro ⟨hvalid, hsame⟩ p' heq
      obtain rfl := Option.some.inj heq
      exact ⟨hvalid, (canonicalUsage_eq_iff (records_of_valid ⟨p, hvalid⟩).1
        (records_of_valid policy).1).mp hsame⟩
    · intro h
      obtain ⟨hvalid, hsame⟩ := h p rfl
      exact ⟨hvalid, (canonicalUsage_eq_iff (records_of_valid ⟨p, hvalid⟩).1
        (records_of_valid policy).1).mpr hsame⟩

/-- A manifest is built of an inventory with valid fields if and only if a policy that is embedded
in it is the supplied one, every run has one assignment, to a split for which its usage record
permits it, every split has a run, and no Pair, family or group is in two splits. -/
theorem exists_buildSplitManifest_iff (hfields : (inventory.manifest policy).checkFields = .ok ()) :
    (∃ manifest, buildSplitManifest inventory policy = .ok manifest) ↔
      (∀ p, inventory.embedded = some p → p.validate = .ok () ∧ SamePolicy p policy.val) ∧
        Separated (inventory.manifest policy) := by
  rw [← requireSamePolicy_eq_ok, ← validate_eq_ok hfields]
  constructor
  · rintro ⟨manifest, h⟩
    obtain ⟨hsame, h⟩ := Except.unit_bind_eq_ok.mp h
    have hvalid := manifest.property
    rw [val_of_construct h] at hvalid
    exact ⟨hsame, hvalid⟩
  · rintro ⟨hsame, hvalid⟩
    exact ⟨_, Except.unit_bind_eq_ok.mpr ⟨hsame, construct_eq_ok hvalid⟩⟩

end Build

/-! ## Loading sidecars -/

section Load

variable {hexdigest : List UInt8 → String} {data : PyDict}

/-- A policy permits a run for a split. -/
def UsagePolicyFields.Permits (policy : UsagePolicyFields) (runId : String) (split : Split) : Prop :=
  ∃ record ∈ policy.runs, record.runId = runId ∧ split ∈ record.eligibleSplits

/-- A sidecar permits a run for a split: with a record, or as a run of the Pair with a flag. -/
def SidecarData.Permits (runId : String) (split : Split) : SidecarData → Prop
  | .policy fields => fields.Permits runId split
  | .pair data => (∃ field ∈ ["normal_run_id", "attack_run_id"],
      data.lookup field = some (.str runId)) ∧
      data.lookup ("eligible_for_" ++ split.text) = some (.bool true)
  | .notObject => False

theorem requireKey_eq_ok {key : String} {value : PyValue} :
    requireKey data key = .ok value ↔ data.lookup key = some value := by
  rw [requireKey]
  cases data.lookup key with
  | none => simp
  | some other => simp

theorem requireString_eq_ok {field s : String} {value : PyValue}
    (h : requireString field value = .ok s) : value = .str s := by
  cases value with
  | str t => rw [Except.ok.inj h]
  | _ => exact absurd h (by simp [requireString])

theorem eligibleFor_eq_ok {split : Split} {value : Bool}
    (h : eligibleFor data split = .ok value) :
    data.lookup ("eligible_for_" ++ split.text) = some (.bool value) := by
  obtain ⟨json, hjson, h⟩ := Except.bind_eq_ok.mp h
  rw [requireKey_eq_ok.mp hjson]
  cases json with
  | bool b => rw [Except.ok.inj h]
  | _ => exact absurd h (by simp)

theorem mem_eligibleSplitsOf {l eligible : List Split}
    (h : eligibleSplitsOf data l = .ok eligible) (split : Split) : split ∈ eligible ↔
      split ∈ l ∧ data.lookup ("eligible_for_" ++ split.text) = some (.bool true) := by
  induction l generalizing eligible with
  | nil =>
    obtain rfl := Except.ok.inj h
    simp
  | cons s l ih =>
    obtain ⟨value, hvalue, h⟩ := Except.bind_eq_ok.mp h
    obtain ⟨rest, hrest, h⟩ := Except.bind_eq_ok.mp h
    obtain rfl := Except.ok.inj h
    have hflag := eligibleFor_eq_ok hvalue
    have hmem := ih hrest
    by_cases hs : split = s
    · subst hs
      rw [hflag]
      cases value with
      | true => simp
      | false => simp [hmem, hflag]
    · cases value with
      | true => simp [hmem, hs]
      | false => simp [hmem, hs]

theorem pairRun_eq_ok {pairId field : String} {eligible : List Split} {row : RunUsage}
    (h : pairRun data pairId eligible field = .ok row) :
    data.lookup field = some (.str row.runId) ∧ row.eligibleSplits = eligible := by
  obtain ⟨runIdValue, hrunIdValue, h⟩ := Except.bind_eq_ok.mp h
  obtain ⟨tuningValue, -, h⟩ := Except.bind_eq_ok.mp h
  obtain ⟨reasonValue, -, h⟩ := Except.bind_eq_ok.mp h
  obtain ⟨runId, hrunId, h⟩ := Except.bind_eq_ok.mp h
  obtain ⟨-, h⟩ := Except.unit_bind_eq_ok.mp h
  obtain ⟨-, h⟩ := Except.unit_bind_eq_ok.mp h
  obtain ⟨-, h⟩ := Except.unit_bind_eq_ok.mp h
  obtain ⟨usedForTuning, -, h⟩ := Except.bind_eq_ok.mp h
  obtain ⟨reason, -, h⟩ := Except.bind_eq_ok.mp h
  obtain ⟨-, h⟩ := Except.unit_bind_eq_ok.mp h
  obtain rfl := Except.ok.inj h
  rw [requireKey_eq_ok.mp hrunIdValue, requireString_eq_ok hrunId]
  exact ⟨rfl, rfl⟩

/-- A sidecar that is loaded has records for what it permits. -/
theorem loadSidecar_permits {file : UsageSidecar} {loaded : List RunUsage × List String}
    (h : loadSidecar hexdigest file = .ok loaded) (runId : String) (split : Split) :
    (∃ record ∈ loaded.1, record.runId = runId ∧ split ∈ record.eligibleSplits) ↔
      file.data.Permits runId split := by
  have hsplits : split ∈ splits := by
    cases split <;> decide
  rw [loadSidecar] at h
  cases hdata : file.data with
  | notObject =>
    rw [hdata] at h
    exact absurd h (by simp)
  | policy fields =>
    rw [hdata] at h
    obtain ⟨-, h⟩ := Except.unit_bind_eq_ok.mp h
    obtain rfl := Except.ok.inj h
    exact Iff.rfl
  | pair data =>
    rw [hdata] at h
    obtain ⟨runs, hruns, h⟩ := Except.bind_eq_ok.mp h
    obtain rfl := Except.ok.inj h
    obtain ⟨pairId, -, hruns⟩ := Except.bind_eq_ok.mp hruns
    obtain ⟨eligible, heligible, hruns⟩ := Except.bind_eq_ok.mp hruns
    obtain ⟨-, hruns⟩ := Except.unit_bind_eq_ok.mp hruns
    constructor
    · rintro ⟨record, hrecord, rfl, hmem⟩
      obtain ⟨field, hfield, hrow⟩ := exists_of_mem_mapM hruns hrecord
      obtain ⟨hlookup, heq⟩ := pairRun_eq_ok hrow
      rw [heq] at hmem
      exact ⟨⟨field, hfield, hlookup⟩, ((mem_eligibleSplitsOf heligible split).mp hmem).2⟩
    · rintro ⟨⟨field, hfield, hlookup⟩, hflag⟩
      obtain ⟨record, hrecord, hrow⟩ := exists_of_mapM_mem hruns hfield
      obtain ⟨hlookup', heq⟩ := pairRun_eq_ok hrow
      have hrunId : record.runId = runId :=
        PyValue.str.inj (Option.some.inj (hlookup'.symm.trans hlookup))
      refine ⟨record, hrecord, hrunId, ?_⟩
      rw [heq]
      exact (mem_eligibleSplitsOf heligible split).mpr ⟨hsplits, hflag⟩

/-- The order of records and hashes does not matter to the validation of a policy. -/
theorem validate_of_perm {p p' : UsagePolicyFields} (h : p.validate = .ok ())
    (hversion : p'.policyVersion = p.policyVersion)
    (hsources : p'.sourceSha256.Perm p.sourceSha256) (hruns : p'.runs.Perm p.runs) :
    p'.validate = .ok () := by
  have hnil : ∀ {α : Type} {l l' : List α}, l'.Perm l → l ≠ [] → l' ≠ [] := by
    rintro α l l' hperm hne rfl
    exact hne hperm.nil_eq.symm
  obtain ⟨hpolicy, h⟩ := Except.unit_bind_eq_ok.mp h
  obtain ⟨hdigests, h⟩ := Except.unit_bind_eq_ok.mp h
  obtain ⟨hsourcesNe, h⟩ := raiseIf_bind_eq_ok.mp h
  obtain ⟨hrecords, h⟩ := Except.unit_bind_eq_ok.mp h
  obtain ⟨hrunsNe, h⟩ := raiseIf_bind_eq_ok.mp h
  have hnodup := not_not.mp (raiseIf_eq_ok.mp h)
  refine Except.unit_bind_eq_ok.mpr ⟨by rw [hversion]; exact hpolicy, ?_⟩
  refine Except.unit_bind_eq_ok.mpr
    ⟨forM_eq_ok.mpr fun d hd => forM_eq_ok.mp hdigests d (hsources.mem_iff.mp hd), ?_⟩
  refine raiseIf_bind_eq_ok.mpr ⟨hnil hsources hsourcesNe, ?_⟩
  refine Except.unit_bind_eq_ok.mpr
    ⟨forM_eq_ok.mpr fun r hr => forM_eq_ok.mp hrecords r (hruns.mem_iff.mp hr), ?_⟩
  refine raiseIf_bind_eq_ok.mpr ⟨hnil hruns hrunsNe, ?_⟩
  exact raiseIf_of_not (not_not.mpr ((hruns.map _).nodup_iff.mpr hnodup))

/-- A policy that is loaded permits a run for a split if and only if one of the sidecars does; the
sidecars are loaded in any other order as well, to a policy with the same digest. -/
theorem loadUsagePolicy_permits {files : List UsageSidecar} {policyVersion : String}
    {policy : UsagePolicy} (h : loadUsagePolicy hexdigest files policyVersion = .ok policy) :
    (∀ runId split, policy.val.Permits runId split ↔
        ∃ file ∈ files, file.data.Permits runId split) ∧
      ∀ (D : Type) (sha256 : List UInt8 → D) (files' : List UsageSidecar), files'.Perm files →
        ∃ policy', loadUsagePolicy hexdigest files' policyVersion = .ok policy' ∧
          usageDigest sha256 policy'.val = usageDigest sha256 policy.val := by
  obtain ⟨loaded, hloaded, h⟩ := Except.bind_eq_ok.mp h
  have hval := val_of_construct h
  constructor
  · intro runId split
    rw [hval]
    simp only [UsagePolicyFields.Permits, List.mem_flatMap]
    constructor
    · rintro ⟨record, ⟨part, hpart, hrecord⟩, hrunId, hmem⟩
      obtain ⟨file, hfile, hload⟩ := exists_of_mem_mapM hloaded hpart
      exact ⟨file, hfile, (loadSidecar_permits hload runId split).mp ⟨record, hrecord, hrunId, hmem⟩⟩
    · rintro ⟨file, hfile, hpermits⟩
      obtain ⟨part, hpart, hload⟩ := exists_of_mapM_mem hloaded hfile
      obtain ⟨record, hrecord, hrunId, hmem⟩ := (loadSidecar_permits hload runId split).mpr hpermits
      exact ⟨record, ⟨part, hpart, hrecord⟩, hrunId, hmem⟩
  · intro D sha256 files' hperm
    -- What a sidecar is loaded to does not depend on the others.
    let part : UsageSidecar → List RunUsage × List String := fun file =>
      ((loadSidecar hexdigest file).toOption).getD ([], [])
    have hpart : ∀ file ∈ files, loadSidecar hexdigest file = .ok (part file) := by
      intro file hfile
      obtain ⟨a, -, hload⟩ := exists_of_mapM_mem hloaded hfile
      have heq : part file = a := by
        show ((loadSidecar hexdigest file).toOption).getD ([], []) = a
        rw [hload]
        rfl
      rw [heq, hload]
    have hfiles : loaded = files.map part :=
      Except.ok.inj (hloaded.symm.trans (mapM_eq_ok_map hpart))
    have hloaded' : files'.mapM (loadSidecar hexdigest) = .ok (files'.map part) :=
      mapM_eq_ok_map fun file hfile => hpart file (hperm.mem_iff.mp hfile)
    have hparts : (files'.map part).Perm loaded := by
      rw [hfiles]
      exact hperm.map part
    have hvalid := policy.property
    rw [hval] at hvalid
    have hvalid' := @validate_of_perm _ ⟨policyVersion, (files'.map part).flatMap Prod.snd,
      (files'.map part).flatMap Prod.fst⟩ hvalid rfl (hparts.flatMap_right _)
      (hparts.flatMap_right _)
    refine ⟨⟨_, hvalid'⟩, Except.bind_eq_ok.mpr ⟨_, hloaded', construct_eq_ok hvalid'⟩, ?_⟩
    have hsame : SamePolicy ⟨policyVersion, (files'.map part).flatMap Prod.snd,
        (files'.map part).flatMap Prod.fst⟩ policy.val := by
      rw [hval]
      refine ⟨rfl, fun d => (hparts.flatMap_right _).mem_iff, fun r hr => ⟨r, ?_, .refl r⟩,
        fun r hr => ⟨r, ?_, .refl r⟩⟩
      · exact (hparts.flatMap_right _).mem_iff.mp hr
      · exact (hparts.flatMap_right _).mem_iff.mpr hr
    rw [usageDigest, usageDigest, (canonicalUsage_eq_iff (records_of_valid ⟨_, hvalid'⟩).1
      (records_of_valid policy).1).mpr hsame]

end Load

/-! ## Three runs -/

namespace Sample

def usagePolicy : UsagePolicyFields where
  policyVersion := "usage-1"
  sourceSha256 := [String.ofList (List.replicate 64 'a')]
  runs :=
    [⟨"RUN-20260101-001", some "pair-1", [.train], false, "reviewed"⟩,
      ⟨"RUN-20260101-002", none, [.validation, .train], false, "reviewed"⟩,
      ⟨"RUN-20260101-003", none, [.test], false, "reviewed"⟩]

theorem usagePolicy_valid : usagePolicy.validate = .ok () := by decide +kernel

def families : List (String × String) :=
  [("RUN-20260101-001", "family-a"), ("RUN-20260101-002", "family-b"),
    ("RUN-20260101-003", "family-c")]

theorem families_nodup : (families.map Prod.fst).Nodup := by decide

def inventory : SplitInventory where
  embedded := none
  manifestVersion := "manifest-1"
  groupingPolicyVersion := "groups-1"
  inventoryRunIds := ["RUN-20260101-001", "RUN-20260101-002", "RUN-20260101-003"]
  inventoryFamilyIds := families
  assignments :=
    [⟨"RUN-20260101-001", "group-1", .train⟩, ⟨"RUN-20260101-002", "group-2", .validation⟩,
      ⟨"RUN-20260101-003", "group-3", .test⟩]
  familyKeys_nodup := families_nodup

/-- The manifest of the inventory. -/
def splitManifest : SplitManifestFields := inventory.manifest ⟨usagePolicy, usagePolicy_valid⟩

/-- The same manifest with its assignments in another order. -/
def reordered : SplitManifestFields :=
  { splitManifest with assignments := splitManifest.assignments.reverse }

theorem splitManifest_fields : splitManifest.checkFields = .ok () := by decide +kernel

theorem splitManifest_valid : splitManifest.validate = .ok () := by decide +kernel

theorem reordered_valid : reordered.validate = .ok () := by decide +kernel

theorem exists_audit : ∃ audit, auditSplitManifest id splitManifest = .ok audit :=
  ⟨_, Except.unit_bind_eq_ok.mpr ⟨splitManifest_valid, rfl⟩⟩

theorem exists_audit_reordered : ∃ audit, auditSplitManifest id reordered = .ok audit :=
  ⟨_, Except.unit_bind_eq_ok.mpr ⟨reordered_valid, rfl⟩⟩

def pairSidecar : UsageSidecar where
  content := []
  data := .pair [("pair_id", .str "pair-1"), ("eligible_for_train", .bool true),
    ("eligible_for_validation", .bool false), ("eligible_for_test", .bool false),
    ("normal_run_id", .str "RUN-20260101-001"), ("attack_run_id", .str "RUN-20260101-002"),
    ("used_for_tuning", .bool false), ("reason", .str "reviewed")]

/-- 64 letters, by the length of the content. -/
def hexdigest (content : List UInt8) : String :=
  String.ofList (List.replicate 64 (if content = [] then 'a' else 'b'))

/-- A canonical policy beside the Pair. -/
def policySidecar : UsageSidecar where
  content := [0]
  data := .policy ⟨"usage-1", [hexdigest []],
    [⟨"RUN-20260101-003", none, [.test], false, "reviewed"⟩]⟩

theorem exists_policy :
    ∃ policy, loadUsagePolicy hexdigest [pairSidecar, policySidecar] "usage-1" = .ok policy := by
  have hloaded :
      (loadUsagePolicy hexdigest [pairSidecar, policySidecar] "usage-1").toBool = true := by
    decide +kernel
  cases h : loadUsagePolicy hexdigest [pairSidecar, policySidecar] "usage-1" with
  | ok policy => exact ⟨policy, rfl⟩
  | error e =>
    rw [h] at hloaded
    exact absurd hloaded (by simp [Except.toBool])

end Sample

theorem exists_buildSplitManifest_iff_threeRuns :
    (∃ manifest, buildSplitManifest Sample.inventory ⟨_, Sample.usagePolicy_valid⟩ = .ok manifest) ↔
      (∀ p, Sample.inventory.embedded = some p →
          p.validate = .ok () ∧ SamePolicy p Sample.usagePolicy) ∧
        Separated Sample.splitManifest :=
  exists_buildSplitManifest_iff Sample.splitManifest_fields

theorem auditSplitManifest_report_threeRuns :
    ∃ audit, auditSplitManifest id Sample.splitManifest = .ok audit ∧
      Apart fun s => (audit.report s).familyIds := by
  obtain ⟨audit, haudit⟩ := Sample.exists_audit
  exact ⟨audit, haudit, (auditSplitManifest_report haudit).2.2.2.1⟩

theorem manifestDigest_eq_iff_reordered :
    ∃ a a', auditSplitManifest id Sample.splitManifest = .ok a ∧
      auditSplitManifest id Sample.reordered = .ok a' ∧
      (a.manifestSha256 = a'.manifestSha256 ↔ SameManifest Sample.splitManifest Sample.reordered) := by
  obtain ⟨a, ha⟩ := Sample.exists_audit
  obtain ⟨a', ha'⟩ := Sample.exists_audit_reordered
  exact ⟨a, a', ha, ha', (manifestDigest_eq_iff Function.injective_id ha ha').1⟩

/-- The assignments in two orders. -/
theorem splitManifest_canonical_reordered :
    LeakFree Sample.splitManifest ∧ ∃ a a', auditSplitManifest id Sample.splitManifest = .ok a ∧
      auditSplitManifest id Sample.reordered = .ok a' ∧ a.manifestSha256 = a'.manifestSha256 := by
  obtain ⟨hfree, a, a', ha, ha', hdigest⟩ := splitManifest_canonical Function.injective_id
    ⟨Sample.splitManifest, Sample.splitManifest_valid⟩ ⟨Sample.reordered, Sample.reordered_valid⟩
  exact ⟨hfree, a, a', ha, ha', hdigest.mpr ⟨rfl, rfl, .refl _, .refl _,
    (List.reverse_perm _).symm, .refl _⟩⟩

/-- Two sidecars, in both orders. -/
theorem loadUsagePolicy_permits_pair :
    ∃ policy policy',
      loadUsagePolicy Sample.hexdigest [Sample.pairSidecar, Sample.policySidecar] "usage-1" =
        .ok policy ∧
      loadUsagePolicy Sample.hexdigest [Sample.policySidecar, Sample.pairSidecar] "usage-1" =
        .ok policy' ∧
      usageDigest id policy'.val = usageDigest id policy.val ∧
      (policy.val.Permits "RUN-20260101-003" .test ↔
        ∃ file ∈ [Sample.pairSidecar, Sample.policySidecar],
          file.data.Permits "RUN-20260101-003" .test) := by
  obtain ⟨policy, hpolicy⟩ := Sample.exists_policy
  obtain ⟨hpermits, hperm⟩ := loadUsagePolicy_permits hpolicy
  obtain ⟨policy', hpolicy', hdigest⟩ := hperm (List UInt8) id
    [Sample.policySidecar, Sample.pairSidecar] (List.Perm.swap _ _ _)
  exact ⟨policy, policy', hpolicy, hpolicy', hdigest, hpermits _ _⟩

end IncidentAwareness.Evaluation
