import IncidentAwareness.Archive.Runtime
import IncidentAwareness.Lib.Register

/-!
# The stored Runtime status over runs of saves

The row of a run and an entity is a register (`get_saves`): a save takes it where
its status `Replaces` the row. A replacement `Advances` the row, and so does any
run of saves. Of one invocation's snapshots the one that ended it is stored in
the end, whatever the order they arrive in (`saves_eq_last`).
-/

namespace IncidentAwareness.Archive

open IncidentAwareness.Lib IncidentAwareness.Common

/-! ## Saves as offers -/

namespace RuntimeTable

/-- The table after a run of saves. -/
def saves (t : RuntimeTable) (l : List PipelineRuntimeStatus) : RuntimeTable :=
  l.foldl (fun t status => (t.save status).1) t

@[simp] theorem saves_nil (t : RuntimeTable) : t.saves [] = t := rfl

theorem saves_cons (t : RuntimeTable) (status : PipelineRuntimeStatus)
    (l : List PipelineRuntimeStatus) : t.saves (status :: l) = (t.save status).1.saves l := rfl

/-- A save offers its status to the row of its scope, and leaves every other row. -/
theorem get_save (t : RuntimeTable) (status : PipelineRuntimeStatus) (scope : String × String) :
    (t.save status).1.get scope =
      if scope = status.scope then offer PipelineRuntimeStatus.Replaces (t.get scope) status
      else t.get scope := by
  have hother : ∀ h : scope ≠ status.scope, (t.save status).1.get scope = t.get scope := by
    intro h
    unfold save
    split
    · rw [Table.get_upsert, if_neg h]
    · split
      · rw [Table.get_upsert, if_neg h]
      · rfl
  by_cases h : scope = status.scope
  · rw [if_pos h, h]
    unfold save
    cases hrow : t.get status.scope with
    | none =>
      show (t.upsert status).get status.scope = some status
      rw [Table.get_upsert, if_pos rfl]
    | some row =>
      by_cases hr : status.Replaces row
      · rw [offer_some_of hr]
        simp only [if_pos hr]
        rw [Table.get_upsert, if_pos rfl]
      · rw [offer_some_of_not hr]
        simp only [if_neg hr]
        exact hrow
  · rw [if_neg h, hother h]

/-- A run of saves offers a scope the statuses of that scope, in their order. -/
theorem get_saves (t : RuntimeTable) (l : List PipelineRuntimeStatus) (scope : String × String) :
    (t.saves l).get scope =
      offers PipelineRuntimeStatus.Replaces (t.get scope) (l.filter fun s => s.scope = scope) := by
  induction l generalizing t with
  | nil => rfl
  | cons status l ih =>
    rw [saves_cons, ih, get_save]
    by_cases h : scope = status.scope
    · rw [if_pos h, List.filter_cons_of_pos (by simp [h]), offers_cons]
    · have hne : ¬ status.scope = scope := fun he => h he.symm
      rw [if_neg h, List.filter_cons_of_neg (by simp [hne])]

end RuntimeTable

/-! ## What a replacement preserves -/

/-- The later of two rows of one scope: an execution that started later, or the same
one, at a later update and in the status it ended with, if it had ended. -/
def PipelineRuntimeStatus.Advances (row later : PipelineRuntimeStatus) : Prop :=
  row.val.startedAt < later.val.startedAt ∨
    (row.val.executionId = later.val.executionId ∧ row.val.startedAt = later.val.startedAt ∧
      row.val.updatedAt ≤ later.val.updatedAt ∧
      (row.val.status ≠ .running → later.val.status = row.val.status))

namespace PipelineRuntimeStatus

instance : Std.Refl Advances := ⟨fun _ => .inr ⟨rfl, rfl, le_refl _, fun _ => rfl⟩⟩

instance : IsTrans PipelineRuntimeStatus Advances where
  trans a b c hab hbc := by
    rcases hab with hab | ⟨hexec, hstart, hupdate, hstatus⟩
    · rcases hbc with hbc | ⟨-, hstart, -, -⟩
      · exact .inl (hab.trans hbc)
      · exact .inl (hstart ▸ hab)
    · rcases hbc with hbc | ⟨hexec', hstart', hupdate', hstatus'⟩
      · exact .inl (hstart ▸ hbc)
      · refine .inr ⟨hexec.trans hexec', hstart.trans hstart', hupdate.trans hupdate', fun hended => ?_⟩
        have hb : b.val.status = a.val.status := hstatus hended
        rw [hstatus' (hb ▸ hended), hb]

theorem Replaces.advances {new row : PipelineRuntimeStatus} (h : new.Replaces row) :
    row.Advances new := by
  rcases h with ⟨hexec, hstart, hupdate, hstatus⟩ | ⟨-, hstart⟩
  · refine .inr ⟨hexec, hstart, hupdate, fun hended => ?_⟩
    rcases hstatus with hrunning | hsame
    · exact absurd hrunning hended
    · exact hsame.symm
  · exact .inl hstart

theorem Advances.startedAt_le {row later : PipelineRuntimeStatus} (h : row.Advances later) :
    row.val.startedAt ≤ later.val.startedAt := by
  rcases h with h | ⟨-, h, -, -⟩
  · exact h.le
  · exact h.le

theorem Advances.startedAt_lt {row later : PipelineRuntimeStatus} (h : row.Advances later)
    (hne : later.val.executionId ≠ row.val.executionId) :
    row.val.startedAt < later.val.startedAt := by
  rcases h with h | ⟨h, -, -, -⟩
  · exact h
  · exact absurd h.symm hne

/-- Within one start of an execution the update time does not go back, and the status
an execution ended with stays. -/
theorem Advances.within {row later : PipelineRuntimeStatus} (h : row.Advances later)
    (hstart : later.val.startedAt = row.val.startedAt) :
    row.val.updatedAt ≤ later.val.updatedAt ∧
      (row.val.status ≠ .running → later.val.status = row.val.status) := by
  rcases h with h | ⟨-, -, h⟩
  · exact absurd hstart.symm h.ne
  · exact h

end PipelineRuntimeStatus

namespace RuntimeTable

/-- A row that is stored is followed by rows that advance it. -/
theorem saves_advances {t : RuntimeTable} {scope : String × String} {row : PipelineRuntimeStatus}
    (h : t.get scope = some row) (l : List PipelineRuntimeStatus) :
    ∃ later, (t.saves l).get scope = some later ∧ row.Advances later := by
  rw [get_saves, h]
  exact offers_relates (fun a b hab => PipelineRuntimeStatus.Replaces.advances hab) row _

/-- While one execution stays stored its start does not move. -/
theorem startedAt_eq_of_stays {t : RuntimeTable} {scope : String × String}
    {row later : PipelineRuntimeStatus} {l : List PipelineRuntimeStatus}
    (h : t.get scope = some row) (hlater : (t.saves l).get scope = some later)
    (hstays : ∀ pre, pre <+: l → ∀ r, (t.saves pre).get scope = some r →
      r.val.executionId = row.val.executionId) : later.val.startedAt = row.val.startedAt := by
  induction l generalizing t row with
  | nil =>
    rw [saves_nil, h] at hlater
    rw [Option.some.inj hlater]
  | cons status l ih =>
    obtain ⟨mid, hmid, -⟩ := saves_advances h [status]
    have hexec : mid.val.executionId = row.val.executionId :=
      hstays [status] (List.prefix_append [status] l) mid hmid
    have hrest := ih hmid hlater fun pre hpre r hr =>
      (hstays (status :: pre) (List.cons_prefix_cons.mpr ⟨rfl, hpre⟩) r hr).trans hexec.symm
    rw [hrest]
    -- a row of the same execution was replaced only by one with its start
    rw [get_saves, h] at hmid
    by_cases hscope : status.scope = scope
    · rw [List.filter_cons_of_pos (by simp [hscope])] at hmid
      change offer PipelineRuntimeStatus.Replaces (some row) status = some mid at hmid
      by_cases hr : status.Replaces row
      · rw [offer_some_of hr] at hmid
        obtain rfl : status = mid := Option.some.inj hmid
        rcases hr with ⟨-, hstart, -, -⟩ | ⟨hne, -⟩
        · exact hstart.symm
        · exact absurd hexec.symm hne
      · rw [offer_some_of_not hr] at hmid
        rw [Option.some.inj hmid]
    · rw [List.filter_cons_of_neg (by simp [hscope])] at hmid
      rw [Option.some.inj hmid]

end RuntimeTable

/-! ## The snapshots of one invocation -/

/-- What every snapshot of one invocation carries: its scope, its execution and its
start. -/
def PipelineRuntimeStatus.invocation (s : PipelineRuntimeStatus) :
    (String × String) × String × UtcMillis :=
  (s.scope, s.val.executionId, s.val.startedAt)

namespace RuntimeTracker

/-- What a tracker's snapshots carry. -/
def invocation (t : RuntimeTracker) : (String × String) × String × UtcMillis :=
  ((t.runId, t.entityId), t.executionId, t.startedAt)

/-- The tracker after calls, and the snapshots it published. -/
def published (t : RuntimeTracker) : List TrackerCall → List PipelineRuntimeStatus
  | [] => []
  | call :: calls => (t.apply call).2.toList ++ (t.apply call).1.published calls

theorem moved_invocation (t : RuntimeTracker) (trackerCall : TrackerCall) :
    (t.moved trackerCall).invocation = t.invocation := by
  cases trackerCall <;> rfl

theorem apply_invocation (t : RuntimeTracker) (trackerCall : TrackerCall) :
    (t.apply trackerCall).1.invocation = t.invocation := by
  unfold apply
  split
  · rfl
  · split
    · rfl
    · split
      · exact moved_invocation t trackerCall
      · exact moved_invocation t trackerCall

theorem snapshot_invocation {t : RuntimeTracker} {trackerCall : TrackerCall}
    {s : PipelineRuntimeStatus} (h : (t.apply trackerCall).2 = some s) :
    s.invocation = t.invocation := by
  unfold apply at h
  split at h
  · cases h
  · split at h
    · cases h
    · split at h
      · cases h
      · next status hstatus =>
        obtain rfl : status = s := Option.some.inj h
        have hval : status.val = t.snapshot trackerCall := val_of_construct hstatus
        unfold PipelineRuntimeStatus.invocation PipelineRuntimeStatus.scope
        rw [hval]
        cases trackerCall <;> rfl

/-- Every snapshot that a tracker publishes is one of its invocation. -/
theorem published_invocation {t : RuntimeTracker} {calls : List TrackerCall}
    {s : PipelineRuntimeStatus} (h : s ∈ t.published calls) : s.invocation = t.invocation := by
  induction calls generalizing t with
  | nil => exact absurd h List.not_mem_nil
  | cons call calls ih =>
    rcases List.mem_append.mp h with h | h
    · exact snapshot_invocation (Option.mem_toList.mp h)
    · rw [ih h, apply_invocation]

end RuntimeTracker

/-- A snapshot that ended an invocation, which no other snapshot of it did and none is
later than. -/
structure PipelineRuntimeStatus.Ends (last : PipelineRuntimeStatus)
    (snapshots : List PipelineRuntimeStatus) : Prop where
  mem : last ∈ snapshots
  ended : last.val.status ≠ .running
  unique : ∀ s ∈ snapshots, s.val.status ≠ .running → s = last
  latest : ∀ s ∈ snapshots, s.val.updatedAt ≤ last.val.updatedAt

theorem PipelineRuntimeStatus.Ends.replaces {last s : PipelineRuntimeStatus}
    {snapshots : List PipelineRuntimeStatus} (h : last.Ends snapshots) (hs : s ∈ snapshots)
    (hinvocation : s.invocation = last.invocation) : last.Replaces s := by
  have hid : (s.val.executionId, s.val.startedAt) = (last.val.executionId, last.val.startedAt) :=
    (Prod.mk.inj hinvocation).2
  refine .inl ⟨(Prod.mk.inj hid).1, (Prod.mk.inj hid).2, h.latest s hs, ?_⟩
  by_cases hrunning : s.val.status = .running
  · exact .inl hrunning
  · rw [h.unique s hs hrunning]
    exact .inr rfl

/-- No other snapshot of the invocation replaces the one that ended it. -/
theorem PipelineRuntimeStatus.Ends.stays {last s : PipelineRuntimeStatus}
    {snapshots : List PipelineRuntimeStatus} (h : last.Ends snapshots) (hs : s ∈ snapshots)
    (hinvocation : s.invocation = last.invocation) (hr : s.Replaces last) : s = last := by
  have hid : (s.val.executionId, s.val.startedAt) = (last.val.executionId, last.val.startedAt) :=
    (Prod.mk.inj hinvocation).2
  rcases hr with ⟨-, -, -, hrunning | hsame⟩ | ⟨hne, -⟩
  · exact absurd hrunning h.ended
  · exact h.unique s hs (hsame ▸ h.ended)
  · exact absurd (Prod.mk.inj hid).1.symm hne

/-- Deliveries of one invocation's snapshots to a scope whose other statuses are of
executions that started before end with the snapshot that ended the invocation. -/
theorem RuntimeTable.saves_eq_last {t : RuntimeTable} {snapshots l : List PipelineRuntimeStatus}
    {last : PipelineRuntimeStatus} (hends : last.Ends snapshots)
    (hone : ∀ s ∈ snapshots, s.invocation = last.invocation)
    (hrow : ∀ row, t.get last.scope = some row → last.Replaces row) (hlast : last ∈ l)
    (hl : ∀ s ∈ l, s.scope = last.scope → s ∈ snapshots ∨
      s.val.executionId ≠ last.val.executionId ∧ s.val.startedAt < last.val.startedAt) :
    (t.saves l).get last.scope = some last := by
  rw [get_saves]
  have hoffered : ∀ s ∈ l.filter fun s => s.scope = last.scope, s ∈ l ∧ s.scope = last.scope := by
    intro s hs
    obtain ⟨hmem, hscope⟩ := List.mem_filter.mp hs
    exact ⟨hmem, of_decide_eq_true hscope⟩
  refine offers_eq_top (List.mem_filter.mpr ⟨hlast, decide_eq_true rfl⟩) hrow ?_ ?_
  · intro s hs
    rcases hl s (hoffered s hs).1 (hoffered s hs).2 with hmem | ⟨hne, hlt⟩
    · exact hends.replaces hmem (hone s hmem)
    · exact .inr ⟨hne, hlt⟩
  · intro s hs hr
    rcases hl s (hoffered s hs).1 (hoffered s hs).2 with hmem | ⟨hne, hlt⟩
    · exact hends.stays hmem (hone s hmem) hr
    · rcases hr with ⟨he, -⟩ | ⟨-, hgt⟩
      · exact absurd he.symm hne
      · exact absurd hlt hgt.asymm

/-- Over any saves from any table, the row stored for a scope keeps or raises its start, and
raises it when the stored execution changes. As long as one execution stays stored, and
between any rows of one start, the update time does not go back and a status that ended
stays. All snapshots of a tracker belong to its invocation, and deliveries of snapshots of
one invocation, of which exactly one ended it and none is later than that one, end with that
one stored, also among statuses of executions that started before. -/
theorem runtimeStatus_converges :
    (∀ (t : RuntimeTable) (l : List PipelineRuntimeStatus) (scope : String × String)
        (row : PipelineRuntimeStatus), t.get scope = some row →
      ∃ later, (t.saves l).get scope = some later ∧
        row.val.startedAt ≤ later.val.startedAt ∧
        (later.val.executionId ≠ row.val.executionId →
          row.val.startedAt < later.val.startedAt) ∧
        ((later.val.startedAt = row.val.startedAt ∨
            ∀ pre, pre <+: l → ∀ r, (t.saves pre).get scope = some r →
              r.val.executionId = row.val.executionId) →
          row.val.updatedAt ≤ later.val.updatedAt ∧
          (row.val.status ≠ .running → later.val.status = row.val.status))) ∧
    (∀ (tracker : RuntimeTracker) (calls : List TrackerCall),
      ∀ s ∈ tracker.published calls, s.invocation = tracker.invocation) ∧
    (∀ (t : RuntimeTable) (snapshots l : List PipelineRuntimeStatus)
        (last : PipelineRuntimeStatus),
      last.Ends snapshots → (∀ s ∈ snapshots, s.invocation = last.invocation) →
      (∀ row, t.get last.scope = some row →
        row.val.executionId ≠ last.val.executionId ∧ row.val.startedAt < last.val.startedAt) →
      last ∈ l →
      (∀ s ∈ l, s.scope = last.scope → s ∈ snapshots ∨
        s.val.executionId ≠ last.val.executionId ∧ s.val.startedAt < last.val.startedAt) →
      (t.saves l).get last.scope = some last) := by
  refine ⟨fun t l scope row h => ?_, fun tracker calls s hs => ?_,
    fun t snapshots l last hends hone hrow hlast hl => ?_⟩
  · obtain ⟨later, hlater, hadvances⟩ := RuntimeTable.saves_advances h l
    refine ⟨later, hlater, hadvances.startedAt_le, hadvances.startedAt_lt, fun hwithin => ?_⟩
    apply hadvances.within
    rcases hwithin with hstart | hstays
    · exact hstart
    · exact RuntimeTable.startedAt_eq_of_stays h hlater hstays
  · exact RuntimeTracker.published_invocation hs
  · exact RuntimeTable.saves_eq_last hends hone (fun row h => .inr (hrow row h)) hlast hl

namespace RuntimeConvergence.Sample

/-- The snapshots of an invocation: a stage that starts, and the completion. -/
def runningFields : RuntimeStatusFields where
  executionId := "exec-1"
  runId := "RUN-1"
  entityId := "host:a"
  status := .running
  currentStage := some .artifactValidation
  inputTotal := 1
  normalizationProcessedCount := 0
  startedAt := 0
  stageStartedAt := some 5
  updatedAt := 5

theorem runningFields_valid : runningFields.validate = .ok () := by rfl

theorem completeFields_valid : (runningFields.complete 5).validate = .ok () :=
  RuntimeStatusFields.validate_complete runningFields_valid (le_refl 5)

def running : PipelineRuntimeStatus := ⟨runningFields, runningFields_valid⟩

def completed : PipelineRuntimeStatus := ⟨runningFields.complete 5, completeFields_valid⟩

end RuntimeConvergence.Sample

open RuntimeConvergence.Sample in
/-- The completion stays stored where the snapshot it ended arrives after it. -/
theorem runtimeStatus_converges_lateSnapshot :
    (RuntimeTable.saves Table.empty [completed, running]).get ("RUN-1", "host:a") =
      some completed := by
  have hends : completed.Ends [running, completed] := by
    refine ⟨by simp, by decide, ?_, ?_⟩
    · intro s hs hended
      rcases List.mem_pair.mp hs with rfl | rfl
      · exact absurd rfl hended
      · rfl
    · intro s hs
      rcases List.mem_pair.mp hs with rfl | rfl
      · exact le_refl 5
      · exact le_refl 5
  refine runtimeStatus_converges.2.2 Table.empty [running, completed] [completed, running]
    completed hends ?_ ?_ List.mem_cons_self ?_
  · intro s hs
    rcases List.mem_pair.mp hs with rfl | rfl
    · rfl
    · rfl
  · intro row hrow
    exact absurd hrow (by simp)
  · intro s hs _
    exact .inl (by simpa [or_comm] using hs)

end IncidentAwareness.Archive
