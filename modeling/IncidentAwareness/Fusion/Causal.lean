import IncidentAwareness.Fusion.ReplaySpec
import IncidentAwareness.Fusion.StoppingSpec
import Mathlib.Data.List.Perm.Basic
import Mathlib.Data.Set.List

/-!
# The causal replay does not anticipate

What `run_causal` returns depends on the items as a set (`runCausal_congr`), and
what it returns up to a time on the items available by then
(`CausalInput.agree`): a point at `t` reads the items available at `t`, and the
policy reads the points in order.
-/

namespace IncidentAwareness.Fusion

open IncidentAwareness.Common IncidentAwareness.Lib

variable {φ : Type}

/-! ## Accepted inputs -/

section Accepted

variable {runner : TemporalReplayRunner} {inputs : List (ScheduledEvidence φ)}
  {runId entityId : String} {runStart runEnd : PyDatetime} {r : TemporalReplayResult}

/-- No datetime arithmetic of the causal replay fails. -/
structure StaysInRange (runner : TemporalReplayRunner) (start stop : Int) : Prop where
  steps : ∀ t ∈ gridOf runner start stop, IsDatetime (t + runner.stepSize)
  cutoffs : ∀ t ∈ causalPoints runner start stop, ¬ CutoffFails runner t

/-- What an accepted causal replay returns. -/
structure CausalInput (runner : TemporalReplayRunner) (runId entityId : String) (start stop : Int)
    (items : List (Scheduled φ)) (r : TemporalReplayResult) : Prop where
  start_le : start ≤ stop
  valid : ItemsValid runId entityId start stop items
  range : StaysInRange runner start stop
  result : replayResult runner runId entityId stop .runEnd
    (observations runner.scorer (causalWindow runner items) (causalPoints runner start stop)) = .ok r

theorem runCausal_eq_ok :
    runner.runCausal inputs runId entityId runStart runEnd = .ok r ↔
      ∃ start stop items, runStart = .utc start ∧ runEnd = .utc stop ∧
        inputs = items.map (·.input) ∧ CausalInput runner runId entityId start stop items r := by
  constructor
  · intro h
    obtain ⟨start, stop, items, rfl, rfl, hle, rfl, hvalid⟩ := items_of_ok h
    rw [runCausal_eq hle hvalid] at h
    split_ifs at h with hfails
    rw [not_or] at hfails
    refine ⟨start, stop, items, rfl, rfl, rfl, hle, hvalid, ⟨fun t ht => ?_, fun t ht hc => ?_⟩, h⟩
    · by_contra hnot
      exact hfails.1 ⟨t, ht, hnot⟩
    · exact hfails.2 ⟨t, ht, hc⟩
  · rintro ⟨start, stop, items, rfl, rfl, rfl, h⟩
    rw [runCausal_eq h.start_le h.valid, if_neg]
    · exact h.result
    · rintro (⟨t, ht, hnot⟩ | ⟨t, ht, hc⟩)
      · exact hnot (h.range.steps t ht)
      · exact h.range.cutoffs t ht hc

end Accepted

/-! ## Agreement up to a time -/

/-- Two results are the same up to a time: trajectory, snapshots, trace, and any
detection. -/
structure AgreesUpTo (t : Int) (r r' : TemporalReplayResult) : Prop where
  trajectory : r.trajectory.filter (·.timestamp ≤ t) = r'.trajectory.filter (·.timestamp ≤ t)
  snapshots :
    r.evidenceSnapshots.filter (·.timestamp ≤ t) = r'.evidenceSnapshots.filter (·.timestamp ≤ t)
  trace : r.stoppingTrace.filter (·.timestamp ≤ t) = r'.stoppingTrace.filter (·.timestamp ≤ t)
  detection : ∀ d ≤ t,
    r.stoppingResult.fusionTime = some d ↔ r'.stoppingResult.fusionTime = some d
  scoreAtDecision : ∀ d ≤ t, r.stoppingResult.fusionTime = some d →
    r.stoppingResult.scoreAtDecision = r'.stoppingResult.scoreAtDecision

section Split

variable {runner : TemporalReplayRunner} {runId entityId : String} {start stop t : Int}
  {reason : FusionEndReason} {r : TemporalReplayResult}

/-- The points of a replay up to a time, and those after it. -/
theorem causalPoints_split (runner : TemporalReplayRunner) (start stop t : Int) :
    causalPoints runner start stop =
      (causalPoints runner start stop).filter (· ≤ t) ++
        (causalPoints runner start stop).filter (fun x => ! decide (x ≤ t)) := by
  have hread : (causalPoints runner start stop).Pairwise fun x y =>
      decide (y ≤ t) → decide (x ≤ t) :=
    (causalPoints_pairwise runner start stop).imp fun hxy hy =>
      decide_eq_true (hxy.le.trans (of_decide_eq_true hy))
  rw [← takeWhile_eq_filter hread, ← dropWhile_eq_filter hread, List.takeWhile_append_dropWhile]

/-- A result holds the observations it was made of. -/
theorem replayResult_observations {obs : Observations}
    (h : replayResult runner runId entityId stop reason obs = .ok r) :
    r.trajectory = obs.1 ∧ r.evidenceSnapshots = obs.2 := by
  obtain ⟨⟨result, trace⟩, -, h⟩ := Except.bind_eq_ok.mp h
  obtain rfl := Except.pure_eq_ok.mp h
  exact ⟨rfl, rfl⟩

/-- What the points after a time leave alone. -/
theorem replayResult_upTo {early late : List ScorePoint} {snapshots : List ReplayEvidenceSnapshot}
    (h : replayResult runner runId entityId stop reason (early ++ late, snapshots) = .ok r)
    (hlate : ∀ p ∈ late, t < p.timestamp) :
    ∃ s, early.foldlM (runner.stoppingPolicy.observe runId entityId stop) {} = .ok s ∧
      r.stoppingTrace.filter (·.timestamp ≤ t) = s.observed.filter (·.timestamp ≤ t) ∧
      (∀ d ≤ t, r.stoppingResult.fusionTime = some d ↔ s.fusionTime = some d) ∧
      ∀ d ≤ t, r.stoppingResult.fusionTime = some d →
        r.stoppingResult.scoreAtDecision = s.scoreAtDecision := by
  obtain ⟨⟨result, trace⟩, heval, h⟩ := Except.bind_eq_ok.mp h
  obtain rfl := Except.pure_eq_ok.mp h
  obtain ⟨s', hfold, hconclude, rfl⟩ := ThresholdStoppingPolicy.evaluate_eq_ok heval
  rw [List.foldlM_append] at hfold
  obtain ⟨s, hearly, hrest⟩ := Except.bind_eq_ok.mp hfold
  obtain ⟨⟨obs, hobs, hmap⟩, hdetection⟩ := foldlM_observe hrest
  obtain ⟨htime, hscore⟩ := conclude_detection hconclude
  refine ⟨s, hearly, ?_, ?_, ?_⟩
  · have hnil : obs.filter (fun p => decide (p.timestamp ≤ t)) = [] := by
      rw [List.filter_eq_nil_iff]
      intro p hp hle
      have := hlate p.point (hmap ▸ List.mem_map_of_mem hp)
      exact absurd (of_decide_eq_true hle) (Int.not_le.mpr this)
    change s'.observed.filter _ = _
    rw [hobs, List.filter_append, hnil, List.append_nil]
  · intro d hd
    change result.fusionTime = some d ↔ _
    rw [htime]
    rcases hdetection with ⟨hsame, -⟩ | ⟨hnone, p, hp, hnew⟩
    · rw [hsame]
    · rw [hnone, hnew]
      refine iff_of_false (fun heq => ?_) (fun heq => nomatch heq)
      have := hlate p hp
      have := Option.some.inj heq
      omega
  · intro d hd hsome
    change result.fusionTime = some d at hsome
    rw [htime] at hsome
    change result.scoreAtDecision = _
    rw [hscore (by simp [hsome])]
    rcases hdetection with ⟨-, hsame⟩ | ⟨-, p, hp, hnew⟩
    · exact hsame
    · have := hlate p hp
      have := Option.some.inj (hnew.symm.trans hsome)
      omega

end Split

namespace CausalInput

variable {runner : TemporalReplayRunner} {runId entityId : String} {start stop : Int}
  {items items' : List (Scheduled φ)} {r r' : TemporalReplayResult}

/-- The result does not depend on the order of the items. -/
theorem congr (h : CausalInput runner runId entityId start stop items r) (hperm : items.Perm items') :
    CausalInput runner runId entityId start stop items' r where
  start_le := h.start_le
  valid :=
    { unique := (hperm.map _).nodup_iff.mp h.valid.unique
      runId_eq := fun i hi => h.valid.runId_eq i (hperm.mem_iff.mpr hi)
      entityId_eq := fun i hi => h.valid.entityId_eq i (hperm.mem_iff.mpr hi)
      within := fun i hi => h.valid.within i (hperm.mem_iff.mpr hi)
      available := fun i hi => h.valid.available i (hperm.mem_iff.mpr hi)
      causal := fun i hi => h.valid.causal i (hperm.mem_iff.mpr hi) }
  range := h.range
  result := by
    rw [← h.result]
    congr 1
    exact observations_congr fun t _ e => by simp only [mem_causalWindow, hperm.mem_iff]

/-- An item that is never in a window while it is available counts for nothing. -/
theorem expire {i₁ i₂ : List (Scheduled φ)} {item : Scheduled φ}
    (h : CausalInput runner runId entityId start stop (i₁ ++ item :: i₂) r)
    (hlate : item.evidence.timestamp + runner.windowEngine.windowSize < item.availableAt) :
    CausalInput runner runId entityId start stop (i₁ ++ i₂) r where
  start_le := h.start_le
  valid := by
    have hsub : (i₁ ++ i₂).Sublist (i₁ ++ item :: i₂) :=
      (List.Sublist.refl i₁).append (List.sublist_cons_self item i₂)
    exact
      { unique := h.valid.unique.sublist (hsub.map _)
        runId_eq := fun i hi => h.valid.runId_eq i (hsub.subset hi)
        entityId_eq := fun i hi => h.valid.entityId_eq i (hsub.subset hi)
        within := fun i hi => h.valid.within i (hsub.subset hi)
        available := fun i hi => h.valid.available i (hsub.subset hi)
        causal := fun i hi => h.valid.causal i (hsub.subset hi) }
  range := h.range
  result := by
    rw [← h.result]
    congr 1
    refine observations_congr fun t _ e => ?_
    rw [mem_causalWindow, mem_causalWindow]
    refine and_congr_left fun hwindow => exists_congr fun i => ?_
    simp only [List.mem_append, List.mem_cons]
    constructor
    · rintro ⟨hi, hle, rfl⟩
      exact ⟨hi.imp_right .inr, hle, rfl⟩
    · rintro ⟨hi | rfl | hi, hle, rfl⟩
      · exact ⟨.inl hi, hle, rfl⟩
      · omega
      · exact ⟨.inr hi, hle, rfl⟩

/-- What the replay observes up to a time. -/
abbrev early (runner : TemporalReplayRunner) (start stop : Int) (items : List (Scheduled φ))
    (t : Int) : Observations :=
  observations runner.scorer (causalWindow runner items)
    ((causalPoints runner start stop).filter (· ≤ t))

theorem trajectory_upTo (h : CausalInput runner runId entityId start stop items r) (t : Int) :
    r.trajectory.filter (·.timestamp ≤ t) = (early runner start stop items t).1 := by
  rw [(replayResult_observations h.result).1, observations, List.filter_map]
  rfl

theorem snapshots_upTo (h : CausalInput runner runId entityId start stop items r) (t : Int) :
    r.evidenceSnapshots.filter (·.timestamp ≤ t) = (early runner start stop items t).2 := by
  rw [(replayResult_observations h.result).2, observations, List.filter_map]
  rfl

/-- What the policy has decided by a time. -/
theorem upTo (h : CausalInput runner runId entityId start stop items r) (t : Int) :
    ∃ s, (early runner start stop items t).1.foldlM
        (runner.stoppingPolicy.observe runId entityId stop) {} = .ok s ∧
      r.stoppingTrace.filter (·.timestamp ≤ t) = s.observed.filter (·.timestamp ≤ t) ∧
      (∀ d ≤ t, r.stoppingResult.fusionTime = some d ↔ s.fusionTime = some d) ∧
      ∀ d ≤ t, r.stoppingResult.fusionTime = some d →
        r.stoppingResult.scoreAtDecision = s.scoreAtDecision := by
  have hresult := h.result
  rw [observations, causalPoints_split runner start stop t, List.map_append] at hresult
  refine replayResult_upTo hresult fun p hp => ?_
  obtain ⟨x, hx, rfl⟩ := List.mem_map.mp hp
  simpa using (List.mem_filter.mp hx).2

/-- Items that agree up to a time make the same of it. -/
theorem agree (h : CausalInput runner runId entityId start stop items r)
    (h' : CausalInput runner runId entityId start stop items' r') {t : Int}
    (hitems : ∀ i : Scheduled φ, i.availableAt ≤ t → (i ∈ items ↔ i ∈ items')) :
    AgreesUpTo t r r' := by
  have hwindow : ∀ x ∈ (causalPoints runner start stop).filter (· ≤ t), ∀ e,
      e ∈ causalWindow runner items x ↔ e ∈ causalWindow runner items' x := by
    intro x hx e
    have hxt : x ≤ t := of_decide_eq_true (List.mem_filter.mp hx).2
    rw [mem_causalWindow, mem_causalWindow]
    refine and_congr_left fun _ => exists_congr fun i => ?_
    constructor
    · exact fun ⟨hi, hle, he⟩ => ⟨(hitems i (hle.trans hxt)).mp hi, hle, he⟩
    · exact fun ⟨hi, hle, he⟩ => ⟨(hitems i (hle.trans hxt)).mpr hi, hle, he⟩
  have hearly : observations runner.scorer _ _ = observations runner.scorer _ _ :=
    observations_congr hwindow
  have hscores := congrArg Prod.fst hearly
  have hids := congrArg Prod.snd hearly
  obtain ⟨s, hfold, htrace, htime, hscore⟩ := h.upTo t
  obtain ⟨s', hfold', htrace', htime', hscore'⟩ := h'.upTo t
  rw [hscores, hfold'] at hfold
  obtain rfl := Except.ok.inj hfold
  refine ⟨?_, ?_, htrace.trans htrace'.symm, fun d hd => (htime d hd).trans (htime' d hd).symm, ?_⟩
  · rw [h.trajectory_upTo, h'.trajectory_upTo, hscores]
  · rw [h.snapshots_upTo, h'.snapshots_upTo, hids]
  · intro d hd hsome
    have hsome' := (htime' d hd).mpr ((htime d hd).mp hsome)
    rw [hscore d hd hsome, hscore' d hd hsome']

end CausalInput

/-! ## The laws -/

section Laws

variable {runner : TemporalReplayRunner} {runId entityId : String} {runStart runEnd : PyDatetime}
  {l l' l₁ l₂ : List (ScheduledEvidence φ)} {r r' : TemporalReplayResult} {t : Int}

theorem Scheduled.input_injective : Function.Injective (Scheduled.input (φ := φ)) := by
  rintro ⟨e, a⟩ ⟨e', a'⟩ h
  obtain ⟨rfl, h⟩ := ScheduledEvidence.mk.inj h
  obtain ⟨rfl, -⟩ := PyDatetime.aware.inj h
  rfl

theorem mem_map_input {items : List (Scheduled φ)} {i : Scheduled φ} :
    i.input ∈ items.map (·.input) ↔ i ∈ items :=
  List.mem_map_of_injective Scheduled.input_injective

/-- A permutation of checked items is one of checked items. -/
theorem exists_perm_items {items : List (Scheduled φ)} (h : (items.map (·.input)).Perm l') :
    ∃ items', items.Perm items' ∧ l' = items'.map (·.input) := by
  have hrange : l' ∈ Set.range (List.map (Scheduled.input (φ := φ))) := by
    rw [Set.range_list_map]
    intro x hx
    obtain ⟨i, -, rfl⟩ := List.mem_map.mp (h.mem_iff.mpr hx)
    exact ⟨i, rfl⟩
  obtain ⟨items', rfl⟩ := hrange
  exact ⟨items', (List.map_perm_map_iff Scheduled.input_injective).mp h, rfl⟩

theorem runCausal_perm (h : runner.runCausal l runId entityId runStart runEnd = .ok r)
    (hperm : l.Perm l') : runner.runCausal l' runId entityId runStart runEnd = .ok r := by
  obtain ⟨start, stop, items, rfl, rfl, rfl, hinput⟩ := runCausal_eq_ok.mp h
  obtain ⟨items', hitems, rfl⟩ := exists_perm_items hperm
  exact runCausal_eq_ok.mpr ⟨start, stop, items', rfl, rfl, rfl, hinput.congr hitems⟩

theorem runCausal_agree (h : runner.runCausal l runId entityId runStart runEnd = .ok r)
    (h' : runner.runCausal l' runId entityId runStart runEnd = .ok r')
    (hitems : ∀ i : Scheduled φ, i.availableAt ≤ t → (i.input ∈ l ↔ i.input ∈ l')) :
    AgreesUpTo t r r' := by
  obtain ⟨start, stop, items, rfl, rfl, rfl, hinput⟩ := runCausal_eq_ok.mp h
  obtain ⟨start', stop', items', hstart, hstop, rfl, hinput'⟩ := runCausal_eq_ok.mp h'
  obtain ⟨rfl, -⟩ := PyDatetime.aware.inj hstart
  obtain ⟨rfl, -⟩ := PyDatetime.aware.inj hstop
  refine hinput.agree hinput' fun i hi => ?_
  simpa only [mem_map_input] using hitems i hi

/-- Delaying an item changes nothing before it was available. -/
theorem runCausal_delay {e : Evidence φ} {a a' : Int} (hle : a ≤ a') (ht : t < a)
    (h : runner.runCausal (l₁ ++ ⟨e, .utc a⟩ :: l₂) runId entityId runStart runEnd = .ok r)
    (h' : runner.runCausal (l₁ ++ ⟨e, .utc a'⟩ :: l₂) runId entityId runStart runEnd = .ok r') :
    AgreesUpTo t r r' := by
  refine runCausal_agree h h' fun i hi => ?_
  have hne : ∀ b : Int, t < b → i.input ≠ ⟨e, .utc b⟩ := by
    intro b hb heq
    obtain ⟨-, heq⟩ := ScheduledEvidence.mk.inj heq
    obtain ⟨rfl, -⟩ := PyDatetime.aware.inj heq
    exact absurd hi (Int.not_le.mpr hb)
  simp only [List.mem_append, List.mem_cons, hne a ht, hne a' (by omega), false_or]

/-- An item that becomes available after its timestamp has left the window counts
for nothing. -/
theorem runCausal_expired {e : Evidence φ} {a : Int}
    (hlate : e.timestamp + runner.windowEngine.windowSize < a)
    (h : runner.runCausal (l₁ ++ ⟨e, .utc a⟩ :: l₂) runId entityId runStart runEnd = .ok r) :
    runner.runCausal (l₁ ++ l₂) runId entityId runStart runEnd = .ok r := by
  obtain ⟨start, stop, items, rfl, rfl, hitems, hinput⟩ := runCausal_eq_ok.mp h
  obtain ⟨i₁, rest, rfl, rfl, hrest⟩ := List.map_eq_append_iff.mp hitems.symm
  obtain ⟨item, i₂, rfl, hitem, rfl⟩ := List.map_eq_cons_iff.mp hrest
  obtain ⟨rfl, havailable⟩ := ScheduledEvidence.mk.inj hitem
  obtain ⟨rfl, -⟩ := PyDatetime.aware.inj havailable
  exact runCausal_eq_ok.mpr ⟨start, stop, i₁ ++ i₂, rfl, rfl, by simp, hinput.expire hlate⟩

end Laws

/-- What the causal replay of one configuration, run and run window keeps to. -/
structure CausalReplayLaws (φ : Type) (runner : TemporalReplayRunner) (runId entityId : String)
    (runStart runEnd : PyDatetime) : Prop where
  orderFree : ∀ (l l' : List (ScheduledEvidence φ)) (r : TemporalReplayResult),
    runner.runCausal l runId entityId runStart runEnd = .ok r → l.Perm l' →
      runner.runCausal l' runId entityId runStart runEnd = .ok r
  nonAnticipating : ∀ (l l' : List (ScheduledEvidence φ)) (r r' : TemporalReplayResult) (t : Int),
    runner.runCausal l runId entityId runStart runEnd = .ok r →
      runner.runCausal l' runId entityId runStart runEnd = .ok r' →
      (∀ i : Scheduled φ, i.availableAt ≤ t → (i.input ∈ l ↔ i.input ∈ l')) → AgreesUpTo t r r'
  delayed : ∀ (l₁ l₂ : List (ScheduledEvidence φ)) (e : Evidence φ) (a a' : Int)
    (r r' : TemporalReplayResult), a ≤ a' →
      runner.runCausal (l₁ ++ ⟨e, .utc a⟩ :: l₂) runId entityId runStart runEnd = .ok r →
      runner.runCausal (l₁ ++ ⟨e, .utc a'⟩ :: l₂) runId entityId runStart runEnd = .ok r' →
      ∀ t < a, AgreesUpTo t r r'
  expired : ∀ (l₁ l₂ : List (ScheduledEvidence φ)) (e : Evidence φ) (a : Int)
    (r : TemporalReplayResult), e.timestamp + runner.windowEngine.windowSize < a →
      runner.runCausal (l₁ ++ ⟨e, .utc a⟩ :: l₂) runId entityId runStart runEnd = .ok r →
      runner.runCausal (l₁ ++ l₂) runId entityId runStart runEnd = .ok r

/-- The causal replay neither anticipates nor depends on the order of its items. -/
theorem causalReplayLaws (φ : Type) (runner : TemporalReplayRunner) (runId entityId : String)
    (runStart runEnd : PyDatetime) :
    CausalReplayLaws φ runner runId entityId runStart runEnd where
  orderFree := fun _ _ _ h hperm => runCausal_perm h hperm
  nonAnticipating := fun _ _ _ _ _ h h' hitems => runCausal_agree h h' hitems
  delayed := fun _ _ _ _ _ _ _ hle h h' _ ht => runCausal_delay hle ht h h'
  expired := fun _ _ _ _ _ hlate h => runCausal_expired hlate h

namespace Sample

theorem oneSecond_pos : (0 : Int) < 1000000 := by decide

theorem twoSeconds_pos : (0 : Int) < 2000000 := by decide

/-- A window of 2 s, observed every second. -/
def causalRunner : TemporalReplayRunner where
  windowEngine := ⟨2000000, twoSeconds_pos⟩
  scorer := { profileTypes := ["suspicious_script", "beacon"] }
  stoppingPolicy :=
    { thresholdOn := 4 / 5
      thresholdOff := 1 / 5
      persistenceK := 1
      thresholdOn_mem := by norm_num
      thresholdOff_mem := by norm_num
      thresholdOff_lt := by norm_num
      persistenceK_pos := Nat.one_pos }
  stepSize := 1000000
  stepSize_pos := oneSecond_pos

/-- Evidence of a type, one second into the epoch. -/
def causalEvidence (evidenceId evidenceType : String) : Evidence Unit where
  evidenceId := evidenceId
  runId := "RUN-1"
  timestamp := 1000000
  entityId := "host-1"
  evidenceType := evidenceType
  eventIds := ["EVT-4"]
  derivedFromSourceLayer := .rawTelemetry
  featureChannelGroup := .fusionFeature
  extractorVersion := "v0.2"
  features := ()

def script : ScheduledEvidence Unit :=
  ⟨causalEvidence "EV-1" "suspicious_script", .utc 1000000⟩

/-- The second Evidence, available from an instant on. -/
def beaconAt (availableAt : Int) : ScheduledEvidence Unit :=
  ⟨causalEvidence "EV-2" "beacon", .utc availableAt⟩

/-- Five seconds of a run. -/
abbrev replayed (items : List (ScheduledEvidence Unit)) : Except PyError TemporalReplayResult :=
  causalRunner.runCausal items "RUN-1" "host-1" (.utc 0) (.utc 5000000)

theorem replayed_isOk : (replayed [script, beaconAt 2000000]).isOk ∧
    (replayed [script, beaconAt 4000000]).isOk := by
  decide +kernel

end Sample

open Sample in
/-- The second Evidence is late by two seconds, and out of the window when it is available. -/
theorem causalReplayLaws_delayed : ∃ r r',
    replayed [script, beaconAt 2000000] = .ok r ∧ replayed [script, beaconAt 4000000] = .ok r' ∧
      replayed [beaconAt 2000000, script] = .ok r ∧ (∀ t < 2000000, AgreesUpTo t r r') ∧
        replayed [script] = .ok r' := by
  obtain ⟨hok, hok'⟩ := replayed_isOk
  cases h : replayed [script, beaconAt 2000000] with
  | error e =>
    rw [h] at hok
    cases hok
  | ok r =>
    cases h' : replayed [script, beaconAt 4000000] with
    | error e =>
      rw [h'] at hok'
      cases hok'
    | ok r' =>
      have laws := causalReplayLaws Unit causalRunner "RUN-1" "host-1" (.utc 0) (.utc 5000000)
      refine ⟨r, r', rfl, rfl, laws.orderFree _ _ r h (List.Perm.swap _ _ _), ?_, ?_⟩
      · exact laws.delayed [script] [] _ 2000000 4000000 r r' (by decide) h h'
      · exact laws.expired [script] [] _ _ r' (by decide) h'

end IncidentAwareness.Fusion
