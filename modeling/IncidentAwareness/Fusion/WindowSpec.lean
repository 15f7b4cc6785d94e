import IncidentAwareness.Fusion.Window
import IncidentAwareness.Lib.Process

/-!
# What the window engine holds

A caller's ingests, advances and resets leave, for each key, a history: the Evidence
ingested and the last advance since the last reset (`historyOf`). The engine's entries of
the key are those of that history (`Represents`), whatever calls of other keys come between:

* `ingest_eq_ok`, `advanceTo_eq_ok`: what a call that returns says of the dicts;
* `Represents.perform`: what one call keeps;
* `represents_performAll`: what a run of calls keeps;
* `keeps_perform`: a call leaves the entries of every other key, also where it raises;
* `windowEngine_represents`: deque, order, active Evidence and frame together.
-/

namespace IncidentAwareness.Fusion

open IncidentAwareness.Common IncidentAwareness.Lib

variable {φ : Type}

/-- A call of a `WindowEngine`. -/
inductive WindowCall (φ : Type) where
  | ingest (evidence : Evidence φ)
  | advanceTo (runId entityId : String) (timestamp : PyDatetime)
  | getActiveEvidence (runId entityId : String)
  | reset (runId entityId : String)

/-- The key that a call names. -/
def WindowCall.key : WindowCall φ → StateKey
  | .ingest evidence => (evidence.runId, evidence.entityId)
  | .advanceTo runId entityId _ => (runId, entityId)
  | .getActiveEvidence runId entityId => (runId, entityId)
  | .reset runId entityId => (runId, entityId)

/-- A call; only `get_active_evidence` returns a value. -/
def WindowEngine.perform (engine : WindowEngine) :
    WindowCall φ → EStateM PyError (WindowState φ) (List (Evidence φ))
  | .ingest evidence => do
    WindowEngine.ingest evidence
    return []
  | .advanceTo runId entityId timestamp => do
    engine.advanceTo runId entityId timestamp
    return []
  | .getActiveEvidence runId entityId =>
    reads fun s => .ok (WindowEngine.getActiveEvidence runId entityId s)
  | .reset runId entityId => do
    WindowEngine.reset runId entityId
    return []

/-- Calls one after another. -/
def WindowEngine.performAll (engine : WindowEngine) :
    List (WindowCall φ) → EStateM PyError (WindowState φ) Unit
  | [] => pure ()
  | call :: calls => do
    let _ ← engine.perform call
    engine.performAll calls

/-! ## Histories -/

/-- What was ingested under a key since its last reset, and the last advance. -/
structure History (φ : Type) where
  ingested : List (Evidence φ) := []
  advance : Option Int := none

/-- The instant of an aware datetime. -/
def instant : PyDatetime → Option Int
  | .naive => none
  | .aware t _ => some t

/-- The history of the key of a call, after it. -/
def History.step (h : History φ) : WindowCall φ → History φ
  | .ingest evidence => { h with ingested := h.ingested ++ [evidence] }
  | .advanceTo _ _ timestamp => { h with advance := instant timestamp }
  | .getActiveEvidence _ _ => h
  | .reset _ _ => {}

/-- The history of a key after a call. -/
def History.after (key : StateKey) (h : History φ) (call : WindowCall φ) : History φ :=
  if call.key = key then h.step call else h

/-- The history of a key after calls. -/
def historyOf (key : StateKey) (calls : List (WindowCall φ)) : History φ :=
  calls.foldl (History.after key) {}

/-- Not older than the last cutoff. -/
def History.Retained (engine : WindowEngine) (h : History φ) (e : Evidence φ) : Prop :=
  ∀ t ∈ h.advance, t - engine.windowSize ≤ e.timestamp

instance (engine : WindowEngine) (h : History φ) : DecidablePred (h.Retained engine) := fun e =>
  inferInstanceAs (Decidable (∀ t ∈ h.advance, t - engine.windowSize ≤ e.timestamp))

/-- Within the window that the last advance ends. -/
def History.Active (engine : WindowEngine) (h : History φ) (e : Evidence φ) : Prop :=
  ∀ t ∈ h.advance, t - engine.windowSize ≤ e.timestamp ∧ e.timestamp ≤ t

instance (engine : WindowEngine) (h : History φ) : DecidablePred (h.Active engine) := fun e =>
  inferInstanceAs
    (Decidable (∀ t ∈ h.advance, t - engine.windowSize ≤ e.timestamp ∧ e.timestamp ≤ t))

/-- The entries of a key are those of its history. -/
structure Represents (engine : WindowEngine) (key : StateKey) (h : History φ) (s : WindowState φ) :
    Prop where
  sorted : h.ingested.Pairwise fun a b => a.timestamp ≤ b.timestamp
  states : s.states key =
    if h.ingested = [] then none else some (h.ingested.filter fun e => h.Retained engine e)
  last : s.lastTimestamp key = h.ingested.getLast?.map (·.timestamp)
  advance : s.lastAdvanceTimestamp key = h.advance

/-! ## What a call that returns says -/

section Calls

variable {engine : WindowEngine} {s s' : WindowState φ} {runId entityId : String}

theorem refuseBefore_eq_ok {last : Option Int} {t : Int} {text : String} {u : Unit}
    (h : WindowEngine.refuseBefore last t text = .ok u) : ∀ l ∈ last, l ≤ t := by
  intro l hl
  by_contra hlt
  exact raiseIf_eq_ok.mp h ⟨l, hl, Int.not_le.mp hlt⟩

/-- Ingested Evidence is at or after what the engine has seen of its key. -/
theorem ingest_eq_ok {e : Evidence φ} {u : Unit}
    (h : (WindowEngine.ingest e).run s = .ok u s') :
    (∀ l ∈ s.lastAdvanceTimestamp (e.runId, e.entityId), l ≤ e.timestamp) ∧
    (∀ l ∈ s.lastTimestamp (e.runId, e.entityId), l ≤ e.timestamp) ∧
    s' = s.set (e.runId, e.entityId) (some ((s.states (e.runId, e.entityId)).getD [] ++ [e]))
      (some e.timestamp) (s.lastAdvanceTimestamp (e.runId, e.entityId)) := by
  have hrun := h
  unfold WindowEngine.ingest at h
  rw [run_bind_eq_ok] at h
  obtain ⟨_, s₁, hadvance, h⟩ := h
  obtain ⟨hadvance, rfl⟩ := run_reads_eq_ok.mp hadvance
  rw [run_bind_eq_ok] at h
  obtain ⟨_, s₂, hlast, -⟩ := h
  obtain ⟨hlast, rfl⟩ := run_reads_eq_ok.mp hlast
  refine ⟨refuseBefore_eq_ok hadvance, refuseBefore_eq_ok hlast, ?_⟩
  rw [WindowEngine.run_ingest rfl rfl (refuseBefore_eq_ok hadvance) (refuseBefore_eq_ok hlast)] at hrun
  cases hrun
  rfl

/-- An advance is at or after what the engine has seen of its key. -/
theorem advanceTo_eq_ok {timestamp : PyDatetime} {u : Unit}
    (h : (engine.advanceTo runId entityId timestamp).run s = .ok u s') :
    ∃ t, timestamp = .utc t ∧
      (∀ l ∈ s.lastAdvanceTimestamp (runId, entityId), l ≤ t) ∧
      (∀ l ∈ s.lastTimestamp (runId, entityId), l ≤ t) ∧
      s' = s.set (runId, entityId)
        ((s.states (runId, entityId)).map fun state =>
          state.dropWhile fun e => e.timestamp < t - engine.windowSize)
        (s.lastTimestamp (runId, entityId)) (some t) := by
  have hrun := h
  unfold WindowEngine.advanceTo at h
  rw [run_bind_eq_ok] at h
  obtain ⟨t, s₁, ht, h⟩ := h
  obtain ⟨hutc, hs₁⟩ := run_reads_eq_ok.mp ht
  obtain rfl := requireUtc_eq_ok.mp hutc
  rw [hs₁] at h
  dsimp only at h
  rw [run_bind_eq_ok] at h
  obtain ⟨_, s₂, hadvance, h⟩ := h
  obtain ⟨hadvance, hs₂⟩ := run_reads_eq_ok.mp hadvance
  rw [hs₂, run_bind_eq_ok] at h
  obtain ⟨_, s₃, hlast, -⟩ := h
  obtain ⟨hlast, -⟩ := run_reads_eq_ok.mp hlast
  refine ⟨t, rfl, refuseBefore_eq_ok hadvance, refuseBefore_eq_ok hlast, ?_⟩
  rw [WindowEngine.run_advanceTo (refuseBefore_eq_ok hadvance) (refuseBefore_eq_ok hlast)] at hrun
  have hstates : (WindowEngine.advanced s (runId, entityId) t).states (runId, entityId) =
      s.states (runId, entityId) := WindowState.states_set ..
  cases hstate : s.states (runId, entityId) with
  | none =>
    rw [WindowEngine.run_evict_of_none (hstates.trans hstate)] at hrun
    cases hrun
    rw [WindowEngine.advanced, hstate]
    rfl
  | some state =>
    cases hcutoff : addTimedelta t (-engine.windowSize) with
    | error e =>
      rw [WindowEngine.run_evict_error (hstates.trans hstate) hcutoff] at hrun
      cases hrun
    | ok cutoff =>
      rw [WindowEngine.run_evict_of_some (hstates.trans hstate) hcutoff] at hrun
      cases hrun
      rw [(addTimedelta_eq_ok.mp hcutoff).1, ← Int.sub_eq_add_neg]
      simp [WindowEngine.advanced, WindowState.set]

end Calls

/-! ## Other keys -/

/-- The entries of a key. -/
def WindowState.entries (s : WindowState φ) (key : StateKey) :
    Option (List (Evidence φ)) × Option Int × Option Int :=
  (s.states key, s.lastTimestamp key, s.lastAdvanceTimestamp key)

section Frame

variable {engine : WindowEngine} {key key' : StateKey}

theorem entries_set_of_ne (s : WindowState φ) (h : key ≠ key') (state : Option (List (Evidence φ)))
    (last advance : Option Int) : (s.set key' state last advance).entries key = s.entries key := by
  simp only [WindowState.entries, WindowState.set, Function.update_of_ne h]

variable {entries : Option (List (Evidence φ)) × Option Int × Option Int}

theorem keeps_ingest {e : Evidence φ} (h : key ≠ (e.runId, e.entityId)) :
    Keeps (fun s => s.entries key = entries) (WindowEngine.ingest e) := by
  refine keeps_bind (keeps_reads _) fun _ => keeps_bind (keeps_reads _) fun _ => ?_
  exact keeps_modify fun s hs => (entries_set_of_ne s h _ _ _).trans hs

theorem keeps_advanceTo {runId entityId : String} {timestamp : PyDatetime}
    (h : key ≠ (runId, entityId)) :
    Keeps (fun s => s.entries key = entries) (engine.advanceTo runId entityId timestamp) := by
  refine keeps_bind (keeps_reads _) fun t => keeps_bind (keeps_reads _) fun _ => ?_
  refine keeps_bind (keeps_reads _) fun _ => keeps_bind ?_ fun _ => ?_
  · exact keeps_modify fun s hs => (entries_set_of_ne s h _ _ _).trans hs
  · refine keeps_bind keeps_get fun s => ?_
    split
    · exact keeps_pure ()
    · refine keeps_bind (keeps_reads _) fun cutoff => ?_
      exact keeps_modify fun s hs => (entries_set_of_ne s h _ _ _).trans hs

/-- A call leaves the entries of the other keys, whether it returns or raises. -/
theorem keeps_perform {call : WindowCall φ} (h : call.key ≠ key) :
    Keeps (fun s => s.entries key = entries) (engine.perform call) := by
  cases call with
  | ingest e => exact keeps_bind (keeps_ingest h.symm) fun _ => keeps_pure _
  | advanceTo runId entityId timestamp =>
    exact keeps_bind (keeps_advanceTo h.symm) fun _ => keeps_pure _
  | getActiveEvidence runId entityId =>
    exact keeps_reads fun s => .ok (WindowEngine.getActiveEvidence runId entityId s)
  | reset runId entityId =>
    refine keeps_bind (keeps_modify fun s hs => ?_) fun _ => keeps_pure _
    exact (entries_set_of_ne s h.symm _ _ _).trans hs

end Frame

/-! ## The representation -/

section Representation

variable {engine : WindowEngine} {key : StateKey} {h : History φ} {s s' : WindowState φ}

theorem represents_empty : Represents engine key ({} : History φ) .empty where
  sorted := List.Pairwise.nil
  states := rfl
  last := rfl
  advance := rfl

theorem Represents.of_entries_eq (hs : Represents engine key h s)
    (hentries : s'.entries key = s.entries key) : Represents engine key h s' := by
  obtain ⟨hstates, hrest⟩ := Prod.mk.inj hentries
  obtain ⟨hlast, hadvance⟩ := Prod.mk.inj hrest
  exact ⟨hs.sorted, hstates.trans hs.states, hlast.trans hs.last, hadvance.trans hs.advance⟩

/-- An ingest appends to the history. -/
theorem Represents.ingest {e : Evidence φ} {u : Unit} (hs : Represents engine (e.runId, e.entityId) h s)
    (hrun : (WindowEngine.ingest e).run s = .ok u s') :
    Represents engine (e.runId, e.entityId) { h with ingested := h.ingested ++ [e] } s' := by
  obtain ⟨hadvance, hlast, rfl⟩ := ingest_eq_ok hrun
  rw [hs.advance] at hadvance
  rw [hs.last] at hlast
  have hwindow := engine.pos
  have hretained : h.Retained engine e := by
    intro t ht
    have hle := hadvance t ht
    omega
  have hbefore : ∀ a ∈ h.ingested, a.timestamp ≤ e.timestamp := by
    intro a ha
    obtain ⟨last, hlast'⟩ : ∃ last, h.ingested.getLast? = some last :=
      Option.isSome_iff_exists.mp (List.getLast?_isSome.mpr (List.ne_nil_of_mem ha))
    have hle : last.timestamp ≤ e.timestamp := hlast _ (by rw [hlast']; rfl)
    obtain ⟨init, hinit⟩ := List.getLast?_eq_some_iff.mp hlast'
    have hsorted := hs.sorted
    rw [hinit] at ha hsorted
    rcases List.mem_append.mp ha with ha | ha
    · exact ((List.pairwise_append.mp hsorted).2.2 a ha last List.mem_cons_self).trans hle
    · rw [List.mem_singleton.mp ha]
      exact hle
  refine ⟨?_, ?_, ?_, ?_⟩
  · refine List.pairwise_append.mpr ⟨hs.sorted, List.pairwise_singleton _ _, fun a ha b hb => ?_⟩
    rw [List.mem_singleton.mp hb]
    exact hbefore a ha
  · have hfilter : (s.states (e.runId, e.entityId)).getD [] =
        h.ingested.filter fun e => h.Retained engine e := by
      rw [hs.states]
      split
      · next hnil => rw [hnil]; rfl
      · rfl
    have hne : h.ingested ++ [e] ≠ [] := by simp
    rw [WindowState.states_set, hfilter, if_neg hne, List.filter_append]
    congr 2
    rw [List.filter_cons_of_pos (by exact decide_eq_true hretained), List.filter_nil]
  · rw [WindowState.lastTimestamp_set, List.getLast?_concat]
    rfl
  · rw [WindowState.lastAdvanceTimestamp_set, hs.advance]

/-- An advance replaces the last one. -/
theorem Represents.advanceTo {runId entityId : String} {timestamp : PyDatetime} {u : Unit}
    (hs : Represents engine (runId, entityId) h s)
    (hrun : (engine.advanceTo runId entityId timestamp).run s = .ok u s') :
    Represents engine (runId, entityId) { h with advance := instant timestamp } s' := by
  obtain ⟨t, rfl, hadvance, hlast, rfl⟩ := advanceTo_eq_ok hrun
  rw [hs.advance] at hadvance
  refine ⟨hs.sorted, ?_, ?_, ?_⟩
  · rw [WindowState.states_set, hs.states]
    split
    · rfl
    · have hsorted : (h.ingested.filter fun e => h.Retained engine e).Pairwise
          fun a b => decide (b.timestamp < t - engine.windowSize) = true →
            decide (a.timestamp < t - engine.windowSize) = true := by
        refine (hs.sorted.filter _).imp fun {a b} hab hb => ?_
        exact decide_eq_true (hab.trans_lt (of_decide_eq_true hb))
      rw [Option.map_some, dropWhile_eq_filter hsorted, List.filter_filter]
      congr 1
      refine List.filter_congr fun e he => ?_
      rw [← decide_not, ← Bool.decide_and, decide_eq_decide]
      constructor
      · rintro ⟨hnot, -⟩ l hl
        rw [← Option.some.inj hl]
        exact Int.not_lt.mp hnot
      · intro hnew
        have hcutoff := hnew t rfl
        refine ⟨Int.not_lt.mpr hcutoff, fun l hl => ?_⟩
        have hle := hadvance l hl
        omega
  · rw [WindowState.lastTimestamp_set, hs.last]
  · rw [WindowState.lastAdvanceTimestamp_set]
    rfl

/-- A reset starts a history. -/
theorem represents_reset (engine : WindowEngine) (key : StateKey) (s : WindowState φ) :
    Represents engine key ({} : History φ) (s.set key none none none) where
  sorted := List.Pairwise.nil
  states := WindowState.states_set ..
  last := WindowState.lastTimestamp_set ..
  advance := WindowState.lastAdvanceTimestamp_set ..

theorem run_perform_getActiveEvidence (engine : WindowEngine) (runId entityId : String)
    (s : WindowState φ) : (engine.perform (.getActiveEvidence runId entityId)).run s =
      .ok (WindowEngine.getActiveEvidence runId entityId s) s := rfl

/-- What a call that returns keeps of the representation. -/
theorem Represents.perform {call : WindowCall φ} {r : List (Evidence φ)}
    (hs : Represents engine key h s) (hrun : (engine.perform call).run s = .ok r s') :
    Represents engine key (h.after key call) s' := by
  by_cases hkey : call.key = key
  swap
  · rw [History.after, if_neg hkey]
    exact hs.of_entries_eq ((wp_of_ok hrun).mp (keeps_perform hkey s rfl))
  rw [History.after, if_pos hkey]
  cases call with
  | ingest e =>
    subst hkey
    obtain ⟨u, s₁, hingest, hpure⟩ := run_bind_eq_ok.mp hrun
    cases hpure
    exact hs.ingest hingest
  | advanceTo runId entityId timestamp =>
    subst hkey
    obtain ⟨u, s₁, hadvance, hpure⟩ := run_bind_eq_ok.mp hrun
    cases hpure
    exact hs.advanceTo hadvance
  | getActiveEvidence runId entityId =>
    rw [run_perform_getActiveEvidence] at hrun
    cases hrun
    exact hs
  | reset runId entityId =>
    subst hkey
    obtain ⟨u, s₁, hreset, hpure⟩ := run_bind_eq_ok.mp hrun
    cases hpure
    cases hreset
    exact represents_reset engine (runId, entityId) s

/-- What a run of calls keeps of the representation. -/
theorem represents_performAll {calls : List (WindowCall φ)} {u : Unit}
    (hs : Represents engine key h s) (hrun : (engine.performAll calls).run s = .ok u s') :
    Represents engine key (calls.foldl (History.after key) h) s' := by
  induction calls generalizing h s with
  | nil =>
    cases hrun
    exact hs
  | cons call calls ih =>
    obtain ⟨r, s₁, hcall, hrest⟩ := run_bind_eq_ok.mp hrun
    exact ih (hs.perform hcall) hrest

/-- The active Evidence of a key. -/
theorem Represents.getActiveEvidence {runId entityId : String}
    (hs : Represents engine (runId, entityId) h s) :
    WindowEngine.getActiveEvidence runId entityId s =
      h.ingested.filter fun e => h.Active engine e := by
  rw [WindowEngine.getActiveEvidence, hs.states, hs.advance]
  split
  · next hnone =>
    split at hnone
    · next hnil => rw [hnil]; rfl
    · cases hnone
  · next state hsome =>
    split at hsome
    · cases hsome
    · obtain rfl := Option.some.inj hsome
      cases hadvance : h.advance with
      | none =>
        refine List.filter_congr fun e _ => ?_
        rw [decide_eq_decide]
        simp [History.Retained, History.Active, hadvance]
      | some t =>
        show List.filter _ (List.filter _ h.ingested) = _
        rw [List.filter_filter]
        refine List.filter_congr fun e _ => ?_
        rw [← Bool.decide_and, decide_eq_decide]
        simp [History.Retained, History.Active, hadvance, and_comm]

end Representation

/-- After any calls that return, on any keys, the deque of a key is sorted and holds the Evidence
ingested since its last reset that is not older than the last cutoff, `get_active_evidence` returns
what of it lies in the window (all of it where no advance has set one), and a further call leaves
every other key, returning or raising. -/
theorem windowEngine_represents (engine : WindowEngine) (calls : List (WindowCall φ))
    {s : WindowState φ} {u : Unit} (hrun : (engine.performAll calls).run .empty = .ok u s) :
    (∀ key, let h := historyOf key calls
      ((s.states key).getD [] = h.ingested.filter fun e => h.Retained engine e) ∧
      ((s.states key).getD []).Pairwise (fun a b => a.timestamp ≤ b.timestamp) ∧
      (engine.perform (.getActiveEvidence key.1 key.2)).run s =
        .ok (h.ingested.filter fun e => h.Active engine e) s) ∧
    ∀ (call : WindowCall φ) (key : StateKey), call.key ≠ key →
      (∀ r s', (engine.perform call).run s = .ok r s' → s'.entries key = s.entries key) ∧
      ∀ e s', (engine.perform call).run s = .error e s' → s'.entries key = s.entries key := by
  refine ⟨fun key => ?_, fun call key hkey => ⟨fun r s' hcall => ?_, fun e s' hcall => ?_⟩⟩
  rotate_left
  · exact (wp_of_ok hcall).mp (keeps_perform hkey s rfl)
  · exact (wp_of_error hcall).mp (keeps_perform hkey s rfl)
  have hempty : Represents engine key ({} : History φ) .empty := represents_empty
  have hs := represents_performAll hempty hrun
  have hdeque : (s.states key).getD [] =
      (historyOf key calls).ingested.filter fun e => (historyOf key calls).Retained engine e := by
    rw [hs.states]
    split
    · next hnil => rw [show (historyOf key calls).ingested = [] from hnil]; rfl
    · rfl
  refine ⟨hdeque, ?_, ?_⟩
  · rw [hdeque]
    exact hs.sorted.filter _
  · obtain ⟨runId, entityId⟩ := key
    rw [run_perform_getActiveEvidence, hs.getActiveEvidence]
    rfl

namespace Sample

/-- Evidence of a host at a time. -/
def observed (entityId : String) (timestamp : Int) : Evidence Unit where
  evidenceId := "EV-3"
  runId := "RUN-3"
  timestamp := timestamp
  entityId := entityId
  evidenceType := "suspicious_script"
  eventIds := ["EVT-3"]
  derivedFromSourceLayer := .rawTelemetry
  featureChannelGroup := .fusionFeature
  extractorVersion := "v0.2"
  features := ()

theorem tenMicroseconds_pos : (0 : Int) < 10 := by decide

def tenMicroseconds : WindowEngine := ⟨10, tenMicroseconds_pos⟩

/-- Two advances to one time, Evidence at the cutoff and after the window, and another key. -/
def windowCalls : List (WindowCall Unit) :=
  [.ingest (observed "host-a" 3), .ingest (observed "host-a" 5), .ingest (observed "host-b" 1),
    .advanceTo "RUN-3" "host-a" (.utc 15), .advanceTo "RUN-3" "host-a" (.utc 15),
    .ingest (observed "host-a" 16), .reset "RUN-3" "host-b"]

end Sample

theorem windowEngine_represents_cutoff :
    ∃ s, (Sample.tenMicroseconds.performAll Sample.windowCalls).run .empty = .ok () s ∧
      (Sample.tenMicroseconds.perform (.getActiveEvidence "RUN-3" "host-a")).run s =
        .ok [Sample.observed "host-a" 5] s := by
  refine ⟨_, rfl, ?_⟩
  have hall := (windowEngine_represents Sample.tenMicroseconds Sample.windowCalls rfl).1
  exact (hall ("RUN-3", "host-a")).2.2

end IncidentAwareness.Fusion
