import IncidentAwareness.Evidence.PipelineSpec

/-!
# The laws of the selector

* the order in which the Events come does not show in the result
  (`selectLineage_perm`): the guards before the index by GUID leave at most one
  process creation for every GUID, and at most one Event for every sort key;
* a selected lineage is a chain of parents (`LineageChain`), of the policy's
  length, whose last process starts in the Run and has a network connection
  (`lineageChain_of_selected`);
* it is the only one: no other process of the batch is terminal
  (`SelectedFrom.terminal_unique`), and every process has one parent
  (`LineageChain.eq_of_getLast?`).
-/

namespace IncidentAwareness.Evidence

open IncidentAwareness.Common IncidentAwareness.Lib

variable {policy : R1SelectorPolicy} {start : Option Int}
  {events events' processes processes' networks networks' : List NormalizedEvent}
  {selected : SelectedLineage}

/-! ## The order of the Events -/

theorem isInverted_perm (h : networks.Perm networks') (p : NormalizedEvent) :
    isInverted networks p = isInverted networks' p :=
  (h.filter _).any_eq

theorem linkedNetworkEvents_ne_nil_perm (h : networks.Perm networks') (p : NormalizedEvent) :
    linkedNetworkEvents networks p ≠ [] ↔ linkedNetworkEvents networks' p ≠ [] := by
  have hlinked : (linkedNetworkEvents networks p).Perm (linkedNetworkEvents networks' p) :=
    h.filter _
  rw [← List.length_pos_iff, hlinked.length_eq, List.length_pos_iff]

theorem hasTemporalInversion_perm (hp : processes.Perm processes') (hn : networks.Perm networks') :
    hasTemporalInversion processes networks start =
      hasTemporalInversion processes' networks' start := by
  have hinverted : isInverted networks = isInverted networks' := funext (isInverted_perm hn)
  rw [hasTemporalInversion, hasTemporalInversion, hinverted]
  exact (hp.filter _).any_eq

/-- The sort key tells Events with ids of their own apart. -/
theorem terminalCandidates_perm (hids : (processes.map (·.eventId)).Nodup)
    (hp : processes.Perm processes') (hn : networks.Perm networks') :
    terminalCandidates processes networks start = terminalCandidates processes' networks' start := by
  have hfilter : ∀ p, (decide (¬ isInverted networks p ∧ linkedNetworkEvents networks p ≠ []) : Bool) =
      decide (¬ isInverted networks' p ∧ linkedNetworkEvents networks' p ≠ []) := fun p => by
    rw [isInverted_perm hn p, decide_eq_decide, linkedNetworkEvents_ne_nil_perm hn p]
  rw [terminalCandidates, terminalCandidates, List.filter_congr fun p _ => hfilter p]
  refine sortedBy_eq_of_perm (fun a ha b hb hkey => ?_) ((hp.filter _).filter _)
  have hid : a.eventId = b.eventId := congrArg (fun key => (ofLex key).2) hkey
  exact List.inj_on_of_nodup_map hids (List.mem_of_mem_filter (List.mem_of_mem_filter ha))
    (List.mem_of_mem_filter (List.mem_of_mem_filter hb)) hid

theorem processByGuid_perm (hguids : (processes.map processGuid).Nodup)
    (hp : processes.Perm processes') : processByGuid processes = processByGuid processes' := by
  funext guid
  refine find?_eq_of_perm (fun a ha b hb hga hgb => ?_) hp
  refine List.inj_on_of_nodup_map hguids ha hb ?_
  rw [of_decide_eq_true hga, of_decide_eq_true hgb]

theorem selectScoped_perm (hids : (processes.map (·.eventId)).Nodup) (hp : processes.Perm processes')
    (hn : networks.Perm networks') :
    selectScoped policy start processes networks = selectScoped policy start processes' networks' := by
  have hscoped := hp.append hn
  rw [selectScoped, selectScoped]
  refine raiseIf_bind_congr ?_ fun _ => raiseIf_bind_congr ?_ fun hguids => ?_
  · exact exists_congr fun e => and_congr_left' hscoped.mem_iff
  · exact not_congr (hp.map processGuid).nodup_iff
  · rw [hasTemporalInversion_perm hp hn, terminalCandidates_perm hids hp hn,
      processByGuid_perm (not_not.mp hguids) hp]

/-- The order in which the Events come does not show in the result. -/
theorem selectLineage_perm (h : events.Perm events') :
    selectLineage policy start events = selectLineage policy start events' := by
  have hscope (field : NormalizedEvent → String) :
      (events.map field).dedup.length ≠ 1 ↔ (events'.map field).dedup.length ≠ 1 := by
    rw [(h.map field).dedup.length_eq]
  rw [selectLineage, selectLineage]
  refine raiseIf_bind_congr ?_ fun _ => raiseIf_bind_congr ?_ fun hids => ?_
  · exact ⟨fun hnil => (hnil ▸ h).nil_eq.symm, fun hnil => (hnil ▸ h).eq_nil⟩
  · exact not_congr (h.map (·.eventId)).nodup_iff
  · refine raiseIf_bind_congr (hscope _) fun _ => raiseIf_bind_congr (hscope _) fun _ => ?_
    refine selectScoped_perm ?_ (h.filter _) (h.filter _)
    exact (not_not.mp hids).sublist (List.filter_sublist.map _)

/-! ## The chain of a selection -/

/-- A process of the batch that starts in the Run and opens a network connection. -/
structure IsTerminal (start : Option Int) (events : List NormalizedEvent) (p : NormalizedEvent) :
    Prop where
  mem : p ∈ events
  processCreate : isProcessCreate p
  inRun : ∀ s ∈ start, s ≤ eventInstant p
  network : ∃ n ∈ events, isNetworkConnection n ∧ processGuid n = processGuid p

/-- The parent's GUID is the one the child names, and the parent is not later. -/
def ParentOf (parent child : NormalizedEvent) : Prop :=
  processGuid parent ≠ none ∧ parentProcessGuid child = processGuid parent ∧
    parent.timestamp ≤ child.timestamp

/-- A lineage of the policy's length, root first, that ends in a terminal process. -/
structure LineageChain (policy : R1SelectorPolicy) (start : Option Int)
    (events chain : List NormalizedEvent) : Prop where
  length_eq : chain.length = policy.lineageEventCount
  mem : ∀ e ∈ chain, e ∈ events ∧ isProcessCreate e
  guid_some : ∀ e ∈ chain, processGuid e ≠ none
  guids_nodup : (chain.map processGuid).Nodup
  linked : chain.IsChain ParentOf
  terminal : ∃ p ∈ chain.getLast?, IsTerminal start events p

/-- The walk links every parent it finds to its child. -/
theorem lineageFrom_linked {n : Nat} {child : NormalizedEvent} {visited : List String}
    {rest result : List NormalizedEvent}
    (h : lineageFrom (processByGuid processes) n child visited (child :: rest) = .ok result)
    (hlinked : (child :: rest).IsChain ParentOf) : result.IsChain ParentOf := by
  induction n generalizing child visited rest with
  | zero =>
    obtain rfl : child :: rest = result := Except.ok.inj h
    exact hlinked
  | succ n ih =>
    obtain ⟨guid, p, hguid, -, hp, htime, hrest⟩ := lineageFrom_succ h
    have hof := (processByGuid_eq_some hp).2
    refine ih hrest (List.isChain_cons_cons.mpr ⟨⟨?_, ?_, not_lt.mp htime⟩, hlinked⟩)
    · rw [hof]
      exact Option.some_ne_none guid
    · rw [hguid, hof]

namespace SelectedFrom

variable (hsel : SelectedFrom policy start events selected)

include hsel

theorem isTerminal : IsTerminal start events selected.terminal := by
  obtain ⟨hmem, hstart, -, hlinked⟩ := hsel.terminal_facts
  obtain ⟨hmem, hprocess⟩ := List.mem_filter.mp hmem
  obtain ⟨n, hn⟩ := List.exists_mem_of_ne_nil _ hlinked
  obtain ⟨hn, hguid⟩ := List.mem_filter.mp hn
  obtain ⟨hn, hnetwork⟩ := List.mem_filter.mp hn
  exact ⟨hmem, hprocess, fun s hs => not_lt.mp (hstart s hs),
    n, hn, hnetwork, of_decide_eq_true hguid⟩

theorem lineageChain : LineageChain policy start events selected.lineage := by
  obtain ⟨guids, hasc, hlength⟩ := hsel.ascending
  obtain ⟨guid, -, hwalk⟩ := hsel.walk
  refine ⟨hlength, fun e he => hsel.mem_of_lineage he, fun e he hnone => ?_, ?_, ?_, ?_⟩
  · have hmem : processGuid e ∈ guids.map some := hasc.guids ▸ List.mem_map_of_mem he
    obtain ⟨g, -, hg⟩ := List.mem_map.mp hmem
    rw [hnone] at hg
    cases hg
  · rw [hasc.guids]
    exact hasc.visited_nodup.map (Option.some_injective String)
  · exact lineageFrom_linked hwalk (List.IsChain.singleton _)
  · exact ⟨selected.terminal, hasc.last, hsel.isTerminal⟩

/-- The ids of a batch's Run and host are the terminal process's. -/
theorem scope_eq {e : NormalizedEvent} (he : e ∈ events) :
    e.runId = selected.terminal.runId ∧ e.hostId = selected.terminal.hostId := by
  have hterminal := hsel.isTerminal.mem
  exact ⟨hsel.scope.runId_eq e he _ hterminal, hsel.scope.hostId_eq e he _ hterminal⟩

/-- Two process creations of one GUID are one. -/
theorem eq_of_processGuid {a b : NormalizedEvent} (ha : a ∈ events ∧ isProcessCreate a)
    (hb : b ∈ events ∧ isProcessCreate b) (h : processGuid a = processGuid b) : a = b :=
  List.inj_on_of_nodup_map hsel.guids_nodup (List.mem_filter.mpr ha) (List.mem_filter.mpr hb) h

/-- The Events before the Run come first in the lineage, and are not all of it. -/
theorem contextEventIds_prefix :
    contextEventIds start selected.lineage <+: selected.lineage.map (·.eventId) ∧
      contextEventIds start selected.lineage ≠ selected.lineage.map (·.eventId) := by
  obtain ⟨guids, hasc, -⟩ := hsel.ascending
  constructor
  · refine List.IsPrefix.map _ (filter_prefix_of_pairwise ?_)
    refine hasc.sorted.imp fun {a b} hle hb => ?_
    obtain ⟨s, hs, hbefore⟩ := of_decide_eq_true hb
    refine decide_eq_true ⟨s, hs, lt_of_le_of_lt ?_ hbefore⟩
    exact Int.mul_le_mul_of_nonneg_right hle (by decide)
  · intro heq
    refine hsel.terminal_not_context ?_
    rw [heq]
    exact List.mem_map_of_mem hsel.terminal_mem

/-- A chain is known from its last process: every other one is the parent of the
next. -/
theorem chain_unique {l l' : List NormalizedEvent} (hmem : ∀ e ∈ l, e ∈ events ∧ isProcessCreate e)
    (hmem' : ∀ e ∈ l', e ∈ events ∧ isProcessCreate e) (hlinked : l.IsChain ParentOf)
    (hlinked' : l'.IsChain ParentOf) (hlength : l.length = l'.length)
    (hlast : l.getLast? = l'.getLast?) : l = l' := by
  induction l generalizing l' with
  | nil => exact (List.length_eq_zero_iff.mp hlength.symm).symm
  | cons a l ih =>
    cases l' with
    | nil => cases hlength
    | cons b l' =>
      have hlength : l.length = l'.length := Nat.succ.inj hlength
      cases l with
      | nil =>
        obtain rfl : l' = [] := List.length_eq_zero_iff.mp hlength.symm
        exact congrArg (fun e => [e]) (Option.some.inj hlast)
      | cons c l =>
        cases l' with
        | nil => cases hlength
        | cons d l' =>
          rw [List.getLast?_cons_cons, List.getLast?_cons_cons] at hlast
          obtain ⟨⟨-, hac, -⟩, hcl⟩ := List.isChain_cons_cons.mp hlinked
          obtain ⟨⟨-, hbd, -⟩, hdl⟩ := List.isChain_cons_cons.mp hlinked'
          have htail : c :: l = d :: l' := ih (fun e he => hmem e (List.mem_cons_of_mem a he))
            (fun e he => hmem' e (List.mem_cons_of_mem b he)) hcl hdl hlength hlast
          have hhead : a = b := by
            refine hsel.eq_of_processGuid (hmem a List.mem_cons_self) (hmem' b List.mem_cons_self) ?_
            rw [← hac, ← hbd, (List.cons.inj htail).1]
          rw [hhead, htail]

end SelectedFrom

/-- The guards that a selection passed leave no inverted process and one candidate. -/
theorem terminalCandidates_of_ok (h : selectLineage policy start events = .ok selected) :
    hasTemporalInversion (events.filter isProcessCreate) (events.filter isNetworkConnection) start =
        false ∧
      terminalCandidates (events.filter isProcessCreate) (events.filter isNetworkConnection) start =
        [selected.terminal] := by
  rw [selectLineage, raiseIf_bind_eq_ok, raiseIf_bind_eq_ok, raiseIf_bind_eq_ok, raiseIf_bind_eq_ok,
    selectScoped, raiseIf_bind_eq_ok, raiseIf_bind_eq_ok, raiseIf_bind_eq_ok] at h
  obtain ⟨-, -, -, -, -, -, hinversion, h⟩ := h
  obtain ⟨terminal, hterminal, h⟩ := Except.bind_eq_ok.mp h
  obtain ⟨lineage, -, h⟩ := Except.bind_eq_ok.mp h
  obtain rfl : selected = ⟨terminal, lineage⟩ := Except.pure_eq_ok.mp h
  exact ⟨Bool.not_eq_true _ ▸ hinversion, uniqueTerminal_eq_ok hterminal⟩

/-- Where a lineage is selected, its last process alone is terminal. -/
theorem terminal_unique (h : selectLineage policy start events = .ok selected) {p : NormalizedEvent}
    (hp : IsTerminal start events p) : p = selected.terminal := by
  obtain ⟨hinversion, hcandidates⟩ := terminalCandidates_of_ok h
  have hsel := selectedFrom_of_ok h
  obtain ⟨n, hn, hnetwork, hguid⟩ := hp.network
  have hsome := hsel.processGuid_some p hp.mem (.inl hp.processCreate)
  have hrun : p ∈ runProcesses start (events.filter isProcessCreate) := by
    rw [runProcesses, List.mem_filter, decide_eq_true_eq]
    exact ⟨List.mem_filter.mpr ⟨hp.mem, hp.processCreate⟩, fun s hs => not_lt.mpr (hp.inRun s hs),
      Option.isSome_iff_ne_none.mpr hsome⟩
  have hinverted : ¬ isInverted (events.filter isNetworkConnection) p := by
    rw [hasTemporalInversion, List.any_eq_false] at hinversion
    exact hinversion p hrun
  have hlinked : linkedNetworkEvents (events.filter isNetworkConnection) p ≠ [] := by
    refine List.ne_nil_of_mem (a := n) (List.mem_filter.mpr ⟨?_, decide_eq_true hguid⟩)
    exact List.mem_filter.mpr ⟨hn, hnetwork⟩
  have hmem : p ∈ terminalCandidates (events.filter isProcessCreate)
      (events.filter isNetworkConnection) start := by
    rw [terminalCandidates, mem_sortedBy, List.mem_filter, decide_eq_true_eq]
    exact ⟨hrun, hinverted, hlinked⟩
  rw [hcandidates] at hmem
  exact List.mem_singleton.mp hmem

/-- What a selection says of its chain. -/
structure SelectionOf (policy : R1SelectorPolicy) (start : Option Int)
    (events : List NormalizedEvent) (selection : R1LineageSelection) (chain : List NormalizedEvent) :
    Prop where
  anchor : ∃ root ∈ chain.head?, selection.anchorEventId = root.eventId
  terminal : ∃ p ∈ chain.getLast?, selection.terminalEventId = p.eventId
  scope : ∀ e ∈ events, e.runId = selection.runId ∧ e.hostId = selection.entityId
  context_mem : ∀ e ∈ chain,
    e.eventId ∈ selection.contextEventIds ↔ ∃ s ∈ start, eventInstant e < s
  context_prefix : selection.contextEventIds <+: chain.map (·.eventId)
  context_ne : selection.contextEventIds ≠ chain.map (·.eventId)
  provenance : selection.selectorPolicyId = policy.policyId ∧
    selection.selectorPolicyVersion = policy.version ∧
    selection.selectorPolicyConfigHash = policy.configHash

theorem SelectedFrom.selectionOf (hsel : SelectedFrom policy start events selected) :
    SelectionOf policy start events (selectionOf policy start selected) selected.lineage := by
  obtain ⟨guids, hasc, -⟩ := hsel.ascending
  obtain ⟨hpre, hne⟩ := hsel.contextEventIds_prefix
  refine ⟨?_, ⟨selected.terminal, hasc.last, rfl⟩, fun e he => hsel.scope_eq he, fun e he => ?_,
    hpre, hne, rfl, rfl, rfl⟩
  · obtain ⟨rest, hrest⟩ := hsel.lineage_eq_cons
    exact ⟨selected.anchor, by rw [hrest]; rfl, rfl⟩
  · show e.eventId ∈ contextEventIds start selected.lineage ↔ _
    rw [contextEventIds, List.mem_map]
    constructor
    · rintro ⟨a, ha, hid⟩
      obtain ⟨ha, hbefore⟩ := List.mem_filter.mp ha
      have heq := hsel.eq_of_eventId (hsel.mem_of_lineage ha).1 (hsel.mem_of_lineage he).1 hid
      rw [← heq]
      exact of_decide_eq_true hbefore
    · intro hbefore
      exact ⟨e, List.mem_filter.mpr ⟨he, decide_eq_true hbefore⟩, rfl⟩

/-- The selector: a permutation of the Events has the same result, and a selection
is of the one chain that ends in the one terminal process of the batch. -/
theorem selectR1Lineage_laws (policy : R1SelectorPolicy) (runStart : Option PyDatetime) :
    (∀ events events', events.Perm events' →
        selectR1Lineage policy runStart events = selectR1Lineage policy runStart events') ∧
      ∀ events result selection, selectR1Lineage policy runStart events = .ok result →
        result.selection = some selection →
        ∃ start chain, normalizeRunStart runStart = .ok start ∧
          LineageChain policy start events chain ∧
          SelectionOf policy start events selection chain ∧
          (∀ p, IsTerminal start events p → chain.getLast? = some p) ∧
          ∀ chain', LineageChain policy start events chain' → chain' = chain := by
  constructor
  · intro events events' hperm
    rw [selectR1Lineage, selectR1Lineage]
    exact congrArg _ (funext fun start => by rw [selectLineage_perm hperm])
  · intro events result selection hresult hselection
    obtain ⟨start, hstart, h⟩ := Except.bind_eq_ok.mp hresult
    obtain rfl := Except.pure_eq_ok.mp h
    cases hselect : selectLineage policy start events with
    | error diagnostic =>
      rw [hselect] at hselection
      cases hselection
    | ok selected =>
      rw [hselect] at hselection
      obtain rfl : selectionOf policy start selected = selection := Option.some.inj hselection
      have hsel := selectedFrom_of_ok hselect
      have hchain := hsel.lineageChain
      obtain ⟨guids, hasc, -⟩ := hsel.ascending
      have hlast : ∀ p, IsTerminal start events p → selected.lineage.getLast? = some p :=
        fun p hp => by rw [terminal_unique hselect hp, hasc.last]
      refine ⟨start, selected.lineage, hstart, hchain, hsel.selectionOf, hlast, ?_⟩
      intro chain' hchain'
      obtain ⟨p, hp, hterminal⟩ := hchain'.terminal
      refine hsel.chain_unique hchain'.mem hchain.mem hchain'.linked hchain.linked ?_ ?_
      · rw [hchain'.length_eq, hchain.length_eq]
      · rw [hlast p hterminal]
        exact hp

open Sample

/-- The service's shell is the terminal process of the batch, in every order. -/
theorem selectR1Lineage_laws_batch :
    selectR1Lineage selectorPolicy (some (.utc 2000000)) batch =
        selectR1Lineage selectorPolicy (some (.utc 2000000)) batch.reverse ∧
      ∃ start chain, normalizeRunStart (some (.utc 2000000)) = .ok start ∧
        LineageChain selectorPolicy start batch chain ∧
        SelectionOf selectorPolicy start batch
          ⟨"run-1", "WIN-01", "evt-1", "evt-3", "selector-1", "v1", "hash-2", ["evt-1"]⟩ chain := by
  have hlaws := selectR1Lineage_laws selectorPolicy (some (.utc 2000000))
  obtain ⟨start, chain, hstart, hchain, hselection, -⟩ :=
    hlaws.2 batch ⟨some _, []⟩ _ (by rfl) rfl
  exact ⟨hlaws.1 batch batch.reverse (List.reverse_perm batch).symm,
    start, chain, hstart, hchain, hselection⟩

end IncidentAwareness.Evidence
