import IncidentAwareness.Evidence.Pipeline

/-!
# The selector and the extractors agree

What a selected lineage is (`SelectedFrom`): one chain of parents through the
process creations of one Run and host, root first, whose last Event is terminal.
The extractor's walk over its own index is the same walk
(`reconstructProcessLineage_of_selected`), the checks of `R1LineageInput` ask of a
selection only that its ids are not blank (`validateLineageInput_of_selected`),
and the pipeline gives one Evidence for every network connection of the terminal
process, with the deviation of the lineage's names where there is one
(`runR1EvidencePipelineWithSelector_of_selected`).
-/

namespace IncidentAwareness.Evidence

open IncidentAwareness.Common IncidentAwareness.Lib

variable {policy : R1SelectorPolicy} {start : Option Int} {events processes : List NormalizedEvent}
  {selected : SelectedLineage}

/-! ## The selected lineage -/

/-- A batch of one Run and host, whose Events have ids of their own. -/
structure OneScope (events : List NormalizedEvent) : Prop where
  eventIds_nodup : (events.map (·.eventId)).Nodup
  runId_eq : ∀ a ∈ events, ∀ b ∈ events, a.runId = b.runId
  hostId_eq : ∀ a ∈ events, ∀ b ∈ events, a.hostId = b.hostId

theorem eq_of_dedup_length {α : Type} [DecidableEq α] {l : List α} (h : l.dedup.length = 1) :
    ∀ a ∈ l, ∀ b ∈ l, a = b := by
  obtain ⟨c, hc⟩ := List.length_eq_one_iff.mp h
  have heq : ∀ a ∈ l, a = c := fun a ha => by
    have := List.mem_dedup.mpr ha
    rwa [hc, List.mem_singleton] at this
  intro a ha b hb
  rw [heq a ha, heq b hb]

/-- The walk from a child up to the root: what it has found so far. -/
structure Ascending (processes : List NormalizedEvent) (terminal : NormalizedEvent)
    (visited : List String) (lineage : List NormalizedEvent) : Prop where
  mem : ∀ e ∈ lineage, e ∈ processes
  guids : lineage.map processGuid = visited.map some
  visited_nodup : visited.Nodup
  sorted : lineage.Pairwise fun a b => a.timestamp ≤ b.timestamp
  last : lineage.getLast? = some terminal

theorem processByGuid_eq_some {guid : String} {p : NormalizedEvent}
    (h : processByGuid processes guid = some p) : p ∈ processes ∧ processGuid p = some guid :=
  ⟨List.mem_of_find?_eq_some h, by simpa using List.find?_some h⟩

theorem Ascending.cons {terminal child parent : NormalizedEvent} {visited : List String}
    {guid : String} {rest : List NormalizedEvent}
    (h : Ascending processes terminal visited (child :: rest)) (hguid : guid ∉ visited)
    (hparent : processByGuid processes guid = some parent)
    (htime : ¬ child.timestamp < parent.timestamp) :
    Ascending processes terminal (guid :: visited) (parent :: child :: rest) := by
  obtain ⟨hmem, hof⟩ := processByGuid_eq_some hparent
  refine ⟨List.forall_mem_cons.mpr ⟨hmem, h.mem⟩, ?_, List.nodup_cons.mpr ⟨hguid, h.visited_nodup⟩,
    ?_, ?_⟩
  · show processGuid parent :: (child :: rest).map processGuid = some guid :: visited.map some
    rw [hof, h.guids]
  · refine List.pairwise_cons.mpr ⟨fun e he => ?_, h.sorted⟩
    have hle : child.timestamp ≤ e.timestamp := by
      cases List.mem_cons.mp he with
      | inl he => rw [he]
      | inr he => exact (List.pairwise_cons.mp h.sorted).1 e he
    exact le_trans (not_lt.mp htime) hle
  · rw [List.getLast?_cons_cons]
    exact h.last

/-- One turn of the walk finds a parent that was not visited. -/
theorem lineageFrom_succ {parent : String → Option NormalizedEvent} {n : Nat}
    {child : NormalizedEvent} {visited : List String} {lineage result : List NormalizedEvent}
    (h : lineageFrom parent (n + 1) child visited lineage = .ok result) :
    ∃ guid p, parentProcessGuid child = some guid ∧ guid ∉ visited ∧ parent guid = some p ∧
      ¬ child.timestamp < p.timestamp ∧
      lineageFrom parent n p (guid :: visited) (p :: lineage) = .ok result := by
  rw [lineageFrom] at h
  split at h
  · cases h
  · next guid hguid =>
    split at h
    · cases h
    · next hvisited =>
      split at h
      · cases h
      · next p hp =>
        split at h
        · cases h
        · next htime => exact ⟨guid, p, hguid, hvisited, hp, htime, h⟩

/-- The walk keeps what it found, over all its turns. -/
theorem lineageFrom_ascending {terminal : NormalizedEvent} {n : Nat} {child : NormalizedEvent}
    {visited : List String} {rest result : List NormalizedEvent}
    (h : lineageFrom (processByGuid processes) n child visited (child :: rest) = .ok result)
    (hasc : Ascending processes terminal visited (child :: rest)) :
    ∃ guids, Ascending processes terminal guids result ∧
      result.length = n + (child :: rest).length := by
  induction n generalizing child visited rest with
  | zero =>
    obtain rfl : child :: rest = result := Except.ok.inj h
    exact ⟨visited, hasc, by omega⟩
  | succ n ih =>
    obtain ⟨guid, p, -, hguid, hp, htime, hrest⟩ := lineageFrom_succ h
    obtain ⟨guids, hguids, hlength⟩ := ih hrest (hasc.cons hguid hp htime)
    refine ⟨guids, hguids, ?_⟩
    rw [hlength, List.length_cons]
    omega

/-- What `select_r1_lineage` selects from a batch. -/
structure SelectedFrom (policy : R1SelectorPolicy) (start : Option Int)
    (events : List NormalizedEvent) (selected : SelectedLineage) : Prop where
  scope : OneScope events
  processGuid_some : ∀ e ∈ events, isProcessCreate e ∨ isNetworkConnection e → processGuid e ≠ none
  guids_nodup : ((events.filter isProcessCreate).map processGuid).Nodup
  terminal_candidate : selected.terminal ∈ terminalCandidates (events.filter isProcessCreate)
    (events.filter isNetworkConnection) start
  walk : ∃ guid, processGuid selected.terminal = some guid ∧
    lineageFrom (processByGuid (events.filter isProcessCreate)) (policy.lineageEventCount - 1)
      selected.terminal [guid] [selected.terminal] = .ok selected.lineage

theorem uniqueTerminal_eq_ok {candidates : List NormalizedEvent} {terminal : NormalizedEvent}
    (h : uniqueTerminal candidates = .ok terminal) : candidates = [terminal] := by
  unfold uniqueTerminal at h
  split at h
  · cases h
  · rw [Except.ok.inj h]
  · cases h

theorem selectedFrom_of_ok (h : selectLineage policy start events = .ok selected) :
    SelectedFrom policy start events selected := by
  rw [selectLineage] at h
  obtain ⟨-, h⟩ := raiseIf_bind_eq_ok.mp h
  obtain ⟨hids, h⟩ := raiseIf_bind_eq_ok.mp h
  obtain ⟨hruns, h⟩ := raiseIf_bind_eq_ok.mp h
  obtain ⟨hhosts, h⟩ := raiseIf_bind_eq_ok.mp h
  rw [selectScoped] at h
  obtain ⟨hguids, h⟩ := raiseIf_bind_eq_ok.mp h
  obtain ⟨hnodup, h⟩ := raiseIf_bind_eq_ok.mp h
  obtain ⟨-, h⟩ := raiseIf_bind_eq_ok.mp h
  obtain ⟨terminal, hterminal, h⟩ := Except.bind_eq_ok.mp h
  obtain ⟨lineage, hlineage, h⟩ := Except.bind_eq_ok.mp h
  obtain rfl : selected = ⟨terminal, lineage⟩ := Except.pure_eq_ok.mp h
  have hruns := eq_of_dedup_length (not_not.mp hruns)
  have hhosts := eq_of_dedup_length (not_not.mp hhosts)
  constructor
  · refine ⟨not_not.mp hids, fun a ha b hb => ?_, fun a ha b hb => ?_⟩
    · exact hruns _ (List.mem_map_of_mem ha) _ (List.mem_map_of_mem hb)
    · exact hhosts _ (List.mem_map_of_mem ha) _ (List.mem_map_of_mem hb)
  · intro e he hkind hnone
    refine hguids ⟨e, List.mem_append.mpr (hkind.imp (fun hk => ?_) fun hk => ?_), hnone⟩
    · exact List.mem_filter.mpr ⟨he, hk⟩
    · exact List.mem_filter.mpr ⟨he, hk⟩
  · exact not_not.mp hnodup
  · rw [uniqueTerminal_eq_ok hterminal]
    exact List.mem_singleton_self terminal
  · rw [lineageToPolicyBoundary] at hlineage
    split at hlineage
    · cases hlineage
    · next guid hguid => exact ⟨guid, hguid, hlineage⟩

namespace SelectedFrom

variable (hsel : SelectedFrom policy start events selected)

include hsel

theorem terminal_facts : selected.terminal ∈ events.filter isProcessCreate ∧
    (∀ s ∈ start, ¬ eventInstant selected.terminal < s) ∧
    isInverted (events.filter isNetworkConnection) selected.terminal = false ∧
    linkedNetworkEvents (events.filter isNetworkConnection) selected.terminal ≠ [] := by
  have h := hsel.terminal_candidate
  rw [terminalCandidates, mem_sortedBy, List.mem_filter, decide_eq_true_eq, runProcesses,
    List.mem_filter, decide_eq_true_eq] at h
  obtain ⟨⟨hmem, hstart, -⟩, hinverted, hlinked⟩ := h
  exact ⟨hmem, hstart, by simpa using hinverted, hlinked⟩

theorem ascending_terminal {guid : String} (hguid : processGuid selected.terminal = some guid) :
    Ascending (events.filter isProcessCreate) selected.terminal [guid] [selected.terminal] := by
  refine ⟨?_, ?_, List.nodup_singleton guid, List.pairwise_singleton _ _, rfl⟩
  · simpa using hsel.terminal_facts.1
  · rw [List.map_singleton, List.map_singleton, hguid]

theorem ascending : ∃ guids,
    Ascending (events.filter isProcessCreate) selected.terminal guids selected.lineage ∧
      selected.lineage.length = policy.lineageEventCount := by
  obtain ⟨guid, hguid, hwalk⟩ := hsel.walk
  obtain ⟨guids, hguids, hlength⟩ := lineageFrom_ascending hwalk (hsel.ascending_terminal hguid)
  refine ⟨guids, hguids, ?_⟩
  have hpos := policy.lineageEventCount_pos
  rw [hlength, List.length_singleton]
  omega

theorem lineage_eq_cons : ∃ rest, selected.lineage = selected.anchor :: rest := by
  obtain ⟨guids, hasc, -⟩ := hsel.ascending
  cases hlineage : selected.lineage with
  | nil =>
    have hlast := hasc.last
    rw [hlineage] at hlast
    cases hlast
  | cons a rest => exact ⟨rest, by rw [SelectedLineage.anchor, hlineage]; rfl⟩

theorem mem_of_lineage {e : NormalizedEvent} (he : e ∈ selected.lineage) :
    e ∈ events ∧ isProcessCreate e := by
  obtain ⟨guids, hasc, -⟩ := hsel.ascending
  exact List.mem_filter.mp (hasc.mem e he)

theorem anchor_mem : selected.anchor ∈ selected.lineage := by
  obtain ⟨rest, hrest⟩ := hsel.lineage_eq_cons
  rw [hrest]
  exact List.mem_cons_self

theorem terminal_mem : selected.terminal ∈ selected.lineage := by
  obtain ⟨guids, hasc, -⟩ := hsel.ascending
  exact List.mem_of_getLast? hasc.last

/-- The Events of a batch are told apart by their ids. -/
theorem eq_of_eventId {a b : NormalizedEvent} (ha : a ∈ events) (hb : b ∈ events)
    (h : a.eventId = b.eventId) : a = b :=
  List.inj_on_of_nodup_map hsel.scope.eventIds_nodup ha hb h

theorem lineage_ids_nodup : (selected.lineage.map (·.eventId)).Nodup := by
  obtain ⟨guids, hasc, -⟩ := hsel.ascending
  have hnodup : selected.lineage.Nodup := by
    refine List.Nodup.of_map processGuid ?_
    rw [hasc.guids]
    exact hasc.visited_nodup.map (Option.some_injective String)
  refine hnodup.map_on fun a ha b hb h => ?_
  exact hsel.eq_of_eventId (hsel.mem_of_lineage ha).1 (hsel.mem_of_lineage hb).1 h

/-- Where an Event of the lineage comes before the Run, the anchor does. -/
theorem contextEventIds_head (h : contextEventIds start selected.lineage ≠ []) :
    (contextEventIds start selected.lineage).head? = some selected.anchor.eventId := by
  obtain ⟨guids, hasc, -⟩ := hsel.ascending
  obtain ⟨rest, hrest⟩ := hsel.lineage_eq_cons
  have hsorted := hasc.sorted
  rw [hrest, List.pairwise_cons] at hsorted
  rw [contextEventIds, hrest] at h ⊢
  obtain ⟨e, he, s, hs, hbefore⟩ : ∃ e ∈ selected.anchor :: rest, ∃ s ∈ start,
      eventInstant e < s := by
    by_contra hnone
    apply h
    rw [List.filter_eq_nil_iff.mpr, List.map_nil]
    exact fun e he hbefore => hnone ⟨e, he, of_decide_eq_true hbefore⟩
  have hanchor : ∃ s ∈ start, eventInstant selected.anchor < s := by
    have hle : selected.anchor.timestamp ≤ e.timestamp := by
      cases List.mem_cons.mp he with
      | inl he => rw [he]
      | inr he => exact hsorted.1 e he
    refine ⟨s, hs, lt_of_le_of_lt ?_ hbefore⟩
    exact Int.mul_le_mul_of_nonneg_right hle (by decide)
  rw [List.filter_cons_of_pos (by simpa using hanchor)]
  rfl

theorem terminal_not_context : selected.terminal.eventId ∉ contextEventIds start selected.lineage := by
  rw [contextEventIds, List.mem_map]
  rintro ⟨e, he, hid⟩
  rw [List.mem_filter, decide_eq_true_eq] at he
  obtain ⟨hmem, s, hs, hbefore⟩ := he
  have hterminal := hsel.mem_of_lineage hsel.terminal_mem
  rw [hsel.eq_of_eventId (hsel.mem_of_lineage hmem).1 hterminal.1 hid] at hbefore
  exact hsel.terminal_facts.2.1 s hs hbefore

theorem contextEventIds_nodup : (contextEventIds start selected.lineage).Nodup :=
  hsel.lineage_ids_nodup.sublist (List.filter_sublist.map _)

end SelectedFrom

/-! ## The lineage input -/

/-- No id of the selection is blank. -/
def NonBlankIds (selection : R1LineageSelection) : Prop :=
  isBlank selection.anchorEventId = false ∧ isBlank selection.terminalEventId = false ∧
    ∀ eventId ∈ selection.contextEventIds, isBlank eventId = false

instance (selection : R1LineageSelection) : Decidable (NonBlankIds selection) :=
  inferInstanceAs (Decidable (_ ∧ _ ∧ _))

theorem requireNonBlank_eq_ok {fieldName value : String} {u : Unit} :
    requireNonBlank fieldName value = .ok u ↔ isBlank value = false := by
  rw [requireNonBlank, raiseIf_eq_ok, Bool.not_eq_true]

theorem validateContextEventIds_eq_ok {ids : List String} :
    validateContextEventIds ids = .ok () ↔ (∀ eventId ∈ ids, isBlank eventId = false) ∧ ids.Nodup := by
  rw [validateContextEventIds, raiseIf_bind_eq_ok, raiseIf_eq_ok, not_not]
  simp

/-- The checks of `R1LineageInput` ask of a selection that its ids are not blank. -/
theorem validateLineageInput_of_selected (hsel : SelectedFrom policy start events selected)
    (approvedPolicy : ApprovedLineagePolicy) :
    validateLineageInput (.ofSelection approvedPolicy (selectionOf policy start selected)) = .ok () ↔
      NonBlankIds (selectionOf policy start selected) := by
  have hhead := hsel.contextEventIds_head
  have hterminal := hsel.terminal_not_context
  have hnodup := hsel.contextEventIds_nodup
  rw [validateLineageInput, Except.unit_bind_eq_ok, Except.unit_bind_eq_ok, Except.unit_bind_eq_ok,
    raiseIf_bind_eq_ok, raiseIf_eq_ok, requireNonBlank_eq_ok, requireNonBlank_eq_ok,
    validateContextEventIds_eq_ok]
  constructor
  · exact fun ⟨hanchor, hid, ⟨hcontext, _⟩, _⟩ => ⟨hanchor, hid, hcontext⟩
  · exact fun ⟨hanchor, hid, hcontext⟩ =>
      ⟨hanchor, hid, ⟨hcontext, hnodup⟩, fun ⟨hne, h⟩ => h (hhead hne), hterminal⟩

/-! ## The extractor's walk -/

/-- The walk that found a parent ends at a root that was not visited before. -/
theorem lineageFrom_root {n : Nat} {child : NormalizedEvent} {visited : List String}
    {lineage result : List NormalizedEvent}
    (h : lineageFrom (processByGuid processes) (n + 1) child visited lineage = .ok result) :
    ∃ root rest guid, result = root :: rest ∧ processGuid root = some guid ∧ guid ∉ visited := by
  induction n generalizing child visited lineage with
  | zero =>
    obtain ⟨guid, p, -, hguid, hp, -, hrest⟩ := lineageFrom_succ h
    exact ⟨p, lineage, guid, (Except.ok.inj hrest).symm, (processByGuid_eq_some hp).2, hguid⟩
  | succ n ih =>
    obtain ⟨guid, p, -, hguid, hp, -, hrest⟩ := lineageFrom_succ h
    obtain ⟨root, rest, g, hresult, hg, hvisited⟩ := ih hrest
    exact ⟨root, rest, g, hresult, hg, fun hmem => hvisited (List.mem_cons_of_mem guid hmem)⟩

namespace SelectedFrom

variable (hsel : SelectedFrom policy start events selected)

include hsel

theorem isParentEdge {child parent : NormalizedEvent} {guid : String}
    (hchild : child ∈ events.filter isProcessCreate)
    (hparent : parent ∈ events.filter isProcessCreate) (hof : parentProcessGuid child = some guid)
    (hguid : processGuid parent = some guid) (htime : ¬ child.timestamp < parent.timestamp) :
    isParentEdge child parent = true := by
  rw [List.mem_filter] at hchild hparent
  have hsome := hsel.processGuid_some child hchild.1 (.inl hchild.2)
  rw [Evidence.isParentEdge, isEligibleProcessEvent, isEligibleProcessEvent,
    hasExpectedProcessEventContract, hasExpectedProcessEventContract, hchild.2, hparent.2, hof,
    hguid, Option.isSome_iff_ne_none.mpr hsome,
    hsel.scope.runId_eq child hchild.1 parent hparent.1,
    hsel.scope.hostId_eq child hchild.1 parent hparent.1]
  simpa using htime

/-- The extractor indexes the process creations of the batch. -/
theorem mem_indexProcessEvents {e : NormalizedEvent} :
    e ∈ indexProcessEvents events selected.anchor selected.terminal ↔
      e ∈ events.filter isProcessCreate := by
  have hanchor := (hsel.mem_of_lineage hsel.anchor_mem).1
  have hterminal := (hsel.mem_of_lineage hsel.terminal_mem).1
  have hbatch : ∀ a ∈ events ++ [selected.anchor, selected.terminal], a ∈ events := by
    intro a ha
    simp only [List.mem_append, List.mem_cons, List.not_mem_nil, or_false] at ha
    obtain ha | rfl | rfl := ha
    · exact ha
    · exact hanchor
    · exact hterminal
  have hkey : ∀ a ∈ (events ++ [selected.anchor, selected.terminal]).filter fun e =>
      isEligibleProcessEvent e ∧ e.runId = selected.terminal.runId ∧
        e.hostId = selected.terminal.hostId,
      ∀ b ∈ (events ++ [selected.anchor, selected.terminal]).filter fun e =>
        isEligibleProcessEvent e ∧ e.runId = selected.terminal.runId ∧
          e.hostId = selected.terminal.hostId,
      a.eventId = b.eventId → a = b := by
    intro a ha b hb h
    exact hsel.eq_of_eventId (hbatch a (List.mem_filter.mp ha).1) (hbatch b (List.mem_filter.mp hb).1) h
  rw [indexProcessEvents, mem_firstBy_iff hkey, List.mem_filter, List.mem_filter, decide_eq_true_eq,
    isEligibleProcessEvent, hasExpectedProcessEventContract, Bool.and_eq_true]
  constructor
  · rintro ⟨hmem, ⟨hcreate, -⟩, -⟩
    exact ⟨hbatch e hmem, hcreate⟩
  · rintro ⟨hmem, hcreate⟩
    have hsome := Option.isSome_iff_ne_none.mpr (hsel.processGuid_some e hmem (.inl hcreate))
    exact ⟨List.mem_append_left _ hmem, ⟨hcreate, hsome⟩,
      hsel.scope.runId_eq e hmem _ hterminal, hsel.scope.hostId_eq e hmem _ hterminal⟩

/-- A guid of the batch is the guid of one indexed Event. -/
theorem eventsOfGuid_index {p : NormalizedEvent} {guid : String}
    (hp : p ∈ events.filter isProcessCreate) (hguid : processGuid p = some guid) :
    eventsOfGuid (indexProcessEvents events selected.anchor selected.terminal) guid = [p] := by
  have hnodup : (indexProcessEvents events selected.anchor selected.terminal).Nodup :=
    List.Nodup.of_map _ (firstBy_keys_nodup _ _)
  refine List.perm_singleton.mp ?_
  refine (List.perm_ext_iff_of_nodup (hnodup.filter _) (List.nodup_singleton p)).mpr fun e => ?_
  rw [List.mem_filter, hsel.mem_indexProcessEvents, List.mem_singleton, decide_eq_true_eq]
  constructor
  · exact fun ⟨he, h⟩ => List.inj_on_of_nodup_map hsel.guids_nodup he hp (h.trans hguid.symm)
  · rintro rfl
    exact ⟨hp, hguid⟩

/-- Where the selector's walk ends at a root, the extractor's walk to that root
observes the same lineage. -/
theorem reconstructFrom_of_lineageFrom {n : Nat} {child : NormalizedEvent} {visited : List String}
    {rest result : List NormalizedEvent} {anchorGuid : String}
    (hwalk : lineageFrom (processByGuid (events.filter isProcessCreate)) n child visited
      (child :: rest) = .ok result)
    (hasc : Ascending (events.filter isProcessCreate) selected.terminal visited (child :: rest))
    (hanchor : result.head?.bind processGuid = some anchorGuid) :
    reconstructFrom (indexProcessEvents events selected.anchor selected.terminal) anchorGuid child
      visited (child :: rest) = { status := .complete, events := result } := by
  induction n generalizing child visited rest with
  | zero =>
    obtain rfl : child :: rest = result := Except.ok.inj hwalk
    have hguid : processGuid child = some anchorGuid := hanchor
    have hchild := hasc.mem child List.mem_cons_self
    rw [reconstructFrom]
    simp only [hguid, hsel.eventsOfGuid_index hchild hguid, List.length_singleton, lt_irrefl,
      if_false, if_true]
  | succ n ih =>
    obtain ⟨guid, p, hof, hvisited, hp, htime, hrest⟩ := lineageFrom_succ hwalk
    obtain ⟨root, tail, g, hresult, hg, hroot⟩ := lineageFrom_root hwalk
    have hchild := hasc.mem child List.mem_cons_self
    obtain ⟨hpmem, hpguid⟩ := processByGuid_eq_some hp
    obtain ⟨childGuid, hchildGuid⟩ : ∃ childGuid, processGuid child = some childGuid ∧
        childGuid ∈ visited := by
      have hmem : processGuid child ∈ visited.map some := by
        rw [← hasc.guids]
        exact List.mem_cons_self
      obtain ⟨childGuid, hmem, h⟩ := List.mem_map.mp hmem
      exact ⟨childGuid, h.symm, hmem⟩
    have hne : childGuid ≠ anchorGuid := by
      rintro rfl
      rw [hresult] at hanchor
      have hroot' : processGuid root = some childGuid := hanchor
      rw [hg, Option.some.injEq] at hroot'
      rw [hroot'] at hroot
      exact hroot hchildGuid.2
    have hedge := hsel.isParentEdge hchild hpmem hof hpguid htime
    have hparents := hsel.eventsOfGuid_index hpmem hpguid
    rw [reconstructFrom]
    simp only [hchildGuid.1, hsel.eventsOfGuid_index hchild hchildGuid.1, List.length_singleton,
      lt_irrefl, if_false, hne, hof, hvisited, dite_false]
    split
    · next h => rw [hparents] at h; cases h
    · next parent h =>
      rw [hparents] at h
      obtain rfl : p = parent := (List.cons.inj h).1
      rw [if_pos hedge]
      exact ih hrest (hasc.cons hvisited hp htime)
    · next h => rw [hparents] at h; cases h

/-- The lineage that the extractor reconstructs is the selected one. -/
theorem reconstructProcessLineage_eq :
    reconstructProcessLineage events selected.anchor selected.terminal =
      { status := .complete, events := selected.lineage } := by
  obtain ⟨guid, hguid, hwalk⟩ := hsel.walk
  obtain ⟨rest, hrest⟩ := hsel.lineage_eq_cons
  have hanchor := hsel.mem_of_lineage hsel.anchor_mem
  obtain ⟨anchorGuid, hanchorGuid⟩ := Option.ne_none_iff_exists'.mp
    (hsel.processGuid_some selected.anchor hanchor.1 (.inl hanchor.2))
  rw [reconstructProcessLineage, hanchorGuid, hguid]
  refine hsel.reconstructFrom_of_lineageFrom hwalk (hsel.ascending_terminal hguid) ?_
  rw [hrest]
  exact hanchorGuid

end SelectedFrom

/-! ## The lineage's names -/

/-- The Events of the lineage that belong to the Run. -/
def runEvents (start : Option Int) (lineage : List NormalizedEvent) : List NormalizedEvent :=
  lineage.filter fun e => e.eventId ∉ contextEventIds start lineage

/-- A process of the lineage has no name, or a blank one. -/
def HasUnnamed (lineage : List NormalizedEvent) : Prop := ∃ e ∈ lineage, hasMissingOrBlankName e

/-- The case-folded names of the lineage are not those of the approved one. -/
def NamesDiffer (casefold : String → String) (lineage : List NormalizedEvent)
    (approvedPolicy : ApprovedLineagePolicy) : Prop :=
  (lineage.map fun e => (processName e).map casefold) ≠
    approvedPolicy.approvedLineage.map fun name => some (casefold name)

instance (lineage : List NormalizedEvent) : Decidable (HasUnnamed lineage) :=
  inferInstanceAs (Decidable (∃ e ∈ lineage, _))

instance (casefold : String → String) (lineage : List NormalizedEvent)
    (approvedPolicy : ApprovedLineagePolicy) : Decidable (NamesDiffer casefold lineage approvedPolicy) :=
  inferInstanceAs (Decidable (¬ _))

variable {casefold : String → String} {uuid5 : List IdentityPart → String}
  {approvedPolicy : ApprovedLineagePolicy}

variable (casefold approvedPolicy) in
/-- Where every process has a name, the extractor compares the names themselves. -/
theorem canonicalProcessLineage_eq {lineage : List NormalizedEvent} (h : ¬ HasUnnamed lineage) :
    ∃ names, canonicalProcessLineage casefold lineage = some names ∧
      (names = approvedPolicy.approvedLineage.map casefold ↔
        ¬ NamesDiffer casefold lineage approvedPolicy) := by
  refine ⟨_, if_neg h, ?_⟩
  have hnames : (lineage.map fun e => (processName e).map casefold) =
      (lineage.map fun e => casefold ((processName e).getD "")).map some := by
    rw [List.map_map]
    refine List.map_congr_left fun e he => ?_
    cases hname : processName e with
    | none => exact absurd ⟨e, he, by rw [hasMissingOrBlankName, hname]; rfl⟩ h
    | some name => simp [hname]
  have happroved : (approvedPolicy.approvedLineage.map fun name => some (casefold name)) =
      (approvedPolicy.approvedLineage.map casefold).map some := by
    rw [List.map_map]
    rfl
  rw [NamesDiffer, not_not, hnames, happroved]
  exact (List.map_injective_iff.mpr (Option.some_injective String)).eq_iff.symm

namespace SelectedFrom

variable (hsel : SelectedFrom policy start events selected)

include hsel

theorem runEvents_ne_nil : runEvents start selected.lineage ≠ [] := by
  refine List.ne_nil_of_mem (List.mem_filter.mpr ⟨hsel.terminal_mem, ?_⟩)
  exact decide_eq_true hsel.terminal_not_context

theorem evidenceEvents_eq : evidenceEvents selected.lineage (contextEventIds start selected.lineage) =
    .ok ⟨runEvents start selected.lineage, hsel.runEvents_ne_nil⟩ := by
  have hsub : contextEventIds start selected.lineage ⊆ selected.lineage.map (·.eventId) :=
    (List.filter_sublist.map _).subset
  rw [evidenceEvents, raiseIf_of_not (not_not.mpr hsub), Except.ok_bind', dif_pos]
  rfl

variable (casefold uuid5 approvedPolicy) in
/-- What the lineage extraction returns on the selected lineage. -/
theorem compareLineage_eq : compareLineage casefold uuid5 selected.lineage selected.terminal
      approvedPolicy (contextEventIds start selected.lineage) =
    .ok (if HasUnnamed selected.lineage then ⟨[], [.missingOrBlankProcessName]⟩
      else if NamesDiffer casefold selected.lineage approvedPolicy then
        ⟨[lineageDeviationEvidence uuid5 selected.terminal approvedPolicy
          ⟨runEvents start selected.lineage, hsel.runEvents_ne_nil⟩], []⟩
      else ⟨[], []⟩) := by
  by_cases hunnamed : HasUnnamed selected.lineage
  · have hnone : canonicalProcessLineage casefold selected.lineage = none := if_pos hunnamed
    rw [compareLineage, hnone, if_pos hunnamed]
  · obtain ⟨names, hnames, hiff⟩ := canonicalProcessLineage_eq casefold approvedPolicy hunnamed
    rw [compareLineage, hnames, if_neg hunnamed]
    simp only [hsel.evidenceEvents_eq, Except.ok_bind']
    by_cases hdiffer : NamesDiffer casefold selected.lineage approvedPolicy
    · rw [if_pos hdiffer, if_neg fun h => hiff.mp h hdiffer]
      rfl
    · rw [if_neg hdiffer, if_pos (hiff.mpr hdiffer)]
      rfl

theorem isEligibleProcessEvent_of_lineage {e : NormalizedEvent} (he : e ∈ selected.lineage) :
    isEligibleProcessEvent e = true := by
  have hmem := hsel.mem_of_lineage he
  have hsome := Option.isSome_iff_ne_none.mpr (hsel.processGuid_some e hmem.1 (.inl hmem.2))
  rw [isEligibleProcessEvent, hasExpectedProcessEventContract, hmem.2, hsome]
  rfl

/-- The lineage extraction compares the selected lineage. -/
theorem extraction_eq (hids : NonBlankIds (selectionOf policy start selected)) :
    extractRemoteSessionProcessLineageDeviationWithDiagnostics casefold uuid5 events selected.anchor
        selected.terminal approvedPolicy (contextEventIds start selected.lineage) =
      compareLineage casefold uuid5 selected.lineage selected.terminal approvedPolicy
        (contextEventIds start selected.lineage) := by
  have hcontext : validateContextEventIds (contextEventIds start selected.lineage) = .ok () :=
    validateContextEventIds_eq_ok.mpr ⟨hids.2.2, hsel.contextEventIds_nodup⟩
  have hanchor := (hsel.mem_of_lineage hsel.anchor_mem).1
  have hterminal := (hsel.mem_of_lineage hsel.terminal_mem).1
  have hscope : ¬ (selected.anchor.runId ≠ selected.terminal.runId ∨
      selected.anchor.hostId ≠ selected.terminal.hostId) := by
    rw [not_or, not_not, not_not]
    exact ⟨hsel.scope.runId_eq _ hanchor _ hterminal, hsel.scope.hostId_eq _ hanchor _ hterminal⟩
  rw [extractRemoteSessionProcessLineageDeviationWithDiagnostics, hcontext, Except.ok_bind',
    if_neg, if_neg hscope, hsel.reconstructProcessLineage_eq]
  · rfl
  · rw [hsel.isEligibleProcessEvent_of_lineage hsel.anchor_mem,
      hsel.isEligibleProcessEvent_of_lineage hsel.terminal_mem]
    simp

end SelectedFrom

/-! ## The network connections -/

/-- The Sysmon network connections of a process that are not earlier than its creation. -/
def followOns (events : List NormalizedEvent) (process : NormalizedEvent) : List NormalizedEvent :=
  events.filter fun n => isNetworkConnection n ∧ processGuid n = processGuid process ∧
    process.timestamp ≤ n.timestamp

theorem flatMap_followOn (process : NormalizedEvent) (l : List NormalizedEvent) :
    l.flatMap (extractRemoteProcessNetworkFollowOn uuid5 process) =
      (l.filter fun n => followsOn process n).map (followOnEvidence uuid5 process) := by
  induction l with
  | nil => rfl
  | cons n l ih =>
    rw [List.flatMap_cons, ih, List.filter_cons, extractRemoteProcessNetworkFollowOn]
    by_cases h : followsOn process n
    · simp [h]
    · simp [h]

namespace SelectedFrom

variable (hsel : SelectedFrom policy start events selected)

include hsel

/-- The candidates are the follow-ons of the terminal process, one each. -/
theorem extractNetworkFollowOnCandidates_perm :
    (extractNetworkFollowOnCandidates uuid5 events [selected.terminal]).Perm
      ((followOns events selected.terminal).map (followOnEvidence uuid5 selected.terminal)) := by
  have hterminal := hsel.mem_of_lineage hsel.terminal_mem
  have hguid := hsel.processGuid_some selected.terminal hterminal.1 (.inl hterminal.2)
  have hsorted : sortedBy eventKey [selected.terminal] = [selected.terminal] := rfl
  rw [extractNetworkFollowOnCandidates, hsorted, List.flatMap_singleton, if_neg hguid]
  refine ((sortedBy_perm eventKey _).flatMap_right _).trans (List.Perm.of_eq ?_)
  rw [flatMap_followOn, networkEventsOf, List.filter_filter, followOns]
  congr 1
  refine List.filter_congr fun n hn => ?_
  rw [← Bool.decide_and, decide_eq_decide, followsOn, hasExpectedEventContract, hterminal.2,
    Bool.true_and]
  have hrun := hsel.scope.runId_eq n hn _ hterminal.1
  have hhost := hsel.scope.hostId_eq n hn _ hterminal.1
  constructor
  · exact fun ⟨⟨hnetwork, _, _, _, _, hsame, htime⟩, _⟩ => ⟨hnetwork, hsame.symm, not_lt.mp htime⟩
  · intro ⟨hnetwork, hsame, htime⟩
    have htype : n.eventType = "network_connection" := by
      rw [isNetworkConnection, Bool.and_eq_true] at hnetwork
      exact of_decide_eq_true hnetwork.2
    have hsome : processGuid n ≠ none := hsame ▸ hguid
    exact ⟨⟨hnetwork, hguid, hsome, hrun.symm, hhost.symm, hsame.symm, not_lt.mpr htime⟩, hsome, htype,
      hrun, hhost, hsame⟩

/-- A selected terminal process has a network connection. -/
theorem followOns_ne_nil : followOns events selected.terminal ≠ [] := by
  obtain ⟨-, -, hinverted, hlinked⟩ := hsel.terminal_facts
  obtain ⟨n, hn⟩ := List.exists_mem_of_ne_nil _ hlinked
  have htime : selected.terminal.timestamp ≤ n.timestamp := by
    rw [isInverted, List.any_eq_false] at hinverted
    simpa using hinverted n hn
  rw [linkedNetworkEvents, List.mem_filter, List.mem_filter, decide_eq_true_eq] at hn
  exact List.ne_nil_of_mem (List.mem_filter.mpr ⟨hn.1.1, by simpa using ⟨hn.1.2, hn.2, htime⟩⟩)

end SelectedFrom

/-! ## The batch -/

/-- A batch of Events with ids of their own is indexed whole. -/
theorem foldlM_indexEvent {eventsById : EventsById} {l : List NormalizedEvent}
    (h : ((eventsById.rows ++ l).map (·.eventId)).Nodup) :
    ∃ all : EventsById, l.foldlM indexEvent eventsById = .ok all ∧ all.rows = eventsById.rows ++ l := by
  induction l generalizing eventsById with
  | nil => exact ⟨eventsById, rfl, (List.append_nil _).symm⟩
  | cons e l ih =>
    have hfree : ∀ a ∈ eventsById, ¬ SameKey (·.eventId) a e := by
      intro a ha hid
      rw [List.map_append, List.nodup_append] at h
      exact h.2.2 _ (List.mem_map_of_mem ha) _ (List.mem_map_of_mem List.mem_cons_self) hid
    obtain ⟨next, hnext⟩ := Table.exists_insert? hfree
    have hrows := (Table.insert?_eq_some.mp hnext).2
    obtain ⟨all, hall, hrowsAll⟩ := @ih next (by
      rw [hrows, List.append_assoc]
      exact h)
    refine ⟨all, ?_, ?_⟩
    · rw [List.foldlM_cons, indexEvent, hnext]
      exact hall
    · rw [hrowsAll, hrows, List.append_assoc]
      rfl

theorem indexEventsById_of_nodup (h : (events.map (·.eventId)).Nodup) :
    ∃ eventsById : EventsById, indexEventsById events = .ok eventsById ∧ eventsById.rows = events :=
  foldlM_indexEvent h

/-! ## The Evidences -/

/-- The identities behind the Evidences that a selected lineage can have. -/
def candidateIdentities (start : Option Int) (events : List NormalizedEvent)
    (approvedPolicy : ApprovedLineagePolicy) (selected : SelectedLineage) :
    List (List IdentityPart) :=
  ((followOns events selected.terminal).map fun n =>
      followOnIdentity selected.terminal.runId [selected.terminal.eventId, n.eventId]) ++
    [lineageDeviationIdentity selected.terminal.runId
      ((runEvents start selected.lineage).map (·.eventId)) approvedPolicy]

/-- `uuid5` tells the identities of a lineage's Evidences apart. -/
def CollisionFree (uuid5 : List IdentityPart → String) (identities : List (List IdentityPart)) : Prop :=
  ∀ a ∈ identities, ∀ b ∈ identities, uuid5 a = uuid5 b → a = b

instance (uuid5 : List IdentityPart → String) (identities : List (List IdentityPart)) :
    Decidable (CollisionFree uuid5 identities) :=
  inferInstanceAs (Decidable (∀ a ∈ identities, _))

theorem followOnIdentity_injective {runId first a b : String}
    (h : followOnIdentity runId [first, a] = followOnIdentity runId [first, b]) : a = b := by
  simp only [followOnIdentity, List.cons.injEq, IdentityPart.texts.injEq, true_and, and_true] at h
  have hperm := (sortedBy_perm id [first, a]).symm.trans (h ▸ sortedBy_perm id [first, b])
  simpa using (List.perm_cons first).mp hperm

namespace SelectedFrom

variable (hsel : SelectedFrom policy start events selected)

include hsel

theorem candidateIdentities_nodup :
    (candidateIdentities start events approvedPolicy selected).Nodup := by
  rw [candidateIdentities, List.nodup_append]
  refine ⟨?_, List.nodup_singleton _, fun a ha b hb => ?_⟩
  · have hevents : events.Nodup := List.Nodup.of_map _ hsel.scope.eventIds_nodup
    refine (hevents.sublist List.filter_sublist).map_on fun a ha b hb h => ?_
    exact hsel.eq_of_eventId (List.mem_filter.mp ha).1 (List.mem_filter.mp hb).1
      (followOnIdentity_injective h)
  · obtain ⟨n, -, rfl⟩ := List.mem_map.mp ha
    rw [List.mem_singleton.mp hb]
    intro h
    exact absurd (congrArg List.length h) (by simp [followOnIdentity, lineageDeviationIdentity])

variable (casefold uuid5 approvedPolicy) in
/-- The Evidence of the lineage, where its names are not the approved ones. -/
def deviations : List (Evidence R1Features) :=
  if ¬ HasUnnamed selected.lineage ∧ NamesDiffer casefold selected.lineage approvedPolicy then
    [lineageDeviationEvidence uuid5 selected.terminal approvedPolicy
      ⟨runEvents start selected.lineage, hsel.runEvents_ne_nil⟩]
  else []

/-- Without a collision no two Evidences of the lineage have one id. -/
theorem evidenceIds_nodup
    (huuid5 : CollisionFree uuid5 (candidateIdentities start events approvedPolicy selected)) :
    (((followOns events selected.terminal).map (followOnEvidence uuid5 selected.terminal) ++
      hsel.deviations casefold uuid5 approvedPolicy).map (·.evidenceId)).Nodup := by
  have hids : ((candidateIdentities start events approvedPolicy selected).map
      fun identity => "E-" ++ uuid5 identity).Nodup := by
    refine hsel.candidateIdentities_nodup.map_on fun a ha b hb h => huuid5 a ha b hb ?_
    exact String.append_right_inj "E-" |>.mp h
  refine hids.sublist ?_
  rw [candidateIdentities, List.map_append, List.map_append, List.map_map, List.map_map]
  refine List.Sublist.append (List.Sublist.refl _) ?_
  rw [deviations]
  split
  · exact List.Sublist.refl _
  · exact List.nil_sublist _

/-- The result keeps every Evidence, where no ids collide. -/
theorem pipelineResult_perm
    (huuid5 : CollisionFree uuid5 (candidateIdentities start events approvedPolicy selected))
    (diagnostics : List R1ExtractionDiagnostic) :
    (pipelineResult (extractNetworkFollowOnCandidates uuid5 events [selected.terminal] ++
        hsel.deviations casefold uuid5 approvedPolicy) diagnostics).evidences.Perm
      ((followOns events selected.terminal).map (followOnEvidence uuid5 selected.terminal) ++
        hsel.deviations casefold uuid5 approvedPolicy) := by
  have hfollowOns := @SelectedFrom.extractNetworkFollowOnCandidates_perm _ _ _ _ uuid5 hsel
  have hperm := hfollowOns.append_right (hsel.deviations casefold uuid5 approvedPolicy)
  have hnodup := (hperm.map (·.evidenceId)).nodup_iff.mpr (hsel.evidenceIds_nodup huuid5)
  show (sortedBy r1EvidenceSortKey (firstBy (·.evidenceId) _)).Perm _
  rw [firstBy_eq_self hnodup]
  exact (sortedBy_perm _ _).trans hperm

variable (casefold uuid5) in
/-- The pipeline on the selected lineage, as its input. -/
theorem runR1EvidencePipelineWithDiagnostics_eq {lineageInput : R1LineageInput}
    (hinput : lineageInput.val = .ofSelection approvedPolicy (selectionOf policy start selected))
    (hids : NonBlankIds (selectionOf policy start selected)) :
    runR1EvidencePipelineWithDiagnostics casefold uuid5 events [lineageInput] =
      .ok (pipelineResult (extractNetworkFollowOnCandidates uuid5 events [selected.terminal] ++
          hsel.deviations casefold uuid5 approvedPolicy)
        (if HasUnnamed selected.lineage then [.missingOrBlankProcessName] else [])) := by
  obtain ⟨eventsById, hindex, hrows⟩ := indexEventsById_of_nodup hsel.scope.eventIds_nodup
  have hget : ∀ e ∈ events, eventsById.get e.eventId = some e := by
    intro e he
    rw [← hrows] at he
    exact Table.get_of_mem he
  have hresolve : resolveLineageInput eventsById lineageInput =
      .ok ⟨lineageInput, selected.anchor, selected.terminal⟩ := by
    have hanchor := hget _ (hsel.mem_of_lineage hsel.anchor_mem).1
    have hterminal := hget _ (hsel.mem_of_lineage hsel.terminal_mem).1
    rw [resolveLineageInput, hinput]
    simp only [R1LineageInputFields.ofSelection, selectionOf, requiredEvent, hanchor, hterminal,
      Except.ok_bind']
    rfl
  have hextract : extractResolved casefold uuid5 events
        ⟨lineageInput, selected.anchor, selected.terminal⟩ =
      compareLineage casefold uuid5 selected.lineage selected.terminal approvedPolicy
        (contextEventIds start selected.lineage) := by
    rw [extractResolved, hinput]
    exact hsel.extraction_eq hids
  rw [runR1EvidencePipelineWithDiagnostics, hindex, Except.ok_bind']
  simp only [List.mapM_cons, List.mapM_nil, hresolve, hextract, hsel.compareLineage_eq,
    Except.ok_bind', pure_bind]
  by_cases hunnamed : HasUnnamed selected.lineage
  · simp only [deviations, hunnamed, not_true, false_and, if_false, if_true]
    rfl
  · by_cases hdiffer : NamesDiffer casefold selected.lineage approvedPolicy
    · simp only [deviations, hunnamed, hdiffer, not_false_iff, and_self, if_false, if_true]
      rfl
    · simp only [deviations, hunnamed, hdiffer, and_false, if_false]
      rfl

/-- The whole pipeline on the batch. -/
theorem runR1EvidencePipelineWithSelector_eq {runStart : Option PyDatetime}
    (hcount : policy.lineageEventCount = approvedPolicy.approvedLineage.length)
    (hselect : selectR1Lineage policy runStart events =
      .ok ⟨some (selectionOf policy start selected), []⟩)
    {lineageInput : R1LineageInput}
    (hinput : lineageInput.val = .ofSelection approvedPolicy (selectionOf policy start selected))
    (hids : NonBlankIds (selectionOf policy start selected)) {extraction : R1EvidencePipelineResult}
    (hrun : runR1EvidencePipelineWithDiagnostics casefold uuid5 events [lineageInput] =
      .ok extraction) :
    runR1EvidencePipelineWithSelector casefold uuid5 events policy approvedPolicy runStart =
      .ok ⟨extraction.evidences, ⟨some (selectionOf policy start selected), []⟩, some lineageInput,
        extraction.diagnostics⟩ := by
  have hvalid := (validateLineageInput_of_selected hsel approvedPolicy).mpr hids
  obtain rfl : lineageInput = ⟨_, hvalid⟩ := Subtype.ext hinput
  rw [runR1EvidencePipelineWithSelector, raiseIf_of_not (not_not.mpr hcount), Except.ok_bind',
    hselect, Except.ok_bind', runSelection]
  simp only [construct_eq_ok hvalid, Except.ok_bind', hrun]
  rfl

end SelectedFrom

/-! ## The two agree -/

/-- What the pipeline returns agrees with the selection. -/
structure AgreesWithSelection (casefold : String → String) (uuid5 : List IdentityPart → String)
    (policy : R1SelectorPolicy) (approvedPolicy : ApprovedLineagePolicy) (start : Option Int)
    (events : List NormalizedEvent) (selected : SelectedLineage)
    (result : R1SelectedEvidencePipelineResult) : Prop where
  /-- The selection went through the checks of `R1LineageInput`. -/
  lineageInput_eq : result.lineageInput.map (·.val) =
    some (.ofSelection approvedPolicy (selectionOf policy start selected))
  /-- The extractor reconstructs the selected lineage. -/
  reconstructed : reconstructProcessLineage events selected.anchor selected.terminal =
    { status := .complete, events := selected.lineage }
  /-- A missing or blank process name is the only diagnostic. -/
  diagnostics_eq : result.extractionDiagnostics =
    if HasUnnamed selected.lineage then [.missingOrBlankProcessName] else []
  /-- There is a network connection of the terminal process. -/
  followOns_ne_nil : followOns events selected.terminal ≠ []
  /-- One follow-on for every network connection, and the deviation. -/
  evidences_perm : CollisionFree uuid5 (candidateIdentities start events approvedPolicy selected) →
    ∃ deviations, result.evidences.Perm
        ((followOns events selected.terminal).map (followOnEvidence uuid5 selected.terminal) ++
          deviations) ∧
      (∀ e ∈ deviations, e.evidenceType = remoteSessionProcessLineageDeviation) ∧
      deviations.length = if ¬ HasUnnamed selected.lineage ∧
        NamesDiffer casefold selected.lineage approvedPolicy then 1 else 0

/-- On a selected lineage without blank ids, with an approved lineage of the
selector's length, the pipeline returns, and agrees with the selector. -/
theorem runR1EvidencePipelineWithSelector_agrees (casefold : String → String)
    (uuid5 : List IdentityPart → String) (approvedPolicy : ApprovedLineagePolicy)
    {runStart : Option PyDatetime}
    (hcount : policy.lineageEventCount = approvedPolicy.approvedLineage.length)
    (hstart : normalizeRunStart runStart = .ok start)
    (hselect : selectLineage policy start events = .ok selected)
    (hids : NonBlankIds (selectionOf policy start selected)) :
    ∃ result,
      runR1EvidencePipelineWithSelector casefold uuid5 events policy approvedPolicy runStart =
        .ok result ∧
      selectR1Lineage policy runStart events = .ok result.selectorResult ∧
      result.selectorResult.selection = some (selectionOf policy start selected) ∧
      AgreesWithSelection casefold uuid5 policy approvedPolicy start events selected result := by
  have hsel := selectedFrom_of_ok hselect
  have hvalid := (validateLineageInput_of_selected hsel approvedPolicy).mpr hids
  have hresult : selectR1Lineage policy runStart events =
      .ok ⟨some (selectionOf policy start selected), []⟩ := by
    rw [selectR1Lineage, hstart, Except.ok_bind', hselect]
    rfl
  have hinput : ((⟨_, hvalid⟩ : R1LineageInput).val) =
      .ofSelection approvedPolicy (selectionOf policy start selected) := rfl
  have hextraction := hsel.runR1EvidencePipelineWithDiagnostics_eq casefold uuid5 hinput hids
  refine ⟨_, hsel.runR1EvidencePipelineWithSelector_eq hcount hresult hinput hids hextraction,
    hresult, rfl, ?_⟩
  refine ⟨rfl, hsel.reconstructProcessLineage_eq, ?_, hsel.followOns_ne_nil, fun huuid5 => ?_⟩
  · show sortedBy R1ExtractionDiagnostic.value (List.dedup _) = _
    split
    · rfl
    · rfl
  · refine ⟨hsel.deviations casefold uuid5 approvedPolicy, ?_, ?_, ?_⟩
    · exact hsel.pipelineResult_perm huuid5
        (if HasUnnamed selected.lineage then [.missingOrBlankProcessName] else [])
    · intro e he
      rw [SelectedFrom.deviations] at he
      split at he
      · rw [List.mem_singleton.mp he]
        rfl
      · cases he
    · rw [SelectedFrom.deviations]
      split
      · rfl
      · rfl

/-! ## Samples -/

namespace Sample

theorem rawLogId_nonblank : isBlank "log-1" = false := by decide

theorem sourceTime_eventTime (timestamp : UtcMillis) :
    sourceTime (some timestamp) none none .eventTime = some timestamp := rfl

/-- A Sysmon Event of a process. -/
def event (eventId eventType : String) (timestamp : UtcMillis) (process : ProcessInfo)
    (hid : eventId ≠ "" := by decide) (hdot : eventId ≠ "." ∧ eventId ≠ ".." := by decide) :
    NormalizedEvent where
  eventId
  runId := "run-1"
  timestamp
  timestampSource := .eventTime
  eventTime := some timestamp
  hostId := "WIN-01"
  source := "sysmon"
  sourceLayer := .rawTelemetry
  sourceEventId := "153"
  eventType
  rawRef :=
    { rawLogId := "log-1", segmentNo := 1, recordNo := 1
      rawLogId_nonblank := rawLogId_nonblank
      segmentNo_pos := Nat.one_pos
      recordNo_pos := Nat.one_pos }
  process := some process
  eventId_nonempty := hid
  eventId_ne_dot := hdot
  timestamp_eq := sourceTime_eventTime timestamp

def shell : ProcessInfo :=
  { processGuid := some "guid-b", parentProcessGuid := some "guid-a", name := some "cmd.exe" }

theorem serviceId_ne_empty : "evt-1" ≠ "" := by decide

theorem serviceId_ne_dot : "evt-1" ≠ "." ∧ "evt-1" ≠ ".." := by decide

theorem noParent_nonblank : ∀ g ∈ (none : Option String), isBlank g = false := by decide

/-- A service before the Run. -/
def service : NormalizedEvent :=
  event "evt-1" "process_create" 1000
    { processGuid := some "guid-a", name := some "services.exe"
      parentProcessGuid_nonblank := noParent_nonblank } serviceId_ne_empty serviceId_ne_dot

def connection : NormalizedEvent := event "evt-4" "network_connection" 4000 shell

/-- The service starts a shell, which opens a connection. -/
def batch : List NormalizedEvent := [service, event "evt-3" "process_create" 3000 shell, connection]

theorem blankId_ne_empty : " " ≠ "" := by decide

theorem blankId_ne_dot : " " ≠ "." ∧ " " ≠ ".." := by decide

/-- The same, where the id of the shell's Event is a blank. -/
def blankBatch : List NormalizedEvent :=
  [service, event " " "process_create" 3000 shell blankId_ne_empty blankId_ne_dot, connection]

theorem lineageEventCount_pos : 1 ≤ 2 := by decide

def selectorPolicy : R1SelectorPolicy :=
  { policyId := "selector-1", version := "v1", configHash := "hash-2", lineageEventCount := 2
    lineageEventCount_pos := lineageEventCount_pos }

def approved : ApprovedLineagePolicy :=
  { policyId := "lineage-1", version := "v1", configHash := "hash-1",
    approvedLineage := ["services.exe", "wmiprvse.exe"] }

/-- An approved lineage of another length. -/
def shortApproved : ApprovedLineagePolicy := { approved with
    approvedLineage := ["wmiprvse.exe"]
    approvedLineage_ne_nil := by decide
    approvedLineage_nonblank := by decide }

/-- `str.lower`, which is `str.casefold` on the names of the sample. -/
def lower (name : String) : String := name.toLower

/-- `uuid5` on the identities of the sample. -/
def sampleUuid5 (identity : List IdentityPart) : String :=
  if identity = lineageDeviationIdentity "run-1" ["evt-3"] approved then
    "81f153d6-603d-53eb-ae1a-cdc9f918103a"
  else "9be3a0b5-a15e-577b-b84e-277a5e7866cf"

end Sample

open Sample

/-- The selector selects the lineage of a batch, and the pipeline raises: where
the id of an Event is blank, and where the approved lineage has another length. -/
theorem runR1EvidencePipelineWithSelector_raises :
    (selectR1Lineage selectorPolicy (some (.utc 2000000)) blankBatch).toOption.bind (·.selection) ≠
        none ∧
      runR1EvidencePipelineWithSelector lower sampleUuid5 blankBatch selectorPolicy approved
          (some (.utc 2000000)) =
        .error (.valueError "terminal_event_id must be a non-blank string") ∧
      runR1EvidencePipelineWithSelector lower sampleUuid5 batch selectorPolicy shortApproved
          (some (.utc 2000000)) =
        .error (.valueError "selector lineage_event_count must match approved_lineage length") := by
  refine ⟨by decide, by rfl, by rfl⟩

/-- The batch of a service, its shell and the shell's connection. -/
theorem runR1EvidencePipelineWithSelector_agrees_batch :
    ∃ selected result,
      runR1EvidencePipelineWithSelector lower sampleUuid5 batch selectorPolicy approved
          (some (.utc 2000000)) = .ok result ∧
      AgreesWithSelection lower sampleUuid5 selectorPolicy approved (some 2000000) batch selected
        result ∧
      CollisionFree sampleUuid5 (candidateIdentities (some 2000000) batch approved selected) := by
  have hselect : selectLineage selectorPolicy (some 2000000) batch =
      .ok ⟨event "evt-3" "process_create" 3000 shell,
        [service, event "evt-3" "process_create" 3000 shell]⟩ := by rfl
  have hstart : normalizeRunStart (some (.utc 2000000)) = .ok (some 2000000) := by rfl
  obtain ⟨result, hresult, -, -, hagrees⟩ := runR1EvidencePipelineWithSelector_agrees lower sampleUuid5
    approved (by rfl) hstart hselect (by decide)
  exact ⟨_, result, hresult, hagrees, by decide⟩

end IncidentAwareness.Evidence
