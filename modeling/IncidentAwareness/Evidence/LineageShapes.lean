import IncidentAwareness.Evidence.MultiEvent

/-!
# The shapes of a lineage

`reconstructProcessLineage` follows parent GUIDs that the telemetry supplies, so
they may form any graph. Here the graph is read without the loop: `Walk` is a
chain of parents, each the one Event of its GUID and none met twice, and
`Shaped` says where such a chain ends (at the anchor, at a GUID it already has,
at a GUID of several Events, at a parent that is not there).

* `Walk.reconstruct`: the loop goes along the walks;
* `Shaped.reconstruct`: so it reports the shape of a graph, on the chain that
  shows it;
* `exists_shaped`: every graph has a shape;
* `reconstructProcessLineage_classifies`: the result is the one of a shape exactly
  when the graph has it.
-/

namespace IncidentAwareness.Evidence

open IncidentAwareness.Common IncidentAwareness.Lib

/-- What the reconstruction tells apart. -/
inductive LineageShape where
  | complete | cycle | ambiguous | missingParent
  deriving DecidableEq, Repr

/-- The shape that a status and a failure reason report. -/
def LineageCorrelation.shape (correlation : LineageCorrelation) : Option LineageShape :=
  match correlation.status, correlation.failureReason with
  | .complete, _ => some .complete
  | .cycle, _ => some .cycle
  | .truncated, some .duplicateProcessGuid => some .ambiguous
  | .truncated, some .missingParent => some .missingParent
  | .truncated, none => none

variable {index : List NormalizedEvent} {anchor terminal : NormalizedEvent}
  {chain chain₁ chain₂ : List NormalizedEvent} {shape shape₁ shape₂ : LineageShape}

/-- A GUID that no two indexed Events share. -/
def Unambiguous (index : List NormalizedEvent) (guid : String) : Prop :=
  (eventsOfGuid index guid).length ≤ 1

/-- The parents of a terminal, root first: each is the one Event of the GUID that
its child names, and no GUID comes twice. Nothing is walked unless both ends have
a GUID. -/
inductive Walk (index : List NormalizedEvent) (anchor terminal : NormalizedEvent) :
    List NormalizedEvent → Prop
  | terminal {guid : String} (hanchor : processGuid anchor ≠ none)
      (hguid : processGuid terminal = some guid) (hone : Unambiguous index guid) :
      Walk index anchor terminal [terminal]
  | parent {child parent : NormalizedEvent} {chain : List NormalizedEvent} {guid : String}
      (hwalk : Walk index anchor terminal (child :: chain))
      (hnames : parentProcessGuid child = some guid)
      (hnew : some guid ∉ (child :: chain).map processGuid)
      (hone : eventsOfGuid index guid = [parent]) (hedge : isParentEdge child parent = true) :
      Walk index anchor terminal (parent :: child :: chain)

/-- The GUID leads to no parent of the child. -/
def LacksParent (index : List NormalizedEvent) (child : NormalizedEvent) (guid : String) : Prop :=
  Unambiguous index guid ∧ ∀ parent ∈ eventsOfGuid index guid, isParentEdge child parent = false

/-- The graph of a terminal has a shape, seen on a chain. -/
inductive Shaped (index : List NormalizedEvent) (anchor terminal : NormalizedEvent) :
    LineageShape → List NormalizedEvent → Prop
  /-- The walk reaches the anchor. -/
  | complete {root : NormalizedEvent} {chain : List NormalizedEvent}
      (hwalk : Walk index anchor terminal (root :: chain))
      (hanchor : processGuid root = processGuid anchor) :
      Shaped index anchor terminal .complete (root :: chain)
  /-- The walk comes back to a GUID of its own. -/
  | cycle {root : NormalizedEvent} {chain : List NormalizedEvent} {guid : String}
      (hwalk : Walk index anchor terminal (root :: chain))
      (hanchor : processGuid anchor ∉ (root :: chain).map processGuid)
      (hnames : parentProcessGuid root = some guid)
      (hseen : some guid ∈ (root :: chain).map processGuid) :
      Shaped index anchor terminal .cycle (root :: chain)
  /-- The GUID of the terminal is shared. -/
  | ambiguousTerminal {guid : String} (hanchor : processGuid anchor ≠ none)
      (hguid : processGuid terminal = some guid) (hshared : ¬ Unambiguous index guid) :
      Shaped index anchor terminal .ambiguous [terminal]
  /-- The walk comes to a GUID that is shared. -/
  | ambiguousParent {root : NormalizedEvent} {chain : List NormalizedEvent} {guid : String}
      (hwalk : Walk index anchor terminal (root :: chain))
      (hanchor : processGuid anchor ∉ (root :: chain).map processGuid)
      (hnames : parentProcessGuid root = some guid) (hshared : ¬ Unambiguous index guid) :
      Shaped index anchor terminal .ambiguous (root :: chain)
  /-- An end has no GUID. -/
  | missingGuid (hnone : processGuid anchor = none ∨ processGuid terminal = none) :
      Shaped index anchor terminal .missingParent [terminal]
  /-- The walk comes to a process that names no parent. -/
  | missingLink {root : NormalizedEvent} {chain : List NormalizedEvent}
      (hwalk : Walk index anchor terminal (root :: chain))
      (hanchor : processGuid anchor ∉ (root :: chain).map processGuid)
      (hnames : parentProcessGuid root = none) :
      Shaped index anchor terminal .missingParent (root :: chain)
  /-- The walk comes to a parent that is not there, or is none. -/
  | missingParent {root : NormalizedEvent} {chain : List NormalizedEvent} {guid : String}
      (hwalk : Walk index anchor terminal (root :: chain))
      (hanchor : processGuid anchor ∉ (root :: chain).map processGuid)
      (hnames : parentProcessGuid root = some guid)
      (hnew : some guid ∉ (root :: chain).map processGuid) (hlacks : LacksParent index root guid) :
      Shaped index anchor terminal .missingParent (root :: chain)

/-! ## Walks -/

namespace Walk

theorem anchor_ne_none (h : Walk index anchor terminal chain) : processGuid anchor ≠ none := by
  induction h with
  | terminal hanchor _ _ => exact hanchor
  | parent _ _ _ _ _ ih => exact ih

theorem getLast? (h : Walk index anchor terminal chain) : chain.getLast? = some terminal := by
  induction h with
  | terminal => rfl
  | parent _ _ _ _ _ ih => rw [List.getLast?_cons_cons, ih]

/-- Every Event of a walk has a GUID that is its own. -/
theorem unambiguous (h : Walk index anchor terminal chain) :
    ∀ e ∈ chain, ∃ guid, processGuid e = some guid ∧ Unambiguous index guid := by
  induction h with
  | terminal _ hguid hone => exact List.forall_mem_singleton.mpr ⟨_, hguid, hone⟩
  | @parent child parent chain guid _ _ _ hone _ ih =>
    have hmem : parent ∈ eventsOfGuid index guid := hone ▸ List.mem_singleton_self parent
    have hguid : processGuid parent = some guid := of_decide_eq_true (List.mem_filter.mp hmem).2
    have hunambiguous : Unambiguous index guid := by rw [Unambiguous, hone, List.length_singleton]
    exact List.forall_mem_cons.mpr ⟨⟨guid, hguid, hunambiguous⟩, ih⟩

theorem nodup (h : Walk index anchor terminal chain) : (chain.map processGuid).Nodup := by
  induction h with
  | terminal => exact List.nodup_singleton _
  | @parent child parent chain guid _ _ hnew hone _ ih =>
    have hmem : parent ∈ eventsOfGuid index guid := hone ▸ List.mem_singleton_self parent
    have hguid : processGuid parent = some guid := of_decide_eq_true (List.mem_filter.mp hmem).2
    rw [List.map_cons, hguid]
    exact ih.cons hnew

theorem isChain (h : Walk index anchor terminal chain) :
    chain.IsChain fun parent child => isParentEdge child parent = true := by
  induction h with
  | terminal => exact .singleton _
  | parent _ _ _ _ hedge ih => exact .cons_cons hedge ih

/-- The parents that were walked are indexed. -/
theorem dropLast_subset (h : Walk index anchor terminal chain) : chain.dropLast ⊆ index := by
  induction h with
  | terminal => exact List.nil_subset _
  | @parent child parent chain guid _ _ _ hone _ ih =>
    have hmem : parent ∈ eventsOfGuid index guid := hone ▸ List.mem_singleton_self parent
    rw [List.dropLast_cons_cons]
    exact List.cons_subset.mpr ⟨List.mem_of_mem_filter hmem, ih⟩

theorem length_le (h : Walk index anchor terminal chain) : chain.length ≤ index.length + 1 := by
  have hnodup : chain.dropLast.Nodup := (h.nodup.of_map _).sublist (List.dropLast_sublist _)
  have hle : chain.dropLast.length ≤ index.length :=
    (List.subperm_of_subset hnodup h.dropLast_subset).length_le
  rw [List.length_dropLast] at hle
  omega

end Walk

/-! ## The loop -/

variable {root : NormalizedEvent} {anchorGuid guid : String}

theorem mem_guids {l : List NormalizedEvent} :
    guid ∈ l.filterMap processGuid ↔ some guid ∈ l.map processGuid := by
  rw [List.mem_filterMap, List.mem_map]

/-- The loop on an Event of a walk whose GUID is not the anchor's. -/
theorem reconstructFrom_of_walk (hwalk : Walk index anchor terminal (root :: chain))
    (hroot : processGuid root ≠ some anchorGuid) (seen : List String) :
    reconstructFrom index anchorGuid root seen (root :: chain) = match parentProcessGuid root with
      | none =>
        { status := .truncated, events := root :: chain, failureReason := some .missingParent,
          missingParentProcessGuid := some anchorGuid }
      | some parentGuid =>
        if parentGuid ∈ seen then { status := .cycle, events := root :: chain }
        else match eventsOfGuid index parentGuid with
          | _ :: _ :: _ =>
            { status := .truncated, events := root :: chain,
              failureReason := some .duplicateProcessGuid,
              duplicateProcessGuid := some parentGuid }
          | [parent] =>
            if isParentEdge root parent then
              reconstructFrom index anchorGuid parent (parentGuid :: seen) (parent :: root :: chain)
            else
              { status := .truncated, events := root :: chain, failureReason := some .missingParent,
                missingParentProcessGuid := some parentGuid }
          | [] =>
            { status := .truncated, events := root :: chain, failureReason := some .missingParent,
              missingParentProcessGuid := some parentGuid } := by
  obtain ⟨guid, hguid, hone⟩ := hwalk.unambiguous root List.mem_cons_self
  have hanchor : guid ≠ anchorGuid := fun h => hroot (h ▸ hguid)
  rw [reconstructFrom, hguid]
  dsimp only
  rw [if_neg (Nat.not_lt.mpr hone), if_neg hanchor]
  cases parentProcessGuid root with
  | none => rfl
  | some parentGuid =>
    dsimp only
    by_cases hseen : parentGuid ∈ seen
    · rw [dif_pos hseen, if_pos hseen]
    · rw [dif_neg hseen, if_neg hseen]
      cases eventsOfGuid index parentGuid with
      | nil => rfl
      | cons parent rest =>
        cases rest with
        | nil => rfl
        | cons next rest => rfl

/-- The loop goes along every walk that has not met the anchor below its root. -/
theorem Walk.reconstruct {events : List NormalizedEvent}
    (hwalk : Walk (indexProcessEvents events anchor terminal) anchor terminal chain)
    (hanchor : processGuid anchor = some anchorGuid) :
    ∀ root rest, chain = root :: rest → processGuid anchor ∉ rest.map processGuid →
      reconstructProcessLineage events anchor terminal =
        reconstructFrom (indexProcessEvents events anchor terminal) anchorGuid root
          (chain.filterMap processGuid) chain := by
  induction hwalk with
  | @terminal guid _ hguid _ =>
    intro root rest hchain _
    obtain ⟨rfl, rfl⟩ := List.cons.inj hchain
    rw [reconstructProcessLineage, hanchor, hguid, List.filterMap_cons_some hguid,
      List.filterMap_nil]
  | @parent child parent chain guid hwalk hnames hnew hone hedge ih =>
    intro root rest hchain hpast
    obtain ⟨rfl, rfl⟩ := List.cons.inj hchain
    have hchild : processGuid anchor ≠ processGuid child := fun h =>
      hpast (h ▸ List.mem_map_of_mem List.mem_cons_self)
    have hpast' : processGuid anchor ∉ chain.map processGuid := fun h =>
      hpast (List.mem_cons_of_mem _ h)
    have hmem : parent ∈ eventsOfGuid _ guid := hone ▸ List.mem_singleton_self parent
    have hguid : processGuid parent = some guid := of_decide_eq_true (List.mem_filter.mp hmem).2
    have hnew' : guid ∉ (child :: chain).filterMap processGuid := fun h => hnew (mem_guids.mp h)
    rw [ih child chain rfl hpast', reconstructFrom_of_walk hwalk (hanchor ▸ hchild.symm), hnames]
    dsimp only
    rw [if_neg hnew', hone]
    dsimp only
    rw [if_pos hedge, List.filterMap_cons_some hguid]

/-- A walk on which every GUID is another than the anchor's is the loop's. -/
theorem Walk.reconstruct_of_notMem {events : List NormalizedEvent}
    (hwalk : Walk (indexProcessEvents events anchor terminal) anchor terminal (root :: chain))
    (hpast : processGuid anchor ∉ (root :: chain).map processGuid) :
    ∃ anchorGuid, processGuid root ≠ some anchorGuid ∧
      reconstructProcessLineage events anchor terminal =
        reconstructFrom (indexProcessEvents events anchor terminal) anchorGuid root
          ((root :: chain).filterMap processGuid) (root :: chain) := by
  obtain ⟨anchorGuid, hanchor⟩ := Option.ne_none_iff_exists'.mp hwalk.anchor_ne_none
  rw [List.map_cons, List.mem_cons, not_or, hanchor] at hpast
  exact ⟨anchorGuid, Ne.symm hpast.1,
    hwalk.reconstruct hanchor root chain rfl (hanchor ▸ hpast.2)⟩

/-- The loop reports the shape of a graph, on its chain. -/
theorem Shaped.reconstruct {events : List NormalizedEvent}
    (h : Shaped (indexProcessEvents events anchor terminal) anchor terminal shape chain) :
    (reconstructProcessLineage events anchor terminal).shape = some shape ∧
      (reconstructProcessLineage events anchor terminal).events = chain := by
  cases h with
  | @complete root chain hwalk hroot =>
    obtain ⟨anchorGuid, hanchor⟩ := Option.ne_none_iff_exists'.mp hwalk.anchor_ne_none
    have hpast : processGuid anchor ∉ chain.map processGuid :=
      hroot ▸ (List.nodup_cons.mp hwalk.nodup).1
    obtain ⟨guid, hguid, hone⟩ := hwalk.unambiguous root List.mem_cons_self
    have hsame : guid = anchorGuid := Option.some.inj (hguid.symm.trans (hroot.trans hanchor))
    rw [hwalk.reconstruct hanchor root chain rfl hpast, reconstructFrom, hguid]
    dsimp only
    rw [if_neg (Nat.not_lt.mpr hone), if_pos hsame]
    exact ⟨rfl, rfl⟩
  | @cycle root chain guid hwalk hpast hnames hseen =>
    obtain ⟨anchorGuid, hroot, heq⟩ := hwalk.reconstruct_of_notMem hpast
    rw [heq, reconstructFrom_of_walk hwalk hroot, hnames]
    dsimp only
    rw [if_pos (mem_guids.mpr hseen)]
    exact ⟨rfl, rfl⟩
  | @ambiguousTerminal guid hanchor hguid hshared =>
    obtain ⟨anchorGuid, hanchor⟩ := Option.ne_none_iff_exists'.mp hanchor
    rw [reconstructProcessLineage, hanchor, hguid]
    dsimp only
    rw [reconstructFrom, hguid]
    dsimp only
    rw [if_pos (Nat.not_le.mp hshared)]
    exact ⟨rfl, rfl⟩
  | @ambiguousParent root chain guid hwalk hpast hnames hshared =>
    obtain ⟨anchorGuid, hroot, heq⟩ := hwalk.reconstruct_of_notMem hpast
    have hnew : guid ∉ (root :: chain).filterMap processGuid := fun h => by
      obtain ⟨e, he, hguid⟩ := List.mem_filterMap.mp h
      obtain ⟨guid', hguid', hone⟩ := hwalk.unambiguous e he
      exact hshared (Option.some.inj (hguid.symm.trans hguid') ▸ hone)
    rw [heq, reconstructFrom_of_walk hwalk hroot, hnames]
    dsimp only
    rw [if_neg hnew]
    rw [Unambiguous] at hshared
    split
    · exact ⟨rfl, rfl⟩
    · rename_i h
      exact absurd (h ▸ Nat.le_refl 1) hshared
    · rename_i h
      exact absurd (h ▸ Nat.zero_le 1) hshared
  | missingGuid hnone =>
    rw [reconstructProcessLineage]
    split
    · rename_i hanchor hterminal
      rw [hanchor, hterminal] at hnone
      simp at hnone
    · exact ⟨rfl, rfl⟩
  | @missingLink root chain hwalk hpast hnames =>
    obtain ⟨anchorGuid, hroot, heq⟩ := hwalk.reconstruct_of_notMem hpast
    rw [heq, reconstructFrom_of_walk hwalk hroot, hnames]
    exact ⟨rfl, rfl⟩
  | @missingParent root chain guid hwalk hpast hnames hnew hlacks =>
    obtain ⟨anchorGuid, hroot, heq⟩ := hwalk.reconstruct_of_notMem hpast
    have hnew' : guid ∉ (root :: chain).filterMap processGuid := fun h => hnew (mem_guids.mp h)
    rw [heq, reconstructFrom_of_walk hwalk hroot, hnames]
    dsimp only
    rw [if_neg hnew']
    obtain ⟨hone, hedges⟩ := hlacks
    rw [Unambiguous] at hone
    split
    · rename_i h
      rw [h] at hone
      simp at hone
    · rename_i parent h
      rw [hedges parent (h ▸ List.mem_singleton_self parent)]
      exact ⟨rfl, rfl⟩
    · exact ⟨rfl, rfl⟩

/-! ## Every graph has a shape -/

/-- A walk that has not met the anchor below its root ends there or goes on. -/
theorem Walk.shaped_or_parent (hwalk : Walk index anchor terminal (root :: chain))
    (hpast : processGuid anchor ∉ chain.map processGuid) :
    (∃ shape, Shaped index anchor terminal shape (root :: chain)) ∨
      ∃ parent, Walk index anchor terminal (parent :: root :: chain) ∧
        processGuid anchor ∉ (root :: chain).map processGuid := by
  by_cases hroot : processGuid root = processGuid anchor
  · exact .inl ⟨.complete, .complete hwalk hroot⟩
  have hpast : processGuid anchor ∉ (root :: chain).map processGuid :=
    List.not_mem_cons_of_ne_of_not_mem (Ne.symm hroot) hpast
  cases hnames : parentProcessGuid root with
  | none => exact .inl ⟨.missingParent, .missingLink hwalk hpast hnames⟩
  | some guid =>
    by_cases hseen : some guid ∈ (root :: chain).map processGuid
    · exact .inl ⟨.cycle, .cycle hwalk hpast hnames hseen⟩
    by_cases hone : Unambiguous index guid
    · by_cases hedge : ∃ parent ∈ eventsOfGuid index guid, isParentEdge root parent = true
      · obtain ⟨parent, hmem, hedge⟩ := hedge
        obtain ⟨e, he⟩ := List.length_eq_one_iff.mp
          (Nat.le_antisymm hone (List.length_pos_of_mem hmem))
        obtain rfl : parent = e := List.mem_singleton.mp (he ▸ hmem)
        exact .inr ⟨parent, .parent hwalk hnames hseen he hedge, hpast⟩
      · have hlacks : LacksParent index root guid :=
          ⟨hone, fun parent hmem => Bool.not_eq_true _ ▸ fun h => hedge ⟨parent, hmem, h⟩⟩
        exact .inl ⟨.missingParent, .missingParent hwalk hpast hnames hseen hlacks⟩
    · exact .inl ⟨.ambiguous, .ambiguousParent hwalk hpast hnames hone⟩

/-- On the number of Events that a longer walk could still take. -/
theorem Walk.exists_shaped (n : Nat) (hn : index.length + 1 - chain.length ≤ n)
    (hwalk : Walk index anchor terminal (root :: chain))
    (hpast : processGuid anchor ∉ chain.map processGuid) :
    ∃ shape chain, Shaped index anchor terminal shape chain := by
  induction n generalizing root chain with
  | zero =>
    have hle := hwalk.length_le
    rw [List.length_cons] at hle
    omega
  | succ n ih =>
    obtain ⟨shape, hshaped⟩ | ⟨parent, hwalk', hpast'⟩ := hwalk.shaped_or_parent hpast
    · exact ⟨shape, root :: chain, hshaped⟩
    · refine ih ?_ hwalk' hpast'
      rw [List.length_cons]
      omega

theorem exists_shaped (index : List NormalizedEvent) (anchor terminal : NormalizedEvent) :
    ∃ shape chain, Shaped index anchor terminal shape chain := by
  by_cases hanchor : processGuid anchor = none
  · exact ⟨.missingParent, [terminal], .missingGuid (.inl hanchor)⟩
  cases hterminal : processGuid terminal with
  | none => exact ⟨.missingParent, [terminal], .missingGuid (.inr hterminal)⟩
  | some guid =>
    by_cases hone : Unambiguous index guid
    · exact Walk.exists_shaped _ le_rfl (.terminal hanchor hterminal hone) List.not_mem_nil
    · exact ⟨.ambiguous, [terminal], .ambiguousTerminal hanchor hterminal hone⟩

/-- A shape is seen on a chain of parents that ends at the terminal. -/
theorem Shaped.eq_or_walk (h : Shaped index anchor terminal shape chain) :
    chain = [terminal] ∨ Walk index anchor terminal chain := by
  cases h with
  | complete hwalk => exact .inr hwalk
  | cycle hwalk => exact .inr hwalk
  | ambiguousTerminal => exact .inl rfl
  | ambiguousParent hwalk => exact .inr hwalk
  | missingGuid => exact .inl rfl
  | missingLink hwalk => exact .inr hwalk
  | missingParent hwalk => exact .inr hwalk

/-- What the reconstruction returns ends at the terminal, follows parents, and
meets no GUID twice; its shape is the one that the graph has, on the chain that
shows it. -/
theorem reconstructProcessLineage_classifies (events : List NormalizedEvent)
    (anchor terminal : NormalizedEvent) :
    ((reconstructProcessLineage events anchor terminal).events.getLast? = some terminal ∧
      (reconstructProcessLineage events anchor terminal).events.IsChain
        (fun parent child => isParentEdge child parent = true) ∧
      ((reconstructProcessLineage events anchor terminal).events.map processGuid).Nodup ∧
      (reconstructProcessLineage events anchor terminal).events.length ≤
        (indexProcessEvents events anchor terminal).length + 1) ∧
    (reconstructProcessLineage events anchor terminal).shape.isSome ∧
    ∀ shape chain, ((reconstructProcessLineage events anchor terminal).shape = some shape ∧
        (reconstructProcessLineage events anchor terminal).events = chain) ↔
      Shaped (indexProcessEvents events anchor terminal) anchor terminal shape chain := by
  obtain ⟨shape, chain, hshaped⟩ :=
    exists_shaped (indexProcessEvents events anchor terminal) anchor terminal
  obtain ⟨hshape, hchain⟩ := hshaped.reconstruct
  refine ⟨?_, by rw [hshape, Option.isSome_some], fun shape' chain' => ⟨fun h => ?_, Shaped.reconstruct⟩⟩
  · rw [hchain]
    obtain rfl | hwalk := hshaped.eq_or_walk
    · exact ⟨rfl, .singleton _, List.nodup_singleton _, Nat.le_add_left 1 _⟩
    · exact ⟨hwalk.getLast?, hwalk.isChain, hwalk.nodup, hwalk.length_le⟩
  · obtain ⟨hshape', hchain'⟩ := h
    obtain rfl : shape = shape' := Option.some.inj (hshape.symm.trans hshape')
    obtain rfl : chain = chain' := hchain.symm.trans hchain'
    exact hshaped

end IncidentAwareness.Evidence
