import IncidentAwareness.Lib.Chain
import IncidentAwareness.Persistence.Database
import Mathlib.Data.List.Perm.Subperm

/-!
# The Decision history of the dashboard

`build_decision_history`, whose walk along the `supersedes_decision_id` links ends
because it refuses an id that it has visited.

* `walk_eq_ok`: what a walk that ends has collected;
* `exists_walk`: on an acyclic, closed set of Decisions a walk ends;
* `decisionHistory`: the function returns on one linear chain, and nowhere else.
-/

namespace IncidentAwareness.Dashboard

open IncidentAwareness.Common IncidentAwareness.Lib IncidentAwareness.Persistence Relation

/-- The texts of the `DecisionIntegrityError`s. -/
inductive HistoryError where
  /-- `Decision history contains a scope mismatch for decision_id={…!r}` -/
  | scopeMismatch (decisionId : String)
  /-- `duplicate Decision decision_id={…!r}` -/
  | duplicate (decisionId : String)
  /-- `no current Decision head in stored history` -/
  | noHead
  /-- `multiple current Decision heads in stored history: {…!r}` -/
  | multipleHeads (inferredHeads : List String)
  /-- `Decision lifecycle cycle detected at decision_id={…!r}` -/
  | cycle (decisionId : String)
  /-- `Decision {…!r} references missing predecessor {…!r}` -/
  | missingPredecessor (currentId predecessorId : String)
  /-- `Decision history contains disconnected decisions: {…!r}` -/
  | disconnected (disconnectedIds : List String)
  /-- `KeyError` -/
  | keyError (decisionId : String)
  deriving DecidableEq, Repr

/-- The keys of `decisions_by_id`. -/
def ids (byId : List DecisionResult) : List String := byId.map (·.decisionId)

/-- The loop that collects `decisions_by_id`, a `dict` in the order of its entries. -/
def collectById (expectedScope : Scope) :
    List DecisionResult → List DecisionResult → Except HistoryError (List DecisionResult)
  | byId, [] => .ok byId
  | byId, decision :: decisions => do
    raiseIf (decision.scope ≠ expectedScope) (.scopeMismatch decision.decisionId)
    raiseIf (decision.decisionId ∈ ids byId) (.duplicate decision.decisionId)
    collectById expectedScope (byId ++ [decision]) decisions

/-- The ids that no Decision supersedes. -/
def inferredHeads (decisions byId : List DecisionResult) : List String :=
  (ids byId).filter fun id => id ∉ decisions.filterMap (·.supersedesDecisionId)

/-- The entries of a `dict` that are not visited. -/
def unvisited (byId : List DecisionResult) (visited : List String) : List String :=
  (ids byId).filter fun id => id ∉ visited

theorem unvisited_lt {byId : List DecisionResult} {visited : List String} {current : DecisionResult}
    (hmem : current ∈ byId) (hnew : current.decisionId ∉ visited) :
    (unvisited byId (visited ++ [current.decisionId])).length < (unvisited byId visited).length := by
  have hsub : unvisited byId (visited ++ [current.decisionId]) =
      (unvisited byId visited).filter fun id => id ≠ current.decisionId := by
    rw [unvisited, unvisited, List.filter_filter]
    refine List.filter_congr fun id _ => ?_
    simp [not_or, and_comm]
  rw [hsub]
  refine List.length_filter_lt_length_iff_exists.mpr ⟨current.decisionId, ?_, by simp⟩
  exact List.mem_filter.mpr ⟨List.mem_map_of_mem hmem, by simpa using hnew⟩

/-- The `while` loop: the ids that it visited, and the history. -/
def walk (byId : List DecisionResult) (visited : List String) (history : List DecisionResult)
    (currentId : String) : Except HistoryError (List String × List DecisionResult) :=
  if _hvisited : currentId ∈ visited then .error (.cycle currentId)
  else
    match _hcurrent : byId.find? (fun d => d.decisionId = currentId) with
    | none => .error (.keyError currentId)
    | some current =>
      match current.supersedesDecisionId with
      | none => .ok (visited ++ [currentId], history ++ [current])
      | some predecessorId =>
        if predecessorId ∉ ids byId then
          .error (.missingPredecessor currentId predecessorId)
        else walk byId (visited ++ [currentId]) (history ++ [current]) predecessorId
termination_by (unvisited byId visited).length
decreasing_by
  have hid : current.decisionId = currentId := by simpa using List.find?_some _hcurrent
  rw [← hid] at _hvisited ⊢
  exact unvisited_lt (List.mem_of_find?_eq_some _hcurrent) _hvisited

/-- `build_decision_history`. -/
def buildDecisionHistory (decisions : List DecisionResult) :
    Except HistoryError (List DecisionResult) :=
  match decisions with
  | [] => .ok []
  | first :: _ => do
    let byId ← collectById first.scope [] decisions
    match inferredHeads decisions byId with
    | [] => .error .noHead
    | [head] => do
      let (visited, history) ← walk byId [] [] head
      raiseIf (visited.length ≠ byId.length) (.disconnected (unvisited byId visited))
      return history
    | heads => .error (.multipleHeads heads)

/-! ## What it accepts -/

theorem collectById_eq_ok {expectedScope : Scope} {decisions byId r : List DecisionResult}
    (hnd : (ids byId).Nodup) :
    collectById expectedScope byId decisions = .ok r ↔
      (∀ d ∈ decisions, d.scope = expectedScope) ∧ (ids (byId ++ decisions)).Nodup ∧
        r = byId ++ decisions := by
  induction decisions generalizing byId with
  | nil =>
    rw [collectById, List.append_nil]
    simp only [Except.ok.injEq, List.not_mem_nil, false_implies, implies_true, true_and, hnd]
    exact eq_comm
  | cons decision decisions ih =>
    rw [collectById, raiseIf_bind_eq_ok, raiseIf_bind_eq_ok, not_not, List.forall_mem_cons]
    constructor
    · rintro ⟨hscope, hnew, h⟩
      have hnd' : (ids (byId ++ [decision])).Nodup := by
        rw [ids, List.map_append, List.nodup_append]
        refine ⟨hnd, List.nodup_singleton _, fun id hid id' hid' => ?_⟩
        rw [List.mem_singleton.mp hid']
        rintro rfl
        exact hnew hid
      obtain ⟨hscopes, hnodup, hr⟩ := (ih hnd').mp h
      rw [List.append_assoc] at hnodup hr
      exact ⟨⟨hscope, hscopes⟩, hnodup, hr⟩
    · rintro ⟨⟨hscope, hscopes⟩, hnodup, hr⟩
      rw [← List.singleton_append, ← List.append_assoc] at hnodup hr
      have hnd' : (ids (byId ++ [decision])).Nodup := by
        rw [ids, List.map_append] at hnodup
        exact (List.nodup_append.mp hnodup).1
      refine ⟨hscope, fun hold => ?_, (ih hnd').mpr ⟨hscopes, hnodup, hr⟩⟩
      rw [ids, List.map_append, List.nodup_append] at hnd'
      exact hnd'.2.2 _ hold _ (by simp) rfl

section Walk

variable {byId : List DecisionResult} {visited visited' : List String}
  {history history' : List DecisionResult} {currentId predecessorId : String} {current : DecisionResult}

theorem walk_of_root (hnew : currentId ∉ visited)
    (hfind : byId.find? (fun d => d.decisionId = currentId) = some current)
    (hroot : current.supersedesDecisionId = none) :
    walk byId visited history currentId = .ok (visited ++ [currentId], history ++ [current]) := by
  rw [walk, dif_neg hnew]
  split
  · next h => rw [hfind] at h; cases h
  · next c h =>
    obtain rfl := Option.some.inj (hfind.symm.trans h)
    simp only [hroot]

theorem walk_of_link (hnew : currentId ∉ visited)
    (hfind : byId.find? (fun d => d.decisionId = currentId) = some current)
    (hlink : current.supersedesDecisionId = some predecessorId) :
    walk byId visited history currentId =
      if predecessorId ∉ ids byId then
        .error (.missingPredecessor currentId predecessorId)
      else walk byId (visited ++ [currentId]) (history ++ [current]) predecessorId := by
  rw [walk, dif_neg hnew]
  split
  · next h => rw [hfind] at h; cases h
  · next c h =>
    obtain rfl := Option.some.inj (hfind.symm.trans h)
    simp only [hlink]

theorem walk_of_absent (hnew : currentId ∉ visited)
    (hfind : byId.find? (fun d => d.decisionId = currentId) = none) :
    walk byId visited history currentId = .error (.keyError currentId) := by
  rw [walk, dif_neg hnew]
  split
  · rfl
  · next c h => rw [hfind] at h; cases h

/-- A walk that ends has gone along the links from its first Decision to one without a
predecessor. -/
theorem walk_eq_ok (h : walk byId visited history currentId = .ok (visited', history')) :
    ∃ path, history' = history ++ path ∧ visited' = visited ++ ids path ∧
      Linked DecisionResult.decisionId DecisionResult.supersedesDecisionId path.reverse ∧
      path.head?.map (·.decisionId) = some currentId ∧ (∀ d ∈ path, d ∈ byId) ∧
      (ids path).Nodup ∧ ∀ d ∈ path, d.decisionId ∉ visited := by
  induction visited, history, currentId using walk.induct byId with
  | case1 visited history currentId hvisited =>
    rw [walk, dif_pos hvisited] at h
    cases h
  | case2 visited history currentId hvisited hcurrent =>
    rw [walk_of_absent hvisited hcurrent] at h
    cases h
  | case3 visited history currentId hvisited current hcurrent hroot =>
    rw [walk_of_root hvisited hcurrent hroot] at h
    obtain ⟨rfl, rfl⟩ := Prod.mk.inj (Except.ok.inj h)
    have hid : current.decisionId = currentId := by simpa using List.find?_some hcurrent
    refine ⟨[current], rfl, by rw [← hid]; rfl, ?_, congrArg some hid, ?_, List.nodup_singleton _, ?_⟩
    · exact (linked_append_singleton (l := [])).mpr ⟨linked_nil, hroot⟩
    · intro d hd
      rw [List.mem_singleton.mp hd]
      exact List.mem_of_find?_eq_some hcurrent
    · intro d hd
      rwa [List.mem_singleton.mp hd, hid]
  | case4 visited history currentId hvisited current hcurrent predecessorId hlink hmissing =>
    rw [walk_of_link hvisited hcurrent hlink, if_pos hmissing] at h
    cases h
  | case5 visited history currentId hvisited current hcurrent predecessorId hlink hmissing ih =>
    rw [walk_of_link hvisited hcurrent hlink, if_neg hmissing] at h
    have hid : current.decisionId = currentId := by simpa using List.find?_some hcurrent
    obtain ⟨path, rfl, rfl, hlinked, hhead, hmem, hnodup, hnew⟩ := ih h
    refine ⟨current :: path, by rw [List.append_assoc]; rfl, ?_, ?_, congrArg some hid, ?_, ?_, ?_⟩
    · rw [List.append_assoc, ← hid]
      rfl
    · rw [List.reverse_cons, linked_append_singleton]
      refine ⟨hlinked, ?_⟩
      rw [hlink, List.getLast?_reverse, hhead]
    · intro d hd
      rcases List.mem_cons.mp hd with rfl | hd
      · exact List.mem_of_find?_eq_some hcurrent
      · exact hmem d hd
    · rw [ids, List.map_cons, List.nodup_cons]
      refine ⟨fun hcontra => ?_, hnodup⟩
      obtain ⟨d, hd, hsame⟩ := List.mem_map.mp hcontra
      exact hnew d hd (List.mem_append_right _ (by rw [hsame, hid]; exact List.mem_singleton_self _))
    · intro d hd
      rcases List.mem_cons.mp hd with rfl | hd
      · rwa [hid]
      · exact fun hold => hnew d hd (List.mem_append_left _ hold)

/-- The path of a walk from nowhere. -/
structure WalkPath (byId : List DecisionResult) (currentId : String) (visited : List String)
    (history : List DecisionResult) : Prop where
  visited_eq : visited = ids history
  linked : Linked DecisionResult.decisionId DecisionResult.supersedesDecisionId history.reverse
  head : history.head?.map (·.decisionId) = some currentId
  mem : ∀ d ∈ history, d ∈ byId
  nodup : (ids history).Nodup

theorem walkPath_of_ok (h : walk byId [] [] currentId = .ok (visited, history)) :
    WalkPath byId currentId visited history := by
  obtain ⟨path, hhistory, hvisited, hlinked, hhead, hmem, hnodup, -⟩ := walk_eq_ok h
  rw [List.nil_append] at hhistory hvisited
  subst hhistory
  exact ⟨hvisited, hlinked, hhead, hmem, hnodup⟩

/-- The Decisions of a list, each superseding the one it names. -/
abbrev Supersedes (byId : List DecisionResult) : DecisionResult → DecisionResult → Prop :=
  Succeeds DecisionResult.decisionId DecisionResult.supersedesDecisionId {d | d ∈ byId}

theorem eq_of_decisionId (hnd : (ids byId).Nodup) {a b : DecisionResult} (ha : a ∈ byId)
    (hb : b ∈ byId) (h : a.decisionId = b.decisionId) : a = b :=
  List.inj_on_of_nodup_map hnd ha hb h

/-- Without a cycle or a missing predecessor a walk ends. -/
theorem exists_walk (hnd : (ids byId).Nodup)
    (hclosed : ∀ a ∈ byId, ∀ k, a.supersedesDecisionId = some k → ∃ b ∈ byId, b.decisionId = k)
    (hacyclic : ∀ a, ¬ TransGen (Supersedes byId) a a)
    (hcurrent : current ∈ byId) (hid : current.decisionId = currentId)
    (hvisited : ∀ id ∈ visited, ∃ d ∈ byId, d.decisionId = id ∧ TransGen (Supersedes byId) d current) :
    ∃ r, walk byId visited history currentId = .ok r := by
  induction visited, history, currentId using walk.induct byId generalizing current with
  | case1 visited history currentId hold =>
    obtain ⟨d, hd, hsame, hpath⟩ := hvisited currentId hold
    rw [eq_of_decisionId hnd hd hcurrent (hsame.trans hid.symm)] at hpath
    exact absurd hpath (hacyclic current)
  | case2 visited history currentId hnew hfind =>
    exact absurd (List.find?_eq_none.mp hfind current hcurrent) (by simpa using hid)
  | case3 visited history currentId hnew found hfind hroot =>
    exact ⟨_, walk_of_root hnew hfind hroot⟩
  | case4 visited history currentId hnew found hfind predecessorId hlink hmissing =>
    obtain ⟨b, hb, hkey⟩ := hclosed found (List.mem_of_find?_eq_some hfind) _ hlink
    exact absurd (List.mem_map.mpr ⟨b, hb, hkey⟩) hmissing
  | case5 visited history currentId hnew found hfind predecessorId hlink hmissing ih =>
    have hfound : found = current := by
      refine eq_of_decisionId hnd (List.mem_of_find?_eq_some hfind) hcurrent ?_
      rw [hid]
      simpa using List.find?_some hfind
    subst hfound
    obtain ⟨b, hb, hkey⟩ := hclosed found hcurrent _ hlink
    have hnext : Supersedes byId found b := ⟨hcurrent, hb, by rw [hlink, hkey]⟩
    rw [walk_of_link hnew hfind hlink, if_neg hmissing]
    refine ih hb hkey fun id hmem => ?_
    rcases List.mem_append.mp hmem with hold | hlast
    · obtain ⟨d, hd, hsame, hpath⟩ := hvisited id hold
      exact ⟨d, hd, hsame, hpath.tail hnext⟩
    · exact ⟨found, hcurrent, by rw [List.mem_singleton.mp hlast, hid], .single hnext⟩

end Walk

/-- One scope, distinct ids, and links that order the Decisions as one chain. -/
structure OneChain (decisions : List DecisionResult) : Prop where
  scope : ∀ a ∈ decisions, ∀ b ∈ decisions, a.scope = b.scope
  ids_nodup : (ids decisions).Nodup
  chain : IsLinearChain DecisionResult.decisionId DecisionResult.supersedesDecisionId
    {d | d ∈ decisions}

/-- A history, newest first: the Decisions, each superseding the next. -/
structure IsHistory (decisions history : List DecisionResult) : Prop where
  perm : history.Perm decisions
  linked : Linked DecisionResult.decisionId DecisionResult.supersedesDecisionId history.reverse

section Build

variable {decisions history : List DecisionResult}

theorem mem_inferredHeads {id : String} : id ∈ inferredHeads decisions decisions ↔
    ∃ d ∈ decisions, d.decisionId = id ∧ ∀ b ∈ decisions, b.supersedesDecisionId ≠ some id := by
  simp only [inferredHeads, ids, List.mem_filter, List.mem_map, List.mem_filterMap, decide_eq_true_eq,
    not_exists, not_and]
  constructor
  · rintro ⟨⟨d, hd, hid⟩, hfree⟩
    exact ⟨d, hd, hid, hfree⟩
  · rintro ⟨d, hd, hid, hfree⟩
    exact ⟨⟨d, hd, hid⟩, hfree⟩

/-- The checks of a list that is not empty. -/
theorem build_eq_ok {first : DecisionResult} {rest : List DecisionResult}
    (h : decisions = first :: rest) :
    buildDecisionHistory decisions = .ok history ↔
      (∀ d ∈ decisions, d.scope = first.scope) ∧ (ids decisions).Nodup ∧
        ∃ head visited, inferredHeads decisions decisions = [head] ∧
          walk decisions [] [] head = .ok (visited, history) ∧ visited.length = decisions.length := by
  have hcollect : ∀ r, collectById first.scope [] decisions = .ok r ↔
      (∀ d ∈ decisions, d.scope = first.scope) ∧ (ids decisions).Nodup ∧ r = decisions := fun r =>
    collectById_eq_ok List.nodup_nil
  have hbuild : buildDecisionHistory decisions = .ok history ↔
      ∃ byId, collectById first.scope [] decisions = .ok byId ∧ ∃ head visited,
        inferredHeads decisions byId = [head] ∧ walk byId [] [] head = .ok (visited, history) ∧
          visited.length = byId.length := by
    rw [buildDecisionHistory.eq_def, h]
    simp only [← h]
    rw [Except.bind_eq_ok]
    refine exists_congr fun byId => and_congr_right fun _ => ?_
    cases hheads : inferredHeads decisions byId with
    | nil => simp
    | cons head heads =>
      cases heads with
      | cons head' heads => simp
      | nil =>
        simp only [List.cons.injEq, and_true, exists_and_left, exists_eq_left']
        rw [Except.bind_eq_ok]
        constructor
        · rintro ⟨⟨visited, history'⟩, hwalk, hend⟩
          rw [raiseIf_bind_eq_ok, not_not, Except.pure_eq_ok] at hend
          obtain ⟨hlength, rfl⟩ := hend
          exact ⟨visited, hwalk, hlength⟩
        · rintro ⟨visited, hwalk, hlength⟩
          refine ⟨(visited, history), hwalk, ?_⟩
          rw [raiseIf_bind_eq_ok, not_not]
          exact ⟨hlength, rfl⟩
  rw [hbuild]
  constructor
  · rintro ⟨byId, hby, head, visited, hheads, hwalk, hlength⟩
    obtain ⟨hscope, hnd, rfl⟩ := (hcollect byId).mp hby
    exact ⟨hscope, hnd, head, visited, hheads, hwalk, hlength⟩
  · rintro ⟨hscope, hnd, head, visited, hheads, hwalk, hlength⟩
    exact ⟨decisions, (hcollect decisions).mpr ⟨hscope, hnd, rfl⟩, head, visited, hheads, hwalk, hlength⟩

/-- What the function returns is the history of one chain. -/
theorem isHistory_of_build (h : buildDecisionHistory decisions = .ok history) :
    OneChain decisions ∧ IsHistory decisions history := by
  cases hdecisions : decisions with
  | nil =>
    rw [hdecisions] at h
    obtain rfl := Except.ok.inj h
    refine ⟨⟨by simp, List.nodup_nil, ?_⟩, List.Perm.refl _, linked_nil⟩
    exact linked_nil.isLinearChain List.nodup_nil
  | cons first rest =>
    obtain ⟨hscope, hnd, head, visited, hheads, hwalk, hlength⟩ := (build_eq_ok hdecisions).mp h
    have hpath : WalkPath decisions head visited history := walkPath_of_ok hwalk
    have hperm : history.Perm decisions := by
      have hsub : history.Subperm decisions := hpath.nodup.of_map.subperm hpath.mem
      refine hsub.perm_of_length_le ?_
      rw [← hlength, hpath.visited_eq, ids, List.length_map]
    rw [← hdecisions]
    refine ⟨⟨fun a ha b hb => (hscope a ha).trans (hscope b hb).symm, hnd, ?_⟩, hperm, hpath.linked⟩
    have hchain := hpath.linked.isLinearChain
      (by rw [List.map_reverse, List.nodup_reverse]; exact hpath.nodup)
    have hset : {d | d ∈ history.reverse} = {d | d ∈ decisions} := by
      ext d
      rw [Set.mem_ofPred_eq, Set.mem_ofPred_eq, List.mem_reverse, hperm.mem_iff]
    rwa [hset] at hchain

theorem eq_singleton_of_nodup {α : Type} {l : List α} {a : α} (hnd : l.Nodup) (ha : a ∈ l)
    (hall : ∀ b ∈ l, b = a) : l = [a] := by
  cases l with
  | nil => cases ha
  | cons b l =>
    obtain rfl := hall b List.mem_cons_self
    cases l with
    | nil => rfl
    | cons c l =>
      obtain rfl := hall c (by simp)
      exact absurd List.mem_cons_self (List.nodup_cons.mp hnd).1

/-- On one chain the function returns. -/
theorem exists_build (h : OneChain decisions) : ∃ history, buildDecisionHistory decisions = .ok history := by
  cases hdecisions : decisions with
  | nil => exact ⟨[], rfl⟩
  | cons first rest =>
    have hfirst : first ∈ decisions := hdecisions ▸ List.mem_cons_self
    obtain ⟨head, ⟨hhead, hfree⟩, hunique⟩ := h.chain.head ⟨first, hfirst⟩
    have hheads : inferredHeads decisions decisions = [head.decisionId] := by
      refine eq_singleton_of_nodup (h.ids_nodup.filter _) ?_ fun id hid => ?_
      · exact mem_inferredHeads.mpr ⟨head, hhead, rfl, hfree⟩
      · obtain ⟨d, hd, rfl, hd'⟩ := mem_inferredHeads.mp hid
        rw [hunique d ⟨hd, hd'⟩]
    obtain ⟨⟨visited, history⟩, hwalk⟩ := @exists_walk decisions [] [] _ _ h.ids_nodup
      h.chain.closed h.chain.acyclic hhead rfl (fun id hid => absurd hid List.not_mem_nil)
    have hpath : WalkPath decisions head.decisionId visited history := walkPath_of_ok hwalk
    have hnd : (history.reverse.map (·.decisionId)).Nodup := by
      rw [List.map_reverse, List.nodup_reverse]
      exact hpath.nodup
    have hstart : head ∈ history := by
      obtain ⟨d, hd, hid⟩ := Option.map_eq_some_iff.mp hpath.head
      have hmem : d ∈ history := List.mem_of_head? hd
      rwa [← eq_of_decisionId h.ids_nodup (hpath.mem d hmem) hhead hid]
    -- what the head leads to is on the path
    have hreached : ∀ b, ReflTransGen (Supersedes decisions) head b → b ∈ history := by
      intro b hb
      induction hb with
      | refl => exact hstart
      | tail _ hstep ih =>
        obtain ⟨-, hc, hlink⟩ := hstep
        obtain ⟨c, hcpath, hkey⟩ :=
          (hpath.linked.isLinearChain hnd).closed _ (List.mem_reverse.mpr ih) _ hlink
        rw [← eq_of_decisionId h.ids_nodup (hpath.mem c (List.mem_reverse.mp hcpath)) hc hkey]
        exact List.mem_reverse.mp hcpath
    have hcovers : ∀ b ∈ decisions, b ∈ history := by
      intro b hb
      rcases h.chain.total head hhead b hb with hto | hfrom
      · exact hreached b hto
      · rcases ReflTransGen.cases_tail hfrom with rfl | ⟨c, -, hstep⟩
        · exact hstart
        · exact absurd hstep.2.2 (hfree c hstep.1)
    have hlength : history.length = decisions.length := by
      have hle := (hpath.nodup.of_map.subperm hpath.mem).length_le
      have hge := (h.ids_nodup.of_map.subperm hcovers).length_le
      omega
    rw [← hdecisions]
    refine ⟨history, (build_eq_ok hdecisions).mpr ⟨fun d hd => h.scope d hd first hfirst, h.ids_nodup,
      head.decisionId, visited, hheads, hwalk, ?_⟩⟩
    rw [hpath.visited_eq, ids, List.length_map, hlength]

theorem OneChain.perm {decisions' : List DecisionResult} (h : OneChain decisions)
    (hperm : decisions.Perm decisions') : OneChain decisions' where
  scope a ha b hb := h.scope a (hperm.mem_iff.mpr ha) b (hperm.mem_iff.mpr hb)
  ids_nodup := (hperm.map _).nodup_iff.mp h.ids_nodup
  chain := by
    have hset : {d | d ∈ decisions} = {d | d ∈ decisions'} := by
      ext d
      exact hperm.mem_iff
    exact hset ▸ h.chain

end Build

/-- The function returns exactly on the lists of one chain, and then their history, whatever
their order; on every other list it raises. -/
theorem decisionHistory (decisions : List DecisionResult) :
    ((∃ history, buildDecisionHistory decisions = .ok history) ↔ OneChain decisions) ∧
      (∀ history, buildDecisionHistory decisions = .ok history → IsHistory decisions history ∧
        ∀ decisions', decisions.Perm decisions' → buildDecisionHistory decisions' = .ok history) ∧
      (¬ OneChain decisions → ∃ e, buildDecisionHistory decisions = .error e) := by
  refine ⟨⟨?_, exists_build⟩, fun history h => ?_, fun h => ?_⟩
  · rintro ⟨history, h⟩
    exact (isHistory_of_build h).1
  · obtain ⟨hchain, hhistory⟩ := isHistory_of_build h
    refine ⟨hhistory, fun decisions' hperm => ?_⟩
    obtain ⟨history', h'⟩ := exists_build (hchain.perm hperm)
    have hhistory' := (isHistory_of_build h').2
    have hsame : history.reverse = history'.reverse := by
      refine hhistory.linked.eq_of_perm hhistory'.linked ?_ ?_
      · rw [List.map_reverse, List.nodup_reverse]
        exact (hhistory.perm.map _).nodup_iff.mpr hchain.ids_nodup
      · refine (List.reverse_perm _).trans ((hhistory.perm.trans hperm).trans ?_)
        exact hhistory'.perm.symm.trans (List.reverse_perm _).symm
    rw [List.reverse_injective hsame]
    exact h'
  · cases hbuild : buildDecisionHistory decisions with
    | error e => exact ⟨e, rfl⟩
    | ok history => exact absurd (isHistory_of_build hbuild).1 h

end IncidentAwareness.Dashboard
