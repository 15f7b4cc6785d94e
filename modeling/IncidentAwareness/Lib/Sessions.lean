import Mathlib.Data.List.SplitBy
import Mathlib.Tactic.Common

/-!
# Sessions of keyed items

Items come one after another, each under a key. An item joins the last group of its
key where it follows that group's last item, in the sense of a relation `r`; otherwise
it opens a group. What the groups are, for every key, is `List.splitBy r` of the
items of that key (`IsSessions`); the groups stand in the order in which they open.

* `splitBy_snoc_of_rel`, `splitBy_snoc_of_not_rel`: one more item;
* `IsSessions.opens`, `IsSessions.joins`: the two steps;
* `IsSessions.isChain`, `IsSessions.apart`: what follows within a group, and between
  successive groups of a key.
-/

namespace IncidentAwareness.Lib

variable {α κ : Type*} {key : α → κ} {r : α → α → Bool} {l : List α} {a : α}

theorem splitBy_snoc_of_not_rel (h : ∀ b ∈ l.getLast?, r b a = false) :
    (l ++ [a]).splitBy r = l.splitBy r ++ [[a]] :=
  List.splitBy_append_cons [] h

/-- An item that follows the last one joins the last group. -/
theorem splitBy_snoc_of_rel {gs : List (List α)} {g : List α} (hl : l.splitBy r = gs ++ [g])
    (h : ∀ b ∈ g.getLast?, r b a = true) : (l ++ [a]).splitBy r = gs ++ [g ++ [a]] := by
  obtain ⟨hflatten, hnonempty, hchain, hapart⟩ := List.splitBy_eq_iff.mp hl
  have hg : g ≠ [] := fun hg => hnonempty (by simp [hg])
  rw [List.splitBy_eq_iff]
  refine ⟨?_, ?_, ?_, ?_⟩
  · rw [hflatten]
    simp
  · intro hmem
    rcases List.mem_append.mp hmem with hmem | hmem
    · exact hnonempty (List.mem_append_left _ hmem)
    · simp at hmem
  · intro m hm
    rcases List.mem_append.mp hm with hm | hm
    · exact hchain m (List.mem_append_left _ hm)
    · rw [List.mem_singleton.mp hm, List.isChain_append]
      refine ⟨hchain g (by simp), List.isChain_singleton a, fun b hb c hc => ?_⟩
      rw [← Option.some.inj hc]
      exact h b hb
  · rw [List.isChain_append] at hapart ⊢
    refine ⟨hapart.1, List.isChain_singleton _, fun m hm m' hm' => ?_⟩
    obtain ⟨hm₀, hg₀, hrel⟩ := hapart.2.2 m hm g rfl
    obtain rfl : g ++ [a] = m' := Option.some.inj hm'
    refine ⟨hm₀, by simp, ?_⟩
    rw [List.head_append_of_ne_nil hg]
    exact hrel

/-- The key of a group, which its first item has. -/
def groupKey (key : α → κ) (g : List α) : Option κ := g.head?.map key

theorem groupKey_snoc {g : List α} (hg : g ≠ []) : groupKey key (g ++ [a]) = groupKey key g := by
  unfold groupKey
  rw [List.head?_append_of_ne_nil g hg]

variable [DecidableEq κ]

/-- The groups of the items `l`. -/
structure IsSessions (key : α → κ) (r : α → α → Bool) (l : List α) (gs : List (List α)) : Prop where
  nonempty : [] ∉ gs
  keyed : ∀ g ∈ gs, ∀ a ∈ g, groupKey key g = some (key a)
  split : ∀ k, (gs.filter fun g => groupKey key g = some k) = (l.filter fun a => key a = k).splitBy r
  perm : gs.flatten.Perm l

namespace IsSessions

variable {gs xs ys : List (List α)} {g : List α}

theorem nil : IsSessions key r [] [] where
  nonempty := List.not_mem_nil
  keyed _ hg := absurd hg List.not_mem_nil
  split _ := rfl
  perm := List.Perm.nil

theorem filter_eq_flatten (h : IsSessions key r l gs) (k : κ) :
    (l.filter fun a => key a = k) = (gs.filter fun g => groupKey key g = some k).flatten := by
  rw [h.split, List.flatten_splitBy]

theorem filter_last (hg : groupKey key g = some (key a))
    (hys : ∀ g' ∈ ys, groupKey key g' ≠ some (key a)) :
    ((xs ++ g :: ys).filter fun g => groupKey key g = some (key a)) =
      (xs.filter fun g => groupKey key g = some (key a)) ++ [g] := by
  rw [List.filter_append, List.filter_cons_of_pos (by simpa using hg)]
  congr 2
  rw [List.filter_eq_nil_iff]
  exact fun g' hg' => by simpa using hys g' hg'

/-- The last item of a key is that of its last group. -/
theorem getLast?_filter (h : IsSessions key r l (xs ++ g :: ys))
    (hg : groupKey key g = some (key a)) (hys : ∀ g' ∈ ys, groupKey key g' ≠ some (key a)) :
    (l.filter fun b => key b = key a).getLast? = g.getLast? := by
  have hne : g ≠ [] := fun hg' => h.nonempty (by simp [hg'])
  rw [h.filter_eq_flatten, filter_last hg hys, List.flatten_append, List.flatten_singleton,
    List.getLast?_append_of_ne_nil _ hne]

/-- An item that does not follow the last one of its key opens a group. -/
theorem opens (h : IsSessions key r l gs)
    (hr : ∀ b ∈ (l.filter fun b => key b = key a).getLast?, r b a = false) :
    IsSessions key r (l ++ [a]) (gs ++ [[a]]) where
  nonempty hmem := by
    rcases List.mem_append.mp hmem with hmem | hmem
    · exact h.nonempty hmem
    · simp at hmem
  keyed g hg b hb := by
    rcases List.mem_append.mp hg with hg | hg
    · exact h.keyed g hg b hb
    · rw [List.mem_singleton.mp hg] at hb ⊢
      rw [List.mem_singleton.mp hb]
      rfl
  split k := by
    rw [List.filter_append, List.filter_append, h.split]
    by_cases hk : key a = k
    · subst hk
      rw [List.filter_cons_of_pos (by simp [groupKey]), List.filter_cons_of_pos (by simp),
        List.filter_nil, List.filter_nil, splitBy_snoc_of_not_rel hr]
    · rw [List.filter_cons_of_neg (by simpa [groupKey] using hk),
        List.filter_cons_of_neg (by simpa using hk), List.filter_nil, List.filter_nil,
        List.append_nil, List.append_nil]
  perm := by
    rw [List.flatten_append, List.flatten_singleton]
    exact h.perm.append_right [a]

/-- An item that follows the last one of its key joins its group. -/
theorem joins (h : IsSessions key r l (xs ++ g :: ys)) (hg : groupKey key g = some (key a))
    (hys : ∀ g' ∈ ys, groupKey key g' ≠ some (key a)) (hr : ∀ b ∈ g.getLast?, r b a = true) :
    IsSessions key r (l ++ [a]) (xs ++ (g ++ [a]) :: ys) := by
  have hne : g ≠ [] := fun hg' => h.nonempty (by simp [hg'])
  have hkey : groupKey key (g ++ [a]) = groupKey key g := groupKey_snoc hne
  have hg' : groupKey key (g ++ [a]) = some (key a) := by rw [hkey, hg]
  refine ⟨?_, ?_, ?_, ?_⟩
  · intro hmem
    have hnonempty := h.nonempty
    simp only [List.mem_append, List.mem_cons] at hmem hnonempty
    rcases hmem with hmem | hmem | hmem
    · exact hnonempty (.inl hmem)
    · simp at hmem
    · exact hnonempty (.inr (.inr hmem))
  · intro m hm b hb
    simp only [List.mem_append, List.mem_cons] at hm
    rcases hm with hm | rfl | hm
    · exact h.keyed m (by simp [hm]) b hb
    · rw [hkey]
      rcases List.mem_append.mp hb with hb | hb
      · exact h.keyed g (by simp) b hb
      · rw [List.mem_singleton.mp hb, hg]
    · exact h.keyed m (by simp [hm]) b hb
  · intro k
    by_cases hk : key a = k
    · subst hk
      have hsplit := h.split (key a)
      rw [filter_last hg hys] at hsplit
      rw [filter_last hg' hys, List.filter_append, List.filter_cons_of_pos (by simp),
        List.filter_nil, splitBy_snoc_of_rel hsplit.symm hr]
    · have hsplit := h.split k
      rw [List.filter_append, List.filter_cons_of_neg (by simpa [hg] using hk)] at hsplit
      have hitems : ((l ++ [a]).filter fun b => key b = k) = l.filter fun b => key b = k := by
        rw [List.filter_append, List.filter_cons_of_neg (by simpa using hk), List.filter_nil,
          List.append_nil]
      rw [hitems, List.filter_append, List.filter_cons_of_neg (by simpa [hg'] using hk), hsplit]
  · have hmoved : (xs ++ (g ++ [a]) :: ys).flatten.Perm ((xs ++ g :: ys).flatten ++ [a]) := by
      simp only [List.flatten_append, List.flatten_cons, List.append_assoc]
      have hswap : ([a] ++ ys.flatten).Perm (ys.flatten ++ [a]) := List.perm_append_comm
      exact (hswap.append_left g).append_left xs.flatten
    exact hmoved.trans (h.perm.append_right [a])

/-- Within a group every item follows the one before it. -/
theorem isChain (h : IsSessions key r l gs) (hg : g ∈ gs) : g.IsChain fun a b => r a b := by
  obtain ⟨b, hb⟩ := List.exists_mem_of_ne_nil g fun hnil => h.nonempty (hnil ▸ hg)
  refine List.isChain_of_mem_splitBy (r := r) (l := l.filter fun c => key c = key b) ?_
  rw [← h.split, List.mem_filter]
  exact ⟨hg, by simpa using h.keyed g hg b hb⟩

/-- The first item of a group does not follow the last one of the group before it under its key. -/
theorem apart (h : IsSessions key r l gs) (k : κ) :
    (gs.filter fun g => groupKey key g = some k).IsChain fun g g' =>
      ∃ hg hg', r (g.getLast hg) (g'.head hg') = false := by
  rw [h.split]
  exact List.isChain_getLast_head_splitBy r _

end IsSessions

end IncidentAwareness.Lib
