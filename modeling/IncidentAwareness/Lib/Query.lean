import IncidentAwareness.Lib.Canonical
import Mathlib.Data.List.Dedup

/-!
# Grouped queries

What `JOIN … USING (key)` and `GROUP BY … ORDER BY` do to lists of rows.

* `joinOn_of_nodup`: a join on a primary key keeps a row once, where its key is
  there, and drops it elsewhere;
* `groupBy_eq_filterMap`: the groups of rows whose keys lie in an ordered range
  are those of the keys of the range that have a row.
-/

namespace IncidentAwareness.Lib

variable {α β γ κ : Type*}

section Join

variable [DecidableEq κ]

/-- The rows of `l`, once for each row of `keyed` with the same key. -/
def joinOn (key : α → κ) (key' : β → κ) (l : List α) (keyed : List β) : List α :=
  l.flatMap fun a => (keyed.filter fun b => key' b = key a).map fun _ => a

/-- Where the joined rows have distinct keys, a join filters. -/
theorem joinOn_of_nodup {key : α → κ} {key' : β → κ} {l : List α} {keyed : List β}
    (h : (keyed.map key').Nodup) :
    joinOn key key' l keyed = l.filter fun a => key a ∈ keyed.map key' := by
  have hone : ∀ k, (keyed.filter fun b => key' b = k).length = if k ∈ keyed.map key' then 1 else 0 := by
    intro k
    rw [← List.countP_eq_length_filter]
    have hcount : keyed.countP (fun b => key' b = k) = (keyed.map key').count k := by
      rw [List.count, List.countP_map]
      rfl
    rw [hcount]
    split
    · next hk => exact List.count_eq_one_of_mem h hk
    · next hk => exact List.count_eq_zero_of_not_mem hk
  unfold joinOn
  induction l with
  | nil => rfl
  | cons a l ih =>
    rw [List.flatMap_cons, ih, List.map_const', hone]
    by_cases hk : key a ∈ keyed.map key'
    · rw [if_pos hk, List.filter_cons_of_pos (by simpa using hk)]
      rfl
    · rw [if_neg hk, List.filter_cons_of_neg (by simpa using hk)]
      rfl

end Join

section Group

variable [LinearOrder κ]

/-- `SELECT … GROUP BY key ORDER BY key`: of every key the aggregate of its rows. -/
def groupBy (key : α → κ) (aggregate : κ → List α → γ) (l : List α) : List γ :=
  (sortedBy id (l.map key).dedup).map fun k => aggregate k (l.filter fun a => key a = k)

/-- The group of one key, when it has a row. -/
def groupAt (key : α → κ) (aggregate : κ → List α → γ) (l : List α) (k : κ) : Option γ :=
  if l.filter (fun a => key a = k) = [] then none
  else some (aggregate k (l.filter fun a => key a = k))

/-- Grouping is reading the groups of an ordered range that has all keys. -/
theorem groupBy_eq_filterMap {key : α → κ} {aggregate : κ → List α → γ} {l : List α} {keys : List κ}
    (hsorted : keys.Pairwise (· < ·)) (hkeys : ∀ a ∈ l, key a ∈ keys) :
    groupBy key aggregate l = keys.filterMap (groupAt key aggregate l) := by
  have hsort : sortedBy id (l.map key).dedup = keys.filter fun k => k ∈ l.map key := by
    refine List.Perm.eq_of_pairwise (fun a b _ _ hab hba => le_antisymm hab hba)
      (sortedBy_pairwise id _) ((hsorted.filter _).imp fun h => le_of_lt h) ?_
    refine (sortedBy_perm id _).trans ?_
    have hnd : (keys.filter fun k => k ∈ l.map key).Nodup := by
      refine List.Nodup.filter _ ?_
      exact hsorted.imp fun h => ne_of_lt h
    rw [List.perm_ext_iff_of_nodup (List.nodup_dedup _) hnd]
    intro k
    rw [List.mem_dedup, List.mem_filter, decide_eq_true_eq]
    refine ⟨fun h => ⟨?_, h⟩, fun h => h.2⟩
    obtain ⟨a, ha, rfl⟩ := List.mem_map.mp h
    exact hkeys a ha
  have hempty : ∀ k, l.filter (fun a => key a = k) = [] ↔ k ∉ l.map key := by
    intro k
    rw [List.filter_eq_nil_iff, List.mem_map]
    constructor
    · rintro h ⟨a, ha, hk⟩
      exact h a ha (decide_eq_true hk)
    · intro h a ha hk
      exact h ⟨a, ha, of_decide_eq_true hk⟩
  unfold groupBy
  rw [hsort]
  clear hsorted hkeys hsort
  induction keys with
  | nil => rfl
  | cons k keys ih =>
    by_cases hk : k ∈ l.map key
    · have hgroup : groupAt key aggregate l k = some (aggregate k (l.filter fun a => key a = k)) :=
        if_neg fun h => (hempty k).mp h hk
      rw [List.filter_cons_of_pos (by simpa using hk), List.map_cons, ih,
        List.filterMap_cons_some hgroup]
    · have hgroup : groupAt key aggregate l k = none := if_pos ((hempty k).mpr hk)
      rw [List.filter_cons_of_neg (by simpa using hk), ih, List.filterMap_cons_none hgroup]

end Group

end IncidentAwareness.Lib
