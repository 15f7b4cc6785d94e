import Mathlib.Data.List.Induction
import Mathlib.Data.List.Nodup
import Mathlib.Logic.ExistsUnique
import Mathlib.Logic.Relation
import Mathlib.Order.Lattice
import Mathlib.Tactic.Common

/-!
# Linear chains

Records with a key, each naming the key of at most one predecessor. A list is
`Linked` when every record names the one before it and the first names none. A
set of records `IsLinearChain` when the predecessor relation orders it linearly:
one root, one head, at most one successor each, no cycle, any two comparable.

* `linked_append_singleton`: a linked list grows at its head;
* `Linked.isLinearChain`: a linked list whose keys are distinct is a chain;
* `Linked.heads_eq`: the records that no record names are the last one;
* `Linked.eq_of_perm`: records are linked in one order only.
-/

namespace IncidentAwareness.Lib

variable {α κ : Type*} (key : α → κ) (pred : α → Option κ)

/-- `a` names `b` as its predecessor, both in `S`. -/
def Succeeds (S : Set α) (a b : α) : Prop := a ∈ S ∧ b ∈ S ∧ pred a = some (key b)

/-- The predecessor relation orders `S` as one chain. -/
structure IsLinearChain (S : Set α) : Prop where
  /-- A predecessor that is named is there. -/
  closed : ∀ a ∈ S, ∀ k, pred a = some k → ∃ b ∈ S, key b = k
  /-- One record names no predecessor. -/
  root : S.Nonempty → ∃! a, a ∈ S ∧ pred a = none
  /-- A record is named by one other at most. -/
  succ_unique : ∀ a b c, Succeeds key pred S b a → Succeeds key pred S c a → b = c
  /-- One record is named by no other. -/
  head : S.Nonempty → ∃! a, a ∈ S ∧ ∀ b ∈ S, pred b ≠ some (key a)
  acyclic : ∀ a, ¬ Relation.TransGen (Succeeds key pred S) a a
  /-- Of any two records one leads to the other. -/
  total : ∀ a ∈ S, ∀ b ∈ S, Relation.ReflTransGen (Succeeds key pred S) a b ∨
    Relation.ReflTransGen (Succeeds key pred S) b a

/-- Every record names the record before it, and the first names none. -/
def Linked (l : List α) : Prop :=
  ∀ i a, l[i]? = some a → pred a = (l.take i).getLast?.map key

variable {key pred}

@[simp] theorem linked_nil : Linked key pred [] := fun i a h => by simp at h

/-- A linked list grows by a record that names its last one. -/
theorem linked_append_singleton {l : List α} {a : α} :
    Linked key pred (l ++ [a]) ↔ Linked key pred l ∧ pred a = l.getLast?.map key := by
  constructor
  · intro h
    refine ⟨fun i b hb => ?_, ?_⟩
    · have hi := (List.getElem?_eq_some_iff.mp hb).1
      have := h i b (by rw [List.getElem?_append_left hi]; exact hb)
      rwa [List.take_append_of_le_length hi.le] at this
    · have := h l.length a (by simp)
      rwa [List.take_left] at this
  · rintro ⟨h, ha⟩ i b hb
    rcases lt_trichotomy i l.length with hi | hi | hi
    · rw [List.getElem?_append_left hi] at hb
      rw [List.take_append_of_le_length hi.le]
      exact h i b hb
    · subst hi
      rw [List.getElem?_concat_length, Option.some.injEq] at hb
      rw [List.take_left, ← hb, ha]
    · rw [List.getElem?_eq_none (by simp; omega)] at hb
      cases hb

namespace Linked

variable {l : List α} (h : Linked key pred l)
include h

theorem pred_getElem_zero (h0 : 0 < l.length) : pred l[0] = none := by
  simpa using h 0 l[0] (List.getElem?_eq_getElem h0)

theorem pred_getElem_succ {i : ℕ} (hi : i + 1 < l.length) : pred l[i + 1] = some (key l[i]) := by
  rw [h (i + 1) _ (List.getElem?_eq_getElem hi), List.getLast?_take]
  simp [List.getElem?_eq_getElem (Nat.lt_of_succ_lt hi)]

/-- Along a linked list with distinct keys, to succeed is to stand next. -/
theorem succeeds_iff (hnd : (l.map key).Nodup) {i j : ℕ} (hi : i < l.length) (hj : j < l.length) :
    Succeeds key pred {a | a ∈ l} l[i] l[j] ↔ i = j + 1 := by
  have hinj : ∀ {a b : ℕ} (ha : a < l.length) (hb : b < l.length), key l[a] = key l[b] → a = b := by
    intro a b ha hb hk
    have ha' : a < (l.map key).length := by simpa using ha
    have hb' : b < (l.map key).length := by simpa using hb
    have hm : (l.map key)[a] = (l.map key)[b] := by simpa using hk
    exact (List.Nodup.getElem_inj_iff hnd).mp hm
  constructor
  · rintro ⟨-, -, hp⟩
    cases i with
    | zero =>
      rw [h.pred_getElem_zero hi] at hp
      cases hp
    | succ i =>
      rw [h.pred_getElem_succ hi, Option.some.injEq] at hp
      rw [hinj _ _ hp]
  · rintro rfl
    exact ⟨List.getElem_mem hi, List.getElem_mem hj, h.pred_getElem_succ hi⟩

/-- A chain of successors moves towards the front of the list. -/
theorem lt_of_transGen (hnd : (l.map key).Nodup) {i : ℕ} (hi : i < l.length) {b : α}
    (ht : Relation.TransGen (Succeeds key pred {a | a ∈ l}) l[i] b) :
    ∃ (j : ℕ) (hj : j < l.length), l[j] = b ∧ j < i := by
  induction ht with
  | single hs =>
    obtain ⟨j, hj, rfl⟩ := List.getElem_of_mem hs.2.1
    have := (h.succeeds_iff hnd hi hj).mp hs
    exact ⟨j, hj, rfl, by omega⟩
  | tail _ hs ih =>
    obtain ⟨j, hj, rfl, hji⟩ := ih
    obtain ⟨k, hk, rfl⟩ := List.getElem_of_mem hs.2.1
    have := (h.succeeds_iff hnd hj hk).mp hs
    exact ⟨k, hk, rfl, by omega⟩

theorem reflTransGen (hnd : (l.map key).Nodup) (i : ℕ) {n : ℕ} (hi : i + n < l.length) :
    Relation.ReflTransGen (Succeeds key pred {a | a ∈ l}) l[i + n] l[i] := by
  induction n with
  | zero => exact .refl
  | succ n ih =>
    have hn : i + n < l.length := by omega
    have hs : Succeeds key pred {a | a ∈ l} l[i + (n + 1)] l[i + n] :=
      (h.succeeds_iff hnd hi hn).mpr rfl
    exact .head hs (ih hn)

/-- The position that no position succeeds is the last. -/
theorem forall_pred_ne_iff (hnd : (l.map key).Nodup) {i : ℕ} (hi : i < l.length) :
    (∀ b ∈ l, pred b ≠ some (key l[i])) ↔ i + 1 = l.length := by
  constructor
  · intro hb
    by_contra hne
    have hi' : i + 1 < l.length := by omega
    exact hb _ (List.getElem_mem hi') (h.pred_getElem_succ hi')
  · intro he b hb hp
    obtain ⟨j, hj, rfl⟩ := List.getElem_of_mem hb
    have := (h.succeeds_iff hnd hj hi).mp ⟨hb, List.getElem_mem hi, hp⟩
    omega

/-- A linked list with distinct keys is a linear chain. -/
theorem isLinearChain (hnd : (l.map key).Nodup) : IsLinearChain key pred {a | a ∈ l} where
  closed := by
    intro a ha k hk
    obtain ⟨i, hi, rfl⟩ := List.getElem_of_mem ha
    cases i with
    | zero =>
      rw [h.pred_getElem_zero hi] at hk
      cases hk
    | succ i =>
      rw [h.pred_getElem_succ hi, Option.some.injEq] at hk
      exact ⟨l[i], List.getElem_mem _, hk⟩
  root := by
    rintro ⟨a, ha⟩
    have h0 : 0 < l.length := List.length_pos_of_mem ha
    refine ⟨l[0], ⟨List.getElem_mem h0, h.pred_getElem_zero h0⟩, ?_⟩
    rintro b ⟨hb, hn⟩
    obtain ⟨j, hj, rfl⟩ := List.getElem_of_mem hb
    cases j with
    | zero => rfl
    | succ j =>
      rw [h.pred_getElem_succ hj] at hn
      cases hn
  succ_unique := by
    intro a b c hb hc
    obtain ⟨i, hi, rfl⟩ := List.getElem_of_mem hb.2.1
    obtain ⟨j, hj, rfl⟩ := List.getElem_of_mem hb.1
    obtain ⟨k, hk, rfl⟩ := List.getElem_of_mem hc.1
    have hji := (h.succeeds_iff hnd hj hi).mp hb
    have hki := (h.succeeds_iff hnd hk hi).mp hc
    simp only [hji, hki]
  head := by
    rintro ⟨a, ha⟩
    have h0 : 0 < l.length := List.length_pos_of_mem ha
    have hlast : l.length - 1 < l.length := by omega
    refine ⟨l[l.length - 1], ⟨List.getElem_mem hlast,
      (h.forall_pred_ne_iff hnd hlast).mpr (by omega)⟩, ?_⟩
    rintro b ⟨hb, hn⟩
    obtain ⟨j, hj, rfl⟩ := List.getElem_of_mem hb
    have hje := (h.forall_pred_ne_iff hnd hj).mp hn
    have : j = l.length - 1 := by omega
    simp only [this]
  acyclic := by
    intro a ht
    have ha : a ∈ l := by
      cases ht with
      | single hs => exact hs.2.1
      | tail _ hs => exact hs.2.1
    obtain ⟨i, hi, rfl⟩ := List.getElem_of_mem ha
    obtain ⟨j, hj, he, hlt⟩ := h.lt_of_transGen hnd hi ht
    have hij := (List.Nodup.getElem_inj_iff hnd.of_map).mp he
    omega
  total := by
    intro a ha b hb
    obtain ⟨i, hi, rfl⟩ := List.getElem_of_mem ha
    obtain ⟨j, hj, rfl⟩ := List.getElem_of_mem hb
    rcases le_total i j with hij | hij
    · obtain ⟨n, rfl⟩ := Nat.exists_eq_add_of_le hij
      exact .inr (h.reflTransGen hnd i hj)
    · obtain ⟨n, rfl⟩ := Nat.exists_eq_add_of_le hij
      exact .inl (h.reflTransGen hnd j hi)

/-- The records that no record names are the last one alone. -/
theorem heads_eq [DecidableEq κ] (hnd : (l.map key).Nodup) :
    l.filter (fun a => ∀ b ∈ l, pred b ≠ some (key a)) = l.getLast?.toList := by
  rcases List.eq_nil_or_concat' l with rfl | ⟨l', a, rfl⟩
  · rfl
  have hlen : (l' ++ [a]).length = l'.length + 1 := by simp
  have hrest : l'.filter (fun a' => ∀ b ∈ l' ++ [a], pred b ≠ some (key a')) = [] := by
    rw [List.filter_eq_nil_iff]
    intro b hb hn
    obtain ⟨i, hi, rfl⟩ := List.getElem_of_mem hb
    have hi' : i < (l' ++ [a]).length := by omega
    have hg : (l' ++ [a])[i] = l'[i] := List.getElem_append_left hi
    rw [← hg] at hn
    have := (h.forall_pred_ne_iff hnd hi').mp (of_decide_eq_true hn)
    omega
  have hlast : ∀ b ∈ l' ++ [a], pred b ≠ some (key a) := by
    have hn : l'.length < (l' ++ [a]).length := by omega
    have := (h.forall_pred_ne_iff hnd hn).mpr hlen.symm
    simpa using this
  rw [List.filter_append, hrest, List.filter_singleton, decide_eq_true hlast]
  simp

end Linked

/-- Records in the same order are linked in one way only. -/
theorem Linked.eq_of_perm [DecidableEq κ] {l l' : List α} (h : Linked key pred l) (h' : Linked key pred l')
    (hnd : (l.map key).Nodup) (hperm : l.Perm l') : l = l' := by
  induction l using List.reverseRecOn generalizing l' with
  | nil => exact (List.nil_perm.mp hperm).symm
  | append_singleton l a ih =>
    rcases List.eq_nil_or_concat' l' with rfl | ⟨l'', b, rfl⟩
    · exact absurd (List.perm_nil.mp hperm) (by simp)
    · have hnd' : ((l'' ++ [b]).map key).Nodup := (hperm.map key).nodup_iff.mp hnd
      have hheads := h.heads_eq hnd
      have hheads' := h'.heads_eq hnd'
      have hfilter := hperm.filter fun a' => decide (∀ c ∈ l ++ [a], pred c ≠ some (key a'))
      have hsame : ((l'' ++ [b]).filter fun a' => decide (∀ c ∈ l ++ [a], pred c ≠ some (key a'))) =
          (l'' ++ [b]).filter fun a' => decide (∀ c ∈ l'' ++ [b], pred c ≠ some (key a')) :=
        List.filter_congr fun c _ => by simp only [hperm.mem_iff]
      rw [hheads, hsame, hheads', List.getLast?_concat, List.getLast?_concat] at hfilter
      obtain rfl : b = a := by simpa using hfilter.symm
      have hrest : l.Perm l'' := (List.perm_append_right_iff _).mp hperm
      rw [List.map_append] at hnd
      rw [ih (linked_append_singleton.mp h).1 (linked_append_singleton.mp h').1
        (List.nodup_append.mp hnd).1 hrest]

end IncidentAwareness.Lib
