import IncidentAwareness.Lib.Table
import Mathlib.Data.List.Nodup
import Mathlib.Tactic.Common

/-!
# First-seen dictionaries

A loop over elements that keeps the first value under every key, and raises where an
element has another value than the first one of its key (`seen.setdefault(key, value)`).
It returns exactly where the elements of one key have one value, so the order of the
elements does not show.

* `holds_claim`: what is seen after one more element;
* `exists_claim`: an element whose value is that of its key is let through;
* `Seen.Holds.agrees`: what is seen of elements is a function of their keys.

A table that gathers the items of groups, where a group writes the items whose keys are
free: `gathers_upsert`, what it has after one more group.
-/

namespace IncidentAwareness.Lib

variable {α κ ν ε : Type} {key : α → Option κ} {value : α → ν} {l l' : List α} {a : α} {e : ε}

/-- The keys that have been seen, with their first values. -/
abbrev Seen (κ ν : Type) := List (κ × ν)

/-- Elements with one key have one value. -/
def Agrees (key : α → Option κ) (value : α → ν) (l : List α) : Prop :=
  ∀ a ∈ l, ∀ b ∈ l, ∀ k, key a = some k → key b = some k → value a = value b

theorem Agrees.subset (h : Agrees key value l') (hsub : l ⊆ l') : Agrees key value l :=
  fun a ha b hb => h a (hsub ha) b (hsub hb)

section Holds

variable [DecidableEq κ] {seen seen' : Seen κ ν}

/-- What is seen is what the elements have. -/
def Seen.Holds (seen : Seen κ ν) (key : α → Option κ) (value : α → ν) (l : List α) : Prop :=
  ∀ k v, seen.lookup k = some v ↔ ∃ a ∈ l, key a = some k ∧ value a = v

theorem holds_nil (key : α → Option κ) (value : α → ν) :
    Seen.Holds ([] : Seen κ ν) key value [] := by
  intro k v
  simp

theorem Seen.Holds.agrees (h : seen.Holds key value l) : Agrees key value l := by
  intro a ha b hb k hka hkb
  have hva := (h k (value a)).mpr ⟨a, ha, hka, rfl⟩
  have hvb := (h k (value b)).mpr ⟨b, hb, hkb, rfl⟩
  exact Option.some.inj (hva.symm.trans hvb)

variable [DecidableEq ν]

/-- `previous = seen.setdefault(k, v)`, and the raise where `previous` is another value. An
element without a key is passed over. -/
def Seen.claim (seen : Seen κ ν) (k : Option κ) (v : ν) (e : ε) : Except ε (Seen κ ν) :=
  match k with
  | none => .ok seen
  | some k =>
    match seen.lookup k with
    | none => .ok ((k, v) :: seen)
    | some previous => if previous = v then .ok seen else .error e

/-- What is seen after one more element. -/
theorem holds_claim (h : seen.Holds key value l)
    (hclaim : seen.claim (key a) (value a) e = .ok seen') : seen'.Holds key value (l ++ [a]) := by
  have hlast : ∀ k v, (∃ b ∈ l ++ [a], key b = some k ∧ value b = v) ↔
      seen.lookup k = some v ∨ key a = some k ∧ value a = v := by
    intro k v
    rw [h k v]
    simp [or_and_right, exists_or]
  intro k v
  rw [hlast]
  unfold Seen.claim at hclaim
  cases hkey : key a with
  | none =>
    rw [hkey] at hclaim
    obtain rfl := Except.ok.inj hclaim
    simp
  | some k' =>
    rw [hkey] at hclaim
    dsimp only at hclaim
    cases hseen : seen.lookup k' with
    | none =>
      rw [hseen] at hclaim
      obtain rfl := Except.ok.inj hclaim
      rw [List.lookup_cons]
      by_cases hk : k = k'
      · rw [hk, hseen]
        simp
      · have hbeq : (k == k') = false := by simpa using hk
        rw [hbeq]
        simp [Ne.symm hk]
    | some previous =>
      rw [hseen] at hclaim
      dsimp only at hclaim
      by_cases hvalue : previous = value a
      · rw [if_pos hvalue] at hclaim
        obtain rfl := Except.ok.inj hclaim
        constructor
        · exact .inl
        · rintro (hk | ⟨hk, hv⟩)
          · exact hk
          · rw [← Option.some.inj hk, hseen, hvalue, hv]
      · rw [if_neg hvalue] at hclaim
        exact absurd hclaim (by simp)

/-- An element whose value is that of its key is let through. -/
theorem exists_claim (h : seen.Holds key value l) (hagrees : Agrees key value (l ++ [a])) :
    ∃ seen', seen.claim (key a) (value a) e = .ok seen' := by
  unfold Seen.claim
  cases hkey : key a with
  | none => exact ⟨seen, rfl⟩
  | some k =>
    dsimp only
    cases hseen : seen.lookup k with
    | none => exact ⟨_, rfl⟩
    | some previous =>
      dsimp only
      obtain ⟨b, hb, hkb, hvb⟩ := (h k previous).mp hseen
      have hsame : previous = value a := by
        rw [← hvb]
        exact hagrees b (List.mem_append_left _ hb) a (List.mem_append_right _ (by simp)) k hkb hkey
      exact ⟨seen, if_pos hsame⟩

end Holds

/-! ## Items of groups -/

section Gathers

variable {γ ι : Type} {items : γ → List ι} {key : γ → ι → κ} {value : ι → ν} {groups : List γ}
  {g : γ} {d : Table (SameKey (Prod.fst : κ × ν → κ))}

/-- The table has the items of the groups under their keys. -/
def Gathers (items : γ → List ι) (key : γ → ι → κ) (value : ι → ν) (groups : List γ)
    (d : Table (SameKey (Prod.fst : κ × ν → κ))) : Prop :=
  ∀ k v, (k, v) ∈ d ↔ ∃ g ∈ groups, ∃ i ∈ items g, key g i = k ∧ value i = v

theorem gathers_empty (items : γ → List ι) (key : γ → ι → κ) (value : ι → ν) :
    Gathers items key value [] .empty := by
  intro k v
  simp

/-- A group whose items the table has already. -/
theorem Gathers.snoc_of_mem (h : Gathers items key value groups d)
    (hold : ∀ i ∈ items g, (key g i, value i) ∈ d) : Gathers items key value (groups ++ [g]) d := by
  intro k v
  constructor
  · intro hmem
    obtain ⟨g', hg', hitem⟩ := (h k v).mp hmem
    exact ⟨g', List.mem_append_left _ hg', hitem⟩
  · rintro ⟨g', hg', i, hi, rfl, rfl⟩
    rcases List.mem_append.mp hg' with hg' | hg'
    · exact (h _ _).mpr ⟨g', hg', i, hi, rfl, rfl⟩
    · rw [List.mem_singleton.mp hg'] at hi ⊢
      exact hold i hi

/-- A group that writes the items that the table has not. -/
theorem gathers_upsert [DecidableEq κ] (h : Gathers items key value groups d) {new : List ι}
    (hnodup : (new.map (key g)).Nodup) (hnew : ∀ i ∈ new, i ∈ items g ∧ ∀ v, (key g i, v) ∉ d)
    (hold : ∀ i ∈ items g, i ∉ new → (key g i, value i) ∈ d) :
    Gathers items key value (groups ++ [g])
      ((new.map fun i => (key g i, value i)).foldl Table.upsert d) := by
  have hkeys : ((new.map fun i => (key g i, value i)).map Prod.fst).Nodup := by
    rw [List.map_map]
    exact hnodup
  -- What the table has is under none of the new keys.
  have hkept : ∀ k v, (k, v) ∈ d → ∀ r ∈ new.map (fun i => (key g i, value i)), k ≠ r.1 := by
    rintro k v hmem r hr rfl
    obtain ⟨i, hi, rfl⟩ := List.mem_map.mp hr
    exact (hnew i hi).2 v hmem
  intro k v
  rw [Table.mem_foldl_upsert hkeys]
  constructor
  · rintro (hr | ⟨hmem, -⟩)
    · obtain ⟨i, hi, heq⟩ := List.mem_map.mp hr
      obtain ⟨rfl, rfl⟩ := Prod.mk.inj heq
      exact ⟨g, List.mem_append_right _ (List.mem_singleton_self g), i, (hnew i hi).1, rfl, rfl⟩
    · obtain ⟨g', hg', hitem⟩ := (h k v).mp hmem
      exact ⟨g', List.mem_append_left _ hg', hitem⟩
  · rintro ⟨g', hg', i, hi, rfl, rfl⟩
    rcases List.mem_append.mp hg' with hg' | hg'
    · have hmem := (h _ _).mpr ⟨g', hg', i, hi, rfl, rfl⟩
      exact .inr ⟨hmem, hkept _ _ hmem⟩
    · rw [List.mem_singleton.mp hg'] at hi ⊢
      by_cases hin : i ∈ new
      · exact .inl (List.mem_map.mpr ⟨i, hin, rfl⟩)
      · exact .inr ⟨hold i hi hin, hkept _ _ (hold i hi hin)⟩

/-- A group of one item that the table has not, or has with its value. -/
theorem Gathers.upsert_single [DecidableEq κ] (h : Gathers items key value groups d) {i : ι}
    (hitems : items g = [i]) (hagree : ∀ v, (key g i, v) ∈ d → v = value i) :
    Gathers items key value (groups ++ [g]) (d.upsert (key g i, value i)) := by
  intro k v
  rw [Table.mem_upsert]
  constructor
  · rintro (heq | ⟨hmem, -⟩)
    · obtain ⟨rfl, rfl⟩ := Prod.mk.inj heq
      refine ⟨g, List.mem_append_right _ (List.mem_singleton_self g), i, ?_, rfl, rfl⟩
      rw [hitems]
      exact List.mem_singleton_self i
    · obtain ⟨g', hg', hitem⟩ := (h k v).mp hmem
      exact ⟨g', List.mem_append_left _ hg', hitem⟩
  · rintro ⟨g', hg', j, hj, rfl, rfl⟩
    rcases List.mem_append.mp hg' with hg' | hg'
    · have hmem := (h _ _).mpr ⟨g', hg', j, hj, rfl, rfl⟩
      by_cases hkey : key g' j = key g i
      · rw [hkey] at hmem ⊢
        rw [hagree _ hmem]
        exact .inl rfl
      · exact .inr ⟨hmem, hkey⟩
    · rw [List.mem_singleton.mp hg'] at hj ⊢
      rw [hitems] at hj
      rw [List.mem_singleton.mp hj]
      exact .inl rfl

end Gathers

/-! ## Tables with the same rows -/

section SameRows

variable {ρ : Type} {rowKey : ρ → κ} {d d' : Table (SameKey rowKey)}

/-- The tables have the same rows, in whichever order. -/
def SameRows (d d' : Table (SameKey rowKey)) : Prop := ∀ r, r ∈ d ↔ r ∈ d'

theorem SameRows.perm (h : SameRows d d') : d.rows.Perm d'.rows :=
  (List.perm_ext_iff_of_nodup (List.Nodup.of_map _ d.key_nodup)
    (List.Nodup.of_map _ d'.key_nodup)).mpr h

theorem SameRows.get [DecidableEq κ] (h : SameRows d d') (k : κ) : d.get k = d'.get k := by
  refine Option.ext fun r => ?_
  rw [Table.get_eq_some, Table.get_eq_some, h r]

theorem SameRows.upsert [DecidableEq κ] (h : SameRows d d') (r : ρ) :
    SameRows (d.upsert r) (d'.upsert r) := by
  intro a
  rw [Table.mem_upsert, Table.mem_upsert, h a]

end SameRows

/-- Two tables that gather the same groups have the same rows. -/
theorem Gathers.sameRows {γ ι : Type} {items : γ → List ι} {key : γ → ι → κ} {value : ι → ν}
    {groups groups' : List γ} {d d' : Table (SameKey (Prod.fst : κ × ν → κ))}
    (h : Gathers items key value groups d) (h' : Gathers items key value groups' d')
    (hgroups : ∀ g, g ∈ groups ↔ g ∈ groups') : SameRows d d' := by
  rintro ⟨k, v⟩
  rw [h k v, h' k v]
  simp only [hgroups]

end IncidentAwareness.Lib
