import Mathlib.Data.List.Sort

/-!
# Canonical orders

`sorted(xs, key=key)` (`sortedBy`), and what makes it canonical: where the key
tells the elements apart, the sorted list is the same for every order in which
they come (`sortedBy_eq_of_perm`), so for every list with the same elements
(`sortedBy_eq_of_mem_iff`), and for no others (`sortedBy_eq_iff`). `firstBy` is what a
dict keeps under `setdefault(key, x)`: of every key the first element.
-/

namespace IncidentAwareness.Lib

variable {α κ : Type*} [LinearOrder κ] {key : α → κ} {l l' : List α}

/-- `sorted(xs, key=key)`; elements with equal keys keep their order. -/
def sortedBy (key : α → κ) (l : List α) : List α :=
  l.insertionSort fun a b => key a ≤ key b

@[simp] theorem sortedBy_nil : sortedBy key [] = [] := rfl

theorem sortedBy_perm (key : α → κ) (l : List α) : (sortedBy key l).Perm l :=
  List.perm_insertionSort _ l

@[simp] theorem mem_sortedBy {a : α} : a ∈ sortedBy key l ↔ a ∈ l :=
  List.mem_insertionSort _

theorem sortedBy_pairwise (key : α → κ) (l : List α) :
    (sortedBy key l).Pairwise fun a b => key a ≤ key b := by
  have htotal : Std.Total fun a b : α => key a ≤ key b := ⟨fun a b => le_total (key a) (key b)⟩
  have htrans : IsTrans α fun a b => key a ≤ key b := ⟨fun _ _ _ => le_trans⟩
  exact List.pairwise_insertionSort _ l

/-- The order in which the elements come does not show in the sorted list, where
their keys tell them apart. -/
theorem sortedBy_eq_of_perm (hkey : ∀ a ∈ l, ∀ b ∈ l, key a = key b → a = b) (h : l.Perm l') :
    sortedBy key l = sortedBy key l' := by
  have hp : (sortedBy key l).Perm (sortedBy key l') :=
    (sortedBy_perm key l).trans (h.trans (sortedBy_perm key l').symm)
  refine List.Perm.eq_of_pairwise ?_ (sortedBy_pairwise key l) (sortedBy_pairwise key l') hp
  intro a b ha hb hab hba
  refine hkey a (mem_sortedBy.mp ha) b ?_ (le_antisymm hab hba)
  exact h.mem_iff.mpr (mem_sortedBy.mp hb)

/-- Lists without repetition that have the same elements sort alike. -/
theorem sortedBy_eq_of_mem_iff (hkey : ∀ a ∈ l, ∀ b ∈ l, key a = key b → a = b) (hl : l.Nodup)
    (hl' : l'.Nodup) (h : ∀ a, a ∈ l ↔ a ∈ l') : sortedBy key l = sortedBy key l' :=
  sortedBy_eq_of_perm hkey ((List.perm_ext_iff_of_nodup hl hl').mpr h)

/-- Sorted lists whose keys tell the elements apart are equal where only the order differs. -/
theorem sortedBy_eq_iff (hkey : ∀ a ∈ l, ∀ b ∈ l, key a = key b → a = b) :
    sortedBy key l = sortedBy key l' ↔ l.Perm l' := by
  constructor
  · intro heq
    exact (sortedBy_perm key l).symm.trans (heq ▸ sortedBy_perm key l')
  · exact sortedBy_eq_of_perm hkey

theorem sortedBy_eq_iff_of_injective (hkey : Function.Injective key) :
    sortedBy key l = sortedBy key l' ↔ l.Perm l' :=
  sortedBy_eq_iff fun _ _ _ _ hab => hkey hab

theorem sortedBy_eq_iff_of_nodup (h : (l.map key).Nodup) :
    sortedBy key l = sortedBy key l' ↔ l.Perm l' :=
  sortedBy_eq_iff fun _ ha _ hb hab => List.inj_on_of_nodup_map h ha hb hab

/-- What sorted rows show is the same where each row of one list has one of the other under its key
that shows the same. -/
theorem map_sortedBy_eq {β : Type*} {f : α → β}
    (hl : (l.map key).Nodup) (hl' : (l'.map key).Nodup)
    (h : ∀ a ∈ l, ∃ a' ∈ l', key a' = key a ∧ f a' = f a)
    (h' : ∀ a' ∈ l', ∃ a ∈ l, key a = key a' ∧ f a = f a') :
    (sortedBy key l).map f = (sortedBy key l').map f := by
  have hpair : ∀ l : List α, (sortedBy key l).map (fun a => (key a, f a)) =
      sortedBy Prod.fst (l.map fun a => (key a, f a)) := fun l =>
    List.map_insertionSort _ _ _ l fun _ _ _ _ => Iff.rfl
  have hnodup : ∀ {l : List α}, (l.map key).Nodup →
      ((l.map fun a => (key a, f a)).map Prod.fst).Nodup := by
    intro l hnd
    rw [List.map_map]
    exact hnd
  have hmem : ∀ p, p ∈ l.map (fun a => (key a, f a)) ↔ p ∈ l'.map fun a => (key a, f a) := by
    intro p
    simp only [List.mem_map]
    constructor
    · rintro ⟨a, ha, rfl⟩
      obtain ⟨a', ha', hk, hf⟩ := h a ha
      exact ⟨a', ha', by rw [hk, hf]⟩
    · rintro ⟨a', ha', rfl⟩
      obtain ⟨a, ha, hk, hf⟩ := h' a' ha'
      exact ⟨a, ha, by rw [hk, hf]⟩
  have heq := @sortedBy_eq_of_mem_iff _ _ _ Prod.fst _ _
    (fun a ha b hb hab => List.inj_on_of_nodup_map (hnodup hl) ha hb hab)
    (hnodup hl).of_map (hnodup hl').of_map hmem
  rw [← hpair l, ← hpair l'] at heq
  have hsnd := congrArg (List.map Prod.snd) heq
  rwa [List.map_map, List.map_map] at hsnd

/-! ## Where the order does not show -/

/-- The one element that passes is found in every order. -/
theorem find?_eq_of_perm {α : Type*} {p : α → Bool} {l l' : List α}
    (hunique : ∀ a ∈ l, ∀ b ∈ l, p a → p b → a = b) (h : l.Perm l') : l.find? p = l'.find? p := by
  cases hfind : l.find? p with
  | none =>
    rw [List.find?_eq_none] at hfind
    exact (List.find?_eq_none.mpr fun a ha => hfind a (h.mem_iff.mpr ha)).symm
  | some a =>
    have ha := List.mem_of_find?_eq_some hfind
    have hpa := List.find?_some hfind
    cases hfind' : l'.find? p with
    | none => exact absurd hpa (List.find?_eq_none.mp hfind' a (h.mem_iff.mp ha))
    | some b =>
      have hb := h.mem_iff.mpr (List.mem_of_find?_eq_some hfind')
      rw [hunique a ha b hb hpa (List.find?_some hfind')]

/-- Where what passes comes before what does not, the filter is a prefix. -/
theorem filter_prefix_of_pairwise {α : Type*} {p : α → Bool} {l : List α}
    (h : l.Pairwise fun a b => p b → p a) : l.filter p <+: l := by
  induction l with
  | nil => exact List.prefix_rfl
  | cons a l ih =>
    obtain ⟨hfirst, hrest⟩ := List.pairwise_cons.mp h
    by_cases hpa : p a
    · rw [List.filter_cons_of_pos hpa, List.prefix_cons_inj]
      exact ih hrest
    · have hnil : (a :: l).filter p = [] := by
        rw [List.filter_cons_of_neg hpa]
        exact List.filter_eq_nil_iff.mpr fun b hb hpb => hpa (hfirst b hb hpb)
      rw [hnil]
      exact List.nil_prefix

/-! ## The first of every key -/

section FirstBy

variable {α κ : Type*} [DecidableEq κ] {key : α → κ} {l : List α}

/-- The values of a dict after `setdefault(key(x), x)` for every element. -/
def firstBy (key : α → κ) : List α → List α
  | [] => []
  | a :: l => a :: (firstBy key l).filter fun b => key b ≠ key a

@[simp] theorem firstBy_nil : firstBy key [] = [] := rfl

theorem mem_of_mem_firstBy {a : α} (h : a ∈ firstBy key l) : a ∈ l := by
  induction l with
  | nil => simp at h
  | cons b l ih =>
    rw [firstBy, List.mem_cons, List.mem_filter] at h
    exact List.mem_cons.mpr (h.imp_right fun h => ih h.1)

/-- Where the key tells the elements apart, the first of every key are all. -/
theorem mem_firstBy_iff (hkey : ∀ a ∈ l, ∀ b ∈ l, key a = key b → a = b) {a : α} :
    a ∈ firstBy key l ↔ a ∈ l := by
  refine ⟨mem_of_mem_firstBy, fun h => ?_⟩
  induction l with
  | nil => exact h
  | cons b l ih =>
    rw [firstBy, List.mem_cons, List.mem_filter]
    by_cases hab : key a = key b
    · exact .inl (hkey a h b List.mem_cons_self hab)
    · have hal : a ∈ l := (List.mem_cons.mp h).resolve_left fun e => hab (congrArg key e)
      refine .inr ⟨ih (fun c hc d hd => ?_) hal, by simpa using hab⟩
      exact hkey c (List.mem_cons_of_mem b hc) d (List.mem_cons_of_mem b hd)

theorem firstBy_keys_nodup (key : α → κ) (l : List α) : ((firstBy key l).map key).Nodup := by
  induction l with
  | nil => exact List.nodup_nil
  | cons b l ih =>
    rw [firstBy, List.map_cons, List.nodup_cons]
    refine ⟨by simp, ?_⟩
    exact ih.sublist (List.filter_sublist.map key)

/-- A list without repeated keys is kept whole. -/
theorem firstBy_eq_self (h : (l.map key).Nodup) : firstBy key l = l := by
  induction l with
  | nil => rfl
  | cons b l ih =>
    rw [List.map_cons, List.nodup_cons] at h
    rw [firstBy, ih h.2, List.filter_eq_self.mpr]
    intro c hc
    have hne : key c ≠ key b := fun e => h.1 (e ▸ List.mem_map_of_mem hc)
    simpa using hne

end FirstBy

end IncidentAwareness.Lib
