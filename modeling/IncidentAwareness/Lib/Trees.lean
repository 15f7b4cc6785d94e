import IncidentAwareness.Lib.Table

/-!
# Trees of files

The entries of a directory tree under their paths, a path being the text of its
components with a separator between them. The entries below a directory are a tree of
their own (`subtree`), and a tree can be put in the place of what is below a directory
(`graft`), as a rename of a directory does.

* `node_put`, `node_remove`: what a write and a removal leave under every path;
* `subtree_graft`: a tree that is put below a directory is what is below it;
* `node_graft_of_below_none`: what is not below the directory stays.
-/

namespace IncidentAwareness.Lib

variable {α C : Type}

/-- The entries of a directory tree. -/
abbrev Tree (α C : Type) := Table (SameKey (Prod.fst : List α × C → List α))

namespace Tree

variable [DecidableEq α] {t u : Tree α C} {p q root : List α} {c c' : C}

/-- What is under a path. -/
def node (t : Tree α C) (p : List α) : Option C := (t.get p).map Prod.snd

/-- The tree with `c` under `p`. -/
def put (t : Tree α C) (p : List α) (c : C) : Tree α C := t.upsert (p, c)

/-- The tree without what is under `p`. -/
def remove (t : Tree α C) (p : List α) : Tree α C :=
  ⟨t.rows.filter fun r => r.1 ≠ p, t.unique.filter _⟩

@[simp] theorem node_empty : node (.empty : Tree α C) p = none := rfl

theorem node_eq_some : t.node p = some c ↔ (p, c) ∈ t.rows := by
  rw [node, Option.map_eq_some_iff]
  constructor
  · rintro ⟨r, hget, rfl⟩
    obtain ⟨hmem, rfl⟩ := Table.get_eq_some.mp hget
    exact hmem
  · intro h
    exact ⟨(p, c), Table.get_of_mem h, rfl⟩

theorem node_put : (t.put p c).node q = if q = p then some c else t.node q := by
  rw [node, put, Table.get_upsert]
  split
  · rfl
  · rfl

theorem node_remove : (t.remove p).node q = if q = p then none else t.node q := by
  refine Option.ext fun a => ?_
  have hmem : (q, a) ∈ (t.remove p).rows ↔ (q, a) ∈ t.rows ∧ q ≠ p := by
    rw [remove, List.mem_filter, decide_eq_true_eq]
  rw [node_eq_some, hmem]
  split
  · rename_i hq
    simp [hq]
  · rename_i hq
    rw [node_eq_some]
    simp [hq]

/-- A tree of the entries of a list with distinct paths. -/
theorem node_foldl_put {entries : List (List α × C)} (hnd : (entries.map Prod.fst).Nodup) :
    (entries.foldl (fun t e => t.put e.1 e.2) t).node p = some c ↔
      (p, c) ∈ entries ∨ t.node p = some c ∧ ∀ e ∈ entries, e.1 ≠ p := by
  have hmem := Table.mem_foldl_upsert (t := t) hnd (a := (p, c))
  rw [node_eq_some, node_eq_some]
  refine hmem.trans (or_congr Iff.rfl (and_congr Iff.rfl ?_))
  exact forall₂_congr fun e _ => ⟨fun h => h.symm, fun h => h.symm⟩

theorem mem_of_node_foldl_put {entries : List (List α × C)}
    (h : (entries.foldl (fun t e => t.put e.1 e.2) t).node p = some c) :
    (p, c) ∈ entries ∨ t.node p = some c := by
  induction entries generalizing t with
  | nil => exact .inr h
  | cons e entries ih =>
    rcases ih h with hmem | hnode
    · exact .inl (List.mem_cons_of_mem e hmem)
    · rw [node_put] at hnode
      split at hnode
      · rename_i hpath
        rw [hpath, ← Option.some.inj hnode]
        exact .inl List.mem_cons_self
      · exact .inr hnode

/-! ## Directories -/

variable (sep : α)

/-- The path from a directory to a path below it. -/
def below (root p : List α) : Option (List α) :=
  if root ++ [sep] <+: p then some (p.drop (root.length + 1)) else none

variable {sep}

theorem below_eq_some {rest : List α} : below sep root p = some rest ↔ p = root ++ sep :: rest := by
  rw [below]
  constructor
  · intro h
    split at h
    · rename_i hprefix
      obtain ⟨tail, rfl⟩ := hprefix
      obtain rfl := Option.some.inj h
      simp
    · exact absurd h (by simp)
  · rintro rfl
    rw [if_pos ⟨rest, by simp⟩]
    simp

theorem below_append (rest : List α) : below sep root (root ++ sep :: rest) = some rest :=
  below_eq_some.mpr rfl

variable (sep)

/-- The entries below a directory, under the paths from it. -/
def subtree (t : Tree α C) (root : List α) : Tree α C where
  rows := t.rows.filterMap fun r => (below sep root r.1).map (·, r.2)
  unique := by
    rw [List.pairwise_filterMap]
    refine t.unique.imp fun {a b} hab a' ha b' hb hkey => hab ?_
    obtain ⟨p, hp, rfl⟩ := Option.map_eq_some_iff.mp ha
    obtain ⟨q, hq, rfl⟩ := Option.map_eq_some_iff.mp hb
    have hpq : p = q := hkey
    show a.1 = b.1
    rw [below_eq_some.mp hp, below_eq_some.mp hq, hpq]

/-- `u` in the place of what is below a directory. -/
def graft (t : Tree α C) (root : List α) (u : Tree α C) : Tree α C where
  rows := t.rows.filter (fun r => (below sep root r.1).isNone) ++
    u.rows.map fun r => (root ++ sep :: r.1, r.2)
  unique := by
    rw [List.pairwise_append]
    refine ⟨t.unique.filter _, ?_, ?_⟩
    · rw [List.pairwise_map]
      refine u.unique.imp fun {a b} hab hkey => hab ?_
      have hkey' : root ++ sep :: a.1 = root ++ sep :: b.1 := hkey
      exact (List.cons.inj (List.append_cancel_left hkey')).2
    · intro a ha b hb hkey
      obtain ⟨r, -, rfl⟩ := List.mem_map.mp hb
      have hbelow : (below sep root a.1).isNone := (List.mem_filter.mp ha).2
      have hkey' : a.1 = root ++ sep :: r.1 := hkey
      rw [hkey', below_append] at hbelow
      exact absurd hbelow (by simp)

/-- Something is at a path, or below it. -/
def isThere (t : Tree α C) (p : List α) : Bool :=
  (t.node p).isSome || t.rows.any fun r => (below sep p r.1).isSome

variable {sep}

theorem node_subtree : (t.subtree sep root).node p = t.node (root ++ sep :: p) := by
  refine Option.ext fun a => ?_
  rw [node_eq_some, node_eq_some]
  constructor
  · intro h
    obtain ⟨r, hr, hbelow⟩ := List.mem_filterMap.mp h
    obtain ⟨q, hq, heq⟩ := Option.map_eq_some_iff.mp hbelow
    obtain ⟨rfl, rfl⟩ := Prod.mk.inj heq
    rwa [← below_eq_some.mp hq]
  · intro h
    refine List.mem_filterMap.mpr ⟨_, h, ?_⟩
    rw [below_append]
    rfl

/-- A tree that is put below a directory is what is below it. -/
theorem subtree_graft : (t.graft sep root u).subtree sep root = u := by
  refine Table.ext_rows ?_
  show List.filterMap _ (List.filter _ t.rows ++ List.map _ u.rows) = u.rows
  rw [List.filterMap_append, List.filterMap_map]
  have hnone : (t.rows.filter fun r => (below sep root r.1).isNone).filterMap
      (fun r => (below sep root r.1).map (·, r.2)) = [] := by
    rw [List.filterMap_eq_nil_iff]
    intro r hr
    rw [Option.isNone_iff_eq_none.mp (List.mem_filter.mp hr).2]
    rfl
  rw [hnone, List.nil_append]
  have hsome : (fun r : List α × C => (below sep root r.1).map (·, r.2)) ∘
      (fun r => (root ++ sep :: r.1, r.2)) = some := by
    funext r
    show (below sep root (root ++ sep :: r.1)).map (·, r.2) = some r
    rw [below_append]
    rfl
  rw [hsome]
  exact List.filterMap_some

theorem node_graft_of_below_none (h : below sep root p = none) :
    (t.graft sep root u).node p = t.node p := by
  refine Option.ext fun a => ?_
  rw [node_eq_some, node_eq_some]
  show (p, a) ∈ List.filter _ t.rows ++ List.map _ u.rows ↔ _
  rw [List.mem_append, List.mem_filter]
  constructor
  · rintro (hmem | hmem)
    · exact hmem.1
    · obtain ⟨r, -, heq⟩ := List.mem_map.mp hmem
      rw [← (Prod.mk.inj heq).1, below_append] at h
      exact absurd h (by simp)
  · intro hmem
    exact .inl ⟨hmem, Option.isNone_iff_eq_none.mpr h⟩

theorem isThere_iff : t.isThere sep p = true ↔
    ∃ q c, (p = q ∨ (below sep p q).isSome) ∧ t.node q = some c := by
  rw [isThere, Bool.or_eq_true, List.any_eq_true, Option.isSome_iff_exists]
  constructor
  · rintro (⟨c, hc⟩ | ⟨r, hr, hbelow⟩)
    · exact ⟨p, c, .inl rfl, hc⟩
    · exact ⟨r.1, r.2, .inr hbelow, node_eq_some.mpr hr⟩
  · rintro ⟨q, c, rfl | hbelow, hnode⟩
    · exact .inl ⟨c, hnode⟩
    · exact .inr ⟨(q, c), node_eq_some.mp hnode, hbelow⟩

end Tree

end IncidentAwareness.Lib
