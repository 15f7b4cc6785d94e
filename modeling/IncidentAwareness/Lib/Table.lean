import Mathlib.Data.List.Pairwise
import Mathlib.Tactic.Common

/-!
# Tables with unique constraints

A table is its rows in insertion order, together with the fact that no two of
them conflict: its unique constraints, as one symmetric relation on rows.
`insert?` is `INSERT … ON CONFLICT DO NOTHING`. A row found by a key that only
conflicting rows share is the row with that key (`find?_eq_some_iff_mem`).

Where the constraint is a primary key (`SameKey`), `get` is the row of a key and
`upsert` is `INSERT … ON CONFLICT DO UPDATE`; `get_insert?` and `get_upsert` say
what they do to every key.
-/

namespace IncidentAwareness.Lib

variable {ρ : Type*} {conflict : ρ → ρ → Prop}

/-- Rows of which no two conflict. -/
structure Table (conflict : ρ → ρ → Prop) where
  rows : List ρ
  unique : rows.Pairwise fun a b => ¬ conflict a b

namespace Table

@[ext] theorem ext_rows {s t : Table conflict} (h : s.rows = t.rows) : s = t := by
  cases s; cases t; simpa using h

instance : Membership ρ (Table conflict) := ⟨fun t r => r ∈ t.rows⟩

theorem mem_def {t : Table conflict} {r : ρ} : r ∈ t ↔ r ∈ t.rows := Iff.rfl

/-- The table without rows. -/
def empty : Table conflict := ⟨[], .nil⟩

@[simp] theorem rows_empty : (empty : Table conflict).rows = [] := rfl

@[simp] theorem not_mem_empty (r : ρ) : r ∉ (empty : Table conflict) := by
  simp [mem_def]

section Insert

variable [DecidableRel conflict]

/-- `INSERT … ON CONFLICT DO NOTHING`: the new table, unless a row conflicts. -/
def insert? (t : Table conflict) (r : ρ) : Option (Table conflict) :=
  if h : ∃ a ∈ t.rows, conflict a r then none
  else some ⟨t.rows ++ [r], by
    rw [List.pairwise_append]
    refine ⟨t.unique, List.pairwise_singleton _ _, fun a ha b hb hc => h ⟨a, ha, ?_⟩⟩
    rwa [List.mem_singleton.mp hb] at hc⟩

theorem insert?_eq_some {t t' : Table conflict} {r : ρ} :
    t.insert? r = some t' ↔ (∀ a ∈ t, ¬ conflict a r) ∧ t'.rows = t.rows ++ [r] := by
  unfold insert?
  split
  · next h =>
    obtain ⟨a, ha, hc⟩ := h
    simp only [reduceCtorEq, false_iff, not_and]
    exact fun hn => absurd hc (hn a ha)
  · next h =>
    simp only [Option.some.injEq]
    refine ⟨fun e => ⟨fun a ha hc => h ⟨a, ha, hc⟩, by rw [← e]⟩, fun e => ?_⟩
    exact ext_rows e.2.symm

theorem insert?_eq_none {t : Table conflict} {r : ρ} :
    t.insert? r = none ↔ ∃ a ∈ t, conflict a r := by
  unfold insert?
  split
  · next h => exact ⟨fun _ => h, fun _ => rfl⟩
  · next h => exact ⟨fun e => (nomatch e), fun e => absurd e h⟩

/-- A row that conflicts with none is inserted. -/
theorem exists_insert? {t : Table conflict} {r : ρ} (h : ∀ a ∈ t, ¬ conflict a r) :
    ∃ t', t.insert? r = some t' := by
  cases hi : t.insert? r with
  | some t' => exact ⟨t', rfl⟩
  | none =>
    obtain ⟨a, ha, hc⟩ := insert?_eq_none.mp hi
    exact absurd hc (h a ha)

theorem mem_of_insert? {t t' : Table conflict} {r a : ρ} (h : t.insert? r = some t') :
    a ∈ t' ↔ a ∈ t ∨ a = r := by
  rw [mem_def, (insert?_eq_some.mp h).2]; simp [mem_def]

end Insert

/-- Rows of a table that conflict are one row. -/
theorem eq_of_conflict [Std.Symm conflict] {t : Table conflict} {a b : ρ} (ha : a ∈ t) (hb : b ∈ t)
    (h : conflict a b) : a = b := by
  by_contra hne
  have : Std.Symm fun a b => ¬ conflict a b := ⟨fun a b hn hc => hn (Std.Symm.symm _ _ hc)⟩
  exact t.unique.forall ha hb hne h

/-- The row that a key selects, when rows with that key conflict. -/
theorem find?_eq_some_iff_mem [Std.Symm conflict] {t : Table conflict} {p : ρ → Bool} {a : ρ}
    (hp : ∀ a b, p a → p b → conflict a b) :
    t.rows.find? p = some a ↔ a ∈ t ∧ p a := by
  constructor
  · exact fun h => ⟨List.mem_of_find?_eq_some h, List.find?_some h⟩
  · rintro ⟨ha, hpa⟩
    cases h : t.rows.find? p with
    | none => exact absurd hpa (by simpa using List.find?_eq_none.mp h a ha)
    | some b =>
      rw [eq_of_conflict (List.mem_of_find?_eq_some h) ha (hp b a (List.find?_some h) hpa)]

end Table

/-! ## Primary keys -/

section Key

variable {κ : Type*} {key : ρ → κ}

/-- Two rows with one key. -/
def SameKey (key : ρ → κ) (a b : ρ) : Prop := key a = key b

instance [DecidableEq κ] : DecidableRel (SameKey key) :=
  fun a b => inferInstanceAs (Decidable (key a = key b))

instance : Std.Symm (SameKey key) := ⟨fun _ _ h => Eq.symm h⟩

namespace Table

theorem key_nodup (t : Table (SameKey key)) : (t.rows.map key).Nodup := by
  rw [List.Nodup, List.pairwise_map]
  exact t.unique

variable [DecidableEq κ]

/-- The row of a key. -/
def get (t : Table (SameKey key)) (k : κ) : Option ρ := t.rows.find? fun r => key r = k

theorem get_eq_some {t : Table (SameKey key)} {k : κ} {r : ρ} :
    t.get k = some r ↔ r ∈ t ∧ key r = k := by
  rw [get, find?_eq_some_iff_mem]
  · simp
  · intro a b ha hb
    simp only [decide_eq_true_eq] at ha hb
    exact ha.trans hb.symm

theorem get_eq_none {t : Table (SameKey key)} {k : κ} : t.get k = none ↔ ∀ r ∈ t, key r ≠ k := by
  rw [get, List.find?_eq_none]
  simp [mem_def]

@[simp] theorem get_empty (k : κ) : (empty : Table (SameKey key)).get k = none := rfl

theorem get_of_mem {t : Table (SameKey key)} {r : ρ} (h : r ∈ t) : t.get (key r) = some r :=
  get_eq_some.mpr ⟨h, rfl⟩

theorem get_insert? {t t' : Table (SameKey key)} {r : ρ} (h : t.insert? r = some t') (k : κ) :
    t'.get k = if k = key r then some r else t.get k := by
  split
  · next hk =>
    rw [hk]
    exact get_of_mem ((mem_of_insert? h).mpr (.inr rfl))
  · next hk =>
    refine Option.ext fun a => ?_
    rw [get_eq_some, get_eq_some, mem_of_insert? h]
    constructor
    · rintro ⟨ha | rfl, he⟩
      · exact ⟨ha, he⟩
      · exact absurd he.symm hk
    · exact fun ha => ⟨.inl ha.1, ha.2⟩

/-- A row whose key is free is inserted. -/
theorem exists_insert?_of_get {t : Table (SameKey key)} {r : ρ} (h : t.get (key r) = none) :
    ∃ t', t.insert? r = some t' := by
  apply exists_insert?
  intro a ha hk
  exact get_eq_none.mp h a ha hk

variable (key) in
/-- The rows with `r` in the place of the row of its key, or at the end. -/
def upsertRows (rows : List ρ) (r : ρ) : List ρ :=
  if ∃ a ∈ rows, key a = key r then rows.map fun a => if key a = key r then r else a
  else rows ++ [r]

theorem upsertRows_unique {rows : List ρ} (r : ρ) (h : rows.Pairwise fun a b => ¬ SameKey key a b) :
    (upsertRows key rows r).Pairwise fun a b => ¬ SameKey key a b := by
  unfold upsertRows
  split
  · rw [List.pairwise_map]
    refine h.imp fun {a b} hab hn => hab ?_
    have hkey : ∀ c, key (if key c = key r then r else c) = key c := by
      intro c
      split
      · next hc => exact hc.symm
      · rfl
    have hn : key (if key a = key r then r else a) = key (if key b = key r then r else b) := hn
    rwa [hkey a, hkey b] at hn
  · next hne =>
    rw [List.pairwise_append]
    refine ⟨h, List.pairwise_singleton _ _, fun a ha b hb hk => hne ⟨a, ha, ?_⟩⟩
    rwa [List.mem_singleton.mp hb] at hk

/-- `INSERT … ON CONFLICT DO UPDATE`. -/
def upsert (t : Table (SameKey key)) (r : ρ) : Table (SameKey key) :=
  ⟨upsertRows key t.rows r, upsertRows_unique r t.unique⟩

theorem mem_upsert {t : Table (SameKey key)} {r a : ρ} :
    a ∈ t.upsert r ↔ a = r ∨ a ∈ t ∧ key a ≠ key r := by
  change a ∈ upsertRows key t.rows r ↔ a = r ∨ a ∈ t.rows ∧ key a ≠ key r
  unfold upsertRows
  split
  · next hex =>
    rw [List.mem_map]
    constructor
    · rintro ⟨b, hb, rfl⟩
      split
      · exact .inl rfl
      · next hk => exact .inr ⟨hb, hk⟩
    · rintro (rfl | ⟨ha, hk⟩)
      · obtain ⟨b, hb, hk⟩ := hex
        exact ⟨b, hb, if_pos hk⟩
      · exact ⟨a, ha, if_neg hk⟩
  · next hne =>
    simp only [List.mem_append, List.mem_singleton]
    constructor
    · rintro (ha | rfl)
      · exact .inr ⟨ha, fun hk => hne ⟨a, ha, hk⟩⟩
      · exact .inl rfl
    · rintro (rfl | ⟨ha, -⟩)
      · exact .inr rfl
      · exact .inl ha

theorem get_upsert (t : Table (SameKey key)) (r : ρ) (k : κ) :
    (t.upsert r).get k = if k = key r then some r else t.get k := by
  split
  · next hk =>
    rw [hk]
    exact get_of_mem (mem_upsert.mpr (.inl rfl))
  · next hk =>
    refine Option.ext fun a => ?_
    rw [get_eq_some, get_eq_some, mem_upsert]
    constructor
    · rintro ⟨rfl | ha, he⟩
      · exact absurd he.symm hk
      · exact ⟨ha.1, he⟩
    · rintro ⟨ha, he⟩
      refine ⟨.inr ⟨ha, ?_⟩, he⟩
      rw [he]
      exact hk

/-- A block of upserts of rows with distinct keys. -/
theorem mem_foldl_upsert {t : Table (SameKey key)} {rs : List ρ} (hnd : (rs.map key).Nodup) {a : ρ} :
    a ∈ rs.foldl upsert t ↔ a ∈ rs ∨ a ∈ t ∧ ∀ r ∈ rs, key a ≠ key r := by
  induction rs generalizing t with
  | nil => simp
  | cons r rs ih =>
    rw [List.map_cons, List.nodup_cons] at hnd
    have hr : ∀ x ∈ rs, key r ≠ key x := by
      intro x hx he
      apply hnd.1
      rw [he]
      exact List.mem_map_of_mem hx
    rw [List.foldl_cons, ih hnd.2, mem_upsert]
    simp only [List.mem_cons, forall_eq_or_imp]
    constructor
    · rintro (ha | ⟨rfl | ⟨ha, hk⟩, hrs⟩)
      · exact .inl (.inr ha)
      · exact .inl (.inl rfl)
      · exact .inr ⟨ha, hk, hrs⟩
    · rintro ((rfl | ha) | ⟨ha, hk, hrs⟩)
      · exact .inr ⟨.inl rfl, hr⟩
      · exact .inl ha
      · exact .inr ⟨.inr ⟨ha, hk⟩, hrs⟩

section Owner

variable {o : Type*} (own : ρ → o) {t : Table (SameKey key)} {rs : List ρ}

/-- Upserts of all the rows of an owner that had none. -/
theorem mem_foldl_upsert_own (hnd : (rs.map key).Nodup) {x : o} (hrs : ∀ r ∈ rs, own r = x)
    (ht : ∀ a ∈ t, own a ≠ x) (a : ρ) : a ∈ rs.foldl upsert t ∧ own a = x ↔ a ∈ rs := by
  rw [mem_foldl_upsert hnd]
  constructor
  · rintro ⟨ha | ⟨ha, -⟩, hx⟩
    · exact ha
    · exact absurd hx (ht a ha)
  · exact fun ha => ⟨.inl ha, hrs a ha⟩

/-- Upserts of rows of one owner leave the rows of another, whose keys differ. -/
theorem mem_foldl_upsert_other (hnd : (rs.map key).Nodup) {x : o} (hrs : ∀ r ∈ rs, own r ≠ x)
    (hkey : ∀ a ∈ t, own a = x → ∀ r ∈ rs, key a ≠ key r) (a : ρ) :
    a ∈ rs.foldl upsert t ∧ own a = x ↔ a ∈ t ∧ own a = x := by
  rw [mem_foldl_upsert hnd]
  constructor
  · rintro ⟨ha | ⟨ha, -⟩, hx⟩
    · exact absurd hx (hrs a ha)
    · exact ⟨ha, hx⟩
  · exact fun ⟨ha, hx⟩ => ⟨.inr ⟨ha, hkey a ha hx⟩, hx⟩

variable {r : ρ} {x : o}

/-- The upsert of a row of an owner that had none. -/
theorem mem_upsert_own (hr : own r = x) (ht : ∀ a ∈ t, own a ≠ x) (a : ρ) :
    a ∈ t.upsert r ∧ own a = x ↔ a = r := by
  have hnd : ([r].map key).Nodup := by simp
  have h := mem_foldl_upsert_own own hnd (by simpa using hr) ht a
  simpa using h

/-- The upsert of a row of one owner leaves the rows of another, when a key tells
its owner. -/
theorem mem_upsert_other (hkey : ∀ a b, key a = key b → own a = own b) (hr : own r ≠ x) (a : ρ) :
    a ∈ t.upsert r ∧ own a = x ↔ a ∈ t ∧ own a = x := by
  have hnd : ([r].map key).Nodup := by simp
  refine mem_foldl_upsert_other own hnd (by simpa using hr) ?_ a
  intro b _ hb c hc he
  apply hr
  rw [← List.mem_singleton.mp hc, ← hkey b c he, hb]

end Owner

end Table

end Key

end IncidentAwareness.Lib
