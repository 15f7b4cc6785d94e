import IncidentAwareness.Lib.Run
import Mathlib.Data.Set.Lattice
import Mathlib.Logic.Function.Basic
import Mathlib.Logic.Relation
import Mathlib.Order.CompletePartialOrder

/-!
# Transactions that interleave

A transaction program acquires advisory locks, reads, writes, and commits or
raises (`Txn`). Sessions run such programs statement by statement, in any
interleaving: a lock blocks while another session owns it, a read sees the
committed database with the session's own writes, the writes reach the database
at the commit, and a raise or a rollback discards them (`step`).

What holds across every interleaving is proved from the programs one by one. A
`Spec` says what a commit may do to the database under the locks it holds
(`guarantee`); the other sessions then change it in that way only, under other
locks (`Interferes`). A program is `Safe` when it keeps its spec whatever the
others do between its statements; `step_sound` carries this to the system.
-/

namespace IncidentAwareness.Lib

variable {ι α κ δ ε : Type}

/-- The program of one transaction. -/
inductive Txn (κ δ ε : Type) where
  | lock (key : κ) (next : Txn κ δ ε)
  | read (next : δ → Txn κ δ ε)
  | write (statement : δ → Except ε δ) (next : Txn κ δ ε)
  | raise (e : ε)
  | commit

namespace Txn

/-- Whether the next statement is a read. -/
def isRead : Txn κ δ ε → Bool
  | .read _ => true
  | _ => false

/-- The database after a statement: a failed one leaves it as it is. -/
def applied (w : δ → Except ε δ) (d : δ) : δ :=
  match w d with
  | .ok d' => d'
  | .error _ => d

/-- The database that a session with pending writes sees. -/
def view (ws : List (δ → Except ε δ)) (d : δ) : δ := ws.foldl (fun d w => applied w d) d

@[simp] theorem view_nil (d : δ) : view ([] : List (δ → Except ε δ)) d = d := rfl

theorem view_append (ws ws' : List (δ → Except ε δ)) (d : δ) :
    view (ws ++ ws') d = view ws' (view ws d) := List.foldl_append

theorem view_singleton_of_eq_ok {w : δ → Except ε δ} {d d' : δ} (h : w d = .ok d') :
    view [w] d = d' := by
  simp [view, applied, h]

/-- A block of write statements. -/
def writes (ws : List (δ → Except ε δ)) (next : Txn κ δ ε) : Txn κ δ ε :=
  ws.foldr .write next

/-- The statements, one after the other. -/
def execWrites (ws : List (δ → Except ε δ)) (d : δ) : Except ε δ := ws.foldlM (fun d w => w d) d

@[simp] theorem execWrites_nil (d : δ) :
    execWrites ([] : List (δ → Except ε δ)) d = .ok d := rfl

theorem execWrites_cons_eq_ok {w : δ → Except ε δ} {ws : List (δ → Except ε δ)} {d d' : δ} :
    execWrites (w :: ws) d = .ok d' ↔ ∃ d₁, w d = .ok d₁ ∧ execWrites ws d₁ = .ok d' := by
  rw [execWrites, List.foldlM_cons]
  cases hw : w d with
  | error e => simp [bind, Except.bind]
  | ok d₁ => simp [bind, Except.bind, execWrites]

theorem execWrites_append_eq_ok {ws ws' : List (δ → Except ε δ)} {d d' : δ} :
    execWrites (ws ++ ws') d = .ok d' ↔
      ∃ d₁, execWrites ws d = .ok d₁ ∧ execWrites ws' d₁ = .ok d' := by
  induction ws generalizing d with
  | nil => simp
  | cons w ws ih =>
    rw [List.cons_append, execWrites_cons_eq_ok]
    constructor
    · rintro ⟨d₁, hw, h⟩
      obtain ⟨d₂, h₁, h₂⟩ := ih.mp h
      exact ⟨d₂, execWrites_cons_eq_ok.mpr ⟨d₁, hw, h₁⟩, h₂⟩
    · rintro ⟨d₂, h₁, h₂⟩
      obtain ⟨d₁, hw, h⟩ := execWrites_cons_eq_ok.mp h₁
      exact ⟨d₁, hw, ih.mpr ⟨d₂, h, h₂⟩⟩

/-- What each statement does to the database, the block does. -/
theorem execWrites_rel {R : δ → δ → Prop} (hrefl : ∀ d, R d d)
    (htrans : ∀ {d d₁ d₂}, R d d₁ → R d₁ d₂ → R d d₂) {ws : List (δ → Except ε δ)}
    (hws : ∀ w ∈ ws, ∀ d d', w d = .ok d' → R d d') {d d' : δ} (h : execWrites ws d = .ok d') :
    R d d' := by
  induction ws generalizing d with
  | nil =>
    obtain rfl : d = d' := Except.ok.inj h
    exact hrefl d
  | cons w ws ih =>
    obtain ⟨d₁, hw, h⟩ := execWrites_cons_eq_ok.mp h
    have h₁ := hws w (List.mem_cons_self ..) d d₁ hw
    exact htrans h₁ (ih (fun w' hw' => hws w' (List.mem_cons_of_mem _ hw')) h)

/-- A block that runs on `d` runs on every database that agrees with `d` on what
its statements read. -/
theorem execWrites_congr {R : δ → δ → Prop} {ws : List (δ → Except ε δ)}
    (hws : ∀ w ∈ ws, ∀ d d' v, R d d' → w d = .ok v → ∃ v', w d' = .ok v' ∧ R v v') {d d' v : δ}
    (hR : R d d') (h : execWrites ws d = .ok v) : ∃ v', execWrites ws d' = .ok v' ∧ R v v' := by
  induction ws generalizing d d' with
  | nil =>
    obtain rfl : d = v := Except.ok.inj h
    exact ⟨d', rfl, hR⟩
  | cons w ws ih =>
    obtain ⟨d₁, hw, h⟩ := execWrites_cons_eq_ok.mp h
    obtain ⟨d₁', hw', hR₁⟩ := hws w (List.mem_cons_self ..) d d' d₁ hR hw
    obtain ⟨v', hv', hRv⟩ := ih (fun w' h' => hws w' (List.mem_cons_of_mem _ h')) hR₁ h
    exact ⟨v', execWrites_cons_eq_ok.mpr ⟨d₁', hw', hv'⟩, hRv⟩

theorem view_eq_of_execWrites {ws : List (δ → Except ε δ)} {d d' : δ}
    (h : execWrites ws d = .ok d') : view ws d = d' := by
  induction ws generalizing d with
  | nil => exact Except.ok.inj h
  | cons w ws ih =>
    obtain ⟨d₁, hw, h⟩ := execWrites_cons_eq_ok.mp h
    have hv : view (w :: ws) d = view ws d₁ := by
      rw [← view_singleton_of_eq_ok hw, ← view_append]; rfl
    rw [hv]
    exact ih h

/-- The program run alone: its statements one after the other, nothing between. -/
def exec : Txn κ δ ε → δ → Except ε δ
  | .lock _ next, d => exec next d
  | .read next, d => exec (next d) d
  | .write w next, d => w d >>= exec next
  | .raise e, _ => .error e
  | .commit, d => .ok d

theorem exec_writes (ws : List (δ → Except ε δ)) (next : Txn κ δ ε) (d : δ) :
    exec (writes ws next) d = execWrites ws d >>= exec next := by
  induction ws generalizing d with
  | nil => rfl
  | cons w ws ih =>
    have hc : exec (writes (w :: ws) next) d = w d >>= exec (writes ws next) := rfl
    rw [hc, execWrites, List.foldlM_cons, bind_assoc]
    congr 1
    exact funext ih

end Txn

open Txn

/-! ## The system of sessions -/

/-- An open transaction: its request, its pending writes and the rest of its program. -/
structure Session (α κ δ ε : Type) where
  request : α
  writes : List (δ → Except ε δ)
  program : Txn κ δ ε

/-- The committed database, the owner of each lock and the open transactions. -/
structure TxnSystem (ι α κ δ ε : Type) where
  db : δ
  owner : κ → Option ι
  session : ι → Option (Session α κ δ ε)

/-- What a session does next: begin a transaction, run its next statement, or
roll back (a caller's rollback, a lost connection, a crash). -/
inductive Action (α : Type) where
  | begin (request : α)
  | advance
  | rollback

/-- How a step of a session ends. -/
inductive Response (α ε : Type) where
  | ignored
  | blocked
  | proceeded
  | raised (request : α) (e : ε)
  | rolledBack
  | committed (request : α)

/-- The request that a step committed. -/
def Response.committed? : Response α ε → Option α
  | .committed a => some a
  | _ => none

namespace TxnSystem

/-- The system without sessions. -/
def initial (d : δ) : TxnSystem ι α κ δ ε := ⟨d, fun _ => none, fun _ => none⟩

/-- The locks that a session owns. -/
def held (s : TxnSystem ι α κ δ ε) (i : ι) : Set κ := {k | s.owner k = some i}

theorem disjoint_held (s : TxnSystem ι α κ δ ε) {i j : ι} (h : i ≠ j) :
    Disjoint (s.held i) (s.held j) := by
  refine Set.disjoint_left.mpr fun k hi hj => h ?_
  have hi : s.owner k = some i := hi
  have hj : s.owner k = some j := hj
  exact Option.some.inj (hi.symm.trans hj)

section Sessions

variable [DecidableEq ι]

/-- A session moves to `t`. -/
def set (s : TxnSystem ι α κ δ ε) (i : ι) (t : Session α κ δ ε) : TxnSystem ι α κ δ ε :=
  { s with session := Function.update s.session i (some t) }

/-- A session's transaction ends and frees its locks. -/
def release (s : TxnSystem ι α κ δ ε) (i : ι) : TxnSystem ι α κ δ ε where
  db := s.db
  owner k := if s.owner k = some i then none else s.owner k
  session := Function.update s.session i none

@[simp] theorem set_db (s : TxnSystem ι α κ δ ε) (i : ι) (t) : (s.set i t).db = s.db := rfl
@[simp] theorem set_held (s : TxnSystem ι α κ δ ε) (i : ι) (t) : (s.set i t).held = s.held := rfl
@[simp] theorem set_session_self (s : TxnSystem ι α κ δ ε) (i : ι) (t) :
    (s.set i t).session i = some t := Function.update_self ..
@[simp] theorem release_db (s : TxnSystem ι α κ δ ε) (i : ι) : (s.release i).db = s.db := rfl
@[simp] theorem release_session_self (s : TxnSystem ι α κ δ ε) (i : ι) :
    (s.release i).session i = none := Function.update_self ..

theorem set_session_of_ne (s : TxnSystem ι α κ δ ε) {i j : ι} (t) (h : j ≠ i) :
    (s.set i t).session j = s.session j := Function.update_of_ne h ..

theorem release_session_of_ne (s : TxnSystem ι α κ δ ε) {i j : ι} (h : j ≠ i) :
    (s.release i).session j = s.session j := Function.update_of_ne h ..

theorem release_held_self (s : TxnSystem ι α κ δ ε) (i : ι) : (s.release i).held i = ∅ := by
  ext k
  simp only [held, release, Set.mem_ofPred_eq, Set.mem_empty_iff_false, iff_false]
  split <;> simp_all

theorem release_held_of_ne (s : TxnSystem ι α κ δ ε) {i j : ι} (h : j ≠ i) :
    (s.release i).held j = s.held j := by
  ext k
  simp only [held, release, Set.mem_ofPred_eq]
  split
  · next hk => simp [hk, h.symm]
  · rfl

end Sessions

section Locks

variable [DecidableEq κ]

/-- A session comes to own a lock. -/
def acquire (s : TxnSystem ι α κ δ ε) (i : ι) (k : κ) : TxnSystem ι α κ δ ε :=
  { s with owner := Function.update s.owner k (some i) }

@[simp] theorem acquire_db (s : TxnSystem ι α κ δ ε) (i : ι) (k : κ) : (s.acquire i k).db = s.db := rfl
@[simp] theorem acquire_session (s : TxnSystem ι α κ δ ε) (i : ι) (k : κ) :
    (s.acquire i k).session = s.session := rfl

theorem acquire_held_self (s : TxnSystem ι α κ δ ε) (i : ι) (k : κ) :
    (s.acquire i k).held i = insert k (s.held i) := by
  ext k'
  by_cases h : k' = k
  · simp [held, acquire, h]
  · simp [held, acquire, h]

theorem acquire_held_of_ne (s : TxnSystem ι α κ δ ε) {i j : ι} {k : κ} (h : j ≠ i)
    (hk : s.owner k = none ∨ s.owner k = some i) : (s.acquire i k).held j = s.held j := by
  ext k'
  by_cases he : k' = k
  · subst he
    rcases hk with hk | hk
    · simp [held, acquire, hk, h.symm]
    · simp [held, acquire, hk, h.symm]
  · simp [held, acquire, he]

end Locks

variable [DecidableEq ι] [DecidableEq κ]

/-- The next statement of a session's program. -/
def advance (s : TxnSystem ι α κ δ ε) (i : ι) (t : Session α κ δ ε) :
    TxnSystem ι α κ δ ε × Response α ε :=
  match t.program with
  | .lock k next =>
    if s.owner k = none ∨ s.owner k = some i then
      ((s.acquire i k).set i { t with program := next }, .proceeded)
    else (s, .blocked)
  | .read next => (s.set i { t with program := next (view t.writes s.db) }, .proceeded)
  | .write w next =>
    match w (view t.writes s.db) with
    | .ok _ => (s.set i { t with writes := t.writes ++ [w], program := next }, .proceeded)
    | .error e => (s.release i, .raised t.request e)
  | .raise e => (s.release i, .raised t.request e)
  | .commit => ({ s.release i with db := view t.writes s.db }, .committed t.request)

/-- One step of one session. -/
def step (program : α → Txn κ δ ε) (s : TxnSystem ι α κ δ ε) (x : ι × Action α) :
    TxnSystem ι α κ δ ε × Response α ε :=
  match x.2, s.session x.1 with
  | .begin a, none => (s.set x.1 ⟨a, [], program a⟩, .proceeded)
  | .advance, some t => s.advance x.1 t
  | .rollback, some _ => (s.release x.1, .rolledBack)
  | _, _ => (s, .ignored)

variable {program : α → Txn κ δ ε} {s : TxnSystem ι α κ δ ε}

theorem step_begin (i : ι) (a : α) (h : s.session i = none) :
    step program s (i, .begin a) = (s.set i ⟨a, [], program a⟩, .proceeded) := by
  simp [step, h]

theorem step_advance {i : ι} {t : Session α κ δ ε} (h : s.session i = some t) :
    step program s (i, .advance) = s.advance i t := by
  simp [step, h]

end TxnSystem

end IncidentAwareness.Lib
