import IncidentAwareness.Lib.Transaction
import Mathlib.Data.List.Basic

/-!
# Proof rules for interleaved transactions

The rules by which a transaction program is proved `Safe`, one for each
statement, and what a system of safe programs guarantees:

* `Safe.lock`, `Safe.read`, `Safe.write`, `Safe.writes`, `Safe.raise`,
  `Safe.commit`: the assertion carried along is one that the other sessions keep
  (`Stable`);
* `Sound.step`: every step keeps the system sound;
* `step_committed`, `step_raised`, `step_db`: what a step's answer says;
* `run_serial`: the database after any run is the one that the committed
  transactions give in the order of their commits.
-/

namespace IncidentAwareness.Lib

open Txn TxnSystem Relation

variable {ι α κ δ ε : Type}

/-- What the transactions of a system promise each other and their callers. -/
structure Spec (α κ δ ε : Type) where
  /-- An invariant of the committed database. -/
  inv : δ → Prop
  /-- What a commit under these locks may do to the database. -/
  guarantee : Set κ → δ → δ → Prop
  /-- The errors that a request may raise on a database. -/
  raises : α → δ → ε → Prop
  /-- What the commit of a request does to the database. -/
  commits : α → δ → δ → Prop
  /-- What is assumed of a program about to read the database. -/
  proviso : Txn κ δ ε → δ → Prop

namespace Spec

variable (S : Spec α κ δ ε)

/-- What others may do to the database while a session holds its locks. -/
def Interferes (held : Set κ) : δ → δ → Prop :=
  ReflTransGen fun d d' => S.inv d' ∧ ∃ held', Disjoint held held' ∧ S.guarantee held' d d'

/-- An assertion on the database that the others keep. -/
def Stable (held : Set κ) (P : δ → Prop) : Prop := ∀ d d', P d → S.Interferes held d d' → P d'

/-- The rest of a program keeps the spec, whatever the others do. -/
def Safe (a : α) : Txn κ δ ε → Set κ → List (δ → Except ε δ) → δ → Prop
  | .lock k next, held, ws, d => ∀ d', S.Interferes held d d' → Safe a next (insert k held) ws d'
  | .read next, held, ws, d => ∀ d', S.Interferes held d d' →
      S.proviso (.read next) (view ws d') → Safe a (next (view ws d')) held ws d'
  | .write w next, held, ws, d => ∀ d', S.Interferes held d d' →
      (∀ v, w (view ws d') = .ok v → Safe a next held (ws ++ [w]) d') ∧
        ∀ e, w (view ws d') = .error e → S.raises a d' e
  | .raise e, held, _, d => ∀ d', S.Interferes held d d' → S.raises a d' e
  | .commit, held, ws, d => ∀ d', S.Interferes held d d' →
      S.inv (view ws d') ∧ S.guarantee held d' (view ws d') ∧ S.commits a d' (view ws d')

variable {S} {a : α} {held : Set κ} {ws : List (δ → Except ε δ)} {P : δ → Prop}

theorem Interferes.refl (d : δ) : S.Interferes held d d := ReflTransGen.refl

theorem inv_of_interferes {d d' : δ} (hd : S.inv d) (hi : S.Interferes held d d') : S.inv d' := by
  cases hi with
  | refl => exact hd
  | tail _ hs => exact hs.1

/-- What every commit of the others does, all of them do. -/
theorem rel_of_interferes {R : δ → δ → Prop} (hrefl : ∀ d, R d d)
    (htrans : ∀ {d d₁ d₂}, R d d₁ → R d₁ d₂ → R d d₂)
    (hstep : ∀ d d' held', Disjoint held held' → S.guarantee held' d d' → R d d') {d d' : δ}
    (hi : S.Interferes held d d') : R d d' := by
  induction hi with
  | refl => exact hrefl d
  | tail _ hs ih =>
    obtain ⟨-, held', hdis, hg⟩ := hs
    exact htrans ih (hstep _ _ held' hdis hg)

/-- Under more locks there is less interference. -/
theorem interferes_mono {held' : Set κ} (hsub : held ⊆ held') {d d' : δ}
    (hi : S.Interferes held' d d') : S.Interferes held d d' := by
  refine ReflTransGen.mono ?_ d d' hi
  rintro a b ⟨hinv, held'', hdis, hg⟩
  exact ⟨hinv, held'', Set.disjoint_of_subset_left hsub hdis, hg⟩

theorem Stable.mono {held' : Set κ} (hP : S.Stable held P) (hsub : held ⊆ held') :
    S.Stable held' P := fun d d' hd hi => hP d d' hd (interferes_mono hsub hi)

theorem Stable.and {Q : δ → Prop} (hP : S.Stable held P) (hQ : S.Stable held Q) :
    S.Stable held fun d => P d ∧ Q d := fun d d' hd hi => ⟨hP d d' hd.1 hi, hQ d d' hd.2 hi⟩

theorem stable_inv : S.Stable held S.inv := fun _ _ hd hi => inv_of_interferes hd hi

theorem safe_of_interferes {p : Txn κ δ ε} {d d' : δ} (h : S.Safe a p held ws d)
    (hi : S.Interferes held d d') : S.Safe a p held ws d' := by
  cases p <;> exact fun d'' hi' => h d'' (hi.trans hi')

theorem Safe.lock {k : κ} {next : Txn κ δ ε} (hP : S.Stable held P)
    (h : ∀ d, P d → S.Safe a next (insert k held) ws d) :
    ∀ d, P d → S.Safe a (.lock k next) held ws d :=
  fun d hd d' hi => h d' (hP d d' hd hi)

theorem Safe.read {next : δ → Txn κ δ ε} (hP : S.Stable held P)
    (h : ∀ d, P d → S.proviso (.read next) (view ws d) → S.Safe a (next (view ws d)) held ws d) :
    ∀ d, P d → S.Safe a (.read next) held ws d :=
  fun d hd d' hi hp => h d' (hP d d' hd hi) hp

theorem Safe.write {w : δ → Except ε δ} {next : Txn κ δ ε} (hP : S.Stable held P)
    (hok : ∀ d v, P d → w (view ws d) = .ok v → S.Safe a next held (ws ++ [w]) d)
    (herr : ∀ d e, P d → w (view ws d) = .error e → S.raises a d e) :
    ∀ d, P d → S.Safe a (.write w next) held ws d := by
  intro d hd d' hi
  have hd' := hP d d' hd hi
  exact ⟨fun v hv => hok d' v hd' hv, fun e he => herr d' e hd' he⟩

theorem Safe.raise {e : ε} (hP : S.Stable held P) (h : ∀ d, P d → S.raises a d e) :
    ∀ d, P d → S.Safe a (.raise e) held ws d :=
  fun d hd d' hi => h d' (hP d d' hd hi)

theorem Safe.commit (hP : S.Stable held P)
    (h : ∀ d, P d → S.inv (view ws d) ∧ S.guarantee held d (view ws d) ∧
      S.commits a d (view ws d)) : ∀ d, P d → S.Safe a .commit held ws d :=
  fun d hd d' hi => h d' (hP d d' hd hi)

/-- A block of statements: each has run, and would run again on the database as
the others have left it since. -/
theorem Safe.writes {next : Txn κ δ ε} (hP : S.Stable held P) (stmts : List (δ → Except ε δ))
    (hstable : ∀ ws' w, ws' ++ [w] <+: ws ++ stmts → S.Stable held fun d =>
      P d ∧ ∃ v, execWrites (ws' ++ [w]) d = .ok v)
    (herr : ∀ d e, P d → S.raises a d e)
    (h : ∀ d, P d → execWrites (ws ++ stmts) d = .ok (view (ws ++ stmts) d) →
      S.Safe a next held (ws ++ stmts) d) :
    ∀ d, (P d ∧ ∃ v, execWrites ws d = .ok v) → S.Safe a (Txn.writes stmts next) held ws d := by
  have hpre : ∀ ws', ws' <+: ws ++ stmts →
      S.Stable held fun d => P d ∧ ∃ v, execWrites ws' d = .ok v := by
    intro ws' hw
    rcases List.eq_nil_or_concat' ws' with rfl | ⟨ws', w, rfl⟩
    · exact fun d d' hd hi => ⟨hP d d' hd.1 hi, d', rfl⟩
    · exact hstable ws' w hw
  clear hstable
  induction stmts generalizing ws with
  | nil =>
    rintro d ⟨hd, v, hv⟩
    simp only [List.append_nil] at h
    exact h d hd (by rw [view_eq_of_execWrites hv]; exact hv)
  | cons w stmts ih =>
    have happ : ws ++ w :: stmts = (ws ++ [w]) ++ stmts := by simp
    refine Safe.write (hpre ws (List.prefix_append _ _)) ?_ fun d e hd _ => herr d e hd.1
    rintro d v ⟨hd, v', hv'⟩ hw
    rw [view_eq_of_execWrites hv'] at hw
    refine ih ?_ ?_ d ⟨hd, v, execWrites_append_eq_ok.mpr ⟨v', hv', execWrites_cons_eq_ok.mpr ⟨v, hw, rfl⟩⟩⟩
    · rwa [happ] at h
    · rwa [happ] at hpre

/-- A block of statements whose success the rest does not rely on. -/
theorem Safe.writes_any {next : Txn κ δ ε} (hP : S.Stable held P) (stmts : List (δ → Except ε δ))
    (herr : ∀ d e, P d → S.raises a d e) (h : ∀ d, P d → S.Safe a next held (ws ++ stmts) d) :
    ∀ d, P d → S.Safe a (Txn.writes stmts next) held ws d := by
  induction stmts generalizing ws with
  | nil =>
    intro d hd
    rw [← List.append_nil ws]
    exact h d hd
  | cons w stmts ih =>
    refine Safe.write hP (fun d _ hd _ => ih ?_ d hd) fun d e hd _ => herr d e hd
    rw [List.append_assoc]
    exact h

end Spec

/-! ## Systems of safe programs -/

/-- Every open transaction is safe, on a database that keeps the invariant. -/
structure Sound (S : Spec α κ δ ε) (s : TxnSystem ι α κ δ ε) : Prop where
  inv : S.inv s.db
  idle : ∀ i, s.session i = none → s.held i = ∅
  safe : ∀ i t, s.session i = some t → S.Safe t.request t.program (s.held i) t.writes s.db

/-- The proviso, for the program that a step advances. -/
def Provided (S : Spec α κ δ ε) (s : TxnSystem ι α κ δ ε) (x : ι × Action α) : Prop :=
  x.2 = .advance → ∀ t, s.session x.1 = some t → S.proviso t.program (view t.writes s.db)

variable {S : Spec α κ δ ε} {s s' : TxnSystem ι α κ δ ε}

theorem sound_initial {d : δ} (h : S.inv d) : Sound S (initial d : TxnSystem ι α κ δ ε) where
  inv := h
  idle i _ := by
    ext k
    simp [held, initial]
  safe i t h := by cases h

/-- A step of session `i` keeps the others safe. -/
theorem Sound.of_step (h : Sound S s) (i : ι) (hinv : S.inv s'.db)
    (hdb : ∀ j, j ≠ i → S.Interferes (s.held j) s.db s'.db)
    (hheld : ∀ j, j ≠ i → s'.held j = s.held j)
    (hsession : ∀ j, j ≠ i → s'.session j = s.session j)
    (hidle : s'.session i = none → s'.held i = ∅)
    (hsafe : ∀ t, s'.session i = some t → S.Safe t.request t.program (s'.held i) t.writes s'.db) :
    Sound S s' where
  inv := hinv
  idle j hj := by
    by_cases he : j = i
    · subst he
      exact hidle hj
    · rw [hheld j he]
      rw [hsession j he] at hj
      exact h.idle j hj
  safe j t hj := by
    by_cases he : j = i
    · subst he
      exact hsafe t hj
    · rw [hheld j he]
      rw [hsession j he] at hj
      exact Spec.safe_of_interferes (h.safe j t hj) (hdb j he)

variable [DecidableEq ι]

theorem Sound.set (h : Sound S s) {i : ι} {t : Session α κ δ ε}
    (ht : S.Safe t.request t.program (s.held i) t.writes s.db) : Sound S (s.set i t) := by
  refine h.of_step i h.inv (fun _ _ => .refl _) (fun _ _ => rfl)
    (fun j hj => set_session_of_ne s t hj) (fun hn => ?_) (fun t' ht' => ?_)
  · rw [set_session_self] at hn
    cases hn
  · rw [set_session_self, Option.some.injEq] at ht'
    rw [← ht']
    exact ht

theorem Sound.release (h : Sound S s) (i : ι) : Sound S (s.release i) := by
  refine h.of_step i h.inv (fun _ _ => .refl _) (fun j hj => release_held_of_ne s hj)
    (fun j hj => release_session_of_ne s hj) (fun _ => release_held_self s i) (fun t ht => ?_)
  rw [release_session_self] at ht
  cases ht

theorem Sound.commit (h : Sound S s) {i : ι} {d : δ} (hinv : S.inv d)
    (hg : S.guarantee (s.held i) s.db d) :
    Sound S { s.release i with db := d } := by
  refine h.of_step i hinv (fun j hj => ?_) (fun j hj => release_held_of_ne s hj)
    (fun j hj => release_session_of_ne s hj) (fun _ => release_held_self s i) (fun t ht => ?_)
  · exact .single ⟨hinv, s.held i, disjoint_held s hj, hg⟩
  · have hn : (s.release i).session i = some t := ht
    rw [release_session_self] at hn
    cases hn

variable [DecidableEq κ]

theorem Sound.acquire (h : Sound S s) {i : ι} {k : κ} {t : Session α κ δ ε}
    (hk : s.owner k = none ∨ s.owner k = some i)
    (ht : S.Safe t.request t.program (insert k (s.held i)) t.writes s.db) :
    Sound S ((s.acquire i k).set i t) := by
  refine h.of_step i h.inv (fun _ _ => .refl _) (fun j hj => acquire_held_of_ne s hj hk)
    (fun j hj => set_session_of_ne _ t hj) (fun hn => ?_) (fun t' ht' => ?_)
  · rw [set_session_self] at hn
    cases hn
  · rw [set_session_self, Option.some.injEq] at ht'
    rw [← ht', set_held, acquire_held_self]
    exact ht

/-- A statement of a safe program keeps the system sound. -/
theorem Sound.advance (h : Sound S s) {i : ι} {t : Session α κ δ ε} (ht : s.session i = some t)
    (hp : S.proviso t.program (view t.writes s.db)) : Sound S (s.advance i t).1 := by
  have hsafe := h.safe i t ht
  obtain ⟨a, ws, p⟩ := t
  cases p with
  | lock k next =>
    simp only [TxnSystem.advance]
    split
    · next hk => exact h.acquire hk (hsafe _ (.refl _))
    · exact h
  | read next => exact h.set (hsafe _ (.refl _) hp)
  | write w next =>
    simp only [TxnSystem.advance]
    split
    · next v hv => exact h.set ((hsafe _ (.refl _)).1 v hv)
    · exact h.release i
  | raise e => exact h.release i
  | commit =>
    obtain ⟨hinv, hg, -⟩ := hsafe _ (.refl _)
    exact h.commit hinv hg

variable {program : α → Txn κ δ ε}

/-- Every step of a system of safe programs keeps it sound. -/
theorem Sound.step (hprog : ∀ a d, S.inv d → S.Safe a (program a) ∅ [] d) (h : Sound S s)
    {x : ι × Action α} (hx : Provided S s x) : Sound S (step program s x).1 := by
  obtain ⟨i, act⟩ := x
  cases hs : s.session i with
  | none =>
    cases act with
    | begin a =>
      rw [step_begin i a hs]
      refine h.set ?_
      rw [h.idle i hs]
      exact hprog a s.db h.inv
    | advance => simpa [TxnSystem.step, hs] using h
    | rollback => simpa [TxnSystem.step, hs] using h
  | some t =>
    cases act with
    | begin a => simpa [TxnSystem.step, hs] using h
    | advance =>
      rw [step_advance hs]
      exact h.advance hs (hx rfl t hs)
    | rollback => simpa [TxnSystem.step, hs] using h.release i

/-! ## What the answers say -/

/-- Only a commit changes the database. -/
theorem step_db (x : ι × Action α) (h : ∀ a, (step program s x).2 ≠ .committed a) :
    (step program s x).1.db = s.db := by
  obtain ⟨i, act⟩ := x
  cases hs : s.session i with
  | none => cases act <;> simp [TxnSystem.step, hs]
  | some t =>
    cases act with
    | begin a => simp [TxnSystem.step, hs]
    | rollback => simp [TxnSystem.step, hs]
    | advance =>
      rw [step_advance hs] at h ⊢
      obtain ⟨a, ws, p⟩ := t
      cases p with
      | lock k next =>
        simp only [TxnSystem.advance]
        split <;> rfl
      | read next => rfl
      | write w next =>
        simp only [TxnSystem.advance]
        split <;> rfl
      | raise e => rfl
      | commit => exact absurd rfl (h a)

/-- A commit does what the spec says of its request. -/
theorem step_committed (h : Sound S s) {x : ι × Action α} {a : α}
    (hr : (step program s x).2 = .committed a) : S.commits a s.db (step program s x).1.db := by
  obtain ⟨i, act⟩ := x
  cases hs : s.session i with
  | none => cases act <;> simp [TxnSystem.step, hs] at hr
  | some t =>
    cases act with
    | begin a => simp [TxnSystem.step, hs] at hr
    | rollback => simp [TxnSystem.step, hs] at hr
    | advance =>
      rw [step_advance hs] at hr ⊢
      have hsafe := h.safe i t hs
      obtain ⟨a', ws, p⟩ := t
      cases p with
      | lock k next =>
        simp only [TxnSystem.advance] at hr
        split at hr <;> cases hr
      | read next => cases hr
      | write w next =>
        simp only [TxnSystem.advance] at hr
        split at hr <;> cases hr
      | raise e => cases hr
      | commit =>
        obtain ⟨-, -, hc⟩ := hsafe _ (.refl _)
        cases hr
        exact hc

/-- An error that a step answers with is one that the spec allows its request. -/
theorem step_raised (h : Sound S s) {x : ι × Action α} {a : α} {e : ε}
    (hr : (step program s x).2 = .raised a e) : S.raises a s.db e := by
  obtain ⟨i, act⟩ := x
  cases hs : s.session i with
  | none => cases act <;> simp [TxnSystem.step, hs] at hr
  | some t =>
    cases act with
    | begin a => simp [TxnSystem.step, hs] at hr
    | rollback => simp [TxnSystem.step, hs] at hr
    | advance =>
      rw [step_advance hs] at hr
      have hsafe := h.safe i t hs
      obtain ⟨a', ws, p⟩ := t
      cases p with
      | lock k next =>
        simp only [TxnSystem.advance] at hr
        split at hr <;> cases hr
      | read next => cases hr
      | write w next =>
        simp only [TxnSystem.advance] at hr
        split at hr
        · cases hr
        · next e' he =>
          cases hr
          exact (hsafe _ (.refl _)).2 _ he
      | raise e' =>
        cases hr
        exact hsafe _ (.refl _)
      | commit => cases hr

/-! ## Runs -/

/-- The requests that a trace committed, in the order of their commits. -/
def commitsOf (t : List ((ι × Action α) × Response α ε)) : List α :=
  t.filterMap (·.2.committed?)

omit [DecidableEq ι] [DecidableEq κ] in
theorem commitsOf_append_singleton (t : List ((ι × Action α) × Response α ε))
    (x : (ι × Action α) × Response α ε) :
    commitsOf (t ++ [x]) = commitsOf t ++ x.2.committed?.toList := by
  rw [commitsOf, List.filterMap_append]
  cases h : x.2.committed? <;> simp [commitsOf, h]

/-- The requests, each doing to the database what `R` says of it, lead from one
database to another. -/
def Serial (R : α → δ → δ → Prop) : δ → List α → δ → Prop
  | d, [], d' => d' = d
  | d, a :: as, d' => ∃ d₁, R a d d₁ ∧ Serial R d₁ as d'

omit [DecidableEq ι] [DecidableEq κ] in
theorem serial_append_singleton {R : α → δ → δ → Prop} {d d₁ d₂ : δ} {as : List α} {a : α}
    (h : Serial R d as d₁) (ha : R a d₁ d₂) : Serial R d (as ++ [a]) d₂ := by
  induction as generalizing d with
  | nil =>
    have he : d₁ = d := h
    subst he
    exact ⟨d₂, ha, rfl⟩
  | cons b as ih =>
    obtain ⟨d', hb, hrest⟩ := h
    exact ⟨d', hb, ih hrest⟩

omit [DecidableEq ι] [DecidableEq κ] in
/-- What each request preserves holds after all of them. -/
theorem Serial.preserves {R : α → δ → δ → Prop} {P : δ → Prop} (hR : ∀ a d d', R a d d' → P d → P d')
    {d d' : δ} {as : List α} (h : Serial R d as d') (hd : P d) : P d' := by
  induction as generalizing d with
  | nil =>
    have he : d' = d := h
    rwa [he]
  | cons a as ih =>
    obtain ⟨d₁, ha, hrest⟩ := h
    exact ih hrest (hR a d d₁ ha hd)

/-- **Runs.** A system of safe programs is sound after any run whose steps meet
the proviso, and its database is the one that the committed requests give in the
order of their commits. -/
theorem run_serial (hprog : ∀ a d, S.inv d → S.Safe a (program a) ∅ [] d) {d : δ} (hd : S.inv d)
    {xs : List (ι × Action α)} (hm : Meets (step program) (Provided S) (initial d) xs) :
    Sound S (after (step program) (initial d) xs) ∧
      Serial S.commits d (commitsOf (trace (step program) (initial d) xs))
        (after (step program) (initial d) xs).db := by
  refine run_trace_of_meets (P := fun (s : TxnSystem ι α κ δ ε) t =>
    Sound S s ∧ Serial S.commits d (commitsOf t) s.db) (step program) ⟨sound_initial hd, rfl⟩ ?_ hm
  rintro s t x ⟨hs, hserial⟩ hx
  refine ⟨hs.step hprog hx, ?_⟩
  rw [commitsOf_append_singleton]
  cases hc : (step program s x).2.committed? with
  | some a =>
    have hr : (step program s x).2 = .committed a := by
      revert hc
      cases (step program s x).2 <;> simp [Response.committed?]
    exact serial_append_singleton hserial (step_committed hs hr)
  | none =>
    have hdb : (step program s x).1.db = s.db := by
      refine step_db x fun a hr => ?_
      rw [hr] at hc
      cases hc
    rw [hdb]
    simpa using hserial

end IncidentAwareness.Lib
