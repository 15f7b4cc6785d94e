import IncidentAwareness.Lib.Raise

/-!
# Processes that fail and crash

A process is an `EStateM` program whose state survives what stops it: an
exception, which the program may catch, or a crash, which nothing catches. What
it asks of the outside is a `call`: the environment decides, by a `Fault`,
whether the call succeeds, raises, or takes the process down, and in the last
two cases whether it took effect.

* `wp`: the weakest precondition, with a postcondition for a return and one for
  a stop, and its rule for every construct (`wp_bind`, `wp_forM`, `wp_forM_prefix`,
  `wp_attempt`, `wp_call`);
* `Keeps`: an invariant of the state that a process keeps wherever it stops, and
  its rules (`keeps_bind`, `keeps_call`, `keeps_forM`).
-/

namespace IncidentAwareness.Lib

variable {ε ε' σ α β : Type}

/-! ## Weakest preconditions -/

/-- From `s`, the program returns into `Q` or stops in `R`. -/
def wp (x : EStateM ε σ α) (Q : α → σ → Prop) (R : ε → σ → Prop) (s : σ) : Prop :=
  match x.run s with
  | .ok a s' => Q a s'
  | .error e s' => R e s'

section Wp

variable {x : EStateM ε σ α} {f : α → EStateM ε σ β} {Q Q' : α → σ → Prop} {R R' : ε → σ → Prop}
  {s s' : σ} {a : α} {e : ε}

theorem wp_of_ok (h : x.run s = .ok a s') : wp x Q R s ↔ Q a s' := by rw [wp, h]

theorem wp_of_error (h : x.run s = .error e s') : wp x Q R s ↔ R e s' := by rw [wp, h]

instance [∀ a s, Decidable (Q a s)] [∀ e s, Decidable (R e s)] : Decidable (wp x Q R s) :=
  match h : x.run s with
  | .ok a s' => decidable_of_iff (Q a s') (wp_of_ok h).symm
  | .error e s' => decidable_of_iff (R e s') (wp_of_error h).symm

@[simp] theorem wp_pure : wp (pure a : EStateM ε σ α) Q R s ↔ Q a s := Iff.rfl

@[simp] theorem wp_throw : wp (throw e : EStateM ε σ α) Q R s ↔ R e s := Iff.rfl

@[simp] theorem wp_get {Q : σ → σ → Prop} : wp (get : EStateM ε σ σ) Q R s ↔ Q s s := Iff.rfl

theorem wp_bind {Q : β → σ → Prop} :
    wp (x >>= f) Q R s ↔ wp x (fun a s' => wp (f a) Q R s') R s := by
  cases h : x.run s with
  | ok a s' =>
    rw [wp_of_ok h, wp, EStateM.run_bind, h]
    exact Iff.rfl
  | error e s' =>
    rw [wp_of_error h, wp, EStateM.run_bind, h]

theorem wp_map {Q : β → σ → Prop} {g : α → β} :
    wp (g <$> x) Q R s ↔ wp x (fun a => Q (g a)) R s := by
  rw [map_eq_pure_bind, wp_bind]
  exact Iff.rfl

theorem wp_reads {q : σ → Except ε α} :
    wp (reads q) Q R s ↔ (∀ a, q s = .ok a → Q a s) ∧ ∀ e, q s = .error e → R e s := by
  rw [wp, run_reads]
  cases q s <;> simp

theorem wp_mono (h : wp x Q R s) (hQ : ∀ a s', Q a s' → Q' a s') (hR : ∀ e s', R e s' → R' e s') :
    wp x Q' R' s := by
  cases hx : x.run s with
  | ok a s' =>
    rw [wp_of_ok hx] at h ⊢
    exact hQ a s' h
  | error e s' =>
    rw [wp_of_error hx] at h ⊢
    exact hR e s' h

theorem wp_and (h : wp x Q R s) (h' : wp x Q' R' s) :
    wp x (fun a s' => Q a s' ∧ Q' a s') (fun e s' => R e s' ∧ R' e s') s := by
  cases hx : x.run s with
  | ok a s' => exact (wp_of_ok hx).mpr ⟨(wp_of_ok hx).mp h, (wp_of_ok hx).mp h'⟩
  | error e s' => exact (wp_of_error hx).mpr ⟨(wp_of_error hx).mp h, (wp_of_error hx).mp h'⟩

theorem wp_true (x : EStateM ε σ α) (s : σ) : wp x (fun _ _ => True) (fun _ _ => True) s := by
  rw [wp]
  split <;> trivial

/-- What a program returns, when only its last part matters. -/
theorem wp_bind_returns {Q : β → σ → Prop} (h : ∀ a s', wp (f a) Q (fun _ _ => True) s') :
    wp (x >>= f) Q (fun _ _ => True) s :=
  wp_bind.mpr (wp_mono (wp_true x s) (fun a s' _ => h a s') fun _ _ _ => trivial)

end Wp

/-- A loop returns into what every turn keeps. -/
theorem wp_forM {I : σ → Prop} {R : ε → σ → Prop} {f : α → EStateM ε σ Unit} {l : List α}
    (hstep : ∀ a ∈ l, ∀ s, I s → wp (f a) (fun _ => I) R s) {s : σ} (h : I s) :
    wp (l.forM f) (fun _ => I) R s := by
  induction l generalizing s with
  | nil => exact h
  | cons a l ih =>
    show wp (f a >>= fun _ => l.forM f) _ _ s
    rw [wp_bind]
    refine wp_mono (hstep a List.mem_cons_self s h) ?_ fun _ _ h' => h'
    exact fun _ s' hs' => ih (fun b hb => hstep b (List.mem_cons_of_mem _ hb)) hs'

/-- Every turn of a loop that is reached meets `C` in the state before it. -/
def Along (C : α → σ → Prop) (f : α → EStateM ε σ Unit) : List α → σ → Prop
  | [], _ => True
  | a :: l, s => C a s ∧ ∀ s', (f a).run s = .ok () s' → Along C f l s'

theorem along_of_forall {C : α → σ → Prop} {f : α → EStateM ε σ Unit} (h : ∀ a s, C a s) (l : List α)
    (s : σ) : Along C f l s := by
  induction l generalizing s with
  | nil => trivial
  | cons a l ih => exact ⟨h a s, fun s' _ => ih s'⟩

theorem Along.imp {C C' : α → σ → Prop} {f : α → EStateM ε σ Unit} (himp : ∀ a s, C a s → C' a s)
    {l : List α} {s : σ} (h : Along C f l s) : Along C' f l s := by
  induction l generalizing s with
  | nil => trivial
  | cons a l ih => exact ⟨himp a s h.1, fun s' hs' => ih (h.2 s' hs')⟩

/-- Every turn meets `C` where an invariant that knows the turns made gives it. -/
theorem along_of_prefix {C : α → σ → Prop} {I : List α → σ → Prop} {f : α → EStateM ε σ Unit}
    {l : List α} (hmeets : ∀ pre a post s, l = pre ++ a :: post → I pre s → C a s)
    (hstep : ∀ pre a post s, l = pre ++ a :: post → I pre s →
      wp (f a) (fun _ => I (pre ++ [a])) (fun _ _ => True) s) {s : σ} (h : I [] s) :
    Along C f l s := by
  suffices hrest : ∀ rest pre s, l = pre ++ rest → I pre s → Along C f rest s from
    hrest l [] s rfl h
  intro rest
  induction rest with
  | nil => exact fun _ _ _ _ => trivial
  | cons a rest ih =>
    intro pre s hl hpre
    refine ⟨hmeets pre a rest s hl hpre, fun s' hrun => ?_⟩
    exact ih (pre ++ [a]) s' (by rw [hl, List.append_assoc]; rfl)
      ((wp_of_ok hrun).mp (hstep pre a rest s hl hpre))

/-- A loop whose invariant knows the turns made. -/
theorem wp_forM_prefix {C : α → σ → Prop} {I : List α → σ → Prop} {R : ε → σ → Prop}
    {f : α → EStateM ε σ Unit} {l : List α}
    (hstep : ∀ pre a post, l = pre ++ a :: post → ∀ s, I pre s → C a s →
      wp (f a) (fun _ s' => I (pre ++ [a]) s') R s)
    {s : σ} (h : I [] s) (hC : Along C f l s) : wp (l.forM f) (fun _ s' => I l s') R s := by
  have hrest : ∀ post pre, l = pre ++ post → ∀ s, I pre s → Along C f post s →
      wp (post.forM f) (fun _ s' => I l s') R s := by
    intro post
    induction post with
    | nil =>
      intro pre hl s hs _
      rw [List.append_nil] at hl
      exact hl ▸ hs
    | cons a post ih =>
      intro pre hl s hs hC
      show wp (f a >>= fun _ => post.forM f) _ _ s
      rw [wp_bind]
      have hturn := hstep pre a post hl s hs hC.1
      cases hrun : (f a).run s with
      | ok u s' =>
        rw [wp_of_ok hrun] at hturn ⊢
        exact ih (pre ++ [a]) (by rw [hl, List.append_assoc, List.singleton_append]) s' hturn
          (hC.2 s' hrun)
      | error e s' =>
        rw [wp_of_error hrun] at hturn ⊢
        exact hturn
  exact hrest l [] rfl s h hC

/-! ## Processes -/

/-- What stops a process. -/
inductive Stop (ε : Type) where
  | raised (e : ε)
  | crashed
  deriving DecidableEq, Repr

/-- A process whose exceptions are `ε`. -/
abbrev Process (ε σ α : Type) := EStateM (Stop ε) σ α

/-- `raise e`. -/
def raise (e : ε) : Process ε σ α := throw (.raised e)

/-- Run a process and return what it returned or raised: the `try` of a
`try … except`. A crash goes through. -/
def attempt (x : Process ε σ α) : Process ε σ (Except ε α) := fun s =>
  match x.run s with
  | .ok a s' => .ok (.ok a) s'
  | .error (.raised e) s' => .ok (.error e) s'
  | .error .crashed s' => .error .crashed s'

/-- What the environment does to a call. -/
inductive Fault (ε : Type) where
  | none
  | raises (e : ε) (applied : Bool)
  | crash (applied : Bool)
  deriving DecidableEq, Repr

/-- Whether the call takes effect. -/
def Fault.applied : Fault ε → Bool
  | .none => true
  | .raises _ applied => applied
  | .crash applied => applied

/-- Whether the call raises. -/
def Fault.raises? : Fault ε → Bool
  | .raises .. => true
  | _ => false

/-- The fault with its exceptions read as others. -/
def Fault.map (g : ε → ε') : Fault ε → Fault ε'
  | .none => .none
  | .raises e applied => .raises (g e) applied
  | .crash applied => .crash applied

theorem Fault.applied_map {g : ε → ε'} (fault : Fault ε) : (fault.map g).applied = fault.applied := by
  cases fault with
  | none => rfl
  | raises e applied => rfl
  | crash applied => rfl

@[simp] theorem Fault.map_eq_none {g : ε → ε'} {fault : Fault ε} : fault.map g = .none ↔ fault = .none := by
  cases fault <;> simp [Fault.map]

theorem Fault.raises?_of_map {g : ε → ε'} {fault : Fault ε} {e : ε'} {applied : Bool}
    (h : fault.map g = .raises e applied) : fault.raises? = true := by
  cases fault with
  | none => cases h
  | raises e applied => rfl
  | crash applied => cases h

/-- A call to the outside under a fault. -/
def call (fault : Fault ε) (body : Process ε σ α) : Process ε σ α :=
  match fault with
  | .none => body
  | .raises e false => raise e
  | .raises e true => body >>= fun _ => raise e
  | .crash false => throw .crashed
  | .crash true => body >>= fun _ => throw .crashed

/-- A fault stops a call, which took effect or not. -/
def Fault.Interrupts (fault : Fault ε) (applied : Bool) (stop : Stop ε) : Prop :=
  (∃ e, fault = .raises e applied ∧ stop = .raised e) ∨ (fault = .crash applied ∧ stop = .crashed)

section Process

variable {x body : Process ε σ α} {Q : α → σ → Prop} {R : Stop ε → σ → Prop} {s : σ}
  {fault : Fault ε}

@[simp] theorem wp_raise {e : ε} : wp (raise e : Process ε σ α) Q R s ↔ R (.raised e) s := Iff.rfl

/-- What a `try` returns, or a crash. -/
theorem wp_attempt {Q : Except ε α → σ → Prop} :
    wp (attempt x) Q R s ↔ wp x (fun a => Q (.ok a)) (fun stop s' =>
      (∀ e, stop = .raised e → Q (.error e) s') ∧ (stop = .crashed → R .crashed s')) s := by
  rw [wp, wp, EStateM.run, attempt]
  cases x.run s with
  | ok a s' => exact Iff.rfl
  | error stop s' => cases stop <;> simp

/-- A call without a fault is its body; another stops before or after it. -/
theorem wp_call_of_none (hbody : fault = .none → wp body Q R s)
    (hbefore : ∀ stop, fault.Interrupts false stop → R stop s)
    (hafter : ∀ stop, fault.Interrupts true stop → wp body (fun _ s' => R stop s') R s) :
    wp (call fault body) Q R s := by
  cases fault with
  | none => exact hbody rfl
  | raises e applied =>
    cases applied with
    | false => exact hbefore (.raised e) (.inl ⟨e, rfl, rfl⟩)
    | true =>
      rw [call, wp_bind]
      exact hafter (.raised e) (.inl ⟨e, rfl, rfl⟩)
  | crash applied =>
    cases applied with
    | false => exact hbefore .crashed (.inr ⟨rfl, rfl⟩)
    | true =>
      rw [call, wp_bind]
      exact hafter .crashed (.inr ⟨rfl, rfl⟩)

/-- A call succeeds as its body does, or stops before or after it. -/
theorem wp_call (hbody : wp body Q R s)
    (hbefore : ∀ stop, fault.Interrupts false stop → R stop s)
    (hafter : ∀ stop, fault.Interrupts true stop → wp body (fun _ s' => R stop s') R s) :
    wp (call fault body) Q R s :=
  wp_call_of_none (fun _ => hbody) hbefore hafter

/-- What a call returns, whatever its fault. -/
theorem wp_call_returns (h : wp body Q (fun _ _ => True) s) :
    wp (call fault body) Q (fun _ _ => True) s := by
  refine wp_call h (fun _ _ => trivial) fun _ _ => ?_
  exact wp_mono h (fun _ _ _ => trivial) fun _ _ _ => trivial

@[simp] theorem call_none : call .none body = body := rfl

end Process

/-! ## Invariants -/

/-- The process keeps `I`, whether it returns or stops. -/
def Keeps (I : σ → Prop) (x : EStateM ε σ α) : Prop := ∀ s, I s → wp x (fun _ => I) (fun _ => I) s

section Keeps

variable {I : σ → Prop} {x : EStateM ε σ α} {f : α → EStateM ε σ β}

theorem keeps_pure (a : α) : Keeps I (pure a : EStateM ε σ α) := fun _ h => h

theorem keeps_throw (e : ε) : Keeps I (throw e : EStateM ε σ α) := fun _ h => h

theorem keeps_get : Keeps I (get : EStateM ε σ σ) := fun _ h => h

theorem keeps_reads (q : σ → Except ε α) : Keeps I (reads q) := fun _ h =>
  wp_reads.mpr ⟨fun _ _ => h, fun _ _ => h⟩

theorem keeps_modify {g : σ → σ} (h : ∀ s, I s → I (g s)) : Keeps I (modify g : EStateM ε σ Unit) := h

theorem keeps_bind (hx : Keeps I x) (hf : ∀ a, Keeps I (f a)) : Keeps I (x >>= f) := fun s h =>
  wp_bind.mpr (wp_mono (hx s h) (fun a s' h' => hf a s' h') fun _ _ h' => h')

theorem keeps_forM {f : α → EStateM ε σ Unit} {l : List α} (h : ∀ a ∈ l, Keeps I (f a)) :
    Keeps I (l.forM f) := by
  intro s hs
  refine wp_forM (fun a ha s' hs' => ?_) hs
  exact h a ha s' hs'

theorem keeps_attempt {x : Process ε σ α} (h : Keeps I x) : Keeps I (attempt x) := fun s hs =>
  wp_attempt.mpr (wp_mono (h s hs) (fun _ _ h' => h') fun _ _ h' => ⟨fun _ _ => h', fun _ => h'⟩)

theorem keeps_call {fault : Fault ε} {body : Process ε σ α} (h : Keeps I body) :
    Keeps I (call fault body) := fun s hs => wp_call (h s hs) (fun _ _ => hs) fun _ _ => h s hs

end Keeps

end IncidentAwareness.Lib
