import IncidentAwareness.Lib.Process

/-!
# Programs whose calls interleave

A program that is a tree of calls to the outside, each one atomic step on the shared
state, so that other programs may run between any two of them (`Program`). A call may
wait (`none`); under a `Fault` it stops with an exception or a crash, before or after
it took effect.

What a program keeps whatever the others do is proved with a rely and a guarantee
(`Protocol`, `Sat`): `sat_request`, `sat_bind`, `sat_attempt` and `sat_forM` are its
rules, and `Sat.advance` and `Sat.rely` carry it along a run.
-/

namespace IncidentAwareness.Lib

variable {κ ε σ α β : Type}

/-- A program: what it returned or raised, or its next call, at a site. -/
inductive Program (κ ε σ : Type) (α : Type) : Type 1 where
  | done (result : Except ε α)
  | call {β : Type} (site : κ) (body : σ → Option (Except ε β × σ))
      (next : Except ε β → Program κ ε σ α)

namespace Program

/-- One program, then another on what it returned. -/
protected def bind : Program κ ε σ α → (α → Program κ ε σ β) → Program κ ε σ β
  | done (.ok a), f => f a
  | done (.error e), _ => done (.error e)
  | call site body next, f => call site body fun r => (next r).bind f

instance : Monad (Program κ ε σ) where
  pure a := done (.ok a)
  bind := Program.bind

/-- `raise e`. -/
def raise (e : ε) : Program κ ε σ α := done (.error e)

/-- The `try` of a `try … except`. -/
def attempt : Program κ ε σ α → Program κ ε σ (Except ε α)
  | done r => done (.ok r)
  | call site body next => call site body fun r => (next r).attempt

/-- A call and nothing else. -/
def request (site : κ) (body : σ → Option (Except ε α × σ)) : Program κ ε σ α := call site body done

/-- What a program returned or raised, if it has ended. -/
def result? : Program κ ε σ α → Option (Except ε α)
  | done r => some r
  | call .. => none

theorem eq_done_of_result? {p : Program κ ε σ α} {r : Except ε α} (h : p.result? = some r) :
    p = done r := by
  cases p with
  | done r' => exact congrArg done (Option.some.inj h)
  | call site body next => cases h

/-- The site of the next call. -/
def site? : Program κ ε σ α → Option κ
  | done _ => none
  | call site .. => some site

/-- How a step of a program ends. -/
inductive Advance (κ ε σ : Type) (α : Type) : Type 1 where
  | finished
  | blocked
  | called (site : κ) (applied : Bool) (rest : Option (Program κ ε σ α)) (s : σ)

/-- The next call of a program, under a fault. A crash leaves no rest. -/
def advance (p : Program κ ε σ α) (fault : Fault ε) (s : σ) : Advance κ ε σ α :=
  match p with
  | done _ => .finished
  | call site body next =>
    match fault with
    | .raises e false => .called site false (some (next (.error e))) s
    | .crash false => .called site false none s
    | .none =>
      match body s with
      | none => .blocked
      | some (r, s') => .called site true (some (next r)) s'
    | .raises e true =>
      match body s with
      | none => .blocked
      | some (_, s') => .called site true (some (next (.error e))) s'
    | .crash true =>
      match body s with
      | none => .blocked
      | some (_, s') => .called site true none s'

theorem site?_of_advance {p : Program κ ε σ α} {fault : Fault ε} {s s' : σ} {site : κ} {applied : Bool}
    {rest : Option (Program κ ε σ α)} (h : p.advance fault s = .called site applied rest s') :
    p.site? = some site ∧ fault.applied = applied := by
  cases p with
  | done r => cases h
  | call site' body next =>
    unfold advance at h
    cases fault with
    | none =>
      cases hb : body s with
      | none => simp [hb] at h
      | some x =>
        simp only [hb, Advance.called.injEq] at h
        exact ⟨congrArg some h.1, h.2.1⟩
    | raises e b =>
      cases b with
      | false =>
        simp only [Advance.called.injEq] at h
        exact ⟨congrArg some h.1, h.2.1⟩
      | true =>
        cases hb : body s with
        | none => simp [hb] at h
        | some x =>
          simp only [hb, Advance.called.injEq] at h
          exact ⟨congrArg some h.1, h.2.1⟩
    | crash b =>
      cases b with
      | false =>
        simp only [Advance.called.injEq] at h
        exact ⟨congrArg some h.1, h.2.1⟩
      | true =>
        cases hb : body s with
        | none => simp [hb] at h
        | some x =>
          simp only [hb, Advance.called.injEq] at h
          exact ⟨congrArg some h.1, h.2.1⟩

end Program

/-! ## Rely and guarantee -/

/-- What a program relies on the others for, what its calls guarantee them, what is
assumed of a call before it takes effect, and where an exception may strike a call, before
or after its effect. -/
structure Protocol (κ σ : Type) where
  rely : σ → σ → Prop
  guarantee : κ → σ → σ → Prop
  proviso : κ → σ → Prop
  interruptible : κ → Bool → σ → Prop := fun _ _ _ => True
  refl : ∀ s, rely s s
  trans : ∀ {s s' s''}, rely s s' → rely s' s'' → rely s s''

/-- The rest of a program keeps the protocol, whatever the others do and whatever its
calls raise, and ends in `Q`. -/
def Sat (R : Protocol κ σ) (Q : Except ε α → σ → Prop) : Program κ ε σ α → σ → Prop
  | .done r, s => ∀ s', R.rely s s' → Q r s'
  | .call site body next, s => ∀ s', R.rely s s' →
      (∀ e, R.interruptible site false s' → Sat R Q (next (.error e)) s') ∧
        (R.proviso site s' → ∀ r s'', body s' = some (r, s'') → R.guarantee site s' s'' ∧
          Sat R Q (next r) s'' ∧ ∀ e, R.interruptible site true s' → Sat R Q (next (.error e)) s'')

/-- An assertion that the others keep. -/
def Protocol.Stable (R : Protocol κ σ) (P : σ → Prop) : Prop := ∀ s s', P s → R.rely s s' → P s'

section Rules

variable {R : Protocol κ σ} {Q : Except ε α → σ → Prop} {Q' : Except ε β → σ → Prop}
  {p : Program κ ε σ α} {s s' : σ}

/-- What the others do keeps a program as it is. -/
theorem Sat.rely (h : Sat R Q p s) (hr : R.rely s s') : Sat R Q p s' := by
  cases p with
  | done r => exact fun s'' hr' => h s'' (R.trans hr hr')
  | call site body next => exact fun s'' hr' => h s'' (R.trans hr hr')

theorem Sat.done {r : Except ε α} (h : Sat R Q (.done r) s) : Q r s := h s (R.refl s)

theorem Protocol.Stable.and {P P' : σ → Prop} (h : R.Stable P) (h' : R.Stable P') :
    R.Stable fun s => P s ∧ P' s := fun _ _ hp hr => ⟨h _ _ hp.1 hr, h' _ _ hp.2 hr⟩

theorem Protocol.Stable.imp {P : σ → Prop} {φ : Prop} (h : φ → R.Stable P) :
    R.Stable fun s => φ → P s := fun _ _ hp hr hφ => h hφ _ _ (hp hφ) hr

theorem sat_done {r : Except ε α} (hQ : R.Stable (Q r)) (h : Q r s) : Sat R Q (.done r) s :=
  fun s' hr => hQ s s' h hr

theorem sat_mono {Q' : Except ε α → σ → Prop} (hQ : ∀ r s, Q r s → Q' r s) (h : Sat R Q p s) :
    Sat R Q' p s := by
  induction p generalizing s with
  | done r => exact fun s' hr => hQ r s' (h s' hr)
  | call site body next ih =>
    intro s' hr
    obtain ⟨hfault, hbody⟩ := h s' hr
    refine ⟨fun e hi => ih _ (hfault e hi), fun hp r s'' hb => ?_⟩
    obtain ⟨hg, hnext, happlied⟩ := hbody hp r s'' hb
    exact ⟨hg, ih _ hnext, fun e hi => ih _ (happlied e hi)⟩

/-- One program, then another from what the first ends in. -/
theorem sat_bind {f : α → Program κ ε σ β} (h : Sat R Q p s)
    (hok : ∀ a s, Q (.ok a) s → Sat R Q' (f a) s)
    (herror : ∀ e s, Q (.error e) s → Sat R Q' (.done (.error e)) s) : Sat R Q' (p >>= f) s := by
  induction p generalizing s with
  | done r =>
    cases r with
    | ok a => exact hok a s h.done
    | error e => exact herror e s h.done
  | call site body next ih =>
    intro s' hr
    obtain ⟨hfault, hbody⟩ := h s' hr
    refine ⟨fun e hi => ih _ (hfault e hi), fun hp r s'' hb => ?_⟩
    obtain ⟨hg, hnext, happlied⟩ := hbody hp r s'' hb
    exact ⟨hg, ih _ hnext, fun e hi => ih _ (happlied e hi)⟩

/-- A program whose exceptions are caught, then another. -/
theorem sat_attempt {f : Except ε α → Program κ ε σ β} (h : Sat R Q p s)
    (hf : ∀ r s, Q r s → Sat R Q' (f r) s) : Sat R Q' (p.attempt >>= f) s := by
  induction p generalizing s with
  | done r => exact hf r s h.done
  | call site body next ih =>
    intro s' hr
    obtain ⟨hfault, hbody⟩ := h s' hr
    refine ⟨fun e hi => ih _ (hfault e hi), fun hp r s'' hb => ?_⟩
    obtain ⟨hg, hnext, happlied⟩ := hbody hp r s'' hb
    exact ⟨hg, ih _ hnext, fun e hi => ih _ (happlied e hi)⟩

/-- A loop whose body keeps an assertion, by induction on what is left of the list. -/
theorem sat_forM {f : β → Program κ ε σ PUnit} {Q : Except ε PUnit → σ → Prop} {l : List β}
    (hQ : R.Stable (Q (.ok ⟨⟩)))
    (herror : ∀ e s, Q (.error e) s → Sat R Q (.done (.error e)) s)
    (hf : ∀ a ∈ l, ∀ s, Q (.ok ⟨⟩) s → Sat R Q (f a) s) (h : Q (.ok ⟨⟩) s) :
    Sat R Q (l.forM f) s := by
  induction l generalizing s with
  | nil => exact sat_done hQ h
  | cons a l ih =>
    refine sat_bind (hf a List.mem_cons_self s h) (fun _ s' hs' => ?_) herror
    exact ih (fun b hb => hf b (List.mem_cons_of_mem a hb)) hs'

/-- A call from an assertion that the others keep. -/
theorem sat_request {P : σ → Prop} {site : κ} {body : σ → Option (Except ε α × σ)}
    (hP : R.Stable P) (hQ : ∀ r, R.Stable (Q r))
    (hfault : ∀ s e, P s → R.interruptible site false s → Q (.error e) s)
    (hbody : ∀ s r s', P s → R.proviso site s → body s = some (r, s') →
      R.guarantee site s s' ∧ Q r s' ∧ ∀ e, R.interruptible site true s → Q (.error e) s')
    (h : P s) :
    Sat R Q (Program.request site body) s := by
  intro s' hr
  have hs' := hP s s' h hr
  refine ⟨fun e hi => sat_done (hQ _) (hfault s' e hs' hi), fun hp r s'' hb => ?_⟩
  obtain ⟨hg, hq, he⟩ := hbody s' r s'' hs' hp hb
  exact ⟨hg, sat_done (hQ r) hq, fun e hi => sat_done (hQ _) (he e hi)⟩

/-- A step of a program: what it guarantees, and what is left of it. -/
theorem Sat.advance (h : Sat R Q p s) {fault : Fault ε} {site : κ} {applied : Bool}
    {rest : Option (Program κ ε σ α)} (hproviso : applied = true → R.proviso site s)
    (hinterrupts : ∀ e, fault = .raises e applied → R.interruptible site applied s)
    (hstep : p.advance fault s = .called site applied rest s') :
    (applied = false ∧ s' = s ∨ applied = true ∧ R.guarantee site s s') ∧
      ∀ q, rest = some q → Sat R Q q s' := by
  cases p with
  | done r => cases hstep
  | call site' body next =>
    obtain ⟨hbefore, hbody⟩ := h s (R.refl s)
    have happlied : ∀ r s'', applied = true → body s = some (r, s'') → site' = site →
        R.guarantee site s s'' ∧ Sat R Q (next r) s'' ∧
          ∀ e, R.interruptible site true s → Sat R Q (next (.error e)) s'' := by
      rintro r s'' ha hb rfl
      exact hbody (hproviso ha) r s'' hb
    unfold Program.advance at hstep
    cases fault with
    | none =>
      cases hb : body s with
      | none => simp [hb] at hstep
      | some x =>
        simp only [hb, Program.Advance.called.injEq] at hstep
        obtain ⟨rfl, rfl, rfl, rfl⟩ := hstep
        obtain ⟨hg, hnext, -⟩ := happlied x.1 x.2 rfl hb rfl
        exact ⟨.inr ⟨rfl, hg⟩, fun q hq => by cases hq; exact hnext⟩
    | raises e b =>
      cases b with
      | false =>
        simp only [Program.Advance.called.injEq] at hstep
        obtain ⟨rfl, rfl, rfl, rfl⟩ := hstep
        exact ⟨.inl ⟨rfl, rfl⟩, fun q hq => by cases hq; exact hbefore e (hinterrupts e rfl)⟩
      | true =>
        cases hb : body s with
        | none => simp [hb] at hstep
        | some x =>
          simp only [hb, Program.Advance.called.injEq] at hstep
          obtain ⟨rfl, rfl, rfl, rfl⟩ := hstep
          obtain ⟨hg, -, he⟩ := happlied x.1 x.2 rfl hb rfl
          exact ⟨.inr ⟨rfl, hg⟩, fun q hq => by cases hq; exact he e (hinterrupts e rfl)⟩
    | crash b =>
      cases b with
      | false =>
        simp only [Program.Advance.called.injEq] at hstep
        obtain ⟨rfl, rfl, rfl, rfl⟩ := hstep
        exact ⟨.inl ⟨rfl, rfl⟩, fun q hq => by cases hq⟩
      | true =>
        cases hb : body s with
        | none => simp [hb] at hstep
        | some x =>
          simp only [hb, Program.Advance.called.injEq] at hstep
          obtain ⟨rfl, rfl, rfl, rfl⟩ := hstep
          obtain ⟨hg, -, -⟩ := happlied x.1 x.2 rfl hb rfl
          exact ⟨.inr ⟨rfl, hg⟩, fun q hq => by cases hq⟩

end Rules

end IncidentAwareness.Lib
