import IncidentAwareness.Lib.Program
import Mathlib.Logic.Relation

/-!
# Programs that follow a process

A process (`Process`) runs through by itself; a program (`Program`) makes one call at a time, and
others step in between. `Runs` is a run of a program to its end, among the steps and the faults of
its `Surroundings`. A program follows a process when, wherever the process ends, some run of the
program ends alike, in related states (`Follows`); there is one rule for each construct:
`follows_request`, `follows_bind`, `follows_attempt` and `follows_forM`.
-/

namespace IncidentAwareness.Lib

variable {κ ε σ τ α α' β β' : Type}

/-- What others may do between two calls of a program, and the faults of its calls. -/
structure Surroundings (ε σ : Type) where
  others : σ → σ → Prop
  faults : Fault ε → Prop

/-- What a call comes to: its answer, or what a fault makes of it. -/
inductive Answers (E : Surroundings ε σ) (body : σ → Option (Except ε β × σ)) (s : σ) :
    Except (Stop ε) β → σ → Prop
  | returned {b : β} {s' : σ} (h : body s = some (.ok b, s')) : Answers E body s (.ok b) s'
  | raised {e : ε} {s' : σ} (h : body s = some (.error e, s')) : Answers E body s (.error (.raised e)) s'
  | before {fault : Fault ε} {stop : Stop ε} (hfault : E.faults fault)
      (h : fault.Interrupts false stop) : Answers E body s (.error stop) s
  | after {fault : Fault ε} {stop : Stop ε} {r : Except ε β} {s' : σ} (hfault : E.faults fault)
      (h : fault.Interrupts true stop) (hbody : body s = some (r, s')) : Answers E body s (.error stop) s'

/-- What a program goes on with after a call: nothing, where it crashed. -/
def resumed (next : Except ε β → Program κ ε σ α) :
    Except (Stop ε) β → Option (Program κ ε σ α)
  | .ok b => some (next (.ok b))
  | .error (.raised e) => some (next (.error e))
  | .error .crashed => none

/-- The step of a program whose call answers so. -/
theorem exists_advance_of_answers {E : Surroundings ε σ} {body : σ → Option (Except ε β × σ)}
    {s s' : σ} {result : Except (Stop ε) β} (h : Answers E body s result s') (site : κ)
    (next : Except ε β → Program κ ε σ α) :
    ∃ fault applied, (fault = .none ∨ E.faults fault) ∧
      (Program.call site body next).advance fault s = .called site applied (resumed next result) s' := by
  cases h with
  | returned h => exact ⟨.none, true, .inl rfl, by simp only [Program.advance, h, resumed]⟩
  | raised h => exact ⟨.none, true, .inl rfl, by simp only [Program.advance, h, resumed]⟩
  | before hfault h =>
    rcases h with ⟨e, rfl, rfl⟩ | ⟨rfl, rfl⟩
    · exact ⟨_, false, .inr hfault, rfl⟩
    · exact ⟨_, false, .inr hfault, rfl⟩
  | after hfault h hbody =>
    rcases h with ⟨e, rfl, rfl⟩ | ⟨rfl, rfl⟩
    · exact ⟨_, true, .inr hfault, by simp only [Program.advance, hbody, resumed]⟩
    · exact ⟨_, true, .inr hfault, by simp only [Program.advance, hbody, resumed]⟩

/-- A run of a program to its end: what it returns, raises, or that it crashes. -/
inductive Runs (E : Surroundings ε σ) : Program κ ε σ α → σ → Except (Stop ε) α → σ → Prop
  | done (r : Except ε α) (s : σ) : Runs E (.done r) s (r.mapError .raised) s
  | other {p : Program κ ε σ α} {s s' s'' : σ} {r : Except (Stop ε) α} (h : E.others s s')
      (hrun : Runs E p s' r s'') : Runs E p s r s''
  | called {γ : Type} {site : κ} {body : σ → Option (Except ε γ × σ)}
      {next : Except ε γ → Program κ ε σ α} {s s' s'' : σ} {answer : Except ε γ} {r : Except (Stop ε) α}
      (h : Answers E body s (answer.mapError .raised) s') (hrun : Runs E (next answer) s' r s'') :
      Runs E (.call site body next) s r s''
  | crashed {γ : Type} {site : κ} {body : σ → Option (Except ε γ × σ)}
      {next : Except ε γ → Program κ ε σ α} {s s' : σ} (h : Answers E body s (.error .crashed) s') :
      Runs E (.call site body next) s (.error .crashed) s'

section Runs

variable {E : Surroundings ε σ} {p : Program κ ε σ α} {f : α → Program κ ε σ β} {s s' s'' : σ}

theorem Runs.bind {a : α} {r : Except (Stop ε) β} (h : Runs E p s (.ok a) s')
    (h' : Runs E (f a) s' r s'') : Runs E (p >>= f) s r s'' := by
  generalize hr : (Except.ok a : Except (Stop ε) α) = result at h
  induction h with
  | done result s =>
    cases result with
    | ok b => cases hr; exact h'
    | error e => cases hr
  | other hother _ ih => exact .other hother (ih h' hr)
  | called h _ ih => exact .called h (ih h' hr)
  | crashed h => cases hr

theorem Runs.bind_stop {stop : Stop ε} (h : Runs E p s (.error stop) s') :
    Runs E (p >>= f) s (.error stop) s' := by
  generalize hr : (Except.error stop : Except (Stop ε) α) = result at h
  induction h with
  | done result s =>
    cases result with
    | ok b => cases hr
    | error e => cases hr; exact .done (.error e) s
  | other hother _ ih => exact .other hother (ih hr)
  | called h _ ih => exact .called h (ih hr)
  | crashed h => cases hr; exact .crashed h

theorem Runs.others {r : Except (Stop ε) α} (h : Relation.ReflTransGen E.others s s')
    (hrun : Runs E p s' r s'') : Runs E p s r s'' := by
  induction h using Relation.ReflTransGen.head_induction_on with
  | refl => exact hrun
  | head hother _ ih => exact .other hother ih

/-- The `try` of a run that did not crash. -/
theorem Runs.attempt {r : Except ε α} (h : Runs E p s (r.mapError .raised) s') :
    Runs E p.attempt s (.ok r) s' := by
  generalize hr : (r.mapError .raised : Except (Stop ε) α) = result at h
  induction h with
  | done result s =>
    cases result with
    | ok b =>
      cases r with
      | ok a => cases hr; exact Runs.done (Except.ok (Except.ok b)) s
      | error e => cases hr
    | error e =>
      cases r with
      | ok a => cases hr
      | error e => cases hr; exact Runs.done (Except.ok (Except.error e)) s
  | other hother _ ih => exact .other hother (ih hr)
  | called h _ ih => exact .called h (ih hr)
  | crashed h =>
    cases r with
    | ok a => cases hr
    | error e => cases hr

theorem Runs.attempt_crashed (h : Runs E p s (.error .crashed) s') :
    Runs E p.attempt s (.error .crashed) s' := by
  generalize hr : (Except.error .crashed : Except (Stop ε) α) = result at h
  induction h with
  | done result s =>
    cases result with
    | ok a => cases hr
    | error e => cases hr
  | other hother _ ih => exact .other hother (ih hr)
  | called h _ ih => exact .called h (ih hr)
  | crashed h => exact .crashed h

end Runs

/-- Wherever the process ends from `t`, a run of the program from `s` ends alike: in `Q` where they
return, in `R` where they stop. -/
def Follows (E : Surroundings ε σ) (p : Program κ ε σ α) (x : Process ε τ β)
    (Q : α → β → σ → τ → Prop) (R : Stop ε → σ → τ → Prop) (s : σ) (t : τ) : Prop :=
  wp x (fun b t' => ∃ a s', Runs E p s (.ok a) s' ∧ Q a b s' t')
    (fun stop t' => ∃ s', Runs E p s (.error stop) s' ∧ R stop s' t') t

section Rules

variable {E : Surroundings ε σ} {p : Program κ ε σ α} {x : Process ε τ β}
  {Q Q' : α → β → σ → τ → Prop} {R R' : Stop ε → σ → τ → Prop} {s s' : σ} {t : τ}

theorem follows_pure {a : α} {b : β} (h : Q a b s t) :
    Follows E (pure a : Program κ ε σ α) (pure b) Q R s t :=
  ⟨a, s, .done (.ok a) s, h⟩

theorem follows_raise {e : ε} (h : R (.raised e) s t) :
    Follows E (.raise e : Program κ ε σ α) (raise e : Process ε τ β) Q R s t :=
  ⟨s, .done (.error e) s, h⟩

theorem Follows.mono (h : Follows E p x Q' R' s t) (hQ : ∀ a b s t, Q' a b s t → Q a b s t)
    (hR : ∀ stop s t, R' stop s t → R stop s t) : Follows E p x Q R s t :=
  wp_mono h (fun b t' ⟨a, s', hrun, hq⟩ => ⟨a, s', hrun, hQ a b s' t' hq⟩)
    fun stop t' ⟨s', hrun, hr⟩ => ⟨s', hrun, hR stop s' t' hr⟩

/-- Parts that return no value return alike. -/
theorem Follows.unit {p : Program κ ε σ Unit} {x : Process ε τ Unit} {P : σ → τ → Prop}
    (h : Follows E p x (fun _ _ => P) R s t) : Follows E p x (fun a b s t => a = b ∧ P s t) R s t :=
  h.mono (fun _ _ _ _ h => ⟨rfl, h⟩) fun _ _ _ h => h

/-- Others step first. -/
theorem Follows.others (hothers : Relation.ReflTransGen E.others s s') (h : Follows E p x Q R s' t) :
    Follows E p x Q R s t :=
  wp_mono h (fun _ _ ⟨a, s'', hrun, hq⟩ => ⟨a, s'', hrun.others hothers, hq⟩)
    fun _ _ ⟨s'', hrun, hr⟩ => ⟨s'', hrun.others hothers, hr⟩

theorem follows_get {g : τ → Process ε τ β} (h : Follows E p (g t) Q R s t) :
    Follows E p (get >>= g) Q R s t :=
  wp_bind.mpr h

theorem follows_bind {f : α → Program κ ε σ α'} {g : β → Process ε τ β'}
    {Q : α' → β' → σ → τ → Prop} (h : Follows E p x Q' R s t)
    (hf : ∀ a b s t, Q' a b s t → Follows E (f a) (g b) Q R s t) :
    Follows E (p >>= f) (x >>= g) Q R s t := by
  refine wp_bind.mpr (wp_mono h ?_ ?_)
  · rintro b t' ⟨a, s', hrun, hq⟩
    refine wp_mono (hf a b s' t' hq) ?_ ?_
    · rintro b' t'' ⟨a', s'', hrun', hq'⟩
      exact ⟨a', s'', hrun.bind hrun', hq'⟩
    · rintro stop t'' ⟨s'', hrun', hr⟩
      exact ⟨s'', hrun.bind hrun', hr⟩
  · rintro stop t' ⟨s', hrun, hr⟩
    exact ⟨s', hrun.bind_stop, hr⟩

/-- The process goes on with what does nothing more. -/
theorem follows_map {Q : α → β' → σ → τ → Prop} {g : β → β'} (h : Follows E p x Q' R s t)
    (hQ : ∀ a b s t, Q' a b s t → Q a (g b) s t) :
    Follows E p (x >>= fun b => pure (g b)) Q R s t :=
  wp_bind.mpr (wp_mono h (fun b t' ⟨a, s', hrun, hq⟩ => ⟨a, s', hrun, hQ a b s' t' hq⟩)
    fun _ _ h => h)

theorem follows_attempt {Q : Except ε α → Except ε β → σ → τ → Prop}
    (h : Follows E p x (fun a b => Q (.ok a) (.ok b))
      (fun stop s t => (∀ e, stop = .raised e → Q (.error e) (.error e) s t) ∧
        (stop = .crashed → R .crashed s t)) s t) :
    Follows E p.attempt (attempt x) Q R s t := by
  refine wp_attempt.mpr (wp_mono h ?_ ?_)
  · rintro b t' ⟨a, s', hrun, hq⟩
    exact ⟨.ok a, s', Runs.attempt (r := .ok a) hrun, hq⟩
  · rintro stop t' ⟨s', hrun, hraised, hcrashed⟩
    refine ⟨?_, ?_⟩
    · rintro e rfl
      exact ⟨.error e, s', Runs.attempt (r := .error e) hrun, hraised e rfl⟩
    · rintro rfl
      exact ⟨s', hrun.attempt_crashed, hcrashed rfl⟩

/-- The `try` of parts that return alike: `P` where they returned, `I` in any case. -/
theorem follows_attempt_eq {x : Process ε τ α} {P I : σ → τ → Prop}
    (h : Follows E p x (fun a b s t => a = b ∧ P s t) (fun _ => I) s t)
    (hP : ∀ s t, P s t → I s t) :
    Follows E p.attempt (attempt x)
      (fun r r' s t => r = r' ∧ I s t ∧ (r.isOk = true → P s t)) (fun _ => I) s t := by
  refine follows_attempt (h.mono ?_ ?_)
  · rintro a b s t ⟨rfl, hp⟩
    exact ⟨rfl, hP s t hp, fun _ => hp⟩
  · intro stop s t hi
    exact ⟨fun e _ => ⟨rfl, hi, fun hok => absurd hok Bool.false_ne_true⟩, fun _ => hi⟩

/-- A loop, by induction on the list. -/
theorem follows_forM {γ : Type} {f : γ → Program κ ε σ PUnit} {g : γ → Process ε τ PUnit}
    {I : σ → τ → Prop} {l : List γ}
    (hstep : ∀ c ∈ l, ∀ s t, I s t → Follows E (f c) (g c) (fun _ _ => I) R s t) (h : I s t) :
    Follows E (l.forM f) (l.forM g) (fun _ _ => I) R s t := by
  induction l generalizing s t with
  | nil => exact follows_pure h
  | cons c l ih =>
    refine follows_bind (hstep c List.mem_cons_self s t h) fun _ _ s' t' h' => ?_
    exact ih (fun c' hc' => hstep c' (List.mem_cons_of_mem c hc')) h'

/-- A call that answers as the process ends. -/
theorem follows_of_answers {site : κ} {body : σ → Option (Except ε α × σ)}
    (h : wp x (fun b t' => ∃ a s', Answers E body s (.ok a) s' ∧ Q a b s' t')
      (fun stop t' => ∃ s', Answers E body s (.error stop) s' ∧ R stop s' t') t) :
    Follows E (.request site body) x Q R s t := by
  refine wp_mono h ?_ ?_
  · rintro b t' ⟨a, s', hanswer, hq⟩
    have hcall : Answers E body s ((Except.ok a : Except ε α).mapError .raised) s' := hanswer
    exact ⟨a, s', .called hcall (.done (.ok a) s'), hq⟩
  · rintro stop t' ⟨s', hanswer, hr⟩
    cases stop with
    | raised e =>
      have hcall : Answers E body s ((Except.error e : Except ε α).mapError .raised) s' := hanswer
      exact ⟨s', .called hcall (.done (.error e) s'), hr⟩
    | crashed => exact ⟨s', .crashed hanswer, hr⟩

/-- A call: its body does what the body of the process' call does. -/
theorem follows_request {site : κ} {body : σ → Option (Except ε α × σ)} {fault : Fault ε}
    (hfault : E.faults fault)
    (hbody : wp x (fun b t' => ∃ a s', body s = some (.ok a, s') ∧ Q a b s' t' ∧
        ∀ stop, fault.Interrupts true stop → R stop s' t')
      (fun stop t' => ∃ e s', stop = .raised e ∧ body s = some (.error e, s') ∧ R stop s' t') t)
    (hbefore : ∀ stop, fault.Interrupts false stop → R stop s t) :
    Follows E (.request site body) (call fault x) Q R s t := by
  refine follows_of_answers (wp_call (wp_mono hbody ?_ ?_) ?_ ?_)
  · rintro b t' ⟨a, s', hb, hq, -⟩
    exact ⟨a, s', .returned hb, hq⟩
  · rintro stop t' ⟨e, s', rfl, hb, hr⟩
    exact ⟨s', .raised hb, hr⟩
  · intro stop hinterrupts
    exact ⟨s, .before hfault hinterrupts, hbefore stop hinterrupts⟩
  · intro stop hinterrupts
    refine wp_mono hbody ?_ ?_
    · rintro b t' ⟨a, s', hb, -, hr⟩
      exact ⟨s', .after hfault hinterrupts hb, hr stop hinterrupts⟩
    -- The body itself raises, as it does without the fault.
    · rintro stop' t' ⟨e, s', rfl, hb, hr⟩
      exact ⟨s', .raised hb, hr⟩

end Rules

end IncidentAwareness.Lib
