import Mathlib.Logic.Basic
import Mathlib.Tactic.Common

/-!
# Raising programs

A program that reads and may raise is an `Except ε α`; one that also writes is
an `EStateM ε σ α`, whose state survives the raise. What proofs need of both is
an inversion of every construct: which computations a returned value, or a
raised error, can come from.

* `raiseIf`: the guard `if p: raise e`;
* `reads`: a reading program run on a state it does not change;
* `Except.bind_eq_ok`, `raiseIf_bind_eq_ok`: what a returned value says;
* `run_bind_eq_ok`, `run_bind_eq_error`, `run_reads_eq_ok`: the same for
  stateful programs;
* `Validated`: a value that its validation accepted;
* `outcome`: what a stateful program returns or raises;
* `RaisesOnly`, `RunRaisesOnly`: which errors a program can raise.
-/

namespace IncidentAwareness.Lib

variable {ε σ α β : Type}

/-- `if p: raise e`. -/
def raiseIf (p : Prop) [Decidable p] (e : ε) : Except ε Unit :=
  if p then .error e else .ok ()

theorem Except.bind_eq_ok {x : Except ε α} {f : α → Except ε β} {b : β} :
    (x >>= f) = .ok b ↔ ∃ a, x = .ok a ∧ f a = .ok b := by
  cases x with
  | error e => simp [bind, Except.bind]
  | ok a => simp [bind, Except.bind]

theorem Except.bind_eq_error {x : Except ε α} {f : α → Except ε β} {e : ε} :
    (x >>= f) = .error e ↔ x = .error e ∨ ∃ a, x = .ok a ∧ f a = .error e := by
  cases x with
  | error e => simp [bind, Except.bind]
  | ok a => simp [bind, Except.bind]

theorem Except.pure_eq_ok {a b : α} : (pure a : Except ε α) = .ok b ↔ b = a :=
  ⟨fun h => (Except.ok.inj h).symm, fun h => h ▸ rfl⟩

@[simp] theorem Except.ok_bind' (a : α) (f : α → Except ε β) : (Except.ok a >>= f) = f a := rfl

@[simp] theorem Except.error_bind' (e : ε) (f : α → Except ε β) :
    (Except.error e >>= f) = .error e := rfl

@[simp] theorem Except.mapError_eq_ok {ε' : Type} {x : Except ε α} {f : ε → ε'} {a : α} :
    x.mapError f = .ok a ↔ x = .ok a := by
  cases x <;> simp [Except.mapError]

theorem raiseIf_of_not {p : Prop} [Decidable p] {e : ε} (h : ¬ p) : raiseIf p e = .ok () :=
  if_neg h

theorem raiseIf_of {p : Prop} [Decidable p] {e : ε} (h : p) : raiseIf p e = .error e :=
  if_pos h

theorem raiseIf_eq_ok {p : Prop} [Decidable p] {e : ε} {u : Unit} :
    raiseIf p e = .ok u ↔ ¬ p := by
  unfold raiseIf
  split <;> simp_all

/-- A guard that let the rest of the program return did not hold. -/
theorem raiseIf_bind_eq_ok {p : Prop} [Decidable p] {e : ε} {f : Unit → Except ε α} {a : α} :
    (raiseIf p e >>= f) = .ok a ↔ ¬ p ∧ f () = .ok a := by
  rw [Except.bind_eq_ok]
  exact ⟨fun ⟨_, h, h'⟩ => ⟨raiseIf_eq_ok.mp h, h'⟩, fun ⟨h, h'⟩ => ⟨(), raiseIf_eq_ok.mpr h, h'⟩⟩

/-- A guard whose failure the rest of the program relies on, and that let it return. -/
theorem dite_error_eq_ok {p : Prop} [Decidable p] {e : ε} {f : ¬p → Except ε α} {a : α} :
    (if h : p then .error e else f h) = .ok a ↔ ∃ h : ¬p, f h = .ok a := by
  constructor
  · intro hok
    by_cases h : p
    · rw [dif_pos h] at hok
      cases hok
    · rw [dif_neg h] at hok
      exact ⟨h, hok⟩
  · rintro ⟨h, hok⟩
    rw [dif_neg h, hok]

/-- A check that let the rest of the program return returned itself. -/
theorem Except.unit_bind_eq_ok {x : Except ε Unit} {f : Unit → Except ε α} {a : α} :
    (x >>= f) = .ok a ↔ x = .ok () ∧ f () = .ok a := by
  rw [Except.bind_eq_ok]
  exact ⟨fun ⟨_, h, h'⟩ => ⟨h, h'⟩, fun ⟨h, h'⟩ => ⟨(), h, h'⟩⟩

/-- Guards of one condition, and programs that agree where it does not hold. -/
theorem raiseIf_bind_congr {p q : Prop} [Decidable p] [Decidable q] {e : ε} {f g : Unit → Except ε α}
    (h : p ↔ q) (hfg : ¬ p → f () = g ()) : (raiseIf p e >>= f) = (raiseIf q e >>= g) := by
  by_cases hp : p
  · rw [raiseIf_of hp, raiseIf_of (h.mp hp)]
    rfl
  · rw [raiseIf_of_not hp, raiseIf_of_not (mt h.mpr hp)]
    exact hfg hp

/-- Programs that agree in a view after every value of a first one. -/
theorem Except.map_bind_congr {γ : Type} {x : Except ε α} {f f' : α → Except ε β} {view : β → γ}
    (h : ∀ a, x = .ok a → (f a).map view = (f' a).map view) :
    (x >>= f).map view = (x >>= f').map view := by
  cases hx : x with
  | error e => rfl
  | ok a => exact h a hx

/-! ## Validated values -/

/-- A value together with the fact that its validation returned. -/
abbrev Validated (validate : α → Except ε Unit) : Type := {a : α // validate a = .ok ()}

/-- Validate a value, and keep that it is valid. -/
def construct (validate : α → Except ε Unit) (a : α) : Except ε (Validated validate) :=
  match h : validate a with
  | .ok () => .ok ⟨a, h⟩
  | .error e => .error e

theorem construct_eq_error {validate : α → Except ε Unit} {a : α} {e : ε}
    (h : validate a = .error e) : construct validate a = .error e := by
  unfold construct
  split
  · next ha =>
    rw [h] at ha
    cases ha
  · next e' he =>
    obtain rfl := Except.error.inj (h.symm.trans he)
    rfl

theorem construct_eq_ok {validate : α → Except ε Unit} {a : α} (h : validate a = .ok ()) :
    construct validate a = .ok ⟨a, h⟩ := by
  unfold construct
  split
  · rfl
  · next e he =>
    rw [h] at he
    exact nomatch he

theorem val_of_construct {validate : α → Except ε Unit} {a : α} {v : Validated validate}
    (h : construct validate a = .ok v) : v.val = a := by
  unfold construct at h
  split at h
  · exact congrArg Subtype.val (Except.ok.inj h).symm
  · cases h

/-- A check of every element. -/
theorem forM_eq_ok {f : α → Except ε Unit} {l : List α} :
    l.forM f = .ok () ↔ ∀ a ∈ l, f a = .ok () := by
  induction l with
  | nil => exact ⟨fun _ a ha => absurd ha List.not_mem_nil, fun _ => rfl⟩
  | cons a l ih =>
    show (f a >>= fun _ => l.forM f) = .ok ⟨⟩ ↔ _
    rw [Except.bind_eq_ok, List.forall_mem_cons, ← ih]
    exact ⟨fun ⟨_, h, h'⟩ => ⟨h, h'⟩, fun ⟨h, h'⟩ => ⟨⟨⟩, h, h'⟩⟩

/-- A program over a list that can return at every element. -/
theorem exists_mapM {f : α → Except ε β} {γ : Type} {g : α → γ} {view : β → γ} {l : List α}
    (h : ∀ a ∈ l, ∃ b, f a = .ok b ∧ view b = g a) :
    ∃ bs, l.mapM f = .ok bs ∧ bs.map view = l.map g := by
  induction l with
  | nil => exact ⟨[], rfl, rfl⟩
  | cons a l ih =>
    obtain ⟨b, hb, hview⟩ := h a List.mem_cons_self
    obtain ⟨bs, hbs, hmap⟩ := ih fun a ha => h a (List.mem_cons_of_mem _ ha)
    refine ⟨b :: bs, ?_, by rw [List.map_cons, List.map_cons, hview, hmap]⟩
    rw [List.mapM_cons, hb, Except.ok_bind', hbs]
    rfl

/-- A program over a list whose elements raise no more than one error, and one of which does. -/
theorem mapM_eq_error {f : α → Except ε β} {e : ε} {l : List α}
    (hone : ∀ a ∈ l, (∃ b, f a = .ok b) ∨ f a = .error e) (hsome : ∃ a ∈ l, f a = .error e) :
    l.mapM f = .error e := by
  induction l with
  | nil => exact absurd hsome.choose_spec.1 List.not_mem_nil
  | cons a l ih =>
    rw [List.mapM_cons]
    rcases hone a List.mem_cons_self with ⟨b, hb⟩ | ha
    · obtain ⟨a', hmem, ha'⟩ := hsome
      have hne : a' ≠ a := by
        rintro rfl
        exact absurd (hb.symm.trans ha') nofun
      rw [hb, Except.ok_bind', ih (fun a ha => hone a (List.mem_cons_of_mem _ ha))
        ⟨a', List.mem_of_ne_of_mem hne hmem, ha'⟩, Except.error_bind']
    · rw [ha, Except.error_bind']

/-- A program over a list that returns a value of every element. -/
theorem mapM_eq_ok_map {f : α → Except ε β} {g : α → β} {l : List α}
    (h : ∀ a ∈ l, f a = .ok (g a)) : l.mapM f = .ok (l.map g) := by
  have hview : ∀ a ∈ l, ∃ b, f a = .ok b ∧ id b = g a := fun a ha => ⟨g a, h a ha, rfl⟩
  obtain ⟨bs, hbs, hmap⟩ := exists_mapM hview
  rw [hbs, ← hmap, List.map_id]

theorem mapM_cons_eq_ok {f : α → Except ε β} {a : α} {l : List α} {bs : List β} :
    (a :: l).mapM f = .ok bs ↔ ∃ b bs', f a = .ok b ∧ l.mapM f = .ok bs' ∧ bs = b :: bs' := by
  rw [List.mapM_cons, Except.bind_eq_ok]
  constructor
  · rintro ⟨b, hb, h⟩
    obtain ⟨bs', hbs', hcons⟩ := Except.bind_eq_ok.mp h
    exact ⟨b, bs', hb, hbs', Except.pure_eq_ok.mp hcons⟩
  · rintro ⟨b, bs', hb, hbs', rfl⟩
    exact ⟨b, hb, Except.bind_eq_ok.mpr ⟨bs', hbs', rfl⟩⟩

/-- What a program over a list keeps of every element. -/
theorem map_of_mapM {f : α → Except ε β} {γ : Type} {g : α → γ} {view : β → γ} {l : List α}
    {bs : List β} (h : ∀ a b, f a = .ok b → view b = g a) (hbs : l.mapM f = .ok bs) :
    bs.map view = l.map g := by
  induction l generalizing bs with
  | nil => rw [Except.pure_eq_ok.mp hbs]; rfl
  | cons a l ih =>
    obtain ⟨b, bs', hb, hbs', rfl⟩ := mapM_cons_eq_ok.mp hbs
    rw [List.map_cons, List.map_cons, h a b hb, ih hbs']

/-- What is found by its key among the values of a program over a list of keys. -/
theorem find?_of_mapM [DecidableEq α] {f : α → Except ε β} {key : β → α} {l : List α} {bs : List β}
    (hkey : ∀ a b, f a = .ok b → key b = a) (hbs : l.mapM f = .ok bs) (a : α) :
    bs.find? (fun b => key b = a) = if a ∈ l then (f a).toOption else none := by
  induction l generalizing bs with
  | nil => rw [Except.pure_eq_ok.mp hbs]; rfl
  | cons c l ih =>
    obtain ⟨b, bs', hb, hbs', rfl⟩ := mapM_cons_eq_ok.mp hbs
    rw [List.find?_cons, hkey c b hb]
    by_cases hca : c = a
    · rw [← hca, if_pos List.mem_cons_self, hb]
      simp [Except.toOption]
    · have hmem : a ∈ c :: l ↔ a ∈ l := by simp [Ne.symm hca]
      simp only [hca, decide_false, ih hbs', hmem]

theorem exists_of_mem_mapM {f : α → Except ε β} {l : List α} {bs : List β}
    (hbs : l.mapM f = .ok bs) {b : β} (hb : b ∈ bs) : ∃ a ∈ l, f a = .ok b := by
  induction l generalizing bs with
  | nil => rw [Except.pure_eq_ok.mp hbs] at hb; cases hb
  | cons a l ih =>
    obtain ⟨b', bs', hb', hbs', rfl⟩ := mapM_cons_eq_ok.mp hbs
    rcases List.mem_cons.mp hb with rfl | hb
    · exact ⟨a, List.mem_cons_self, hb'⟩
    · obtain ⟨a', ha', hf⟩ := ih hbs' hb
      exact ⟨a', List.mem_cons_of_mem a ha', hf⟩

theorem exists_of_mapM_mem {f : α → Except ε β} {l : List α} {bs : List β}
    (hbs : l.mapM f = .ok bs) {a : α} (ha : a ∈ l) : ∃ b ∈ bs, f a = .ok b := by
  induction l generalizing bs with
  | nil => exact absurd ha List.not_mem_nil
  | cons c l ih =>
    obtain ⟨b', bs', hb', hbs', rfl⟩ := mapM_cons_eq_ok.mp hbs
    rcases List.mem_cons.mp ha with rfl | ha
    · exact ⟨b', List.mem_cons_self, hb'⟩
    · obtain ⟨b, hb, hf⟩ := ih hbs' ha
      exact ⟨b, List.mem_cons_of_mem b' hb, hf⟩

/-! ## Stateful programs -/

/-- Run a reading program on the state, which it leaves as it is. -/
def reads (q : σ → Except ε α) : EStateM ε σ α := fun s =>
  match q s with
  | .ok a => .ok a s
  | .error e => .error e s

theorem run_reads (q : σ → Except ε α) (s : σ) :
    (reads q).run s = match q s with
      | .ok a => .ok a s
      | .error e => .error e s := rfl

theorem run_reads_eq_ok {q : σ → Except ε α} {s s' : σ} {a : α} :
    (reads q).run s = .ok a s' ↔ q s = .ok a ∧ s' = s := by
  rw [run_reads]
  cases q s with
  | error e => simp
  | ok a' => simp [eq_comm (a := s)]

theorem run_reads_eq_error {q : σ → Except ε α} {s s' : σ} {e : ε} :
    (reads q).run s = .error e s' ↔ q s = .error e ∧ s' = s := by
  rw [run_reads]
  cases q s with
  | error e' => simp [eq_comm (a := s)]
  | ok a => simp

theorem run_bind_eq_ok {x : EStateM ε σ α} {f : α → EStateM ε σ β} {s s' : σ} {b : β} :
    (x >>= f).run s = .ok b s' ↔ ∃ a s₁, x.run s = .ok a s₁ ∧ (f a).run s₁ = .ok b s' := by
  rw [EStateM.run_bind]
  cases x.run s with
  | error e s₁ => simp
  | ok a s₁ => simp

/-- A check before the rest of a stateful program. -/
theorem run_check_eq_ok {x : Except ε Unit} {f : Unit → EStateM ε σ β} {s s' : σ} {b : β} :
    (reads (fun _ => x) >>= f).run s = .ok b s' ↔ x = .ok () ∧ (f ()).run s = .ok b s' := by
  rw [run_bind_eq_ok]
  constructor
  · rintro ⟨_, _, hread, h⟩
    obtain ⟨hx, rfl⟩ := run_reads_eq_ok.mp hread
    exact ⟨hx, h⟩
  · rintro ⟨hx, h⟩
    exact ⟨(), s, run_reads_eq_ok.mpr ⟨hx, rfl⟩, h⟩

/-- A program whose first part returns. -/
theorem run_bind_of_ok {x : EStateM ε σ α} {f : α → EStateM ε σ β} {s s' : σ} {a : α}
    (h : x.run s = .ok a s') : (x >>= f).run s = (f a).run s' := by
  rw [EStateM.run_bind, h]

theorem run_bind_eq_error {x : EStateM ε σ α} {f : α → EStateM ε σ β} {s s' : σ} {e : ε} :
    (x >>= f).run s = .error e s' ↔
      x.run s = .error e s' ∨ ∃ a s₁, x.run s = .ok a s₁ ∧ (f a).run s₁ = .error e s' := by
  rw [EStateM.run_bind]
  cases x.run s with
  | error e s₁ => simp
  | ok a s₁ => simp

/-- What a stateful program returns or raises, without the state it leaves. -/
def outcome (x : EStateM ε σ α) (s : σ) : Except ε α :=
  match x.run s with
  | .ok a _ => .ok a
  | .error e _ => .error e

theorem outcome_bind_of_ok {x : EStateM ε σ α} {f : α → EStateM ε σ β} {s s' : σ} {a : α}
    (h : x.run s = .ok a s') : outcome (x >>= f) s = outcome (f a) s' := by
  simp only [outcome, EStateM.run_bind, h]

theorem outcome_bind_of_error {x : EStateM ε σ α} {f : α → EStateM ε σ β} {s s' : σ} {e : ε}
    (h : x.run s = .error e s') : outcome (x >>= f) s = .error e := by
  simp only [outcome, EStateM.run_bind, h]

/-- A reading program before the rest. -/
theorem outcome_reads_bind (q : σ → Except ε α) (f : α → EStateM ε σ β) (s : σ) :
    outcome (reads q >>= f) s = q s >>= fun a => outcome (f a) s := by
  cases h : q s with
  | error e => exact outcome_bind_of_error (run_reads_eq_error.mpr ⟨h, rfl⟩)
  | ok a => exact outcome_bind_of_ok (run_reads_eq_ok.mpr ⟨h, rfl⟩)

/-- A program whose rest does not depend on the state. -/
theorem outcome_bind {x : EStateM ε σ α} {f : α → EStateM ε σ β} {g : α → Except ε β}
    (h : ∀ a s, outcome (f a) s = g a) (s : σ) : outcome (x >>= f) s = outcome x s >>= g := by
  cases hx : x.run s with
  | error e s' => rw [outcome_bind_of_error hx, outcome, hx, Except.error_bind']
  | ok a s' => rw [outcome_bind_of_ok hx, h, outcome, hx, Except.ok_bind']

theorem outcome_reads (q : σ → Except ε α) (s : σ) : outcome (reads q) s = q s := by
  rw [outcome, run_reads]
  cases q s <;> rfl

@[simp] theorem outcome_pure (a : α) (s : σ) : outcome (pure a : EStateM ε σ α) s = .ok a := rfl

/-! ## Which errors are raised -/

/-- The errors that `x` raises satisfy `Q`. -/
def RaisesOnly (Q : ε → Prop) (x : Except ε α) : Prop := ∀ e, x = .error e → Q e

/-- The errors that `x` raises, from any state, satisfy `Q`. -/
def RunRaisesOnly (Q : ε → Prop) (x : EStateM ε σ α) : Prop :=
  ∀ s e s', x.run s = .error e s' → Q e

variable {Q : ε → Prop}

theorem raisesOnly_ok (a : α) : RaisesOnly Q (.ok a : Except ε α) := fun _ h => nomatch h

theorem raisesOnly_error {e : ε} (h : Q e) : RaisesOnly Q (.error e : Except ε α) := by
  rintro _ ⟨⟩; exact h

theorem raisesOnly_raiseIf {p : Prop} [Decidable p] {e : ε} (h : Q e) :
    RaisesOnly Q (raiseIf p e) := by
  unfold raiseIf
  split
  · exact raisesOnly_error h
  · exact raisesOnly_ok ()

theorem raisesOnly_bind {x : Except ε α} {f : α → Except ε β} (hx : RaisesOnly Q x)
    (hf : ∀ a, RaisesOnly Q (f a)) : RaisesOnly Q (x >>= f) := by
  intro e h
  rcases Except.bind_eq_error.mp h with h | ⟨a, -, h⟩
  · exact hx e h
  · exact hf a e h

/-- The checks of a check of every element raise what one of them does. -/
theorem raisesOnly_forM {f : α → Except ε Unit} {l : List α} (h : ∀ a ∈ l, RaisesOnly Q (f a)) :
    RaisesOnly Q (l.forM f) := by
  induction l with
  | nil => exact raisesOnly_ok ()
  | cons a l ih =>
    refine raisesOnly_bind (h a List.mem_cons_self) fun _ => ?_
    exact ih fun b hb => h b (List.mem_cons_of_mem _ hb)

theorem runRaisesOnly_pure (a : α) : RunRaisesOnly Q (pure a : EStateM ε σ α) :=
  fun _ _ _ h => nomatch h

theorem runRaisesOnly_reads {q : σ → Except ε α} (h : ∀ s, RaisesOnly Q (q s)) :
    RunRaisesOnly Q (reads q) := fun s e _ hr => h s e (run_reads_eq_error.mp hr).1

theorem runRaisesOnly_bind {x : EStateM ε σ α} {f : α → EStateM ε σ β} (hx : RunRaisesOnly Q x)
    (hf : ∀ a, RunRaisesOnly Q (f a)) : RunRaisesOnly Q (x >>= f) := by
  intro s e s' h
  rcases run_bind_eq_error.mp h with h | ⟨a, s₁, -, h⟩
  · exact hx s e s' h
  · exact hf a s₁ e s' h

end IncidentAwareness.Lib
