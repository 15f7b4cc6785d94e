import IncidentAwareness.Lib.Process
import IncidentAwareness.Lib.Run

/-!
# Programs from related states

A program respects a relation of states if from two related states it returns one value or
stops with one exception, in related states again. A machine whose every step respects a
relation has one trace from related states (`trace_eq_of_related`).

* `Alike`: two such results;
* `Respects`, and its rule for every construct (`respects_bind`, `respects_reads`,
  `respects_get_bind`, `respects_forM`).
-/

namespace IncidentAwareness.Lib

variable {ε σ α β : Type} {R : σ → σ → Prop}

/-- Both return one value or stop with one exception, in related states. -/
def Alike (R : σ → σ → Prop) : EStateM.Result ε σ α → EStateM.Result ε σ α → Prop
  | .ok a s, .ok b t => a = b ∧ R s t
  | .error e s, .error e' t => e = e' ∧ R s t
  | _, _ => False

variable (R) in
/-- From related states, the program has like results. -/
def Respects (x : EStateM ε σ α) : Prop := ∀ s t, R s t → Alike R (x.run s) (x.run t)

theorem respects_pure (a : α) : Respects R (pure a : EStateM ε σ α) := fun _ _ h => ⟨rfl, h⟩

theorem respects_throw (e : ε) : Respects R (throw e : EStateM ε σ α) := fun _ _ h => ⟨rfl, h⟩

theorem respects_modify {g : σ → σ} (hg : ∀ s t, R s t → R (g s) (g t)) :
    Respects R (modify g : EStateM ε σ Unit) := fun s t h => ⟨rfl, hg s t h⟩

theorem respects_reads {q : σ → Except ε α} (hq : ∀ s t, R s t → q s = q t) :
    Respects R (reads q) := by
  intro s t h
  rw [run_reads, run_reads, hq s t h]
  cases q t with
  | ok a => exact ⟨rfl, h⟩
  | error e => exact ⟨rfl, h⟩

theorem respects_bind {x : EStateM ε σ α} {f : α → EStateM ε σ β} (hx : Respects R x)
    (hf : ∀ a, Respects R (f a)) : Respects R (x >>= f) := by
  intro s t h
  have hlike := hx s t h
  rw [EStateM.run_bind, EStateM.run_bind]
  cases hs : x.run s with
  | ok a s' =>
    cases ht : x.run t with
    | ok b t' =>
      rw [hs, ht] at hlike
      obtain ⟨rfl, h'⟩ := hlike
      exact hf a s' t' h'
    | error e t' =>
      rw [hs, ht] at hlike
      exact hlike.elim
  | error e s' =>
    cases ht : x.run t with
    | ok b t' =>
      rw [hs, ht] at hlike
      exact hlike.elim
    | error e' t' =>
      rw [hs, ht] at hlike
      exact hlike

/-- What a program does with the state does not tell related states apart. -/
theorem respects_get_bind {f : σ → EStateM ε σ α} (hf : ∀ s t, R s t → f s = f t)
    (hrest : ∀ s, Respects R (f s)) : Respects R (get >>= f) := by
  intro s t h
  show Alike R ((f s).run s) ((f t).run t)
  rw [← hf s t h]
  exact hrest s s t h

theorem respects_forM {f : α → EStateM ε σ Unit} (hf : ∀ a, Respects R (f a)) (l : List α) :
    Respects R (l.forM f) := by
  induction l with
  | nil => exact respects_pure ()
  | cons a l ih => exact respects_bind (hf a) fun _ => ih

theorem respects_map {x : EStateM ε σ α} (g : α → β) (hx : Respects R x) : Respects R (g <$> x) := by
  rw [map_eq_pure_bind]
  exact respects_bind hx fun a => respects_pure (g a)

/-- One trace from related states, where every step gives one answer and keeps the relation. -/
theorem trace_eq_of_related {ι ω : Type} {step : σ → ι → σ × ω}
    (hstep : ∀ s t i, R s t → (step s i).2 = (step t i).2 ∧ R (step s i).1 (step t i).1)
    {s t : σ} (h : R s t) (is : List ι) :
    trace step s is = trace step t is ∧ R (after step s is) (after step t is) := by
  induction is generalizing s t with
  | nil => exact ⟨rfl, h⟩
  | cons i is ih =>
    obtain ⟨hanswer, hrelated⟩ := hstep s t i h
    obtain ⟨htrace, hafter⟩ := ih hrelated
    refine ⟨?_, hafter⟩
    show (i, (step s i).2) :: trace step (step s i).1 is =
      (i, (step t i).2) :: trace step (step t i).1 is
    rw [hanswer, htrace]

end IncidentAwareness.Lib
