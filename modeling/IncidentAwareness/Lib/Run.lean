import Mathlib.Data.List.Induction
import Mathlib.Tactic.Common

/-!
# Runs of a deterministic machine

A machine is a step function that reads an input, moves to a new state and
answers. A run is a list of inputs; its trace pairs each input with its answer.
Properties of every reachable state come from one induction each:
`run_induction` for an invariant, `run_of_meets` for an invariant that only
steps meeting a condition preserve, and `run_trace_induction` for what relates
the trace so far to the state reached.
-/

namespace IncidentAwareness.Lib

variable {σ ι ω : Type*}

/-- The state after a run, and its trace: the inputs with their answers. -/
def run (step : σ → ι → σ × ω) : σ → List ι → σ × List (ι × ω)
  | s, [] => (s, [])
  | s, i :: is =>
    let r := run step (step s i).1 is
    (r.1, (i, (step s i).2) :: r.2)

variable (step : σ → ι → σ × ω)

/-- The state after a run. -/
abbrev after (s : σ) (is : List ι) : σ := (run step s is).1

/-- The trace of a run. -/
abbrev trace (s : σ) (is : List ι) : List (ι × ω) := (run step s is).2

@[simp] theorem run_nil (s : σ) : run step s [] = (s, []) := rfl

theorem run_cons (s : σ) (i : ι) (is : List ι) :
    run step s (i :: is) =
      (after step (step s i).1 is, (i, (step s i).2) :: trace step (step s i).1 is) := rfl

theorem run_append (s : σ) (is js : List ι) :
    run step s (is ++ js) =
      (after step (after step s is) js, trace step s is ++ trace step (after step s is) js) := by
  induction is generalizing s with
  | nil => rfl
  | cons i is ih => simp only [List.cons_append, run_cons, after, trace, ih]

theorem after_append (s : σ) (is js : List ι) :
    after step s (is ++ js) = after step (after step s is) js := by
  simp only [after, run_append]

/-- A place in a list one element longer is the last, or a place in the list. -/
theorem split_append_singleton {α : Type*} {l pre post : List α} {a b : α}
    (h : l ++ [b] = pre ++ a :: post) : l = pre ∧ b = a ∨ ∃ post', l = pre ++ a :: post' := by
  rcases List.eq_nil_or_concat post with rfl | ⟨post', c, rfl⟩
  · have hinj := List.append_inj' h rfl
    exact .inl ⟨hinj.1, List.head_eq_of_cons_eq hinj.2⟩
  · rw [List.concat_eq_append, ← List.cons_append, ← List.append_assoc] at h
    exact .inr ⟨post', (List.append_inj' h rfl).1⟩

/-- A run one input longer: its last step starts where the run before it ended. -/
theorem run_snoc (s : σ) (is : List ι) (i : ι) :
    run step s (is ++ [i]) =
      ((step (after step s is) i).1, trace step s is ++ [(i, (step (after step s is) i).2)]) := by
  rw [run_append]; rfl

/-- An invariant that every step preserves holds after every run. -/
theorem run_induction {P : σ → Prop} (hstep : ∀ s i, P s → P (step s i).1) {s : σ} (h : P s)
    (is : List ι) : P (after step s is) := by
  induction is generalizing s with
  | nil => exact h
  | cons i is ih => exact ih (hstep s i h)

/-- A relation between the state and the trace so far that every step extends
holds of every run. -/
theorem run_trace_induction {P : σ → List (ι × ω) → Prop} {s : σ} (h : P s [])
    (hstep : ∀ s t i, P s t → P (step s i).1 (t ++ [(i, (step s i).2)])) (is : List ι) :
    P (after step s is) (trace step s is) := by
  induction is using List.reverseRecOn with
  | nil => exact h
  | append_singleton is i ih =>
    have := hstep _ _ i ih
    rwa [after, trace, run_snoc]

/-- Every step of the run from `s` meets `C`. -/
def Meets (C : σ → ι → Prop) (s : σ) (is : List ι) : Prop :=
  ∀ pre i post, is = pre ++ i :: post → C (after step s pre) i

variable {C : σ → ι → Prop}

/-- An invariant that the steps meeting `C` preserve holds after every run all of
whose steps meet `C`. -/
theorem run_of_meets {P : σ → Prop} (hstep : ∀ s i, P s → C s i → P (step s i).1) {s : σ} (h : P s)
    {is : List ι} (hm : Meets step C s is) : P (after step s is) := by
  induction is using List.reverseRecOn with
  | nil => exact h
  | append_singleton is i ih =>
    have hprev : Meets step C s is := fun pre j post e => hm pre j (post ++ [i]) (by simp [e])
    have := hstep _ i (ih hprev) (hm is i [] rfl)
    rwa [after, run_snoc]

/-- A relation between the state and the trace so far that the steps meeting `C`
extend holds of every run all of whose steps meet `C`. -/
theorem run_trace_of_meets {P : σ → List (ι × ω) → Prop} {s : σ} (h : P s [])
    (hstep : ∀ s t i, P s t → C s i → P (step s i).1 (t ++ [(i, (step s i).2)])) {is : List ι}
    (hm : Meets step C s is) : P (after step s is) (trace step s is) := by
  induction is using List.reverseRecOn with
  | nil => exact h
  | append_singleton is i ih =>
    have hprev : Meets step C s is := fun pre j post e => hm pre j (post ++ [i]) (by simp [e])
    have := hstep _ _ i (ih hprev) (hm is i [] rfl)
    rwa [after, trace, run_snoc]

variable {step}

theorem meets_nil {s : σ} : Meets step C s [] := fun pre i post h => by simp at h

theorem meets_cons {s : σ} {i : ι} {is : List ι} (hc : C s i)
    (h : Meets step C (step s i).1 is) : Meets step C s (i :: is) := by
  intro pre j post hds
  cases pre with
  | nil =>
    obtain ⟨rfl, -⟩ := List.cons.inj hds
    exact hc
  | cons k pre =>
    obtain ⟨rfl, htail⟩ := List.cons.inj hds
    exact h pre j post htail

theorem meets_cons_iff {s : σ} {i : ι} {is : List ι} :
    Meets step C s (i :: is) ↔ C s i ∧ Meets step C (step s i).1 is := by
  refine ⟨fun h => ⟨h [] i is rfl, fun pre j post e => ?_⟩, fun h => meets_cons h.1 h.2⟩
  exact h (i :: pre) j post (by rw [e, List.cons_append])

theorem meets_append {s : σ} {is js : List ι} (h : Meets step C s is)
    (h' : Meets step C (after step s is) js) : Meets step C s (is ++ js) := by
  induction is generalizing s with
  | nil => exact h'
  | cons i is ih =>
    obtain ⟨hc, hrest⟩ := meets_cons_iff.mp h
    exact meets_cons hc (ih hrest h')

instance decidableMeets [∀ s i, Decidable (C s i)] : ∀ s is, Decidable (Meets step C s is)
  | _, [] => isTrue meets_nil
  | s, i :: is =>
    have := decidableMeets (step s i).1 is
    decidable_of_iff _ meets_cons_iff.symm

/-- A prefix of a run meets what the run meets. -/
theorem Meets.of_prefix {s : σ} {is js : List ι} (h : Meets step C s is) (hp : js <+: is) :
    Meets step C s js := by
  obtain ⟨rest, rfl⟩ := hp
  intro before i later heq
  refine h before i (later ++ rest) ?_
  rw [heq, List.append_assoc, List.cons_append]

theorem Meets.imp {C' : σ → ι → Prop} (h : ∀ s i, C s i → C' s i) {s : σ} {is : List ι}
    (hm : Meets step C s is) : Meets step C' s is :=
  fun pre i post e => h _ _ (hm pre i post e)

end IncidentAwareness.Lib
