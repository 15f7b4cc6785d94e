import Mathlib.Tactic.Common

/-!
# Reports

A check does not raise: it reports findings, each a failure or something it
verified, and goes on. A report is clean when no finding is a failure.

* `Clean`, and what it says of every way to put findings together;
* `scan`: a loop that keeps a state and reports at every item;
* `scan_induction`: what every clean step keeps holds after a clean scan.
-/

namespace IncidentAwareness.Lib

variable {F C α σ : Type}

/-- What a check reports: a failure, or something it verified. -/
inductive Finding (F C : Type) where
  | fail (failure : F)
  | passed (check : C)

def Finding.failure? : Finding F C → Option F
  | .fail failure => some failure
  | .passed _ => none

def Finding.check? : Finding F C → Option C
  | .fail _ => none
  | .passed check => some check

/-- No finding is a failure. -/
def Clean (findings : List (Finding F C)) : Prop := ∀ f ∈ findings, f.failure? = none

/-- A report is clean exactly when the list of its errors is empty. -/
theorem clean_iff {findings : List (Finding F C)} :
    Clean findings ↔ findings.filterMap Finding.failure? = [] := by
  rw [List.filterMap_eq_nil_iff, Clean]

@[simp] theorem clean_nil : Clean ([] : List (Finding F C)) := fun _ hf => nomatch hf

@[simp] theorem clean_append {a b : List (Finding F C)} : Clean (a ++ b) ↔ Clean a ∧ Clean b := by
  simp only [Clean, List.mem_append, or_imp, forall_and]

@[simp] theorem clean_passed {check : C} {l : List (Finding F C)} :
    Clean (.passed check :: l) ↔ Clean l := by
  simp [Clean, Finding.failure?]

@[simp] theorem not_clean_fail {failure : F} {l : List (Finding F C)} :
    ¬ Clean (.fail failure :: l) := by
  simp [Clean, Finding.failure?]

/-- A check that fails under a condition was clean: the condition did not hold. -/
@[simp] theorem clean_ite_fail {p : Prop} [Decidable p] {failure : F} {l : List (Finding F C)} :
    Clean (if p then [.fail failure] else l) ↔ ¬ p ∧ Clean l := by
  by_cases hp : p
  · simp [hp]
  · simp [hp]

/-! ## Loops that report -/

/-- A loop over a list, with the index of every item. -/
def scan (step : σ → Nat → α → σ × List (Finding F C)) :
    σ → Nat → List α → σ × List (Finding F C)
  | s, _, [] => (s, [])
  | s, i, a :: rest =>
    let found := step s i a
    let scanned := scan step found.1 (i + 1) rest
    (scanned.1, found.2 ++ scanned.2)

/-- What every clean step keeps holds after a clean scan, with `done` before it. -/
theorem scan_induction_from {step : σ → Nat → α → σ × List (Finding F C)}
    {Inv : List α → σ → Prop}
    (hstep : ∀ {done s i a}, Inv done s → Clean (step s i a).2 → Inv (done ++ [a]) (step s i a).1)
    {s : σ} {i : Nat} {items done : List α} (hinit : Inv done s)
    (hclean : Clean (scan step s i items).2) : Inv (done ++ items) (scan step s i items).1 := by
  induction items generalizing s i done with
  | nil =>
    rw [List.append_nil]
    exact hinit
  | cons a rest ih =>
    rw [scan, clean_append] at hclean
    have hnext := ih (hstep hinit hclean.1) hclean.2
    rw [List.append_assoc] at hnext
    exact hnext

/-- What holds at the start, and is kept by every clean step, holds after a clean scan. -/
theorem scan_induction {step : σ → Nat → α → σ × List (Finding F C)} (Inv : List α → σ → Prop)
    {s : σ} {items : List α} (hinit : Inv [] s)
    (hstep : ∀ {done s i a}, Inv done s → Clean (step s i a).2 → Inv (done ++ [a]) (step s i a).1)
    (hclean : Clean (scan step s 0 items).2) : Inv items (scan step s 0 items).1 :=
  scan_induction_from hstep hinit hclean

end IncidentAwareness.Lib
