import Mathlib.Data.List.TakeWhile
import Mathlib.Order.Lattice
import Mathlib.Tactic.Common

/-!
# Sliding windows over a stream

A stream is read from its front up to a moment and evicted from its front below
a cutoff: `takeWhile` and `dropWhile`. Reading on and evicting on is reading and
evicting once, for a later moment and a later cutoff (`takeWhile_append_takeWhile`,
`dropWhile_dropWhile_append`). Where the stream is sorted by time, both are
filters of the whole stream (`takeWhile_eq_filter`, `dropWhile_eq_filter`).
-/

namespace IncidentAwareness.Lib

variable {α κ : Type*} {l : List α} {p p' : α → Bool}

/-- Reading on from where a first reading stopped. -/
theorem takeWhile_append_takeWhile (h : ∀ a, p a → p' a) (l : List α) :
    l.takeWhile p ++ (l.dropWhile p).takeWhile p' = l.takeWhile p' := by
  induction l with
  | nil => rfl
  | cons a l ih =>
    by_cases ha : p a = true
    · rw [List.takeWhile_cons_of_pos ha, List.dropWhile_cons_of_pos ha,
        List.takeWhile_cons_of_pos (h a ha), List.cons_append, ih]
    · rw [List.takeWhile_cons_of_neg ha, List.dropWhile_cons_of_neg ha, List.nil_append]

/-- What is left after reading on. -/
theorem dropWhile_dropWhile (h : ∀ a, p a → p' a) (l : List α) :
    (l.dropWhile p).dropWhile p' = l.dropWhile p' := by
  induction l with
  | nil => rfl
  | cons a l ih =>
    by_cases ha : p a = true
    · rw [List.dropWhile_cons_of_pos ha, List.dropWhile_cons_of_pos (h a ha), ih]
    · rw [List.dropWhile_cons_of_neg ha]

/-- Evicting what is already short of its first elements. -/
theorem dropWhile_dropWhile_append (h : ∀ a, p a → p' a) (l l' : List α) :
    (l.dropWhile p ++ l').dropWhile p' = (l ++ l').dropWhile p' := by
  induction l with
  | nil => rfl
  | cons a l ih =>
    by_cases ha : p a = true
    · rw [List.dropWhile_cons_of_pos ha, List.cons_append, List.dropWhile_cons_of_pos (h a ha), ih]
    · rw [List.dropWhile_cons_of_neg ha]

/-- A prefix up to the first element that fails is all the elements that do not,
where none comes after one that fails. -/
theorem takeWhile_eq_filter (h : l.Pairwise fun a b => p b → p a) :
    l.takeWhile p = l.filter p := by
  induction l with
  | nil => rfl
  | cons a l ih =>
    rw [List.pairwise_cons] at h
    by_cases ha : p a = true
    · rw [List.takeWhile_cons_of_pos ha, List.filter_cons_of_pos ha, ih h.2]
    · rw [List.takeWhile_cons_of_neg ha, List.filter_cons_of_neg ha]
      symm
      rw [List.filter_eq_nil_iff]
      exact fun b hb hpb => ha (h.1 b hb hpb)

theorem dropWhile_eq_filter (h : l.Pairwise fun a b => p b → p a) :
    l.dropWhile p = l.filter fun a => ! p a := by
  induction l with
  | nil => rfl
  | cons a l ih =>
    rw [List.pairwise_cons] at h
    by_cases ha : p a = true
    · rw [List.dropWhile_cons_of_pos ha, List.filter_cons_of_neg (by simpa using ha), ih h.2]
    · rw [List.dropWhile_cons_of_neg ha]
      symm
      rw [List.filter_eq_self]
      intro b hb
      have hpb : ¬ p b = true := by
        rcases List.mem_cons.mp hb with rfl | hb
        · exact ha
        · exact fun hpb => ha (h.1 b hb hpb)
      simpa using hpb

/-- A sorted stream, read up to `t` and evicted below `cutoff`. -/
theorem slidingWindow_eq_filter [LinearOrder κ] {time : α → κ}
    (hl : l.Pairwise fun a b => time a ≤ time b) (cutoff t : κ) :
    (l.takeWhile fun a => time a ≤ t).dropWhile (fun a => time a < cutoff) =
      l.filter fun a => cutoff ≤ time a ∧ time a ≤ t := by
  have hread : l.Pairwise fun a b => decide (time b ≤ t) → decide (time a ≤ t) :=
    hl.imp fun hab hb => by
      rw [decide_eq_true_eq] at hb ⊢
      exact hab.trans hb
  have hevict : (l.filter fun a => time a ≤ t).Pairwise fun a b =>
      decide (time b < cutoff) → decide (time a < cutoff) :=
    (hl.filter _).imp fun hab hb => by
      rw [decide_eq_true_eq] at hb ⊢
      exact hab.trans_lt hb
  rw [takeWhile_eq_filter hread, dropWhile_eq_filter hevict, List.filter_filter]
  refine List.filter_congr fun a _ => ?_
  simp only [Bool.decide_and, ← decide_not, not_lt]

end IncidentAwareness.Lib
