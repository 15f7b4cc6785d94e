import Mathlib.Data.List.Basic
import Mathlib.Order.Defs.Unbundled
import Mathlib.Tactic.Common

/-!
# Registers with a guarded replacement

A register holds at most one value. An offer takes an empty register, and a full
one where it replaces the value held: what `INSERT … ON CONFLICT DO UPDATE …
WHERE` does to the row of one key.

* `offers_relates`: what every replacement preserves, a whole run of offers
  preserves;
* `offers_eq_top`: a value that replaces every offer and that no other offer
  replaces is held in the end, in whatever order and however often all were
  offered.
-/

namespace IncidentAwareness.Lib

variable {α : Type*} (replaces : α → α → Prop) [DecidableRel replaces]

/-- The register after one offer. -/
def offer (held : Option α) (a : α) : Option α :=
  match held with
  | none => some a
  | some b => if replaces a b then some a else some b

/-- The register after a run of offers. -/
def offers (held : Option α) (l : List α) : Option α := l.foldl (offer replaces) held

@[simp] theorem offers_nil (held : Option α) : offers replaces held [] = held := rfl

theorem offers_cons (held : Option α) (a : α) (l : List α) :
    offers replaces held (a :: l) = offers replaces (offer replaces held a) l := rfl

variable {replaces}

theorem offer_some_of {a b : α} (h : replaces a b) : offer replaces (some b) a = some a :=
  if_pos h

theorem offer_some_of_not {a b : α} (h : ¬ replaces a b) : offer replaces (some b) a = some b :=
  if_neg h

/-- A register that holds a value keeps holding one, and the one it holds is
related to the first by whatever preorder every replacement is an instance of. -/
theorem offers_relates {r : α → α → Prop} [Std.Refl r] [IsTrans α r]
    (hr : ∀ a b, replaces a b → r b a) (b : α) (l : List α) :
    ∃ c, offers replaces (some b) l = some c ∧ r b c := by
  induction l generalizing b with
  | nil => exact ⟨b, rfl, Std.Refl.refl b⟩
  | cons a l ih =>
    rw [offers_cons]
    by_cases h : replaces a b
    · rw [offer_some_of h]
      obtain ⟨c, hc, hac⟩ := ih a
      exact ⟨c, hc, IsTrans.trans b a c (hr a b h) hac⟩
    · rw [offer_some_of_not h]
      exact ih b

/-- A value that no offer replaces stays. -/
theorem offers_of_top {t : α} {l : List α} (hkeeps : ∀ a ∈ l, replaces a t → a = t) :
    offers replaces (some t) l = some t := by
  induction l with
  | nil => rfl
  | cons a l ih =>
    have hstep : offer replaces (some t) a = some t := by
      by_cases h : replaces a t
      · rw [offer_some_of h, hkeeps a List.mem_cons_self h]
      · exact offer_some_of_not h
    rw [offers_cons, hstep]
    exact ih fun b hb => hkeeps b (List.mem_cons_of_mem a hb)

/-- The value that replaces every other offer, and that none of them replaces,
is held once it was offered. -/
theorem offers_eq_top {t : α} {l : List α} {held : Option α} (ht : t ∈ l)
    (hheld : ∀ b, held = some b → replaces t b) (htakes : ∀ a ∈ l, replaces t a)
    (hkeeps : ∀ a ∈ l, replaces a t → a = t) : offers replaces held l = some t := by
  induction l generalizing held with
  | nil => exact absurd ht List.not_mem_nil
  | cons a l ih =>
    have hkeeps' : ∀ b ∈ l, replaces b t → b = t := fun b hb => hkeeps b (List.mem_cons_of_mem a hb)
    rw [offers_cons]
    rcases List.mem_cons.mp ht with rfl | ht
    · have hstep : offer replaces held t = some t := by
        cases held with
        | none => rfl
        | some b => exact offer_some_of (hheld b rfl)
      rw [hstep]
      exact offers_of_top hkeeps'
    · refine ih ht ?_ (fun b hb => htakes b (List.mem_cons_of_mem a hb)) hkeeps'
      -- what is held after the offer is the offer or what was held before
      intro b hb
      cases held with
      | none =>
        obtain rfl : a = b := Option.some.inj hb
        exact htakes a List.mem_cons_self
      | some c =>
        by_cases h : replaces a c
        · rw [offer_some_of h] at hb
          obtain rfl : a = b := Option.some.inj hb
          exact htakes a List.mem_cons_self
        · rw [offer_some_of_not h] at hb
          exact hheld b hb

end IncidentAwareness.Lib
