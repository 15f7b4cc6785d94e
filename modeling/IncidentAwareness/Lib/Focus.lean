import IncidentAwareness.Lib.Interleaving

/-!
# Transactions on a part of the state

A program for a database `δ` that runs where the committed state has a second part
`ω`, which other sessions change: `onFst` reads and writes the first part only. What
is `Safe` on the database is safe there (`safe_onFst`).
-/

namespace IncidentAwareness.Lib

open Txn Relation

variable {α α' κ δ ω ε : Type}

namespace Txn

/-- A statement on the first part. -/
def fstStatement (w : δ → Except ε δ) : δ × ω → Except ε (δ × ω) := fun x =>
  match w x.1 with
  | .ok d => .ok (d, x.2)
  | .error e => .error e

theorem fstStatement_eq_ok {w : δ → Except ε δ} {x x' : δ × ω} :
    fstStatement w x = .ok x' ↔ w x.1 = .ok x'.1 ∧ x'.2 = x.2 := by
  unfold fstStatement
  cases hw : w x.1 with
  | error e => simp
  | ok d =>
    rw [Except.ok.injEq, Except.ok.injEq, Prod.ext_iff]
    exact and_congr_right fun _ => eq_comm

/-- The program on the first part. -/
def onFst : Txn κ δ ε → Txn κ (δ × ω) ε
  | .lock k next => .lock k (onFst next)
  | .read next => .read fun x => onFst (next x.1)
  | .write w next => .write (fstStatement w) (onFst next)
  | .raise e => .raise e
  | .commit => .commit

/-- The statements show their changes in the first part. -/
theorem view_fstStatement (ws : List (δ → Except ε δ)) (x : δ × ω) :
    view (ws.map fstStatement) x = (view ws x.1, x.2) := by
  induction ws generalizing x with
  | nil => rfl
  | cons w ws ih =>
    have hw : applied (fstStatement w) x = (applied w x.1, x.2) := by
      unfold applied fstStatement
      cases w x.1 <;> rfl
    show view (ws.map fstStatement) (applied (fstStatement w) x) = _
    rw [hw, ih]
    rfl

end Txn

namespace Spec

variable {S : Spec α κ δ ε} {S' : Spec α' κ (δ × ω) ε}

/-- The spec of the whole promises on the first part what the spec of the part does,
and lets the second change. -/
structure Focuses (S' : Spec α' κ (δ × ω) ε) (S : Spec α κ δ ε) : Prop where
  inv : ∀ x, S'.inv x ↔ S.inv x.1
  guarantee : ∀ held x x', S'.guarantee held x x' ↔ S.guarantee held x.1 x'.1
  raises : ∀ a x e, S'.raises a x e
  commits : ∀ a x x', S'.commits a x x'
  proviso : ∀ next x, S'.proviso (onFst (.read next)) x → S.proviso (.read next) x.1

theorem Focuses.interferes (h : Focuses S' S) {held : Set κ} {x x' : δ × ω}
    (hi : S'.Interferes held x x') : S.Interferes held x.1 x'.1 := by
  refine ReflTransGen.lift Prod.fst ?_ _ _ hi
  rintro a b ⟨hinv, held', hdis, hg⟩
  exact ⟨(h.inv b).mp hinv, held', hdis, (h.guarantee held' a b).mp hg⟩

/-- A safe program is safe on the first part. -/
theorem safe_onFst (h : Focuses S' S) {a : α} {a' : α'} {p : Txn κ δ ε} {held : Set κ}
    {ws : List (δ → Except ε δ)} {x : δ × ω} (hs : S.Safe a p held ws x.1) :
    S'.Safe a' (onFst p) held (ws.map fstStatement) x := by
  induction p generalizing held ws x with
  | lock k next ih => exact fun x' hi => ih (hs x'.1 (h.interferes hi))
  | read next ih =>
    intro x' hi hp
    rw [view_fstStatement] at hp ⊢
    exact ih _ (hs x'.1 (h.interferes hi) (h.proviso next _ hp))
  | write w next ih =>
    intro x' hi
    obtain ⟨hok, -⟩ := hs x'.1 (h.interferes hi)
    refine ⟨fun v hv => ?_, fun e _ => h.raises a' x' e⟩
    rw [view_fstStatement] at hv
    have := ih (x := x') (hok v.1 (fstStatement_eq_ok.mp hv).1)
    rwa [List.map_append] at this
  | raise e => exact fun x' _ => h.raises a' x' e
  | commit =>
    intro x' hi
    obtain ⟨hinv, hg, -⟩ := hs x'.1 (h.interferes hi)
    rw [view_fstStatement]
    exact ⟨(h.inv _).mpr hinv, (h.guarantee held x' _).mpr hg, h.commits a' x' _⟩

/-- The same of a program that has written nothing. -/
theorem safe_onFst_nil (h : Focuses S' S) {a : α} {a' : α'} {p : Txn κ δ ε} {held : Set κ} {x : δ × ω}
    (hs : S.Safe a p held [] x.1) : S'.Safe a' (onFst p) held [] x :=
  safe_onFst h hs

end Spec

end IncidentAwareness.Lib
