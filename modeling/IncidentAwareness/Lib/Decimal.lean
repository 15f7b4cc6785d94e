import Mathlib.Data.String.Basic
import Mathlib.Tactic.Ring

/-!
# Decimal texts in the order of their numbers

Texts of digits compare as numbers through the digits themselves: without their
leading zeros first by length (`digitsValue_lt_of_length_lt`), then as texts
(`digitsValue_lt_of_lt`). No text is too long for that.
-/

namespace IncidentAwareness.Lib

/-- The digits of a text, read on from a number. -/
def digitsFrom (n : Nat) (cs : List Char) : Nat :=
  cs.foldl (fun n c => 10 * n + (c.toNat - '0'.toNat)) n

/-- The number that the digits of a text write. -/
def digitsValue (cs : List Char) : Nat := digitsFrom 0 cs

variable {cs ds : List Char}

theorem digitsFrom_eq (n : Nat) (cs : List Char) :
    digitsFrom n cs = n * 10 ^ cs.length + digitsValue cs := by
  induction cs generalizing n with
  | nil => simp [digitsValue, digitsFrom]
  | cons c cs ih =>
    have hstep (n : Nat) : digitsFrom n (c :: cs) = digitsFrom (10 * n + (c.toNat - '0'.toNat)) cs :=
      rfl
    rw [digitsValue, hstep, hstep, ih, ih (10 * 0 + _), List.length_cons, Nat.pow_succ]
    ring

theorem digitsValue_cons (c : Char) (cs : List Char) :
    digitsValue (c :: cs) = (c.toNat - '0'.toNat) * 10 ^ cs.length + digitsValue cs := by
  have hstep : digitsValue (c :: cs) = digitsFrom (10 * 0 + (c.toNat - '0'.toNat)) cs := rfl
  rw [hstep, digitsFrom_eq, Nat.mul_zero, Nat.zero_add]

theorem digitsValue_lt (h : ∀ c ∈ cs, c.isDigit = true) : digitsValue cs < 10 ^ cs.length := by
  induction cs with
  | nil => decide
  | cons c cs ih =>
    obtain ⟨hc, hcs⟩ := List.forall_mem_cons.mp h
    have hdigit : c.toNat - '0'.toNat + 1 ≤ 10 := by
      have hbounds := Char.isDigit_iff_toNat.mp hc
      have hzero : '0'.toNat = 48 := by decide
      have hnine : '9'.toNat = 57 := by decide
      omega
    calc digitsValue (c :: cs)
      _ = (c.toNat - '0'.toNat) * 10 ^ cs.length + digitsValue cs := digitsValue_cons c cs
      _ < (c.toNat - '0'.toNat) * 10 ^ cs.length + 10 ^ cs.length := Nat.add_lt_add_left (ih hcs) _
      _ = (c.toNat - '0'.toNat + 1) * 10 ^ cs.length := by ring
      _ ≤ 10 * 10 ^ cs.length := Nat.mul_le_mul_right _ hdigit
      _ = 10 ^ (c :: cs).length := by rw [List.length_cons, Nat.pow_succ, Nat.mul_comm]

/-- A digit other than zero in front. -/
theorem le_digitsValue {c : Char} (hc : c.isDigit = true) (hzero : c ≠ '0') :
    10 ^ cs.length ≤ digitsValue (c :: cs) := by
  have hdigit : 1 ≤ c.toNat - '0'.toNat := by
    have hbounds := Char.isDigit_iff_toNat.mp hc
    have h48 : '0'.toNat = 48 := by decide
    have hne : c.toNat ≠ '0'.toNat := fun h => hzero (Char.toNat_inj.mp h)
    omega
  rw [digitsValue_cons]
  calc 10 ^ cs.length
    _ = 1 * 10 ^ cs.length := (Nat.one_mul _).symm
    _ ≤ (c.toNat - '0'.toNat) * 10 ^ cs.length := Nat.mul_le_mul_right _ hdigit
    _ ≤ (c.toNat - '0'.toNat) * 10 ^ cs.length + digitsValue cs := Nat.le_add_right _ _

/-- Leading zeros add nothing. -/
theorem digitsValue_dropWhile (cs : List Char) :
    digitsValue (cs.dropWhile (· = '0')) = digitsValue cs := by
  induction cs with
  | nil => rfl
  | cons c cs ih =>
    by_cases hc : c = '0'
    · rw [List.dropWhile_cons_of_pos (by simpa using hc), ih, digitsValue_cons, hc, Nat.sub_self,
        Nat.zero_mul, Nat.zero_add]
    · rw [List.dropWhile_cons_of_neg (by simpa using hc)]

/-- Of texts of one length the one that comes first is the smaller number. -/
theorem digitsValue_lt_of_lt (hcs : ∀ c ∈ cs, c.isDigit = true) (hds : ∀ d ∈ ds, d.isDigit = true)
    (hlength : cs.length = ds.length) (h : cs < ds) : digitsValue cs < digitsValue ds := by
  induction cs generalizing ds with
  | nil =>
    rw [List.eq_nil_of_length_eq_zero hlength.symm] at h
    exact absurd h (List.lt_irrefl [])
  | cons c cs ih =>
    cases ds with
    | nil => cases hlength
    | cons d ds =>
      obtain ⟨hc, hcs'⟩ := List.forall_mem_cons.mp hcs
      obtain ⟨hd, hds'⟩ := List.forall_mem_cons.mp hds
      have hrest : cs.length = ds.length := Nat.succ.inj hlength
      rw [digitsValue_cons, digitsValue_cons, hrest]
      obtain hlt | ⟨rfl, hlt⟩ := List.cons_lt_cons_iff.mp h
      · have hdigit : c.toNat - '0'.toNat + 1 ≤ d.toNat - '0'.toNat := by
          have hc := Char.isDigit_iff_toNat.mp hc
          have hlt : c.toNat < d.toNat := UInt32.lt_iff_toNat_lt.mp hlt
          omega
        calc (c.toNat - '0'.toNat) * 10 ^ ds.length + digitsValue cs
          _ < (c.toNat - '0'.toNat) * 10 ^ ds.length + 10 ^ ds.length :=
            Nat.add_lt_add_left (hrest ▸ digitsValue_lt hcs') _
          _ = (c.toNat - '0'.toNat + 1) * 10 ^ ds.length := by ring
          _ ≤ (d.toNat - '0'.toNat) * 10 ^ ds.length := Nat.mul_le_mul_right _ hdigit
          _ ≤ (d.toNat - '0'.toNat) * 10 ^ ds.length + digitsValue ds := Nat.le_add_right _ _
      · exact Nat.add_lt_add_left (ih hcs' hds' hrest hlt) _

/-- Without leading zeros, a shorter text is a smaller number. -/
theorem digitsValue_lt_of_length_lt (hcs : ∀ c ∈ cs, c.isDigit = true)
    (hds : ∀ d ∈ ds, d.isDigit = true) (hzero : ∀ d ∈ ds.head?, d ≠ '0')
    (h : cs.length < ds.length) : digitsValue cs < digitsValue ds := by
  cases ds with
  | nil => cases h
  | cons d ds =>
    calc digitsValue cs
      _ < 10 ^ cs.length := digitsValue_lt hcs
      _ ≤ 10 ^ ds.length := Nat.pow_le_pow_right (by decide) (Nat.le_of_lt_succ h)
      _ ≤ digitsValue (d :: ds) := le_digitsValue (hds d List.mem_cons_self) (hzero d rfl)

end IncidentAwareness.Lib
