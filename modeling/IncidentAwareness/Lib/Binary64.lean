import Mathlib.Algebra.Order.Field.Power
import Mathlib.Data.Int.Log
import Mathlib.Data.Rat.Floor
import Mathlib.Tactic.Linarith
import Mathlib.Tactic.NormNum
import Mathlib.Tactic.Positivity

/-!
# Rounding to binary64

The nearest binary64 number to a non-negative rational of its normal range, ties
to the even significand (`binary64`): a whole number of units in the last place,
which is `2 ^ (e - 52)` for a rational between `2 ^ e` and `2 ^ (e + 1)`.

* `le_roundHalfEven`, `roundHalfEven_le`: rounding passes no whole number;
* `abs_roundHalfEven_sub`, `abs_binary64_sub`: rounding moves by at most half a unit;
* `binary64_zero`, `binary64_nonneg`, `binary64_le_one`: rounding stays in `[0, 1]`.
-/

namespace IncidentAwareness.Lib

/-! ## Whole numbers -/

/-- The nearest whole number, ties to even. -/
def roundHalfEven (q : ℚ) : ℤ :=
  if Int.fract q < 1 / 2 then ⌊q⌋
  else if 1 / 2 < Int.fract q then ⌊q⌋ + 1
  else if ⌊q⌋ % 2 = 0 then ⌊q⌋ else ⌊q⌋ + 1

theorem roundHalfEven_eq_or (q : ℚ) :
    roundHalfEven q = ⌊q⌋ ∨ (roundHalfEven q = ⌊q⌋ + 1 ∧ 0 < Int.fract q) := by
  unfold roundHalfEven
  split
  · exact .inl rfl
  · next h =>
    have hpos : 0 < Int.fract q := by linarith
    split
    · exact .inr ⟨rfl, hpos⟩
    · split
      · exact .inl rfl
      · exact .inr ⟨rfl, hpos⟩

/-- Rounding passes no whole number on the way down. -/
theorem le_roundHalfEven {q : ℚ} {n : ℤ} (h : (n : ℚ) ≤ q) : n ≤ roundHalfEven q := by
  have hfloor : n ≤ ⌊q⌋ := Int.le_floor.mpr h
  rcases roundHalfEven_eq_or q with heq | ⟨heq, -⟩
  · omega
  · omega

/-- Rounding passes no whole number on the way up. -/
theorem roundHalfEven_le {q : ℚ} {n : ℤ} (h : q ≤ (n : ℚ)) : roundHalfEven q ≤ n := by
  rcases roundHalfEven_eq_or q with heq | ⟨heq, hpos⟩
  · rw [heq]
    exact_mod_cast (Int.floor_le q).trans h
  · have hlt : (⌊q⌋ : ℚ) < n := by
      have := Int.self_sub_floor q
      linarith
    have : ⌊q⌋ < n := by exact_mod_cast hlt
    omega

/-- Rounding moves by at most one half. -/
theorem abs_roundHalfEven_sub (q : ℚ) : |(roundHalfEven q : ℚ) - q| ≤ 1 / 2 := by
  have hfract := Int.self_sub_floor q
  have hnonneg := Int.fract_nonneg q
  have hlt := Int.fract_lt_one q
  rw [abs_le]
  unfold roundHalfEven
  split
  · constructor <;> linarith
  · split
    · push_cast
      constructor <;> linarith
    · split
      · constructor <;> linarith
      · push_cast
        constructor <;> linarith

/-- What is closer to a whole number than one half rounds to it. -/
theorem roundHalfEven_eq {q : ℚ} {n : ℤ} (h : |q - n| < 1 / 2) : roundHalfEven q = n := by
  have hround := abs_le.mp (abs_roundHalfEven_sub q)
  obtain ⟨hlower, hupper⟩ := abs_lt.mp h
  have hlt : ((roundHalfEven q - n : ℤ) : ℚ) < 1 := by
    push_cast
    linarith [hround.2]
  have hgt : (-1 : ℚ) < (roundHalfEven q - n : ℤ) := by
    push_cast
    linarith [hround.1]
  have hlt' : roundHalfEven q - n < 1 := by exact_mod_cast hlt
  have hgt' : -1 < roundHalfEven q - n := by exact_mod_cast hgt
  omega

/-! ## Binary64 -/

/-- One unit in the last place of the binary64 numbers around `q`. -/
def ulp (q : ℚ) : ℚ := 2 ^ (Int.log 2 q - 52)

/-- The nearest binary64 number to `q`, ties to even. -/
def binary64 (q : ℚ) : ℚ := roundHalfEven (q / ulp q) * ulp q

theorem ulp_pos (q : ℚ) : 0 < ulp q := zpow_pos two_pos _

/-- A number below a power of two has units of at most that power's. -/
theorem ulp_le {q : ℚ} {e : ℤ} (hpos : 0 < q) (h : q < 2 ^ e) : ulp q ≤ 2 ^ (e - 53) := by
  have hlog : Int.log 2 q < e := (Int.lt_zpow_iff_log_lt one_lt_two hpos).mp (by exact_mod_cast h)
  exact zpow_le_zpow_right₀ one_le_two (by omega)

/-- Rounding to binary64 moves by at most half a unit in the last place. -/
theorem abs_binary64_sub (q : ℚ) : |binary64 q - q| ≤ ulp q / 2 := by
  have hround := abs_roundHalfEven_sub (q / ulp q)
  have hq : binary64 q - q = (roundHalfEven (q / ulp q) - q / ulp q) * ulp q := by
    rw [binary64, sub_mul, div_mul_cancel₀ q (ulp_pos q).ne']
  rw [hq, abs_mul, abs_of_pos (ulp_pos q)]
  calc |(roundHalfEven (q / ulp q) : ℚ) - q / ulp q| * ulp q
      ≤ 1 / 2 * ulp q := mul_le_mul_of_nonneg_right hround (ulp_pos q).le
    _ = ulp q / 2 := by ring

@[simp] theorem binary64_zero : binary64 0 = 0 := by
  have h : roundHalfEven 0 = 0 := by norm_num [roundHalfEven]
  rw [binary64, zero_div, h, Int.cast_zero, zero_mul]

theorem binary64_nonneg {q : ℚ} (h : 0 ≤ q) : 0 ≤ binary64 q := by
  have hround : 0 ≤ roundHalfEven (q / ulp q) :=
    le_roundHalfEven (by simpa using div_nonneg h (ulp_pos q).le)
  exact mul_nonneg (by exact_mod_cast hround) (ulp_pos q).le

/-- `2 ^ n` units below `2 ^ n` times the unit: no rounding passes a power of two. -/
theorem binary64_le_zpow {q : ℚ} {e : ℤ} (he : Int.log 2 q ≤ e + 52) (h : q ≤ 2 ^ e) :
    binary64 q ≤ 2 ^ e := by
  obtain ⟨n, hn⟩ : ∃ n : ℕ, e - (Int.log 2 q - 52) = n :=
    ⟨(e - (Int.log 2 q - 52)).toNat, by omega⟩
  have hpow : (2 : ℚ) ^ e = ((2 ^ n : ℤ) : ℚ) * ulp q := by
    rw [ulp, Int.cast_pow, Int.cast_ofNat, ← zpow_natCast, ← zpow_add₀ two_ne_zero, ← hn]
    congr 1
    omega
  have hround : roundHalfEven (q / ulp q) ≤ 2 ^ n := by
    apply roundHalfEven_le
    rw [div_le_iff₀ (ulp_pos q), ← hpow]
    exact h
  rw [binary64, hpow]
  exact mul_le_mul_of_nonneg_right (by exact_mod_cast hround) (ulp_pos q).le

theorem binary64_le_one {q : ℚ} (hpos : 0 < q) (h : q ≤ 1) : binary64 q ≤ 1 := by
  have hlog : Int.log 2 q ≤ 0 := by
    have := Int.log_mono_right (b := 2) hpos h
    rwa [Int.log_one_right] at this
  simpa using binary64_le_zpow (e := 0) (by omega) (by simpa using h)

example : binary64 (1 / 3) = 6004799503160661 / 18014398509481984 := by decide +kernel

end IncidentAwareness.Lib
