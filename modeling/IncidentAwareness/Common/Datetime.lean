import IncidentAwareness.Common.Python
import IncidentAwareness.Lib.Raise

/-!
# UTC datetimes at microsecond precision

An aware UTC datetime is an `Int`: its instant in microseconds since the epoch. Adding a
`timedelta` raises where the result leaves the years 1 to 9999.
-/

namespace IncidentAwareness.Common

open IncidentAwareness.Lib

/-- `datetime.min`. -/
def datetimeMin : Int := -62135596800000000

/-- `datetime.max`. -/
def datetimeMax : Int := 253402300799999999

/-- What datetime arithmetic raises outside the supported years. -/
def dateValueOutOfRange : PyError := .overflowError "date value out of range"

/-- `value + delta`. -/
def addTimedelta (value : Int) (delta : Int) : Except PyError Int := do
  raiseIf (value + delta < datetimeMin ∨ datetimeMax < value + delta) dateValueOutOfRange
  return value + delta

/-- The instant of a datetime with UTC offset zero, or the error that names its field. -/
def requireUtc (fieldName : String) : PyDatetime → Except PyError Int
  | .naive => .error (.valueError (fieldName ++ " must include timezone information"))
  | .aware instant utcoffset => do
    raiseIf (utcoffset ≠ 0) (.valueError (fieldName ++ " must be UTC"))
    return instant

/-- The UTC datetime of an instant. -/
def PyDatetime.utc (instant : Int) : PyDatetime := .aware instant 0

@[simp] theorem requireUtc_utc (fieldName : String) (t : Int) :
    requireUtc fieldName (.utc t) = .ok t := by
  simp only [requireUtc, PyDatetime.utc, ne_eq, not_true, not_false_iff, raiseIf_of_not]
  rfl

/-- A datetime is accepted as UTC exactly when it is the UTC datetime of its instant. -/
theorem requireUtc_eq_ok {fieldName : String} {value : PyDatetime} {t : Int} :
    requireUtc fieldName value = .ok t ↔ value = .utc t := by
  constructor
  · intro h
    cases value with
    | naive => cases h
    | aware instant utcoffset =>
      rw [requireUtc, raiseIf_bind_eq_ok, Except.pure_eq_ok] at h
      obtain ⟨hoffset, rfl⟩ := h
      rw [PyDatetime.utc, not_not.mp hoffset]
  · rintro rfl
    exact requireUtc_utc fieldName t

theorem addTimedelta_eq_ok {value t : Int} {delta : Int} :
    addTimedelta value delta = .ok t ↔
      t = value + delta ∧ datetimeMin ≤ value + delta ∧ value + delta ≤ datetimeMax := by
  rw [addTimedelta, raiseIf_bind_eq_ok, Except.pure_eq_ok, not_or, Int.not_lt, Int.not_lt, and_comm]

theorem addTimedelta_eq_error {value : Int} {delta : Int} {e : PyError} :
    addTimedelta value delta = .error e ↔
      e = dateValueOutOfRange ∧ (value + delta < datetimeMin ∨ datetimeMax < value + delta) := by
  unfold addTimedelta raiseIf
  split
  · next h => simp [h, eq_comm]
  · next h =>
    simp only [h, and_false, iff_false]
    exact fun he => nomatch he

/-! ## Clock observations -/

/-- `ceil_utc_clock_observation`. -/
def ceilUtcClockObservation (fieldName : String) (value : PyDatetime) : Except PyError Int := do
  let normalized ← requireUtc fieldName value
  if normalized % 1000 = 0 then return normalized
  else addTimedelta normalized (1000 - normalized % 1000)

/-- The millisecond that a reading of the clock is rounded up to is a datetime. -/
def PyDatetime.CeilsInRange : PyDatetime → Prop
  | .naive => True
  | .aware instant utcoffset => utcoffset = 0 → instant % 1000 ≠ 0 →
    datetimeMin ≤ instant + (1000 - instant % 1000) ∧ instant + (1000 - instant % 1000) ≤ datetimeMax

instance : DecidablePred PyDatetime.CeilsInRange
  | .naive => inferInstanceAs (Decidable True)
  | .aware _ _ => inferInstanceAs (Decidable (_ → _ → _))

/-- An observation is a whole number of milliseconds. -/
theorem ceilUtcClockObservation_mod {fieldName : String} {value : PyDatetime} {t : Int}
    (h : ceilUtcClockObservation fieldName value = .ok t) : t % 1000 = 0 := by
  obtain ⟨normalized, -, h⟩ := Except.bind_eq_ok.mp h
  split at h
  · next hwhole =>
    obtain rfl := Except.pure_eq_ok.mp h
    exact hwhole
  · obtain ⟨rfl, -⟩ := addTimedelta_eq_ok.mp h
    omega

/-- An observation that is not UTC, or whose millisecond is not a datetime, raises. -/
theorem ceilUtcClockObservation_eq_error {fieldName : String} {value : PyDatetime} {e : PyError}
    (h : ceilUtcClockObservation fieldName value = .error e) :
    requireUtc fieldName value = .error e ∨ e = dateValueOutOfRange ∧ ¬ value.CeilsInRange := by
  rcases Except.bind_eq_error.mp h with hutc | ⟨normalized, hutc, hadd⟩
  · exact .inl hutc
  obtain rfl := requireUtc_eq_ok.mp hutc
  clear h
  split at hadd
  · cases hadd
  · next hfraction =>
    obtain ⟨rfl, hout⟩ := addTimedelta_eq_error.mp hadd
    exact .inr ⟨rfl, fun hin => by have := hin rfl hfraction; omega⟩

/-- A reading whose millisecond is not a datetime overflows. -/
theorem ceilUtcClockObservation_of_not {value : PyDatetime} (fieldName : String)
    (h : ¬ value.CeilsInRange) :
    ceilUtcClockObservation fieldName value = .error dateValueOutOfRange := by
  cases value with
  | naive => exact absurd trivial h
  | aware instant utcoffset =>
    have hcases : utcoffset = 0 ∧ instant % 1000 ≠ 0 ∧
        (instant + (1000 - instant % 1000) < datetimeMin ∨
          datetimeMax < instant + (1000 - instant % 1000)) := by
      simp only [PyDatetime.CeilsInRange] at h
      omega
    obtain ⟨rfl, hfraction, hout⟩ := hcases
    have hutc : requireUtc fieldName (.aware instant 0) = .ok instant := requireUtc_utc fieldName instant
    rw [ceilUtcClockObservation, hutc, Except.ok_bind', if_neg hfraction]
    exact addTimedelta_eq_error.mpr ⟨rfl, hout⟩

end IncidentAwareness.Common
