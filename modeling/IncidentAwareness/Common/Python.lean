import Mathlib.Tactic.Common

/-!
# What the models take from Python

Strings (`strip`, `isdecimal`, `int`), datetimes and raised errors, as far as
the modelled functions use them. An identifier that a validator accepted is an
`Identifier`: non-empty, and equal to itself stripped.
-/

namespace IncidentAwareness.Common

/-! ## Strings -/

/-- The characters `str.strip` removes. -/
def isSpace (c : Char) : Bool :=
  let n := c.toNat
  (9 ≤ n && n ≤ 13) || (28 ≤ n && n ≤ 32) || n == 0x85 || n == 0xA0 || n == 0x1680 ||
    (0x2000 ≤ n && n ≤ 0x200A) || n == 0x2028 || n == 0x2029 || n == 0x202F || n == 0x205F ||
    n == 0x3000

/-- `str.strip`, on the characters. -/
def strip (s : String) : List Char :=
  ((s.toList.dropWhile isSpace).reverse.dropWhile isSpace).reverse

/-- `not value.strip()`. -/
def isBlank (s : String) : Bool := (strip s).isEmpty

/-- `value != value.strip()`. -/
def isPadded (s : String) : Bool := strip s != s.toList

/-- `btrim(value) = ''` in PostgreSQL, which trims spaces only. -/
def isBtrimEmpty (s : String) : Bool := s.toList.all (· == ' ')

/-- A string of ASCII characters `0`–`9`, not empty (`isascii` and `isdecimal`). -/
def isAsciiDecimal (s : String) : Bool := !s.toList.isEmpty && s.toList.all Char.isDigit

/-- `int(value)` of a string of decimal digits. -/
def decimalInt (s : String) : Nat := s.toList.foldl (fun n c => 10 * n + (c.toNat - '0'.toNat)) 0

/-- `str(n)`. -/
def decimalStr (n : Nat) : List Char := Nat.toDigits 10 n

/-- A non-empty identifier without leading or trailing whitespace. -/
structure Identifier where
  val : String
  nonempty : val ≠ ""
  unpadded : isPadded val = false
  deriving Repr

@[ext] theorem Identifier.ext {a b : Identifier} (h : a.val = b.val) : a = b := by
  cases a; cases b; simpa using h

instance : DecidableEq Identifier := fun a b =>
  decidable_of_iff (a.val = b.val) ⟨Identifier.ext, congrArg _⟩

theorem strip_eq_of_not_isPadded {s : String} (h : isPadded s = false) : strip s = s.toList := by
  simpa [isPadded] using h

/-- An accepted identifier is not blank. -/
theorem Identifier.not_isBlank (a : Identifier) : isBlank a.val = false := by
  rw [isBlank, strip_eq_of_not_isPadded a.unpadded]
  simpa using a.nonempty

/-! ## Datetimes -/

/-- An aware UTC datetime at millisecond precision, as milliseconds since the epoch. -/
abbrev UtcMillis := Int

/-- A `datetime`: naive, or aware with its instant in microseconds since the
epoch and its offset from UTC in microseconds. -/
inductive PyDatetime where
  | naive
  | aware (instant utcoffset : Int)
  deriving DecidableEq, Repr

/-! ## Raised errors -/

/-- What a modelled function raises. Where a message quotes a value with `!r`,
the value stands between the texts around it. -/
inductive PyError where
  | valueError (text : String)
  | valueErrorQuoting (head quoted tail : String)
  | typeError (text : String)
  | lateStreamEventError (chunkId watermarkId : String)
  | databaseError (text : String)
  | overflowError (text : String)
  | assertionError
  deriving DecidableEq, Repr

end IncidentAwareness.Common
