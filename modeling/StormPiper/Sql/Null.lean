import Mathlib.Algebra.Order.Field.Basic
import Mathlib.Data.Sign.Defs

/-!
# Nullable numbers

The functions of SQL on numbers that can be null.  Every arithmetic operation on a null is null; a
division by zero is an error, unless the dividend is null.
-/

namespace StormPiper

/-- The errors of an SQL expression. -/
inductive SqlError where
  | divisionByZero
  deriving Repr, DecidableEq

namespace Sql

variable {K : Type} [Field K] [LinearOrder K]

/-- `sign(x)`. -/
def sign (x : Option K) : Option K := x.map fun a => (SignType.sign a : K)

/-- `nullif(x, y)`. -/
def nullif (x y : Option K) : Option K := if x = y then none else x

/-- `coalesce(x, y)`. -/
def coalesce (x y : Option K) : Option K := x.or y

/-- `x * y`. -/
def mul : Option K → Option K → Option K
  | some a, some b => some (a * b)
  | _, _ => none

/-- `x / y`. -/
def div : Option K → Option K → Except SqlError (Option K)
  | some a, some b => if b = 0 then .error .divisionByZero else .ok (some (a / b))
  | _, _ => .ok none

@[simp] theorem sign_none : sign (none : Option K) = none := rfl

omit [LinearOrder K] in
@[simp] theorem mul_none (x : Option K) : mul x none = none := by cases x <;> rfl

@[simp] theorem div_none_left (y : Option K) : div none y = .ok none := rfl

@[simp] theorem div_none_right (x : Option K) : div x none = .ok none := by cases x <;> rfl

theorem div_some_some (a b : K) :
    div (some a) (some b) = if b = 0 then .error .divisionByZero else .ok (some (a / b)) := rfl

/-- A division has a value unless a number is divided by zero. -/
theorem exists_div_eq_ok {x y : Option K} : (∃ z, div x y = .ok z) ↔ (y = some 0 → x = none) := by
  cases x with
  | none => simp
  | some a =>
    cases y with
    | none => simp
    | some b =>
      rw [div_some_some]
      split_ifs with hb
      · simp [hb]
      · simp [hb]

/-- A sign with the negative one taken for zero: 1 for a positive number and 0 for every other. -/
theorem coalesce_nullif_sign (x : Option K) [IsStrictOrderedRing K] :
    coalesce (nullif (sign x) (some (-1))) (some 0) =
      some (if ∃ a ∈ x, 0 < a then 1 else 0) := by
  cases x with
  | none => simp [nullif, coalesce]
  | some a =>
    rcases lt_trichotomy a 0 with h | rfl | h
    · simp [sign, nullif, coalesce, sign_neg h, h.not_gt]
    · simp [sign, nullif, coalesce]
    · have hne : (1 : K) ≠ -1 := ((neg_neg_of_pos zero_lt_one).trans zero_lt_one).ne'
      simp [sign, nullif, coalesce, sign_pos h, h, hne]

end Sql

end StormPiper
