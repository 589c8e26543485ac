import StormPiper.Arithmetic.Binary
import StormPiper.Python.Basic

/-!
# Numbers in Python

Integers without bounds and floats in double precision, with the exceptions of their operators:
`OverflowError` for an integer that is too large for a float and for a power that is,
`ZeroDivisionError` for a division by zero and for a negative power of zero.  Sums, products and
quotients that are too large are infinities, and a power can be too small for a float.

## Main definitions

* `PyFloat`, `PyNum` : floats and numbers.
* `PyFloat.round` : `round(x, n)`.
* `PyFloat.pow` : `x ** y`, where the C library computes the powers of positive numbers.
* `PyNum.add`, `PyNum.sub`, `PyNum.trueDiv`, `PyNum.toInt` : the operators on numbers.
-/

namespace StormPiper

/-- A float: a double, an infinity or NaN. -/
abbrev PyFloat := Extended (Binary binary64)

namespace PyFloat

/-- The float of a decimal literal. -/
def ofRat (x : ℚ) : PyFloat := Binary.ofRat binary64 false x

/-- The sign bit. -/
def isNegative : PyFloat → Bool
  | .finite x => x.negative
  | .negInf => true
  | _ => false

/-- `x == 0`, for both zeros. -/
def isZero : PyFloat → Bool
  | .finite x => decide (x.magnitude = 0)
  | _ => false

/-- `round(x, n)`: the decimal number with `n` digits that is nearest to `x`, the even one of two,
and the float nearest to that.  The sign stays, also where the result is zero. -/
def round (x : PyFloat) (n : ℕ) : PyFloat :=
  match x with
  | .finite x => x.toGrid (10 ^ n)
  | x => x

/-- The float with the other sign. -/
def neg : PyFloat → PyFloat
  | .finite x => .finite { x with negative := !x.negative }
  | .posInf => .negInf
  | .negInf => .posInf
  | .nan => .nan

/-- `x + y` -/
def add : PyFloat → PyFloat → PyFloat
  | .finite x, .finite y =>
    Binary.ofRat binary64 (x.negative && y.negative) (x.toRat + y.toRat)
  | .nan, _ => .nan
  | _, .nan => .nan
  | .posInf, .negInf => .nan
  | .negInf, .posInf => .nan
  | .finite _, y => y
  | x, _ => x

/-- `x - y` -/
def sub (x y : PyFloat) : PyFloat := x.add y.neg

/-- An infinity with the given sign. -/
def infinity (negative : Bool) : PyFloat := if negative then .negInf else .posInf

/-- `x * y` -/
def mul (x y : PyFloat) : PyFloat :=
  match x, y with
  | .finite x, .finite y => Binary.ofRat binary64 (x.negative != y.negative) (x.toRat * y.toRat)
  | .nan, _ => .nan
  | _, .nan => .nan
  | x, y =>
    if x.isZero || y.isZero then .nan else infinity (x.isNegative != y.isNegative)

/-- `x / y` for a `y` other than zero. -/
def quotient : PyFloat → PyFloat → PyFloat
  | .finite x, .finite y => Binary.ofRat binary64 (x.negative != y.negative) (x.toRat / y.toRat)
  | .nan, _ => .nan
  | _, .nan => .nan
  | .finite x, y => Binary.ofRat binary64 (x.negative != y.isNegative) 0
  | x, .finite y => infinity (x.isNegative != y.negative)
  | _, _ => .nan

/-- `x / y` -/
def trueDiv (x y : PyFloat) : Except PyError PyFloat :=
  if y.isZero then .error .zeroDivisionError else .ok (x.quotient y)

/-- The value, for comparisons. -/
def value : PyFloat → Extended ℚ
  | .finite x => .finite x.toRat
  | .posInf => .posInf
  | .negInf => .negInf
  | .nan => .nan

theorem ten_pow_le {n : ℕ} (hn : n ≤ 15) : 10 ^ n ≤ 2 ^ (binary64.prec - 1) :=
  (Nat.pow_le_pow_right (by decide) hn).trans (by decide)

theorem ten_pow_mul_lt {n : ℕ} (hn : n ≤ 15) : ((10 ^ n : ℕ) : ℚ) * 2 ^ binary64.emin < 1 := by
  have hle : ((10 ^ n : ℕ) : ℚ) ≤ 2 ^ 52 := by exact_mod_cast ten_pow_le hn
  have hpow : (2 : ℚ) ^ binary64.emin = (2 ^ 1074)⁻¹ := by
    rw [← zpow_natCast, ← zpow_neg]
    rfl
  rw [hpow, ← div_eq_mul_inv, div_lt_one (by positivity)]
  exact hle.trans_lt (pow_lt_pow_right₀ one_lt_two (by decide))

/-- The float nearest to a number with `n` decimals, or no number. -/
def HasDecimals (n : ℕ) : PyFloat → Prop
  | .finite x => ∃ k : ℕ, binary64.nearest ((k : ℚ) / (10 ^ n : ℕ)) = x.magnitude
  | _ => True

/-- Rounding to at most fifteen digits leaves a float alone if it has no more. -/
theorem round_eq_self_iff {n : ℕ} (hn : n ≤ 15) {x : PyFloat} :
    x.round n = x ↔ x.HasDecimals n := by
  cases x with
  | finite x => exact Binary.toGrid_eq_self_iff (by positivity) (ten_pow_mul_lt hn) (ten_pow_le hn)
  | _ => simp [round, HasDecimals]

/-- **Rounding twice** is rounding once. -/
theorem round_round {n : ℕ} (hn : n ≤ 15) (x : PyFloat) : (x.round n).round n = x.round n := by
  cases x with
  | finite x =>
    obtain ⟨y, hy, hagain⟩ := Binary.exists_toGrid (by positivity) (ten_pow_mul_lt hn)
      (ten_pow_le hn) (by decide) (by decide) x
    change (PyFloat.round (x.toGrid (10 ^ n)) n) = x.toGrid (10 ^ n)
    rw [hy]
    exact hagain
  | _ => rfl

/-- A literal with `n` decimals. -/
theorem hasDecimals_ofRat {n : ℕ} {q : ℚ} {k : ℤ} (h : q = k / (10 ^ n : ℕ)) :
    (ofRat q).HasDecimals n := by
  unfold ofRat Binary.ofRat
  cases hround : Binary.round binary64 (if q = 0 then false else decide (q < 0)) q with
  | finite x =>
    have hmag := (Binary.round_eq_finite.1 hround).2
    refine ⟨k.natAbs, ?_⟩
    rw [← hmag, Binary.nearestRat_eq, h, abs_div, Nat.abs_cast, ← Int.cast_abs,
      Int.abs_eq_natAbs, Int.cast_natCast]
  | _ => trivial

end PyFloat

namespace Binary

/-- `fabs(x)` -/
def abs (x : Binary binary64) : Binary binary64 := { x with negative := false }

/-- `x == floor(x)` -/
def isWhole (x : Binary binary64) : Bool := decide (x.toRat = ⌊x.toRat⌋)

/-- `DOUBLE_IS_ODD_INTEGER(x)` -/
def isOdd (x : Binary binary64) : Bool := x.isWhole && decide (⌊x.toRat⌋ % 2 = 1)

end Binary

/-- The C library: `pow(x, y)` for a positive `x` other than one and a `y` other than zero. -/
abbrev CPow := Binary binary64 → Binary binary64 → PyFloat

namespace PyFloat

/-- `x ** y` of numbers for a `y` other than zero, `none` for a complex number: the special cases of
`float_pow`, and the `pow` of the C library for the rest. -/
def finitePow (cpow : CPow) (x y : Binary binary64) : Except PyError (Option PyFloat) :=
  if x.magnitude = 0 then
    if y.negative then .error .zeroDivisionError
    else .ok (some (if y.isOdd then .finite x else ofRat 0))
  else if x.negative && !y.isWhole then .ok none
  else
    let negate (z : PyFloat) : PyFloat := if x.negative && y.isOdd then z.neg else z
    if x.magnitude = 1 then .ok (some (negate (ofRat 1)))
    else
      match cpow x.abs y with
      | .finite z => .ok (some (negate (.finite z)))
      -- an infinite result is out of range
      | .posInf => .error .overflowError
      | .negInf => .error .overflowError
      | .nan => .ok (some .nan)

/-- `x ** y` of floats, `none` for a complex number: `float_pow`. -/
def pow (cpow : CPow) (x y : PyFloat) : Except PyError (Option PyFloat) :=
  if y.isZero then .ok (some (ofRat 1))
  else
    match x, y with
    | .finite x, .finite y => finitePow cpow x y
    | .nan, _ => .ok (some .nan)
    | .finite x, .nan => .ok (some (if x.toRat = 1 then ofRat 1 else .nan))
    | _, .nan => .ok (some .nan)
    | .finite x, .posInf =>
      .ok (some (if x.magnitude = 1 then ofRat 1 else if 1 < x.magnitude then .posInf else ofRat 0))
    | .finite x, .negInf =>
      .ok (some (if x.magnitude = 1 then ofRat 1 else if 1 < x.magnitude then ofRat 0 else .posInf))
    | _, .posInf => .ok (some .posInf)
    | _, .negInf => .ok (some (ofRat 0))
    | x, .finite y =>
      -- powers of the infinities
      let negate := x.isNegative && y.isOdd
      .ok (some (if y.negative then (if negate then (ofRat 0).neg else ofRat 0)
        else infinity negate))

end PyFloat

/-- A number: an integer or a float. -/
inductive PyNum where
  | int (n : ℤ)
  | float (x : PyFloat)

namespace PyNum

/-- `float(x)` -/
def toFloat : PyNum → Except PyError PyFloat
  | int n =>
    match PyFloat.ofRat n with
    | .finite x => .ok (.finite x)
    | _ => .error .overflowError
  | float x => .ok x

/-- An operator of two numbers: on integers where both are, otherwise on floats. -/
def lift (onInts : ℤ → ℤ → PyNum) (onFloats : PyFloat → PyFloat → PyFloat) :
    PyNum → PyNum → Except PyError PyNum
  | int m, int n => .ok (onInts m n)
  | x, y => do
    let x ← x.toFloat
    let y ← y.toFloat
    return float (onFloats x y)

/-- `x + y` -/
def add : PyNum → PyNum → Except PyError PyNum := lift (fun m n => int (m + n)) PyFloat.add

/-- `x - y` -/
def sub : PyNum → PyNum → Except PyError PyNum := lift (fun m n => int (m - n)) PyFloat.sub

/-- `x / y` -/
def trueDiv : PyNum → PyNum → Except PyError PyFloat
  | int m, int n =>
    if n = 0 then .error .zeroDivisionError
    else
      match PyFloat.ofRat (m / n) with
      | .finite x => .ok (.finite x)
      | _ => .error .overflowError
  | x, y => do
    let x ← x.toFloat
    let y ← y.toFloat
    x.trueDiv y

/-- The value, for comparisons. -/
def value : PyNum → Extended ℚ
  | int n => .finite n
  | float x => x.value

/-- `x < y` -/
def lt (x y : PyNum) : Bool :=
  match x.value, y.value with
  | .finite x, .finite y => decide (x < y)
  | .nan, _ => false
  | _, .nan => false
  | .posInf, _ => false
  | _, .negInf => false
  | _, _ => true

/-- `max(x, y)` -/
def max (x y : PyNum) : PyNum := if x.lt y then y else x

/-- `min(x, y)` -/
def min (x y : PyNum) : PyNum := if y.lt x then y else x

/-- `int(x)` -/
def toInt (x : PyNum) : Except PyError ℤ :=
  match x.value with
  | .finite x => .ok (truncate x)
  | .nan => .error .valueError
  | _ => .error .overflowError

/-- `x == 0` -/
def isZero : PyNum → Bool
  | int n => decide (n = 0)
  | float x => x.isZero

/-- `x ** y` for a float `x`. -/
def floatPow (cpow : CPow) (x : PyFloat) (y : PyNum) : Except PyError (Option PyFloat) := do
  let y ← y.toFloat
  x.pow cpow y

end PyNum

end StormPiper
