import Mathlib.Algebra.Order.Field.Basic
import Mathlib.Algebra.Order.Floor.Ring
import Mathlib.Algebra.Order.Round
import Mathlib.Data.List.Nodup

/-!
# Numbers with infinities

The cells of a column of floats: numbers of an ordered field, the two infinities and NaN, with the
rules of IEEE arithmetic for the special values and exact arithmetic for the numbers.

Also here: truncation to whole numbers, rounding to a multiple of a unit, and ranges with a step.
-/

namespace StormPiper

/-- A cell of a column of floats. -/
inductive Extended (K : Type) where
  | finite (x : K)
  | posInf
  | negInf
  | nan
  deriving Repr, DecidableEq

namespace Extended

variable {K : Type} [Field K] [LinearOrder K]

/-- An infinity with the sign of `x`, NaN for zero. -/
def infinity (x : K) : Extended K := if x = 0 then nan else if 0 < x then posInf else negInf

/-- The sign of a cell as a number. -/
def sign : Extended K → K
  | finite x => x
  | posInf => 1
  | negInf => -1
  | nan => 0

/-- The product, where a zero times an infinity is NaN. -/
def mul : Extended K → Extended K → Extended K
  | nan, _ => nan
  | _, nan => nan
  | finite a, finite b => finite (a * b)
  | a, b => infinity (a.sign * b.sign)

/-- The sum, where opposite infinities make NaN. -/
def add : Extended K → Extended K → Extended K
  | nan, _ => nan
  | _, nan => nan
  | finite a, finite b => finite (a + b)
  | posInf, negInf => nan
  | negInf, posInf => nan
  | finite _, b => b
  | a, _ => a

/-- `1 / x`, where zero stands for the positive zero. -/
def inv : Extended K → Extended K
  | finite x => if x = 0 then posInf else finite x⁻¹
  | posInf => finite 0
  | negInf => finite 0
  | nan => nan

/-- `a ** n` of a number and a whole exponent. -/
def zpow (a : K) (n : ℤ) : Extended K := if a = 0 ∧ n < 0 then posInf else finite (a ^ n)

/-- Apply a function to the numbers. -/
def mapFinite (f : K → K) : Extended K → Extended K
  | finite x => finite (f x)
  | x => x

/-- The cell is not NaN. -/
def notna : Extended K → Bool
  | nan => false
  | _ => true

/-- The cell in a JSON text, which has no NaN and no infinity: they become `null`. -/
def toJson : Extended K → Option K
  | finite x => some x
  | _ => none

/-- `column.sum()`: NaN is skipped. -/
def sum (col : List (Extended K)) : Extended K :=
  (col.filter notna).foldl add (finite 0)

/-- `column.cumsum()`: NaN stays where it is and is skipped. -/
def cumsumFrom : Extended K → List (Extended K) → List (Extended K)
  | _, [] => []
  | s, x :: col => if x.notna then s.add x :: cumsumFrom (s.add x) col else nan :: cumsumFrom s col

/-- `Series.cumsum` -/
def cumsum (col : List (Extended K)) : List (Extended K) := cumsumFrom (finite 0) col

@[simp] theorem mul_finite (a b : K) : (finite a).mul (finite b) = finite (a * b) := rfl

omit [Field K] [LinearOrder K] in
@[simp] theorem mapFinite_finite (f : K → K) (a : K) : (finite a).mapFinite f = finite (f a) := rfl

theorem zpow_of_ne_zero {a : K} (h : a ≠ 0) (n : ℤ) : zpow a n = finite (a ^ n) := by
  simp [zpow, h]

theorem inv_finite {a : K} (h : a ≠ 0) : (finite a).inv = finite a⁻¹ := by
  simp [inv, h]

omit [LinearOrder K] in
/-- The sum of a column of numbers. -/
theorem sum_finite (xs : List K) : sum (xs.map finite) = finite xs.sum := by
  have hnotna : (xs.map finite).filter notna = xs.map finite :=
    List.filter_eq_self.2 fun x hx => by
      obtain ⟨y, -, rfl⟩ := List.mem_map.1 hx
      rfl
  have hfold : ∀ (ys : List K) (a : K),
      (ys.map finite).foldl add (finite a) = finite (a + ys.sum) := by
    intro ys
    induction ys with
    | nil => simp
    | cons y ys ih =>
      intro a
      rw [List.map_cons, List.foldl_cons, List.sum_cons, ← add_assoc]
      exact ih (a + y)
  rw [sum, hnotna, hfold, zero_add]

/-! ### Cells that are numbers -/

omit [Field K] [LinearOrder K] in
theorem toJson_eq_some {x : Extended K} {a : K} : x.toJson = some a ↔ x = finite a := by
  cases x <;> simp [toJson]

omit [Field K] [LinearOrder K] in
theorem mapFinite_eq_finite {f : K → K} {x : Extended K} {c : K} :
    x.mapFinite f = finite c ↔ ∃ a, x = finite a ∧ f a = c := by
  cases x <;> simp [mapFinite]

theorem infinity_ne_finite (x c : K) : infinity x ≠ finite c := by
  unfold infinity
  split_ifs <;> simp

/-- A product is a number only if both factors are: zero times infinity is NaN. -/
theorem mul_eq_finite {x y : Extended K} {c : K} :
    x.mul y = finite c ↔ ∃ a b, x = finite a ∧ y = finite b ∧ a * b = c := by
  constructor
  · intro h
    cases x <;> cases y <;>
      simp_all [mul, infinity_ne_finite]
  · rintro ⟨a, b, rfl, rfl, rfl⟩
    rfl

/-- A power is a number unless it divides by zero. -/
theorem exists_zpow_eq_finite {a : K} {n : ℤ} :
    (∃ c, zpow a n = finite c) ↔ a ≠ 0 ∨ 0 ≤ n := by
  unfold zpow
  split_ifs with h
  · simp [h.1, h.2]
  · have hsafe : a ≠ 0 ∨ 0 ≤ n := by
      by_contra hnot
      exact h ⟨not_not.1 fun ha => hnot (.inl ha), not_le.1 fun hn => hnot (.inr hn)⟩
    simp [hsafe]

/-- One over a power is a number unless the power is zero. -/
theorem exists_inv_zpow_eq_finite {a : K} {n : ℤ} :
    (∃ c, (zpow a n).inv = finite c) ↔ a ≠ 0 ∨ n ≤ 0 := by
  by_cases ha : a = 0
  · subst ha
    rcases lt_trichotomy n 0 with hneg | rfl | hpos
    · simp [zpow, hneg, inv, hneg.le]
    · simp [zpow, inv]
    · simp [zpow, inv, hpos.not_gt, zero_zpow n hpos.ne', not_le.2 hpos]
  · rw [zpow_of_ne_zero ha, inv_finite (zpow_ne_zero n ha)]
    simp [ha]

omit [LinearOrder K] in
theorem length_cumsum (col : List (Extended K)) : (cumsum col).length = col.length := by
  have hfrom : ∀ (col : List (Extended K)) (s : Extended K),
      (cumsumFrom s col).length = col.length := by
    intro col
    induction col with
    | nil => intro s; rfl
    | cons x col ih =>
      intro s
      unfold cumsumFrom
      split_ifs <;> simp [ih]
  exact hfrom col _

omit [LinearOrder K] in
/-- The last cumulative sum of a column of numbers is its sum. -/
theorem getLast?_cumsum_finite {xs : List K} (hne : xs ≠ []) :
    (cumsum (xs.map finite)).getLast? = some (finite xs.sum) := by
  have hfrom : ∀ (xs : List K) (s : K), xs ≠ [] →
      (cumsumFrom (finite s) (xs.map finite)).getLast? = some (finite (s + xs.sum)) := by
    intro xs
    induction xs with
    | nil => intro s h; exact absurd rfl h
    | cons x xs ih =>
      intro s _
      have hstep : cumsumFrom (finite s) ((x :: xs).map finite) =
          finite (s + x) :: cumsumFrom (finite (s + x)) (xs.map finite) := rfl
      rw [hstep, List.sum_cons, ← add_assoc]
      cases xs with
      | nil => simp [cumsumFrom]
      | cons y ys =>
        rw [List.getLast?_cons, ih (s + x) (by simp), Option.getD_some]
  rw [cumsum, hfrom xs 0 hne, zero_add]

end Extended

section Whole

variable {K : Type} [Field K] [LinearOrder K] [FloorRing K]

/-- `int(x)`: truncation towards zero. -/
def truncate (x : K) : ℤ := if 0 ≤ x then ⌊x⌋ else ⌈x⌉

/-- The nearest whole number, the even one of two. -/
def roundEven (x : K) : ℤ :=
  if x - ⌊x⌋ < ⌈x⌉ - x then ⌊x⌋
  else if ⌈x⌉ - x < x - ⌊x⌋ then ⌈x⌉
  else if ⌊x⌋ % 2 = 0 then ⌊x⌋ else ⌈x⌉

/-- The nearest multiple of a cent. -/
def roundCents (x : K) : K := roundEven (x * 100) / 100

/-- `numpy.arange(start, stop, step)` for a step other than zero. -/
def arange (start stop step : K) : List K :=
  (List.range ⌈(stop - start) / step⌉.toNat).map fun k => start + k * step

/-- `numpy.arange(start, stop)` for whole numbers. -/
def arangeInt (start stop : ℤ) : List ℤ :=
  (List.range (stop - start).toNat).map fun k => start + k

@[simp] theorem truncate_intCast [IsStrictOrderedRing K] (n : ℤ) : truncate (n : K) = n := by
  simp [truncate]

omit [Field K] [LinearOrder K] [FloorRing K] in
theorem arangeInt_eq (start stop : ℤ) :
    arangeInt start stop = (List.range (stop - start).toNat).map fun k : ℕ => start + (k : ℤ) := by
  simp [arangeInt, ← List.map_eq_flatMap]

theorem arange_eq (start stop step : K) :
    arange start stop step = (List.range ⌈(stop - start) / step⌉.toNat).map
      fun k : ℕ => start + (k : K) * step := by
  simp [arange, ← List.map_eq_flatMap]

omit [Field K] [LinearOrder K] [FloorRing K] in
theorem mem_arangeInt {start stop n : ℤ} : n ∈ arangeInt start stop ↔ start ≤ n ∧ n < stop := by
  rw [arangeInt_eq, List.mem_map]
  constructor
  · rintro ⟨k, hk, rfl⟩
    have := List.mem_range.1 hk
    omega
  · rintro ⟨hstart, hstop⟩
    exact ⟨(n - start).toNat, List.mem_range.2 (by omega), by omega⟩

omit [Field K] [LinearOrder K] [FloorRing K] in
theorem nodup_arangeInt (start stop : ℤ) : (arangeInt start stop).Nodup := by
  rw [arangeInt_eq]
  refine List.Nodup.map (fun a b h => ?_) List.nodup_range
  simpa using h

/-! ### Rounding -/

@[simp] theorem roundEven_intCast [IsStrictOrderedRing K] (n : ℤ) : roundEven (n : K) = n := by
  simp [roundEven]

theorem floor_le_roundEven [IsStrictOrderedRing K] (x : K) : ⌊x⌋ ≤ roundEven x := by
  have hle := Int.floor_le_ceil x
  unfold roundEven
  split_ifs <;> omega

theorem roundEven_le_ceil [IsStrictOrderedRing K] (x : K) : roundEven x ≤ ⌈x⌉ := by
  have hle := Int.floor_le_ceil x
  unfold roundEven
  split_ifs <;> omega

theorem le_roundEven [IsStrictOrderedRing K] {n : ℤ} {x : K} (h : (n : K) ≤ x) :
    n ≤ roundEven x :=
  (Int.le_floor.2 h).trans (floor_le_roundEven x)

theorem roundEven_le [IsStrictOrderedRing K] {n : ℤ} {x : K} (h : x ≤ n) : roundEven x ≤ n :=
  (roundEven_le_ceil x).trans (Int.ceil_le.2 h)

theorem roundEven_nonneg [IsStrictOrderedRing K] {x : K} (h : 0 ≤ x) : 0 ≤ roundEven x :=
  le_roundEven (by simpa using h)

theorem abs_roundEven_sub_le [IsStrictOrderedRing K] (x : K) : |roundEven x - x| ≤ 1 / 2 := by
  have hfloor := Int.floor_le x
  have hceil := Int.le_ceil x
  have hnext : (⌈x⌉ : K) ≤ ⌊x⌋ + 1 := by exact_mod_cast Int.ceil_le_floor_add_one x
  rw [abs_le]
  unfold roundEven
  split_ifs <;> constructor <;> linarith

/-- What is less than half a unit away from a whole number is rounded to it. -/
theorem roundEven_eq_of_abs_sub_lt [IsStrictOrderedRing K] {n : ℤ} {x : K}
    (h : |x - n| < 1 / 2) : roundEven x = n := by
  have hround := abs_le.1 (abs_roundEven_sub_le x)
  have hnear := abs_lt.1 h
  have hlow : ((roundEven x - n : ℤ) : K) < 1 := by push_cast; linarith
  have hhigh : ((n - roundEven x : ℤ) : K) < 1 := by push_cast; linarith
  have hlow' : roundEven x - n < 1 := by exact_mod_cast hlow
  have hhigh' : n - roundEven x < 1 := by exact_mod_cast hhigh
  omega

/-- Half of a unit is rounded to zero, since zero is even. -/
theorem roundEven_eq_zero_iff [IsStrictOrderedRing K] {x : K} :
    roundEven x = 0 ↔ |x| ≤ 1 / 2 := by
  have hfloor := Int.floor_le x
  have hceil := Int.le_ceil x
  have hnext : (⌈x⌉ : K) ≤ ⌊x⌋ + 1 := by exact_mod_cast Int.ceil_le_floor_add_one x
  rw [abs_le]
  constructor
  · intro h
    unfold roundEven at h
    split_ifs at h with hdown hup heven
    · rw [h, Int.cast_zero] at hfloor hdown hnext
      exact ⟨by linarith, by linarith⟩
    · rw [h, Int.cast_zero] at hceil hup hnext
      exact ⟨by linarith, by linarith⟩
    · rw [h, Int.cast_zero] at hfloor hdown hup hnext
      exact ⟨by linarith, by linarith⟩
    · rw [h, Int.cast_zero] at hceil hdown hup hnext
      exact ⟨by linarith, by linarith⟩
  · rintro ⟨hlo, hhi⟩
    rcases lt_or_ge x 0 with hneg | hnonneg
    · have hf : ⌊x⌋ = -1 := Int.floor_eq_iff.2 ⟨by push_cast; linarith, by push_cast; linarith⟩
      have hc : ⌈x⌉ = 0 := Int.ceil_eq_iff.2 ⟨by push_cast; linarith, by simpa using hneg.le⟩
      simp only [roundEven, hf, hc, Int.cast_neg, Int.cast_one, Int.cast_zero]
      rw [if_neg (by linarith)]
      split_ifs <;> first | rfl | omega
    · have hf : ⌊x⌋ = 0 := Int.floor_eq_iff.2 ⟨by simpa using hnonneg, by push_cast; linarith⟩
      have hc : (⌈x⌉ : K) = 0 ∨ (⌈x⌉ : K) = 1 := by
        have h0 : 0 ≤ ⌈x⌉ := Int.ceil_nonneg hnonneg
        have h1 : ⌈x⌉ ≤ 1 := by
          have := Int.ceil_le_floor_add_one x
          omega
        rcases (by omega : ⌈x⌉ = 0 ∨ ⌈x⌉ = 1) with h | h
        · exact .inl (by rw [h, Int.cast_zero])
        · exact .inr (by rw [h, Int.cast_one])
      simp only [roundEven, hf, Int.cast_zero]
      split_ifs with hdown hup
      · rfl
      · rcases hc with h | h
        · exact_mod_cast h
        · rw [h] at hup
          linarith
      · rfl
      · omega

/-- A whole number of cents. -/
def IsCents (x : K) : Prop := ∃ n : ℤ, x = n / 100

theorem isCents_roundCents (x : K) : IsCents (roundCents x) := ⟨_, rfl⟩

theorem roundCents_of_isCents [IsStrictOrderedRing K] {x : K} (h : IsCents x) :
    roundCents x = x := by
  obtain ⟨n, rfl⟩ := h
  rw [roundCents, div_mul_cancel₀ (n : K) (by norm_num), roundEven_intCast]

theorem roundCents_eq_zero_iff [IsStrictOrderedRing K] {x : K} :
    roundCents x = 0 ↔ |x| ≤ 1 / 200 := by
  have hpos : (0 : K) < 100 := by norm_num
  rw [roundCents, div_eq_zero_iff, or_iff_left hpos.ne', Int.cast_eq_zero, roundEven_eq_zero_iff,
    abs_mul, abs_of_pos hpos, ← le_div_iff₀ hpos]
  norm_num

omit [LinearOrder K] [FloorRing K] in
theorem IsCents.add {x y : K} (hx : IsCents x) (hy : IsCents y) : IsCents (x + y) := by
  obtain ⟨m, rfl⟩ := hx
  obtain ⟨n, rfl⟩ := hy
  exact ⟨m + n, by rw [Int.cast_add, add_div]⟩

omit [LinearOrder K] [FloorRing K] in
theorem isCents_sum {xs : List K} (h : ∀ x ∈ xs, IsCents x) : IsCents xs.sum := by
  induction xs with
  | nil => exact ⟨0, by simp⟩
  | cons x xs ih =>
    rw [List.sum_cons]
    exact (h x List.mem_cons_self).add (ih fun y hy => h y (List.mem_cons_of_mem _ hy))

/-- What a range with a positive step holds after its first element. -/
theorem mem_arange_drop_one [IsStrictOrderedRing K] {start stop step x : K} (hstep : 0 < step) :
    x ∈ (arange start stop step).drop 1 ↔
      ∃ k : ℕ, 0 < k ∧ x = start + k * step ∧ x < stop := by
  have hlt : ∀ k : ℕ, k < ⌈(stop - start) / step⌉.toNat ↔ start + k * step < stop := by
    intro k
    rw [Int.lt_toNat, Int.lt_ceil, Int.cast_natCast, lt_div_iff₀ hstep, lt_sub_iff_add_lt']
  rw [arange_eq, ← List.map_drop, List.mem_map]
  constructor
  · rintro ⟨k, hk, rfl⟩
    obtain ⟨hpos, hrange⟩ : 0 < k ∧ k < ⌈(stop - start) / step⌉.toNat := by
      rw [List.range_eq_range', List.drop_range'] at hk
      have := List.mem_range'_1.1 hk
      omega
    exact ⟨k, hpos, rfl, (hlt k).1 hrange⟩
  · rintro ⟨k, hpos, rfl, hstop⟩
    have hrange := (hlt k).2 hstop
    refine ⟨k, ?_, rfl⟩
    rw [List.range_eq_range', List.drop_range']
    exact List.mem_range'_1.2 (by omega)

end Whole

end StormPiper
