import Mathlib.Data.Int.Log
import Mathlib.Data.Rat.Floor
import Mathlib.Tactic.LinearCombination
import StormPiper.Arithmetic.Extended

/-!
# Binary floating-point numbers

The finite numbers of a binary format, and rounding to the nearest of them, the even one of two.
A number is given by its sign and its magnitude, so that there are two zeros.

## Main definitions

* `BinaryFormat` : the length of a significand and the range of the exponents.
* `BinaryFormat.nearest` : the number that a magnitude is rounded to.
* `Binary` : the finite numbers of a format.
* `Binary.ofRat` : rounding a rational number, to an infinity where it is too large.

## Main results

* `BinaryFormat.nearest_nearest` : rounding a second time changes nothing.
* `BinaryFormat.nearest_onGrid` : nor does going to a grid of decimals and back.
-/

namespace StormPiper

/-- A binary floating-point format. -/
structure BinaryFormat where
  /-- The number of bits of a significand. -/
  prec : ℕ
  /-- The exponent of the smallest unit. -/
  emin : ℤ
  /-- The exponent of the bound that the numbers stay below. -/
  emax : ℤ
  prec_pos : 0 < prec
  /-- The bound is a multiple of every unit. -/
  emin_le : emin + prec ≤ emax
  deriving DecidableEq

/-- The double precision of IEEE 754. -/
def binary64 : BinaryFormat := ⟨53, -1074, 1024, by decide, by decide⟩

namespace BinaryFormat

section Nearest

variable (F : BinaryFormat) {K : Type} [Field K] [LinearOrder K] [FloorRing K]

/-- The exponent of the last bit of a number of the size of `x`. -/
def exponent (x : K) : ℤ := max (Int.log 2 |x| + 1 - F.prec) F.emin

/-- The unit in the last place. -/
def ulp (x : K) : K := ((2 : ℕ) : K) ^ F.exponent x

/-- The multiple of the unit that is nearest to `x`, the even one of two: what `x` is rounded to if
that is below the bound. -/
def nearest (x : K) : K := roundEven (x / F.ulp x) * F.ulp x

theorem ulp_eq (x : K) : F.ulp x = 2 ^ F.exponent x := by rw [ulp, Nat.cast_ofNat]

variable [IsStrictOrderedRing K]

theorem ulp_pos (x : K) : 0 < F.ulp x := by
  rw [ulp_eq]
  exact zpow_pos two_pos _

omit [IsStrictOrderedRing K] in
theorem emin_le_exponent (x : K) : F.emin ≤ F.exponent x := le_max_right _ _

theorem nearest_zero : F.nearest (0 : K) = 0 := by
  have hzero : roundEven (0 : K) = 0 := by simpa using roundEven_intCast (K := K) 0
  rw [nearest, zero_div, hzero, Int.cast_zero, zero_mul]

/-- A number is less than as many units as a significand has values. -/
theorem abs_lt_zpow (x : K) : |x| < 2 ^ (F.exponent x + F.prec) := by
  have hlog : Int.log 2 |x| + 1 ≤ F.exponent x + F.prec := by
    have := le_max_left (Int.log 2 |x| + 1 - F.prec) F.emin
    unfold exponent
    omega
  have hlt := Int.lt_zpow_succ_log_self (b := 2) (by decide) |x|
  push_cast at hlt
  exact hlt.trans_le (zpow_le_zpow_right₀ one_le_two hlog)

variable {F}

theorem exponent_le {x : K} {e : ℤ} (hx : x ≠ 0) (hlt : |x| < 2 ^ (e + F.prec))
    (he : F.emin ≤ e) : F.exponent x ≤ e := by
  have hlog : Int.log 2 |x| < e + F.prec :=
    (Int.lt_zpow_iff_log_lt (by decide) (abs_pos.2 hx)).1 (by exact_mod_cast hlt)
  exact max_le (by omega) he

/-- Above the smallest unit a number is at least half as large as the bound of its exponent. -/
theorem zpow_le_abs {x : K} (hx : x ≠ 0) (he : F.emin < F.exponent x) :
    2 ^ (F.exponent x + F.prec - 1) ≤ |x| := by
  have hexp : F.exponent x = Int.log 2 |x| + 1 - F.prec := by
    rcases max_choice (Int.log 2 |x| + 1 - F.prec) F.emin with h | h
    · exact h
    · exact absurd h he.ne'
  have hle := Int.zpow_log_le_self (b := 2) (by decide) (abs_pos.2 hx)
  push_cast at hle
  rwa [hexp, show Int.log 2 |x| + 1 - F.prec + F.prec - 1 = Int.log 2 |x| by ring]

theorem exponent_eq {x : K} {e : ℤ} (he : F.emin ≤ e) (hle : 2 ^ (e + F.prec - 1) ≤ |x|)
    (hlt : |x| < 2 ^ (e + F.prec)) : F.exponent x = e := by
  have hx : 0 < |x| := (zpow_pos two_pos _).trans_le hle
  have hlow : e + F.prec - 1 ≤ Int.log 2 |x| :=
    (Int.zpow_le_iff_le_log (by decide) hx).1 (by exact_mod_cast hle)
  have hhigh : Int.log 2 |x| < e + F.prec :=
    (Int.lt_zpow_iff_log_lt (by decide) hx).1 (by exact_mod_cast hlt)
  rw [exponent, max_eq_left (by omega)]
  omega

variable (F) in
theorem abs_nearest_sub_le (x : K) : |F.nearest x - x| ≤ F.ulp x / 2 := by
  have hpos := F.ulp_pos x
  have hsub : F.nearest x - x = (roundEven (x / F.ulp x) - x / F.ulp x) * F.ulp x := by
    rw [nearest, sub_mul, div_mul_cancel₀ _ hpos.ne']
  rw [hsub, abs_mul, abs_of_pos hpos]
  have := mul_le_mul_of_nonneg_right (abs_roundEven_sub_le (x / F.ulp x)) hpos.le
  linarith

theorem nearest_nonneg {x : K} (hx : 0 ≤ x) : 0 ≤ F.nearest x :=
  mul_nonneg (Int.cast_nonneg (roundEven_nonneg (div_nonneg hx (F.ulp_pos x).le))) (F.ulp_pos x).le

/-- What is close to a multiple of the unit is rounded to it. -/
theorem nearest_eq_of_abs_sub_lt {x : K} {m : ℤ} (h : |x - m * F.ulp x| < F.ulp x / 2) :
    F.nearest x = m * F.ulp x := by
  have hpos := F.ulp_pos x
  have hlt : |x / F.ulp x - m| < 1 / 2 := by
    have hsub : x / F.ulp x - m = (x - m * F.ulp x) / F.ulp x := by
      rw [sub_div, mul_div_cancel_right₀ _ hpos.ne']
    rw [hsub, abs_div, abs_of_pos hpos, div_lt_iff₀ hpos]
    linarith
  rw [nearest, roundEven_eq_of_abs_sub_lt hlt]

/-- The numbers with a significand that fits are not changed. -/
theorem nearest_of_abs_lt {m e : ℤ} (hm : |m| < 2 ^ F.prec) (he : F.emin ≤ e) :
    F.nearest ((m : K) * 2 ^ e) = m * 2 ^ e := by
  by_cases hzero : m = 0
  · rw [hzero, Int.cast_zero, zero_mul, nearest_zero]
  have hpos : (0 : K) < 2 ^ e := zpow_pos two_pos _
  have hne : (m : K) * 2 ^ e ≠ 0 := mul_ne_zero (Int.cast_ne_zero.2 hzero) hpos.ne'
  have hlt : |(m : K) * 2 ^ e| < 2 ^ (e + F.prec) := by
    rw [abs_mul, abs_of_pos hpos, zpow_add₀ two_ne_zero, mul_comm, zpow_natCast]
    exact mul_lt_mul_of_pos_left (by exact_mod_cast hm) hpos
  obtain ⟨k, hk⟩ := Int.le.dest (exponent_le hne hlt he)
  -- the unit divides `2 ^ e`
  have hmul : (m : K) * 2 ^ e = ((m * 2 ^ k : ℤ) : K) * F.ulp ((m : K) * 2 ^ e) := by
    rw [ulp_eq, Int.cast_mul, mul_assoc]
    push_cast
    rw [← zpow_natCast, ← zpow_add₀ two_ne_zero, add_comm (k : ℤ), hk]
  refine (nearest_eq_of_abs_sub_lt (m := m * 2 ^ k) ?_).trans hmul.symm
  rw [← hmul, sub_self, abs_zero]
  exact half_pos (F.ulp_pos _)

theorem nearest_of_abs_le {m e : ℤ} (hm : |m| ≤ 2 ^ F.prec) (he : F.emin ≤ e) :
    F.nearest ((m : K) * 2 ^ e) = m * 2 ^ e := by
  rcases hm.lt_or_eq with hlt | heq
  · exact nearest_of_abs_lt hlt he
  -- a power of two has a shorter significand
  obtain ⟨p, hp⟩ : ∃ p, F.prec = p + 1 := ⟨F.prec - 1, by have := F.prec_pos; omega⟩
  have hhalf : ∃ n : ℤ, m = n * 2 ∧ |n| = 2 ^ p := by
    rcases abs_eq (by positivity : (0 : ℤ) ≤ 2 ^ F.prec) |>.1 heq with h | h
    · exact ⟨2 ^ p, by rw [h, hp, pow_succ], abs_of_pos (by positivity)⟩
    · refine ⟨-2 ^ p, by rw [h, hp, pow_succ]; ring, ?_⟩
      rw [abs_neg]
      exact abs_of_pos (by positivity)
  obtain ⟨n, rfl, hn⟩ := hhalf
  have hnext : ((n * 2 : ℤ) : K) * 2 ^ e = n * 2 ^ (e + 1) := by
    rw [zpow_add_one₀ two_ne_zero]
    push_cast
    ring
  rw [hnext]
  refine nearest_of_abs_lt ?_ (by omega)
  rw [hn, hp]
  exact pow_lt_pow_right₀ (by decide) (by omega)

/-! ### Bounds -/

theorem exponent_mono {x y : K} (hx : 0 < x) (h : x ≤ y) : F.exponent x ≤ F.exponent y := by
  have habs : |x| ≤ |y| := by rwa [abs_of_pos hx, abs_of_pos (hx.trans_le h)]
  have hlog : Int.log 2 |x| ≤ Int.log 2 |y| := Int.log_mono_right (abs_pos.2 hx.ne') habs
  unfold exponent
  omega

/-- A number of the format is a multiple of the unit of the smaller numbers. -/
theorem exists_eq_mul_ulp {x y : K} (hx : 0 < x) (h : x ≤ y) (hy : F.nearest y = y) :
    ∃ m : ℤ, y = m * F.ulp x := by
  obtain ⟨k, hk⟩ := Int.le.dest (exponent_mono (F := F) hx h)
  refine ⟨roundEven (y / F.ulp y) * 2 ^ k, ?_⟩
  have hulp : (2 : K) ^ k * F.ulp x = F.ulp y := by
    rw [ulp_eq, ulp_eq, ← zpow_natCast, ← zpow_add₀ two_ne_zero, add_comm (k : ℤ), hk]
  push_cast
  rw [mul_assoc, hulp]
  exact hy.symm

/-- Rounding does not pass a number of the format. -/
theorem nearest_le {x y : K} (hx : 0 ≤ x) (h : x ≤ y) (hy : F.nearest y = y) :
    F.nearest x ≤ y := by
  rcases hx.lt_or_eq with hpos | rfl
  · obtain ⟨m, hm⟩ := exists_eq_mul_ulp hpos h hy
    rw [nearest, hm]
    have hle : x / F.ulp x ≤ m := by
      rw [div_le_iff₀ (F.ulp_pos x), ← hm]
      exact h
    exact mul_le_mul_of_nonneg_right (by exact_mod_cast roundEven_le hle) (F.ulp_pos x).le
  · rwa [nearest_zero]

theorem mul_ulp_le_nearest {x : K} {m : ℤ} (h : m * F.ulp x ≤ x) : m * F.ulp x ≤ F.nearest x := by
  have hle : (m : K) ≤ x / F.ulp x := by rwa [le_div_iff₀ (F.ulp_pos x)]
  exact mul_le_mul_of_nonneg_right (by exact_mod_cast le_roundEven hle) (F.ulp_pos x).le

theorem le_nearest {x y : K} (hy0 : 0 < y) (h : y ≤ x) (hy : F.nearest y = y) :
    y ≤ F.nearest x := by
  have hx : 0 < x := hy0.trans_le h
  rcases (exponent_mono (F := F) hy0 h).lt_or_eq with hlt | heq
  · -- a power of two lies between them
    have hprec : (1 : ℤ) ≤ F.prec := by exact_mod_cast F.prec_pos
    have hpow : ((2 ^ (F.prec - 1) : ℤ) : K) * F.ulp x = 2 ^ (F.exponent x + F.prec - 1) := by
      rw [ulp_eq]
      push_cast
      rw [← zpow_natCast, ← zpow_add₀ two_ne_zero]
      congr 1
      omega
    have hle := zpow_le_abs hx.ne' ((F.emin_le_exponent y).trans_lt hlt)
    rw [abs_of_pos hx] at hle
    have hbelow : y ≤ 2 ^ (F.exponent x + F.prec - 1) := by
      have hlt' := F.abs_lt_zpow y
      rw [abs_of_pos hy0] at hlt'
      exact hlt'.le.trans (zpow_le_zpow_right₀ one_le_two (by omega))
    rw [← hpow] at hle hbelow
    exact hbelow.trans (mul_ulp_le_nearest hle)
  · have hulp : F.ulp x = F.ulp y := by rw [ulp_eq, ulp_eq, heq]
    have hmul : y = roundEven (y / F.ulp y) * F.ulp x := by
      rw [hulp]
      exact hy.symm
    rw [hmul] at h ⊢
    exact mul_ulp_le_nearest h

variable (F) in
theorem nearest_two_zpow {e : ℤ} (he : F.emin ≤ e) : F.nearest ((2 : K) ^ e) = 2 ^ e := by
  have hone : |(1 : ℤ)| ≤ 2 ^ F.prec := by
    rw [abs_one]
    exact one_le_pow₀ (by decide)
  simpa using nearest_of_abs_le (K := K) hone he

theorem nearest_eq_zero_iff_ulp {x : K} : F.nearest x = 0 ↔ |x| ≤ F.ulp x / 2 := by
  have hpos := F.ulp_pos x
  rw [nearest, mul_eq_zero, or_iff_left hpos.ne', Int.cast_eq_zero, roundEven_eq_zero_iff, abs_div,
    abs_of_pos hpos, div_le_iff₀ hpos, one_div, inv_mul_eq_div]

/-- **Underflow.**  Rounded to zero is what is at most half of the smallest unit. -/
theorem nearest_eq_zero_iff {x : K} : F.nearest x = 0 ↔ |x| ≤ 2 ^ F.emin / 2 := by
  rcases eq_or_ne x 0 with rfl | hx
  · exact iff_of_true F.nearest_zero (by rw [abs_zero]; exact (half_pos (zpow_pos two_pos _)).le)
  have hprec : (1 : ℤ) ≤ F.prec := by exact_mod_cast F.prec_pos
  suffices hulp : F.nearest x = 0 ∨ |x| ≤ 2 ^ F.emin / 2 → F.exponent x = F.emin by
    constructor
    · intro h
      have hexp := hulp (.inl h)
      rwa [nearest_eq_zero_iff_ulp, ulp, hexp] at h
    · intro h
      rwa [nearest_eq_zero_iff_ulp, ulp, hulp (.inr h)]
  rintro (h | h)
  · by_contra hne
    have hle := zpow_le_abs hx (lt_of_le_of_ne (F.emin_le_exponent x) (Ne.symm hne))
    have hmono : F.ulp x ≤ (2 : K) ^ (F.exponent x + F.prec - 1) :=
      zpow_le_zpow_right₀ one_le_two (by omega)
    have := nearest_eq_zero_iff_ulp.1 h
    have := F.ulp_pos x
    linarith
  · have hpos : (0 : K) < 2 ^ F.emin := zpow_pos two_pos _
    have hmono : (2 : K) ^ F.emin ≤ 2 ^ (F.emin + F.prec) :=
      zpow_le_zpow_right₀ one_le_two (by omega)
    exact le_antisymm (exponent_le hx (by linarith) le_rfl) (F.emin_le_exponent x)

variable (F) in
theorem abs_roundEven_div_ulp_le (x : K) : |roundEven (x / F.ulp x)| ≤ 2 ^ F.prec := by
  have hpos := F.ulp_pos x
  have habs : |x / F.ulp x| ≤ ((2 ^ F.prec : ℤ) : K) := by
    rw [abs_div, abs_of_pos hpos, div_le_iff₀ hpos]
    refine (F.abs_lt_zpow x).le.trans_eq ?_
    rw [zpow_add₀ two_ne_zero, ulp_eq, mul_comm, zpow_natCast]
    push_cast
    rfl
  rw [abs_le] at habs ⊢
  exact ⟨le_roundEven (by simpa using habs.1), roundEven_le habs.2⟩

/-- **Rounding a second time changes nothing.** -/
@[simp] theorem nearest_nearest (x : K) : F.nearest (F.nearest x) = F.nearest x := by
  exact nearest_of_abs_le (F.abs_roundEven_div_ulp_le x) (F.emin_le_exponent x)

theorem nearest_roundEven_of_mul_eq {N : ℕ} (hN : 0 < N) {y : K} {k : ℤ} (hy : F.nearest y = y)
    (hk : y * N = k) : F.nearest ((roundEven (y * N) : K) / N) = y := by
  have hne : (N : K) ≠ 0 := by exact_mod_cast hN.ne'
  rw [hk, roundEven_intCast, ← hk, mul_div_cancel_right₀ _ hne, hy]

/-- Where the unit is more than `1 / N`, rounding to multiples of `1 / N` is undone by rounding
back, except next to a power of two. -/
theorem nearest_roundEven_of_coarse {N : ℕ} (hN : 0 < N) {m e : ℤ} (he : F.emin ≤ e)
    (hunit : 1 < (N : K) * 2 ^ e) (hlow : 2 ^ (F.prec - 1) < m) (hhigh : m < 2 ^ F.prec) :
    F.nearest ((roundEven ((m : K) * 2 ^ e * N) : K) / N) = m * 2 ^ e := by
  have hNpos : (0 : K) < N := by exact_mod_cast hN
  have hpos : (0 : K) < 2 ^ e := zpow_pos two_pos _
  obtain ⟨p, hp⟩ : ∃ p, F.prec = p + 1 := ⟨F.prec - 1, by have := F.prec_pos; omega⟩
  let z : K := roundEven ((m : K) * 2 ^ e * N) / N
  have hclose : |z - m * 2 ^ e| < 2 ^ e / 2 := by
    have hsub : z - m * 2 ^ e = (roundEven ((m : K) * 2 ^ e * N) - m * 2 ^ e * N) / N := by
      rw [sub_div, mul_div_cancel_right₀ _ hNpos.ne']
    rw [hsub, abs_div, abs_of_pos hNpos, div_lt_iff₀ hNpos]
    have := abs_roundEven_sub_le ((m : K) * 2 ^ e * N)
    linarith
  -- so `z` has the exponent of the number
  have hz := abs_lt.1 hclose
  have hm : (2 : K) ^ p + 1 ≤ m := by
    rw [hp, Nat.add_sub_cancel] at hlow
    exact_mod_cast Int.add_one_le_iff.2 hlow
  have hm' : (m : K) + 1 ≤ 2 ^ F.prec := by exact_mod_cast Int.add_one_le_iff.2 hhigh
  have hzlow : 2 ^ (e + F.prec - 1) ≤ z := by
    have hmul := mul_le_mul_of_nonneg_right hm hpos.le
    have hpow : (2 : K) ^ (e + F.prec - 1) = 2 ^ p * 2 ^ e := by
      rw [hp, ← zpow_natCast, ← zpow_add₀ two_ne_zero]
      congr 1
      push_cast
      ring
    rw [hpow]
    linarith
  have hzhigh : z < 2 ^ (e + F.prec) := by
    have hmul := mul_le_mul_of_nonneg_right hm' hpos.le
    rw [zpow_add₀ two_ne_zero, zpow_natCast, mul_comm]
    linarith
  have hznonneg : 0 ≤ z := (zpow_pos two_pos _).le.trans hzlow
  have hexp : F.exponent z = e :=
    exponent_eq he (by rwa [abs_of_nonneg hznonneg]) (by rwa [abs_of_nonneg hznonneg])
  have hulp : F.ulp z = 2 ^ e := by rw [ulp_eq, hexp]
  have hround : F.nearest z = m * F.ulp z := nearest_eq_of_abs_sub_lt (by rwa [hulp])
  rwa [hulp] at hround

/-- A number with few decimals is found again where the format is finer than these. -/
theorem roundEven_nearest_mul {N : ℕ} (hN : 0 < N) {n : ℕ}
    (hfine : (N : K) * F.ulp ((n : K) / N) < 1) : roundEven (F.nearest ((n : K) / N) * N) = n := by
  have hNpos : (0 : K) < N := by exact_mod_cast hN
  have hdN : (n : K) / N * N = n := div_mul_cancel₀ _ hNpos.ne'
  have hle := mul_le_mul_of_nonneg_right (F.abs_nearest_sub_le ((n : K) / N)) hNpos.le
  have hsub : F.nearest ((n : K) / N) * N - (n : ℤ) = (F.nearest ((n : K) / N) - n / N) * N := by
    rw [sub_mul, hdN, Int.cast_natCast]
  refine roundEven_eq_of_abs_sub_lt ?_
  rw [hsub, abs_mul, abs_of_pos hNpos]
  linarith

/-- A normal number has a significand of full length. -/
theorem le_roundEven_div_ulp {p : ℕ} (hp : F.prec = p + 1) {d : K} (hd : 0 < d)
    (hemin : F.emin < F.exponent d) : 2 ^ p ≤ roundEven (d / F.ulp d) := by
  refine le_roundEven ?_
  have hle := zpow_le_abs hd.ne' hemin
  rw [abs_of_pos hd] at hle
  rw [le_div_iff₀ (F.ulp_pos d)]
  refine le_of_eq_of_le ?_ hle
  rw [ulp_eq, Int.cast_pow, Int.cast_ofNat, ← zpow_natCast, ← zpow_add₀ two_ne_zero]
  congr 1
  rw [hp]
  push_cast
  omega

/-- Where the format is no finer than the decimals, its powers of two are whole numbers. -/
theorem exists_two_pow_mul_ulp {p N : ℕ} (hprec : N ≤ 2 ^ p) {d : K}
    (hcoarse : 1 ≤ (N : K) * F.ulp d) :
    ∃ k : ℕ, ∀ j : ℕ, (2 : K) ^ (p + j) * F.ulp d = 2 ^ (k + j) := by
  have hwhole : 0 ≤ F.exponent d + p := by
    have hle : (1 : K) ≤ 2 ^ (F.exponent d + p) := by
      rw [zpow_add₀ two_ne_zero, zpow_natCast, mul_comm]
      have hcast : (N : K) ≤ 2 ^ p := by exact_mod_cast hprec
      exact hcoarse.trans (mul_le_mul_of_nonneg_right hcast (F.ulp_pos d).le)
    by_contra hneg
    exact absurd hle (not_le.2 (zpow_lt_one_of_neg₀ one_lt_two (not_le.1 hneg)))
  obtain ⟨k, hk⟩ := Int.eq_ofNat_of_zero_le hwhole
  refine ⟨k, fun j => ?_⟩
  rw [ulp_eq, ← zpow_natCast, ← zpow_natCast, ← zpow_add₀ two_ne_zero]
  congr 1
  push_cast
  omega

/-- **Decimals survive.**  The number nearest to a multiple of `1 / N` is rounded to a multiple of
`1 / N` whose nearest number it is. -/
theorem nearest_onGrid {N : ℕ} (hN : 0 < N) (hmin : (N : K) * 2 ^ F.emin < 1)
    (hprec : N ≤ 2 ^ (F.prec - 1)) (n : ℕ) :
    F.nearest ((roundEven (F.nearest ((n : K) / N) * N) : K) / N) = F.nearest ((n : K) / N) := by
  have hNpos : (0 : K) < N := by exact_mod_cast hN
  rcases Nat.eq_zero_or_pos n with rfl | hn
  · exact nearest_roundEven_of_mul_eq hN (nearest_nearest _) (k := 0) (by simp [nearest_zero])
  obtain ⟨p, hp⟩ : ∃ p, F.prec = p + 1 := ⟨F.prec - 1, by have := F.prec_pos; omega⟩
  rw [hp, Nat.add_sub_cancel] at hprec
  have hd : (0 : K) < n / N := div_pos (by exact_mod_cast hn) hNpos
  by_cases hfine : (N : K) * F.ulp ((n : K) / N) < 1
  · rw [roundEven_nearest_mul hN hfine, Int.cast_natCast]
  set d : K := n / N
  rw [not_lt] at hfine
  have hemin : F.emin < F.exponent d := by
    refine lt_of_le_of_ne (F.emin_le_exponent d) fun heq => ?_
    rw [ulp_eq, ← heq] at hfine
    exact absurd hmin (not_lt.2 hfine)
  obtain ⟨k, hpow⟩ := exists_two_pow_mul_ulp hprec hfine
  -- at a power of two the format may be finer below, but there the multiple is whole
  have hwhole : ∀ j : ℕ, roundEven (d / F.ulp d) = 2 ^ (p + j) →
      F.nearest d * N = ((2 ^ (k + j) * N : ℤ) : K) := by
    intro j hj
    rw [nearest, hj]
    push_cast
    rw [hpow j]
  have hhigh : roundEven (d / F.ulp d) ≤ 2 ^ F.prec :=
    (abs_le.1 (F.abs_roundEven_div_ulp_le d)).2
  rcases (le_roundEven_div_ulp hp hd hemin).lt_or_eq with hlow | heq
  · rcases hhigh.lt_or_eq with hhigh | heq
    · rcases hfine.lt_or_eq with hcoarse | hone
      · exact nearest_roundEven_of_coarse hN (F.emin_le_exponent d) hcoarse
          (by rwa [hp, Nat.add_sub_cancel]) hhigh
      · refine nearest_roundEven_of_mul_eq hN (nearest_nearest d)
          (k := roundEven (d / F.ulp d)) ?_
        rw [nearest, mul_assoc, mul_comm (F.ulp d), ← hone, mul_one]
    · exact nearest_roundEven_of_mul_eq hN (nearest_nearest d) (hwhole 1 (by rw [heq, hp]))
  · exact nearest_roundEven_of_mul_eq hN (nearest_nearest d) (hwhole 0 (by rw [← heq, add_zero]))

/-- Rounding to multiples of `1 / N` leads out of the range of a long enough format nowhere. -/
theorem nearest_roundEven_lt {N : ℕ} (hN : 0 < N) (hemax : (F.prec : ℤ) < F.emax)
    (hemin : F.emin ≤ 0) {x : K} (hx : 0 ≤ x) (hlt : x < 2 ^ F.emax) (hnearest : F.nearest x = x) :
    F.nearest ((roundEven (x * N) : K) / N) < 2 ^ F.emax := by
  have hNpos : (0 : K) < N := by exact_mod_cast hN
  have hbound : (2 : K) ^ (F.prec : ℤ) < 2 ^ F.emax := zpow_lt_zpow_right₀ one_lt_two hemax
  rcases lt_or_ge x (2 ^ (F.prec : ℤ)) with hsmall | hlarge
  · have hle : (roundEven (x * N) : K) / N ≤ 2 ^ (F.prec : ℤ) := by
      rw [div_le_iff₀ hNpos]
      have hmul : x * N ≤ ((2 ^ F.prec * N : ℤ) : K) := by
        push_cast
        rw [zpow_natCast] at hsmall
        exact mul_le_mul_of_nonneg_right hsmall.le hNpos.le
      have := roundEven_le hmul
      rw [zpow_natCast]
      exact_mod_cast this
    have hnonneg : (0 : K) ≤ (roundEven (x * N) : K) / N :=
      div_nonneg (Int.cast_nonneg (roundEven_nonneg (mul_nonneg hx hNpos.le))) hNpos.le
    exact (nearest_le hnonneg hle (F.nearest_two_zpow (by omega))).trans_lt hbound
  · -- from here on the numbers of the format are whole
    have hexp : 0 ≤ F.exponent x := by
      by_contra hneg
      have hlt := F.abs_lt_zpow x
      rw [abs_of_nonneg hx] at hlt
      have hmono : (2 : K) ^ (F.exponent x + F.prec) ≤ 2 ^ (F.prec : ℤ) :=
        zpow_le_zpow_right₀ one_le_two (by omega)
      linarith
    obtain ⟨k, hk⟩ := Int.eq_ofNat_of_zero_le hexp
    have hwhole : x * N = ((roundEven (x / F.ulp x) * 2 ^ k * N : ℤ) : K) := by
      have hulp : F.ulp x = 2 ^ k := by rw [ulp_eq, hk, zpow_natCast]
      have hx' : x = roundEven (x / F.ulp x) * F.ulp x := hnearest.symm
      push_cast
      rw [← hulp, ← hx']
    rwa [nearest_roundEven_of_mul_eq hN hnearest hwhole]

end Nearest

end BinaryFormat

/-! ### Numbers with a sign -/

/-- A finite number of a format. -/
@[ext] structure Binary (F : BinaryFormat) where
  /-- The sign, also of a zero. -/
  negative : Bool
  magnitude : ℚ
  nonneg : 0 ≤ magnitude
  /-- The magnitude has a significand that fits. -/
  nearest_eq : F.nearest magnitude = magnitude
  lt_bound : magnitude < 2 ^ F.emax

namespace Binary

variable {F : BinaryFormat}

/-- The number as a rational number. -/
def toRat (x : Binary F) : ℚ := if x.negative then -x.magnitude else x.magnitude

/-- The zero with the given sign. -/
def zero (F : BinaryFormat) (negative : Bool) : Binary F :=
  ⟨negative, 0, le_rfl, F.nearest_zero, zpow_pos two_pos _⟩

theorem eq_zero_iff {x : Binary F} : x = zero F x.negative ↔ x.magnitude = 0 :=
  ⟨fun h => by rw [h]; rfl, fun h => Binary.ext rfl h⟩

section Round

variable {K : Type} [Field K] [LinearOrder K] [FloorRing K] [IsStrictOrderedRing K]

/-- `BinaryFormat.nearest` as a rational number. -/
def nearestRat (F : BinaryFormat) (x : K) : ℚ :=
  roundEven (x / F.ulp x) * 2 ^ F.exponent x

theorem nearestRat_eq (x : ℚ) : nearestRat F x = F.nearest x := rfl

theorem nearest_nearestRat (x : K) : F.nearest (nearestRat F x) = nearestRat F x :=
  BinaryFormat.nearest_of_abs_le (F.abs_roundEven_div_ulp_le x) (F.emin_le_exponent x)

theorem nearestRat_nonneg {x : K} (hx : 0 ≤ x) : 0 ≤ nearestRat F x :=
  mul_nonneg (Int.cast_nonneg (roundEven_nonneg (div_nonneg hx (F.ulp_pos x).le)))
    (zpow_pos two_pos _).le

/-- The number with the given sign that is nearest to the size of `x`, or an infinity. -/
def round (F : BinaryFormat) (negative : Bool) (x : K) : Extended (Binary F) :=
  if h : nearestRat F |x| < 2 ^ F.emax then
    .finite ⟨negative, nearestRat F |x|, nearestRat_nonneg (abs_nonneg x), nearest_nearestRat _, h⟩
  else if negative then .negInf else .posInf

theorem round_eq_finite {negative : Bool} {x : K} {y : Binary F} :
    round F negative x = .finite y ↔ negative = y.negative ∧ nearestRat F |x| = y.magnitude := by
  unfold round
  constructor
  · intro h
    split_ifs at h with hlt hneg
    obtain rfl := Extended.finite.inj h
    exact ⟨rfl, rfl⟩
  · rintro ⟨rfl, hmag⟩
    rw [dif_pos (by rw [hmag]; exact y.lt_bound)]
    exact congrArg _ (Binary.ext rfl hmag)

end Round

/-- Rounding a rational number, with the sign that a zero gets. -/
def ofRat (F : BinaryFormat) (negativeZero : Bool) (x : ℚ) : Extended (Binary F) :=
  round F (if x = 0 then negativeZero else decide (x < 0)) x

/-- Rounding to multiples of `1 / N`, and back to a number of the format. -/
def toGrid (N : ℕ) (x : Binary F) : Extended (Binary F) :=
  round F x.negative ((roundEven (x.magnitude * N) : ℚ) / N)

theorem toGrid_eq_finite {N : ℕ} {x y : Binary F} : x.toGrid N = .finite y ↔
    x.negative = y.negative ∧ F.nearest ((roundEven (x.magnitude * N) : ℚ) / N) = y.magnitude := by
  have hnonneg : (0 : ℚ) ≤ (roundEven (x.magnitude * N) : ℚ) / N :=
    div_nonneg (Int.cast_nonneg (roundEven_nonneg (mul_nonneg x.nonneg N.cast_nonneg)))
      N.cast_nonneg
  rw [toGrid, round_eq_finite, abs_of_nonneg hnonneg, nearestRat_eq]

/-- The numbers that rounding to multiples of `1 / N` does not change are those nearest to such a
multiple. -/
theorem toGrid_eq_self_iff {N : ℕ} (hN : 0 < N) (hmin : (N : ℚ) * 2 ^ F.emin < 1)
    (hprec : N ≤ 2 ^ (F.prec - 1)) {x : Binary F} :
    x.toGrid N = .finite x ↔ ∃ n : ℕ, F.nearest ((n : ℚ) / N) = x.magnitude := by
  rw [toGrid_eq_finite, and_iff_right rfl]
  constructor
  · intro h
    obtain ⟨n, hn⟩ := Int.eq_ofNat_of_zero_le
      (roundEven_nonneg (mul_nonneg x.nonneg (N.cast_nonneg (α := ℚ))))
    exact ⟨n, by rw [← h, hn, Int.cast_natCast]⟩
  · rintro ⟨n, hn⟩
    rw [← hn, BinaryFormat.nearest_onGrid hN hmin hprec]

/-- Rounded to zero is what is at most half of `1 / N`. -/
theorem toGrid_magnitude_eq_zero_iff {N : ℕ} (hN : 0 < N) (hmin : (N : ℚ) * 2 ^ F.emin < 1)
    {x y : Binary F} (h : x.toGrid N = .finite y) :
    y.magnitude = 0 ↔ x.magnitude * N ≤ 1 / 2 := by
  have hNpos : (0 : ℚ) < N := by exact_mod_cast hN
  have hmul : 0 ≤ x.magnitude * N := mul_nonneg x.nonneg hNpos.le
  have hround := roundEven_nonneg hmul
  have hcast : (0 : ℚ) ≤ roundEven (x.magnitude * N) := Int.cast_nonneg hround
  rw [← abs_of_nonneg hmul, ← roundEven_eq_zero_iff, ← (toGrid_eq_finite.1 h).2,
    BinaryFormat.nearest_eq_zero_iff, abs_of_nonneg (div_nonneg hcast hNpos.le),
    div_le_iff₀ hNpos]
  constructor
  · intro hle
    have hlt : (roundEven (x.magnitude * N) : ℚ) < 1 := by linarith
    have : roundEven (x.magnitude * N) < 1 := by exact_mod_cast hlt
    omega
  · intro hzero
    rw [hzero, Int.cast_zero]
    exact mul_nonneg (half_pos (zpow_pos two_pos _)).le hNpos.le

/-- **Rounding to decimals** gives a number that a second time does not change. -/
theorem exists_toGrid {N : ℕ} (hN : 0 < N) (hmin : (N : ℚ) * 2 ^ F.emin < 1)
    (hprec : N ≤ 2 ^ (F.prec - 1)) (hemax : (F.prec : ℤ) < F.emax) (hemin : F.emin ≤ 0)
    (x : Binary F) : ∃ y, x.toGrid N = .finite y ∧ y.toGrid N = .finite y := by
  have hlt := BinaryFormat.nearest_roundEven_lt hN hemax hemin x.nonneg x.lt_bound x.nearest_eq
  obtain ⟨n, hn⟩ := Int.eq_ofNat_of_zero_le
    (roundEven_nonneg (mul_nonneg x.nonneg (N.cast_nonneg (α := ℚ))))
  let y : Binary F := ⟨x.negative, F.nearest ((n : ℚ) / N),
    BinaryFormat.nearest_nonneg (div_nonneg n.cast_nonneg N.cast_nonneg),
    BinaryFormat.nearest_nearest _, by rwa [hn, Int.cast_natCast] at hlt⟩
  refine ⟨y, toGrid_eq_finite.2 ⟨rfl, ?_⟩, (toGrid_eq_self_iff hN hmin hprec).2 ⟨n, rfl⟩⟩
  rw [hn, Int.cast_natCast]

end Binary

end StormPiper
