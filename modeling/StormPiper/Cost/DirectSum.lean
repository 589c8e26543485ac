import Mathlib.Algebra.BigOperators.Group.Finset.Basic
import Mathlib.Order.Interval.Finset.Basic
import Mathlib.Data.Int.Interval
import Mathlib.Data.Int.ConditionallyCompleteOrder
import Mathlib.Data.Rat.Floor
import Mathlib.Tactic.Linarith
import StormPiper.Cost.PresentValue

/-!
# The O&M present value as a direct sum

`compute_bmp_om_pv` builds a table of years and adds up a column of it.  For whole years this file
says what the table holds, and that the present value is the sum over the years of the planning
horizon of the cost of a year, escalated and discounted.

* `WholeYears` : the arguments, with whole years, a whole horizon and a whole lifespan.
* `WholeYears.yearlyCost` : the cost of one year.
* `computeBmpOmPv_direct_sum` : the table and the present value.
-/

namespace StormPiper

/-- The O&M arguments of a present value whose years are whole. -/
structure WholeYears (K : Type) [Field K] [LinearOrder K] where
  omCostPerYr : K
  replacementCost : Option K
  discountRate : K
  inflationRate : K
  costBasisYear : ℤ
  installYear : ℤ
  omCostBasisYear : ℤ
  planningHorizonYrs : ℤ
  lifespanYrs : Option ℤ
  discountRate_gt : -1 < discountRate
  inflationRate_gt : -1 < inflationRate
  horizon_nonneg : 0 ≤ planningHorizonYrs
  lifespan_pos : ∀ l ∈ lifespanYrs, 1 ≤ l
  /-- Without a lifespan the replacement years step by the horizon. -/
  horizon_pos : lifespanYrs = none → 1 ≤ planningHorizonYrs

namespace WholeYears

variable {K : Type} [Field K] [LinearOrder K]

/-- The first year of the planning horizon. -/
def horizonStart (w : WholeYears K) : ℤ := max w.costBasisYear w.installYear

/-- The last year of the planning horizon. -/
def horizonEnd (w : WholeYears K) : ℤ := w.horizonStart + w.planningHorizonYrs

/-- The settings of the request. -/
def settings (w : WholeYears K) : PVSettings K where
  discountRate := w.discountRate
  inflationRate := w.inflationRate
  planningHorizonYrs := w.planningHorizonYrs
  costBasisYear := w.costBasisYear

/-- The request with these arguments and a capital cost. -/
def request (w : WholeYears K) (capitalCost : K) (capitalCostBasisYear : Option K) :
    PVRequest K where
  capitalCost
  capitalCostBasisYear
  omCostPerYr := w.omCostPerYr
  omCostBasisYear := some w.omCostBasisYear
  installYear := some w.installYear
  replacementCost := w.replacementCost
  lifespanYrs := w.lifespanYrs.map Int.cast
  settings := w.settings

/-- A life ends in this year. -/
def LifeEnds (w : WholeYears K) (y : ℤ) : Prop :=
  ∃ l ∈ w.lifespanYrs, w.installYear < y ∧ l ∣ y - w.installYear

instance (w : WholeYears K) (y : ℤ) : Decidable (w.LifeEnds y) :=
  inferInstanceAs (Decidable (∃ l ∈ w.lifespanYrs, w.installYear < y ∧ l ∣ y - w.installYear))

/-- What is charged in a year for a replacement. -/
def replacementIn (w : WholeYears K) (y : ℤ) : K :=
  if w.LifeEnds y then w.replacementCost.getD 0 else 0

/-- The cost of a year, escalated and discounted, with the rounding after each step. -/
def yearlyCost (ops : FloatOps K) (w : WholeYears K) (y : ℤ) : K :=
  let cost := ops.round (w.omCostPerYr + w.replacementIn y)
  let escalated := ops.round (cost * ((1 + w.inflationRate) ^ (y - w.omCostBasisYear) *
    (1 + w.inflationRate) ^ (y - w.costBasisYear)))
  ops.round (escalated * ((1 + w.discountRate) ^ (y - w.costBasisYear))⁻¹)

/-! ### One row -/

variable [IsStrictOrderedRing K] [FloorRing K] {ops : FloatOps K} {w : WholeYears K}

/-- The row of a year, where its replacement is known. -/
theorem omRow_whole (hround : ops.round 0 = 0) {cost : K} {years : List K} {y : ℤ}
    (hyears : (if (y : K) ∈ years then cost else 0) = w.replacementIn y) :
    (omRow ops w.omCostPerYr w.omCostBasisYear cost w.settings (w.horizonEnd + 1)
        years y).inPlanningHorizon = decide (w.horizonStart ≤ y) ∧
    (omRow ops w.omCostPerYr w.omCostBasisYear cost w.settings (w.horizonEnd + 1)
        years y).replacementCost = w.replacementIn y ∧
    (omRow ops w.omCostPerYr w.omCostBasisYear cost w.settings (w.horizonEnd + 1)
        years y).pvOmCost =
      .finite (if w.horizonStart ≤ y then w.yearlyCost ops y else 0) := by
  have htrunc : truncate ((y : K) + (w.planningHorizonYrs : K) + 1) =
      y + w.planningHorizonYrs + 1 := by
    have hcast : (y : K) + (w.planningHorizonYrs : K) + 1 =
        ((y + w.planningHorizonYrs + 1 : ℤ) : K) := by simp
    rw [hcast, truncate_intCast]
  have hperiod : ∀ z : ℤ, truncate ((y : K) - (z : K)) = y - z := fun z => by
    rw [← Int.cast_sub, truncate_intCast]
  have hhorizon : decide (w.horizonEnd + 1 ≤ y + w.planningHorizonYrs + 1) =
      decide (w.horizonStart ≤ y) := by
    refine decide_eq_decide.2 ?_
    unfold horizonEnd
    omega
  have hdiscount : 1 + w.discountRate ≠ 0 := by linarith [w.discountRate_gt]
  have hinflation : 1 + w.inflationRate ≠ 0 := by linarith [w.inflationRate_gt]
  refine ⟨?_, hyears, ?_⟩
  · simp only [omRow, settings, htrunc, hhorizon]
  · simp only [omRow, settings, htrunc, hhorizon, hperiod, hyears,
      Extended.zpow_of_ne_zero hdiscount, Extended.zpow_of_ne_zero hinflation,
      Extended.inv_finite (zpow_ne_zero _ hdiscount), Extended.mul_finite,
      Extended.mapFinite_finite, decide_eq_true_eq, yearlyCost]
    split_ifs with hy
    · rw [mul_assoc, mul_comm (_⁻¹)]
    · simp only [hround, zero_mul, mul_zero]

/-! ### The table -/

/-- The years in which a life of `l` years ends. -/
def replacementYears (w : WholeYears K) (l : ℤ) : List K :=
  (arange (w.installYear : K) ((w.horizonEnd + 1 : ℤ) + 1) l).drop 1

theorem mem_replacementYears {l y : ℤ} (hl : 1 ≤ l) (hy : y ≤ w.horizonEnd) :
    (y : K) ∈ w.replacementYears l ↔ w.installYear < y ∧ l ∣ y - w.installYear := by
  have hpos : (0 : K) < l := by exact_mod_cast (by omega : 0 < l)
  rw [replacementYears, mem_arange_drop_one hpos]
  constructor
  · rintro ⟨k, hk, hyk, -⟩
    have hyk : y = w.installYear + k * l := by exact_mod_cast hyk
    have hkl : 0 < (k : ℤ) * l := Int.mul_pos (by omega) (by omega)
    exact ⟨by omega, k, by rw [hyk, add_sub_cancel_left, mul_comm]⟩
  · rintro ⟨hlt, c, hc⟩
    have hcpos : 0 < c := pos_of_mul_pos_right (by omega : 0 < l * c) (by omega)
    lift c to ℕ using hcpos.le
    refine ⟨c, by omega, ?_, ?_⟩
    · have hyc : y = w.installYear + c * l := by rw [mul_comm]; omega
      exact_mod_cast hyc
    · exact_mod_cast (by omega : y < w.horizonEnd + 1 + 1)

variable (ops w) in
/-- The rows are those of the years from the first to the last, with the replacements. -/
theorem computeBmpOmPv_whole : ∃ cost years,
    computeBmpOmPv ops w.omCostPerYr (some w.omCostBasisYear) (some w.installYear)
        (w.lifespanYrs.map Int.cast) w.replacementCost w.settings =
      .ok ((arangeInt (min w.costBasisYear w.installYear) (w.horizonEnd + 1)).map
        (omRow ops w.omCostPerYr w.omCostBasisYear cost w.settings (w.horizonEnd + 1) years)) ∧
    ∀ y ≤ w.horizonEnd, (if (y : K) ∈ years then cost else 0) = w.replacementIn y := by
  have hstart : truncate (min (w.costBasisYear : K) (w.installYear : K)) =
      min w.costBasisYear w.installYear := by
    rw [← Int.cast_min, truncate_intCast]
  have hend : truncate (max (w.costBasisYear : K) (w.installYear : K) +
      (w.planningHorizonYrs : K) + 1) = w.horizonEnd + 1 := by
    have hcast : max (w.costBasisYear : K) (w.installYear : K) + (w.planningHorizonYrs : K) + 1 =
        ((w.horizonEnd + 1 : ℤ) : K) := by simp [horizonEnd, horizonStart]
    rw [hcast, truncate_intCast]
  cases hlife : w.lifespanYrs with
  | none =>
    have hstep : (w.planningHorizonYrs : K) ≠ 0 := by
      have := w.horizon_pos hlife
      exact_mod_cast (by omega : w.planningHorizonYrs ≠ 0)
    refine ⟨0, w.replacementYears w.planningHorizonYrs, ?_, fun y _ => ?_⟩
    · simp only [computeBmpOmPv, Option.map_none, Option.getD_some, settings, hstart, hend,
        npArange, if_neg hstep, ok_bind, replacementYears]
    · have hnot : ¬ w.LifeEnds y := by
        rintro ⟨l, hl, -⟩
        rw [hlife] at hl
        cases hl
      rw [replacementIn, if_neg hnot, ite_self]
  | some l =>
    have hl : 1 ≤ l := w.lifespan_pos l hlife
    have hstep : (l : K) ≠ 0 := by exact_mod_cast (by omega : l ≠ 0)
    refine ⟨w.replacementCost.getD 0, w.replacementYears l, ?_, fun y hy => ?_⟩
    · simp only [computeBmpOmPv, Option.map_some, Option.getD_some, settings, hstart, hend,
        npArange, if_neg hstep, ok_bind, replacementYears]
    · have hends : (y : K) ∈ w.replacementYears l ↔ w.LifeEnds y := by
        rw [mem_replacementYears hl hy]
        simp [LifeEnds, hlife]
      exact if_congr hends rfl rfl

omit [IsStrictOrderedRing K] [FloorRing K] in
/-- The sum over all rows is the sum over the planning horizon. -/
theorem sum_horizon (w : WholeYears K) (f : ℤ → K) :
    ((arangeInt (min w.costBasisYear w.installYear) (w.horizonEnd + 1)).map fun y =>
        if w.horizonStart ≤ y then f y else 0).sum =
      ∑ y ∈ Finset.Icc w.horizonStart w.horizonEnd, f y := by
  rw [← List.sum_toFinset _ (nodup_arangeInt _ _), ← Finset.sum_filter]
  refine Finset.sum_congr ?_ fun _ _ => rfl
  ext y
  simp only [Finset.mem_filter, List.mem_toFinset, mem_arangeInt, Finset.mem_Icc]
  have : min w.costBasisYear w.installYear ≤ w.horizonStart := by
    unfold horizonStart
    omega
  omega

end WholeYears

/-! ### The present value -/

section DirectSum

variable {K : Type} [Field K] [LinearOrder K] [IsStrictOrderedRing K] [FloorRing K]

/-- **The O&M present value is the direct sum.**  The table has one row for each year from the
earlier of basis and install year to the end of the planning horizon.  The rows of the horizon, from
the later of the two years on, hold the escalated and discounted cost of their year, with the
replacement cost in the years in which a life ends, and the other rows hold zero.  The present value
is the rounded sum of the rows, which is the sum over the horizon. -/
theorem computeBmpOmPv_direct_sum (ops : FloatOps K) (hround : ops.round 0 = 0)
    (w : WholeYears K) :
    ∃ table, computeBmpOmPv ops w.omCostPerYr (some w.omCostBasisYear) (some w.installYear)
        (w.lifespanYrs.map Int.cast) w.replacementCost w.settings = .ok table ∧
      (∀ y : ℤ, (table.filter fun row => row.year = y).length =
        if min w.costBasisYear w.installYear ≤ y ∧ y ≤ w.horizonEnd then 1 else 0) ∧
      (∀ row ∈ table, row.inPlanningHorizon = decide (w.horizonStart ≤ row.year) ∧
        row.replacementCost = w.replacementIn row.year ∧
        row.pvOmCost =
          .finite (if w.horizonStart ≤ row.year then w.yearlyCost ops row.year else 0)) ∧
      ∀ capitalCost capitalCostBasisYear results,
        computeBmpPv ops (w.request capitalCost capitalCostBasisYear) = .ok results →
        results.presentValueOmCost =
            (Extended.sum (table.map fun row => row.pvOmCost)).mapFinite ops.round ∧
          results.presentValueOmCost =
            .finite (ops.round (∑ y ∈ Finset.Icc w.horizonStart w.horizonEnd,
              w.yearlyCost ops y)) := by
  obtain ⟨cost, years, htable, hyears⟩ := WholeYears.computeBmpOmPv_whole ops w
  set row := omRow ops w.omCostPerYr w.omCostBasisYear cost w.settings (w.horizonEnd + 1) years
    with hrow
  have hrowOf : ∀ y ∈ arangeInt (min w.costBasisYear w.installYear) (w.horizonEnd + 1), _ :=
    fun y hy => WholeYears.omRow_whole hround
      (hyears y (Int.lt_add_one_iff.1 (mem_arangeInt.1 hy).2))
  refine ⟨_, htable, fun y => ?_, ?_, fun cap basis results hresults => ?_⟩
  · have hcount := (nodup_arangeInt (min w.costBasisYear w.installYear) (w.horizonEnd + 1)).count
      (a := y)
    rw [List.filter_map, List.length_map]
    simp only [mem_arangeInt, Int.lt_add_one_iff, List.count_eq_countP,
      List.countP_eq_length_filter] at hcount
    exact hcount
  · rintro _ hmem
    obtain ⟨y, hy, rfl⟩ := List.mem_map.1 hmem
    exact hrowOf y hy
  · have hom : results.presentValueOmCost =
        (Extended.sum (((arangeInt (min w.costBasisYear w.installYear) (w.horizonEnd + 1)).map
          row).map fun row => row.pvOmCost)).mapFinite ops.round := by
      obtain ⟨capital, -, hresults⟩ := bind_eq_ok hresults
      obtain ⟨table, htable', hresults⟩ := bind_eq_ok hresults
      obtain rfl := Except.ok.inj (htable.symm.trans htable')
      obtain rfl := Except.ok.inj hresults
      rfl
    refine ⟨hom, ?_⟩
    rw [hom, List.map_map, ← w.sum_horizon]
    have hcells : (arangeInt (min w.costBasisYear w.installYear) (w.horizonEnd + 1)).map
        ((fun row => row.pvOmCost) ∘ row) =
        ((arangeInt (min w.costBasisYear w.installYear) (w.horizonEnd + 1)).map fun y =>
          if w.horizonStart ≤ y then w.yearlyCost ops y else 0).map .finite := by
      rw [List.map_map]
      exact List.map_congr_left fun y hy => (hrowOf y hy).2.2
    rw [hcells, Extended.sum_finite]
    rfl

end DirectSum

/-- The costs of the example of `tests/test_src/test_npv.py` with a horizon of fifty years. -/
def testYears : WholeYears ℚ where
  omCostPerYr := 6000
  replacementCost := some 225000
  discountRate := 5 / 100
  inflationRate := 22 / 1000
  costBasisYear := 2023
  installYear := 2023
  omCostBasisYear := 2023
  planningHorizonYrs := 50
  lifespanYrs := some 15
  discountRate_gt := by norm_num
  inflationRate_gt := by norm_num
  horizon_nonneg := by decide
  lifespan_pos := by decide
  horizon_pos := by decide

/-- The table of the test has one row for each year from 2023 to 2073. -/
theorem computeBmpOmPv_direct_sum_test :
    ∃ table, computeBmpOmPv ⟨roundCents, fun _ _ => 0⟩ 6000 (some 2023) (some 2023) (some 15)
        (some 225000) testYears.settings = .ok table ∧
      ∀ y : ℤ, (table.filter fun row => row.year = y).length =
        if 2023 ≤ y ∧ y ≤ 2073 then 1 else 0 := by
  obtain ⟨table, htable, hyears, -⟩ :=
    computeBmpOmPv_direct_sum ⟨roundCents, fun _ _ => 0⟩ (by decide +kernel) testYears
  exact ⟨table, htable, hyears⟩

example : (computeBmpPv ⟨roundCents, fun _ _ => 0⟩ (testYears.request 450000 none)).map
    (·.presentValueTotalCost) = .ok (.finite 1296592.79) := by
  decide +kernel

end StormPiper
