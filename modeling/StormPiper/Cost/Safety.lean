import Mathlib.Data.Rat.Floor
import StormPiper.Cost.Record

/-!
# What the computation returns in exact arithmetic

The computation divides by two powers and steps a range by the lifespan, or by the planning horizon
where there is no lifespan.  In exact arithmetic it returns for the requests in which both powers
are numbers other than zero and the step is not zero; `Cost.Floats` has the exceptions that floats
add.

* `PowInvertible` : a power that can be divided by.
* `PVRequest.Safe` : the requests for which the computation returns.
* `computeBmpPv_eq_ok_iff` : what it returns then.
-/

namespace StormPiper

variable {K : Type} [Field K] [LinearOrder K]

/-! ### What the missing arguments stand for -/

namespace PVRequest

variable (req : PVRequest K)

/-- `install_year`, by default the cost basis year. -/
def install : K := req.installYear.getD req.settings.costBasisYear

/-- `capital_cost_basis_year`, by default the cost basis year. -/
def capitalBasis : K := req.capitalCostBasisYear.getD req.settings.costBasisYear

/-- `om_cost_basis_year`, by default the cost basis year. -/
def omBasis : K := req.omCostBasisYear.getD req.settings.costBasisYear

/-- What the replacement years step by. -/
def step : K := req.lifespanYrs.getD req.settings.planningHorizonYrs

/-- The number of years by which the capital cost is escalated. -/
def escalationYears : K := req.settings.costBasisYear - req.capitalBasis

/-- The number of years by which the capital cost is discounted. -/
def discountYears : K := max (req.install - req.settings.costBasisYear) 0

end PVRequest

variable [FloorRing K]

/-! ### Powers -/

/-- `x ** y` is a real number other than zero. -/
def PowInvertible (x y : K) : Prop := (x ≠ 0 ∨ y = 0) ∧ (0 ≤ x ∨ y = ⌊y⌋)

instance (x y : K) : Decidable (PowInvertible x y) :=
  inferInstanceAs (Decidable ((x ≠ 0 ∨ y = 0) ∧ (0 ≤ x ∨ y = ⌊y⌋)))

/-- The value of a power, where it is a real number. -/
def realPow (ops : FloatOps K) (x y : K) : K := if y = ⌊y⌋ then x ^ ⌊y⌋ else ops.rpow x y

variable {ops : FloatOps K}

/-- Dividing by a power gives a real number exactly if the power is one other than zero. -/
theorem pyPow_bind_pyInv [IsStrictOrderedRing K] (hrpow : ∀ x y, 0 < x → ops.rpow x y ≠ 0)
    {x y e : K} : (pyPow ops x y >>= pyInv) = .ok (some e) ↔
      PowInvertible x y ∧ e = (realPow ops x y)⁻¹ := by
  have hinv : ∀ z : K, z ≠ 0 → (pyInv (some z) = .ok (some e) ↔ e = z⁻¹) := by
    intro z hz
    simp only [pyInv, if_neg hz, Except.ok.injEq, Option.some.injEq, eq_comm]
  unfold PowInvertible pyPow realPow
  by_cases hx : x = 0
  · subst hx
    rcases lt_trichotomy y 0 with hneg | rfl | hpos
    · simp [hneg, hneg.ne, error_bind]
    · simpa [ok_bind] using hinv 1 one_ne_zero
    · simp [hpos.ne', not_lt.2 hpos.le, ok_bind, pyInv]
  · -- other than from zero, only a broken exponent of a negative number leaves the real numbers
    by_cases hy : y = ⌊y⌋
    · simp only [if_neg hx, if_pos hy, ok_bind, hinv _ (zpow_ne_zero _ hx)]
      exact ⟨fun h => ⟨⟨.inl hx, .inr hy⟩, h⟩, And.right⟩
    · rcases lt_or_gt_of_ne hx with hneg | hpos
      · simp [hx, hy, hneg, ok_bind, pyInv, not_le.2 hneg]
      · simp only [if_neg hx, if_neg hy, if_neg hpos.not_gt, ok_bind, hinv _ (hrpow x y hpos)]
        exact ⟨fun h => ⟨⟨.inl hx, .inl hpos.le⟩, h⟩, And.right⟩

/-! ### The safe requests -/

namespace PVRequest

variable (req : PVRequest K)

/-- The present value of the capital cost before it is rounded. -/
def discountedCapital (ops : FloatOps K) : K :=
  req.capitalCost * (realPow ops (1 - req.settings.inflationRate) req.escalationYears)⁻¹ *
    (realPow ops (1 + req.settings.discountRate) req.discountYears)⁻¹

/-- The first year of the table. -/
def firstYear : ℤ := truncate (min req.settings.costBasisYear req.install)

/-- The year after the last one. -/
def endYear : ℤ :=
  truncate (max req.settings.costBasisYear req.install + req.settings.planningHorizonYrs + 1)

/-- What the computation returns with a row for each year. -/
def results (ops : FloatOps K) (row : ℤ → OmRow K (Extended K)) : PVResults K :=
  let capital := ops.round (req.discountedCapital ops)
  let table := (arangeInt req.firstYear req.endYear).map row
  let omCost := (Extended.sum (table.map fun row => row.pvOmCost)).mapFinite ops.round
  let pvTable := assignCumsums (joinCapitalCost table req.install capital)
  { settings := req.settings
    presentValueTotalCost := ((Extended.finite capital).add omCost).mapFinite ops.round
    presentValueCapitalCost := capital
    presentValueOmCost := omCost
    presentValueCostTable := pvTable.map PVRow.toJson
    presentValueChartTable := chartTable pvTable }

/-- The powers can be divided by, and the range of the replacement years has a step. -/
structure Safe : Prop where
  escalation : PowInvertible (1 - req.settings.inflationRate) req.escalationYears
  discount : PowInvertible (1 + req.settings.discountRate) req.discountYears
  step_ne_zero : req.step ≠ 0

end PVRequest

/-! ### The three functions -/

section Functions

variable [IsStrictOrderedRing K] (req : PVRequest K)

theorem computePvCapitalCost_eq_ok (hrpow : ∀ x y, 0 < x → ops.rpow x y ≠ 0) {v : K} :
    computePvCapitalCost ops req.capitalCost req.capitalCostBasisYear (some req.install)
        req.settings = .ok v ↔
      PowInvertible (1 - req.settings.inflationRate) req.escalationYears ∧
      PowInvertible (1 + req.settings.discountRate) req.discountYears ∧
      v = ops.round (req.discountedCapital ops) := by
  constructor
  · intro h
    obtain ⟨_, hescPow, h⟩ := bind_eq_ok h
    obtain ⟨e, hescInv, h⟩ := bind_eq_ok h
    obtain ⟨_, hdiscPow, h⟩ := bind_eq_ok h
    obtain ⟨d, hdiscInv, h⟩ := bind_eq_ok h
    cases e with
    | none => cases h
    | some e =>
      cases d with
      | none => cases h
      | some d =>
        obtain ⟨hesc, rfl⟩ := (pyPow_bind_pyInv hrpow).1 (bind_eq_ok_iff.2 ⟨_, hescPow, hescInv⟩)
        obtain ⟨hdisc, rfl⟩ :=
          (pyPow_bind_pyInv hrpow).1 (bind_eq_ok_iff.2 ⟨_, hdiscPow, hdiscInv⟩)
        exact ⟨hesc, hdisc, (Except.ok.inj h).symm⟩
  · rintro ⟨hesc, hdisc, rfl⟩
    obtain ⟨_, hescPow, hescInv⟩ := bind_eq_ok ((pyPow_bind_pyInv hrpow).2 ⟨hesc, rfl⟩)
    obtain ⟨_, hdiscPow, hdiscInv⟩ := bind_eq_ok ((pyPow_bind_pyInv hrpow).2 ⟨hdisc, rfl⟩)
    exact bind_eq_ok_iff.2 ⟨_, hescPow, bind_eq_ok_iff.2 ⟨_, hescInv,
      bind_eq_ok_iff.2 ⟨_, hdiscPow, bind_eq_ok_iff.2 ⟨_, hdiscInv, rfl⟩⟩⟩⟩

omit [IsStrictOrderedRing K] in
/-- The table of yearly costs, with what is charged in the replacement years. -/
theorem exists_computeBmpOmPv_eq (ops : FloatOps K) : ∃ cost years,
    computeBmpOmPv ops req.omCostPerYr req.omCostBasisYear (some req.install) req.lifespanYrs
        req.replacementCost req.settings =
      if req.step = 0 then .error .zeroDivisionError
      else .ok ((arangeInt req.firstYear req.endYear).map
        (omRow ops req.omCostPerYr req.omBasis cost req.settings req.endYear years)) := by
  cases hlife : req.lifespanYrs with
  | none =>
    refine ⟨0, (arange req.install ((req.endYear : K) + 1) req.step).drop 1, ?_⟩
    have hstep : req.step = req.settings.planningHorizonYrs := by
      rw [PVRequest.step, hlife, Option.getD_none]
    rw [hstep]
    simp only [computeBmpOmPv, Option.getD_some, npArange]
    split_ifs <;> rfl
  | some lifespan =>
    refine ⟨req.replacementCost.getD 0,
      (arange req.install ((req.endYear : K) + 1) req.step).drop 1, ?_⟩
    have hstep : req.step = lifespan := by rw [PVRequest.step, hlife, Option.getD_some]
    rw [hstep]
    simp only [computeBmpOmPv, Option.getD_some, npArange]
    split_ifs <;> rfl

variable (ops) in
/-- **What the computation returns.** -/
theorem computeBmpPv_eq_ok_iff (hrpow : ∀ x y, 0 < x → ops.rpow x y ≠ 0) :
    ∃ cost years, ∀ res, computeBmpPv ops req = .ok res ↔ req.Safe ∧
      res = req.results ops (omRow ops req.omCostPerYr req.omBasis cost req.settings req.endYear
        years) := by
  obtain ⟨cost, years, htable⟩ := exists_computeBmpOmPv_eq req ops
  refine ⟨cost, years, fun res => ?_⟩
  constructor
  · intro h
    obtain ⟨capital, hcapital, h⟩ := bind_eq_ok h
    obtain ⟨table, hom, h⟩ := bind_eq_ok h
    obtain ⟨hesc, hdisc, rfl⟩ := (computePvCapitalCost_eq_ok req hrpow).1 hcapital
    have hom := htable.symm.trans hom
    split_ifs at hom with hstep
    obtain rfl := Except.ok.inj hom
    exact ⟨⟨hesc, hdisc, hstep⟩, (Except.ok.inj h).symm⟩
  · rintro ⟨hsafe, rfl⟩
    have hcapital := (computePvCapitalCost_eq_ok req hrpow).2
      ⟨hsafe.escalation, hsafe.discount, rfl⟩
    rw [if_neg hsafe.step_ne_zero] at htable
    exact bind_eq_ok_iff.2 ⟨_, hcapital, bind_eq_ok_iff.2 ⟨_, htable, rfl⟩⟩

end Functions

/-- The costs of the example of `models/npv.py`, with the given lifespan and planning horizon. -/
def exampleRequest (lifespanYrs : Option ℚ) (planningHorizonYrs : ℚ) : PVRequest ℚ where
  capitalCost := 450000
  capitalCostBasisYear := some 2023
  omCostPerYr := 6000
  omCostBasisYear := some 2023
  installYear := some 2027
  replacementCost := some 225000
  lifespanYrs
  settings :=
    { discountRate := 42 / 1000, inflationRate := 22 / 1000, planningHorizonYrs,
      costBasisYear := 2023 }

end StormPiper
