import StormPiper.Cost.Safety

/-!
# Costs in another year's dollars

A cost is given in the dollars of its basis year.  The same cost in the dollars of `n` years later
is larger by `n` years of inflation, and its present value is the same.  O&M and replacement costs
are escalated by powers of `1 + i`, the index by which costs are restated, and keep their present
value.  Capital costs are escalated by powers of `1 / (1 - i)`, another index.

* `PVRequest.restateCapital`, `PVRequest.restateOm` : a request in another year's dollars.
* `PVRequest.KeepsPresentValue` : the present values are the same.
* `PVRequest.keepsPresentValue_iff` : the requests and the numbers of years for which they are.
-/

namespace StormPiper

/-- Floats without rounding. -/
def exactOps {K : Type} (rpow : K → K → K) : FloatOps K := ⟨id, rpow⟩

namespace PVRequest

variable {K : Type} [Field K] [LinearOrder K] (req : PVRequest K)

/-- The years that a power is taken of are whole. -/
structure YearsWhole : Prop where
  costBasis : ∃ y : ℤ, req.settings.costBasisYear = y
  capitalBasis : ∃ y : ℤ, req.capitalBasis = y
  omBasis : ∃ y : ℤ, req.omBasis = y
  install : ∃ y : ℤ, req.install = y

/-- A cost in the dollars of `n` years later. -/
def inflated (n : ℤ) (cost : K) : K := cost * (1 + req.settings.inflationRate) ^ n

/-- The request with the capital cost in the dollars of `n` years later. -/
def restateCapital (n : ℤ) : PVRequest K :=
  { req with
    capitalCost := req.inflated n req.capitalCost
    capitalCostBasisYear := some (req.capitalBasis + n) }

/-- The request with the O&M and replacement costs in the dollars of `n` years later. -/
def restateOm (n : ℤ) : PVRequest K :=
  { req with
    omCostPerYr := req.inflated n req.omCostPerYr
    replacementCost := req.replacementCost.map (req.inflated n)
    omCostBasisYear := some (req.omBasis + n) }

/-- What is charged at the end of a life: nothing where there is no lifespan. -/
def charged : K :=
  match req.lifespanYrs with
  | none => 0
  | some _ => req.replacementCost.getD 0

variable [FloorRing K] (ops : FloatOps K)

/-- The capital cost as `compute_bmp_pv` computes it. -/
def pvCapitalCost : Except PyError K :=
  computePvCapitalCost ops req.capitalCost req.capitalCostBasisYear (some req.install) req.settings

/-- The O&M cost of each row, as `compute_bmp_pv` computes it. -/
def pvOmCosts : Except PyError (List (ℤ × Extended K)) :=
  (computeBmpOmPv ops req.omCostPerYr req.omCostBasisYear (some req.install) req.lifespanYrs
    req.replacementCost req.settings).map (List.map fun row => (row.year, row.pvOmCost))

/-- The present values are the same in the dollars of `n` years later. -/
structure KeepsPresentValue (n : ℤ) : Prop where
  capital : (req.restateCapital n).pvCapitalCost ops = req.pvCapitalCost ops
  om : (req.restateOm n).pvOmCosts ops = req.pvOmCosts ops

end PVRequest

variable {K : Type} [Field K] [LinearOrder K] [FloorRing K] [IsStrictOrderedRing K]

/-! ### O&M costs -/

/-- A row escalates its costs by the index by which they are restated. -/
theorem omRow_pvOmCost_inflated (rpow : K → K → K) (req : PVRequest K) (n : ℤ)
    (hindex : 1 + req.settings.inflationRate ≠ 0) {b : ℤ} (hbasis : req.omBasis = b) (cost : K)
    (last : ℤ) (years : List K) (y : ℤ) :
    (omRow (exactOps rpow) (req.inflated n req.omCostPerYr) (req.omBasis + n)
        (req.inflated n cost) req.settings last years y).pvOmCost =
      (omRow (exactOps rpow) req.omCostPerYr req.omBasis cost req.settings last years
        y).pvOmCost := by
  have hperiod : truncate ((y : K) - b) = y - b := by
    rw [← Int.cast_sub, truncate_intCast]
  have hperiod' : truncate ((y : K) - (b + n)) = y - b - n := by
    rw [← Int.cast_add, ← Int.cast_sub, truncate_intCast, sub_add_eq_sub_sub]
  -- the restated cost of the year, in the horizon or not
  have htotal : ∀ p : Prop, ∀ _ : Decidable p, ∀ q : Prop, ∀ _ : Decidable q,
      (if p then req.inflated n req.omCostPerYr + (if q then req.inflated n cost else 0) else 0) =
        req.inflated n (if p then req.omCostPerYr + (if q then cost else 0) else 0) := by
    intro p _ q _
    unfold PVRequest.inflated
    split_ifs <;> ring
  have hescalated : ∀ c : K, req.inflated n c * (1 + req.settings.inflationRate) ^ (y - b - n) =
      c * (1 + req.settings.inflationRate) ^ (y - b) := by
    intro c
    rw [PVRequest.inflated, mul_assoc, ← zpow_add₀ hindex, add_sub_cancel]
  simp only [omRow, exactOps, id, hbasis, hperiod, hperiod', htotal,
    Extended.zpow_of_ne_zero hindex, Extended.mul_finite, hescalated]

omit [IsStrictOrderedRing K] in
/-- The O&M costs with every argument given. -/
theorem pvOmCosts_eq (ops : FloatOps K) (req : PVRequest K) :
    req.pvOmCosts ops = (computeBmpOmPv ops req.omCostPerYr (some req.omBasis) (some req.install)
      (some req.step) (some req.charged) req.settings).map
        (List.map fun row => (row.year, row.pvOmCost)) := by
  cases hlife : req.lifespanYrs with
  | none =>
    simp only [PVRequest.pvOmCosts, PVRequest.step, PVRequest.charged, hlife]
    rfl
  | some lifespan =>
    simp only [PVRequest.pvOmCosts, PVRequest.step, PVRequest.charged, hlife]
    rfl

omit [LinearOrder K] [FloorRing K] [IsStrictOrderedRing K] in
theorem charged_restateOm (req : PVRequest K) (n : ℤ) :
    (req.restateOm n).charged = req.inflated n req.charged := by
  have hzero : req.inflated n 0 = 0 := zero_mul _
  cases hlife : req.lifespanYrs with
  | none => simp only [PVRequest.charged, PVRequest.restateOm, hlife, hzero]
  | some lifespan =>
    cases hcost : req.replacementCost <;>
      simp [PVRequest.charged, PVRequest.restateOm, hlife, hcost, hzero]

omit [IsStrictOrderedRing K] in
/-- Costs with the same rows have the same table, or the same error where nothing can be stepped
by the lifespan. -/
theorem map_computeBmpOmPv_congr {γ : Type} (ops : FloatOps K) (f : OmRow K (Extended K) → γ)
    (g : PVSettings K) {om basis cost om' basis' cost' : K}
    (hrow : ∀ last years y,
      f (omRow ops om' basis' cost' g last years y) = f (omRow ops om basis cost g last years y))
    (install lifespan : K) :
    (computeBmpOmPv ops om' (some basis') (some install) (some lifespan) (some cost') g).map
        (List.map f) =
      (computeBmpOmPv ops om (some basis) (some install) (some lifespan) (some cost) g).map
        (List.map f) := by
  rw [computeBmpOmPv_some, computeBmpOmPv_some]
  cases npArange install _ lifespan with
  | error e => rfl
  | ok years =>
    simp only [ok_bind, Except.map, List.map_map]
    exact congrArg Except.ok (List.map_congr_left fun y _ => hrow _ _ y)

/-- Restated O&M costs keep their present value in every row. -/
theorem pvOmCosts_restateOm (rpow : K → K → K) (req : PVRequest K) (n : ℤ)
    (hindex : 1 + req.settings.inflationRate ≠ 0) (hbasis : ∃ b : ℤ, req.omBasis = b) :
    (req.restateOm n).pvOmCosts (exactOps rpow) = req.pvOmCosts (exactOps rpow) := by
  obtain ⟨b, hbasis⟩ := hbasis
  rw [pvOmCosts_eq, pvOmCosts_eq, charged_restateOm]
  refine map_computeBmpOmPv_congr _ _ _ (fun last years y => ?_) req.install req.step
  exact congrArg (Prod.mk y)
    (omRow_pvOmCost_inflated rpow req n hindex hbasis req.charged last years y)

/-! ### Capital costs -/

/-- One over a power with a whole exponent. -/
theorem pyPow_bind_pyInv_intCast (ops : FloatOps K) (x : K) (n : ℤ) :
    (pyPow ops x n >>= pyInv) =
      if x = 0 ∧ n ≠ 0 then .error .zeroDivisionError else .ok (some (x ^ n)⁻¹) := by
  have hwhole : (n : K) = ⌊(n : K)⌋ := by rw [Int.floor_intCast]
  unfold pyPow
  by_cases hx : x = 0
  · subst hx
    rcases lt_trichotomy n 0 with hneg | rfl | hpos
    · simp [hneg, hneg.ne, error_bind]
    · simp [ok_bind, pyInv]
    · simp [hpos.ne', hpos.not_gt, ok_bind, pyInv]
  · rw [if_neg hx, if_pos hwhole, if_neg (fun h => hx h.1), Int.floor_intCast]
    exact if_neg (zpow_ne_zero n hx)

/-- The capital cost for whole years: the discount alone can divide by zero. -/
theorem computePvCapitalCost_intCast (rpow : K → K → K) (cost : K) (basis install : Option K)
    {g : PVSettings K} (hrate : 1 - g.inflationRate ≠ 0) {k m : ℤ}
    (hesc : g.costBasisYear - basis.getD g.costBasisYear = k)
    (hdisc : max (install.getD g.costBasisYear - g.costBasisYear) 0 = m) :
    computePvCapitalCost (exactOps rpow) cost basis install g =
      if 1 + g.discountRate = 0 ∧ m ≠ 0 then .error .zeroDivisionError
      else .ok (cost * ((1 - g.inflationRate) ^ k)⁻¹ * ((1 + g.discountRate) ^ m)⁻¹) := by
  have hescFactor := pyPow_bind_pyInv_intCast (exactOps rpow) (1 - g.inflationRate) k
  have hdiscFactor := pyPow_bind_pyInv_intCast (exactOps rpow) (1 + g.discountRate) m
  rw [if_neg fun h => hrate h.1] at hescFactor
  unfold computePvCapitalCost
  simp only [hesc, hdisc]
  rw [← bind_assoc, hescFactor, ok_bind, ← bind_assoc, hdiscFactor]
  split_ifs <;> rfl

omit [LinearOrder K] [FloorRing K] [IsStrictOrderedRing K] in
/-- A restated capital cost is escalated by the quotient of the two indices too much. -/
theorem inflated_mul_inv_zpow (req : PVRequest K) (n k : ℤ) (cost : K)
    (hrate : 1 - req.settings.inflationRate ≠ 0) :
    req.inflated n cost * ((1 - req.settings.inflationRate) ^ (k - n))⁻¹ =
      cost * ((1 - req.settings.inflationRate) ^ k)⁻¹ *
        ((1 + req.settings.inflationRate) ^ n * (1 - req.settings.inflationRate) ^ n) := by
  rw [zpow_sub₀ hrate, inv_div, PVRequest.inflated, div_eq_mul_inv]
  ring

/-- The two indices differ unless there is no inflation. -/
theorem indices_zpow_eq_one_iff {i : K} (hlo : -1 < i) (hhi : i < 1) {n : ℤ} :
    (1 + i) ^ n * (1 - i) ^ n = 1 ↔ n = 0 ∨ i = 0 := by
  have hprod : (1 + i) * (1 - i) = 1 - i ^ 2 := by ring
  have hpos : 0 ≤ 1 - i ^ 2 := by nlinarith
  rw [← mul_zpow, hprod]
  by_cases hi : i = 0
  · simp [hi]
  · have hne : 1 - i ^ 2 ≠ 1 := by simpa using hi
    rw [zpow_eq_one_iff_right₀ hpos hne, or_iff_left hi]

variable (rpow : K → K → K) (req : PVRequest K) (n : ℤ)

/-- A restated capital cost keeps its present value where the indices agree, or there is nothing
to restate, or the discount divides by zero before and after. -/
theorem pvCapitalCost_restateCapital_iff (hyears : req.YearsWhole)
    (hlo : -1 < req.settings.inflationRate) (hhi : req.settings.inflationRate < 1) :
    (req.restateCapital n).pvCapitalCost (exactOps rpow) = req.pvCapitalCost (exactOps rpow) ↔
      n = 0 ∨ req.settings.inflationRate = 0 ∨ req.capitalCost = 0 ∨
        1 + req.settings.discountRate = 0 ∧ req.settings.costBasisYear < req.install := by
  obtain ⟨c, hc⟩ := hyears.costBasis
  obtain ⟨b, hb⟩ := hyears.capitalBasis
  obtain ⟨t, ht⟩ := hyears.install
  have hrate : 1 - req.settings.inflationRate ≠ 0 := sub_ne_zero.2 hhi.ne'
  have hdisc : max (req.install - req.settings.costBasisYear) 0 = (max (t - c) 0 : ℤ) := by
    rw [hc, ht]
    push_cast
    rfl
  have hesc : req.settings.costBasisYear - req.capitalBasis = (c - b : ℤ) := by
    rw [hc, hb, Int.cast_sub]
  have hesc' : req.settings.costBasisYear - (req.capitalBasis + n) = (c - b - n : ℤ) := by
    rw [← sub_sub, hesc, Int.cast_sub (c - b)]
  have hvalue : req.pvCapitalCost (exactOps rpow) = _ :=
    computePvCapitalCost_intCast rpow req.capitalCost _ _ hrate hesc hdisc
  have hvalue' : (req.restateCapital n).pvCapitalCost (exactOps rpow) = _ :=
    computePvCapitalCost_intCast rpow (req.inflated n req.capitalCost) _ _ hrate hesc' hdisc
  have hlater : max (t - c) 0 ≠ 0 ↔ req.settings.costBasisYear < req.install := by
    rw [hc, ht, Int.cast_lt]
    omega
  rw [hvalue, hvalue', ← hlater]
  by_cases hzero : 1 + req.settings.discountRate = 0 ∧ max (t - c) 0 ≠ 0
  · simp [hzero]
  · have hdiscount : ((1 + req.settings.discountRate) ^ max (t - c) 0)⁻¹ ≠ 0 := by
      refine inv_ne_zero fun h => hzero ?_
      by_cases hd : 1 + req.settings.discountRate = 0
      · exact ⟨hd, fun hm => by simp [hm] at h⟩
      · exact absurd h (zpow_ne_zero _ hd)
    have hesc0 : ((1 - req.settings.inflationRate) ^ (c - b))⁻¹ ≠ 0 :=
      inv_ne_zero (zpow_ne_zero _ hrate)
    -- the discount is the same for both values and can be left out
    rw [if_neg hzero, if_neg hzero, Except.ok.injEq, mul_left_inj' hdiscount,
      inflated_mul_inv_zpow req n (c - b) _ hrate, mul_right_eq_self₀,
      indices_zpow_eq_one_iff hlo hhi, or_iff_left hzero]
    simp [hesc0, or_assoc]

/-- **When a restated cost keeps its present value.**  O&M and replacement costs always do.  A
capital cost does where nothing is restated, or its present value is not affected. -/
theorem PVRequest.keepsPresentValue_iff (hyears : req.YearsWhole)
    (hlo : -1 < req.settings.inflationRate) (hhi : req.settings.inflationRate < 1) :
    req.KeepsPresentValue (exactOps rpow) n ↔
      n = 0 ∨ req.settings.inflationRate = 0 ∨ req.capitalCost = 0 ∨
        1 + req.settings.discountRate = 0 ∧ req.settings.costBasisYear < req.install := by
  have hindex : 1 + req.settings.inflationRate ≠ 0 := by linarith
  have hcapital := pvCapitalCost_restateCapital_iff rpow req n hyears hlo hhi
  exact ⟨fun h => hcapital.1 h.capital,
    fun h => ⟨hcapital.2 h, pvOmCosts_restateOm rpow req n hindex hyears.omBasis⟩⟩

theorem yearsWhole_exampleRequest (capitalCost : ℚ) :
    PVRequest.YearsWhole { exampleRequest (some 15) 50 with capitalCost := capitalCost } where
  costBasis := ⟨2023, by norm_num [exampleRequest]⟩
  capitalBasis := ⟨2023, by norm_num [PVRequest.capitalBasis, exampleRequest]⟩
  omBasis := ⟨2023, by norm_num [PVRequest.omBasis, exampleRequest]⟩
  install := ⟨2027, by norm_num [PVRequest.install, exampleRequest]⟩

theorem PVRequest.keepsPresentValue_without_capital :
    PVRequest.KeepsPresentValue { exampleRequest (some 15) 50 with capitalCost := 0 }
      (exactOps fun _ _ => 1) 5 :=
  (PVRequest.keepsPresentValue_iff (fun _ _ => 1) _ 5 (yearsWhole_exampleRequest 0)
    (by norm_num [exampleRequest]) (by norm_num [exampleRequest])).2 (.inr (.inr (.inl rfl)))

/-- 450000 dollars of 2023 are 459900 dollars of 2024 at 2.2 percent of inflation, and are worth
less then. -/
theorem PVRequest.not_keepsPresentValue_example :
    (exampleRequest (some 15) 50).YearsWhole ∧
      -1 < (exampleRequest (some 15) 50).settings.inflationRate ∧
      (exampleRequest (some 15) 50).settings.inflationRate < 1 ∧
      ¬ (exampleRequest (some 15) 50).KeepsPresentValue (exactOps fun _ _ => 1) 1 := by
  refine ⟨yearsWhole_exampleRequest 450000, by norm_num [exampleRequest],
    by norm_num [exampleRequest], fun h => ?_⟩
  have hne : ((exampleRequest (some 15) 50).restateCapital 1).pvCapitalCost
        (exactOps fun _ _ => 1) ≠
      (exampleRequest (some 15) 50).pvCapitalCost (exactOps fun _ _ => 1) := by
    decide +kernel
  exact hne h.capital

end StormPiper
