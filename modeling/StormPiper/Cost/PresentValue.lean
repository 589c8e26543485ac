import Mathlib.Algebra.Order.Field.Power
import StormPiper.Arithmetic.Extended
import StormPiper.Frame.Basic
import StormPiper.Python.Basic

/-!
# The present value of a facility's costs

A shallow embedding of `compute_bmp_pv` and the functions it calls, in exact arithmetic over an
ordered field.  The two operations on floats that leave the field, rounding to cents and powers
with an exponent that is not whole, are parameters.

Arithmetic on plain numbers can raise: `0 ** negative`, a division by zero, and `round` of the
complex number that a negative number to a fractional power is.  Arithmetic on columns does not:
it gives infinities and NaN.

## Main definitions

* `PVRequest` : the arguments.
* `computePvCapitalCost`, `computeBmpOmPv`, `computeBmpPv` : the three functions.
* `PVRequest.withDefaults` : the request with what the missing arguments stand for.
* `computeBmpPv_withDefaults` : filling in the defaults changes nothing.
-/

namespace StormPiper

/-- The operations on floats that are not exact. -/
structure FloatOps (K : Type) where
  /-- `round(x, 2)`. -/
  round : K → K
  /-- `x ** y` for a positive `x` and a `y` that is not whole. -/
  rpow : K → K → K

/-- The global settings of a present value. -/
structure PVSettings (K : Type) where
  discountRate : K
  inflationRate : K
  planningHorizonYrs : K
  costBasisYear : K
  deriving Repr, DecidableEq

/-- The arguments of `compute_bmp_pv`. -/
structure PVRequest (K : Type) where
  capitalCost : K
  capitalCostBasisYear : Option K
  omCostPerYr : K
  omCostBasisYear : Option K
  installYear : Option K
  replacementCost : Option K
  lifespanYrs : Option K
  settings : PVSettings K
  deriving Repr, DecidableEq

/-- A row of the table of yearly costs: `C` is the type of the cells that can be infinite. -/
structure OmRow (K C : Type) where
  year : ℤ
  inPlanningHorizon : Bool
  omCostPeriod : ℤ
  costBasisPeriod : ℤ
  discountFactor : C
  omCostEscalationFactor : C
  costBasisEscalationFactor : C
  omCost : K
  replacementCost : K
  omCostTotal : K
  omCostTotalInHorizon : K
  escalatedCost : C
  discountedEscalatedCost : C
  pvOmCost : C
  deriving Repr, DecidableEq

/-- A row of the present value table. -/
structure PVRow (K C : Type) extends OmRow K C where
  pvCapitalCost : K
  pvTotalCostSum : C
  pvOmCostCumsum : C
  pvTotalCostCumsum : C
  deriving Repr, DecidableEq

/-- The columns of the chart. -/
inductive ChartVariable where
  | pvOmCost
  | pvCapitalCost
  | pvTotalCostSum
  | pvOmCostCumsum
  | pvTotalCostCumsum
  deriving Repr, DecidableEq

/-- A row of the chart table. -/
structure ChartRow (C : Type) where
  year : ℤ
  variableName : ChartVariable
  value : C
  title : String
  deriving Repr, DecidableEq

/-- What `compute_bmp_pv` returns. -/
structure PVResults (K : Type) where
  settings : PVSettings K
  presentValueTotalCost : Extended K
  presentValueCapitalCost : K
  presentValueOmCost : Extended K
  presentValueCostTable : List (PVRow K (Option K))
  presentValueChartTable : List (ChartRow (Option K))
  deriving Repr, DecidableEq

/-- The title of a variable in the chart. -/
def ChartVariable.title : ChartVariable → String
  | pvOmCost => "Present Value OM Cost (annual)"
  | pvCapitalCost => "Present Value Capital Cost"
  | pvTotalCostSum => "Present Value Total Cost (annual)"
  | pvOmCostCumsum => "Present Value OM Cost (cumulative)"
  | pvTotalCostCumsum => "Present Value Total Cost (cumulative)"

/-- The rows of a table in a JSON text. -/
def PVRow.toJson {K : Type} (row : PVRow K (Extended K)) : PVRow K (Option K) :=
  { row with
    discountFactor := row.discountFactor.toJson
    omCostEscalationFactor := row.omCostEscalationFactor.toJson
    costBasisEscalationFactor := row.costBasisEscalationFactor.toJson
    escalatedCost := row.escalatedCost.toJson
    discountedEscalatedCost := row.discountedEscalatedCost.toJson
    pvOmCost := row.pvOmCost.toJson
    pvTotalCostSum := row.pvTotalCostSum.toJson
    pvOmCostCumsum := row.pvOmCostCumsum.toJson
    pvTotalCostCumsum := row.pvTotalCostCumsum.toJson }

section Functions

variable {K : Type} [Field K] [LinearOrder K] [FloorRing K] (ops : FloatOps K)

/-- `x ** y` of plain numbers, `none` for a complex result. -/
def pyPow (x y : K) : Except PyError (Option K) :=
  if x = 0 then
    if y < 0 then .error .zeroDivisionError else .ok (some (if y = 0 then 1 else 0))
  else if y = ⌊y⌋ then .ok (some (x ^ ⌊y⌋))
  else if x < 0 then .ok none
  else .ok (some (ops.rpow x y))

/-- `1 / x` of a plain number; a complex `x` is not zero. -/
def pyInv : Option K → Except PyError (Option K)
  | none => .ok none
  | some x => if x = 0 then .error .zeroDivisionError else .ok (some x⁻¹)

/-- `numpy.arange(start, stop, step)`. -/
def npArange (start stop step : K) : Except PyError (List K) :=
  if step = 0 then .error .zeroDivisionError else .ok (arange start stop step)

/-- `compute_pv_capital_cost`. -/
def computePvCapitalCost (capitalCost : K) (capitalCostBasisYear installYear : Option K)
    (g : PVSettings K) : Except PyError K := do
  let capitalCostBasisYear := capitalCostBasisYear.getD g.costBasisYear
  let installYear := installYear.getD g.costBasisYear
  let escalationFactor ←
    pyInv (← pyPow ops (1 - g.inflationRate) (g.costBasisYear - capitalCostBasisYear))
  let discountFactor ←
    pyInv (← pyPow ops (1 + g.discountRate) (max (installYear - g.costBasisYear) 0))
  match escalationFactor, discountFactor with
  | some e, some d => .ok (ops.round (capitalCost * e * d))
  | _, _ => .error .typeError

/-- One row of `compute_bmp_om_pv`. -/
def omRow (omCostPerYr omCostBasisYear replacementCost : K) (g : PVSettings K)
    (endAnalysisYear : ℤ) (replacementYears : List K) (year : ℤ) : OmRow K (Extended K) :=
  let inPlanningHorizon :=
    decide (endAnalysisYear ≤ truncate ((year : K) + g.planningHorizonYrs + 1))
  let omCostPeriod := truncate ((year : K) - omCostBasisYear)
  let costBasisPeriod := truncate ((year : K) - g.costBasisYear)
  let discountFactor := (Extended.zpow (1 + g.discountRate) costBasisPeriod).inv
  let omCostEscalationFactor := Extended.zpow (1 + g.inflationRate) omCostPeriod
  let costBasisEscalationFactor := Extended.zpow (1 + g.inflationRate) costBasisPeriod
  let replacement := if (year : K) ∈ replacementYears then replacementCost else 0
  let omCostTotal := omCostPerYr + replacement
  let omCostTotalInHorizon := ops.round (if inPlanningHorizon then omCostTotal else 0)
  let escalatedCost := (((Extended.finite omCostTotalInHorizon).mul omCostEscalationFactor).mul
    costBasisEscalationFactor).mapFinite ops.round
  let discountedEscalatedCost := (discountFactor.mul escalatedCost).mapFinite ops.round
  { year
    inPlanningHorizon
    omCostPeriod
    costBasisPeriod
    discountFactor
    omCostEscalationFactor
    costBasisEscalationFactor
    omCost := omCostPerYr
    replacementCost := replacement
    omCostTotal
    omCostTotalInHorizon
    escalatedCost
    discountedEscalatedCost
    pvOmCost := discountedEscalatedCost }

/-- `compute_bmp_om_pv`. -/
def computeBmpOmPv (omCostPerYr : K)
    (omCostBasisYear installYear lifespanYrs replacementCost : Option K) (g : PVSettings K) :
    Except PyError (List (OmRow K (Extended K))) := do
  let installYear := installYear.getD g.costBasisYear
  let omCostBasisYear := omCostBasisYear.getD g.costBasisYear
  let replacementCost := replacementCost.getD 0
  -- without a lifespan nothing is replaced, and the replacement years step by the horizon
  let (replacementCost, lifespanYrs) :=
    match lifespanYrs with
    | none => (0, g.planningHorizonYrs)
    | some lifespan => (replacementCost, lifespan)
  let startAnalysisYear := truncate (min g.costBasisYear installYear)
  let endAnalysisYear := truncate (max g.costBasisYear installYear + g.planningHorizonYrs + 1)
  let replacementYears ← npArange installYear ((endAnalysisYear : K) + 1) lifespanYrs
  .ok <| (arangeInt startAnalysisYear endAnalysisYear).map <|
    omRow ops omCostPerYr omCostBasisYear replacementCost g endAnalysisYear
      (replacementYears.drop 1)

/-- The table of yearly costs with the capital cost in the install year, before the cumulative
columns are filled. -/
def joinCapitalCost (table : List (OmRow K (Extended K))) (installYear capitalCost : K) :
    List (PVRow K (Extended K)) :=
  (Frame.mergeLeft (fun row => (row.year : K)) Prod.fst table [(installYear, capitalCost)]).map
    fun x =>
      let pvCapitalCost := (x.2.map Prod.snd).getD 0
      { x.1 with
        pvCapitalCost
        pvTotalCostSum := x.1.pvOmCost.add (.finite pvCapitalCost)
        pvOmCostCumsum := .nan
        pvTotalCostCumsum := .nan }

/-- The cumulative columns. -/
def assignCumsums (table : List (PVRow K (Extended K))) : List (PVRow K (Extended K)) :=
  let omCumsum := Extended.cumsum (table.map fun row => row.pvOmCost)
  let totalCumsum := Extended.cumsum (table.map fun row => row.pvTotalCostSum)
  (table.zip (omCumsum.zip totalCumsum)).map fun x =>
    { x.1 with pvOmCostCumsum := x.2.1, pvTotalCostCumsum := x.2.2 }

/-- The value of a chart column. -/
def ChartVariable.value (row : PVRow K (Extended K)) : ChartVariable → Extended K
  | pvOmCost => row.pvOmCost
  | pvCapitalCost => .finite row.pvCapitalCost
  | pvTotalCostSum => row.pvTotalCostSum
  | pvOmCostCumsum => row.pvOmCostCumsum
  | pvTotalCostCumsum => row.pvTotalCostCumsum

/-- The columns of the chart below each other, with their titles. -/
def chartTable (table : List (PVRow K (Extended K))) : List (ChartRow (Option K)) :=
  [ChartVariable.pvOmCost, .pvCapitalCost, .pvTotalCostSum, .pvOmCostCumsum,
      .pvTotalCostCumsum].flatMap fun v =>
    table.map fun row =>
      { year := row.year, variableName := v, value := (v.value row).toJson, title := v.title }

/-- `compute_bmp_pv`. -/
def computeBmpPv (req : PVRequest K) : Except PyError (PVResults K) := do
  let g := req.settings
  let installYear := req.installYear.getD g.costBasisYear
  let presentValueCapitalCost ←
    computePvCapitalCost ops req.capitalCost req.capitalCostBasisYear (some installYear) g
  let table ← computeBmpOmPv ops req.omCostPerYr req.omCostBasisYear (some installYear)
    req.lifespanYrs req.replacementCost g
  let pvCostTable := assignCumsums (joinCapitalCost table installYear presentValueCapitalCost)
  let presentValueOmCost :=
    (Extended.sum (table.map fun row => row.pvOmCost)).mapFinite ops.round
  .ok
    { settings := g
      presentValueTotalCost :=
        ((Extended.finite presentValueCapitalCost).add presentValueOmCost).mapFinite ops.round
      presentValueCapitalCost
      presentValueOmCost
      presentValueCostTable := pvCostTable.map PVRow.toJson
      presentValueChartTable := chartTable pvCostTable }

end Functions

/-! ### The defaults -/

section Defaults

variable {K : Type} [Field K] [LinearOrder K]

/-- What is charged at the end of a life, and the length of a life.  Without a lifespan nothing is
charged, and where nothing is charged only a lifespan of zero makes a difference. -/
def PVRequest.replacement (req : PVRequest K) : K × K :=
  let charged : K × K :=
    match req.lifespanYrs with
    | none => (0, req.settings.planningHorizonYrs)
    | some lifespan => (req.replacementCost.getD 0, lifespan)
  if charged.1 = 0 then (0, if charged.2 = 0 then 0 else 1) else charged

/-- The request with what the missing arguments stand for. -/
def PVRequest.withDefaults (req : PVRequest K) : PVRequest K :=
  { req with
    capitalCostBasisYear := some (req.capitalCostBasisYear.getD req.settings.costBasisYear)
    omCostBasisYear := some (req.omCostBasisYear.getD req.settings.costBasisYear)
    installYear := some (req.installYear.getD req.settings.costBasisYear)
    replacementCost := some req.replacement.1
    lifespanYrs := some req.replacement.2 }

variable [FloorRing K] (ops : FloatOps K)

theorem omRow_no_replacement (omCost basis : K) (g : PVSettings K) (last : ℤ)
    (years years' : List K) :
    omRow ops omCost basis 0 g last years = omRow ops omCost basis 0 g last years' := by
  funext year
  simp only [omRow, ite_self]

/-- The yearly costs when every argument is given. -/
theorem computeBmpOmPv_some (omCost basis install lifespan cost : K) (g : PVSettings K) :
    computeBmpOmPv ops omCost (some basis) (some install) (some lifespan) (some cost) g =
      (npArange install
        ((truncate (max g.costBasisYear install + g.planningHorizonYrs + 1) : K) + 1)
        lifespan >>= fun years =>
        .ok ((arangeInt (truncate (min g.costBasisYear install))
          (truncate (max g.costBasisYear install + g.planningHorizonYrs + 1))).map
          (omRow ops omCost basis cost g
            (truncate (max g.costBasisYear install + g.planningHorizonYrs + 1)) (years.drop 1)))) :=
  rfl

/-- Where nothing is charged, two lifespans give the same table unless one of them is zero. -/
theorem computeBmpOmPv_no_replacement (omCost basis install : K) {lifespan lifespan' : K}
    (h : lifespan = 0 ↔ lifespan' = 0) (g : PVSettings K) :
    computeBmpOmPv ops omCost (some basis) (some install) (some lifespan) (some 0) g =
      computeBmpOmPv ops omCost (some basis) (some install) (some lifespan') (some 0) g := by
  rw [computeBmpOmPv_some, computeBmpOmPv_some]
  by_cases h0 : lifespan = 0
  · simp only [npArange, if_pos h0, if_pos (h.1 h0), error_bind]
  · simp only [npArange, if_neg h0, if_neg (mt h.2 h0), ok_bind]
    rw [omRow_no_replacement ops omCost basis g _ _ []]
    exact congrArg (fun f => Except.ok (List.map f _)) (omRow_no_replacement ops ..)

/-- The yearly costs depend on the replacement cost and the lifespan through
`PVRequest.replacement` only. -/
theorem computeBmpOmPv_replacement (req : PVRequest K) (basis install : K) :
    computeBmpOmPv ops req.omCostPerYr (some basis) (some install) (some req.replacement.2)
        (some req.replacement.1) req.settings =
      computeBmpOmPv ops req.omCostPerYr (some basis) (some install) req.lifespanYrs
        req.replacementCost req.settings := by
  have hiff : ∀ lifespan : K, (if lifespan = 0 then (0 : K) else 1) = 0 ↔ lifespan = 0 := by
    intro _
    split_ifs with h <;> simp [h]
  cases hlife : req.lifespanYrs with
  | none =>
    simp only [PVRequest.replacement, hlife, if_pos]
    exact computeBmpOmPv_no_replacement ops _ _ _ (hiff _) _
  | some lifespan =>
    simp only [PVRequest.replacement, hlife]
    by_cases hcost : req.replacementCost.getD 0 = 0
    · simp only [if_pos hcost]
      rw [computeBmpOmPv_no_replacement ops _ _ _ (hiff lifespan)]
      cases hc : req.replacementCost with
      | none => rfl
      | some cost => rw [hc] at hcost; rw [← hcost]; rfl
    · simp only [if_neg hcost]
      cases hc : req.replacementCost with
      | none => rw [hc] at hcost; exact absurd rfl hcost
      | some cost => rfl

/-- **Filling in the defaults changes nothing.** -/
theorem computeBmpPv_withDefaults (req : PVRequest K) :
    computeBmpPv ops req.withDefaults = computeBmpPv ops req := by
  have hom := computeBmpOmPv_replacement ops req
    (req.omCostBasisYear.getD req.settings.costBasisYear)
    (req.installYear.getD req.settings.costBasisYear)
  have hbasis : ∀ install, computeBmpOmPv ops req.omCostPerYr req.omCostBasisYear (some install)
      req.lifespanYrs req.replacementCost req.settings =
      computeBmpOmPv ops req.omCostPerYr
        (some (req.omCostBasisYear.getD req.settings.costBasisYear)) (some install)
        req.lifespanYrs req.replacementCost req.settings := fun _ => rfl
  simp only [computeBmpPv, PVRequest.withDefaults, Option.getD_some]
  rw [hom, ← hbasis]
  rfl

end Defaults

end StormPiper
