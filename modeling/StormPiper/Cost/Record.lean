import Mathlib.Data.List.AList
import StormPiper.Cost.PresentValue

/-!
# The cost records of the facilities

The two ways in which present values get into the table `tmnt_facility_cost`:

* `PATCH /tmnt_attr/{node_id}` validates the patch alone, computes from it and writes the patch
  and the results over the stored record (`patchTmntAttr`);
* `POST /calculate_present_cost/{node_id}` computes from the stored record
  (`calculatePvForExistingTmntInDb`).

Both take the global cost settings from their own table.

## Main definitions

* `CostRecord`, `CostUpdate` : a stored record, and the fields that a write sets.
* `CostDb` : the facilities, their records and the cost settings.
* `pvRequest` : the arguments of the computation, if the required ones are there.
* `PVComputation` : the endpoints, for whatever numbers the computation calculates with.
-/

namespace StormPiper

/-- The variables of the table `global_cost_setting` that the computation takes. -/
inductive CostVariable where
  | discountRate
  | inflationRate
  | planningHorizonYrs
  | costBasisYear
  deriving Repr, DecidableEq

/-- All variables. -/
def CostVariable.all : List CostVariable :=
  [.discountRate, .inflationRate, .planningHorizonYrs, .costBasisYear]

/-- The cost attributes of a facility. -/
structure CostAttrs (K : Type) where
  capitalCost : Option K
  capitalCostBasisYear : Option K
  omCostPerYr : Option K
  omCostBasisYear : Option K
  installYear : Option K
  replacementCost : Option K
  lifespanYrs : Option K
  deriving Repr, DecidableEq

/-- A row of the table `tmnt_facility_cost`. -/
structure CostRecord (K : Type) extends CostAttrs K where
  discountRate : Option K
  inflationRate : Option K
  planningHorizonYrs : Option K
  costBasisYear : Option K
  presentValueCapitalCost : Option K
  presentValueOmCost : Option (Extended K)
  presentValueTotalCost : Option (Extended K)
  presentValueCostTable : Option (List (PVRow K (Option K)))
  presentValueChartTable : Option (List (ChartRow (Option K)))
  deriving Repr, DecidableEq

/-- The cost attributes of a patch. -/
structure CostPatch (K : Type) where
  capitalCost : ModelField K
  capitalCostBasisYear : ModelField K
  omCostPerYr : ModelField K
  omCostBasisYear : ModelField K
  installYear : ModelField K
  replacementCost : ModelField K
  lifespanYrs : ModelField K
  deriving Repr, DecidableEq

/-- The fields of a record that a write sets: `TMNTFacilityCostUpdate`. -/
structure CostUpdate (K : Type) extends CostPatch K where
  discountRate : ModelField K
  inflationRate : ModelField K
  planningHorizonYrs : ModelField K
  costBasisYear : ModelField K
  presentValueCapitalCost : ModelField K
  presentValueOmCost : ModelField (Extended K)
  presentValueTotalCost : ModelField (Extended K)
  presentValueCostTable : ModelField (List (PVRow K (Option K)))
  presentValueChartTable : ModelField (List (ChartRow (Option K)))
  deriving Repr, DecidableEq

variable {K Node : Type}

/-! ### Writes -/

/-- The attributes after a patch. -/
def CostPatch.apply (p : CostPatch K) (a : CostAttrs K) : CostAttrs K where
  capitalCost := p.capitalCost.apply a.capitalCost
  capitalCostBasisYear := p.capitalCostBasisYear.apply a.capitalCostBasisYear
  omCostPerYr := p.omCostPerYr.apply a.omCostPerYr
  omCostBasisYear := p.omCostBasisYear.apply a.omCostBasisYear
  installYear := p.installYear.apply a.installYear
  replacementCost := p.replacementCost.apply a.replacementCost
  lifespanYrs := p.lifespanYrs.apply a.lifespanYrs

/-- The record after an update of the fields that are set. -/
def CostUpdate.apply (u : CostUpdate K) (r : CostRecord K) : CostRecord K where
  toCostAttrs := u.toCostPatch.apply r.toCostAttrs
  discountRate := u.discountRate.apply r.discountRate
  inflationRate := u.inflationRate.apply r.inflationRate
  planningHorizonYrs := u.planningHorizonYrs.apply r.planningHorizonYrs
  costBasisYear := u.costBasisYear.apply r.costBasisYear
  presentValueCapitalCost := u.presentValueCapitalCost.apply r.presentValueCapitalCost
  presentValueOmCost := u.presentValueOmCost.apply r.presentValueOmCost
  presentValueTotalCost := u.presentValueTotalCost.apply r.presentValueTotalCost
  presentValueCostTable := u.presentValueCostTable.apply r.presentValueCostTable
  presentValueChartTable := u.presentValueChartTable.apply r.presentValueChartTable

/-- The attributes of a facility without a record. -/
def CostAttrs.empty : CostAttrs K := ⟨none, none, none, none, none, none, none⟩

/-- The columns of a new record that its creation does not set. -/
def CostRecord.empty : CostRecord K :=
  ⟨CostAttrs.empty, none, none, none, none, none, none, none, none, none⟩

/-- `dict.update`: the keys of `v` win. -/
def CostPatch.update (u v : CostPatch K) : CostPatch K where
  capitalCost := v.capitalCost.orElse u.capitalCost
  capitalCostBasisYear := v.capitalCostBasisYear.orElse u.capitalCostBasisYear
  omCostPerYr := v.omCostPerYr.orElse u.omCostPerYr
  omCostBasisYear := v.omCostBasisYear.orElse u.omCostBasisYear
  installYear := v.installYear.orElse u.installYear
  replacementCost := v.replacementCost.orElse u.replacementCost
  lifespanYrs := v.lifespanYrs.orElse u.lifespanYrs

/-- `dict.update`: the keys of `v` win. -/
def CostUpdate.update (u v : CostUpdate K) : CostUpdate K where
  toCostPatch := u.toCostPatch.update v.toCostPatch
  discountRate := v.discountRate.orElse u.discountRate
  inflationRate := v.inflationRate.orElse u.inflationRate
  planningHorizonYrs := v.planningHorizonYrs.orElse u.planningHorizonYrs
  costBasisYear := v.costBasisYear.orElse u.costBasisYear
  presentValueCapitalCost := v.presentValueCapitalCost.orElse u.presentValueCapitalCost
  presentValueOmCost := v.presentValueOmCost.orElse u.presentValueOmCost
  presentValueTotalCost := v.presentValueTotalCost.orElse u.presentValueTotalCost
  presentValueCostTable := v.presentValueCostTable.orElse u.presentValueCostTable
  presentValueChartTable := v.presentValueChartTable.orElse u.presentValueChartTable

/-- No attribute is set. -/
def CostPatch.none : CostPatch K := ⟨.unset, .unset, .unset, .unset, .unset, .unset, .unset⟩

/-- The write of a patch without results. -/
def CostPatch.toUpdate (p : CostPatch K) : CostUpdate K :=
  ⟨p, .unset, .unset, .unset, .unset, .unset, .unset, .unset, .unset, .unset⟩

/-- The write that clears the results: `cost_results` before the computation. -/
def CostUpdate.cleared : CostUpdate K :=
  ⟨.none, .unset, .unset, .unset, .unset, .null, .null, .null, .null, .null⟩

/-- The write of the results: `cost_results` after the computation. -/
def PVResults.toUpdate (res : PVResults K) : CostUpdate K :=
  ⟨.none, .val res.settings.discountRate, .val res.settings.inflationRate,
    .val res.settings.planningHorizonYrs, .val res.settings.costBasisYear,
    .val res.presentValueCapitalCost, .val res.presentValueOmCost, .val res.presentValueTotalCost,
    .val res.presentValueCostTable, .val res.presentValueChartTable⟩

/-- Writing a merged dictionary is writing one after the other. -/
theorem CostUpdate.update_apply (u v : CostUpdate K) (r : CostRecord K) :
    (u.update v).apply r = v.apply (u.apply r) := by
  simp only [CostUpdate.apply, CostUpdate.update, CostPatch.apply, CostPatch.update,
    ModelField.orElse_apply]

/-! ### Requests -/

/-- `get_pv_settings`: a missing row leaves the variable out, a text that is not a number raises. -/
def getPvSettings (rows : CostVariable → Option (Option K)) :
    Except PyError (CostVariable → Option K) :=
  if CostVariable.all.any fun v => (rows v).any Option.isNone then .error .valueError
  else .ok fun v => (rows v).join

/-- `PVRequest(**attrs, **settings)`: `none` when a required field is missing or null. -/
def pvRequest (a : CostAttrs K) (g : CostVariable → Option K) : Option (PVRequest K) := do
  let capitalCost ← a.capitalCost
  let omCostPerYr ← a.omCostPerYr
  let discountRate ← g .discountRate
  let inflationRate ← g .inflationRate
  let planningHorizonYrs ← g .planningHorizonYrs
  let costBasisYear ← g .costBasisYear
  some
    { capitalCost
      capitalCostBasisYear := a.capitalCostBasisYear
      omCostPerYr
      omCostBasisYear := a.omCostBasisYear
      installYear := a.installYear
      replacementCost := a.replacementCost
      lifespanYrs := a.lifespanYrs
      settings := { discountRate, inflationRate, planningHorizonYrs, costBasisYear } }

/-- The settings columns of a record. -/
def CostRecord.settings (r : CostRecord K) : CostVariable → Option K
  | .discountRate => r.discountRate
  | .inflationRate => r.inflationRate
  | .planningHorizonYrs => r.planningHorizonYrs
  | .costBasisYear => r.costBasisYear

/-- The settings as a request takes them. -/
def PVSettings.get (g : PVSettings K) : CostVariable → K
  | .discountRate => g.discountRate
  | .inflationRate => g.inflationRate
  | .planningHorizonYrs => g.planningHorizonYrs
  | .costBasisYear => g.costBasisYear

theorem pvRequest_eq_some {a : CostAttrs K} {g : CostVariable → Option K} {req : PVRequest K} :
    pvRequest a g = some req ↔
      a = ⟨some req.capitalCost, req.capitalCostBasisYear, some req.omCostPerYr,
        req.omCostBasisYear, req.installYear, req.replacementCost, req.lifespanYrs⟩ ∧
      ∀ v, g v = some (req.settings.get v) := by
  constructor
  · intro h
    simp only [pvRequest, Option.bind_eq_bind, Option.bind_eq_some_iff, Option.some.injEq] at h
    obtain ⟨c, hc, o, ho, d, hd, i, hi, p, hp, b, hb, rfl⟩ := h
    refine ⟨by rw [← hc, ← ho], fun v => ?_⟩
    cases v <;> assumption
  · rintro ⟨rfl, hg⟩
    simp [pvRequest, hg, PVSettings.get]

/-! ### Endpoints -/

/-- The facilities, their cost records and the rows of the cost settings, where a row without a
number holds another text. -/
structure CostDb (Node K : Type) where
  facilities : List Node
  costs : AList fun _ : Node => CostRecord K
  settings : CostVariable → Option (Option K)

/-- The attributes that `PVRequest` sees of a patch: what is not set has its default, `None`. -/
def CostPatch.attrs (p : CostPatch K) : CostAttrs K := p.apply CostAttrs.empty

/-- `any(k in pv_fields for k in unvalidated_data.keys())`. -/
def CostPatch.modifiesPvFields (p : CostPatch K) : Bool :=
  p.capitalCost.isSet || p.capitalCostBasisYear.isSet || p.omCostPerYr.isSet ||
    p.omCostBasisYear.isSet || p.installYear.isSet || p.replacementCost.isSet ||
    p.lifespanYrs.isSet

variable [DecidableEq Node]

/-- `CRUDTMNTFacilityCost.upsert`. -/
def CostDb.upsert (s : CostDb Node K) (node : Node) (u : CostUpdate K) : CostDb Node K :=
  { s with costs := s.costs.insert node (u.apply ((s.costs.lookup node).getD .empty)) }

theorem CostDb.lookup_upsert_self (s : CostDb Node K) (node : Node) (u : CostUpdate K) :
    (s.upsert node u).costs.lookup node =
      some (u.apply ((s.costs.lookup node).getD .empty)) :=
  AList.lookup_insert _

theorem CostDb.lookup_upsert_ne (s : CostDb Node K) {node other : Node} (h : other ≠ node)
    (u : CostUpdate K) : (s.upsert node u).costs.lookup other = s.costs.lookup other :=
  AList.lookup_insert_ne h

/-- The settings that the stored record is computed with: those of the settings table, and the
record's own where the table has no row. -/
def CostRecord.currentSettings (r : CostRecord K) (g : CostVariable → Option K) :
    CostVariable → Option K :=
  fun v => (g v).or (r.settings v)

/-- `PVRequest(**{**orm_to_dict(attr), **pv_global_settings})`. -/
def CostRecord.request (r : CostRecord K) (g : CostVariable → Option K) : Option (PVRequest K) :=
  pvRequest r.toCostAttrs (r.currentSettings g)

/-- The computation that the endpoints call, for requests of the type `R`. -/
structure PVComputation (K R : Type) where
  /-- `PVRequest(**attrs, **settings)`: `none` where the model does not validate. -/
  request : CostAttrs K → (CostVariable → Option K) → Option R
  /-- `compute_bmp_pv`, with the write of what it returns. -/
  compute : R → Except PyError (CostUpdate K)

namespace PVComputation

variable {R : Type} (pv : PVComputation K R)

/-- `maybe_update_pv_params`: the write of a patch, with results if the patch alone is a valid
request. -/
def maybeUpdatePvParams (p : CostPatch K) (g : CostVariable → Option K) :
    Except PyError (Option (CostUpdate K)) :=
  if p.modifiesPvFields then
    let unvalidatedData := p.toUpdate.update .cleared
    match pv.request p.attrs g with
    | none => .ok (some unvalidatedData)
    | some req => (pv.compute req).map fun res => some (unvalidatedData.update res)
  else .ok none

/-- `PATCH /tmnt_attr/{node_id}`: the dependency `validate_tmnt_update` runs first, and its
exceptions are answered with 422. -/
def patchTmntAttr (s : CostDb Node K) (node : Node) (p : CostPatch K) :
    Except PyError (CostDb Node K) :=
  match getPvSettings s.settings >>= pv.maybeUpdatePvParams p with
  | .error _ => .error (.httpException 422)
  | .ok u? =>
    if node ∉ s.facilities then .error (.httpException 404)
    else .ok (u?.elim s (s.upsert node))

/-- `calculate_pv_for_existing_tmnt_in_db`. -/
def calculatePvForExistingTmntInDb (s : CostDb Node K) (node : Node) :
    CostDb Node K × Except PyError Unit :=
  match s.costs.lookup node with
  | none => (s, .error .recordNotFound)
  | some attr =>
    match getPvSettings s.settings with
    | .error e => (s, .error e)
    | .ok g =>
      match pv.request attr.toCostAttrs (attr.currentSettings g) with
      | none => (s.upsert node .cleared, .error .validationError)
      | some req =>
        match pv.compute req with
        | .error e => (s, .error e)
        | .ok res => (s.upsert node res, .ok ())

end PVComputation

variable [Field K] [LinearOrder K] [FloorRing K] (ops : FloatOps K)

/-- The computation in exact arithmetic. -/
def exactPv : PVComputation K (PVRequest K) where
  request := pvRequest
  compute req := (computeBmpPv ops req).map PVResults.toUpdate

/-- `maybe_update_pv_params` in exact arithmetic. -/
def maybeUpdatePvParams (p : CostPatch K) (g : CostVariable → Option K) :
    Except PyError (Option (CostUpdate K)) :=
  (exactPv ops).maybeUpdatePvParams p g

/-- `PATCH /tmnt_attr/{node_id}` in exact arithmetic. -/
def patchTmntAttr (s : CostDb Node K) (node : Node) (p : CostPatch K) :
    Except PyError (CostDb Node K) :=
  (exactPv ops).patchTmntAttr s node p

/-- `calculate_pv_for_existing_tmnt_in_db` in exact arithmetic. -/
def calculatePvForExistingTmntInDb (s : CostDb Node K) (node : Node) :
    CostDb Node K × Except PyError Unit :=
  (exactPv ops).calculatePvForExistingTmntInDb s node

/-- `PATCH /globals/cost/{variable}`: the text of an existing row is replaced. -/
def patchCostGlobal (s : CostDb Node K) (v : CostVariable) (value : Option K) :
    Except PyError (CostDb Node K) :=
  match s.settings v with
  | none => .error (.httpException 404)
  | some _ => .ok { s with settings := fun w => if w = v then some value else s.settings w }

end StormPiper
