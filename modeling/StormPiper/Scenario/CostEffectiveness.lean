import Mathlib.Algebra.Order.Field.Rat
import StormPiper.Scenario.Settled
import StormPiper.Sql.Null

/-!
# Cost effectiveness in the scenario code and in the view

The cost of a facility for each pound of a pollutant that it removes is computed twice: by
`maybe_include_cost_effectiveness` for scenarios, and by an expression of the view `tmnt_v` for the
facilities in the database.  Both leave the figure out where nothing is removed, and the expression
also where the load that is removed is null.

* `tmntVCostPerLoad` : the expression of the view.
* `AgreesWithView` : the scenario code returns, and stores what the view computes.
* `agreesWithView_iff` : it does so exactly where it compares no null with 0.
-/

namespace StormPiper

variable {J K Digest Time : Type} [Field K] [LinearOrder K]

/-- `pv / nullif(COALESCE(nullif(sign(x), -1), 0) * x, 0)`, a column of `tmnt_v`. -/
def tmntVCostPerLoad (pv x : Option K) : Except SqlError (Option K) :=
  Sql.div pv <|
    Sql.nullif
      (Sql.mul (Sql.coalesce (Sql.nullif (Sql.sign x) (some (-1))) (some 0)) x) (some 0)

/-- The expression never divides by zero: its value is null unless a load is removed. -/
theorem tmntVCostPerLoad_eq [IsStrictOrderedRing K] (pv x : Option K) :
    tmntVCostPerLoad pv x =
      .ok (pv.bind fun p => x.bind fun a => if 0 < a then some (p / a) else none) := by
  rw [tmntVCostPerLoad, Sql.coalesce_nullif_sign]
  cases x with
  | none => simp [Sql.nullif]
  | some a =>
    by_cases ha : 0 < a
    · cases pv with
      | none => simp [Sql.mul, Sql.nullif, ha]
      | some p => simp [Sql.mul, Sql.nullif, Sql.div, ha, ha.ne']
    · simp [Sql.mul, Sql.nullif, ha]

/-- The load of a pollutant that a node removes: null where the results have no row of the node. -/
def LoadRemoved (rows : List (ResultRow J K)) (nodeId : Option String) (poc : Poc)
    (x : Option K) : Prop :=
  (∃ row ∈ rows, row.nodeId = nodeId ∧ x = (row.loadLbsRemoved poc).get) ∨
    (∀ row ∈ rows, row.nodeId ≠ nodeId) ∧ x = none

/-- The scenario code does not raise, and stores for every facility and every pollutant what the
view computes from the same present value and the same load. -/
def AgreesWithView (data : ScenarioData J K Digest Time) : Prop :=
  maybeIncludeCostEffectiveness.Passes data ∧
    ∃ facs, (maybeIncludeCostEffectiveness data).1.structuralTmnt = .val facs ∧
      List.Forall₂ (fun fac fac' : Facility J K => ∀ poc x,
          LoadRemoved data.tmntResults fac.nodeId.get poc x →
          ∃ v, tmntVCostPerLoad fac.presentValueTotalCost.get x = .ok v ∧
            fac'.costEffectiveness poc = .ofOption v)
        data.structTmntList facs

/-- No facility with a present value has a result row with a null among the loads it removes. -/
def NoNullCompared (data : ScenarioData J K Digest Time) : Prop :=
  ∀ fac ∈ data.structTmntList, fac.presentValueTotalCost.get ≠ none →
    ∀ row ∈ data.tmntResults, row.nodeId = fac.nodeId.get →
      ∀ poc, row.loadLbsRemoved poc ≠ .null

omit [Field K] [LinearOrder K] in
/-- Where each node has at most one row, the first row of a node is its row. -/
theorem facResult_eq_some_iff {rows : List (ResultRow J K)}
    (huniq : (rows.map (·.nodeId)).Nodup) {nodeId : Option String} {row : ResultRow J K} :
    facResult rows nodeId = some row ↔ row ∈ rows ∧ row.nodeId = nodeId := by
  constructor
  · intro h
    exact ⟨List.mem_of_find?_eq_some h, by simpa using List.find?_some h⟩
  · rintro ⟨hrow, rfl⟩
    obtain ⟨found, hfound⟩ : ∃ found, facResult rows row.nodeId = some found :=
      Option.isSome_iff_exists.1 (List.find?_isSome.2 ⟨row, hrow, by simp⟩)
    rw [hfound, List.inj_on_of_nodup_map huniq (List.mem_of_find?_eq_some hfound) hrow
      (by simpa using List.find?_some hfound)]

omit [Field K] [LinearOrder K] in
theorem facResult_eq_none_iff {rows : List (ResultRow J K)} {nodeId : Option String} :
    facResult rows nodeId = none ↔ ∀ row ∈ rows, row.nodeId ≠ nodeId := by
  simp [facResult]

/-- Where no null is compared, the figure of a facility is the one of the view. -/
theorem costEffectivenessOf_eq [IsStrictOrderedRing K] {rows : List (ResultRow J K)}
    (huniq : (rows.map (·.nodeId)).Nodup) {fac : Facility J K} (h : CostComparable rows fac)
    {poc : Poc} {x : Option K} (hx : LoadRemoved rows fac.nodeId.get poc x) :
    ∃ v, tmntVCostPerLoad fac.presentValueTotalCost.get x = .ok v ∧
      costEffectivenessOf rows fac poc = .ofOption v := by
  obtain ⟨hset, hcomp⟩ := h
  refine ⟨_, tmntVCostPerLoad_eq _ _, ?_⟩
  rw [costEffectivenessOf, if_pos hset]
  cases hpv : fac.presentValueTotalCost.get with
  | none => rfl
  | some pvtc =>
    rcases hx with ⟨row, hrow, hnode, rfl⟩ | ⟨hnone, rfl⟩
    · have hfound := (facResult_eq_some_iff huniq).2 ⟨hrow, hnode⟩
      have hmem : poc ∈ comparedPocs row := by
        have hall : comparedPocs row = Poc.all :=
          List.takeWhile_eq_self_iff.2 fun poc _ => by
            simp [ModelField.isNull_eq_false.2 (hcomp pvtc hpv row hfound poc)]
        rw [hall]
        cases poc <;> decide
      simp only [hfound, if_pos hmem]
      cases hload : row.loadLbsRemoved poc with
      | unset => rfl
      | null => exact absurd hload (hcomp pvtc hpv row hfound poc)
      | val a =>
        by_cases ha : 0 < a <;> simp [costPerLoad, ModelField.get, ModelField.ofOption, ha]
    · simp only [facResult_eq_none_iff.2 hnone]
      rfl

/-- **Where the two figures agree.**  For facilities with a node and results with at most one row of
a node, both of which there are, the scenario code returns and stores what the view computes exactly
when no facility with a present value has a null among the loads that its result row says it
removes. -/
theorem agreesWithView_iff [IsStrictOrderedRing K] {data : ScenarioData J K Digest Time}
    (hst : data.structTmntList ≠ []) (hres : data.tmntResults ≠ [])
    (hnode : ∀ fac ∈ data.structTmntList, fac.nodeId.isSet = true)
    (huniq : (data.tmntResults.map (·.nodeId)).Nodup) :
    AgreesWithView data ↔ NoNullCompared data := by
  have hcomparable : maybeIncludeCostEffectiveness.Passes data ↔ NoNullCompared data := by
    rw [maybeIncludeCostEffectiveness_passes]
    constructor
    · intro h fac hfac hpv row hrow hnodeId
      obtain ⟨pvtc, hpvtc⟩ := Option.ne_none_iff_exists'.1 hpv
      exact (h hres fac hfac).2 pvtc hpvtc row ((facResult_eq_some_iff huniq).2 ⟨hrow, hnodeId⟩)
    · intro h _ fac hfac
      refine ⟨hnode fac hfac, fun pvtc hpvtc row hrow => ?_⟩
      obtain ⟨hrow, hnodeId⟩ := (facResult_eq_some_iff huniq).1 hrow
      exact h fac hfac (by simp [hpvtc]) row hrow hnodeId
  refine ⟨fun h => hcomparable.1 h.1, fun h => ⟨hcomparable.2 h, ?_⟩⟩
  have hall := maybeIncludeCostEffectiveness_passes.1 (hcomparable.2 h) hres
  rw [maybeIncludeCostEffectiveness_of_ne_nil hst hres, Mutation.mutateEach_of_passes
    fun fac hfac => includeCostEffectiveness_passes.2 (hall fac hfac)]
  refine ⟨_, rfl, List.forall₂_map_right_iff.2 (List.forall₂_same.2 fun fac hfac poc x hx => ?_)⟩
  rw [includeCostEffectiveness_eq]
  exact costEffectivenessOf_eq huniq (hall fac hfac) hx

/-! ### Examples -/

/-- A dictionary with one facility that costs 100, and the result row of its node. -/
def facilityWithResult (load : Poc → ModelField ℚ) : ScenarioData Unit ℚ Unit Unit :=
  { ScenarioData.empty with
    structuralTmnt := .val [⟨.val "SWFA-100002", .val 100, fun _ => .unset, ()⟩]
    structuralTmntResult := .val
      [⟨some "SWFA-100002", some "tmnt_facility", some "1980s", load, [], ()⟩] }

/-- Loads of every sign, and those that are missing. -/
def exampleLoads : Poc → ModelField ℚ
  | .tss => .val 4
  | .tn => .val 0
  | .tp => .val (-1)
  | _ => .unset

theorem agreesWithView_example : AgreesWithView (facilityWithResult exampleLoads) :=
  (agreesWithView_iff (by decide) (by decide) (by decide) (by decide)).2 <| by
    intro fac _ _ row hrow _ poc
    obtain rfl : row = _ := by simpa [facilityWithResult, ScenarioData.tmntResults,
      ResultRow.isTmntResult] using hrow
    cases poc <;> decide

/-- **A load that is null.**  The solver reports no removed TSS, the comparison with 0 raises, and
the figures of the other pollutants are missing too; the view gives null for TSS and 25 for TN. -/
theorem not_agreesWithView_of_null :
    let data := facilityWithResult fun poc => if poc = .tss then .null else .val 4
    (maybeIncludeCostEffectiveness data).2 = .error .typeError ∧
      tmntVCostPerLoad (some 100) (none : Option ℚ) = .ok none ∧
      tmntVCostPerLoad (some 100) (some (4 : ℚ)) = .ok (some 25) ∧
      ¬ AgreesWithView data := by
  have hraise : (maybeIncludeCostEffectiveness
      (facilityWithResult fun poc => if poc = .tss then .null else .val 4)).2 =
        .error .typeError := by decide +kernel
  refine ⟨hraise, by decide +kernel, by decide +kernel, fun h => ?_⟩
  exact absurd (hraise.symm.trans h.1) nofun

end StormPiper
