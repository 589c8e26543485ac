import Mathlib.Algebra.Order.Field.Basic
import StormPiper.Run.Mutation
import StormPiper.Scenario.Validator

/-!
# Solving a scenario

`solve_scenario_data` fills the results of a scenario into the dictionary it is given, in place:
first the loads of the delineations, then the water quality results of the facilities, then the
cost-effectiveness fields of the facilities.  It is a `Mutation`, so that what it wrote before an
exception stays written.

## Main definitions

* `maybeIncludeCostEffectiveness`, `solveScenarioData`, `solveScenarioDb` : the functions of the
  source.
* `solveScenarioData_keeps_input` : the fields that a solve never touches.
* `solveScenarioData_ok` : what a successful solve has written.
-/

namespace StormPiper

variable {J K Digest Time : Type}

section Cost

variable [Field K] [LinearOrder K]

/-- The filter of `maybe_include_cost_effectiveness`. -/
def ResultRow.isTmntResult (row : ResultRow J K) : Bool :=
  row.ntype == some "tmnt_facility" && row.epoch == some "1980s"

/-- The cost effectiveness of one pollutant: a load that is null cannot be compared with 0. -/
def setCostEffectiveness (pvtc : K) (row : ResultRow J K) (poc : Poc) :
    Mutation (Facility J K) PyError := fun fac =>
  match row.loadLbsRemoved poc with
  | .null => (fac, .error .typeError)
  | .unset => (fac, .ok ())
  | .val loadReduced =>
    if 0 < loadReduced then
      ({ fac with
        costEffectiveness :=
          Function.update fac.costEffectiveness poc (.val (pvtc / loadReduced)) }, .ok ())
    else (fac, .ok ())

/-- `fac[f"{poc}_total_cost_dollars_per_load_lbs_removed"] = None` for every pollutant. -/
def clearCostEffectiveness : Mutation (Facility J K) PyError :=
  .assign (fun _ => .ok ()) fun fac _ => { fac with costEffectiveness := fun _ => .null }

/-- `fac_result_dct`: the first result of a node. -/
def facResult (tmntResults : List (ResultRow J K)) (nodeId : Option String) :
    Option (ResultRow J K) :=
  tmntResults.find? fun row => row.nodeId = nodeId

/-- The body of the loop over the facilities, after the fields are cleared. -/
def fillCostEffectiveness (tmntResults : List (ResultRow J K)) :
    Mutation (Facility J K) PyError := fun fac =>
  if fac.nodeId.isSet then
    match fac.presentValueTotalCost.get with
    | none => (fac, .ok ())
    | some pvtc =>
      match facResult tmntResults fac.nodeId.get with
      | none => (fac, .ok ())
      | some row => Mutation.forEach (setCostEffectiveness pvtc row) Poc.all fac
  else (fac, .error .keyError)

/-- The body of the loop over the facilities. -/
def includeCostEffectiveness (tmntResults : List (ResultRow J K)) :
    Mutation (Facility J K) PyError :=
  clearCostEffectiveness.andThen (fillCostEffectiveness tmntResults)

/-- `struct_tmnt_list`. -/
def ScenarioData.structTmntList (data : ScenarioData J K Digest Time) : List (Facility J K) :=
  data.structuralTmnt.get.getD []

/-- `tmnt_results`. -/
def ScenarioData.tmntResults (data : ScenarioData J K Digest Time) : List (ResultRow J K) :=
  (data.structuralTmntResult.get.getD []).filter ResultRow.isTmntResult

/-- `maybe_include_cost_effectiveness`. -/
def maybeIncludeCostEffectiveness : Mutation (ScenarioData J K Digest Time) PyError := fun data =>
  if data.structTmntList.isEmpty || data.tmntResults.isEmpty then (data, .ok ())
  else
    let r := Mutation.mutateEach (includeCostEffectiveness data.tmntResults) data.structTmntList
    ({ data with structuralTmnt := .val r.1 }, r.2)

end Cost

/-! ### Water quality -/

/-- A facility of the embedded watershed: the fields that are null are left out. -/
def Facility.dropna (lib : ScenarioLibrary J K Digest) (epoch : Option String)
    (fac : Facility J K) : Facility J K where
  nodeId := fac.nodeId.dropna
  presentValueTotalCost := fac.presentValueTotalCost.dropna
  costEffectiveness poc := (fac.costEffectiveness poc).dropna
  props := lib.watershedProps epoch fac.props

/-- `solve_wq_epochs(..., embed_watershed=True)`: every row of the result embeds the facilities
that the solver was called with. -/
def solveWqEpochs (lib : ScenarioLibrary J K Digest) (lguBoundary lguLoad : Option J) (edgeList : J)
    (tmntFacilities : Option (List (Facility J K))) : Except PyError (List (ResultRow J K)) :=
  let facilities := tmntFacilities.getD []
  (lib.solveWatershed lguBoundary lguLoad edgeList facilities).map fun rows =>
    rows.map fun row =>
      { row with treatmentFacilities := facilities.map (Facility.dropna lib row.epoch) }

/-! ### The solve -/

/-- `data["key"]`. -/
def ModelField.getItem {α : Type} : ModelField α → Except PyError (Option α)
  | .unset => .error .keyError
  | .null => .ok none
  | .val a => .ok (some a)

/-- `input_.get("delineation_collection", {})`, where a missing collection is `none`. -/
def ScenarioData.delineationCollection (data : ScenarioData J K Digest Time) : Option J :=
  data.input.get.bind fun inp => inp.delineationCollection.get

/-- `input_.get("tmnt_facility_collection", {})`, where a missing collection is `none`. -/
def ScenarioData.tmntFacilityCollection (data : ScenarioData J K Digest Time) :
    Option (List (FacilityFeature J K)) :=
  data.input.get.bind fun inp => inp.tmntFacilityCollection.get

/-- `recalculate_loading` -/
def recalculateLoading (data : ScenarioData J K Digest Time) (force : Bool) : Bool :=
  data.delineationCollection.isSome && (force || data.lguLoad.get.isNone)

/-- `recalculate_wq` -/
def recalculateWq (data : ScenarioData J K Digest Time) (force : Bool) : Bool :=
  data.delineationCollection.isSome && data.tmntFacilityCollection.isSome &&
    (force || recalculateLoading data force || data.structuralTmntResult.get.isNone)

/-- A computation on a collection that is there. -/
def onCollection {α β : Type} (x : Option α) (f : α → Except PyError β) : Except PyError β :=
  match x with
  | none => .error .typeError
  | some a => f a

/-- The boundaries and the loads of the delineations. -/
def loadingDf (lib : ScenarioLibrary J K Digest) (data : ScenarioData J K Digest Time) :
    Except PyError (J × J) :=
  onCollection data.delineationCollection lib.computeScenarioLoadingDf

/-- The loads by delineation. -/
def delinLoadOf (lib : ScenarioLibrary J K Digest) (data : ScenarioData J K Digest Time) :
    Except PyError J :=
  onCollection data.delineationCollection lib.delinLoad

/-- The edges between the boundaries and the facilities. -/
def graphEdgeOf (lib : ScenarioLibrary J K Digest) (data : ScenarioData J K Digest Time) :
    Except PyError J := do
  let lguBoundary ← data.lguBoundary.getItem
  onCollection data.tmntFacilityCollection (lib.buildScenarioEdgeList lguBoundary)

/-- The water quality results, with the edges that are already there. -/
def wqResultOf (lib : ScenarioLibrary J K Digest) (data : ScenarioData J K Digest Time) :
    Except PyError (List (ResultRow J K)) := do
  let lguBoundary ← data.lguBoundary.getItem
  let lguLoad ← data.lguLoad.getItem
  let structuralTmnt ← data.structuralTmnt.getItem
  onCollection data.graphEdge.get fun edgeList =>
    solveWqEpochs lib lguBoundary lguLoad edgeList structuralTmnt

/-- `data["lgu_boundary"] = ...` and `data["lgu_load"] = ...`. -/
def computeLguLoad (lib : ScenarioLibrary J K Digest) :
    Mutation (ScenarioData J K Digest Time) PyError :=
  Mutation.assign (loadingDf lib) fun data x =>
    { data with lguBoundary := .val x.1, lguLoad := .val x.2 }

/-- `data["delin_load"] = ...`. -/
def computeDelinLoad (lib : ScenarioLibrary J K Digest) :
    Mutation (ScenarioData J K Digest Time) PyError :=
  Mutation.assign (delinLoadOf lib) fun data x => { data with delinLoad := .val x }

/-- The loading branch of `solve_scenario_data`. -/
def computeScenarioLoading (lib : ScenarioLibrary J K Digest) :
    Mutation (ScenarioData J K Digest Time) PyError :=
  (computeLguLoad lib).andThen (computeDelinLoad lib)

/-- `data["graph_edge"] = ...`. -/
def computeGraphEdge (lib : ScenarioLibrary J K Digest) :
    Mutation (ScenarioData J K Digest Time) PyError :=
  Mutation.assign (graphEdgeOf lib) fun data x => { data with graphEdge := .val x }

/-- `data["structural_tmnt_result"] = ...`. -/
def computeWqResult (lib : ScenarioLibrary J K Digest) :
    Mutation (ScenarioData J K Digest Time) PyError :=
  Mutation.assign (wqResultOf lib) fun data x => { data with structuralTmntResult := .val x }

/-- The water quality branch of `solve_scenario_data`. -/
def computeScenarioWq (lib : ScenarioLibrary J K Digest) :
    Mutation (ScenarioData J K Digest Time) PyError :=
  (computeGraphEdge lib).andThen (computeWqResult lib)

/-- `data["result_time_updated"] = datetime_now()`. -/
def setResultTime (now : Time) : Mutation (ScenarioData J K Digest Time) PyError :=
  Mutation.assign (fun _ => .ok now) fun data t => { data with resultTimeUpdated := .val t }

variable [Field K] [LinearOrder K]

/-- `solve_scenario_data`.  What is recalculated is decided before anything is written. -/
def solveScenarioData (lib : ScenarioLibrary J K Digest) (force : Bool) (now : Time) :
    Mutation (ScenarioData J K Digest Time) PyError := fun data =>
  let loading := recalculateLoading data force
  let wq := recalculateWq data force
  ((Mutation.when loading (computeScenarioLoading lib)).andThen <|
    (Mutation.when wq (computeScenarioWq lib)).andThen <|
    maybeIncludeCostEffectiveness.andThen <|
    Mutation.when (loading || wq) (setResultTime now)) data

/-- `solve_scenario_db`: every field that is set is written. -/
def solveScenarioDb (db : ScenarioDb J K Digest Time) (data : ScenarioData J K Digest Time) :
    Except PyError (ScenarioDb J K Digest Time) := do
  match data.id with
  | .val id =>
    match db.lookup id with
    -- `orm_to_dict` of no row
    | none => .error .typeError
    | some row => .ok (db.insert id (data.apply row))
  | _ => .error .validationError

/-! ### The cost-effectiveness fields -/

section Facilities

omit [LinearOrder K] [Field K]

theorem onCollection_eq_ok {α β : Type} {x : Option α} {f : α → Except PyError β} {b : β}
    (h : onCollection x f = .ok b) : ∃ a, x = some a ∧ f a = .ok b := by
  cases x with
  | none => cases h
  | some a => exact ⟨a, rfl, h⟩

theorem ModelField.getItem_eq_ok {α : Type} {f : ModelField α} {x : Option α}
    (h : f.getItem = .ok x) : f.get = x := by
  cases f <;> cases h <;> rfl

end Facilities

theorem fillCostEffectiveness_keeps (rows : List (ResultRow J K)) :
    Mutation.Keeps Facility.stripCost (fillCostEffectiveness rows) := by
  have hset : ∀ pvtc row poc,
      Mutation.Keeps Facility.stripCost
        (setCostEffectiveness pvtc row poc : Mutation (Facility J K) PyError) := by
    intro pvtc row poc fac
    unfold setCostEffectiveness
    split
    · rfl
    · rfl
    · split <;> rfl
  intro fac
  unfold fillCostEffectiveness
  split
  · split
    · rfl
    · split
      · rfl
      · exact Mutation.keeps_forEach (hset _ _) _ fac
  · rfl

omit [Field K] [LinearOrder K] in
theorem clearCostEffectiveness_keeps :
    Mutation.Keeps Facility.stripCost
      (clearCostEffectiveness : Mutation (Facility J K) PyError) := by
  refine Mutation.keeps_assign ?_
  intro fac _
  rfl

theorem includeCostEffectiveness_keeps (rows : List (ResultRow J K)) :
    Mutation.Keeps (List.map Facility.stripCost)
      (Mutation.mutateEach (includeCostEffectiveness rows)) :=
  Mutation.keeps_mutateEach <|
    clearCostEffectiveness_keeps.andThen (fillCostEffectiveness_keeps rows)

/-- What `maybe_include_cost_effectiveness` writes, also when it raises: nothing, or the
facilities with other cost-effectiveness fields, and that only when there are results. -/
theorem maybeIncludeCostEffectiveness_cases (data : ScenarioData J K Digest Time) :
    (maybeIncludeCostEffectiveness data).1 = data ∨
      ∃ st st' res, data.structuralTmnt.get = some st ∧
        data.structuralTmntResult.get = some res ∧
        st'.map Facility.stripCost = st.map Facility.stripCost ∧
        (maybeIncludeCostEffectiveness data).1 = { data with structuralTmnt := .val st' } := by
  unfold maybeIncludeCostEffectiveness
  by_cases hempty : (data.structTmntList.isEmpty || data.tmntResults.isEmpty) = true
  · left
    simp only [hempty, if_true]
  · right
    simp only [hempty]
    unfold ScenarioData.structTmntList ScenarioData.tmntResults at hempty ⊢
    cases hst : data.structuralTmnt.get with
    | none => simp [hst] at hempty
    | some st =>
      cases hres : data.structuralTmntResult.get with
      | none => simp [hres] at hempty
      | some res => exact ⟨st, _, res, rfl, rfl, includeCostEffectiveness_keeps _ st, rfl⟩

/-! ### What a solve writes -/

/-- The fields that the user submits, and their hashes. -/
def ScenarioData.submitted (data : ScenarioData J K Digest Time) :
    ModelField String × ModelField String × ModelField J × ModelField (ScenarioInput J K) ×
      ModelField Time × ModelField Digest × ModelField Digest :=
  (data.id, data.name, data.info, data.input, data.inputTimeUpdated, data.loadingHash,
    data.inputHash)

/-- A solve touches none of the submitted fields, also when it raises. -/
theorem solveScenarioData_keeps_submitted (lib : ScenarioLibrary J K Digest) (force : Bool)
    (now : Time) :
    Mutation.Keeps ScenarioData.submitted (solveScenarioData lib force now) := by
  have hloading : Mutation.Keeps ScenarioData.submitted
      (computeScenarioLoading lib : Mutation (ScenarioData J K Digest Time) PyError) := by
    refine (Mutation.keeps_assign ?_).andThen (Mutation.keeps_assign ?_) <;> exact fun _ _ => rfl
  have hwq : Mutation.Keeps ScenarioData.submitted
      (computeScenarioWq lib : Mutation (ScenarioData J K Digest Time) PyError) := by
    refine (Mutation.keeps_assign ?_).andThen (Mutation.keeps_assign ?_) <;> exact fun _ _ => rfl
  have htime : Mutation.Keeps ScenarioData.submitted
      (setResultTime now : Mutation (ScenarioData J K Digest Time) PyError) := by
    refine Mutation.keeps_assign ?_
    exact fun _ _ => rfl
  have hcost : Mutation.Keeps ScenarioData.submitted
      (maybeIncludeCostEffectiveness : Mutation (ScenarioData J K Digest Time) PyError) := by
    intro data
    rcases maybeIncludeCostEffectiveness_cases data with h | ⟨_, _, _, -, -, -, h⟩ <;> rw [h]
    rfl
  intro data
  exact (hloading.when.andThen <| hwq.when.andThen <| hcost.andThen htime.when) data

/-- What a successful solve has made of a dictionary. -/
structure Solved (lib : ScenarioLibrary J K Digest) (force : Bool)
    (data data' : ScenarioData J K Digest Time) : Prop where
  submitted : data'.submitted = data.submitted
  loading : recalculateLoading data force = true → ∃ d b l,
    data.delineationCollection = some d ∧ lib.lguBoundary d = .ok b ∧ lib.lguLoad d = .ok l ∧
      data'.lguBoundary = .val b ∧ data'.lguLoad = .val l
  noLoading : recalculateLoading data force = false →
    data'.lguBoundary = data.lguBoundary ∧ data'.lguLoad = data.lguLoad
  wq : recalculateWq data force = true → ∃ fs edges res,
    data.tmntFacilityCollection = some fs ∧
      lib.buildScenarioEdgeList data'.lguBoundary.get fs = .ok edges ∧
      solveWqEpochs lib data'.lguBoundary.get data'.lguLoad.get edges
        data.structuralTmnt.get = .ok res ∧
      data'.structuralTmntResult = .val res
  noWq : recalculateWq data force = false →
    data'.structuralTmntResult = data.structuralTmntResult
  facilities : data'.structuralTmnt.get.map (List.map Facility.stripCost) =
    data.structuralTmnt.get.map (List.map Facility.stripCost)
  noFacilities : data'.structuralTmntResult.get = none →
    data'.structuralTmnt = data.structuralTmnt

omit [Field K] [LinearOrder K] in
theorem computeScenarioLoading_ok {lib : ScenarioLibrary J K Digest}
    {data data' : ScenarioData J K Digest Time}
    (h : computeScenarioLoading lib data = (data', .ok ())) :
    ∃ d b l dl, data.delineationCollection = some d ∧ lib.lguBoundary d = .ok b ∧
      lib.lguLoad d = .ok l ∧
      data' = { data with lguBoundary := .val b, lguLoad := .val l, delinLoad := .val dl } := by
  obtain ⟨r, hr, h⟩ := Mutation.andThen_eq_ok.1 h
  obtain ⟨⟨b, l⟩, hbl, rfl⟩ := Mutation.assign_eq_ok.1 hr
  obtain ⟨dl, -, rfl⟩ := Mutation.assign_eq_ok.1 h
  obtain ⟨d, hd, hbl⟩ := onCollection_eq_ok hbl
  refine ⟨d, b, l, dl, hd, ?_, ?_, rfl⟩
  · rw [ScenarioLibrary.lguBoundary, hbl]
    rfl
  · rw [ScenarioLibrary.lguLoad, hbl]
    rfl

omit [Field K] [LinearOrder K] in
theorem computeScenarioWq_ok {lib : ScenarioLibrary J K Digest}
    {data data' : ScenarioData J K Digest Time}
    (h : computeScenarioWq lib data = (data', .ok ())) :
    ∃ fs edges res, data.tmntFacilityCollection = some fs ∧
      lib.buildScenarioEdgeList data.lguBoundary.get fs = .ok edges ∧
      solveWqEpochs lib data.lguBoundary.get data.lguLoad.get edges data.structuralTmnt.get =
        .ok res ∧
      data' = { data with graphEdge := .val edges, structuralTmntResult := .val res } := by
  obtain ⟨r, hr, h⟩ := Mutation.andThen_eq_ok.1 h
  obtain ⟨edges, hedges, rfl⟩ := Mutation.assign_eq_ok.1 hr
  obtain ⟨res, hres, rfl⟩ := Mutation.assign_eq_ok.1 h
  obtain ⟨b, hb, hedges⟩ := bind_eq_ok hedges
  obtain ⟨fs, hfs, hedges⟩ := onCollection_eq_ok hedges
  obtain ⟨b', hb', hres⟩ := bind_eq_ok hres
  obtain ⟨l, hl, hres⟩ := bind_eq_ok hres
  obtain ⟨st, hst, hres⟩ := bind_eq_ok hres
  obtain ⟨e, he, hres⟩ := onCollection_eq_ok hres
  cases he
  rw [← ModelField.getItem_eq_ok hb] at hedges
  rw [← ModelField.getItem_eq_ok hb', ← ModelField.getItem_eq_ok hl,
    ← ModelField.getItem_eq_ok hst] at hres
  exact ⟨fs, edges, res, hfs, hedges, hres, rfl⟩

/-- **A successful solve** has written the loads if they were to be recalculated, the water quality
results if they were, and nothing else but cost-effectiveness fields. -/
theorem solveScenarioData_ok {lib : ScenarioLibrary J K Digest} {force : Bool} {now : Time}
    {data data' : ScenarioData J K Digest Time}
    (h : solveScenarioData lib force now data = (data', .ok ())) :
    Solved lib force data data' := by
  have hsub := solveScenarioData_keeps_submitted lib force now data
  rw [h] at hsub
  obtain ⟨r₁, h₁, h⟩ := Mutation.andThen_eq_ok.1 h
  obtain ⟨r₂, h₂, h⟩ := Mutation.andThen_eq_ok.1 h
  obtain ⟨r₃, h₃, h₄⟩ := Mutation.andThen_eq_ok.1 h
  rw [Mutation.when_eq_ok] at h₁ h₂ h₄
  obtain ⟨t, rfl⟩ : ∃ t, data' = { r₃ with resultTimeUpdated := t } := by
    split at h₄
    · obtain ⟨t, -, rfl⟩ := Mutation.assign_eq_ok.1 h₄
      exact ⟨_, rfl⟩
    · exact ⟨_, h₄⟩
  have hcost := maybeIncludeCostEffectiveness_cases r₂
  rw [h₃] at hcost
  obtain ⟨st, hst, hnone, rfl⟩ : ∃ st, st.get.map (List.map Facility.stripCost) =
      r₂.structuralTmnt.get.map (List.map Facility.stripCost) ∧
      (r₂.structuralTmntResult.get = none → st = r₂.structuralTmnt) ∧
      r₃ = { r₂ with structuralTmnt := st } := by
    rcases hcost with rfl | ⟨st, st', res, hst, hres, hstrip, rfl⟩
    · exact ⟨_, rfl, fun _ => rfl, rfl⟩
    · refine ⟨.val st', ?_, fun hnone => absurd (hres.symm.trans hnone) (by simp), rfl⟩
      rw [hst, ModelField.get_val, Option.map_some, Option.map_some, hstrip]
  obtain ⟨g, res, hwq, hnoWq, rfl⟩ : ∃ g res,
      (recalculateWq data force = true → ∃ fs edges rows,
        r₁.tmntFacilityCollection = some fs ∧
          lib.buildScenarioEdgeList r₁.lguBoundary.get fs = .ok edges ∧
          solveWqEpochs lib r₁.lguBoundary.get r₁.lguLoad.get edges
            r₁.structuralTmnt.get = .ok rows ∧ res = .val rows) ∧
      (recalculateWq data force = false → res = r₁.structuralTmntResult) ∧
      r₂ = { r₁ with graphEdge := g, structuralTmntResult := res } := by
    cases hwq : recalculateWq data force with
    | true =>
      rw [hwq, if_pos rfl] at h₂
      obtain ⟨fs, edges, rows, hfs, hedges, hrows, rfl⟩ := computeScenarioWq_ok h₂
      exact ⟨_, _, fun _ => ⟨fs, edges, rows, hfs, hedges, hrows, rfl⟩, nofun, rfl⟩
    | false =>
      rw [hwq, if_neg Bool.false_ne_true] at h₂
      exact ⟨_, _, nofun, fun _ => rfl, h₂⟩
  obtain ⟨b, l, dl, hload, hnoLoad, rfl⟩ : ∃ b l dl,
      (recalculateLoading data force = true → ∃ d x y, data.delineationCollection = some d ∧
        lib.lguBoundary d = .ok x ∧ lib.lguLoad d = .ok y ∧ b = .val x ∧ l = .val y) ∧
      (recalculateLoading data force = false → b = data.lguBoundary ∧ l = data.lguLoad) ∧
      r₁ = { data with lguBoundary := b, lguLoad := l, delinLoad := dl } := by
    cases hload : recalculateLoading data force with
    | true =>
      rw [hload, if_pos rfl] at h₁
      obtain ⟨d, x, y, z, hd, hx, hy, rfl⟩ := computeScenarioLoading_ok h₁
      exact ⟨_, _, _, fun _ => ⟨d, x, y, hd, hx, hy, rfl, rfl⟩, nofun, rfl⟩
    | false =>
      rw [hload, if_neg Bool.false_ne_true] at h₁
      exact ⟨_, _, _, nofun, fun _ => ⟨rfl, rfl⟩, h₁⟩
  exact
    { submitted := hsub
      loading := hload
      noLoading := hnoLoad
      wq := hwq
      noWq := hnoWq
      facilities := hst
      noFacilities := hnone }

end StormPiper
