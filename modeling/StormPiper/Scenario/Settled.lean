import Mathlib.Data.List.TakeWhile
import StormPiper.Scenario.Solve

/-!
# Solves that change nothing

`solve_scenario_data` writes into the dictionary it is given.  This file says for which dictionaries
it leaves them as they are, also when it raises part-way: every field that it comes to assign holds
the assigned value already.

## Main definitions

* `costEffectivenessOf` : the cost-effectiveness fields that a facility gets.
* `Settled` : what is to be assigned is there already, one field for each assignment of the source.
* `solveScenarioData_fixes_iff` : a solve leaves a dictionary as it is exactly if it is settled.
* `Untouched` : nothing is recalculated and nothing is assigned, which is seen from the dictionary.
* `settled_iff_untouched` : a solve that does not raise leaves the untouched dictionaries as they
  are and no others.
-/

namespace StormPiper

variable {J K Digest Time : Type}

/-! ### The facilities -/

section Cost

variable [Field K] [LinearOrder K]

/-- The cost effectiveness of one pollutant, null where nothing is removed. -/
def costPerLoad (pvtc : K) : ModelField K → ModelField K
  | .val loadReduced => if 0 < loadReduced then .val (pvtc / loadReduced) else .null
  | _ => .null

/-- The field is null. -/
def ModelField.isNull {α : Type} : ModelField α → Bool
  | .null => true
  | _ => false

/-- The pollutants that the loop over `POCS` comes to before it compares a null with 0. -/
def comparedPocs (row : ResultRow J K) : List Poc :=
  Poc.all.takeWhile fun poc => !(row.loadLbsRemoved poc).isNull

/-- The cost-effectiveness fields that a facility gets. -/
def costEffectivenessOf (tmntResults : List (ResultRow J K)) (fac : Facility J K) (poc : Poc) :
    ModelField K :=
  if fac.nodeId.isSet then
    match fac.presentValueTotalCost.get with
    | none => .null
    | some pvtc =>
      match facResult tmntResults fac.nodeId.get with
      | none => .null
      | some row =>
        if poc ∈ comparedPocs row then costPerLoad pvtc (row.loadLbsRemoved poc) else .null
  else .null

/-- The facility has a node, and no load of its result is null. -/
def CostComparable (tmntResults : List (ResultRow J K)) (fac : Facility J K) : Prop :=
  fac.nodeId.isSet = true ∧ ∀ pvtc, fac.presentValueTotalCost.get = some pvtc →
    ∀ row, facResult tmntResults fac.nodeId.get = some row → ∀ poc, row.loadLbsRemoved poc ≠ .null

/-- The loop over the facilities comes only to facilities that have their cost-effectiveness fields
already. -/
def CostSettled (tmntResults : List (ResultRow J K)) : List (Facility J K) → Prop
  | [] => True
  | fac :: facs =>
    fac.costEffectiveness = costEffectivenessOf tmntResults fac ∧
      (CostComparable tmntResults fac → CostSettled tmntResults facs)

theorem ModelField.isNull_eq_false {α : Type} {f : ModelField α} :
    f.isNull = false ↔ f ≠ .null := by
  cases f <;> simp [ModelField.isNull]

/-- The assignment of one pollutant, where it does not raise. -/
theorem setCostEffectiveness_of_ne_null {pvtc : K} {row : ResultRow J K} {poc : Poc}
    (h : row.loadLbsRemoved poc ≠ .null) (fac : Facility J K) :
    setCostEffectiveness pvtc row poc fac =
      ({ fac with
        costEffectiveness := Function.update fac.costEffectiveness poc
          (if costPerLoad pvtc (row.loadLbsRemoved poc) = .null then fac.costEffectiveness poc
            else costPerLoad pvtc (row.loadLbsRemoved poc)) }, .ok ()) := by
  cases hload : row.loadLbsRemoved poc with
  | null => exact absurd hload h
  | unset => simp [setCostEffectiveness, costPerLoad, hload]
  | val x =>
    by_cases hx : 0 < x
    · simp [setCostEffectiveness, costPerLoad, hload, hx]
    · simp [setCostEffectiveness, costPerLoad, hload, hx]

/-- The loop over the pollutants assigns those it comes to and that have a cost effectiveness. -/
theorem forEach_setCostEffectiveness (pvtc : K) (row : ResultRow J K) (pocs : List Poc)
    (hpocs : pocs.Nodup) (fac : Facility J K) :
    (Mutation.forEach (setCostEffectiveness pvtc row) pocs fac).1 =
      { fac with
        costEffectiveness := fun poc =>
          if poc ∈ pocs.takeWhile (fun poc => !(row.loadLbsRemoved poc).isNull) ∧
              costPerLoad pvtc (row.loadLbsRemoved poc) ≠ .null then
            costPerLoad pvtc (row.loadLbsRemoved poc)
          else fac.costEffectiveness poc } := by
  induction pocs generalizing fac with
  | nil => simp [Mutation.forEach, Mutation.skip]
  | cons p ps ih =>
    obtain ⟨hp, hps⟩ := List.nodup_cons.1 hpocs
    by_cases hnull : row.loadLbsRemoved p = .null
    · -- the comparison raises, and the loop ends
      simp [Mutation.forEach, Mutation.andThen, setCostEffectiveness, hnull, ModelField.isNull]
    · simp only [Mutation.forEach, Mutation.andThen, setCostEffectiveness_of_ne_null hnull, ih hps,
        List.takeWhile_cons, ModelField.isNull_eq_false.2 hnull, Bool.not_false, if_true,
        List.mem_cons]
      congr 1
      funext poc
      by_cases hpoc : poc = p
      · subst hpoc
        have hnot : poc ∉ ps.takeWhile fun poc => !(row.loadLbsRemoved poc).isNull :=
          fun h => hp ((List.takeWhile_sublist _).subset h)
        by_cases hc : costPerLoad pvtc (row.loadLbsRemoved poc) = .null <;> simp [hnot, hc]
      · simp [hpoc]

theorem forEach_setCostEffectiveness_passes {pvtc : K} {row : ResultRow J K} {pocs : List Poc}
    {fac : Facility J K} :
    (Mutation.forEach (setCostEffectiveness pvtc row) pocs).Passes fac ↔
      ∀ poc ∈ pocs, row.loadLbsRemoved poc ≠ .null := by
  unfold Mutation.Passes
  induction pocs generalizing fac with
  | nil => simp [Mutation.forEach, Mutation.skip]
  | cons p ps ih =>
    rw [List.forall_mem_cons]
    by_cases hnull : row.loadLbsRemoved p = .null
    · simp [Mutation.forEach, Mutation.andThen, setCostEffectiveness, hnull]
    · simp only [Mutation.forEach, Mutation.andThen, setCostEffectiveness_of_ne_null hnull, ih,
        ne_eq, hnull, not_false_eq_true, true_and]

theorem includeCostEffectiveness_eq (tmntResults : List (ResultRow J K)) (fac : Facility J K) :
    (includeCostEffectiveness tmntResults fac).1 =
      { fac with costEffectiveness := costEffectivenessOf tmntResults fac } := by
  show (fillCostEffectiveness tmntResults { fac with costEffectiveness := fun _ => .null }).1 = _
  unfold fillCostEffectiveness costEffectivenessOf
  cases fac.nodeId.isSet with
  | false => rfl
  | true =>
    cases fac.presentValueTotalCost.get with
    | none => rfl
    | some pvtc =>
      cases facResult tmntResults fac.nodeId.get with
      | none => rfl
      | some row =>
        simp only [if_true]
        rw [forEach_setCostEffectiveness pvtc row Poc.all (by decide)]
        congr 1
        funext poc
        show (if poc ∈ comparedPocs row ∧ _ then _ else ModelField.null) =
          if poc ∈ comparedPocs row then _ else ModelField.null
        by_cases hmem : poc ∈ comparedPocs row
        · by_cases hc : costPerLoad pvtc (row.loadLbsRemoved poc) = .null <;> simp [hmem, hc]
        · simp [hmem]

theorem includeCostEffectiveness_passes {tmntResults : List (ResultRow J K)}
    {fac : Facility J K} :
    (includeCostEffectiveness tmntResults).Passes fac ↔ CostComparable tmntResults fac := by
  show (fillCostEffectiveness tmntResults { fac with costEffectiveness := fun _ => .null }).2 =
    .ok () ↔ _
  unfold fillCostEffectiveness CostComparable
  cases fac.nodeId.isSet with
  | false => simp
  | true =>
    cases fac.presentValueTotalCost.get with
    | none => simp
    | some pvtc =>
      cases facResult tmntResults fac.nodeId.get with
      | none => simp
      | some row =>
        simp only [if_true, true_and, Option.some.injEq, forall_eq']
        refine forEach_setCostEffectiveness_passes.trans
          ⟨fun h poc => h poc ?_, fun h poc _ => h poc⟩
        cases poc <;> decide

theorem includeCostEffectiveness_fixes {tmntResults : List (ResultRow J K)}
    {fac : Facility J K} :
    (includeCostEffectiveness tmntResults).Fixes fac ↔
      fac.costEffectiveness = costEffectivenessOf tmntResults fac := by
  rw [Mutation.Fixes, includeCostEffectiveness_eq]
  cases fac
  simp [eq_comm]

/-- The loop over the facilities. -/
theorem mutateEach_includeCostEffectiveness_fixes {tmntResults : List (ResultRow J K)}
    {facs : List (Facility J K)} :
    (Mutation.mutateEach (includeCostEffectiveness tmntResults)).Fixes facs ↔
      CostSettled tmntResults facs := by
  induction facs with
  | nil => exact ⟨fun _ => trivial, fun _ => rfl⟩
  | cons fac facs ih =>
    rw [Mutation.fixes_mutateEach_cons, includeCostEffectiveness_fixes,
      includeCostEffectiveness_passes, ih, CostSettled]

omit [Field K] [LinearOrder K] in
theorem structuralTmnt_of_structTmntList {data : ScenarioData J K Digest Time}
    (h : data.structTmntList ≠ []) : data.structuralTmnt = .val data.structTmntList := by
  unfold ScenarioData.structTmntList at h ⊢
  cases hst : data.structuralTmnt with
  | unset => exact absurd (by rw [hst]; rfl) h
  | null => exact absurd (by rw [hst]; rfl) h
  | val st => rfl

/-- What `maybe_include_cost_effectiveness` does where there are facilities and results. -/
theorem maybeIncludeCostEffectiveness_of_ne_nil {data : ScenarioData J K Digest Time}
    (hst : data.structTmntList ≠ []) (hres : data.tmntResults ≠ []) :
    maybeIncludeCostEffectiveness data =
      ({ data with
        structuralTmnt := .val
          (Mutation.mutateEach (includeCostEffectiveness data.tmntResults) data.structTmntList).1 },
        (Mutation.mutateEach (includeCostEffectiveness data.tmntResults)
          data.structTmntList).2) := by
  simp [maybeIncludeCostEffectiveness, hst, hres]

theorem maybeIncludeCostEffectiveness_of_nil {data : ScenarioData J K Digest Time}
    (h : data.structTmntList = [] ∨ data.tmntResults = []) :
    maybeIncludeCostEffectiveness data = (data, .ok ()) := by
  rcases h with h | h <;> simp [maybeIncludeCostEffectiveness, h]

theorem maybeIncludeCostEffectiveness_fixes {data : ScenarioData J K Digest Time} :
    maybeIncludeCostEffectiveness.Fixes data ↔
      (data.tmntResults ≠ [] → CostSettled data.tmntResults data.structTmntList) := by
  by_cases hst : data.structTmntList = []
  · refine iff_of_true (by rw [Mutation.Fixes, maybeIncludeCostEffectiveness_of_nil (.inl hst)]) ?_
    rw [hst]
    exact fun _ => trivial
  · by_cases hres : data.tmntResults = []
    · exact iff_of_true (by rw [Mutation.Fixes, maybeIncludeCostEffectiveness_of_nil (.inr hres)])
        (absurd hres)
    · rw [Mutation.Fixes, maybeIncludeCostEffectiveness_of_ne_nil hst hres,
        ← mutateEach_includeCostEffectiveness_fixes, Mutation.Fixes]
      refine ⟨fun h _ => ?_, fun h => ?_⟩
      · have hfield := congrArg ScenarioData.structuralTmnt h
        rw [structuralTmnt_of_structTmntList hst] at hfield
        exact ModelField.val.inj hfield
      · rw [h hres, ← structuralTmnt_of_structTmntList hst]

theorem maybeIncludeCostEffectiveness_passes {data : ScenarioData J K Digest Time} :
    maybeIncludeCostEffectiveness.Passes data ↔
      (data.tmntResults ≠ [] →
        ∀ fac ∈ data.structTmntList, CostComparable data.tmntResults fac) := by
  by_cases hst : data.structTmntList = []
  · refine iff_of_true (by rw [Mutation.Passes, maybeIncludeCostEffectiveness_of_nil (.inl hst)]) ?_
    rw [hst]
    exact fun _ => nofun
  · by_cases hres : data.tmntResults = []
    · exact iff_of_true (by rw [Mutation.Passes, maybeIncludeCostEffectiveness_of_nil (.inr hres)])
        (absurd hres)
    · rw [Mutation.Passes, maybeIncludeCostEffectiveness_of_ne_nil hst hres]
      show (Mutation.mutateEach _).Passes _ ↔ _
      simp only [Mutation.passes_mutateEach, includeCostEffectiveness_passes, ne_eq, hres,
        not_false_eq_true, forall_const]

end Cost

/-! ### The assignments -/

/-- The loading branch is not taken or does not raise. -/
def LoadingPasses (lib : ScenarioLibrary J K Digest) (force : Bool)
    (data : ScenarioData J K Digest Time) : Prop :=
  recalculateLoading data force = true →
    (∃ x, loadingDf lib data = .ok x) ∧ ∃ y, delinLoadOf lib data = .ok y

/-- The water quality branch is not taken or does not raise. -/
def WqPasses (lib : ScenarioLibrary J K Digest) (force : Bool)
    (data : ScenarioData J K Digest Time) : Prop :=
  recalculateWq data force = true →
    (∃ x, graphEdgeOf lib data = .ok x) ∧ ∃ y, wqResultOf lib data = .ok y

variable [Field K] [LinearOrder K]

/-- Every field that a solve comes to assign holds the assigned value already.  There is one field
here for each assignment of the source, in the order of the source; each is under the condition that
nothing before it raises. -/
structure Settled (lib : ScenarioLibrary J K Digest) (force : Bool) (now : Time)
    (data : ScenarioData J K Digest Time) : Prop where
  lguLoad : recalculateLoading data force = true → ∀ x, loadingDf lib data = .ok x →
    data.lguBoundary = .val x.1 ∧ data.lguLoad = .val x.2
  delinLoad : recalculateLoading data force = true → (∃ x, loadingDf lib data = .ok x) →
    ∀ y, delinLoadOf lib data = .ok y → data.delinLoad = .val y
  graphEdge : LoadingPasses lib force data → recalculateWq data force = true →
    ∀ x, graphEdgeOf lib data = .ok x → data.graphEdge = .val x
  structuralTmntResult : LoadingPasses lib force data → recalculateWq data force = true →
    (∃ x, graphEdgeOf lib data = .ok x) →
      ∀ y, wqResultOf lib data = .ok y → data.structuralTmntResult = .val y
  structuralTmnt : LoadingPasses lib force data → WqPasses lib force data →
    data.tmntResults ≠ [] → CostSettled data.tmntResults data.structTmntList
  resultTimeUpdated : LoadingPasses lib force data → WqPasses lib force data →
    (data.tmntResults ≠ [] → ∀ fac ∈ data.structTmntList, CostComparable data.tmntResults fac) →
      (recalculateLoading data force || recalculateWq data force) = true →
        data.resultTimeUpdated = .val now

section Assignments

omit [Field K] [LinearOrder K]

variable (lib : ScenarioLibrary J K Digest) {data : ScenarioData J K Digest Time}

/-- What the loading branch does not write. -/
def ScenarioData.withoutLoading (data : ScenarioData J K Digest Time) :
    ScenarioData J K Digest Time :=
  { data with lguBoundary := .unset, lguLoad := .unset, delinLoad := .unset }

/-- What the water quality branch does not write. -/
def ScenarioData.withoutWq (data : ScenarioData J K Digest Time) : ScenarioData J K Digest Time :=
  { data with graphEdge := .unset, structuralTmntResult := .unset }

/-- What `maybe_include_cost_effectiveness` does not write. -/
def ScenarioData.withoutTmnt (data : ScenarioData J K Digest Time) :
    ScenarioData J K Digest Time :=
  { data with structuralTmnt := .unset }

theorem computeScenarioLoading_keeps : Mutation.Keeps ScenarioData.withoutLoading
    (computeScenarioLoading lib : Mutation (ScenarioData J K Digest Time) PyError) := by
  refine (Mutation.keeps_assign ?_).andThen (Mutation.keeps_assign ?_) <;> exact fun _ _ => rfl

theorem computeScenarioWq_keeps : Mutation.Keeps ScenarioData.withoutWq
    (computeScenarioWq lib : Mutation (ScenarioData J K Digest Time) PyError) := by
  refine (Mutation.keeps_assign ?_).andThen (Mutation.keeps_assign ?_) <;> exact fun _ _ => rfl

theorem setResultTime_keeps (now : Time) : Mutation.Keeps
    (fun data : ScenarioData J K Digest Time => { data with resultTimeUpdated := .unset })
    (setResultTime now) :=
  Mutation.keeps_assign fun _ _ => rfl

variable {lib}

theorem computeLguLoad_fixes : (computeLguLoad lib).Fixes data ↔ ∀ x, loadingDf lib data = .ok x →
    data.lguBoundary = .val x.1 ∧ data.lguLoad = .val x.2 := by
  refine Mutation.fixes_assign.trans (forall₂_congr fun x _ => ?_)
  cases data
  simp [eq_comm]

theorem computeDelinLoad_fixes : (computeDelinLoad lib).Fixes data ↔
    ∀ y, delinLoadOf lib data = .ok y → data.delinLoad = .val y := by
  refine Mutation.fixes_assign.trans (forall₂_congr fun x _ => ?_)
  cases data
  simp [eq_comm]

theorem computeGraphEdge_fixes : (computeGraphEdge lib).Fixes data ↔
    ∀ x, graphEdgeOf lib data = .ok x → data.graphEdge = .val x := by
  refine Mutation.fixes_assign.trans (forall₂_congr fun x _ => ?_)
  cases data
  simp [eq_comm]

theorem computeWqResult_fixes : (computeWqResult lib).Fixes data ↔
    ∀ y, wqResultOf lib data = .ok y → data.structuralTmntResult = .val y := by
  refine Mutation.fixes_assign.trans (forall₂_congr fun x _ => ?_)
  cases data
  simp [eq_comm]

theorem setResultTime_fixes {now : Time} :
    (setResultTime now).Fixes data ↔ data.resultTimeUpdated = .val now := by
  refine Mutation.fixes_assign.trans ?_
  cases data
  simp [eq_comm]

theorem computeScenarioLoading_fixes :
    (computeScenarioLoading lib).Fixes data ↔ (computeLguLoad lib).Fixes data ∧
      ((computeLguLoad lib).Passes data → (computeDelinLoad lib).Fixes data) :=
  Mutation.andThen_fixes_iff
    (ρ := fun data => { data with lguBoundary := .unset, lguLoad := .unset })
    (π := fun data => (data.lguBoundary, data.lguLoad))
    (Mutation.keeps_assign fun _ _ => rfl) (Mutation.keeps_assign fun _ _ => rfl) (by grind)

theorem computeScenarioWq_fixes :
    (computeScenarioWq lib).Fixes data ↔ (computeGraphEdge lib).Fixes data ∧
      ((computeGraphEdge lib).Passes data → (computeWqResult lib).Fixes data) :=
  Mutation.andThen_fixes_iff
    (ρ := fun data => { data with graphEdge := .unset }) (π := fun data => data.graphEdge)
    (Mutation.keeps_assign fun _ _ => rfl) (Mutation.keeps_assign fun _ _ => rfl) (by grind)

end Assignments

theorem maybeIncludeCostEffectiveness_keeps : Mutation.Keeps ScenarioData.withoutTmnt
    (maybeIncludeCostEffectiveness : Mutation (ScenarioData J K Digest Time) PyError) := by
  intro data
  rcases maybeIncludeCostEffectiveness_cases data with h | ⟨_, _, _, -, -, -, h⟩ <;> rw [h]
  rfl

/-- The branches of a solve write apart, so that a solve leaves the dictionary as it is exactly if
each branch does that it comes to. -/
theorem solveScenarioData_fixes_branches {lib : ScenarioLibrary J K Digest} {force : Bool}
    {now : Time} {data : ScenarioData J K Digest Time} :
    (solveScenarioData lib force now).Fixes data ↔
      (Mutation.when (recalculateLoading data force) (computeScenarioLoading lib)).Fixes data ∧
      ((Mutation.when (recalculateLoading data force) (computeScenarioLoading lib)).Passes data →
        (Mutation.when (recalculateWq data force) (computeScenarioWq lib)).Fixes data ∧
        ((Mutation.when (recalculateWq data force) (computeScenarioWq lib)).Passes data →
          maybeIncludeCostEffectiveness.Fixes data ∧
          (maybeIncludeCostEffectiveness.Passes data →
            (Mutation.when (recalculateLoading data force || recalculateWq data force)
              (setResultTime now)).Fixes data))) := by
  have hloading : Mutation.Keeps ScenarioData.withoutLoading
      (Mutation.when (recalculateLoading data force) (computeScenarioLoading lib) :
        Mutation (ScenarioData J K Digest Time) PyError) := (computeScenarioLoading_keeps lib).when
  have hwq : Mutation.Keeps ScenarioData.withoutWq
      (Mutation.when (recalculateWq data force) (computeScenarioWq lib) :
        Mutation (ScenarioData J K Digest Time) PyError) := (computeScenarioWq_keeps lib).when
  have hcost : Mutation.Keeps ScenarioData.withoutTmnt
      (maybeIncludeCostEffectiveness : Mutation (ScenarioData J K Digest Time) PyError) :=
    maybeIncludeCostEffectiveness_keeps
  have htime : Mutation.Keeps
      (fun data : ScenarioData J K Digest Time => { data with resultTimeUpdated := .unset })
      (Mutation.when (recalculateLoading data force || recalculateWq data force)
        (setResultTime now)) := (setResultTime_keeps now).when
  show (Mutation.andThen _ (Mutation.andThen _ (Mutation.andThen _ _))).Fixes data ↔ _
  rw [Mutation.andThen_fixes_iff hloading
      (π := fun data => (data.lguBoundary, data.lguLoad, data.delinLoad))
      ((hwq.map fun data => (data.lguBoundary, data.lguLoad, data.delinLoad)).andThen <|
        (hcost.map fun data => (data.lguBoundary, data.lguLoad, data.delinLoad)).andThen <|
        htime.map fun data => (data.lguBoundary, data.lguLoad, data.delinLoad))
      (by grind [ScenarioData.withoutLoading]),
    Mutation.andThen_fixes_iff hwq (π := fun data => (data.graphEdge, data.structuralTmntResult))
      ((hcost.map fun data => (data.graphEdge, data.structuralTmntResult)).andThen <|
        htime.map fun data => (data.graphEdge, data.structuralTmntResult))
      (by grind [ScenarioData.withoutWq]),
    Mutation.andThen_fixes_iff hcost (π := fun data => data.structuralTmnt)
      (htime.map fun data => data.structuralTmnt) (by grind [ScenarioData.withoutTmnt])]

section Assignments

omit [Field K] [LinearOrder K]

theorem loading_passes_iff {lib : ScenarioLibrary J K Digest} {force : Bool}
    {data : ScenarioData J K Digest Time} (h : recalculateLoading data force = true →
      (computeLguLoad lib).Fixes data) :
    (Mutation.when (recalculateLoading data force) (computeScenarioLoading lib)).Passes data ↔
      LoadingPasses lib force data := by
  refine Mutation.passes_when.trans (forall_congr' fun hload => ?_)
  rw [computeScenarioLoading, Mutation.andThen_passes_iff (h hload), computeLguLoad,
    computeDelinLoad, Mutation.passes_assign, Mutation.passes_assign]

theorem wq_passes_iff {lib : ScenarioLibrary J K Digest} {force : Bool}
    {data : ScenarioData J K Digest Time} (h : recalculateWq data force = true →
      (computeGraphEdge lib).Fixes data) :
    (Mutation.when (recalculateWq data force) (computeScenarioWq lib)).Passes data ↔
      WqPasses lib force data := by
  refine Mutation.passes_when.trans (forall_congr' fun hwq => ?_)
  rw [computeScenarioWq, Mutation.andThen_passes_iff (h hwq), computeGraphEdge,
    computeWqResult, Mutation.passes_assign, Mutation.passes_assign]

end Assignments

/-- **A solve leaves a dictionary as it is exactly if it is settled**, whether it succeeds or
raises part-way. -/
theorem solveScenarioData_fixes_iff {lib : ScenarioLibrary J K Digest} {force : Bool}
    {now : Time} {data : ScenarioData J K Digest Time} :
    (solveScenarioData lib force now).Fixes data ↔ Settled lib force now data := by
  rw [solveScenarioData_fixes_branches, Mutation.fixes_when, computeScenarioLoading_fixes,
    Mutation.fixes_when, computeScenarioWq_fixes, Mutation.fixes_when, setResultTime_fixes,
    maybeIncludeCostEffectiveness_fixes, maybeIncludeCostEffectiveness_passes]
  constructor
  · rintro ⟨hloading, hrest⟩
    rw [loading_passes_iff fun h => (hloading h).1] at hrest
    have hwq : LoadingPasses lib force data → WqPasses lib force data →
        (Mutation.when (recalculateWq data force) (computeScenarioWq lib)).Passes data :=
      fun hp => (wq_passes_iff fun h => ((hrest hp).1 h).1).2
    exact
      { lguLoad := fun hr => computeLguLoad_fixes.1 (hloading hr).1
        delinLoad := fun hr hx =>
          computeDelinLoad_fixes.1 ((hloading hr).2 (Mutation.passes_assign.2 hx))
        graphEdge := fun hp hr => computeGraphEdge_fixes.1 ((hrest hp).1 hr).1
        structuralTmntResult := fun hp hr hx =>
          computeWqResult_fixes.1 (((hrest hp).1 hr).2 (Mutation.passes_assign.2 hx))
        structuralTmnt := fun hp hw => ((hrest hp).2 (hwq hp hw)).1
        resultTimeUpdated := fun hp hw => ((hrest hp).2 (hwq hp hw)).2 }
  · intro h
    have hloading : recalculateLoading data force = true → (computeLguLoad lib).Fixes data ∧
        ((computeLguLoad lib).Passes data → (computeDelinLoad lib).Fixes data) := fun hr =>
      ⟨computeLguLoad_fixes.2 (h.lguLoad hr), fun hx =>
        computeDelinLoad_fixes.2 (h.delinLoad hr (Mutation.passes_assign.1 hx))⟩
    refine ⟨hloading, fun hp => ?_⟩
    rw [loading_passes_iff fun hr => (hloading hr).1] at hp
    have hwq : recalculateWq data force = true → (computeGraphEdge lib).Fixes data ∧
        ((computeGraphEdge lib).Passes data → (computeWqResult lib).Fixes data) := fun hr =>
      ⟨computeGraphEdge_fixes.2 (h.graphEdge hp hr), fun hx =>
        computeWqResult_fixes.2 (h.structuralTmntResult hp hr (Mutation.passes_assign.1 hx))⟩
    refine ⟨hwq, fun hw => ?_⟩
    rw [wq_passes_iff fun hr => (hwq hr).1] at hw
    exact ⟨h.structuralTmnt hp hw, h.resultTimeUpdated hp hw⟩

/-! ### What is seen from the dictionary -/

/-- Nothing is recalculated, and the facilities that the loop over the facilities comes to have
their cost-effectiveness fields already. -/
structure Untouched (force : Bool) (data : ScenarioData J K Digest Time) : Prop where
  loading : recalculateLoading data force = false
  wq : recalculateWq data force = false
  costEffectiveness : data.tmntResults ≠ [] → CostSettled data.tmntResults data.structTmntList

variable {lib : ScenarioLibrary J K Digest} {force : Bool} {now : Time}
  {data : ScenarioData J K Digest Time}

/-- A solve that recalculates and does not raise stamps the dictionary, so that it changes every
dictionary that does not have this very time stamp. -/
theorem not_settled_of_ok
    (hrecalculate : (recalculateLoading data force || recalculateWq data force) = true)
    (hok : (solveScenarioData lib force now).Passes data)
    (hnow : data.resultTimeUpdated ≠ .val now) : ¬ Settled lib force now data := by
  intro hsettled
  have hfix : (solveScenarioData lib force now).Fixes data :=
    solveScenarioData_fixes_iff.2 hsettled
  have hrun : solveScenarioData lib force now data = (data, .ok ()) := Prod.ext hfix hok
  obtain ⟨r₁, -, hrun⟩ := Mutation.andThen_eq_ok.1 hrun
  obtain ⟨r₂, -, hrun⟩ := Mutation.andThen_eq_ok.1 hrun
  obtain ⟨r₃, -, hrun⟩ := Mutation.andThen_eq_ok.1 hrun
  rw [Mutation.when_eq_ok, if_pos hrecalculate] at hrun
  obtain ⟨t, ht, hdata⟩ := Mutation.assign_eq_ok.1 hrun
  obtain rfl : now = t := Except.ok.inj ht
  exact hnow (congrArg ScenarioData.resultTimeUpdated hdata)

/-- Where nothing is recalculated, the cost-effectiveness fields are all that is assigned. -/
theorem Untouched.settled (h : Untouched force data) : Settled lib force now data where
  lguLoad hr := absurd (h.loading.symm.trans hr) Bool.false_ne_true
  delinLoad hr := absurd (h.loading.symm.trans hr) Bool.false_ne_true
  graphEdge _ hr := absurd (h.wq.symm.trans hr) Bool.false_ne_true
  structuralTmntResult _ hr := absurd (h.wq.symm.trans hr) Bool.false_ne_true
  structuralTmnt _ _ := h.costEffectiveness
  resultTimeUpdated _ _ _ hr := by
    rw [h.loading, h.wq] at hr
    cases hr

/-- A solve that does not raise leaves the untouched dictionaries as they are and no others. -/
theorem settled_iff_untouched (hok : (solveScenarioData lib force now).Passes data)
    (hnow : data.resultTimeUpdated ≠ .val now) :
    Settled lib force now data ↔ Untouched force data := by
  refine ⟨fun h => ?_, Untouched.settled⟩
  have hnot : ¬ (recalculateLoading data force || recalculateWq data force) = true :=
    fun hr => not_settled_of_ok hr hok hnow h
  rw [Bool.not_eq_true, Bool.or_eq_false_iff] at hnot
  obtain ⟨hloading, hwq⟩ := hnot
  have hpassLoading : LoadingPasses lib force data :=
    fun hr => absurd (hloading.symm.trans hr) Bool.false_ne_true
  have hpassWq : WqPasses lib force data := fun hr => absurd (hwq.symm.trans hr) Bool.false_ne_true
  exact ⟨hloading, hwq, h.structuralTmnt hpassLoading hpassWq⟩

end StormPiper
