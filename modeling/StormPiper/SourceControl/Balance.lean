import StormPiper.SourceControl.Stages

/-!
# The mass balance of a reduction

What `apply_tidy_load_reduction` takes from a load table is what the report table of the source
controls says was removed: for every node, epoch and variable, the load before is the load after
and the reported reductions together.

* `exists_load_of_reduced` : the report has rows only for loads that are not runoff.
* `loadOf`, `reducedOf` : the load and the reported reduction of a key.
* `applyTidyLoadReduction_balance` : the balance.
-/

namespace StormPiper

open StormPiper.Frame

variable {load : List TidyLoad} {lgu : List LguBoundary} {srcCtrls : List TMNTSourceControl}
  {direction : Direction} {rows : List LoadReducedRow}

/-- The load of a node, epoch and variable. -/
def loadOf (load : List TidyLoad) (key : String × String × String) : ℚ :=
  ((load.filter fun r => r.key = key).map (·.value)).sum

/-- What the report says was removed from the load of a node, epoch and variable. -/
def reducedOf (rows : List LoadReducedRow) (key : String × String × String) : ℚ :=
  ((rows.filter fun x => x.key = key).map (·.loadReduced)).sum

theorem exists_load_of_mem_joinBoundary {x : LoadRow} (hx : x ∈ joinBoundary load lgu) :
    ∃ r ∈ load, r.variableName ≠ "runoff" ∧ x.key = r.key := by
  obtain ⟨y, hy, rfl⟩ := List.mem_map.1 hx
  obtain ⟨hmem, hvariable⟩ := List.mem_filter.1 ((exists_mem_mergeLeft ..).1 ⟨y.2, hy⟩)
  exact ⟨y.1, hmem, by simpa using hvariable, rfl⟩

theorem exists_load_of_reduced
    (h : sourceControlsLoadReductionDb load lgu srcCtrls direction = .ok (.frame rows))
    {x : LoadReducedRow} (hx : x ∈ rows) :
    ∃ r ∈ load, r.variableName ≠ "runoff" ∧ x.key = r.key := by
  have hjoined := (perm_toSrcCtrlRow_of_frame h).mem_iff.1 (List.mem_map_of_mem hx)
  exact exists_load_of_mem_joinBoundary (mem_joinSrcCtrls.1 hjoined).1

/-- Nothing is reported for a key without a load that is not runoff. -/
theorem reducedOf_eq_zero
    (h : sourceControlsLoadReductionDb load lgu srcCtrls direction = .ok (.frame rows))
    {key : String × String × String}
    (hkey : ∀ r ∈ load, r.variableName ≠ "runoff" → r.key ≠ key) : reducedOf rows key = 0 := by
  have hnone : (rows.filter fun x => x.key = key) = [] := by
    refine List.filter_eq_nil_iff.2 fun x hx hxkey => ?_
    obtain ⟨r, hr, hrunoff, hxr⟩ := exists_load_of_reduced h hx
    exact hkey r hr hrunoff (hxr.symm.trans (of_decide_eq_true hxkey))
  rw [reducedOf, hnone]
  rfl

/-- The load of a key after the reductions, where each load is there once. -/
theorem loadOf_reduced (hnodup : (load.map TidyLoad.key).Nodup) {key : String × String × String}
    (hkey : (∀ r ∈ load, r.key ≠ key) → reducedOf rows key = 0) :
    loadOf (load.map fun r => { r with value := r.value - reducedOf rows r.key }) key =
      loadOf load key - reducedOf rows key := by
  have hfilter : ((load.map fun r => { r with value := r.value - reducedOf rows r.key }).filter
      fun r => r.key = key) = (load.filter fun r => r.key = key).map fun r =>
        { r with value := r.value - reducedOf rows r.key } := by
    rw [List.filter_map]
    rfl
  rw [loadOf, loadOf, hfilter]
  by_cases hex : ∃ r ∈ load, r.key = key
  · -- the sums have one summand
    obtain ⟨r, hr, rfl⟩ := hex
    rw [filter_key_eq_singleton TidyLoad.key hnodup hr]
    simp
  · have hne : ∀ r ∈ load, r.key ≠ key := fun r hr h => hex ⟨r, hr, h⟩
    have hnone : (load.filter fun r => r.key = key) = [] :=
      List.filter_eq_nil_iff.2 fun r hr h => hne r hr (of_decide_eq_true h)
    rw [hnone, hkey hne]
    simp

/-- **What the report says was removed is what is missing downstream.**  The reduced load has the
rows of the load in their order, with their keys and units; the runoff is unchanged; and for every
node, epoch and variable the load before is the load after plus the reported reductions. -/
theorem applyTidyLoadReduction_balance (load : TidyLoadTable) (lgu : List LguBoundary)
    (srcCtrls : SourceControlTable) (direction : Direction) (rows : List LoadReducedRow)
    (h : sourceControlsLoadReductionDb load.rows lgu srcCtrls.rows direction = .ok (.frame rows)) :
    ∃ next, TidyLoad.applyTidyLoadReduction load.rows (.frame rows) = .ok next ∧
      next.map (fun r => (r.key, r.units)) = load.rows.map (fun r => (r.key, r.units)) ∧
      (∀ (i : ℕ) r, load.rows[i]? = some r → r.variableName = "runoff" → next[i]? = some r) ∧
      ∀ key, loadOf load.rows key = loadOf next key + reducedOf rows key := by
  refine ⟨_, TidyLoad.applyTidyLoadReduction_frame load.rows rows, ?_, ?_, fun key => ?_⟩
  · rw [List.map_map]
    rfl
  · intro i r hr hrunoff
    have hzero : reducedOf rows r.key = 0 := by
      refine reducedOf_eq_zero h fun r' _ hrunoff' hkey => hrunoff' ?_
      rw [← hrunoff]
      exact congrArg (·.2.2) hkey
    rw [List.getElem?_map, hr, Option.map_some]
    change some { r with value := r.value - reducedOf rows r.key } = some r
    rw [hzero, sub_zero]
  · have hkey : (∀ r ∈ load.rows, r.key ≠ key) → reducedOf rows key = 0 := fun hne =>
      reducedOf_eq_zero h fun r hr _ => hne r hr
    have hafter := loadOf_reduced load.key_nodup hkey
    simp only [reducedOf] at hafter ⊢
    rw [hafter, sub_add_cancel]

/-- A load of suspended solids and the runoff of the same node. -/
def sweptLoads : TidyLoadTable where
  rows := [{ nodeId := "SB_FS_01", epoch := "1980s", variableName := "TSS", value := 100,
             units := "lbs" },
           { nodeId := "SB_FS_01", epoch := "1980s", variableName := "runoff", value := 5,
             units := "cuft" }]
  key_nodup := by decide

/-- A subbasin without delineations. -/
def sweptBoundary : List LguBoundary :=
  [{ altid := none, relid := none, nodeId := "SB_FS_01", subbasin := some "FS_01",
     basinname := some "FOSS WATERWAY" }]

/-- A control of its suspended solids. -/
def streetSweeping : SourceControlTable where
  rows := [{ subbasin := "FS_01", variableName := "TSS", order := 0,
             activity := "Street Sweeping", direction := .upstream, percentReduction := 21 }]
  order_unique := by decide
  activity_unique := by decide
  percentReduction_mem := by decide +kernel

/-- The report of the sweeping. -/
def sweptReport : List LoadReducedRow :=
  [{ load := { nodeId := "SB_FS_01", epoch := "1980s", variableName := "TSS",
               subbasin := some "FS_01", value := 100 }
     ctrl := { subbasin := "FS_01", variableName := "TSS", order := 0,
               activity := "Street Sweeping", direction := .upstream, percentReduction := 21 }
     valueRemainingPrev := 100
     valueRemaining := 79
     loadReduced := 21
     id := 0 }]

theorem applyTidyLoadReduction_balance_swept : ∃ next,
    TidyLoad.applyTidyLoadReduction sweptLoads.rows (.frame sweptReport) = .ok next ∧
      ∀ key, loadOf sweptLoads.rows key = loadOf next key + reducedOf sweptReport key := by
  obtain ⟨next, hnext, -, -, hbalance⟩ := applyTidyLoadReduction_balance sweptLoads sweptBoundary
    streetSweeping .upstream sweptReport (by decide +kernel)
  exact ⟨next, hnext, hbalance⟩

end StormPiper
