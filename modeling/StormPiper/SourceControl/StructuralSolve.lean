import StormPiper.SourceControl.Organics

/-!
# Virtual pollutants in the structural solve

The loads of the virtual pollutants enter the solve reduced by source controls of their own.  In the
result of `solveWq` (`src/solve_structural_wq.py`) their columns are written anew, as functions of
the suspended solids, which were reduced by other controls.  Both agree exactly where the controls
of the suspended solids and those of the virtual pollutant leave the same part of the load
(`virtualLoadsSurvive_iff`).
-/

namespace StormPiper

/-- A load table whose rows of virtual pollutants are made from the suspended solids. -/
structure VirtualLoadTable extends TidyLoadTable where
  virtual : ∀ p ∈ VIRTUAL_POLLUTANT_MAPPER, ∀ r, (r ∈ rows ∧ r.variableName = p.1) ↔
    ∃ t ∈ rows, t.variableName = "TSS" ∧ r = t.virtual p
  tss_units : ∀ t ∈ rows, t.variableName = "TSS" → t.units = "lbs"

/-- The column that a load has in the input of the solve. -/
def nereidCol (r : TidyLoad) : String :=
  replace (replace (r.variableName ++ "_" ++ r.units) "_lbs" "_load_lbs") "_cuft" "_volume_cuft"

theorem nereidCol_value (r : TidyLoad) (v : ℚ) :
    nereidCol { r with value := v } = nereidCol r := rfl

/-- The results have a row for every node and epoch that has loads, and report these loads. -/
def ReportsInputs (load : List TidyLoad) (results : WideFrame) : Prop :=
  ∀ r ∈ load, nereidCol r ∈ results.columns ∧
    (∃ row ∈ results.rows, row.nodeId = r.nodeId ∧ row.epoch = r.epoch) ∧
    ∀ row ∈ results.rows, row.nodeId = r.nodeId → row.epoch = r.epoch →
      row.col (nereidCol r) = some r.value

/-- The results of the solve, with the virtual pollutants. -/
def solveWq (solveWatershed : List TidyLoad → WideFrame) (load : List TidyLoad) : WideFrame :=
  addVirtualPocsToWideLoadSummary (solveWatershed load)

/-- The results have the loads of virtual pollutants that entered. -/
def VirtualLoadsSurvive (load : List TidyLoad) (results : WideFrame) : Prop :=
  ∀ r ∈ load, r.variableName ∈ VIRTUAL_POCS → ∀ row ∈ results.rows, row.nodeId = r.nodeId →
    row.epoch = r.epoch → row.col (nereidCol r) = some r.value

/-- The controls of the suspended solids leave the same part of a load as those of every virtual
pollutant, for each node with suspended solids. -/
def SamePartLeft (load : TidyLoadTable) (lgu : BoundaryTable) (srcCtrls : SourceControlTable) :
    Prop :=
  ∀ t ∈ load.rows, t.variableName = "TSS" → t.value ≠ 0 → ∀ p ∈ VIRTUAL_POLLUTANT_MAPPER,
    leaves load lgu srcCtrls .upstream t = leaves load lgu srcCtrls .upstream (t.virtual p)

theorem nereidCol_eq_loadCol {r : TidyLoad} (hunits : r.units = "lbs")
    (hvar : r.variableName = "TSS" ∨ r.variableName ∈ VIRTUAL_POCS) :
    nereidCol r = loadCol r.variableName := by
  simp only [VIRTUAL_POCS, VIRTUAL_POLLUTANT_MAPPER, List.map_cons, List.map_nil, List.mem_cons,
    List.not_mem_nil, or_false] at hvar
  rw [nereidCol, hunits]
  rcases hvar with h | h | h | h <;> rw [h] <;> decide

theorem virtual_mul_eq_iff {p : String × (ℚ → ℚ)} (hp : p ∈ VIRTUAL_POLLUTANT_MAPPER)
    {tss a b : ℚ} :
    p.2 (tss * a) = p.2 tss * b ↔ tss = 0 ∨ a = b := by
  obtain ⟨share, hshare, hlinear⟩ := virtual_linear hp
  rw [hlinear, hlinear, mul_right_comm tss share b, mul_left_inj' hshare, mul_eq_mul_left_iff,
    or_comm]

section

variable {load : List TidyLoad} {results : WideFrame} {p : String × (ℚ → ℚ)}

/-- What the solve reports for a virtual pollutant is a function of the suspended solids that
entered. -/
theorem col_solveWq (hresults : ReportsInputs load results) {t : TidyLoad} (ht : t ∈ load)
    (htss : t.variableName = "TSS") (hunits : t.units = "lbs") (hp : p ∈ VIRTUAL_POLLUTANT_MAPPER)
    {row : WideRow} (hrow : row ∈ (addVirtualPocsToWideLoadSummary results).rows)
    (hnode : row.nodeId = t.nodeId) (hepoch : row.epoch = t.epoch) :
    row.col (loadCol p.1) = some (p.2 t.value) := by
  obtain ⟨hcol, -, hreport⟩ := hresults t ht
  rw [nereidCol_eq_loadCol hunits (.inl htss), htss] at hcol hreport
  rw [rows_addVirtualPocsToWideLoadSummary] at hrow
  obtain ⟨reported, hreported, rfl⟩ := List.mem_map.1 hrow
  have hcols : ∀ c ∈ tssCols results, isIn "tss" (lower c) = true := fun c hc => by
    simpa using (List.mem_filter.1 hc).2
  have hmem : loadCol "TSS" ∈ tssCols results := List.mem_filter.2 ⟨hcol, by decide⟩
  rw [col_writeVirtuals hp hcols hmem, hreport reported hreported hnode hepoch, Option.map_some]

/-- One load: `a` and `b` are the parts that were left of the suspended solids and of the virtual
pollutant. -/
theorem virtual_survives_iff (hresults : ReportsInputs load results) {t : TidyLoad} (ht : t ∈ load)
    (htss : t.variableName = "TSS") (hunits : t.units = "lbs") (hp : p ∈ VIRTUAL_POLLUTANT_MAPPER)
    {tss a b : ℚ} (hvalue : t.value = tss * a) :
    (∀ row ∈ (addVirtualPocsToWideLoadSummary results).rows, row.nodeId = t.nodeId →
      row.epoch = t.epoch → row.col (loadCol p.1) = some (p.2 tss * b)) ↔ tss = 0 ∨ a = b := by
  rw [← virtual_mul_eq_iff hp, ← hvalue]
  constructor
  · intro h
    obtain ⟨-, ⟨row, hrow, hnode, hepoch⟩, -⟩ := hresults t ht
    have hmem : row.writeVirtuals (tssCols results) ∈
        (addVirtualPocsToWideLoadSummary results).rows := by
      rw [rows_addVirtualPocsToWideLoadSummary]
      exact List.mem_map_of_mem hrow
    have hcol := col_solveWq hresults ht htss hunits hp hmem hnode hepoch
    exact Option.some.inj (hcol.symm.trans (h _ hmem hnode hepoch))
  · intro h row hrow hnode hepoch
    rw [col_solveWq hresults ht htss hunits hp hrow hnode hepoch, h]

end

/-- The loads that enter the solve. -/
theorem exists_entered {load : TidyLoadTable} {lgu : BoundaryTable} {srcCtrls : SourceControlTable}
    {next : List TidyLoad}
    (hnext : loadToStructuralBmps load.rows lgu.rows srcCtrls.rows = .ok next) :
    ∃ f : TidyLoad → ℚ, next = load.rows.map (fun r => { r with value := f r }) ∧
      ∀ r ∈ load.rows, r.variableName ≠ "runoff" →
        f r = r.value * leaves load lgu srcCtrls .upstream r := by
  obtain ⟨herr, hok⟩ := loadToStructuralBmps_spec load lgu srcCtrls
  by_cases hrange :
      LookupsInRange (appliedOrders (joinBoundary load.rows lgu.rows) srcCtrls.rows .upstream)
  · obtain ⟨f, hf, hvalue⟩ := hok hrange
    exact ⟨f, Except.ok.inj (hnext.symm.trans hf), hvalue⟩
  · exact absurd (hnext.symm.trans (herr hrange)) (by simp)

/-- Each load of a virtual pollutant, through the suspended solids that it is made from. -/
theorem exists_survives_iff {load : VirtualLoadTable} {lgu : BoundaryTable}
    {srcCtrls : SourceControlTable} {next : List TidyLoad}
    (hnext : loadToStructuralBmps load.rows lgu.rows srcCtrls.rows = .ok next)
    {results : WideFrame} (hresults : ReportsInputs next results) :
    ∃ f : TidyLoad → ℚ, next = load.rows.map (fun r => { r with value := f r }) ∧
      ∀ t ∈ load.rows, t.variableName = "TSS" → ∀ p ∈ VIRTUAL_POLLUTANT_MAPPER,
        ((∀ row ∈ (addVirtualPocsToWideLoadSummary results).rows, row.nodeId = t.nodeId →
          row.epoch = t.epoch → row.col (nereidCol (t.virtual p)) = some (f (t.virtual p))) ↔
        t.value = 0 ∨ leaves load.toTidyLoadTable lgu srcCtrls .upstream t =
          leaves load.toTidyLoadTable lgu srcCtrls .upstream (t.virtual p)) := by
  obtain ⟨f, hf, hvalue⟩ := exists_entered hnext
  refine ⟨f, hf, fun t ht htss p hp => ?_⟩
  obtain ⟨hr, -⟩ := (load.virtual p hp (t.virtual p)).2 ⟨t, ht, htss, rfl⟩
  have hpoc : p.1 ∈ VIRTUAL_POCS := List.mem_map_of_mem hp
  have hunits := load.tss_units t ht htss
  have hentered : { t with value := f t } ∈ next := hf ▸ List.mem_map_of_mem ht
  have hft := hvalue t ht (htss ▸ by decide)
  have hfp := hvalue (t.virtual p) hr fun h => absurd (h ▸ hpoc : "runoff" ∈ VIRTUAL_POCS)
    (by decide)
  have hcol : nereidCol (t.virtual p) = loadCol p.1 := nereidCol_eq_loadCol hunits (.inr hpoc)
  rw [hcol, hfp]
  exact virtual_survives_iff hresults hentered htss hunits hp hft

/-- **When the loads of virtual pollutants survive the solve.** -/
theorem virtualLoadsSurvive_iff (load : VirtualLoadTable) (lgu : BoundaryTable)
    (srcCtrls : SourceControlTable) {next : List TidyLoad}
    (hnext : loadToStructuralBmps load.rows lgu.rows srcCtrls.rows = .ok next)
    (solveWatershed : List TidyLoad → WideFrame)
    (hsolve : ReportsInputs next (solveWatershed next)) :
    VirtualLoadsSurvive next (solveWq solveWatershed next) ↔
      SamePartLeft load.toTidyLoadTable lgu srcCtrls := by
  obtain ⟨f, hf, hsurvives⟩ := exists_survives_iff hnext hsolve
  constructor
  · intro h t ht htss hne p hp
    obtain ⟨hr, -⟩ := (load.virtual p hp (t.virtual p)).2 ⟨t, ht, htss, rfl⟩
    have hentered : { t.virtual p with value := f (t.virtual p) } ∈ next :=
      hf ▸ List.mem_map_of_mem hr
    have hsurvive := h _ hentered (List.mem_map_of_mem hp)
    rw [nereidCol_value] at hsurvive
    exact ((hsurvives t ht htss p hp).1 hsurvive).resolve_left hne
  · intro h r hr hpoc
    rw [hf] at hr
    obtain ⟨r, hrow, rfl⟩ := List.mem_map.1 hr
    obtain ⟨p, hp, hvar⟩ := List.mem_map.1 hpoc
    obtain ⟨t, ht, htss, rfl⟩ := (load.virtual p hp r).1 ⟨hrow, hvar.symm⟩
    rw [nereidCol_value]
    exact (hsurvives t ht htss p hp).2 (or_iff_not_imp_left.2 fun hne => h t ht htss hne p hp)

/-! ### Sweeping the streets of one subbasin -/

/-- A solve that reports the loads it gets. -/
def reported (load : List TidyLoad) : WideFrame where
  columns := load.map nereidCol
  rows := load.map fun r =>
    { nodeId := r.nodeId, epoch := r.epoch, col := fun name => (load.find? fun x =>
        (x.nodeId, x.epoch, nereidCol x) = (r.nodeId, r.epoch, name)).map (·.value) }

theorem reportsInputs_reported {load : List TidyLoad}
    (hnd : (load.map fun r => (r.nodeId, r.epoch, nereidCol r)).Nodup) :
    ReportsInputs load (reported load) := by
  intro r hr
  refine ⟨List.mem_map_of_mem hr, ⟨_, List.mem_map_of_mem hr, rfl, rfl⟩, ?_⟩
  rintro row hrow hnode hepoch
  obtain ⟨x, -, rfl⟩ := List.mem_map.1 hrow
  have hsingle := Frame.filter_key_eq_singleton (fun r => (r.nodeId, r.epoch, nereidCol r)) hnd hr
  simp only at hnode hepoch
  simp only [hnode, hepoch]
  rw [← List.head?_filter, hsingle, List.head?_cons, Option.map_some]

/-- The loads of one land surface. -/
def oneSurface : VirtualLoadTable where
  rows := addVirtualPocsToTidyLoadSummary
    [{ nodeId := "SB_FS_01", epoch := "1980s", variableName := "TSS", value := 100,
       units := "lbs" }]
  key_nodup := by decide +kernel
  virtual p hp r := mem_addVirtualPocs_iff hp
  tss_units := by decide +kernel

/-- A table with one land surface. -/
def oneBoundary : BoundaryTable where
  rows := [{ altid := none, relid := none, nodeId := "SB_FS_01", subbasin := some "FS_01",
             basinname := some "FOSS WATERWAY" }]
  nodeId_nodup := by decide

/-- Sweeping the streets as it is set up by default, and the same with one percentage for all. -/
def sweepingControls (tss phe pyr dehp : ℚ) : List TMNTSourceControl :=
  [("TSS", tss), ("PHE", phe), ("PYR", pyr), ("DEHP", dehp)].map fun c =>
    { subbasin := "FS_01", variableName := c.1, order := 0, activity := "Street Sweeping",
      direction := .upstream, percentReduction := c.2 }

/-- The default controls of street sweeping. -/
def defaultSweeping : SourceControlTable where
  rows := sweepingControls 21 58 60 44
  order_unique := by decide +kernel
  activity_unique := by decide +kernel
  percentReduction_mem := by decide +kernel

/-- Controls with one percentage for all pollutants. -/
def evenSweeping : SourceControlTable where
  rows := sweepingControls 21 21 21 21
  order_unique := by decide +kernel
  activity_unique := by decide +kernel
  percentReduction_mem := by decide +kernel

/-- Where the controls have one order, a load row keeps the product of its factors. -/
theorem leaves_of_one_order {load : TidyLoadTable} {lgu : BoundaryTable}
    {srcCtrls : SourceControlTable} {o : ℤ}
    (horders : appliedOrders (joinBoundary load.rows lgu.rows) srcCtrls.rows .upstream = [o])
    (r : TidyLoad) : leaves load lgu srcCtrls .upstream r =
      factorAt [o] (matching srcCtrls.rows .upstream
        (r.withSubbasin (lgu.subbasinOf r.nodeId))) 0 := by
  rw [leaves, horders, leftOver_singleton]

theorem exists_entered_of_one_order (load : VirtualLoadTable) (lgu : BoundaryTable)
    (srcCtrls : SourceControlTable) {o : ℤ}
    (horders : appliedOrders (joinBoundary load.rows lgu.rows) srcCtrls.rows .upstream = [o]) :
    ∃ f : TidyLoad → ℚ, loadToStructuralBmps load.rows lgu.rows srcCtrls.rows =
      .ok (load.rows.map fun r => { r with value := f r }) := by
  have hrange : LookupsInRange
      (appliedOrders (joinBoundary load.rows lgu.rows) srcCtrls.rows .upstream) := by
    rw [horders]
    intro i hi hpos
    simp only [List.length_singleton] at hi
    omega
  obtain ⟨f, hf, -⟩ := (loadToStructuralBmps_spec load.toTidyLoadTable lgu srcCtrls).2 hrange
  exact ⟨f, hf⟩

theorem reportsInputs_oneSurface (f : TidyLoad → ℚ) :
    ReportsInputs (oneSurface.rows.map fun r => { r with value := f r })
      (reported (oneSurface.rows.map fun r => { r with value := f r })) := by
  refine reportsInputs_reported ?_
  rw [List.map_map]
  show (oneSurface.rows.map fun r => (r.nodeId, r.epoch, nereidCol r)).Nodup
  decide +kernel

theorem virtualLoadsSurvive_evenSweeping :
    ∃ next, loadToStructuralBmps oneSurface.rows oneBoundary.rows evenSweeping.rows = .ok next ∧
      VirtualLoadsSurvive next (solveWq reported next) := by
  have horders : appliedOrders (joinBoundary oneSurface.rows oneBoundary.rows) evenSweeping.rows
      .upstream = [0] := by decide +kernel
  obtain ⟨f, hf⟩ := exists_entered_of_one_order oneSurface oneBoundary evenSweeping horders
  refine ⟨_, hf, (virtualLoadsSurvive_iff oneSurface oneBoundary evenSweeping hf reported
    (reportsInputs_oneSurface f)).2 ?_⟩
  simp only [SamePartLeft, leaves_of_one_order horders]
  decide +kernel

/-- **The default sweeping takes more of a virtual pollutant than of the suspended solids.** -/
theorem not_virtualLoadsSurvive_defaultSweeping :
    ¬ ∀ (load : VirtualLoadTable) (lgu : BoundaryTable) (srcCtrls : SourceControlTable) next
        (solveWatershed : List TidyLoad → WideFrame),
      loadToStructuralBmps load.rows lgu.rows srcCtrls.rows = .ok next →
      ReportsInputs next (solveWatershed next) →
      VirtualLoadsSurvive next (solveWq solveWatershed next) := by
  intro hall
  have horders : appliedOrders (joinBoundary oneSurface.rows oneBoundary.rows)
      defaultSweeping.rows .upstream = [0] := by decide +kernel
  obtain ⟨f, hf⟩ := exists_entered_of_one_order oneSurface oneBoundary defaultSweeping horders
  have hreports := reportsInputs_oneSurface f
  have hsurvive := hall _ _ _ _ reported hf hreports
  obtain ⟨g, hg, hiff⟩ := exists_survives_iff hf hreports
  obtain ⟨t, ht, htss⟩ : ∃ t ∈ oneSurface.rows, t.variableName = "TSS" := by decide +kernel
  obtain ⟨p, hp⟩ : ∃ p, p ∈ VIRTUAL_POLLUTANT_MAPPER := ⟨_, List.mem_cons_self⟩
  obtain ⟨hr, -⟩ := (oneSurface.virtual p hp (t.virtual p)).2 ⟨t, ht, htss, rfl⟩
  have hentered : { t.virtual p with value := g (t.virtual p) } ∈
      oneSurface.rows.map fun r => { r with value := f r } := hg ▸ List.mem_map_of_mem hr
  have hphe := hsurvive _ hentered (List.mem_map_of_mem hp)
  rw [nereidCol_value] at hphe
  have hsame := (hiff t ht htss p hp).1 hphe
  rw [leaves_of_one_order horders, leaves_of_one_order horders] at hsame
  have hdifferent : ∀ t ∈ oneSurface.rows, t.variableName = "TSS" →
      ∀ p ∈ VIRTUAL_POLLUTANT_MAPPER, ¬ (t.value = 0 ∨
        factorAt [0] (matching defaultSweeping.rows .upstream
          (t.withSubbasin (oneBoundary.subbasinOf t.nodeId))) 0 =
        factorAt [0] (matching defaultSweeping.rows .upstream
          ((t.virtual p).withSubbasin (oneBoundary.subbasinOf (t.virtual p).nodeId))) 0) := by
    decide +kernel
  exact hdifferent t ht htss p hp hsame

end StormPiper
