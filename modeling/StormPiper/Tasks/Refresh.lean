import StormPiper.Dependencies.Tables

/-!
# The refresh tasks

A refresh task of `src/tasks.py` reads some tables, computes new content for one table, and then
replaces that table and logs it (`delete_and_replace_table`).  `RefreshTask` records the table
that a task replaces and the tables and views that its code reads; the larger tasks are the lists
of the smaller ones that they run, in order.

The main result is `clean_dirty_clean`: the order of `deleteAndRefreshAllResultsTables` cleans the
results, stopping part-way leaves them dirty, and afterwards exactly the edits of their ancestors
dirty them again.
-/

namespace StormPiper

open Relation Recency Table

/-- A task that replaces one table. -/
structure RefreshTask where
  /-- The table that is deleted, replaced and logged. -/
  table : Table
  /-- The tables and views that the task reads. -/
  reads : List Table
  deriving Repr, DecidableEq

namespace RefreshTask

/-- `delete_and_refresh_met_table` -/
def deleteAndRefreshMetTable : RefreshTask := ⟨met, []⟩

/-- The facilities, delineations and subbasins are fetched from the GIS services. -/
def deleteAndRefreshTmntFacilityTable : RefreshTask := ⟨tmntFacility, []⟩

/-- `delete_and_refresh_tmnt_facility_delineation_table` -/
def deleteAndRefreshTmntFacilityDelineationTable : RefreshTask := ⟨tmntFacilityDelineation, []⟩

/-- `delete_and_refresh_subbasin_table` -/
def deleteAndRefreshSubbasinTable : RefreshTask := ⟨subbasin, []⟩

/-- `default_attrs.update_tmnt_attributes` adds default attributes for the facilities that have
none. -/
def updateTmntAttributes : RefreshTask :=
  ⟨tmntFacilityAttribute, [tmntFacility, tmntFacilityAttribute, subbasin]⟩

/-- The default source controls, one set for each subbasin of one basin. -/
def buildDefaultTmntSourceControls : RefreshTask := ⟨tmntSourceControl, [subbasin]⟩

/-- `overlay_rodeo_from_database` keeps the delineations whose `relid` is the `altid` of a
facility, and overlays them with the subbasins. -/
def deleteAndRefreshLguBoundaryTable : RefreshTask :=
  ⟨lguBoundary, [tmntFacility, tmntFacilityDelineation, subbasin]⟩

/-- `compute_loading_db`. -/
def deleteAndRefreshLguLoadTable : RefreshTask := ⟨lguLoad, [lguBoundary]⟩

/-- `build_edge_list_from_database`. -/
def deleteAndRefreshGraphEdgeTable : RefreshTask := ⟨graphEdge, [lguBoundary, tmntV]⟩

/-- `solve_wq_epochs_from_db`, with the land surface loads of
`land_surface_load_to_structural_from_db`. -/
def deleteAndRefreshResultTable : RefreshTask :=
  ⟨resultBlob, [graphEdge, tmntV, met, lguLoadToStructural, lguBoundary]⟩

/-- `source_controls_upstream_load_reduction_db`. -/
def deleteAndRefreshSourceControlsUpstreamLoadReduction : RefreshTask :=
  ⟨tmntSourceControlUpstreamLoadReduced, [lguLoad, lguBoundary, tmntSourceControl]⟩

/-- `load_to_structural_bmps_from_db`. -/
def deleteAndRefreshLguLoadToStructuralTable : RefreshTask :=
  ⟨lguLoadToStructural, [lguLoad, tmntSourceControlUpstreamLoadReduced]⟩

/-- `load_to_downstream_src_ctrls_from_db`. -/
def deleteAndRefreshLoadToDsSrcCtrlTable : RefreshTask := ⟨loadToDsSrcCtrl, [resultBlob]⟩

/-- `source_controls_downstream_load_reduction_db`. -/
def deleteAndRefreshSourceControlsDownstreamLoadReduction : RefreshTask :=
  ⟨tmntSourceControlDownstreamLoadReduced, [loadToDsSrcCtrl, lguBoundary, tmntSourceControl]⟩

/-- `subbasin_loading_summary_result_from_db`. -/
def deleteAndRefreshSubbasinResultTable : RefreshTask :=
  ⟨subbasinResult,
    [loadToDsSrcCtrl, tmntSourceControlDownstreamLoadReduced, lguLoad, lguBoundary]⟩

/-- First the upstream load reduction, then the load to the structural facilities. -/
def deleteAndRefreshUpstreamSrcCtrlTables : List RefreshTask :=
  [deleteAndRefreshSourceControlsUpstreamLoadReduction, deleteAndRefreshLguLoadToStructuralTable]

/-- First the load delivered to the downstream source controls, then the load reduced by them. -/
def deleteAndRefreshDownstreamSrcCtrlTables : List RefreshTask :=
  [deleteAndRefreshLoadToDsSrcCtrlTable, deleteAndRefreshSourceControlsDownstreamLoadReduction]

/-- The whole pipeline of the result tables. -/
def deleteAndRefreshAllResultsTables : List RefreshTask :=
  deleteAndRefreshUpstreamSrcCtrlTables ++ [deleteAndRefreshGraphEdgeTable] ++
    [deleteAndRefreshResultTable] ++ deleteAndRefreshDownstreamSrcCtrlTables ++
    [deleteAndRefreshSubbasinResultTable]

/-- Every task that replaces one table. -/
def refreshTasks : List RefreshTask :=
  [deleteAndRefreshMetTable, deleteAndRefreshTmntFacilityTable,
   deleteAndRefreshTmntFacilityDelineationTable, deleteAndRefreshSubbasinTable,
   updateTmntAttributes, buildDefaultTmntSourceControls, deleteAndRefreshLguBoundaryTable,
   deleteAndRefreshLguLoadTable] ++ deleteAndRefreshAllResultsTables

end RefreshTask

/-- The tables that a task computes from the tables on which `OG` makes them depend. -/
def derivedTables : List Table :=
  (RefreshTask.refreshTasks.map RefreshTask.table).filter fun t => OG.preds t ≠ []

/-- The tables that the refresh of all results replaces, in the order in which it logs them. -/
def resultWrites : List Table :=
  RefreshTask.deleteAndRefreshAllResultsTables.map RefreshTask.table

theorem nodup_resultWrites : resultWrites.Nodup := by decide

theorem subbasinResult_mem_resultWrites : subbasinResult ∈ resultWrites := by decide

/-! ### The order of the pipeline -/

theorem before_resultWrites {u v : Table} (hu : u ∈ resultWrites) (hv : v ∈ resultWrites)
    (huv : TransGen OG.Adj u v) : Before resultWrites u v := by
  have hall : ∀ u ∈ resultWrites, ∀ v ∈ resultWrites, u ∈ ancestors OG v →
      Before resultWrites u v := by decide +kernel
  exact hall u hu v hv (mem_ancestors_OG.2 huv)

/-- What the results depend on outside the pipeline comes from `lguLoad` or has no dependency. -/
theorem lguLoad_of_notMem_resultWrites {u v : Table} (hv : ReflTransGen OG.Adj v subbasinResult)
    (hvw : v ∉ resultWrites) (huv : TransGen OG.Adj u v) :
    u ∉ resultWrites ∧ ReflTransGen OG.Adj v lguLoad := by
  have hall : ∀ v ∈ ancestors OG subbasinResult, v ∉ resultWrites → ∀ u ∈ ancestors OG v,
      u ∉ resultWrites ∧ (lguLoad = v ∨ v ∈ ancestors OG lguLoad) := by decide +kernel
  have hv' : v ∈ ancestors OG subbasinResult := by
    rcases reflTransGen_iff_eq_or_transGen.1 hv with rfl | h
    · exact absurd subbasinResult_mem_resultWrites hvw
    · exact mem_ancestors_OG.2 h
  obtain ⟨hu, hload⟩ := hall v hv' hvw u (mem_ancestors_OG.2 huv)
  exact ⟨hu, reflTransGen_iff_eq_or_transGen.2 (hload.imp_right mem_ancestors_OG.1)⟩

section Refreshed

variable {changelog : List Table}

/-- A complete refresh leaves nothing out of order behind the results. -/
theorem not_outOfOrder_touchAll_resultWrites (hload : ¬ OutOfOrder OG changelog lguLoad) :
    ¬ OutOfOrder OG (touchAll resultWrites changelog) subbasinResult := by
  rintro ⟨u, v, hv, huv, hbefore⟩
  by_cases hvw : v ∈ resultWrites
  · refine hbefore.asymm ?_
    by_cases huw : u ∈ resultWrites
    · exact before_touchAll_of_before nodup_resultWrites (before_resultWrites huw hvw huv)
    · have hul : u ∈ changelog := (mem_touchAll.1 hbefore.2.1).resolve_right huw
      exact before_touchAll_of_mem hul huw hvw
  · obtain ⟨huw, hvl⟩ := lguLoad_of_notMem_resultWrites hv hvw huv
    exact hload ⟨u, v, hvl, huv, (before_touchAll_of_notMem hvw huw).1 hbefore⟩

/-- Stopping the refresh after some of its writes leaves the results older than the first one. -/
theorem outOfOrder_touchAll_take (hres : subbasinResult ∈ changelog) {n : ℕ} (hn : 0 < n)
    (hlt : n < resultWrites.length) :
    OutOfOrder OG (touchAll (resultWrites.take n) changelog) subbasinResult := by
  have hall : ∀ n ∈ List.range resultWrites.length, 0 < n →
      tmntSourceControlUpstreamLoadReduced ∈ resultWrites.take n ∧
        subbasinResult ∉ resultWrites.take n := by decide
  obtain ⟨hfirst, hlast⟩ := hall n (List.mem_range.2 hlt) hn
  refine ⟨tmntSourceControlUpstreamLoadReduced, subbasinResult, .refl, ?_, ?_⟩
  · exact mem_ancestors_OG.1 (by decide +kernel)
  · exact before_touchAll_of_mem hres hlast hfirst

/-- Later updates of other tables put the results out of order exactly when they touch an
ancestor. -/
theorem outOfOrder_touchAll_iff (hclean : ¬ OutOfOrder OG changelog subbasinResult)
    (hres : subbasinResult ∈ changelog) {updates : List Table} (hupd : subbasinResult ∉ updates) :
    OutOfOrder OG (touchAll updates changelog) subbasinResult ↔
      ∃ t ∈ updates, TransGen OG.Adj t subbasinResult := by
  constructor
  · rintro ⟨u, v, hv, huv, hbefore⟩
    by_contra hnone
    push Not at hnone
    have hu : u ∉ updates := fun h => hnone u h (.trans_left huv hv)
    have hv' : v ∉ updates := by
      rcases reflTransGen_iff_eq_or_transGen.1 hv with rfl | h
      · exact hupd
      · exact fun hmem => hnone v hmem h
    exact hclean ⟨u, v, hv, huv, (before_touchAll_of_notMem hv' hu).1 hbefore⟩
  · rintro ⟨t, ht, hpath⟩
    exact ⟨t, subbasinResult, .refl, hpath, before_touchAll_of_mem hres hupd ht⟩

end Refreshed

/-- **Clean, dirty, clean.**  Take a changelog that lists the land surface loads, not dirty, and the
subbasin results.  After a complete refresh the results are not dirty; after a refresh that stops
part-way they are; and after a complete refresh and any later updates of tables other than the seven
it replaces, they are dirty exactly when an updated table is an ancestor of the results, which the
facility costs and the tables outside the graph are not. -/
theorem clean_dirty_clean {changelog : List Table} (hload : lguLoad ∈ changelog)
    (hres : subbasinResult ∈ changelog) (hclean : isDirty OG lguLoad changelog = .ok false) :
    isDirty OG subbasinResult (touchAll resultWrites changelog) = .ok false ∧
    (∀ n, 0 < n → n < resultWrites.length →
      isDirty OG subbasinResult (touchAll (resultWrites.take n) changelog) = .ok true) ∧
    (∀ updates : List Table, (∀ t ∈ updates, t ∉ resultWrites) →
      ∃ b, isDirty OG subbasinResult (touchAll updates (touchAll resultWrites changelog)) = .ok b ∧
        (b = true ↔ ∃ t ∈ updates, TransGen OG.Adj t subbasinResult)) ∧
    ¬ TransGen OG.Adj tmntFacilityCost subbasinResult ∧
    ∀ t, t ∉ OG.nodes → ¬ TransGen OG.Adj t subbasinResult := by
  have hnode : subbasinResult ∈ OG.nodes := by decide +kernel
  have hloadClean := (isDirty_eq_false_iff acyclic_OG hload (by decide +kernel)).1 hclean
  have hdone : subbasinResult ∈ touchAll resultWrites changelog := mem_touchAll.2 (.inl hres)
  have hrefreshed := not_outOfOrder_touchAll_resultWrites hloadClean
  refine ⟨?_, fun n hn hlt => ?_, fun updates hupd => ?_, ?_, fun t ht h => ?_⟩
  · exact (isDirty_eq_false_iff acyclic_OG hdone hnode).2 hrefreshed
  · exact (isDirty_eq_true_iff acyclic_OG (mem_touchAll.2 (.inl hres)) hnode).2
      (outOfOrder_touchAll_take hres hn hlt)
  · have hupd' : subbasinResult ∉ updates :=
      fun h => hupd _ h subbasinResult_mem_resultWrites
    obtain ⟨b, hb, hdirty⟩ := isDirty_spec acyclic_OG
      (mem_touchAll.2 (.inl hdone) : subbasinResult ∈ touchAll updates _) hnode
    exact ⟨b, hb, hdirty.trans (outOfOrder_touchAll_iff hrefreshed hdone hupd')⟩
  · exact fun h => absurd (mem_ancestors_OG.2 h) (by decide +kernel)
  · exact ht (DiGraph.transGen_left_mem h)

/-- A database in which the loads and the results are the only logged tables. -/
theorem clean_dirty_clean_of_two :
    isDirty OG subbasinResult (touchAll resultWrites [subbasinResult, lguLoad]) = .ok false ∧
    (∀ n, 0 < n → n < resultWrites.length →
      isDirty OG subbasinResult (touchAll (resultWrites.take n) [subbasinResult, lguLoad]) =
        .ok true) ∧
    (∀ updates : List Table, (∀ t ∈ updates, t ∉ resultWrites) →
      ∃ b, isDirty OG subbasinResult
          (touchAll updates (touchAll resultWrites [subbasinResult, lguLoad])) = .ok b ∧
        (b = true ↔ ∃ t ∈ updates, TransGen OG.Adj t subbasinResult)) ∧
    ¬ TransGen OG.Adj tmntFacilityCost subbasinResult ∧
    ∀ t, t ∉ OG.nodes → ¬ TransGen OG.Adj t subbasinResult :=
  clean_dirty_clean (by decide) (by decide) (by decide +kernel)

end StormPiper
