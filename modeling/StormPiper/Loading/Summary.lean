import StormPiper.Loading.Prepared
import StormPiper.SourceControl.Balance
import StormPiper.Arithmetic.Extended
import Mathlib.Data.Rat.Floor

/-!
# The summary of the subbasins

`subbasin_loading_summary_result_from_db` compares, for each subbasin and epoch, what its land
generates with what leaves it after the structural treatment and the downstream source controls.
What is generated comes from `lgu_load`, what leaves from `load_to_ds_src_ctrl` and the report of
the downstream controls, tables that are made by different tasks.

* `SubbasinTables.summary_balance` : the columns of the summary add up, subbasin by subbasin and
  over the watershed.
-/

namespace StormPiper

open StormPiper.Frame

/-! ### The two sides -/

/-- The loads of the nodes that have a subbasin, under its name. -/
def inSubbasins (lguLoad : List TidyLoad) (lguBoundary : List LguBoundary) : List TidyLoad :=
  (mergeLeft TidyLoad.nodeId LguBoundary.nodeId lguLoad lguBoundary).filterMap fun x =>
    (x.2.bind (·.subbasin)).map fun subbasin => { x.1 with nodeId := subbasin }

/-- The columns by which the loads are grouped. -/
def TidyLoad.cell (r : TidyLoad) : (String ×ₗ String) × (String ×ₗ String) := (r.index, r.label)

/-- The loads of the subbasins: the sums over their nodes. -/
def subbasinLoadGenerated (lguLoad : List TidyLoad) (lguBoundary : List LguBoundary) :
    List TidyLoad :=
  (groupbySum TidyLoad.cell TidyLoad.value (inSubbasins lguLoad lguBoundary)).map fun g =>
    { nodeId := (ofLex g.1.1).1
      epoch := (ofLex g.1.1).2
      variableName := (ofLex g.1.2).1
      value := g.2
      units := (ofLex g.1.2).2 }

/-- The names of the generated columns. -/
def generatedName (column : String) : String :=
  replace (replace column "_lbs" "_load_lbs_generated") "_cuft" "_volume_cuft_generated"

/-- `subbasin_load_generated_summary` -/
def subbasinLoadGeneratedSummary (lguLoad : List TidyLoad) (lguBoundary : List LguBoundary) :
    Except PyError WideLoad := do
  let wide ← prep00LoadingTidyToWide (subbasinLoadGenerated lguLoad lguBoundary)
  return wide.rename generatedName

/-- The name of the subbasin of a node. -/
def subbasinName (nodeId : String) : String := replace nodeId "SB_" ""

/-- What leaves the nodes of the subbasins, after the downstream source controls. -/
def subbasinLoadingSummaryResult (load : List TidyLoad) (loadReduced : LoadReduced) :
    Except PyError WideLoad := do
  let wide ← prep00LoadingTidyToWide (← TidyLoad.applyTidyLoadReduction load loadReduced)
  return wide.rename loadingName

/-! ### The comparison -/

/-- The columns of a row of the summary that are not numbers. -/
structure SubbasinIndex where
  nodeId : String
  epoch : String
  subbasin : String
  deriving Repr, DecidableEq

/-- A frame with a row for each subbasin and epoch. -/
abbrev SubbasinFrame : Type := Wide SubbasinIndex String (Extended ℚ)

/-- A cell of a wide table, where missing figures are NaN. -/
def toCell : Option ℚ → Extended ℚ
  | some x => .finite x
  | none => .nan

/-- The node and epoch of a row, with the subbasin in the place of the node. -/
def subbasinKey (i : String ×ₗ String) : String ×ₗ String :=
  toLex (subbasinName (ofLex i).1, (ofLex i).2)

/-- The index of a node and an epoch. -/
def subbasinIndex (i : String ×ₗ String) : SubbasinIndex where
  nodeId := (ofLex i).1
  epoch := (ofLex i).2
  subbasin := subbasinName (ofLex i).1

/-- What leaves a subbasin, joined with what it generates. -/
def joinGenerated (discharged generated : WideLoad) : SubbasinFrame where
  columns := discharged.columns ++ generated.columns
  rows := (mergeLeft (fun r => subbasinKey r.1) Prod.fst discharged.rows
    generated.rows).map fun x => (subbasinIndex x.1.1, fun c =>
      if c ∈ discharged.columns then toCell (x.1.2 c) else toCell (x.2.bind fun g => g.2 c))

/-- The columns of volumes and those of loads. -/
def summaryCols (columns : List String) : List String :=
  columns.filter (endswith · "_volume_cuft") ++ columns.filter (endswith · "_load_lbs")

/-- The name of the column of what is reduced. -/
def reducedName (c : String) : String :=
  replace (replace c "_volume_cuft" "_volume_cuft_reduced") "_load_lbs" "_load_lbs_reduced"

/-- The name of the column of the percentage that is reduced. -/
def pctReducedName (c : String) : String :=
  replace (replace c "_volume_cuft" "_volume_pct_reduced") "_load_lbs" "_load_pct_reduced"

/-- `df[col + "_generated"] - df[col]`. -/
def reducedCell (c : String) (row : String → Extended ℚ) : Extended ℚ :=
  (row (c ++ "_generated")).add ((Extended.finite (-1)).mul (row c))

/-- `(100 * (df[col + "_reduced"] / df[col + "_generated"])).round(2)`. -/
def pctReducedCell (c : String) (row : String → Extended ℚ) : Extended ℚ :=
  ((Extended.finite 100).mul ((row (c ++ "_reduced")).mul (row (c ++ "_generated")).inv)).mapFinite
    roundCents

/-- `subbasin_load_reduced_summary` -/
def subbasinLoadReducedSummary (subbasinResult : SubbasinFrame) : Except PyError SubbasinFrame :=
  let cols := summaryCols subbasinResult.columns
  let df := do
    let reduced ← subbasinResult.assignAll reducedName (fun c => [c ++ "_generated", c])
      reducedCell cols
    reduced.assignAll pctReducedName (fun c => [c ++ "_reduced", c ++ "_generated"])
      pctReducedCell cols
  match df with
  | some df => .ok df
  | none => .error .keyError

/-- `subbasin_loading_summary_result_from_db` -/
def subbasinLoadingSummaryResultFromDb (loadToDsSrcCtrl : List TidyLoad) (loadReduced : LoadReduced)
    (lguLoad : List TidyLoad) (lguBoundary : List LguBoundary) : Except PyError SubbasinFrame := do
  let discharged ← subbasinLoadingSummaryResult loadToDsSrcCtrl loadReduced
  let generated ← subbasinLoadGeneratedSummary lguLoad lguBoundary
  subbasinLoadReducedSummary (joinGenerated discharged generated)

/-! ### The names of the columns -/

/-- The name of the column of what is generated. -/
def generatedOf (l : String ×ₗ String) : String := generatedName (labelName l)

theorem names_generatedOf : SystemLoads.Names generatedOf := by
  have hall : ∀ l ∈ systemLabels, ∀ l' ∈ systemLabels,
      generatedOf (toLex l') = generatedOf (toLex l) → l' = l := by decide +kernel
  exact hall

/-- What the names of the columns of a pollutant are, and that they are the columns of no other. -/
structure ColumnNames (l : String ×ₗ String) : Prop where
  generated : columnOf l ++ "_generated" = generatedOf l
  reduced : reducedName (columnOf l) = columnOf l ++ "_reduced"
  summed : endswith (columnOf l) "_volume_cuft" ≠ endswith (columnOf l) "_load_lbs"
  notSummed : endswith (generatedOf l) "_volume_cuft" = false ∧
    endswith (generatedOf l) "_load_lbs" = false
  apart : ∀ l', ofLex l' ∈ systemLabels → columnOf l ≠ generatedOf l' ∧
    reducedName (columnOf l) ≠ columnOf l' ∧ reducedName (columnOf l) ≠ generatedOf l' ∧
    pctReducedName (columnOf l) ≠ columnOf l' ∧ pctReducedName (columnOf l) ≠ generatedOf l' ∧
    pctReducedName (columnOf l) ≠ reducedName (columnOf l')
  injective : ∀ l', ofLex l' ∈ systemLabels →
    (reducedName (columnOf l) = reducedName (columnOf l') → l = l') ∧
    (pctReducedName (columnOf l) = pctReducedName (columnOf l') → l = l')

theorem columnNames {l : String ×ₗ String} (hl : ofLex l ∈ systemLabels) : ColumnNames l := by
  have hown : ∀ l ∈ systemLabels, columnOf (toLex l) ++ "_generated" = generatedOf (toLex l) ∧
      reducedName (columnOf (toLex l)) = columnOf (toLex l) ++ "_reduced" ∧
      endswith (columnOf (toLex l)) "_volume_cuft" ≠ endswith (columnOf (toLex l)) "_load_lbs" ∧
      endswith (generatedOf (toLex l)) "_volume_cuft" = false ∧
      endswith (generatedOf (toLex l)) "_load_lbs" = false := by decide +kernel
  have hapart : ∀ l ∈ systemLabels, ∀ l' ∈ systemLabels,
      columnOf (toLex l) ≠ generatedOf (toLex l') ∧
      reducedName (columnOf (toLex l)) ≠ columnOf (toLex l') ∧
      reducedName (columnOf (toLex l)) ≠ generatedOf (toLex l') ∧
      pctReducedName (columnOf (toLex l)) ≠ columnOf (toLex l') ∧
      pctReducedName (columnOf (toLex l)) ≠ generatedOf (toLex l') ∧
      pctReducedName (columnOf (toLex l)) ≠ reducedName (columnOf (toLex l')) := by decide +kernel
  have hinj : ∀ l ∈ systemLabels, ∀ l' ∈ systemLabels,
      (reducedName (columnOf (toLex l)) = reducedName (columnOf (toLex l')) → l = l') ∧
      (pctReducedName (columnOf (toLex l)) = pctReducedName (columnOf (toLex l')) → l = l') := by
    decide +kernel
  obtain ⟨hgenerated, hreduced, hsummed, hnot⟩ := hown _ hl
  refine ⟨hgenerated, hreduced, hsummed, hnot, fun l' hl' => hapart _ hl _ hl', fun l' hl' => ?_⟩
  exact ⟨fun h => ofLex.injective ((hinj _ hl _ hl').1 h),
    fun h => ofLex.injective ((hinj _ hl _ hl').2 h)⟩

/-! ### What a subbasin generates -/

section Generated

variable {lguLoad : List TidyLoad}

/-- With one row for each node, a load is there once, under the subbasin of its node. -/
theorem inSubbasins_eq (lguLoad : List TidyLoad) (lgu : BoundaryTable) :
    inSubbasins lguLoad lgu.rows = lguLoad.filterMap fun r =>
      (lgu.subbasinOf r.nodeId).map fun subbasin => { r with nodeId := subbasin } := by
  have hpartner : ∀ n, partners LguBoundary.nodeId lgu.rows n =
      [lgu.rows.find? fun l => l.nodeId = n] := fun n =>
    partners_eq_find LguBoundary.nodeId (length_filter_key_le_one _ lgu.nodeId_nodup n)
  rw [inSubbasins, mergeLeft]
  simp only [hpartner, List.map_cons, List.map_nil]
  rw [← List.map_eq_flatMap, List.filterMap_map]
  rfl

/-- The rows are the sums of the loads with the same columns. -/
theorem mem_subbasinLoadGenerated {lgu : List LguBoundary} {g : TidyLoad} :
    g ∈ subbasinLoadGenerated lguLoad lgu ↔ ∃ r ∈ inSubbasins lguLoad lgu, g =
      { r with value := (((inSubbasins lguLoad lgu).filter fun r' => r'.cell = r.cell).map
          TidyLoad.value).sum } := by
  simp only [subbasinLoadGenerated, groupbySum, List.mem_map, List.mem_dedup]
  constructor
  · rintro ⟨-, ⟨-, ⟨r, hr, rfl⟩, rfl⟩, rfl⟩
    exact ⟨r, hr, rfl⟩
  · rintro ⟨r, hr, rfl⟩
    exact ⟨_, ⟨_, ⟨r, hr, rfl⟩, rfl⟩, rfl⟩

/-- What the nodes of a subbasin generate of a pollutant in an epoch. -/
def generatedIn (lguLoad : List TidyLoad) (lgu : BoundaryTable) (i : String ×ₗ String)
    (l : String ×ₗ String) : ℚ :=
  ((lguLoad.filter fun r =>
    lgu.subbasinOf r.nodeId = some (ofLex i).1 ∧ r.epoch = (ofLex i).2 ∧ r.label = l).map
      TidyLoad.value).sum

/-- Sums over the loads in subbasins are sums over `lgu_load`. -/
theorem sum_inSubbasins (lguLoad : List TidyLoad) (lgu : BoundaryTable) (p : TidyLoad → Prop)
    [DecidablePred p] : (((inSubbasins lguLoad lgu.rows).filter (p ·)).map TidyLoad.value).sum =
      ((lguLoad.filter fun r =>
        (lgu.subbasinOf r.nodeId).any fun s => p { r with nodeId := s }).map
          TidyLoad.value).sum := by
  rw [inSubbasins_eq]
  induction lguLoad with
  | nil => rfl
  | cons r lguLoad ih =>
    cases hs : lgu.subbasinOf r.nodeId with
    | none => simpa [hs] using ih
    | some s =>
      by_cases hp : p { r with nodeId := s }
      · simpa [hs, hp] using ih
      · simpa [hs, hp] using ih

theorem sum_inSubbasins_cell (lguLoad : List TidyLoad) (lgu : BoundaryTable)
    (i l : String ×ₗ String) :
    (((inSubbasins lguLoad lgu.rows).filter fun r => r.cell = (i, l)).map TidyLoad.value).sum =
      generatedIn lguLoad lgu i l := by
  rw [sum_inSubbasins lguLoad lgu fun r => r.cell = (i, l), generatedIn]
  refine congrArg List.sum (congrArg _ (List.filter_congr fun r _ => ?_))
  rw [Bool.eq_iff_iff, Option.any_eq_true, decide_eq_true_iff]
  simp only [decide_eq_true_iff, TidyLoad.cell, TidyLoad.index, Prod.mk.injEq]
  constructor
  · rintro ⟨s, hs, rfl, rfl⟩
    exact ⟨hs, rfl, rfl⟩
  · rintro ⟨hs, hepoch, rfl⟩
    exact ⟨_, hs, congrArg toLex (Prod.ext rfl hepoch), rfl⟩

end Generated

theorem unit_unique {l l' : String × String} (hl : l ∈ systemLabels) (hl' : l' ∈ systemLabels)
    (h : l.1 = l'.1) : l = l' := by
  have hall : ∀ l ∈ systemLabels, ∀ l' ∈ systemLabels, l.1 = l'.1 → l = l' := by decide
  exact hall l hl l' hl' h

/-- The loads of the subbasins. -/
def SystemLoads.generated (lguLoad : SystemLoads) (lgu : BoundaryTable) : SystemLoads where
  rows := subbasinLoadGenerated lguLoad.rows lgu.rows
  label_mem := by
    intro g hg
    obtain ⟨r, hr, rfl⟩ := mem_subbasinLoadGenerated.1 hg
    rw [inSubbasins_eq] at hr
    obtain ⟨r', hr', hsome⟩ := List.mem_filterMap.1 hr
    obtain ⟨s, -, rfl⟩ := Option.map_eq_some_iff.1 hsome
    exact lguLoad.label_mem r' hr'
  key_nodup := by
    have hlabel : ∀ k ∈ ((inSubbasins lguLoad.rows lgu.rows).map TidyLoad.cell).dedup,
        ofLex k.2 ∈ systemLabels := by
      intro k hk
      obtain ⟨r, hr, rfl⟩ := List.mem_map.1 (List.mem_dedup.1 hk)
      rw [inSubbasins_eq] at hr
      obtain ⟨r', hr', hsome⟩ := List.mem_filterMap.1 hr
      obtain ⟨s, -, rfl⟩ := Option.map_eq_some_iff.1 hsome
      exact lguLoad.label_mem r' hr'
    rw [subbasinLoadGenerated, groupbySum, List.map_map, List.map_map]
    refine (List.nodup_dedup _).map_on fun k hk k' hk' heq => ?_
    simp only [Function.comp_apply, TidyLoad.key, Prod.mk.injEq] at heq
    obtain ⟨hnode, hepoch, hvar⟩ := heq
    exact Prod.ext (ofLex.injective (Prod.ext hnode hepoch))
      (ofLex.injective (unit_unique (hlabel k hk) (hlabel k' hk') hvar))

/-- What the wide table of the subbasins has for a subbasin with loads. -/
theorem SystemLoads.cell_generated (lguLoad : SystemLoads) (lgu : BoundaryTable) {g : TidyLoad}
    (hg : g ∈ lguLoad.rows) {s : String} (hs : lgu.subbasinOf g.nodeId = some s) :
    Frame.cell TidyLoad.index TidyLoad.label TidyLoad.value (lguLoad.generated lgu).rows
        (toLex (s, g.epoch)) g.label =
      some (generatedIn lguLoad.rows lgu (toLex (s, g.epoch)) g.label) := by
  have hmem : { g with nodeId := s } ∈ inSubbasins lguLoad.rows lgu.rows := by
    rw [inSubbasins_eq]
    exact List.mem_filterMap.2 ⟨g, hg, by rw [hs]; rfl⟩
  have hrow := mem_subbasinLoadGenerated.2 ⟨_, hmem, rfl⟩
  rw [← sum_inSubbasins_cell]
  exact cell_eq_some (lguLoad.generated lgu).nodup_cells hrow

/-! ### The columns of the summary -/

section Columns

variable {sd sg : SystemLoads} {discharged generated : WideLoad}

/-- The cells of a row with those of its subbasin. -/
def joinedRow (discharged generated : WideLoad) (r : (String ×ₗ String) × (String → Option ℚ))
    (c : String) : Extended ℚ :=
  if c ∈ discharged.columns then toCell (r.2 c)
  else toCell ((generated.rows.find? fun g => g.1 = subbasinKey r.1).bind fun g => g.2 c)

theorem rows_joinGenerated (hnd : (generated.rows.map Prod.fst).Nodup) :
    (joinGenerated discharged generated).rows =
      discharged.rows.map fun r => (subbasinIndex r.1, joinedRow discharged generated r) := by
  have hpartner : ∀ k, partners Prod.fst generated.rows k =
      [generated.rows.find? fun g => g.1 = k] := fun k =>
    partners_eq_find Prod.fst (length_filter_key_le_one _ hnd k)
  rw [joinGenerated, mergeLeft]
  simp only [hpartner, List.map_cons, List.map_nil]
  rw [← List.map_eq_flatMap, List.map_map]
  rfl

/-- The columns that are summed up are those of the loads that leave the subbasins. -/
theorem mem_summaryCols (hd : sd.IsWide columnOf discharged) (hg : sg.IsWide generatedOf generated)
    {c : String} : c ∈ summaryCols (joinGenerated discharged generated).columns ↔
      ∃ r ∈ sd.rows, columnOf r.label = c := by
  rw [← hd.mem_columns, summaryCols, joinGenerated, List.mem_append, List.mem_filter,
    List.mem_filter, ← and_or_left, List.mem_append]
  constructor
  · rintro ⟨hc | hc, hends⟩
    · exact hc
    · obtain ⟨r, hr, rfl⟩ := (hg.mem_columns c).1 hc
      obtain ⟨hvol, hlbs⟩ := (columnNames (sg.label_mem r hr)).notSummed
      exact absurd hends (by simpa using ⟨hvol, hlbs⟩)
  · intro hc
    obtain ⟨r, hr, rfl⟩ := (hd.mem_columns c).1 hc
    have hsummed := (columnNames (sd.label_mem r hr)).summed
    refine ⟨.inl hc, ?_⟩
    cases h : endswith (columnOf r.label) "_volume_cuft"
    · exact .inr (by simpa [h] using hsummed)
    · exact .inl rfl

theorem nodup_summaryCols (hd : sd.IsWide columnOf discharged)
    (hg : sg.IsWide generatedOf generated) :
    (summaryCols (joinGenerated discharged generated).columns).Nodup := by
  have hnd : (joinGenerated discharged generated).columns.Nodup := by
    rw [joinGenerated, List.nodup_append']
    refine ⟨hd.nodup_columns, hg.nodup_columns, fun c hc hc' => ?_⟩
    obtain ⟨r, hr, rfl⟩ := (hd.mem_columns c).1 hc
    obtain ⟨r', hr', heq⟩ := (hg.mem_columns _).1 hc'
    exact ((columnNames (sd.label_mem r hr)).apart _ (sg.label_mem r' hr')).1 heq.symm
  rw [summaryCols, List.nodup_append']
  refine ⟨hnd.filter _, hnd.filter _, fun c hc hc' => ?_⟩
  have hcol := (mem_summaryCols hd hg).1 (List.mem_append_left _ hc)
  obtain ⟨r, hr, rfl⟩ := hcol
  refine (columnNames (sd.label_mem r hr)).summed ?_
  exact (List.mem_filter.1 hc).2.trans (List.mem_filter.1 hc').2.symm

/-- A row of the summary. -/
def summaryRow (cols : List String) (row : String → Extended ℚ) : String → Extended ℚ :=
  assignEach pctReducedName pctReducedCell (assignEach reducedName reducedCell row cols) cols

/-- What the summary has for a pollutant. -/
structure SummaryCells (joined row : String → Extended ℚ) (l : String ×ₗ String) : Prop where
  discharged : row (columnOf l) = joined (columnOf l)
  generated : row (generatedOf l) = joined (generatedOf l)
  reduced : row (columnOf l ++ "_reduced") = reducedCell (columnOf l) joined
  pctReduced : row (pctReducedName (columnOf l)) =
    ((Extended.finite 100).mul ((reducedCell (columnOf l) joined).mul
      (joined (generatedOf l)).inv)).mapFinite roundCents

section Assigned

variable {cols : List String} (hcols : ∀ c, c ∈ cols ↔ ∃ r ∈ sd.rows, columnOf r.label = c)

include hcols

/-- The columns that the reduced ones are computed from are not among them. -/
theorem notMem_reducedNames {c : String} (hc : c ∈ cols) {k : String}
    (hk : k ∈ [c ++ "_generated", c]) : k ∉ cols.map reducedName := by
  intro hassigned
  obtain ⟨r, hr, rfl⟩ := (hcols c).1 hc
  obtain ⟨c', hc', rfl⟩ := List.mem_map.1 hassigned
  obtain ⟨r', hr', rfl⟩ := (hcols c').1 hc'
  have hapart := (columnNames (sd.label_mem r' hr')).apart _ (sd.label_mem r hr)
  simp only [List.mem_cons, List.not_mem_nil, or_false] at hk
  rcases hk with hk | hk
  · exact hapart.2.2.1 (hk.trans (columnNames (sd.label_mem r hr)).generated)
  · exact hapart.2.1 hk

theorem notMem_pctReducedNames {c : String} (hc : c ∈ cols) {k : String}
    (hk : k ∈ [c ++ "_reduced", c ++ "_generated", c]) : k ∉ cols.map pctReducedName := by
  intro hassigned
  obtain ⟨r, hr, rfl⟩ := (hcols c).1 hc
  obtain ⟨c', hc', rfl⟩ := List.mem_map.1 hassigned
  obtain ⟨r', hr', rfl⟩ := (hcols c').1 hc'
  obtain ⟨-, -, -, hcol, hgen, hred⟩ :=
    (columnNames (sd.label_mem r' hr')).apart _ (sd.label_mem r hr)
  simp only [List.mem_cons, List.not_mem_nil, or_false] at hk
  rcases hk with hk | hk | hk
  · exact hred (hk.trans (columnNames (sd.label_mem r hr)).reduced.symm)
  · exact hgen (hk.trans (columnNames (sd.label_mem r hr)).generated)
  · exact hcol hk

theorem nodup_assignedNames (hnd : cols.Nodup) :
    (cols.map reducedName).Nodup ∧ (cols.map pctReducedName).Nodup := by
  constructor <;> refine hnd.map_on fun c hc c' hc' heq => ?_
  all_goals
    obtain ⟨r, hr, rfl⟩ := (hcols c).1 hc
    obtain ⟨r', hr', rfl⟩ := (hcols c').1 hc'
  · exact congrArg _ (((columnNames (sd.label_mem r hr)).injective _ (sd.label_mem r' hr')).1 heq)
  · exact congrArg _ (((columnNames (sd.label_mem r hr)).injective _ (sd.label_mem r' hr')).2 heq)

theorem summaryCells_summaryRow (hnd : cols.Nodup) (row : String → Extended ℚ) {r : TidyLoad}
    (hr : r ∈ sd.rows) : SummaryCells row (summaryRow cols row) r.label := by
  have hc : columnOf r.label ∈ cols := (hcols _).2 ⟨r, hr, rfl⟩
  have hnames := columnNames (sd.label_mem r hr)
  obtain ⟨hndReduced, hndPct⟩ := nodup_assignedNames hcols hnd
  have hkeep {k : String} (hk : k ∈ [columnOf r.label ++ "_generated", columnOf r.label]) :
      assignEach reducedName reducedCell row cols k = row k :=
    assignEach_of_notMem _ _ (notMem_reducedNames hcols hc hk) row
  have hkeepPct {k : String} (hk : k ∈ [columnOf r.label ++ "_reduced",
      columnOf r.label ++ "_generated", columnOf r.label]) :
      summaryRow cols row k = assignEach reducedName reducedCell row cols k :=
    assignEach_of_notMem _ _ (notMem_pctReducedNames hcols hc hk) _
  have hreduced : assignEach reducedName reducedCell row cols (columnOf r.label ++ "_reduced") =
      reducedCell (columnOf r.label) row := by
    rw [← hnames.reduced]
    refine assignEach_name _ _ (fun c => [c ++ "_generated", c]) hndReduced
      (fun c hc k hk => notMem_reducedNames hcols hc hk) (fun c f f' h => ?_) hc row
    rw [reducedCell, reducedCell, h (c ++ "_generated") (by simp), h c (by simp)]
  have hpct : summaryRow cols row (pctReducedName (columnOf r.label)) =
      pctReducedCell (columnOf r.label) (assignEach reducedName reducedCell row cols) := by
    refine assignEach_name _ _ (fun c => [c ++ "_reduced", c ++ "_generated"]) hndPct
      (fun c hc k hk => notMem_pctReducedNames hcols hc (List.mem_append_left [c] hk))
      (fun c f f' h => ?_) hc _
    rw [pctReducedCell, pctReducedCell, h (c ++ "_reduced") (by simp),
      h (c ++ "_generated") (by simp)]
  constructor
  · rw [hkeepPct (by simp), hkeep (by simp)]
  · rw [← hnames.generated, hkeepPct (by simp), hkeep (by simp)]
  · rw [hkeepPct (by simp), hreduced]
  · rw [hpct, pctReducedCell, hreduced, hkeep (by simp), hnames.generated]

end Assigned

/-- **The summary is made** if every pollutant that leaves a subbasin is one that is generated. -/
theorem subbasinLoadReducedSummary_spec (hd : sd.IsWide columnOf discharged)
    (hg : sg.IsWide generatedOf generated)
    (hlabels : ∀ r ∈ sd.rows, ∃ g ∈ sg.rows, g.label = r.label) :
    ∃ (df : SubbasinFrame) (row : (String → Extended ℚ) → String → Extended ℚ),
      subbasinLoadReducedSummary (joinGenerated discharged generated) = .ok df ∧
      df.rows = (joinGenerated discharged generated).rows.map (fun r => (r.1, row r.2)) ∧
      ∀ joined, ∀ r ∈ sd.rows, SummaryCells joined (row joined) r.label := by
  set joined := joinGenerated discharged generated with hjoined
  set cols := summaryCols joined.columns with hcols
  have hmem : ∀ c, c ∈ cols ↔ ∃ r ∈ sd.rows, columnOf r.label = c := fun _ =>
    mem_summaryCols hd hg
  have hread : ∀ c ∈ cols, ∀ k ∈ [c ++ "_generated", c], k ∈ joined.columns := by
    intro c hc k hk
    obtain ⟨r, hr, rfl⟩ := (hmem c).1 hc
    simp only [List.mem_cons, List.not_mem_nil, or_false] at hk
    rcases hk with rfl | rfl
    · obtain ⟨g, hgmem, hlabel⟩ := hlabels r hr
      refine List.mem_append_right _ ((hg.mem_columns _).2 ⟨g, hgmem, ?_⟩)
      rw [hlabel]
      exact (columnNames (sd.label_mem r hr)).generated.symm
    · exact List.mem_append_left _ ((hd.mem_columns _).2 ⟨r, hr, rfl⟩)
  obtain ⟨reduced, hreduced, hreducedCols, hreducedRows⟩ :=
    exists_assignAll reducedName reducedCell hread
  have hread' : ∀ c ∈ cols, ∀ k ∈ [c ++ "_reduced", c ++ "_generated"], k ∈ reduced.columns := by
    intro c hc k hk
    simp only [List.mem_cons, List.not_mem_nil, or_false] at hk
    rw [hreducedCols]
    rcases hk with rfl | rfl
    · obtain ⟨r, hr, rfl⟩ := (hmem c).1 hc
      exact .inr (List.mem_map.2 ⟨_, hc, (columnNames (sd.label_mem r hr)).reduced⟩)
    · exact .inl (hread c hc _ (List.mem_cons_self ..))
  obtain ⟨df, hdf, -, hdfRows⟩ := exists_assignAll pctReducedName pctReducedCell hread'
  refine ⟨df, summaryRow cols, ?_, ?_, fun row r hr => ?_⟩
  · simp only [subbasinLoadReducedSummary, ← hcols, hreduced, Option.bind_eq_bind,
      Option.bind_some, hdf]
  · rw [hdfRows, hreducedRows, List.map_map]
    rfl
  · exact summaryCells_summaryRow hmem (nodup_summaryCols hd hg) row hr

end Columns

/-! ### The balance -/

/-- The tables that the summary is made from: a node `SB_s` for each subbasin, with a load of each
pollutant, each of which is generated in `s`. -/
structure SubbasinTables where
  lguLoad : SystemLoads
  lgu : BoundaryTable
  load : SystemLoads
  named : ∀ r ∈ load.rows, ∃ s, r.nodeId = "SB_" ++ s ∧ isIn "SB_" s = false
  filled : ∀ r ∈ load.rows, ∀ r' ∈ load.rows,
    ∃ r'' ∈ load.rows, r''.index = r.index ∧ r''.label = r'.label
  known : ∀ r ∈ load.rows, ∃ g ∈ lguLoad.rows,
    lgu.subbasinOf g.nodeId = some (subbasinName r.nodeId) ∧ g.epoch = r.epoch ∧ g.label = r.label

namespace SubbasinTables

variable (t : SubbasinTables) (rows : List LoadReducedRow)

/-- What leaves the subbasins. -/
def discharged : SystemLoads where
  rows := t.load.rows.map fun r => { r with value := r.value - reducedOf rows r.key }
  key_nodup := by
    rw [List.map_map]
    exact t.load.key_nodup
  label_mem := by
    intro r hr
    obtain ⟨r', hr', rfl⟩ := List.mem_map.1 hr
    exact t.load.label_mem r' hr'

/-- The key of a pollutant at a node in an epoch. -/
def keyOf (i l : String ×ₗ String) : String × String × String :=
  ((ofLex i).1, (ofLex i).2, (ofLex l).1)

/-- What leaves a node of a pollutant in an epoch. -/
def dischargedFrom (i l : String ×ₗ String) : ℚ :=
  loadOf t.load.rows (keyOf i l) - reducedOf rows (keyOf i l)

/-- What its subbasin generates. -/
def generatedFor (i l : String ×ₗ String) : ℚ :=
  generatedIn t.lguLoad.rows t.lgu (subbasinKey i) l

variable {t rows}

theorem cell_discharged {r : TidyLoad} (hr : r ∈ t.load.rows) :
    Frame.cell TidyLoad.index TidyLoad.label TidyLoad.value (t.discharged rows).rows
      r.index r.label = some (t.dischargedFrom rows r.index r.label) := by
  have hmem : { r with value := r.value - reducedOf rows r.key } ∈ (t.discharged rows).rows :=
    List.mem_map_of_mem hr
  have hload : loadOf t.load.rows r.key = r.value := by
    rw [loadOf, filter_key_eq_singleton TidyLoad.key t.load.key_nodup hr]
    simp
  have hfrom : t.dischargedFrom rows r.index r.label = r.value - reducedOf rows r.key :=
    congrArg (· - reducedOf rows r.key) hload
  rw [hfrom]
  exact cell_eq_some (t.discharged rows).nodup_cells hmem

theorem cell_generated {r : TidyLoad} (hr : r ∈ t.load.rows) :
    Frame.cell TidyLoad.index TidyLoad.label TidyLoad.value (t.lguLoad.generated t.lgu).rows
      (subbasinKey r.index) r.label = some (t.generatedFor r.index r.label) := by
  obtain ⟨g, hg, hsubbasin, hepoch, hlabel⟩ := t.known r hr
  have hkey : toLex (subbasinName r.nodeId, g.epoch) = subbasinKey r.index := by
    rw [hepoch]
    rfl
  have h := t.lguLoad.cell_generated t.lgu hg hsubbasin
  rwa [hkey, hlabel] at h

/-- Different nodes are of different subbasins. -/
theorem subbasinKey_injOn {r r' : TidyLoad} (hr : r ∈ t.load.rows) (hr' : r' ∈ t.load.rows)
    (h : subbasinKey r.index = subbasinKey r'.index) : r.index = r'.index := by
  have hname {r : TidyLoad} (hr : r ∈ t.load.rows) : r.nodeId = "SB_" ++ subbasinName r.nodeId := by
    obtain ⟨s, hs, hin⟩ := t.named r hr
    rw [hs, subbasinName, replace_prefix (by decide) hin]
    rfl
  have hpair := congrArg ofLex h
  simp only [subbasinKey, TidyLoad.index, ofLex_toLex, Prod.mk.injEq] at hpair
  have hnode : r.nodeId = r'.nodeId := by rw [hname hr, hname hr', hpair.1]
  exact congrArg toLex (Prod.ext hnode hpair.2)

/-! #### Sums over the watershed -/

variable (t rows)

/-- The load of a pollutant over all nodes. -/
def loadTotal (l : String ×ₗ String) : ℚ :=
  ((t.load.rows.filter fun r => r.label = l).map TidyLoad.value).sum

/-- What the report says was removed of a pollutant. -/
def reducedTotal (l : String ×ₗ String) : ℚ :=
  ((rows.filter fun x => x.key.2.2 = (ofLex l).1).map (·.loadReduced)).sum

/-- What is generated of a pollutant in the subbasins and epochs of the loads. -/
def generatedTotal (l : String ×ₗ String) : ℚ :=
  ((t.lguLoad.rows.filter fun g => g.label = l ∧ ∃ r ∈ t.load.rows,
    t.lgu.subbasinOf g.nodeId = some (subbasinName r.nodeId) ∧ g.epoch = r.epoch).map
      TidyLoad.value).sum

variable {t rows}

theorem sum_dischargedFrom (hreport : ∀ x ∈ rows, ∃ r ∈ t.load.rows, x.key = r.key) {r : TidyLoad}
    (hr : r ∈ t.load.rows) :
    ((sortedUnique TidyLoad.index t.load.rows).map fun i => t.dischargedFrom rows i r.label).sum =
      t.loadTotal r.label - reducedTotal rows r.label := by
  have hloads : ((sortedUnique TidyLoad.index t.load.rows).map fun i =>
      loadOf t.load.rows (keyOf i r.label)).sum = t.loadTotal r.label := by
    rw [loadTotal, ← sum_cell t.load.nodup_cells]
    refine congrArg List.sum (List.map_congr_left fun i hi => ?_)
    obtain ⟨r', hr', rfl⟩ := mem_sortedUnique.1 hi
    obtain ⟨s, hs, hindex, hlabel⟩ := t.filled r' hr' r hr
    rw [← hindex, ← hlabel, cell_eq_some t.load.nodup_cells hs, Option.getD_some]
    change loadOf t.load.rows s.key = _
    rw [loadOf, filter_key_eq_singleton TidyLoad.key t.load.key_nodup hs]
    simp
  have hreduced : ((sortedUnique TidyLoad.index t.load.rows).map fun i =>
      reducedOf rows (keyOf i r.label)).sum = reducedTotal rows r.label := by
    refine Eq.trans (congrArg List.sum (List.map_congr_left fun i _ => ?_))
      (sum_filter_key (fun x : LoadReducedRow => toLex (x.key.1, x.key.2.1)) (·.loadReduced)
        (nodup_sortedUnique TidyLoad.index t.load.rows) fun x hx => ?_)
    · rw [reducedOf, List.filter_filter]
      refine congrArg List.sum (congrArg _ (List.filter_congr fun x _ => ?_))
      rw [← Bool.decide_and]
      refine decide_eq_decide.2 ?_
      constructor
      · rintro h
        rw [h]
        exact ⟨rfl, rfl⟩
      · rintro ⟨h, hvar⟩
        rw [← h]
        exact Prod.ext rfl (Prod.ext rfl hvar)
    · obtain ⟨r', hr', hkey⟩ := hreport x (List.mem_filter.1 hx).1
      refine mem_sortedUnique.2 ⟨r', hr', ?_⟩
      rw [hkey]
      rfl
  rw [← hloads, ← hreduced]
  exact sum_map_sub _ _ _

variable (t) in
theorem sum_generatedFor (l : String ×ₗ String) :
    ((sortedUnique TidyLoad.index t.load.rows).map fun i => t.generatedFor i l).sum =
      t.generatedTotal l := by
  set keys := (sortedUnique TidyLoad.index t.load.rows).map subbasinKey with hkeys
  have hnd : keys.Nodup := (nodup_sortedUnique _ _).map_on fun i hi j hj heq => by
    obtain ⟨r, hr, rfl⟩ := mem_sortedUnique.1 hi
    obtain ⟨r', hr', rfl⟩ := mem_sortedUnique.1 hj
    exact subbasinKey_injOn hr hr' heq
  have hmem {k : String ×ₗ String} : k ∈ keys ↔ ∃ r ∈ t.load.rows, subbasinKey r.index = k := by
    rw [hkeys, List.mem_map]
    constructor
    · rintro ⟨i, hi, rfl⟩
      obtain ⟨r, hr, rfl⟩ := mem_sortedUnique.1 hi
      exact ⟨r, hr, rfl⟩
    · rintro ⟨r, hr, rfl⟩
      exact ⟨_, mem_sortedUnique.2 ⟨r, hr, rfl⟩, rfl⟩
  -- the loads in subbasins, key by key
  have hkeyed : ∀ g ∈ (inSubbasins t.lguLoad.rows t.lgu.rows).filter fun g =>
      g.label = l ∧ g.index ∈ keys, g.index ∈ keys :=
    fun g hg => (of_decide_eq_true (List.mem_filter.1 hg).2).2
  have hsum := sum_filter_key TidyLoad.index TidyLoad.value hnd hkeyed
  have hcell : ∀ k ∈ keys, ((((inSubbasins t.lguLoad.rows t.lgu.rows).filter fun g =>
      g.label = l ∧ g.index ∈ keys).filter fun g => g.index = k).map TidyLoad.value).sum =
        generatedIn t.lguLoad.rows t.lgu k l := by
    intro k hk
    rw [← sum_inSubbasins_cell, List.filter_filter]
    refine congrArg List.sum (congrArg _ (List.filter_congr fun g _ => ?_))
    rw [← Bool.decide_and]
    refine decide_eq_decide.2 ?_
    constructor
    · rintro ⟨hi, hl, -⟩
      exact Prod.ext hi hl
    · intro h
      have hi : g.index = k := congrArg Prod.fst h
      exact ⟨hi, congrArg Prod.snd h, hi ▸ hk⟩
  rw [List.map_congr_left hcell, hkeys, List.map_map] at hsum
  refine hsum.trans ?_
  rw [sum_inSubbasins t.lguLoad.rows t.lgu fun g => g.label = l ∧ g.index ∈ keys, generatedTotal]
  refine congrArg List.sum (congrArg _ (List.filter_congr fun g _ => ?_))
  rw [Bool.eq_iff_iff, Option.any_eq_true, decide_eq_true_iff]
  simp only [decide_eq_true_iff, hmem]
  constructor
  · rintro ⟨s, hs, hl, r, hr, hkey⟩
    have hpair := congrArg ofLex hkey
    simp only [subbasinKey, TidyLoad.index, ofLex_toLex, Prod.mk.injEq] at hpair
    exact ⟨hl, r, hr, hs.trans (congrArg some hpair.1.symm), hpair.2.symm⟩
  · rintro ⟨hl, r, hr, hs, hepoch⟩
    exact ⟨_, hs, hl, r, hr, congrArg toLex (Prod.ext rfl hepoch.symm)⟩

/-- Each pollutant that leaves a subbasin is generated in it. -/
theorem exists_generated {r : TidyLoad} (hr : r ∈ t.load.rows) :
    ∃ g ∈ (t.lguLoad.generated t.lgu).rows,
      g.index = subbasinKey r.index ∧ g.label = r.label := by
  obtain ⟨g, hg, hsubbasin, hepoch, hlabel⟩ := t.known r hr
  have hmem : { g with nodeId := subbasinName r.nodeId } ∈
      inSubbasins t.lguLoad.rows t.lgu.rows := by
    rw [inSubbasins_eq]
    exact List.mem_filterMap.2 ⟨g, hg, by rw [hsubbasin]; rfl⟩
  exact ⟨_, mem_subbasinLoadGenerated.2 ⟨_, hmem, rfl⟩,
    congrArg toLex (Prod.ext rfl hepoch), hlabel⟩

theorem joinedRow_cells {discharged generated : WideLoad}
    (hd : (t.discharged rows).IsWide columnOf discharged)
    (hg : (t.lguLoad.generated t.lgu).IsWide generatedOf generated)
    {row : (String ×ₗ String) × (String → Option ℚ)} (hrow : row ∈ discharged.rows) {r : TidyLoad}
    (hr : r ∈ t.load.rows) :
    joinedRow discharged generated row (columnOf r.label) =
        .finite (t.dischargedFrom rows row.1 r.label) ∧
      joinedRow discharged generated row (generatedOf r.label) =
        .finite (t.generatedFor row.1 r.label) := by
  -- the load of this pollutant at the node of the row
  obtain ⟨s, hs, hindex, hlabel⟩ : ∃ s ∈ t.load.rows, s.index = row.1 ∧ s.label = r.label := by
    obtain ⟨r₀, hr₀, hi⟩ := hd.mem_index.1 ⟨row, hrow, rfl⟩
    obtain ⟨r', hr', rfl⟩ := List.mem_map.1 hr₀
    obtain ⟨s, hs, hindex, hlabel⟩ := t.filled r' hr' r hr
    exact ⟨s, hs, hindex.trans hi, hlabel⟩
  have hsmem : { s with value := s.value - reducedOf rows s.key } ∈ (t.discharged rows).rows :=
    List.mem_map_of_mem hs
  obtain ⟨g, hgmem, hgindex, hglabel⟩ := exists_generated hs
  have hcol : columnOf s.label ∈ discharged.columns := (hd.mem_columns _).2 ⟨_, hsmem, rfl⟩
  have hnotCol : generatedOf s.label ∉ discharged.columns := by
    intro hmem
    obtain ⟨r', hr', heq⟩ := (hd.mem_columns _).1 hmem
    have hknown := t.load.label_mem s hs
    exact ((columnNames ((t.discharged rows).label_mem r' hr')).apart _ hknown).1 heq
  rw [← hlabel, ← hindex]
  constructor
  · have hcell : row.2 (columnOf s.label) = some (t.dischargedFrom rows s.index s.label) := by
      refine (hd.cell_eq row hrow _ hsmem).trans ?_
      rw [← hindex]
      exact cell_discharged hs
    rw [joinedRow, if_pos hcol, hcell]
    rfl
  · obtain ⟨x, hx, hxi⟩ := hg.mem_index.2 ⟨g, hgmem, hgindex⟩
    obtain ⟨x', hfind⟩ : ∃ x', (generated.rows.find? fun g => g.1 = subbasinKey row.1) = some x' :=
      Option.isSome_iff_exists.1 (List.find?_isSome.2 ⟨x, hx, by simp [hxi, hindex]⟩)
    have hxi' : x'.1 = subbasinKey s.index := by
      simpa [hindex] using List.find?_some hfind
    rw [joinedRow, if_neg hnotCol, hfind, Option.bind_some, ← hglabel,
      hg.cell_eq x' (List.mem_of_find?_eq_some hfind) g hgmem, hxi', hglabel, cell_generated hs]
    rfl

/-- The sum of a column of a frame. -/
def total (df : SubbasinFrame) (c : String) : Extended ℚ :=
  Extended.sum (df.rows.map fun row => row.2 c)

theorem reducedCell_finite {c : String} {row : String → Extended ℚ} {g d : ℚ}
    (hg : row (c ++ "_generated") = .finite g) (hd : row c = .finite d) :
    reducedCell c row = .finite (g - d) := by
  rw [reducedCell, hg, hd, Extended.mul_finite]
  exact congrArg Extended.finite (by ring)

/-- The figures of a pollutant in a row: what is generated is what leaves and what is reduced. -/
structure RowBalanced (t : SubbasinTables) (rows : List LoadReducedRow) (i l : String ×ₗ String)
    (row : String → Extended ℚ) : Prop where
  discharged : row (columnOf l) = .finite (t.dischargedFrom rows i l)
  generated : row (columnOf l ++ "_generated") = .finite (t.generatedFor i l)
  reduced : row (columnOf l ++ "_reduced") =
    .finite (t.generatedFor i l - t.dischargedFrom rows i l)
  pctReduced : t.generatedFor i l ≠ 0 → row (pctReducedName (columnOf l)) = .finite (roundCents
    (100 * ((t.generatedFor i l - t.dischargedFrom rows i l) / t.generatedFor i l)))

theorem rowBalanced_of_cells {i l : String ×ₗ String} {joined row : String → Extended ℚ}
    (hl : ofLex l ∈ systemLabels) (hcells : SummaryCells joined row l)
    (hd : joined (columnOf l) = .finite (t.dischargedFrom rows i l))
    (hg : joined (generatedOf l) = .finite (t.generatedFor i l)) : RowBalanced t rows i l row := by
  have hname := (columnNames hl).generated
  have hreduced := reducedCell_finite (hname ▸ hg) hd
  refine ⟨hcells.discharged.trans hd, hname ▸ hcells.generated.trans hg,
    hcells.reduced.trans hreduced, fun hne => ?_⟩
  rw [hcells.pctReduced, hreduced, hg, Extended.inv_finite hne, Extended.mul_finite,
    Extended.mul_finite, Extended.mapFinite_finite, div_eq_mul_inv]

/-- The summary of a pollutant: it balances in every row and over the watershed, where what leaves
is what arrives at the nodes of the subbasins less what the report says was removed. -/
structure Balanced (t : SubbasinTables) (rows : List LoadReducedRow) (df : SubbasinFrame)
    (l : String ×ₗ String) : Prop where
  rowBalanced : ∀ row ∈ df.rows, ∃ i, row.1 = subbasinIndex i ∧ RowBalanced t rows i l row.2
  discharged : total df (columnOf l) = .finite (t.loadTotal l - reducedTotal rows l)
  generated : total df (columnOf l ++ "_generated") = .finite (t.generatedTotal l)
  reduced : total df (columnOf l ++ "_reduced") =
    .finite (t.generatedTotal l - (t.loadTotal l - reducedTotal rows l))

/-- **The summary balances.**  It is made from any tables of the subbasins and any report of the
downstream controls, be it empty, with one row for each node and epoch, and it balances for every
pollutant. -/
theorem summary_balance (t : SubbasinTables) (srcCtrls : List TMNTSourceControl)
    (loadReduced : LoadReduced)
    (h : sourceControlsDownstreamLoadReductionDb t.load.rows t.lgu.rows srcCtrls =
      .ok loadReduced) :
    ∃ df, subbasinLoadingSummaryResultFromDb t.load.rows loadReduced.throughTable t.lguLoad.rows
        t.lgu.rows = .ok df ∧
      df.rows.map Prod.fst = (sortedUnique TidyLoad.index t.load.rows).map subbasinIndex ∧
      ∀ r ∈ t.load.rows, Balanced t loadReduced.rows df r.label := by
  have hreport : ∀ x ∈ loadReduced.rows, ∃ r ∈ t.load.rows, x.key = r.key := by
    cases loadReduced with
    | noColumns => exact fun x hx => absurd hx List.not_mem_nil
    | frame rows =>
      intro x hx
      obtain ⟨r, hr, -, hkey⟩ := exists_load_of_reduced h hx
      exact ⟨r, hr, hkey⟩
  rw [loadReduced.throughTable_eq]
  generalize loadReduced.rows = rows at hreport ⊢
  have happly : TidyLoad.applyTidyLoadReduction t.load.rows (.frame rows) =
      .ok (t.discharged rows).rows := TidyLoad.applyTidyLoadReduction_frame t.load.rows rows
  obtain ⟨wd, hwd, hlabels⟩ := (t.discharged rows).isWide_prep00
  obtain ⟨wg, hwg, hlabels'⟩ := (t.lguLoad.generated t.lgu).isWide_prep00
  have hd : (t.discharged rows).IsWide columnOf (wd.rename loadingName) :=
    hlabels.renameNames names_columnOf
  have hg : (t.lguLoad.generated t.lgu).IsWide generatedOf (wg.rename generatedName) :=
    hlabels'.renameNames names_generatedOf
  obtain ⟨df, f, hdf, hrows, hcells⟩ := subbasinLoadReducedSummary_spec hd hg fun r hr => by
    obtain ⟨r', hr', rfl⟩ := List.mem_map.1 hr
    obtain ⟨g, hgmem, -, hlabel⟩ := exists_generated hr'
    exact ⟨g, hgmem, hlabel⟩
  have hindex : (wd.rename loadingName).rows.map Prod.fst =
      sortedUnique TidyLoad.index t.load.rows := by
    rw [hd.index]
    exact sortedUnique_congr (by simp [discharged, TidyLoad.index])
  rw [rows_joinGenerated (hg.index ▸ nodup_sortedUnique _ _), List.map_map] at hrows
  refine ⟨df, ?_, ?_, fun r hr => ?_⟩
  · have hgenerated : prep00LoadingTidyToWide (subbasinLoadGenerated t.lguLoad.rows t.lgu.rows) =
        .ok wg := hwg
    simp only [subbasinLoadingSummaryResultFromDb, subbasinLoadingSummaryResult,
      subbasinLoadGeneratedSummary, happly, hwd, hgenerated, ok_bind]
    exact hdf
  · rw [hrows, ← hindex, List.map_map, List.map_map]
    rfl
  have hrow : ∀ wr ∈ (wd.rename loadingName).rows, RowBalanced t rows wr.1 r.label
      (f (joinedRow (wd.rename loadingName) (wg.rename generatedName) wr)) := by
    intro wr hwr
    obtain ⟨hdis, hgen⟩ := joinedRow_cells hd hg hwr hr
    have hmem : { r with value := r.value - reducedOf rows r.key } ∈ (t.discharged rows).rows :=
      List.mem_map_of_mem hr
    have hcell := hcells (joinedRow (wd.rename loadingName) (wg.rename generatedName) wr) _ hmem
    exact rowBalanced_of_cells (t.load.label_mem r hr) hcell hdis hgen
  -- the sum of a column
  have htotal {c : String} (g : String ×ₗ String → ℚ) (hc : ∀ wr ∈ (wd.rename loadingName).rows,
      f (joinedRow (wd.rename loadingName) (wg.rename generatedName) wr) c = .finite (g wr.1)) :
      total df c = .finite ((sortedUnique TidyLoad.index t.load.rows).map g).sum := by
    rw [← Extended.sum_finite, total, hrows, ← hindex, List.map_map, List.map_map, List.map_map]
    exact congrArg Extended.sum (List.map_congr_left hc)
  have hdischarged := sum_dischargedFrom hreport hr
  have hgenerated := t.sum_generatedFor r.label
  refine ⟨fun row hmem => ?_, ?_, ?_, ?_⟩
  · rw [hrows] at hmem
    obtain ⟨wr, hwr, rfl⟩ := List.mem_map.1 hmem
    exact ⟨wr.1, rfl, hrow wr hwr⟩
  · rw [← hdischarged]
    exact htotal (t.dischargedFrom rows · r.label) fun wr hwr => (hrow wr hwr).discharged
  · rw [← hgenerated]
    exact htotal (t.generatedFor · r.label) fun wr hwr => (hrow wr hwr).generated
  · rw [← hdischarged, ← hgenerated, ← sum_map_sub]
    exact htotal (fun i => t.generatedFor i r.label - t.dischargedFrom rows i r.label)
      fun wr hwr => (hrow wr hwr).reduced

/-- What the nodes of two subbasins generate. -/
def sweptGenerated : SystemLoads where
  rows := [{ nodeId := "ls_1_SB_FS_01", epoch := "1980s", variableName := "TSS", value := 80,
             units := "lbs" },
           { nodeId := "ls_2_SB_FS_01", epoch := "1980s", variableName := "TSS", value := 60,
             units := "lbs" },
           { nodeId := "ls_1_SB_FS_01", epoch := "1980s", variableName := "runoff", value := 7,
             units := "cuft" },
           { nodeId := "SB_FS_02", epoch := "1980s", variableName := "TSS", value := 50,
             units := "lbs" },
           { nodeId := "SB_FS_02", epoch := "1980s", variableName := "runoff", value := 4,
             units := "cuft" }]
  key_nodup := by decide
  label_mem := by decide

/-- What leaves them. -/
def sweptDischarged : SystemLoads where
  rows := [{ nodeId := "SB_FS_01", epoch := "1980s", variableName := "TSS", value := 100,
             units := "lbs" },
           { nodeId := "SB_FS_02", epoch := "1980s", variableName := "TSS", value := 50,
             units := "lbs" },
           { nodeId := "SB_FS_01", epoch := "1980s", variableName := "runoff", value := 5,
             units := "cuft" },
           { nodeId := "SB_FS_02", epoch := "1980s", variableName := "runoff", value := 4,
             units := "cuft" }]
  key_nodup := by decide
  label_mem := by decide

/-- Two subbasins, one of them with two nodes. -/
def sweptSubbasins : SubbasinTables where
  lguLoad := sweptGenerated
  lgu :=
    { rows := [{ altid := none, relid := none, nodeId := "ls_1_SB_FS_01", subbasin := some "FS_01",
                 basinname := none },
               { altid := none, relid := none, nodeId := "ls_2_SB_FS_01", subbasin := some "FS_01",
                 basinname := none },
               { altid := none, relid := none, nodeId := "SB_FS_01", subbasin := some "FS_01",
                 basinname := none },
               { altid := none, relid := none, nodeId := "SB_FS_02", subbasin := some "FS_02",
                 basinname := none }]
      nodeId_nodup := by decide }
  load := sweptDischarged
  named r hr := by
    have hnode : ∀ r ∈ sweptDischarged.rows,
        ∃ s ∈ ["FS_01", "FS_02"], r.nodeId = "SB_" ++ s ∧ isIn "SB_" s = false := by
      decide +kernel
    obtain ⟨s, -, hr⟩ := hnode r hr
    exact ⟨s, hr⟩
  filled := by decide
  known := by decide +kernel

/-- The downstream controls of the subbasins. -/
def downstreamSweeping : List TMNTSourceControl :=
  [{ subbasin := "FS_01", variableName := "TSS", order := 0, activity := "Street Sweeping",
     direction := .downstream, percentReduction := 21 },
    { subbasin := "FS_02", variableName := "TSS", order := 0, activity := "Street Sweeping",
      direction := .downstream, percentReduction := 50 }]

/-- The report of the controls. -/
def downstreamReport : List LoadReducedRow :=
  [{ load := { nodeId := "SB_FS_01", epoch := "1980s", variableName := "TSS",
               subbasin := some "FS_01", value := 100 }
     ctrl := { subbasin := "FS_01", variableName := "TSS", order := 0,
               activity := "Street Sweeping", direction := .downstream, percentReduction := 21 }
     valueRemainingPrev := 100
     valueRemaining := 79
     loadReduced := 21
     id := 0 },
    { load := { nodeId := "SB_FS_02", epoch := "1980s", variableName := "TSS",
                subbasin := some "FS_02", value := 50 }
      ctrl := { subbasin := "FS_02", variableName := "TSS", order := 0,
                activity := "Street Sweeping", direction := .downstream, percentReduction := 50 }
      valueRemainingPrev := 50
      valueRemaining := 25
      loadReduced := 25
      id := 1 }]

/-- With the sweeping, and without any control. -/
theorem summary_balance_swept :
    (∃ df, subbasinLoadingSummaryResultFromDb sweptSubbasins.load.rows (.frame downstreamReport)
        sweptSubbasins.lguLoad.rows sweptSubbasins.lgu.rows = .ok df ∧
      df.rows.map Prod.fst =
        (sortedUnique TidyLoad.index sweptSubbasins.load.rows).map subbasinIndex ∧
      ∀ r ∈ sweptSubbasins.load.rows, Balanced sweptSubbasins downstreamReport df r.label) ∧
    ∃ df, subbasinLoadingSummaryResultFromDb sweptSubbasins.load.rows (.frame [])
        sweptSubbasins.lguLoad.rows sweptSubbasins.lgu.rows = .ok df ∧
      df.rows.map Prod.fst =
        (sortedUnique TidyLoad.index sweptSubbasins.load.rows).map subbasinIndex ∧
      ∀ r ∈ sweptSubbasins.load.rows, Balanced sweptSubbasins [] df r.label :=
  ⟨summary_balance sweptSubbasins downstreamSweeping (.frame downstreamReport) (by decide +kernel),
    summary_balance sweptSubbasins [] .noColumns (by decide +kernel)⟩

end SubbasinTables

end StormPiper
