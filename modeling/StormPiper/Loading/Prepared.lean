import StormPiper.Frame.Reshape
import StormPiper.SourceControl.Organics
import Mathlib.Data.Prod.Lex
import Mathlib.Tactic.FieldSimp

/-!
# The loads of the land surface

Earth Engine returns, for each node of `lgu_boundary` and each epoch, the runoff and the loads of
the pollutants in metric units, in a wide table.  `computeLoading` makes the long table `lgu_load`
of it, in the units of the system and with the names of the pollutants; `landSurfaceLoadNereid`
makes a wide table again, with the areas and the precipitation joined in, for the solver.

* `SystemLoads.isWide_prep00` : the wide form of a table of loads.

* `prepared_of_wide` : what the solver gets for each node and epoch are the figures of Earth Engine,
  converted.
-/

namespace StormPiper

open StormPiper.Frame

/-! ### From Earth Engine to `lgu_load` -/

/-- The names of the pollutants. -/
def POC_REMAPPER : List (String × String) :=
  [("DEHP", "DEHP"), ("Phenanthrene", "PHE"), ("Pyrene", "PYR"), ("TotalCopper", "TCu"),
   ("TotalNitrogen", "TN"), ("TotalPhosphorus", "TP"), ("TotalSuspendedSolids", "TSS"),
   ("TotalZinc", "TZn")]

/-- `series.replace(poc_remapper)`. -/
def remapPoc (variableName : String) : String :=
  (POC_REMAPPER.lookup variableName).getD variableName

/-- The row of a cell: the unit is popped off the name of the column. -/
def tidyOfCell (c : (String × String) × String × ℚ) : TidyLoad where
  nodeId := c.1.1
  epoch := c.1.2
  variableName := remapPoc (beforeLast c.2.1 '_')
  value := c.2.2
  units := splitLast c.2.1 '_'

/-- `wide_load_to_tidy_load` -/
def wideLoadToTidyLoad (wideLoad : Wide (String × String) String ℚ) : List TidyLoad :=
  addVirtualPocsToTidyLoadSummary ((melt wideLoad).map tidyOfCell)

/-- The unit of the system for a metric unit. -/
def systemUnit (unit : String) : Option String :=
  [("l", "cuft"), ("mcg", "lbs")].lookup (lower unit)

/-- The conversion of each row, with the factors of the unit library. -/
def convertTidyDataFromMetricToSystem (factor : String → String → ℚ) (tidy : List TidyLoad) :
    Except PyError (List TidyLoad) :=
  tidy.mapM fun r =>
    match systemUnit r.units with
    | some unit => .ok { r with value := factor r.units unit * r.value, units := unit }
    | none => .error (.external "pint")

/-- `compute_loading` -/
def computeLoading (factor : String → String → ℚ) (wideLoad : Wide (String × String) String ℚ) :
    Except PyError (List TidyLoad) :=
  convertTidyDataFromMetricToSystem factor (wideLoadToTidyLoad wideLoad)

/-! ### From `lgu_load` to the solver -/

/-- A wide table of loads, with a row for each node and epoch. -/
abbrev WideLoad : Type := Wide (String ×ₗ String) String (Option ℚ)

/-- The node and the epoch of a load. -/
def TidyLoad.index (r : TidyLoad) : String ×ₗ String := toLex (r.nodeId, r.epoch)

/-- The pollutant of a load with its unit. -/
def TidyLoad.label (r : TidyLoad) : String ×ₗ String := toLex (r.variableName, r.units)

/-- `"_".join(c)` for a pollutant and its unit. -/
def labelName (l : String ×ₗ String) : String := (ofLex l).1 ++ "_" ++ (ofLex l).2

/-- `_prep_00_loading_tidy_to_wide`: a row for each node and epoch, a column for each pollutant with
its unit. -/
def prep00LoadingTidyToWide (tidy : List TidyLoad) : Except PyError WideLoad :=
  match pivot TidyLoad.index TidyLoad.label TidyLoad.value tidy with
  | some w => .ok (w.rename labelName)
  | none => .error .valueError

/-- A row of `lgu_boundary` with the area of its geometry. -/
structure Zone where
  nodeId : String
  areaAcres : ℚ
  deriving Repr, DecidableEq

/-- A row of the table `met`. -/
structure Met where
  epoch : String
  meanAnnualPrecipDepthInches : ℚ
  designStormPrecipDepthInches : ℚ
  deriving Repr, DecidableEq

/-- A row of the wide table with its area and its precipitation. -/
structure JoinedLoad where
  nodeId : String
  epoch : String
  col : String → Option ℚ
  areaAcres : Option ℚ
  met : Option Met

/-- `_prep_01_loading_joins`. -/
def prep01LoadingJoins (prepped : WideLoad) (zones : List Zone) (met : List Met) :
    List JoinedLoad :=
  (mergeLeft (fun r => (ofLex r.1.1).2) Met.epoch
    (mergeLeft (fun r => (ofLex r.1).1) Zone.nodeId prepped.rows zones) met).map fun x =>
      { nodeId := (ofLex x.1.1.1).1
        epoch := (ofLex x.1.1.1).2
        col := x.1.1.2
        areaAcres := x.1.2.map Zone.areaAcres
        met := x.2 }

/-- A row of the table that the solver gets. -/
structure PreparedLoad extends JoinedLoad where
  runoffDepthInches : Option ℚ
  roCoeff : Option ℚ
  effAreaAcres : Option ℚ

/-- The names of the columns for the solver. -/
def loadingName (column : String) : String :=
  replace (replace column "_lbs" "_load_lbs") "_cuft" "_volume_cuft"

/-- A quotient; there is no number for a division by zero. -/
def quotient (a b : Option ℚ) : Option ℚ :=
  match a, b with
  | some a, some b => if b = 0 then none else some (a / b)
  | _, _ => none

/-- `_prep_02_loading_units` on a row. -/
def prepareRow (r : JoinedLoad) : PreparedLoad :=
  let areaSqft := r.areaAcres.map (· * 43560)
  let runoffDepthFeet := quotient (r.col "runoff_volume_cuft") areaSqft
  let runoffDepthInches := runoffDepthFeet.map (· * 12)
  let roCoeff := quotient runoffDepthInches (r.met.map Met.meanAnnualPrecipDepthInches)
  { r with
    runoffDepthInches := runoffDepthInches
    roCoeff := roCoeff
    effAreaAcres := r.areaAcres.bind fun a => roCoeff.map (a * ·) }

/-- `land_surface_load_nereid`; without runoff there is no depth to compute. -/
def landSurfaceLoadNereid (tidy : List TidyLoad) (zones : List Zone) (met : List Met) :
    Except PyError (List PreparedLoad) := do
  let wide ← prep00LoadingTidyToWide tidy
  let named := wide.rename loadingName
  if "runoff_volume_cuft" ∈ named.columns then
    return (prep01LoadingJoins named zones met).map prepareRow
  else .error .keyError

/-! ### The wide form of a table of loads -/

/-- The pollutants of the system with their units. -/
def systemLabels : List (String × String) :=
  ("runoff", "cuft") :: POC_REMAPPER.map fun p => (p.2, "lbs")

/-- A table with one load for each node, epoch and pollutant, in the units of the system. -/
structure SystemLoads extends TidyLoadTable where
  label_mem : ∀ r ∈ rows, ofLex r.label ∈ systemLabels

namespace SystemLoads

variable {κ : Type} {s : SystemLoads} {name : String ×ₗ String → κ}
  {w : Wide (String ×ₗ String) κ (Option ℚ)}

/-- A wide form of the table: its columns are named after the labels and hold their cells. -/
structure IsWide (s : SystemLoads) (name : String ×ₗ String → κ)
    (w : Wide (String ×ₗ String) κ (Option ℚ)) : Prop where
  index : w.rows.map Prod.fst = sortedUnique TidyLoad.index s.rows
  mem_columns : ∀ c, c ∈ w.columns ↔ ∃ r ∈ s.rows, name r.label = c
  nodup_columns : w.columns.Nodup
  cell_eq : ∀ row ∈ w.rows, ∀ r ∈ s.rows, row.2 (name r.label) =
    cell TidyLoad.index TidyLoad.label TidyLoad.value s.rows row.1 r.label

theorem IsWide.mem_index (h : s.IsWide name w) {i : String ×ₗ String} :
    (∃ row ∈ w.rows, row.1 = i) ↔ ∃ r ∈ s.rows, r.index = i :=
  List.mem_map.symm.trans (by rw [h.index, mem_sortedUnique])

variable (s) in
theorem nodup_cells : (s.rows.map fun r => (r.index, r.label)).Nodup := by
  refine List.Nodup.of_map (fun k : (String ×ₗ String) × (String ×ₗ String) =>
    ((ofLex k.1).1, (ofLex k.1).2, (ofLex k.2).1)) ?_
  rw [List.map_map]
  exact s.key_nodup

theorem IsWide.value (h : s.IsWide name w) {row : (String ×ₗ String) × (κ → Option ℚ)}
    (hrow : row ∈ w.rows) {r : TidyLoad} (hr : r ∈ s.rows) (hi : row.1 = r.index) :
    row.2 (name r.label) = some r.value := by
  rw [h.cell_eq row hrow r hr, hi]
  exact cell_eq_some s.nodup_cells hr

/-- Columns under new names that differ. -/
theorem IsWide.rename [DecidableEq κ] {κ' : Type} [DecidableEq κ'] {f : κ → κ'}
    (h : s.IsWide name w) (hinj : ∀ r ∈ s.rows, ∀ r' ∈ s.rows,
      f (name r'.label) = f (name r.label) → name r'.label = name r.label) :
    s.IsWide (f ∘ name) (w.rename f) := by
  refine ⟨?_, fun c => ?_, ?_, fun row hrow r hr => ?_⟩
  · rw [← h.index, Wide.rename, List.map_map]
    rfl
  · simp only [Wide.rename, List.mem_map, h.mem_columns, Function.comp_apply]
    constructor
    · rintro ⟨-, ⟨r, hr, rfl⟩, rfl⟩
      exact ⟨r, hr, rfl⟩
    · rintro ⟨r, hr, rfl⟩
      exact ⟨_, ⟨r, hr, rfl⟩, rfl⟩
  · refine h.nodup_columns.map_on fun k hk k' hk' heq => ?_
    obtain ⟨r, hr, rfl⟩ := (h.mem_columns k).1 hk
    obtain ⟨r', hr', rfl⟩ := (h.mem_columns k').1 hk'
    exact hinj r' hr' r hr heq
  · obtain ⟨row', hrow', rfl⟩ := List.mem_map.1 hrow
    rw [← h.cell_eq row' hrow' r hr]
    refine value_rename ((h.mem_columns _).2 ⟨r, hr, rfl⟩) (fun k hk heq => ?_) row'.2
    obtain ⟨r', hr', rfl⟩ := (h.mem_columns k).1 hk
    exact hinj r hr r' hr' heq

/-- Names that tell the pollutants of the system apart. -/
def Names (name : String ×ₗ String → String) : Prop :=
  ∀ l ∈ systemLabels, ∀ l' ∈ systemLabels, name (toLex l') = name (toLex l) → l' = l

theorem IsWide.renameNames {name : String ×ₗ String → String} {w : WideLoad} {f : String → String}
    (h : s.IsWide name w) (hf : Names (f ∘ name)) : s.IsWide (f ∘ name) (w.rename f) :=
  h.rename fun r hr r' hr' heq =>
    congrArg name (ofLex.injective (hf _ (s.label_mem r hr) _ (s.label_mem r' hr') heq))

/-- **A table of loads has a wide form.** -/
theorem isWide_prep00 (s : SystemLoads) :
    ∃ w, prep00LoadingTidyToWide s.rows = .ok w ∧ s.IsWide labelName w := by
  obtain ⟨w, hw⟩ : ∃ w, pivot TidyLoad.index TidyLoad.label TidyLoad.value s.rows = some w :=
    pivot_eq_some_iff.2 s.nodup_cells
  have hwide : s.IsWide id w := by
    refine ⟨index_pivot hw, fun c => ?_, ?_, fun row hrow r _ => ?_⟩
    · rw [columns_pivot hw, mem_sortedUnique]
      rfl
    · rw [columns_pivot hw]
      exact nodup_sortedUnique _ _
    · rw [rows_pivot hw] at hrow
      obtain ⟨i, -, rfl⟩ := List.mem_map.1 hrow
      rfl
  have hnames : Names labelName := by
    have hall : ∀ l ∈ systemLabels, ∀ l' ∈ systemLabels,
        labelName (toLex l') = labelName (toLex l) → l' = l := by decide +kernel
    exact hall
  have hrename : s.IsWide (labelName ∘ id) (w.rename labelName) :=
    hwide.rename fun r hr r' hr' heq =>
      ofLex.injective (hnames _ (s.label_mem r hr) _ (s.label_mem r' hr') heq)
  exact ⟨w.rename labelName, by rw [prep00LoadingTidyToWide, hw], hrename⟩

end SystemLoads

/-- The column of a pollutant for the solver. -/
def columnOf (l : String ×ₗ String) : String := loadingName (labelName l)

theorem names_columnOf : SystemLoads.Names columnOf := by
  have hall : ∀ l ∈ systemLabels, ∀ l' ∈ systemLabels,
      columnOf (toLex l') = columnOf (toLex l) → l' = l := by decide +kernel
  exact hall

/-! ### The rows of `lgu_load` -/

/-- The columns of a table from Earth Engine: the runoff, and the bands of the concentrations. -/
def loadColumns (bands : List String) : List String := "runoff_L" :: bands.map (· ++ "_mcg")

/-- A table from Earth Engine with a row for each node and epoch, and bands that have a name for the
solver, the suspended solids among them. -/
structure EarthEngineTable extends Wide (String × String) String ℚ where
  bands : List String
  columns_eq : columns = loadColumns bands
  bands_known : ∀ b ∈ bands, b ∈ POC_REMAPPER.map Prod.fst
  bands_nodup : bands.Nodup
  bands_tss : "TotalSuspendedSolids" ∈ bands
  index_nodup : (rows.map Prod.fst).Nodup

/-- The pollutant of a column. -/
def variableOf (column : String) : String := remapPoc (beforeLast column '_')

/-- The columns that a table from Earth Engine can have. -/
def knownColumns : List String := loadColumns (POC_REMAPPER.map Prod.fst)

theorem variableOf_injOn {c c' : String} (hc : c ∈ knownColumns) (hc' : c' ∈ knownColumns)
    (h : variableOf c = variableOf c') : c = c' := by
  have hall : ∀ c ∈ knownColumns, ∀ c' ∈ knownColumns, variableOf c = variableOf c' → c = c' := by
    decide +kernel
  exact hall c hc c' hc' h

/-- The virtual pollutants keep the rows of a table distinct. -/
theorem nodup_key_addVirtualPocs {load : List TidyLoad} (h : (load.map TidyLoad.key).Nodup) :
    ((addVirtualPocsToTidyLoadSummary load).map TidyLoad.key).Nodup := by
  simp only [addVirtualPocsToTidyLoadSummary]
  split_ifs
  · exact List.nodup_nil
  have htss : ((load.filter (·.variableName = "TSS")).map fun t => (t.nodeId, t.epoch)).Nodup := by
    have hkey : ((load.filter (·.variableName = "TSS")).map TidyLoad.key).Nodup :=
      h.sublist (List.filter_sublist.map _)
    refine List.Nodup.of_map (fun k => (k.1, k.2, "TSS")) ?_
    rw [List.map_map]
    refine (List.map_congr_left fun t ht => ?_) ▸ hkey
    have hvar : t.variableName = "TSS" := by simpa using (List.mem_filter.1 ht).2
    simp [TidyLoad.key, hvar]
  rw [List.map_append, List.nodup_append']
  refine ⟨h.sublist (List.filter_sublist.map _), ?_, ?_⟩
  · rw [List.map_flatMap, List.nodup_flatMap]
    constructor
    · intro p _
      rw [List.map_map]
      refine List.Nodup.of_map (fun k : String × String × String => (k.1, k.2.1)) ?_
      rw [List.map_map]
      exact htss
    · refine (List.Nodup.of_map Prod.fst nodup_VIRTUAL_POCS).imp_of_mem fun hp hq hne => ?_
      show List.Disjoint _ _
      rw [List.disjoint_left]
      intro k hk hk'
      simp only [List.mem_map, exists_exists_and_eq_and] at hk hk'
      obtain ⟨t, -, rfl⟩ := hk
      obtain ⟨t', -, heq⟩ := hk'
      have hname := congrArg (fun k : String × String × String => k.2.2) heq
      exact hne (List.inj_on_of_nodup_map nodup_VIRTUAL_POCS hp hq hname.symm)
  · rw [List.disjoint_left]
    intro k hk hk'
    obtain ⟨r, hr, rfl⟩ := List.mem_map.1 hk
    obtain ⟨r', hr', heq⟩ := List.mem_map.1 hk'
    obtain ⟨p, hp, hr'⟩ := List.mem_flatMap.1 hr'
    obtain ⟨t, -, rfl⟩ := List.mem_map.1 hr'
    have hname : p.1 = r.variableName := congrArg (fun k : String × String × String => k.2.2) heq
    have hnot : r.variableName ∉ VIRTUAL_POCS := by simpa using (List.mem_filter.1 hr).2
    exact hnot (hname ▸ List.mem_map_of_mem hp)

namespace EarthEngineTable

variable (t : EarthEngineTable)

theorem mem_knownColumns {c : String} (hc : c ∈ t.columns) : c ∈ knownColumns := by
  rw [t.columns_eq, loadColumns, List.mem_cons, List.mem_map] at hc
  rw [knownColumns, loadColumns, List.mem_cons, List.mem_map]
  exact hc.imp_right fun ⟨b, hb, h⟩ => ⟨b, t.bands_known b hb, h⟩

theorem nodup_columns : t.columns.Nodup := by
  rw [t.columns_eq, loadColumns, List.nodup_cons]
  constructor
  · rintro h
    obtain ⟨b, hb, heq⟩ := List.mem_map.1 h
    have hall : ∀ b ∈ POC_REMAPPER.map Prod.fst, b ++ "_mcg" ≠ "runoff_L" := by decide
    exact hall b (t.bands_known b hb) heq
  · exact t.bands_nodup.map fun a b h => by simpa using h

/-- The measured rows. -/
def measured : List TidyLoad := (melt t.toWide).map tidyOfCell

/-- There is one measured row for each node, epoch and pollutant. -/
theorem nodup_measured : (t.measured.map TidyLoad.key).Nodup := by
  have hcells := nodup_melt t.nodup_columns t.index_nodup
  have hkey : t.measured.map TidyLoad.key =
      ((melt t.toWide).map fun c => (c.1, c.2.1)).map fun c => (c.1.1, c.1.2, variableOf c.2) := by
    simp only [measured, List.map_map]
    rfl
  rw [hkey]
  refine hcells.map_on ?_
  rintro ⟨⟨n, e⟩, c⟩ hc ⟨⟨n', e'⟩, c'⟩ hc' heq
  have hcol : ∀ {i : String × String} {c : String},
      (i, c) ∈ (melt t.toWide).map (fun c => (c.1, c.2.1)) → c ∈ knownColumns := by
    intro i c h
    obtain ⟨x, hx, heq⟩ := List.mem_map.1 h
    obtain rfl : x.2.1 = c := congrArg Prod.snd heq
    exact t.mem_knownColumns (mem_melt.1 hx).1
  simp only [Prod.mk.injEq] at heq
  obtain ⟨rfl, rfl, hvar⟩ := heq
  rw [variableOf_injOn (hcol hc) (hcol hc') hvar]

/-- The rows of `lgu_load`, in metric units. -/
def tidy : List TidyLoad := wideLoadToTidyLoad t.toWide

theorem nodup_tidy : (t.tidy.map TidyLoad.key).Nodup := nodup_key_addVirtualPocs t.nodup_measured

variable {t}

theorem mem_measured {row : (String × String) × (String → ℚ)} (hrow : row ∈ t.rows) {c : String}
    (hc : c ∈ t.columns) : tidyOfCell (row.1, c, row.2 c) ∈ t.measured :=
  List.mem_map_of_mem (mem_melt.2 ⟨hc, row, hrow, rfl, rfl⟩)

theorem band_mem_columns {b : String} (hb : b ∈ t.bands) : b ++ "_mcg" ∈ t.columns := by
  rw [t.columns_eq]
  exact List.mem_cons_of_mem _ (List.mem_map_of_mem hb)

theorem runoff_mem_columns : "runoff_L" ∈ t.columns := by
  rw [t.columns_eq]
  exact List.mem_cons_self

theorem tidyOfCell_band {b : String} (hb : b ∈ POC_REMAPPER.map Prod.fst) (i : String × String)
    (x : ℚ) : tidyOfCell (i, b ++ "_mcg", x) =
      { nodeId := i.1, epoch := i.2, variableName := remapPoc b, value := x, units := "mcg" } := by
  have hall : ∀ b ∈ POC_REMAPPER.map Prod.fst,
      beforeLast (b ++ "_mcg") '_' = b ∧ splitLast (b ++ "_mcg") '_' = "mcg" := by decide +kernel
  simp [tidyOfCell, hall b hb]

theorem tidyOfCell_runoff (i : String × String) (x : ℚ) : tidyOfCell (i, "runoff_L", x) =
    { nodeId := i.1, epoch := i.2, variableName := "runoff", value := x, units := "L" } := by
  have hnames : remapPoc (beforeLast "runoff_L" '_') = "runoff" ∧
      splitLast "runoff_L" '_' = "L" := by decide +kernel
  simp [tidyOfCell, hnames]

/-- The row of suspended solids. -/
def tssRow (row : (String × String) × (String → ℚ)) : TidyLoad where
  nodeId := row.1.1
  epoch := row.1.2
  variableName := "TSS"
  value := row.2 "TotalSuspendedSolids_mcg"
  units := "mcg"

theorem tssRow_mem_measured {row : (String × String) × (String → ℚ)} (hrow : row ∈ t.rows) :
    tssRow row ∈ t.measured := by
  have hmem := mem_measured hrow (band_mem_columns t.bands_tss)
  rwa [tidyOfCell_band (t.bands_known _ t.bands_tss)] at hmem

theorem tidy_eq (hne : t.rows ≠ []) : t.tidy =
    t.measured.filter (·.variableName ∉ VIRTUAL_POCS) ++
      VIRTUAL_POLLUTANT_MAPPER.flatMap fun p =>
        (t.measured.filter (·.variableName = "TSS")).map (·.virtual p) := by
  obtain ⟨row, hrow⟩ := List.exists_mem_of_ne_nil _ hne
  have hsome : (t.measured.filter (·.variableName = "TSS")).isEmpty = false := by
    rw [List.isEmpty_eq_false_iff]
    exact List.ne_nil_of_mem (List.mem_filter.2 ⟨tssRow_mem_measured hrow, by simp [tssRow]⟩)
  change addVirtualPocsToTidyLoadSummary t.measured = _
  simp only [addVirtualPocsToTidyLoadSummary, hsome]
  rfl

theorem mem_tidy_of_measured {r : TidyLoad} (hr : r ∈ t.measured)
    (hvar : r.variableName ∉ VIRTUAL_POCS) : r ∈ t.tidy := by
  have hne : t.rows ≠ [] := by
    rintro hnil
    simp [measured, melt, hnil] at hr
  rw [tidy_eq hne]
  exact List.mem_append_left _ (List.mem_filter.2 ⟨hr, by simpa using hvar⟩)

theorem virtual_mem_tidy {row : (String × String) × (String → ℚ)} (hrow : row ∈ t.rows)
    {p : String × (ℚ → ℚ)} (hp : p ∈ VIRTUAL_POLLUTANT_MAPPER) :
    (tssRow row).virtual p ∈ t.tidy := by
  have htss : tssRow row ∈ t.measured.filter (·.variableName = "TSS") :=
    List.mem_filter.2 ⟨tssRow_mem_measured hrow, by simp [tssRow]⟩
  rw [tidy_eq (List.ne_nil_of_mem hrow)]
  refine List.mem_append_right _ (List.mem_flatMap.2 ⟨p, hp, ?_⟩)
  exact List.mem_map_of_mem (f := (·.virtual p)) htss

/-- The pollutants of `lgu_load` with their metric units. -/
def metricLabels : List (String × String) :=
  ("runoff", "L") :: POC_REMAPPER.map fun p => (p.2, "mcg")

/-- Every row is of a node and an epoch of the table, and of a known pollutant. -/
theorem of_mem_measured {r : TidyLoad} (hr : r ∈ t.measured) :
    (∃ row ∈ t.rows, row.1 = (r.nodeId, r.epoch)) ∧ (r.variableName, r.units) ∈ metricLabels := by
  obtain ⟨⟨i, c, x⟩, hcell, rfl⟩ := List.mem_map.1 hr
  obtain ⟨hc, row, hrow, rfl, -⟩ := mem_melt.1 hcell
  refine ⟨⟨row, hrow, rfl⟩, ?_⟩
  have hall : ∀ c ∈ knownColumns, (variableOf c, splitLast c '_') ∈ metricLabels := by
    decide +kernel
  exact hall c (t.mem_knownColumns hc)

theorem of_mem_tidy {r : TidyLoad} (hr : r ∈ t.tidy) :
    (∃ row ∈ t.rows, row.1 = (r.nodeId, r.epoch)) ∧ (r.variableName, r.units) ∈ metricLabels := by
  have hne : t.rows ≠ [] := by
    rintro hnil
    simp [tidy, wideLoadToTidyLoad, melt, hnil, addVirtualPocsToTidyLoadSummary] at hr
  rw [tidy_eq hne] at hr
  rcases List.mem_append.1 hr with hr | hr
  · exact of_mem_measured (List.mem_filter.1 hr).1
  · obtain ⟨p, hp, hr⟩ := List.mem_flatMap.1 hr
    obtain ⟨s, hs, rfl⟩ := List.mem_map.1 hr
    obtain ⟨hs, hvar⟩ := List.mem_filter.1 hs
    obtain ⟨hrow, hlabel⟩ := of_mem_measured hs
    refine ⟨hrow, ?_⟩
    have hunits : s.units = "mcg" := by
      have hall : ∀ l ∈ metricLabels, l.1 = "TSS" → l.2 = "mcg" := by decide
      exact hall _ hlabel (by simpa using hvar)
    have hall : ∀ v ∈ VIRTUAL_POCS, (v, "mcg") ∈ metricLabels := by decide
    change (p.1, s.units) ∈ metricLabels
    rw [hunits]
    exact hall _ (List.mem_map_of_mem hp)

/-! ### The conversion -/

/-- The row in the units of the system. -/
def systemRow (factor : String → String → ℚ) (r : TidyLoad) : TidyLoad :=
  let unit := (systemUnit r.units).getD ""
  { r with value := factor r.units unit * r.value, units := unit }

theorem label_systemRow (factor : String → String → ℚ) (r : TidyLoad) :
    (systemRow factor r).label = toLex (r.variableName, (systemUnit r.units).getD "") := by
  simp only [systemRow, TidyLoad.label]

theorem value_systemRow (factor : String → String → ℚ) (r : TidyLoad) :
    (systemRow factor r).value = factor r.units ((systemUnit r.units).getD "") * r.value := by
  simp only [systemRow]

variable (t) in
theorem computeLoading_eq (factor : String → String → ℚ) :
    computeLoading factor t.toWide = .ok (t.tidy.map (systemRow factor)) := by
  refine mapM_eq_ok_iff.2 ?_
  refine List.forall₂_map_right_iff.2 (List.forall₂_same.2 fun r hr => ?_)
  have hall : ∀ l ∈ metricLabels, (systemUnit l.2).isSome := by decide
  obtain ⟨unit, hunit⟩ := Option.isSome_iff_exists.1 (hall _ (of_mem_tidy hr).2)
  simp only at hunit
  simp [systemRow, hunit]

/-- The converted table. -/
def system (t : EarthEngineTable) (factor : String → String → ℚ) : SystemLoads where
  rows := t.tidy.map (systemRow factor)
  key_nodup := by
    rw [List.map_map]
    exact t.nodup_tidy
  label_mem := by
    intro r hr
    obtain ⟨r', hr', rfl⟩ := List.mem_map.1 hr
    have hall : ∀ l ∈ metricLabels, (l.1, (systemUnit l.2).getD "") ∈ systemLabels := by decide
    exact hall _ (of_mem_tidy hr').2

/-- The index of the wide table has the nodes and epochs of Earth Engine. -/
theorem perm_index {factor : String → String → ℚ} {name : String ×ₗ String → String} {w : WideLoad}
    (hw : (t.system factor).IsWide name w) :
    (w.rows.map fun r => ofLex r.1).Perm (t.rows.map Prod.fst) := by
  have hindex : w.rows.map (fun r => ofLex r.1) = (w.rows.map Prod.fst).map ofLex := by
    rw [List.map_map]
    rfl
  rw [hindex, hw.index]
  refine (List.perm_ext_iff_of_nodup ((nodup_sortedUnique _ _).map ofLex.injective)
    t.index_nodup).2 fun i => ?_
  constructor
  · intro hi
    obtain ⟨l, hl, rfl⟩ := List.mem_map.1 hi
    obtain ⟨s, hs, rfl⟩ := mem_sortedUnique.1 hl
    obtain ⟨r, hr, rfl⟩ := List.mem_map.1 hs
    obtain ⟨⟨row, hrow, heq⟩, -⟩ := of_mem_tidy hr
    exact List.mem_map.2 ⟨row, hrow, heq⟩
  · intro hi
    obtain ⟨row, hrow, rfl⟩ := List.mem_map.1 hi
    have htss := mem_tidy_of_measured (tssRow_mem_measured hrow) TSS_notMem_VIRTUAL_POCS
    refine List.mem_map.2 ⟨toLex row.1, mem_sortedUnique.2 ⟨_, List.mem_map_of_mem htss, ?_⟩, rfl⟩
    rfl

end EarthEngineTable

/-! ### What the solver gets -/

/-- The row for the solver has the figures of a row of Earth Engine, converted; the virtual
pollutants follow from the suspended solids.  It has the area of its node and the precipitation of
its epoch, and the effective area is the one on which this precipitation makes the runoff. -/
structure PreparedFrom (t : EarthEngineTable) (factor : String → String → ℚ) (zones : List Zone)
    (met : List Met) (row : (String × String) × (String → ℚ)) (r : PreparedLoad) : Prop where
  runoff : r.col "runoff_volume_cuft" = some (factor "L" "cuft" * row.2 "runoff_L")
  measured : ∀ b ∈ t.bands, remapPoc b ∉ VIRTUAL_POCS →
    r.col (loadCol (remapPoc b)) = some (factor "mcg" "lbs" * row.2 (b ++ "_mcg"))
  virtual : ∀ p ∈ VIRTUAL_POLLUTANT_MAPPER,
    r.col (loadCol p.1) = some (factor "mcg" "lbs" * p.2 (row.2 "TotalSuspendedSolids_mcg"))
  area : ∀ z ∈ zones, z.nodeId = row.1.1 → r.areaAcres = some z.areaAcres
  precipitation : ∀ m ∈ met, m.epoch = row.1.2 → r.met = some m
  effArea : ∀ z ∈ zones, z.nodeId = row.1.1 → ∀ m ∈ met, m.epoch = row.1.2 → z.areaAcres ≠ 0 →
    m.meanAnnualPrecipDepthInches ≠ 0 → ∃ e, r.effAreaAcres = some e ∧
      e * 43560 * (m.meanAnnualPrecipDepthInches / 12) = factor "L" "cuft" * row.2 "runoff_L"

/-- Each row of the wide table is joined once. -/
theorem map_index_prep01 {prepped : WideLoad} {zones : List Zone} {met : List Met}
    (hzones : (zones.map Zone.nodeId).Nodup) (hmet : (met.map Met.epoch).Nodup) :
    (prep01LoadingJoins prepped zones met).map (fun r => (r.nodeId, r.epoch)) =
      prepped.rows.map fun r => ofLex r.1 := by
  have hfst {A B : Type} (f : A → String × String) (xs : List (A × B)) :
      xs.map (fun x => f x.1) = (xs.map Prod.fst).map f := by
    rw [List.map_map]
    rfl
  rw [prep01LoadingJoins, List.map_map]
  refine (hfst (fun x : ((String ×ₗ String) × (String → Option ℚ)) × Option Zone => ofLex x.1.1)
    _).trans ?_
  rw [map_fst_mergeLeft fun _ _ => length_filter_key_le_one Met.epoch hmet _]
  refine (hfst (fun x : (String ×ₗ String) × (String → Option ℚ) => ofLex x.1) _).trans ?_
  rw [map_fst_mergeLeft fun _ _ => length_filter_key_le_one Zone.nodeId hzones _]

/-- A row that is joined has the columns of its wide row, the area of its node and the
precipitation of its epoch. -/
theorem exists_of_mem_prep01 {prepped : WideLoad} {zones : List Zone} {met : List Met}
    (hzones : (zones.map Zone.nodeId).Nodup) (hmet : (met.map Met.epoch).Nodup) {r : JoinedLoad}
    (hr : r ∈ prep01LoadingJoins prepped zones met) :
    (∃ row ∈ prepped.rows, ofLex row.1 = (r.nodeId, r.epoch) ∧ r.col = row.2) ∧
      (∀ z ∈ zones, z.nodeId = r.nodeId → r.areaAcres = some z.areaAcres) ∧
      ∀ m ∈ met, m.epoch = r.epoch → r.met = some m := by
  obtain ⟨⟨⟨row, zone⟩, m⟩, hx, rfl⟩ := List.mem_map.1 hr
  have hzone := (exists_mem_mergeLeft _ _ _ _).1 ⟨m, hx⟩
  refine ⟨⟨row, (exists_mem_mergeLeft _ _ _ _).1 ⟨zone, hzone⟩, rfl, rfl⟩, ?_, ?_⟩
  · intro z hz hnode
    have hjoined : zone = some z := eq_some_of_mem_mergeLeft hzones hzone hz hnode
    rw [hjoined]
    rfl
  · intro m' hm' hepoch
    exact eq_some_of_mem_mergeLeft hmet hx hm' hepoch

/-- The runoff is the precipitation on the effective area. -/
theorem effArea_prepareRow {r : JoinedLoad} {v a : ℚ} {m : Met}
    (hv : r.col "runoff_volume_cuft" = some v) (ha : r.areaAcres = some a) (hm : r.met = some m)
    (ha0 : a ≠ 0) (hm0 : m.meanAnnualPrecipDepthInches ≠ 0) :
    ∃ e, (prepareRow r).effAreaAcres = some e ∧
      e * 43560 * (m.meanAnnualPrecipDepthInches / 12) = v := by
  have hsqft : a * 43560 ≠ 0 := mul_ne_zero ha0 (by norm_num)
  refine ⟨a * (v / (a * 43560) * 12 / m.meanAnnualPrecipDepthInches), ?_, ?_⟩
  · simp [prepareRow, quotient, hv, ha, hm, hsqft, hm0]
  · field_simp

theorem columnOf_runoff : columnOf (toLex ("runoff", "cuft")) = "runoff_volume_cuft" := by
  decide +kernel

theorem columnOf_poc : ∀ l ∈ POC_REMAPPER, columnOf (toLex (l.2, "lbs")) = loadCol l.2 := by
  decide +kernel

theorem systemUnits : (systemUnit "L").getD "" = "cuft" ∧ (systemUnit "mcg").getD "" = "lbs" := by
  decide

namespace EarthEngineTable

variable {t : EarthEngineTable} {factor : String → String → ℚ} {named : WideLoad}
  {zones : List Zone} {met : List Met} {row : (String × String) × (String → ℚ)} {r : JoinedLoad}

/-- The runoff of a row is in `lgu_load`. -/
theorem runoff_mem_tidy (hrow : row ∈ t.rows) :
    tidyOfCell (row.1, "runoff_L", row.2 "runoff_L") ∈ t.tidy := by
  have hnot : "runoff" ∉ VIRTUAL_POCS := by decide
  refine mem_tidy_of_measured (mem_measured hrow runoff_mem_columns) ?_
  rw [tidyOfCell_runoff]
  exact hnot

theorem runoff_mem_columns_wide (hwide : (t.system factor).IsWide columnOf named)
    (hne : t.rows ≠ []) : "runoff_volume_cuft" ∈ named.columns := by
  obtain ⟨row, hrow⟩ := List.exists_mem_of_ne_nil _ hne
  refine (hwide.mem_columns _).2 ⟨_, List.mem_map_of_mem (runoff_mem_tidy hrow), ?_⟩
  rw [tidyOfCell_runoff, label_systemRow, systemUnits.1, columnOf_runoff]

/-- A joined row has the figures of `lgu_load` of its node and epoch, converted. -/
theorem col_of_mem_prep01 (hwide : (t.system factor).IsWide columnOf named)
    (hzones : (zones.map Zone.nodeId).Nodup) (hmet : (met.map Met.epoch).Nodup)
    (hr : r ∈ prep01LoadingJoins named zones met) {s : TidyLoad} (hs : s ∈ t.tidy)
    (hkey : (s.nodeId, s.epoch) = (r.nodeId, r.epoch)) :
    r.col (columnOf (toLex (s.variableName, (systemUnit s.units).getD ""))) =
      some (factor s.units ((systemUnit s.units).getD "") * s.value) := by
  obtain ⟨⟨wrow, hwrow, hwkey, hwcol⟩, -⟩ := exists_of_mem_prep01 hzones hmet hr
  have hmem : systemRow factor s ∈ (t.system factor).rows := List.mem_map_of_mem hs
  have hindex : wrow.1 = (systemRow factor s).index := ofLex.injective (hwkey.trans hkey.symm)
  have h := hwide.value hwrow hmem hindex
  rwa [label_systemRow, value_systemRow, ← hwcol] at h

theorem preparedFrom_of_mem_prep01 (hwide : (t.system factor).IsWide columnOf named)
    (hzones : (zones.map Zone.nodeId).Nodup) (hmet : (met.map Met.epoch).Nodup)
    (hr : r ∈ prep01LoadingJoins named zones met) (hrow : row ∈ t.rows)
    (hkey : row.1 = (r.nodeId, r.epoch)) : PreparedFrom t factor zones met row (prepareRow r) := by
  obtain ⟨-, harea, hprecip⟩ := exists_of_mem_prep01 hzones hmet hr
  obtain ⟨hnode, hepoch⟩ : row.1.1 = r.nodeId ∧ row.1.2 = r.epoch := Prod.mk.inj hkey
  rw [← hnode] at harea
  rw [← hepoch] at hprecip
  have hvalue {s : TidyLoad} (hs : s ∈ t.tidy) (hs' : (s.nodeId, s.epoch) = row.1) :=
    col_of_mem_prep01 hwide hzones hmet hr hs (hs'.trans hkey)
  have hvolume : r.col "runoff_volume_cuft" = some (factor "L" "cuft" * row.2 "runoff_L") := by
    have h := hvalue (runoff_mem_tidy hrow) rfl
    rwa [tidyOfCell_runoff, systemUnits.1, columnOf_runoff] at h
  refine ⟨hvolume, fun b hb hvirtual => ?_, fun p hp => ?_, harea, hprecip,
    fun z hz hnode m hm hepoch ha0 hm0 => ?_⟩
  · have hband := tidyOfCell_band (t.bands_known b hb) row.1 (row.2 (b ++ "_mcg"))
    have hmem := mem_tidy_of_measured (mem_measured hrow (band_mem_columns hb))
      (by rw [hband]; exact hvirtual)
    have h := hvalue hmem rfl
    have hpoc : ∀ b ∈ POC_REMAPPER.map Prod.fst, (b, remapPoc b) ∈ POC_REMAPPER := by decide
    rwa [hband, systemUnits.2, columnOf_poc _ (hpoc b (t.bands_known b hb))] at h
  · have h := hvalue (virtual_mem_tidy hrow hp) rfl
    have hpoc : ∀ v ∈ VIRTUAL_POCS, ∃ l ∈ POC_REMAPPER, l.2 = v := by decide
    obtain ⟨l, hl, hlp⟩ := hpoc p.1 (List.mem_map_of_mem hp)
    have hname : columnOf (toLex (p.1, "lbs")) = loadCol p.1 := hlp ▸ columnOf_poc l hl
    simp only [TidyLoad.virtual, tssRow, systemUnits.2, hname] at h
    exact h
  · exact effArea_prepareRow hvolume (harea z hz hnode) (hprecip m hm hepoch) ha0 hm0

end EarthEngineTable

open EarthEngineTable in
/-- **The figures of Earth Engine reach the solver.**  The loads are computed and prepared for any
table of Earth Engine that is not empty: there is one row for each of its nodes and epochs, and it
has the converted figures of that row, with the area of the node and the precipitation of the
epoch. -/
theorem prepared_of_wide (t : EarthEngineTable) (hne : t.rows ≠ []) (factor : String → String → ℚ)
    {zones : List Zone} {met : List Met} (hzones : (zones.map Zone.nodeId).Nodup)
    (hmet : (met.map Met.epoch).Nodup) :
    ∃ tidy prepared, computeLoading factor t.toWide = .ok tidy ∧
      landSurfaceLoadNereid tidy zones met = .ok prepared ∧
      (prepared.map fun r => (r.nodeId, r.epoch)).Perm (t.rows.map Prod.fst) ∧
      ∀ r ∈ prepared, ∀ row ∈ t.rows, row.1 = (r.nodeId, r.epoch) →
        PreparedFrom t factor zones met row r := by
  obtain ⟨wide, hprep, hlabels⟩ := (t.system factor).isWide_prep00
  have hwide : (t.system factor).IsWide columnOf (wide.rename loadingName) :=
    hlabels.renameNames names_columnOf
  have hcol := runoff_mem_columns_wide hwide hne
  set named := wide.rename loadingName
  refine ⟨_, (prep01LoadingJoins named zones met).map prepareRow, t.computeLoading_eq factor, ?_,
    ?_, fun r hr row hrow hkey => ?_⟩
  · change landSurfaceLoadNereid (t.system factor).rows zones met = _
    simp only [landSurfaceLoadNereid, hprep, ok_bind]
    rw [if_pos hcol]
    rfl
  · have hindex : ((prep01LoadingJoins named zones met).map prepareRow).map
        (fun r => (r.nodeId, r.epoch)) = named.rows.map fun r => ofLex r.1 := by
      rw [List.map_map]
      exact map_index_prep01 hzones hmet
    rw [hindex]
    exact perm_index hwide
  · obtain ⟨joined, hjoined, rfl⟩ := List.mem_map.1 hr
    exact preparedFrom_of_mem_prep01 hwide hzones hmet hjoined hrow hkey

/-- One node in one epoch. -/
def oneNode : EarthEngineTable where
  columns := ["runoff_L", "TotalSuspendedSolids_mcg", "TotalZinc_mcg"]
  rows := [(("ls_1_2_SB_FS_01", "1980s"), fun c =>
    if c = "runoff_L" then 1000 else if c = "TotalZinc_mcg" then 40000 else 9000000)]
  bands := ["TotalSuspendedSolids", "TotalZinc"]
  columns_eq := by decide
  bands_known := by decide
  bands_nodup := by decide
  bands_tss := by decide
  index_nodup := by decide

/-- The factors from litres to cubic feet and from micrograms to pounds, rounded. -/
def usFactor (fromUnit _toUnit : String) : ℚ :=
  if lower fromUnit = "l" then 353147 / 10 ^ 7 else 220462 / 10 ^ 14

/-- A zone of an acre and a half, and the precipitation of the epoch. -/
def oneNodeZones : List Zone := [⟨"ls_1_2_SB_FS_01", 3 / 2⟩]

/-- The precipitation of an epoch. -/
def oneNodeMet : List Met := [⟨"1980s", 35539 / 1000, 652 / 1000⟩]

theorem prepared_of_wide_oneNode :
    ∃ tidy prepared, computeLoading usFactor oneNode.toWide = .ok tidy ∧
      landSurfaceLoadNereid tidy oneNodeZones oneNodeMet = .ok prepared ∧
      (prepared.map fun r => (r.nodeId, r.epoch)).Perm (oneNode.rows.map Prod.fst) ∧
      ∀ r ∈ prepared, ∀ row ∈ oneNode.rows, row.1 = (r.nodeId, r.epoch) →
        PreparedFrom oneNode usFactor oneNodeZones oneNodeMet row r :=
  prepared_of_wide oneNode (by simp [oneNode]) usFactor (by decide) (by decide)

end StormPiper
