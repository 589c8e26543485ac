import StormPiper.SourceControl.Organics

/-!
# Downstream controls and subbasins

Downstream source controls act on what the node `SB_<s>` of a subbasin `s` discharges.  The
reductions are calculated from the table `load_to_ds_src_ctrl`, whose nodes have no subbasin; it is
looked up in `lgu_boundary`, under the name of the node (`joinBoundary`).

So the controls that a row of `SB_<s>` meets are those of the subbasins that the rows of
`lgu_boundary` named `SB_<s>` have.  These are the controls of `s` exactly if, for every control of
the variable, one of these rows has its subbasin if that is `s`, and none otherwise
(`BoundaryKnows`, `meetsControlsOf_iff`).
-/

namespace StormPiper

open StormPiper.Frame

/-! ### The load table -/

/-- What the columns of what is discharged have in their names. -/
def totalDischarged : String := "_total_discharged"

/-- The columns of what is discharged in total. -/
def dischargeCols (columns : List String) : List String :=
  columns.filter fun c => isIn totalDischarged (lower c)

/-- The column that fills the gaps of a discharge column. -/
def backupCol (c : String) : String := replace c totalDischarged ""

/-- The results of the structural treatment: subbasin nodes have a value in every discharge column
or in the column that fills its gaps. -/
structure Results extends WideFrame where
  filled : ∀ r ∈ rows, startswith r.nodeId "SB_" = true → ∀ c ∈ dischargeCols columns,
    (r.col c).isSome ∨ (r.col (backupCol c)).isSome

/-- One cell of the molten table. -/
def meltCell (c : String) (r : WideRow) : TidyLoad :=
  { nodeId := r.nodeId
    epoch := r.epoch
    variableName := splitFirst c "_"
    value := ((r.col c).or (r.col (backupCol c))).getD 0
    units := splitLast (splitFirst c totalDischarged) '_' }

/-- The loads that the subbasin nodes discharge. -/
def loadToDownstreamSrcCtrls (results : Results) : Except PyError (List TidyLoad) :=
  let cols := dischargeCols results.columns
  let rows := results.rows.filter fun r => startswith r.nodeId "SB_"
  if ∀ c ∈ cols, backupCol c ∈ results.columns then
    .ok (addVirtualPocsToTidyLoadSummary (cols.flatMap fun c => rows.map (meltCell c)))
  else .error .keyError

/-! ### The controls that a row meets -/

variable {load : List TidyLoad} {lgu : List LguBoundary} {srcCtrls : List TMNTSourceControl}

/-- The controls that are joined to a load row. -/
def controlsMet (load : List TidyLoad) (lguBoundary : List LguBoundary)
    (tmntSourceControl : List TMNTSourceControl) (r : TidyLoad) : List TMNTSourceControl :=
  ((joinSrcCtrls (joinBoundary load lguBoundary)
    (tmntSourceControl.filter (·.direction = .downstream)) .downstream).filter
      fun x => x.key = r.key).map (·.ctrl)

/-- The downstream controls of a subbasin and variable. -/
def controlsOf (tmntSourceControl : List TMNTSourceControl) (subbasin variableName : String) :
    List TMNTSourceControl :=
  tmntSourceControl.filter fun c =>
    c.direction = .downstream ∧ c.subbasin = subbasin ∧ c.variableName = variableName

/-- A load row meets each control of a subbasin once, and no other one. -/
def MeetsControlsOf (load : List TidyLoad) (lguBoundary : List LguBoundary)
    (tmntSourceControl : List TMNTSourceControl) (r : TidyLoad) (subbasin : String) : Prop :=
  (controlsMet load lguBoundary tmntSourceControl r).Perm
    (controlsOf tmntSourceControl subbasin r.variableName)

/-- The number of rows with this node and this subbasin. -/
def rowsNamed (lguBoundary : List LguBoundary) (nodeId subbasin : String) : ℕ :=
  (lguBoundary.filter fun l => l.nodeId = nodeId ∧ l.subbasin = some subbasin).length

/-- For the subbasin of every downstream control of the variable: the rows of `lgu_boundary` named
`SB_<subbasin>` have this subbasin once if it is the one of the node, and not at all otherwise. -/
def BoundaryKnows (lguBoundary : List LguBoundary) (tmntSourceControl : List TMNTSourceControl)
    (subbasin variableName : String) : Prop :=
  ∀ c ∈ tmntSourceControl, c.direction = .downstream → c.variableName = variableName →
    rowsNamed lguBoundary ("SB_" ++ subbasin) c.subbasin = if c.subbasin = subbasin then 1 else 0

instance (lgu : List LguBoundary) (srcCtrls : List TMNTSourceControl) (s v : String) :
    Decidable (BoundaryKnows lgu srcCtrls s v) :=
  inferInstanceAs (Decidable (∀ c ∈ srcCtrls, _ → _ → _))

/-- The controls that are joined: for each row of the node, those of its subbasin. -/
theorem perm_controlsMet (hnd : (load.map TidyLoad.key).Nodup) {r : TidyLoad} (hr : r ∈ load)
    (hrunoff : r.variableName ≠ "runoff") :
    (controlsMet load lgu srcCtrls r).Perm
      ((lgu.filter fun l => l.nodeId = r.nodeId).flatMap fun l => srcCtrls.filter fun c =>
        c.direction = .downstream ∧ some c.subbasin = l.subbasin ∧
          c.variableName = r.variableName) := by
  refine ((perm_joinSrcCtrls_key r.key).map (·.ctrl)).trans (List.Perm.of_eq ?_)
  have hmatching : ∀ l : Option LguBoundary,
      ((matching (srcCtrls.filter (·.direction = .downstream)) .downstream
        (r.withSubbasin (l.bind (·.subbasin)))).map fun c =>
          (⟨r.withSubbasin (l.bind (·.subbasin)), c⟩ : SrcCtrlRow)).map (·.ctrl) =
      srcCtrls.filter fun c => c.direction = .downstream ∧
        some c.subbasin = l.bind (·.subbasin) ∧ c.variableName = r.variableName := by
    intro l
    rw [List.map_map, matching_filter_direction, matching]
    exact List.map_id _
  rw [joinBoundary_filter hnd hr hrunoff, List.map_flatMap, List.flatMap_map]
  simp only [hmatching]
  exact flatMap_partners (by simp)

theorem count_controlsMet (hnd : (load.map TidyLoad.key).Nodup) {r : TidyLoad} (hr : r ∈ load)
    (hrunoff : r.variableName ≠ "runoff") (c : TMNTSourceControl) :
    (controlsMet load lgu srcCtrls r).count c =
      if c.direction = .downstream ∧ c.variableName = r.variableName then
        rowsNamed lgu r.nodeId c.subbasin * srcCtrls.count c else 0 := by
  have hrow : ∀ l : LguBoundary, (srcCtrls.filter fun c => c.direction = .downstream ∧
      some c.subbasin = l.subbasin ∧ c.variableName = r.variableName).count c =
        if l.subbasin = some c.subbasin then
          if c.direction = .downstream ∧ c.variableName = r.variableName then srcCtrls.count c
          else 0
        else 0 := by
    intro l
    rw [count_filter_eq_ite, ← ite_and]
    exact if_congr (by rw [eq_comm (a := l.subbasin)]; tauto) rfl rfl
  rw [(perm_controlsMet hnd hr hrunoff).count_eq, count_flatMap_of_ite hrow, List.filter_filter,
    rowsNamed, mul_ite, Nat.mul_zero]
  simp only [Bool.decide_and, Bool.and_comm]

theorem count_controlsOf (s v : String) (c : TMNTSourceControl) :
    (controlsOf srcCtrls s v).count c =
      if c.direction = .downstream ∧ c.variableName = v then
        (if c.subbasin = s then 1 else 0) * srcCtrls.count c else 0 := by
  rw [controlsOf, count_filter_eq_ite, ite_mul, Nat.one_mul, Nat.zero_mul, ← ite_and]
  exact if_congr (by tauto) rfl rfl

/-- **When the row of a subbasin node meets the controls of its subbasin.** -/
theorem meetsControlsOf_iff (hnd : (load.map TidyLoad.key).Nodup) {r : TidyLoad} (hr : r ∈ load)
    (hrunoff : r.variableName ≠ "runoff") {s : String} (hs : r.nodeId = "SB_" ++ s) :
    MeetsControlsOf load lgu srcCtrls r s ↔ BoundaryKnows lgu srcCtrls s r.variableName := by
  rw [MeetsControlsOf, List.perm_iff_count]
  simp only [count_controlsMet hnd hr hrunoff, count_controlsOf, hs]
  constructor
  · intro h c hc hdir hvar
    have hcount := h c
    rw [if_pos ⟨hdir, hvar⟩, if_pos ⟨hdir, hvar⟩] at hcount
    exact Nat.eq_of_mul_eq_mul_right (List.count_pos_iff.2 hc) hcount
  · intro h c
    by_cases hc : c ∈ srcCtrls
    · refine if_ctx_congr Iff.rfl (fun hdir => ?_) fun _ => rfl
      rw [h c hc hdir.1 hdir.2]
    · rw [List.count_eq_zero.2 hc, Nat.mul_zero, Nat.mul_zero]

/-! ### A subbasin that is covered by delineations -/

/-- A subbasin node that discharges suspended solids. -/
def subbasinResults : Results where
  columns := ["TSS_load_lbs", "TSS_load_lbs_total_discharged"]
  rows := [{ nodeId := "SB_FS_01", epoch := "1980s", col := fun c =>
    if c = "TSS_load_lbs_total_discharged" then some 100 else none }]
  filled := by decide

/-- The sweeping of streets in the subbasin. -/
def sweeping : TMNTSourceControl :=
  { subbasin := "FS_01", variableName := "TSS", order := 0, activity := "Street Sweeping",
    direction := .downstream, percentReduction := 21 }

/-- A facility drains the subbasin, with or without a rest of it. -/
def coveredBoundary : List LguBoundary :=
  [{ altid := some "SWFA-1", relid := some "SWFA-1", nodeId := "ls_1_SB_FS_01",
     subbasin := some "FS_01", basinname := some "FOSS WATERWAY" }]

/-- The subbasin with a land surface of its own. -/
def partlyCoveredBoundary : List LguBoundary :=
  coveredBoundary ++ [{ altid := none, relid := none, nodeId := "SB_FS_01",
                        subbasin := some "FS_01", basinname := some "FOSS WATERWAY" }]

/-- The suspended solids that the subbasin discharges. -/
def discharge : TidyLoad :=
  { nodeId := "SB_FS_01", epoch := "1980s", variableName := "TSS", value := 100, units := "lbs" }

theorem meetsControlsOf_partlyCovered :
    MeetsControlsOf [discharge] partlyCoveredBoundary [sweeping] discharge "FS_01" :=
  (meetsControlsOf_iff (by decide) List.mem_cons_self (by decide) rfl).2 (by decide)

/-- **In a subbasin that is covered entirely, the downstream controls reach nothing.** -/
theorem not_meetsControlsOf_covered :
    ¬ ∀ results load lgu srcCtrls, loadToDownstreamSrcCtrls results = .ok load →
      (load.map TidyLoad.key).Nodup → ∀ r ∈ load, r.variableName ≠ "runoff" →
        ∀ s, r.nodeId = "SB_" ++ s → MeetsControlsOf load lgu srcCtrls r s := by
  intro hall
  have hkeys : (loadToDownstreamSrcCtrls subbasinResults).map (List.map TidyLoad.key) =
      .ok (["TSS", "PHE", "PYR", "DEHP"].map fun v => ("SB_FS_01", "1980s", v)) := by
    decide +kernel
  obtain ⟨load, hload, hkey⟩ := map_eq_ok hkeys
  have hmem : ("SB_FS_01", "1980s", "TSS") ∈ load.map TidyLoad.key := hkey ▸ by decide
  obtain ⟨r, hr, hrkey⟩ := List.mem_map.1 hmem
  simp only [TidyLoad.key, Prod.mk.injEq] at hrkey
  obtain ⟨hnode, -, hvar⟩ := hrkey
  have hnd : (load.map TidyLoad.key).Nodup := hkey ▸ by decide
  have hrunoff : r.variableName ≠ "runoff" := hvar ▸ by decide
  have hmeets := hall subbasinResults load coveredBoundary [sweeping] hload hnd r hr hrunoff
    "FS_01" hnode
  have hcount := hmeets.count_eq sweeping
  rw [count_controlsMet hnd hr hrunoff, count_controlsOf, hnode, hvar] at hcount
  exact absurd hcount (by decide)

end StormPiper
