import StormPiper.SourceControl.Compound
import StormPiper.Watershed.EdgeList

/-!
# The stages of a load

The loads of the land surfaces pass the upstream source controls, the structural treatment and the
downstream source controls.  The load tables on this way have no subbasin; it is joined in from
`lgu_boundary` by the name of the node before the reductions are calculated
(`src/results.py`, `src/loading.py`).
-/

namespace StormPiper

open StormPiper.Frame

/-- A row of a load table. -/
structure TidyLoad where
  nodeId : String
  epoch : String
  variableName : String
  value : ℚ
  units : String
  deriving Repr, DecidableEq

/-- The columns that name a load. -/
def TidyLoad.key (r : TidyLoad) : String × String × String := (r.nodeId, r.epoch, r.variableName)

/-- A load row with a subbasin. -/
def TidyLoad.withSubbasin (r : TidyLoad) (subbasin : Option String) : LoadRow :=
  { nodeId := r.nodeId, epoch := r.epoch, variableName := r.variableName, subbasin := subbasin,
    value := r.value }

/-- The rows that are not runoff, with the subbasins that `lgu_boundary` has for their node. -/
def joinBoundary (load : List TidyLoad) (lguBoundary : List LguBoundary) : List LoadRow :=
  (mergeLeft TidyLoad.nodeId LguBoundary.nodeId (load.filter (·.variableName ≠ "runoff"))
    lguBoundary).map fun x => x.1.withSubbasin (x.2.bind (·.subbasin))

/-- The reductions of a load by the controls of one direction. -/
def sourceControlsLoadReductionDb (load : List TidyLoad) (lguBoundary : List LguBoundary)
    (tmntSourceControl : List TMNTSourceControl) (direction : Direction) :
    Except PyError LoadReduced :=
  calculateSrcCtrlPercentReduction (joinBoundary load lguBoundary)
    (tmntSourceControl.filter (·.direction = direction)) direction

/-- `source_controls_upstream_load_reduction_db` -/
def sourceControlsUpstreamLoadReductionDb (lguLoad : List TidyLoad)
    (lguBoundary : List LguBoundary) (tmntSourceControl : List TMNTSourceControl) :
    Except PyError LoadReduced :=
  sourceControlsLoadReductionDb lguLoad lguBoundary tmntSourceControl .upstream

/-- `source_controls_downstream_load_reduction_db` -/
def sourceControlsDownstreamLoadReductionDb (loadToDsSrcCtrl : List TidyLoad)
    (lguBoundary : List LguBoundary) (tmntSourceControl : List TMNTSourceControl) :
    Except PyError LoadReduced :=
  sourceControlsLoadReductionDb loadToDsSrcCtrl lguBoundary tmntSourceControl .downstream

/-- Subtract from each load the sum of what its controls take away. -/
def TidyLoad.applyTidyLoadReduction (load : List TidyLoad) :
    LoadReduced → Except PyError (List TidyLoad)
  | .noColumns => .error .keyError
  | .frame rows =>
    .ok <| (mergeLeft TidyLoad.key Prod.fst load (groupbySum (·.key) (·.loadReduced) rows)).map
      fun x => { x.1 with value := x.1.value - (x.2.map Prod.snd).getD 0 }

/-- The load that is handed to the structural treatment: the upstream reductions are calculated,
stored and subtracted. -/
def loadToStructuralBmps (lguLoad : List TidyLoad) (lguBoundary : List LguBoundary)
    (tmntSourceControl : List TMNTSourceControl) : Except PyError (List TidyLoad) := do
  let loadReduced ← sourceControlsUpstreamLoadReductionDb lguLoad lguBoundary tmntSourceControl
  TidyLoad.applyTidyLoadReduction lguLoad loadReduced.throughTable

/-! ### The joined rows -/

variable {load : List TidyLoad} {lgu : List LguBoundary} {srcCtrls : List TMNTSourceControl}
  {direction : Direction}

@[simp] theorem key_withSubbasin (r : TidyLoad) (subbasin : Option String) :
    (r.withSubbasin subbasin).key = r.key := rfl

/-- The joined rows of one load row: one for each row of its node, or one without a subbasin. -/
theorem joinBoundary_filter (hnd : (load.map TidyLoad.key).Nodup) {r : TidyLoad} (hr : r ∈ load)
    (hrunoff : r.variableName ≠ "runoff") :
    ((joinBoundary load lgu).filter fun x => x.key = r.key) =
      (partners LguBoundary.nodeId lgu r.nodeId).map fun l =>
        r.withSubbasin (l.bind (·.subbasin)) := by
  set pollutants := load.filter (·.variableName ≠ "runoff") with hpollutants
  have hmem : r ∈ pollutants := List.mem_filter.2 ⟨hr, by simpa using hrunoff⟩
  have hndp : (pollutants.map TidyLoad.key).Nodup :=
    hnd.sublist (List.filter_sublist.map _)
  rw [joinBoundary, ← hpollutants, List.filter_map]
  refine (congrArg _ (mergeLeft_filter_key TidyLoad.key r.key)).trans ?_
  rw [filter_key_eq_singleton _ hndp hmem, mergeLeft, List.flatMap_singleton, List.map_map]
  rfl

theorem matching_filter_direction (srcCtrls : List TMNTSourceControl) (direction : Direction)
    (r : LoadRow) : matching (srcCtrls.filter (·.direction = direction)) direction r =
      matching srcCtrls direction r := by
  rw [matching, matching, List.filter_filter]
  refine List.filter_congr fun c _ => ?_
  rw [← Bool.decide_and]
  exact decide_eq_decide.2 ⟨And.left, fun h => ⟨h, h.1⟩⟩

theorem appliedOrders_filter_direction (load : List LoadRow) (srcCtrls : List TMNTSourceControl)
    (direction : Direction) :
    appliedOrders load (srcCtrls.filter (·.direction = direction)) direction =
      appliedOrders load srcCtrls direction := by
  have hmatching : matching (srcCtrls.filter (·.direction = direction)) direction =
      matching srcCtrls direction := funext (matching_filter_direction srcCtrls direction)
  rw [appliedOrders, hmatching]
  rfl

/-- The controls of one direction. -/
def SourceControlTable.directional (srcCtrls : SourceControlTable) (direction : Direction) :
    SourceControlTable where
  rows := srcCtrls.rows.filter (·.direction = direction)
  order_unique := srcCtrls.order_unique.sublist (List.filter_sublist.map _)
  activity_unique := srcCtrls.activity_unique.sublist (List.filter_sublist.map _)
  percentReduction_mem c hc := srcCtrls.percentReduction_mem c (List.mem_filter.1 hc).1

/-! ### One row for each node -/

/-- A load table with one row for each node, epoch and variable. -/
structure TidyLoadTable where
  rows : List TidyLoad
  key_nodup : (rows.map TidyLoad.key).Nodup

/-- `lgu_boundary` with one row for each node. -/
structure BoundaryTable where
  rows : List LguBoundary
  nodeId_nodup : (rows.map LguBoundary.nodeId).Nodup

/-- The subbasin of a node. -/
def BoundaryTable.subbasinOf (lgu : BoundaryTable) (nodeId : String) : Option String :=
  (lgu.rows.find? fun l => l.nodeId = nodeId).bind (·.subbasin)

/-- Each row that is not runoff is joined once, with the subbasin of its node. -/
theorem joinBoundary_eq (load : List TidyLoad) (lgu : BoundaryTable) :
    joinBoundary load lgu.rows = (load.filter (·.variableName ≠ "runoff")).map fun r =>
      r.withSubbasin (lgu.subbasinOf r.nodeId) := by
  have hpartner : ∀ n, partners LguBoundary.nodeId lgu.rows n =
      [lgu.rows.find? fun l => l.nodeId = n] := fun n =>
    partners_eq_find LguBoundary.nodeId (length_filter_key_le_one _ lgu.nodeId_nodup n)
  rw [joinBoundary, mergeLeft, List.map_flatMap]
  simp only [hpartner, List.map_cons, List.map_nil]
  rw [← List.map_eq_flatMap]
  rfl

/-- The joined table has one row for each node, epoch and variable again. -/
def TidyLoadTable.joined (load : TidyLoadTable) (lgu : BoundaryTable) : LoadTable where
  rows := joinBoundary load.rows lgu.rows
  key_nodup := by
    rw [joinBoundary_eq, List.map_map]
    exact load.key_nodup.sublist (List.filter_sublist.map _)

/-- The part of a load that the controls of a variable leave, in the subbasin of a node. -/
noncomputable def leaves (load : TidyLoadTable) (lgu : BoundaryTable)
    (srcCtrls : SourceControlTable) (direction : Direction) (r : TidyLoad) : ℚ :=
  leftOver (appliedOrders (joinBoundary load.rows lgu.rows) srcCtrls.rows direction)
    (matching srcCtrls.rows direction (r.withSubbasin (lgu.subbasinOf r.nodeId)))

theorem TidyLoad.applyTidyLoadReduction_frame (load : List TidyLoad) (rows : List LoadReducedRow) :
    TidyLoad.applyTidyLoadReduction load (.frame rows) = .ok (load.map fun r =>
      { r with value := r.value -
          ((rows.filter fun x => x.key = r.key).map (·.loadReduced)).sum }) := by
  have hmerge := congrArg (List.map fun x : TidyLoad × ℚ =>
    { x.1 with value := x.1.value - x.2 }) (mergeLeft_groupbySum TidyLoad.key
      (fun x : LoadReducedRow => x.key) (·.loadReduced) load rows)
  rw [List.map_map, List.map_map] at hmerge
  exact congrArg Except.ok hmerge

/-- What the structural treatment gets of the loads that are not runoff. -/
theorem loadToStructuralBmps_spec (load : TidyLoadTable) (lgu : BoundaryTable)
    (srcCtrls : SourceControlTable) :
    (¬ LookupsInRange (appliedOrders (joinBoundary load.rows lgu.rows) srcCtrls.rows .upstream) →
      loadToStructuralBmps load.rows lgu.rows srcCtrls.rows = .error .indexError) ∧
    (LookupsInRange (appliedOrders (joinBoundary load.rows lgu.rows) srcCtrls.rows .upstream) →
      ∃ f : TidyLoad → ℚ, loadToStructuralBmps load.rows lgu.rows srcCtrls.rows =
          .ok (load.rows.map fun r => { r with value := f r }) ∧
        ∀ r ∈ load.rows, r.variableName ≠ "runoff" →
          f r = r.value * leaves load lgu srcCtrls .upstream r) := by
  have hspec := calculateSrcCtrlPercentReduction_taken (load.joined lgu)
    (srcCtrls.directional .upstream) .upstream
  have horders : appliedOrders (load.joined lgu).rows (srcCtrls.directional .upstream).rows
      .upstream = appliedOrders (joinBoundary load.rows lgu.rows) srcCtrls.rows .upstream :=
    appliedOrders_filter_direction ..
  rw [horders] at hspec
  obtain ⟨herr, hok⟩ := hspec
  refine ⟨fun h => ?_, fun h => ?_⟩
  · exact congrArg (· >>= _) (herr h)
  · obtain ⟨out, rows, hout, htable, htaken⟩ := hok h
    refine ⟨fun r => r.value - ((rows.filter fun x => x.key = r.key).map (·.loadReduced)).sum, ?_,
      fun r hr hrunoff => ?_⟩
    · refine (congrArg (· >>= _) hout).trans ?_
      rw [ok_bind, htable]
      exact TidyLoad.applyTidyLoadReduction_frame load.rows rows
    · have hmem : r.withSubbasin (lgu.subbasinOf r.nodeId) ∈ (load.joined lgu).rows := by
        show _ ∈ joinBoundary load.rows lgu.rows
        rw [joinBoundary_eq]
        exact List.mem_map_of_mem (List.mem_filter.2 ⟨hr, by simpa using hrunoff⟩)
      have hmatching : matching (srcCtrls.directional .upstream).rows .upstream
          (r.withSubbasin (lgu.subbasinOf r.nodeId)) =
            matching srcCtrls.rows .upstream (r.withSubbasin (lgu.subbasinOf r.nodeId)) :=
        matching_filter_direction ..
      have hsum := htaken _ hmem
      rw [key_withSubbasin, hmatching] at hsum
      simp only [hsum, leaves]
      show r.value - r.value * (1 - _) = _
      ring

/-! ### The rows that are returned -/

section Returned

variable {df1 : List SrcCtrlRow} {orders : List ℤ} {df2 : List (List RemainingRow)} {i k : ℕ}
  {o : ℤ}

/-- The frame has the joined rows of an order. -/
def FrameOf (df1 : List SrcCtrlRow) (o : ℤ) (frame : List RemainingRow) : Prop :=
  frame.map (·.toSrcCtrlRow) = df1.filter fun x => x.ctrl.order = o

/-- No two joined rows agree in load and order. -/
def GroupsUnique (df1 : List SrcCtrlRow) : Prop :=
  ∀ x ∈ df1, (df1.filter fun y => y.group = x.group).length ≤ 1

theorem FrameOf.length_key_le_one (hunique : GroupsUnique df1) {frame : List RemainingRow}
    (h : FrameOf df1 o frame) (key : String × String × String) :
    (frame.filter fun x => x.key = key).length ≤ 1 := by
  have hlen : (frame.filter fun x => x.key = key).length =
      (df1.filter fun y => y.group = (key, o)).length := by
    have hmap : (frame.filter fun x => x.key = key).map (·.toSrcCtrlRow) =
        (frame.map (·.toSrcCtrlRow)).filter fun y => y.key = key := by
      rw [List.filter_map]
      rfl
    rw [← List.length_map, hmap, h, List.filter_filter]
    simp only [SrcCtrlRow.group, Prod.mk.injEq, Bool.decide_and]
  rw [hlen]
  by_cases hex : ∃ x ∈ df1, x.group = (key, o)
  · obtain ⟨x, hx, hgroup⟩ := hex
    exact hgroup ▸ hunique x hx
  · rw [List.filter_eq_nil_iff.2 fun x hx => by simpa using fun hgroup => hex ⟨x, hx, hgroup⟩]
    exact Nat.zero_le 1

variable (df1 orders o) in
theorem remainingFrame_frameOf_zero :
    ∃ frame, remainingFrame df1 orders [] 0 o = .ok frame ∧ FrameOf df1 o frame := by
  refine ⟨_, rfl, ?_⟩
  rw [FrameOf, List.map_map, List.map_map]
  exact List.map_id _

theorem remainingFrame_frameOf (hi : 0 < i) (hlen : df2.length = i) (ho : orders[i]? = some o)
    (hk : frameConsulted orders i = some k)
    (hkeys : ∀ frame, df2[k]? = some frame → ∀ key,
      (frame.filter fun x : RemainingRow => x.key = key).length ≤ 1) :
    ∃ frame, remainingFrame df1 orders df2 i o = .ok frame ∧ FrameOf df1 o frame := by
  obtain ⟨consulted, hconsulted, heq⟩ := exists_remainingFrame_eq df1 hi hlen ho hk
  refine ⟨_, heq, ?_⟩
  rw [FrameOf, List.map_map, List.map_map]
  exact map_fst_mergeLeft fun a _ => hkeys _ hconsulted _

theorem remainingFrames_frameOf (hunique : GroupsUnique df1)
    (h : remainingFrames df1 orders orders.length = .ok df2) :
    df2.length = orders.length ∧
      ∀ (i : ℕ) frame, df2[i]? = some frame → ∀ o, orders[i]? = some o → FrameOf df1 o frame := by
  have hzero : ∀ o, orders[0]? = some o → ∃ frame, remainingFrame df1 orders [] 0 o = .ok frame ∧
      ∀ o', orders[0]? = some o' → FrameOf df1 o' frame := by
    intro o ho
    obtain ⟨frame, hframe, hof⟩ := remainingFrame_frameOf_zero df1 orders o
    exact ⟨frame, hframe, fun o' ho' => Option.some.inj (ho.symm.trans ho') ▸ hof⟩
  have hturn : ∀ (df2 : List (List RemainingRow)) (i : ℕ) (o : ℤ) (k : ℕ), 0 < i →
      df2.length = i → orders[i]? = some o → frameConsulted orders i = some k →
      (∀ frame, df2[k]? = some frame → ∀ o', orders[k]? = some o' → FrameOf df1 o' frame) →
      ∃ frame, remainingFrame df1 orders df2 i o = .ok frame ∧
        ∀ o', orders[i]? = some o' → FrameOf df1 o' frame := by
    intro df2 i o k hi hlen ho hk hR
    have hklt : k < orders.length := Nat.lt_trans (frameConsulted_lt hk)
      (List.getElem?_eq_some_iff.1 ho).1
    obtain ⟨frame, hframe, hof⟩ := remainingFrame_frameOf hi hlen ho hk fun frame hframe key =>
      (hR frame hframe _ (List.getElem?_eq_getElem hklt)).length_key_le_one hunique key
    exact ⟨frame, hframe, fun o' ho' => Option.some.inj (ho.symm.trans ho') ▸ hof⟩
  obtain ⟨hok, herr⟩ := remainingFrames_spec
    (R := fun i frame => ∀ o, orders[i]? = some o → FrameOf df1 o frame)
    hzero hturn orders.length (Nat.le_refl _)
  by_cases hrange : ∀ i < orders.length, 0 < i → (frameConsulted orders i).isSome
  · obtain ⟨df2', hdf2, hlen, hframes⟩ := hok hrange
    obtain rfl : df2' = df2 := Except.ok.inj (hdf2.symm.trans h)
    exact ⟨hlen, hframes⟩
  · exact absurd (h.symm.trans (herr hrange)) (by simp)

/-- All frames together have the joined rows. -/
theorem perm_flatten_of_frameOf (hlen : df2.length = (sortedUnique (·.ctrl.order) df1).length)
    (hframes : ∀ (i : ℕ) frame, df2[i]? = some frame →
      ∀ o, (sortedUnique (·.ctrl.order) df1)[i]? = some o → FrameOf df1 o frame) :
    (df2.flatten.map (·.toSrcCtrlRow)).Perm df1 := by
  have heq : df2.map (List.map (·.toSrcCtrlRow)) =
      (sortedUnique (·.ctrl.order) df1).map fun o => df1.filter fun x => x.ctrl.order = o := by
    refine List.ext_getElem (by simp [hlen]) fun i hi hi' => ?_
    simp only [List.length_map] at hi hi'
    rw [List.getElem_map, List.getElem_map]
    exact hframes i _ (List.getElem?_eq_getElem hi) _ (List.getElem?_eq_getElem hi')
  rw [List.map_flatten, heq, ← List.flatMap_def]
  exact perm_flatMap_filter_key _ (nodup_sortedUnique _ _) fun x hx =>
    mem_sortedUnique.2 ⟨x, hx, rfl⟩

theorem map_toSrcCtrlRow_reducedRows (df2 : List (List RemainingRow)) :
    ((reducedRows df2).map (·.toSrcCtrlRow)).Perm (df2.flatten.map (·.toSrcCtrlRow)) := by
  have hrows : (reducedRows df2).map (·.toRemainingRow) =
      sortValues (fun a b : RemainingRow => a.toSrcCtrlRow.le b.toSrcCtrlRow) df2.flatten := by
    rw [reducedRows, List.map_map]
    exact List.zipIdx_map_fst ..
  have hmap := ((perm_sortValues (fun a b : RemainingRow => a.toSrcCtrlRow.le b.toSrcCtrlRow)
    df2.flatten).map (·.toSrcCtrlRow))
  rw [← hrows, List.map_map] at hmap
  exact hmap

/-- **The calculation returns each joined row once.** -/
theorem perm_toSrcCtrlRow_of_frame {load : List LoadRow} {srcCtrls : List TMNTSourceControl}
    {direction : Direction} {rows : List LoadReducedRow}
    (h : calculateSrcCtrlPercentReduction load srcCtrls direction = .ok (.frame rows)) :
    (rows.map (·.toSrcCtrlRow)).Perm (joinSrcCtrls load srcCtrls direction) := by
  unfold calculateSrcCtrlPercentReduction at h
  dsimp only at h
  split_ifs at h with hunique
  obtain ⟨df2, hdf2, h⟩ := bind_eq_ok h
  obtain ⟨hlen, hframes⟩ := remainingFrames_frameOf hunique hdf2
  split_ifs at h
  · cases h
  · obtain rfl : reducedRows df2 = rows := LoadReduced.frame.inj (Except.ok.inj h)
    exact (map_toSrcCtrlRow_reducedRows df2).trans (perm_flatten_of_frameOf hlen hframes)

end Returned

end StormPiper
