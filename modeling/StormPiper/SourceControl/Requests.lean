import StormPiper.Database.Linearized
import StormPiper.SourceControl.PercentReduction
import Mathlib.Data.List.ProdSigma

/-!
# The requests to the source controls

The table `tmnt_source_control` is edited through the endpoints of
`api/endpoints/tmnt_source_control.py`.  Two of its columns may be null for the database, but the
requests never make them so, and its constraints are those of `SourceControlTable`: whatever is
asked of the table, by however many users at a time, the stages of the source controls can use it.

* `sourceControls_run` : from the default table, every run is linearized and leaves a
  `SourceControlTable`.
-/

namespace StormPiper

open StormPiper.Frame

/-! ### The table -/

/-- An `Integer` column can hold it. -/
def IsInt32 (n : ℤ) : Prop := -2 ^ 31 ≤ n ∧ n < 2 ^ 31

instance (n : ℤ) : Decidable (IsInt32 n) := inferInstanceAs (Decidable (_ ∧ _))

/-- A row of the table `tmnt_source_control`, where null columns are `none`. -/
structure SourceControlRow where
  id : ℤ
  subbasin : Option String
  variableName : Option String
  order : Option ℤ
  activity : Option String
  direction : Option Direction
  percentReduction : Option ℚ
  updatedBy : Option String
  deriving DecidableEq

namespace SourceControlRow

/-- The columns that are not nullable, the range of an `Integer` column, and the check. -/
def Accepted (r : SourceControlRow) : Prop :=
  r.subbasin.isSome ∧ r.variableName.isSome ∧ r.activity.isSome ∧ r.direction.isSome ∧
  (∀ o ∈ r.order, IsInt32 o) ∧ ∀ p ∈ r.percentReduction, 0 ≤ p ∧ p ≤ 100

instance (r : SourceControlRow) : Decidable r.Accepted := by
  unfold Accepted
  infer_instance

/-- The columns of the first unique constraint, if none of them is null. -/
def orderKey (r : SourceControlRow) : Option (Direction × String × String × ℤ) := do
  return (← r.direction, ← r.subbasin, ← r.variableName, ← r.order)

/-- The columns of the second unique constraint. -/
def activityKey (r : SourceControlRow) : Option (Direction × String × String × String) := do
  return (← r.direction, ← r.subbasin, ← r.variableName, ← r.activity)

/-- The row as a source control, if no column of it is null. -/
def control? (r : SourceControlRow) : Option TMNTSourceControl := do
  return { subbasin := ← r.subbasin
           variableName := ← r.variableName
           order := ← r.order
           activity := ← r.activity
           direction := ← r.direction
           percentReduction := ← r.percentReduction }

/-- The order and the reduction are not null. -/
def Complete (r : SourceControlRow) : Prop := r.order.isSome ∧ r.percentReduction.isSome

end SourceControlRow

/-- The constraints of the table. -/
def sourceControlConstraints (rows : List SourceControlRow) : Bool :=
  (∀ r ∈ rows, r.Accepted) && (rows.filterMap SourceControlRow.orderKey).Nodup &&
    (rows.filterMap SourceControlRow.activityKey).Nodup

theorem sourceControlConstraints_iff {rows : List SourceControlRow} :
    sourceControlConstraints rows = true ↔ (∀ r ∈ rows, r.Accepted) ∧
      (rows.filterMap SourceControlRow.orderKey).Nodup ∧
      (rows.filterMap SourceControlRow.activityKey).Nodup := by
  simp [sourceControlConstraints, and_assoc]

/-- The table `tmnt_source_control`. -/
def sourceControlTable : CrudTable SourceControlRow ℤ where
  idOf := SourceControlRow.id
  setId id r := { r with id := id }
  idOf_setId _ _ := rfl
  serial n := n
  serial_injective := Nat.cast_injective
  inRange id := decide (IsInt32 id)
  constraints := sourceControlConstraints
  constraints_filter p rows h := by
    obtain ⟨haccepted, horder, hactivity⟩ := sourceControlConstraints_iff.1 h
    exact sourceControlConstraints_iff.2 ⟨fun r hr => haccepted r (List.mem_filter.1 hr).1,
      horder.sublist (List.filter_sublist.filterMap _),
      hactivity.sublist (List.filter_sublist.filterMap _)⟩

/-! ### The requests -/

/-- The body of a `POST` or `PATCH`. -/
structure SourceControlBody where
  activity : ModelField String := .unset
  subbasin : ModelField String := .unset
  direction : ModelField Direction := .unset
  order : ModelField ℤ := .unset
  variableName : ModelField String := .unset
  percentReduction : ModelField ℚ := .unset

namespace SourceControlBody

/-- The columns that are set by `model_dump(exclude_unset=True, exclude_none=True)`, and the email
of the user. -/
def write (body : SourceControlBody) (email : String) (r : SourceControlRow) : SourceControlRow :=
  { r with
    activity := body.activity.dropna.apply r.activity
    subbasin := body.subbasin.dropna.apply r.subbasin
    direction := body.direction.dropna.apply r.direction
    order := body.order.dropna.apply r.order
    variableName := body.variableName.dropna.apply r.variableName
    percentReduction := body.percentReduction.dropna.apply r.percentReduction
    updatedBy := some email }

end SourceControlBody

/-- The defaults of the columns.  That of the order is the float `1e6`, which the driver may take
for an integer. -/
def SourceControlRow.default (orderDefault : Option ℤ) : SourceControlRow where
  id := 0
  subbasin := none
  variableName := none
  order := orderDefault
  activity := none
  direction := none
  percentReduction := some 0
  updatedBy := none

/-- The row that a `POST` inserts, if the driver takes its order. -/
def SourceControlBody.newRow (orderDefault : Option ℤ) (body : SourceControlBody) (email : String) :
    Option SourceControlRow :=
  let row := body.write email (.default orderDefault)
  if row.order.isSome then some row else none

/-- A request to an endpoint of the source controls. -/
inductive SourceControlRequest where
  | get (id : ℤ)
  | post (body : SourceControlBody) (email : String)
  | patch (id : ℤ) (body : SourceControlBody) (email : String)
  | delete (id : ℤ)

/-- What an endpoint does with its request. -/
def SourceControlRequest.toCrud (orderDefault : Option ℤ) :
    SourceControlRequest → CrudRequest SourceControlRow ℤ
  | get id => .get id
  | post body email => .create (body.newRow orderDefault email)
  | patch id body email => .patch id (body.write email)
  | delete id => .remove id

/-- A request arrives, or one makes its next step. -/
inductive SourceControlAction where
  | request (r : SourceControlRequest)
  | step (i : ℕ)

/-- The action on the table. -/
def SourceControlAction.toCrud (orderDefault : Option ℤ) :
    SourceControlAction → CrudAction SourceControlRow ℤ
  | request r => .request (r.toCrud orderDefault)
  | step i => .step i

/-! ### What the requests keep -/

theorem isSome_dropna_apply {α : Type} {x : Option α} (f : ModelField α) (h : x.isSome) :
    (f.dropna.apply x).isSome := by
  cases f <;> simp [ModelField.dropna, h]

theorem complete_write (body : SourceControlBody) (email : String) {r : SourceControlRow}
    (h : r.Complete) : (body.write email r).Complete :=
  ⟨isSome_dropna_apply _ h.1, isSome_dropna_apply _ h.2⟩

theorem complete_newRow {orderDefault : Option ℤ} {body : SourceControlBody} {email : String}
    {r : SourceControlRow} (h : r ∈ body.newRow orderDefault email) : r.Complete := by
  simp only [SourceControlBody.newRow] at h
  split_ifs at h with horder
  · obtain rfl := Option.some.inj h
    exact ⟨horder, isSome_dropna_apply _ rfl⟩
  · cases h

theorem keeps_complete (orderDefault : Option ℤ) (r : SourceControlRequest) :
    sourceControlTable.Keeps SourceControlRow.Complete (r.toCrud orderDefault) := by
  cases r with
  | get _ | delete _ => trivial
  | post body email => exact fun row hrow _ => (complete_newRow hrow : row.Complete)
  | patch _ body email => exact fun _ h => complete_write body email h

/-- A complete row that the database accepts is a source control. -/
theorem exists_control {r : SourceControlRow} (h : r.Accepted) (hcomplete : r.Complete) :
    ∃ c, r.control? = some c ∧
      r.orderKey = some (c.direction, c.subbasin, c.variableName, c.order) ∧
      r.activityKey = some (c.direction, c.subbasin, c.variableName, c.activity) ∧
      0 ≤ c.percentReduction ∧ c.percentReduction ≤ 100 := by
  obtain ⟨hsubbasin, hvariable, hactivity, hdirection, -, hpercent⟩ := h
  obtain ⟨horder, hreduction⟩ := hcomplete
  obtain ⟨subbasin, hs⟩ := Option.isSome_iff_exists.1 hsubbasin
  obtain ⟨variableName, hv⟩ := Option.isSome_iff_exists.1 hvariable
  obtain ⟨activity, ha⟩ := Option.isSome_iff_exists.1 hactivity
  obtain ⟨direction, hd⟩ := Option.isSome_iff_exists.1 hdirection
  obtain ⟨order, ho⟩ := Option.isSome_iff_exists.1 horder
  obtain ⟨percent, hp⟩ := Option.isSome_iff_exists.1 hreduction
  refine ⟨⟨subbasin, variableName, order, activity, direction, percent⟩, ?_, ?_, ?_,
    hpercent percent hp⟩
  · simp [SourceControlRow.control?, hs, hv, ha, hd, ho, hp]
  · simp [SourceControlRow.orderKey, hs, hv, hd, ho]
  · simp [SourceControlRow.activityKey, hs, hv, ha, hd]

/-- **Complete rows that the database accepts are a table of source controls.** -/
theorem exists_sourceControlTable {rows : List SourceControlRow}
    (h : sourceControlTable.accepts rows = true) (hcomplete : ∀ r ∈ rows, r.Complete) :
    ∃ table : SourceControlTable, rows.map SourceControlRow.control? = table.rows.map some := by
  obtain ⟨haccepted, horder, hactivity⟩ :=
    sourceControlConstraints_iff.1 (Bool.and_eq_true_iff.1 h).2
  have hcontrol {r : SourceControlRow} (hr : r ∈ rows) :=
    exists_control (haccepted r hr) (hcomplete r hr)
  refine ⟨⟨rows.filterMap SourceControlRow.control?, ?_, ?_, fun c hc => ?_⟩, ?_⟩
  · rw [List.map_filterMap]
    refine (List.filterMap_congr fun r hr => ?_) ▸ horder
    obtain ⟨c, hc, hkey, -⟩ := hcontrol hr
    rw [hc, hkey]
    rfl
  · rw [List.map_filterMap]
    refine (List.filterMap_congr fun r hr => ?_) ▸ hactivity
    obtain ⟨c, hc, -, hkey, -⟩ := hcontrol hr
    rw [hc, hkey]
    rfl
  · obtain ⟨r, hr, hsome⟩ := List.mem_filterMap.1 hc
    obtain ⟨c', hc', -, -, hmem⟩ := hcontrol hr
    cases hc'.symm.trans hsome
    exact hmem
  · rw [List.map_filterMap, ← List.filterMap_eq_map]
    refine List.filterMap_congr fun r hr => ?_
    obtain ⟨c, hc, -⟩ := hcontrol hr
    rw [Function.comp_apply, hc]
    rfl

/-! ### The default table -/

/-- `Sweeping_Pct_Reduction` -/
def SWEEPING_PCT_REDUCTION : List (String × ℚ) :=
  [("DEHP", 44), ("PHE", 58), ("PYR", 60), ("TSS", 21), ("TZn", 29)]

/-- `StormLineCleaning_Pct_Reduction` -/
def STORM_LINE_CLEANING_PCT_REDUCTION : List (String × ℚ) :=
  [("DEHP", 54), ("PHE", 75), ("PYR", 80), ("TSS", 28), ("TZn", 30)]

/-- The default controls, without their subbasins. -/
def defaultControls : List SourceControlRow :=
  (SWEEPING_PCT_REDUCTION.map fun p =>
    { SourceControlRow.default none with
      activity := some "Street Sweeping", direction := some .upstream, order := some 0
      variableName := some p.1, percentReduction := some p.2 }) ++
  STORM_LINE_CLEANING_PCT_REDUCTION.map fun p =>
    { SourceControlRow.default none with
      activity := some "Storm Line Cleaning", direction := some .downstream, order := some 0
      variableName := some p.1, percentReduction := some p.2 }

/-- Each of the controls in each of the subbasins. -/
def crossSubbasins (fossSubbasins : List String) : List SourceControlRow :=
  (defaultControls ×ˢ fossSubbasins).map fun x => { x.1 with subbasin := some x.2 }

/-- `foss_tmnt_source_control`: the rows are numbered from one. -/
def fossTmntSourceControl (fossSubbasins : List String) : List SourceControlRow :=
  (crossSubbasins fossSubbasins).zipIdx.map fun x => { x.1 with id := x.2 + 1 }

/-- The default table with its sequence reset, before any request. -/
def fossState (fossSubbasins : List String) : CrudState SourceControlRow ℤ where
  rows := fossTmntSourceControl fossSubbasins
  nextId := (fossTmntSourceControl fossSubbasins).length + 1
  sessions := []
  commits := []

section Default

variable {subbasins : List String}

theorem mem_fossTmntSourceControl {r : SourceControlRow} (h : r ∈ fossTmntSourceControl subbasins) :
    ∃ c ∈ defaultControls, ∃ s i, i < (fossTmntSourceControl subbasins).length ∧
      r = { c with subbasin := some s, id := i + 1 } := by
  obtain ⟨⟨r', i⟩, hr', rfl⟩ := List.mem_map.1 h
  obtain ⟨-, hi, hget⟩ := List.mem_zipIdx hr'
  have hmem : r' ∈ crossSubbasins subbasins := hget ▸ List.getElem_mem _
  obtain ⟨⟨c, s⟩, hc, rfl⟩ := List.mem_map.1 hmem
  refine ⟨c, (List.mem_product.1 hc).1, s, i, ?_, rfl⟩
  simpa [fossTmntSourceControl] using hi

/-- The keys of the rows differ if the controls differ in them. -/
theorem nodup_keys {K : Type} (key : SourceControlRow → Option (Direction × String × String × K))
    (own : SourceControlRow → Direction × String × K) (hid : ∀ r i, key { r with id := i } = key r)
    (hkey : ∀ r ∈ defaultControls, ∀ s, key { r with subbasin := some s } =
      some ((own r).1, s, (own r).2)) (hown : (defaultControls.map own).Nodup)
    (hnd : subbasins.Nodup) : ((fossTmntSourceControl subbasins).filterMap key).Nodup := by
  have hcross : (fossTmntSourceControl subbasins).filterMap key =
      (defaultControls ×ˢ subbasins).map fun x => ((own x.1).1, x.2, (own x.1).2) := by
    have hzip : (fossTmntSourceControl subbasins).filterMap key =
        ((crossSubbasins subbasins).zipIdx.map Prod.fst).filterMap key := by
      rw [fossTmntSourceControl, List.filterMap_map, List.filterMap_map]
      exact List.filterMap_congr fun x _ => hid x.1 (x.2 + 1)
    rw [hzip, List.zipIdx_map_fst, crossSubbasins, List.filterMap_map, ← List.filterMap_eq_map]
    exact List.filterMap_congr fun x hx => hkey x.1 (List.mem_product.1 hx).1 x.2
  rw [hcross]
  refine ((List.Nodup.of_map own hown).product hnd).map_on fun x hx y hy heq => ?_
  simp only [Prod.mk.injEq] at heq
  obtain ⟨hdirection, hsubbasin, hrest⟩ := heq
  have hown := List.inj_on_of_nodup_map hown (List.mem_product.1 hx).1 (List.mem_product.1 hy).1
    (Prod.ext hdirection hrest)
  exact Prod.ext hown hsubbasin

/-- The default table meets its constraints, and no column of it is null. -/
theorem start_fossState (hnd : subbasins.Nodup) :
    sourceControlTable.Start (fossState subbasins) ∧
      ∀ r ∈ (fossState subbasins).rows, r.Complete := by
  have hall : ∀ c ∈ defaultControls, c.variableName.isSome ∧ c.activity.isSome ∧
      c.direction.isSome ∧ c.order = some 0 ∧ c.percentReduction.isSome ∧
      ∀ p ∈ c.percentReduction, 0 ≤ p ∧ p ≤ 100 := by decide +kernel
  have haccepted : ∀ r ∈ fossTmntSourceControl subbasins, r.Accepted := by
    intro r hr
    obtain ⟨c, hc, s, i, -, rfl⟩ := mem_fossTmntSourceControl hr
    obtain ⟨hvariable, hactivity, hdirection, horder, -, hpercent⟩ := hall c hc
    exact ⟨rfl, hvariable, hactivity, hdirection, by simp [horder, IsInt32], hpercent⟩
  have horder : ((fossTmntSourceControl subbasins).filterMap SourceControlRow.orderKey).Nodup := by
    refine nodup_keys _ (fun c => (c.direction.getD .upstream, c.variableName.getD "", 0))
      (fun _ _ => rfl) (fun c hc s => ?_) (by decide +kernel) hnd
    obtain ⟨hvariable, -, hdirection, horder, -⟩ := hall c hc
    obtain ⟨v, hv⟩ := Option.isSome_iff_exists.1 hvariable
    obtain ⟨d, hd⟩ := Option.isSome_iff_exists.1 hdirection
    simp [SourceControlRow.orderKey, hv, hd, horder]
  have hactivity :
      ((fossTmntSourceControl subbasins).filterMap SourceControlRow.activityKey).Nodup := by
    refine nodup_keys _ (fun c =>
      (c.direction.getD .upstream, c.variableName.getD "", c.activity.getD ""))
      (fun _ _ => rfl) (fun c hc s => ?_) (by decide +kernel) hnd
    obtain ⟨hvariable, hactivity, hdirection, -⟩ := hall c hc
    obtain ⟨v, hv⟩ := Option.isSome_iff_exists.1 hvariable
    obtain ⟨a, ha⟩ := Option.isSome_iff_exists.1 hactivity
    obtain ⟨d, hd⟩ := Option.isSome_iff_exists.1 hdirection
    simp [SourceControlRow.activityKey, hv, ha, hd]
  have hids : ((fossTmntSourceControl subbasins).map SourceControlRow.id).Nodup := by
    have hmap : (fossTmntSourceControl subbasins).map SourceControlRow.id =
        ((crossSubbasins subbasins).zipIdx.map Prod.snd).map fun i : ℕ => (i : ℤ) + 1 := by
      rw [fossTmntSourceControl, List.map_map, List.map_map]
      rfl
    rw [hmap, List.zipIdx_map_snd]
    exact (List.nodup_range' ..).map fun m n h => by simpa using h
  refine ⟨⟨?_, fun r hr n hn => ?_, rfl, rfl⟩, fun r hr => ?_⟩
  · exact Bool.and_eq_true_iff.2 ⟨decide_eq_true hids,
      sourceControlConstraints_iff.2 ⟨haccepted, horder, hactivity⟩⟩
  · obtain ⟨c, -, s, i, hi, rfl⟩ := mem_fossTmntSourceControl hr
    have hn : (fossTmntSourceControl subbasins).length + 1 ≤ n := hn
    change (i : ℤ) + 1 ≠ n
    omega
  · obtain ⟨c, hc, s, i, -, rfl⟩ := mem_fossTmntSourceControl hr
    obtain ⟨-, -, -, horder, hpercent, -⟩ := hall c hc
    exact ⟨by simp [horder], hpercent⟩

end Default

/-! ### Runs -/

/-- **The stages of the source controls can always use their table.**  Whatever is asked of the
default table, by any number of users whose requests interleave: the requests take effect one after
the other, and the rows are a table of source controls, with an order and a reduction in each. -/
theorem sourceControls_run {subbasins : List String} (hnd : subbasins.Nodup)
    {orderDefault : Option ℤ} {as : List SourceControlAction} {s : CrudState SourceControlRow ℤ}
    (hrun : sourceControlTable.machine.run (fossState subbasins)
      (as.map (SourceControlAction.toCrud orderDefault)) = some s) :
    sourceControlTable.Linearized (fossTmntSourceControl subbasins) s ∧
      ∃ table : SourceControlTable, s.rows.map SourceControlRow.control? = table.rows.map some := by
  obtain ⟨hstart, hcomplete⟩ := start_fossState hnd
  have hlinearized := CrudTable.linearized_run hstart hrun
  refine ⟨hlinearized, exists_sourceControlTable hlinearized.accepted ?_⟩
  refine CrudTable.rows_run hcomplete rfl (fun r hr => ?_) hrun
  obtain ⟨a, -, ha⟩ := List.mem_map.1 hr
  cases a with
  | step i => cases ha
  | request request =>
    cases ha
    exact keeps_complete orderDefault request

/-- A control is deleted between the statement of a `PATCH` and its refresh, another before the
statement of a `PATCH`; and an id is looked up that is too large for its column. -/
def deletedMeanwhile : List SourceControlAction :=
  [.request (.patch 1 { percentReduction := .val 50, order := .null } "existing_user@example.com"),
   .request (.delete 1), .step 0, .step 0, .step 0, .step 1, .step 0, .step 1,
   .request (.patch 2 { percentReduction := .val 50 } "existing_user@example.com"),
   .request (.delete 2), .step 2, .step 2, .step 3, .step 2, .step 2, .step 3,
   .request (.get (2 ^ 31)), .step 4]

theorem sourceControls_run_deleted : ∃ s,
    sourceControlTable.machine.run (fossState ["FS_01"])
      (deletedMeanwhile.map (SourceControlAction.toCrud (some 1000000))) = some s ∧
    sourceControlTable.Linearized (fossTmntSourceControl ["FS_01"]) s ∧
    ∃ table : SourceControlTable,
      s.rows.map SourceControlRow.control? = table.rows.map some := by
  have hsome : (sourceControlTable.machine.run (fossState ["FS_01"])
      (deletedMeanwhile.map (SourceControlAction.toCrud (some 1000000)))).isSome = true := by
    decide +kernel
  obtain ⟨s, hrun⟩ := Option.isSome_iff_exists.1 hsome
  exact ⟨s, hrun, sourceControls_run (by decide) hrun⟩

end StormPiper
