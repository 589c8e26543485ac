import StormPiper.Cost.History
import StormPiper.Facilities.DefaultAttrs
import StormPiper.Run.Machine
import StormPiper.Scenario.Graph

/-!
# The attributes of the facilities

The table `tmnt_facility_attribute` has a row for each facility, with the attributes that users
edit.  `update_tmnt_attributes` adds rows with default attributes for the facilities that have none.
It reads the facilities, the existing rows and the subbasins one after the other, and inserts in a
transaction at the end; other updates, edits and refreshes of the tables come in between.  One that
overwrites deletes the rows when its transaction begins, and they are gone when it is committed.

What `nereid` knows of its models is a parameter, and so are whether two shapes meet and the
computation of the present values.  The column `id`, the change log and locks are left out, and of
the costs, which are in a table of their own, only whether they are valid counts.

* `validateTmntModelingParams`, `validateTmntUpdate`, `FacilityDb.patchTmntAttr`,
  `UpdateTask.turn` : the functions of the source.
* `FacilityDb.machine` : edits, refreshes and the steps of the updates, in any order.
* `facilityAttrs_run` : what holds of the rows in every state.
* `facilityAttrs_kept` : without overwriting, no row and no edit is lost, and an update that ends
  well leaves no facility without attributes.
* `update_alone` : when an update succeeds, and what it adds.
-/

namespace StormPiper

open StormPiper.Frame

/-! ### Rows and edits -/

/-- A row of `tmnt_facility_attribute`. -/
structure TMNTFacilityAttr where
  altid : Option String
  nodeId : Option String
  basinname : Option String
  subbasin : Option String
  facilityType : Option String
  hsg : Option String
  designStormDepthInches : Option ℚ
  tributaryAreaTcMin : Option ℚ
  totalVolumeCuft : Option ℚ
  areaSqft : Option ℚ
  infRateInhr : Option ℚ
  retentionVolumeCuft : Option ℚ
  mediaFiltrationRateInhr : Option ℚ
  minimumRetentionPctOverride : Option ℚ
  treatmentRateCfs : Option ℚ
  depthFt : Option ℚ
  treatmentDrawdownTimeHr : Option ℚ
  capturedPct : Option ℚ
  retainedPct : Option ℚ
  updatedBy : Option String
  deriving Repr, DecidableEq

/-- `TMNTFacilityAttrUpdate` -/
structure TMNTFacilityAttrUpdate where
  facilityType : ModelField String
  hsg : ModelField String
  designStormDepthInches : ModelField ℚ
  tributaryAreaTcMin : ModelField ℚ
  totalVolumeCuft : ModelField ℚ
  areaSqft : ModelField ℚ
  infRateInhr : ModelField ℚ
  retentionVolumeCuft : ModelField ℚ
  mediaFiltrationRateInhr : ModelField ℚ
  minimumRetentionPctOverride : ModelField ℚ
  treatmentRateCfs : ModelField ℚ
  depthFt : ModelField ℚ
  treatmentDrawdownTimeHr : ModelField ℚ
  capturedPct : ModelField ℚ
  retainedPct : ModelField ℚ
  updatedBy : ModelField String
  deriving Repr, DecidableEq

/-- The row after an `UPDATE` that leaves out unset fields. -/
def TMNTFacilityAttr.update (r : TMNTFacilityAttr) (u : TMNTFacilityAttrUpdate) :
    TMNTFacilityAttr where
  altid := r.altid
  nodeId := r.nodeId
  basinname := r.basinname
  subbasin := r.subbasin
  facilityType := u.facilityType.apply r.facilityType
  hsg := u.hsg.apply r.hsg
  designStormDepthInches := u.designStormDepthInches.apply r.designStormDepthInches
  tributaryAreaTcMin := u.tributaryAreaTcMin.apply r.tributaryAreaTcMin
  totalVolumeCuft := u.totalVolumeCuft.apply r.totalVolumeCuft
  areaSqft := u.areaSqft.apply r.areaSqft
  infRateInhr := u.infRateInhr.apply r.infRateInhr
  retentionVolumeCuft := u.retentionVolumeCuft.apply r.retentionVolumeCuft
  mediaFiltrationRateInhr := u.mediaFiltrationRateInhr.apply r.mediaFiltrationRateInhr
  minimumRetentionPctOverride := u.minimumRetentionPctOverride.apply r.minimumRetentionPctOverride
  treatmentRateCfs := u.treatmentRateCfs.apply r.treatmentRateCfs
  depthFt := u.depthFt.apply r.depthFt
  treatmentDrawdownTimeHr := u.treatmentDrawdownTimeHr.apply r.treatmentDrawdownTimeHr
  capturedPct := u.capturedPct.apply r.capturedPct
  retainedPct := u.retainedPct.apply r.retainedPct
  updatedBy := u.updatedBy.apply r.updatedBy

/-- Nothing is set. -/
def TMNTFacilityAttrUpdate.empty : TMNTFacilityAttrUpdate :=
  ⟨.unset, .unset, .unset, .unset, .unset, .unset, .unset, .unset, .unset, .unset, .unset, .unset,
    .unset, .unset, .unset, .unset⟩

/-- The body of a `PATCH`: its keys, and what it says of the attributes, of the costs, and of the
cost settings, which it need not know. -/
structure TMNTFacilityPatch (K : Type) where
  keys : List String
  attrs : TMNTFacilityAttrUpdate
  costs : CostPatch K
  settings : CostVariable → ModelField K

/-- `tmnt_patch["updated_by"] = user.email` -/
def TMNTFacilityPatch.by {K : Type} (data : TMNTFacilityPatch K) (email : String) :
    TMNTFacilityPatch K :=
  { data with
    keys := data.keys ++ ["updated_by"]
    attrs := { data.attrs with updatedBy := .val email } }

/-- The name that stands for a model that is not there. -/
def noModel : String := "¯\\_(ツ)_/¯"

/-- What `nereid` knows of its models. -/
structure TmntModels where
  /-- The fields of all models. -/
  modelingFields : List String
  /-- `getattr(treatment_facility_models, name, None)`, and whether the model accepts the
  attributes. -/
  model : String → Option (TMNTFacilityAttrUpdate → Bool)
  model_noModel : model noModel = none

section Patch

variable {K R : Type} (lib : TmntModels) (pv : PVComputation K R)

/-- `validate_tmnt_modeling_params` -/
def validateTmntModelingParams (data : TMNTFacilityPatch K) :
    Except PyError (Option TMNTFacilityAttrUpdate) :=
  if data.keys.any (· ∈ lib.modelingFields) then
    match lib.model ((data.attrs.facilityType.get.bind validatorOf).getD noModel) with
    | none => throw (.external "InvalidModel")
    | some accepts => if accepts data.attrs then pure (some data.attrs) else throw .validationError
  else pure none

/-- A name of `PVRequest` is among the keys of the body. -/
def TMNTFacilityPatch.modifiesPvFields (data : TMNTFacilityPatch K) : Bool :=
  data.costs.modifiesPvFields || CostVariable.all.any fun v => (data.settings v).isSet

/-- `maybe_update_pv_params` on a body.  A setting that the body names and the table has is passed
to `PVRequest` twice. -/
def validateCosts (data : TMNTFacilityPatch K) (pvGlobalSettings : CostVariable → Option K) :
    Except PyError (Option (CostUpdate K)) :=
  if data.modifiesPvFields then
    let unvalidatedData := data.costs.toUpdate.update .cleared
    if CostVariable.all.any fun v => (data.settings v).isSet && (pvGlobalSettings v).isSome then
      throw .typeError
    else
      match pv.request data.costs.attrs fun v => (data.settings v).get.or (pvGlobalSettings v) with
      | none => pure (some unvalidatedData)
      | some pvReq => do
        let costResults ← pv.compute pvReq
        return some (unvalidatedData.update costResults)
  else pure none

/-- `validate_tmnt_update`: the settings are read first, and both halves of the body are validated
before anything is written. -/
def validateTmntUpdate (settings : CostVariable → Option (Option K)) (email : String)
    (data : TMNTFacilityPatch K) : Except PyError (Option TMNTFacilityAttrUpdate) := do
  let pvGlobalSettings ← getPvSettings settings
  let tmntAttr ← validateTmntModelingParams lib (data.by email)
  let _ ← validateCosts pv data pvGlobalSettings
  return tmntAttr

/-- `patch_tmnt_attr`, as far as the attributes go: the costs are in a table of their own. -/
def FacilityDb.patchTmntAttr (settings : CostVariable → Option (Option K))
    (rows : List TMNTFacilityAttr) (nodeId email : String) (data : TMNTFacilityPatch K) :
    Except PyError (List TMNTFacilityAttr) :=
  match validateTmntUpdate lib pv settings email data with
  | .error _ => throw (.httpException 422)
  | .ok tmntAttr =>
    if rows.any fun r => r.nodeId = some nodeId then
      match tmntAttr with
      | some u => pure (rows.map fun r => if r.nodeId = some nodeId then r.update u else r)
      | none => pure rows
    else throw (.httpException 404)

/-- What a `PATCH` makes of a row. -/
def patchedRow (settings : CostVariable → Option (Option K)) (nodeId email : String)
    (data : TMNTFacilityPatch K) (r : TMNTFacilityAttr) : TMNTFacilityAttr :=
  match validateTmntUpdate lib pv settings email data with
  | .ok (some u) => if r.nodeId = some nodeId then r.update u else r
  | _ => r

end Patch

/-! ### Updates of the table -/

/-- How far an update has come. -/
inductive UpdatePhase (G : Type) where
  | started
  /-- It has read the facilities and set their default attributes. -/
  | classified (rows : List (TMNTFacilityRow G × DefaultAttrs))
  /-- Its transaction has begun.  It has left out the facilities that are in the table, or has
  deleted the rows that are there: so many at the front of the table. -/
  | selected (deleted : ℕ) (rows : List (TMNTFacilityRow G × DefaultAttrs))
  /-- It has joined the subbasins. -/
  | joined (deleted : ℕ) (new : List TMNTFacilityAttr)
  | done (succeeded : Bool)

/-- The rows that its transaction has deleted. -/
def UpdatePhase.deleted {G : Type} : UpdatePhase G → ℕ
  | .selected deleted _ | .joined deleted _ => deleted
  | .started | .classified _ | .done _ => 0

/-- Another transaction has taken some rows from the front of the table. -/
def UpdatePhase.shift {G : Type} (removed : ℕ) : UpdatePhase G → UpdatePhase G
  | .selected deleted rows => .selected (deleted - removed) rows
  | .joined deleted new => .joined (deleted - removed) new
  | phase => phase

/-- A call of `update_tmnt_attributes`. -/
structure UpdateTask (G : Type) where
  overwrite : Bool
  phase : UpdatePhase G

/-- The tables, and the updates that were started. -/
structure FacilityDb (G : Type) where
  facilities : List (TMNTFacilityRow G × ℕ)
  subbasins : List (Subbasin G)
  attrs : List TMNTFacilityAttr
  updates : List (UpdateTask G)

/-- The constraint of the column `altid`. -/
def UniqueAttrs (rows : List TMNTFacilityAttr) : Prop :=
  (rows.filterMap TMNTFacilityAttr.altid).Nodup

instance (rows : List TMNTFacilityAttr) : Decidable (UniqueAttrs rows) :=
  inferInstanceAs (Decidable (rows.filterMap TMNTFacilityAttr.altid).Nodup)

section Update

variable {G : Type} (intersects : G → G → Bool)

/-- The row of a facility in a subbasin, or in none. -/
def attrRow (f : TMNTFacilityRow G × DefaultAttrs) (s : Option (Subbasin G)) :
    TMNTFacilityAttr where
  altid := f.1.altid
  nodeId := f.1.nodeId
  basinname := some (pyStr (s.bind Subbasin.basinname))
  subbasin := some (pyStr (s.bind Subbasin.subbasin))
  facilityType := some f.2.facilityType
  hsg := none
  designStormDepthInches := none
  tributaryAreaTcMin := none
  totalVolumeCuft := none
  areaSqft := none
  infRateInhr := none
  retentionVolumeCuft := none
  mediaFiltrationRateInhr := none
  minimumRetentionPctOverride := none
  treatmentRateCfs := none
  depthFt := none
  treatmentDrawdownTimeHr := none
  capturedPct := some f.2.capturedPct
  retainedPct := some f.2.retainedPct
  updatedBy := none

/-- A facility with a shape is in a subbasin. -/
def meets (f : TMNTFacilityRow G × DefaultAttrs) (s : Subbasin G) : Bool :=
  f.1.geom.any fun g => intersects g s.geometry

/-- `df.sjoin(subs, how="left")` and the columns of the table. -/
def joinedRows (rows : List (TMNTFacilityRow G × DefaultAttrs)) (subbasins : List (Subbasin G)) :
    List TMNTFacilityAttr :=
  (sjoinLeft (meets intersects) rows subbasins).map fun x => attrRow x.1 x.2

/-- A step of an update: the rows that it takes from the front of the table, those that it appends,
and how far it has come. -/
structure UpdateStep (G : Type) where
  removed : ℕ
  added : List TMNTFacilityAttr
  phase : UpdatePhase G

/-- The next step of `update_tmnt_attributes`. -/
def UpdateTask.turn (db : FacilityDb G) (task : UpdateTask G) : Option (UpdateStep G) :=
  match task.phase with
  | .started =>
    some ⟨0, [], .classified (setDefaultTmntAttributes (db.facilities.map Prod.fst))⟩
  | .classified rows =>
    -- `existing_altids = []` where the rows are overwritten
    some ⟨0, [], if task.overwrite then .selected db.attrs.length rows else
      .selected 0 (rows.filter fun f => f.1.altid ∉ db.attrs.map TMNTFacilityAttr.altid)⟩
  | .selected deleted rows =>
    some ⟨0, [], .joined deleted (joinedRows intersects rows db.subbasins)⟩
  | .joined deleted new =>
    -- the transaction is rolled back where a row violates the constraint
    some (if UniqueAttrs (db.attrs.drop deleted ++ new) then ⟨deleted, new, .done true⟩
      else ⟨0, [], .done false⟩)
  | .done _ => none

end Update

/-! ### The system -/

/-- What happens to the tables. -/
inductive FacilityAction (G K : Type) where
  /-- `delete_and_refresh_tmnt_facility_table` -/
  | refreshFacilities (ensureFuture : String → Except PyError Unit)
      (service : FeatureService (GisFeature G)) (url : String) (fields : List FieldInfo)
      (completed : CompletionOrder String)
  /-- The table `subbasin` is replaced. -/
  | refreshSubbasins (rows : List (Subbasin G))
  /-- `PATCH /tmnt_attr/{node_id}`, with the cost settings that it reads. -/
  | patch (settings : CostVariable → Option (Option K)) (nodeId email : String)
      (data : TMNTFacilityPatch K)
  /-- `update_tmnt_attributes` is called. -/
  | update (overwrite : Bool)
  /-- The update with a number makes its next step. -/
  | step (i : ℕ)
  /-- The update with a number ends in an exception of the database or with its worker. -/
  | fail (i : ℕ)

namespace FacilityDb

variable {G K R : Type} [DecidableEq G] (lib : TmntModels) (pv : PVComputation K R) (toCrs : G → G)
  (intersects : G → G → Bool)

/-- The tables and updates after a step of the update with a number. -/
def after (db : FacilityDb G) (i : ℕ) (task : UpdateTask G) (next : UpdateStep G) : FacilityDb G :=
  let others := db.updates.map fun t => { t with phase := t.phase.shift next.removed }
  { db with
    attrs := db.attrs.drop next.removed ++ next.added
    updates := others.set i { task with phase := next.phase } }

/-- The system after an action. -/
def step (db : FacilityDb G) : FacilityAction G K → Option (FacilityDb G)
  | .refreshFacilities ensureFuture service url fields completed =>
    let refreshed :=
      Arcgis.deleteAndRefreshTmntFacilityTable toCrs ensureFuture service url fields completed
    some { db with facilities := refreshed.toOption.getD db.facilities }
  | .refreshSubbasins rows => some { db with subbasins := rows }
  | .patch settings nodeId email data =>
    some { db with attrs :=
      (patchTmntAttr lib pv settings db.attrs nodeId email data).toOption.getD db.attrs }
  | .update overwrite => some { db with updates := db.updates ++ [⟨overwrite, .started⟩] }
  | .step i => do
    let task ← db.updates[i]?
    let next ← task.turn intersects db
    return db.after i task next
  | .fail i => do
    let task ← db.updates[i]?
    match task.phase with
    | .done _ => none
    | _ => return { db with updates := db.updates.set i { task with phase := .done false } }

/-- Edits, refreshes and the steps of the updates, in any order. -/
def machine : Machine (FacilityDb G) (FacilityAction G K) := ⟨step lib pv toCrs intersects⟩

/-- No table has a row. -/
def empty (G : Type) : FacilityDb G := ⟨[], [], [], []⟩

end FacilityDb

/-! ### The rows in every state -/

/-- The row is as `update_tmnt_attributes` inserts it, with attributes that fit a simple model. -/
def TMNTFacilityAttr.IsDefault (G : Type) (r : TMNTFacilityAttr) : Prop :=
  ∃ (f : TMNTFacilityRow G × DefaultAttrs) (s : Option (Subbasin G)), f.2.Simple ∧ r = attrRow f s

/-- What holds of a row: its name is that of its facility, the context has its type, and as long as
nobody has edited it, it is a default row. -/
structure TMNTFacilityAttr.Sound (G : Type) (r : TMNTFacilityAttr) : Prop where
  named : r.nodeId = r.altid
  recognized : ∃ t, r.facilityType = some t ∧ (validatorOf t).isSome
  untouched : r.updatedBy = none → r.IsDefault G

section Rows

variable {G K R : Type} {lib : TmntModels} {pv : PVComputation K R}

theorem DefaultAttrs.Simple.recognized {attrs : DefaultAttrs} (h : attrs.Simple) :
    (validatorOf attrs.facilityType).isSome := by
  obtain ⟨model, -, hmem, -⟩ := h
  rw [validatorOf, Option.isSome_map, List.find?_isSome]
  exact ⟨_, hmem, by simp⟩

theorem sound_attrRow {f : TMNTFacilityRow G × DefaultAttrs} (hnamed : f.1.nodeId = f.1.altid)
    (hsimple : f.2.Simple) (s : Option (Subbasin G)) : (attrRow f s).Sound G where
  named := hnamed
  recognized := ⟨f.2.facilityType, rfl, hsimple.recognized⟩
  untouched _ := ⟨f, s, hsimple, rfl⟩

/-- An edit that changes the attributes has a type that the context has. -/
theorem facilityType_of_validate {settings : CostVariable → Option (Option K)} {email : String}
    {data : TMNTFacilityPatch K} {u : TMNTFacilityAttrUpdate}
    (h : validateTmntUpdate lib pv settings email data = .ok (some u)) :
    u = (data.by email).attrs ∧ ∃ t, u.facilityType = .val t ∧ (validatorOf t).isSome := by
  obtain ⟨_, -, h⟩ := bind_eq_ok h
  obtain ⟨tmntAttr, hvalid, h⟩ := bind_eq_ok h
  obtain ⟨_, -, h⟩ := bind_eq_ok h
  obtain rfl := pure_eq_ok.1 h
  generalize data.by email = data at hvalid ⊢
  rename' hvalid => h
  unfold validateTmntModelingParams at h
  split at h
  · split at h
    · cases h
    · rename_i hmodel
      split at h
      · obtain rfl : data.attrs = u := Option.some.inj (Except.ok.inj h)
        refine ⟨rfl, ?_⟩
        cases hvalidator : data.attrs.facilityType.get.bind validatorOf with
        | none =>
          rw [hvalidator, Option.getD_none, lib.model_noModel] at hmodel
          cases hmodel
        | some v =>
          obtain ⟨t, ht, hv⟩ := Option.bind_eq_some_iff.1 hvalidator
          exact ⟨t, ModelField.get_eq_some.1 ht, by rw [hv]; rfl⟩
      · cases h
  · cases h

theorem sound_patchedRow (settings : CostVariable → Option (Option K)) (nodeId email : String)
    (data : TMNTFacilityPatch K) {r : TMNTFacilityAttr} (h : r.Sound G) :
    (patchedRow lib pv settings nodeId email data r).Sound G := by
  unfold patchedRow
  split
  · rename_i u hvalid
    split_ifs
    · obtain ⟨rfl, t, ht, hvalidator⟩ := facilityType_of_validate hvalid
      have hby : (r.update (data.by email).attrs).updatedBy = some email := rfl
      have htype : (r.update (data.by email).attrs).facilityType = some t := by
        simp [TMNTFacilityAttr.update, ht]
      exact ⟨h.named, ⟨t, htype, hvalidator⟩, fun hnone => by rw [hby] at hnone; cases hnone⟩
    · exact h
  · exact h

@[simp] theorem altid_patchedRow (settings : CostVariable → Option (Option K))
    (nodeId email : String) (data : TMNTFacilityPatch K) (r : TMNTFacilityAttr) :
    (patchedRow lib pv settings nodeId email data r).altid = r.altid := by
  unfold patchedRow
  split
  · split_ifs <;> rfl
  · rfl

/-- A `PATCH` changes the rows one by one, or it fails and changes none. -/
theorem patchTmntAttr_eq (settings : CostVariable → Option (Option K))
    (rows : List TMNTFacilityAttr) (nodeId email : String) (data : TMNTFacilityPatch K) :
    (FacilityDb.patchTmntAttr lib pv settings rows nodeId email data).toOption.getD rows =
      rows.map (patchedRow lib pv settings nodeId email data) := by
  have hid : ∀ f : TMNTFacilityAttr → TMNTFacilityAttr, (∀ r ∈ rows, f r = r) →
      rows = rows.map f := fun f hf => ((List.map_congr_left hf).trans (List.map_id _)).symm
  unfold FacilityDb.patchTmntAttr patchedRow
  cases hvalid : validateTmntUpdate lib pv settings email data with
  | error e => exact hid _ fun _ _ => rfl
  | ok tmntAttr =>
    cases tmntAttr with
    | none =>
      split_ifs
      · exact hid _ fun _ _ => rfl
      · exact hid _ fun _ _ => rfl
    | some u =>
      split_ifs with hany
      · rfl
      · refine hid _ fun r hr => if_neg fun hname => hany ?_
        exact List.any_eq_true.2 ⟨r, hr, by simpa using hname⟩

end Rows

/-- What holds of the rows that an update has at hand. -/
def UpdatePhase.Sound {G : Type} : UpdatePhase G → Prop
  | .classified rows | .selected _ rows => ∀ f ∈ rows, f.1.nodeId = f.1.altid ∧ f.2.Simple
  | .joined _ new => ∀ r ∈ new, r.Sound G
  | .started | .done _ => True

/-- What holds in every state. -/
structure FacilityDb.Inv {G : Type} (db : FacilityDb G) : Prop where
  named : ∀ f ∈ db.facilities, f.1.nodeId = f.1.altid
  facilities : UniqueAltids (db.facilities.map Prod.fst)
  unique : UniqueAttrs db.attrs
  sound : ∀ r ∈ db.attrs, r.Sound G
  updates : ∀ task ∈ db.updates, task.phase.Sound

section Invariant

variable {G K R : Type} {lib : TmntModels} {pv : PVComputation K R} {toCrs : G → G}
  {intersects : G → G → Bool} {db db' : FacilityDb G}

theorem sjoinLeft_fst {α β : Type} {joined : α → β → Bool} {left : List α} {right : List β}
    {x : α × Option β} (h : x ∈ sjoinLeft joined left right) : x.1 ∈ left := by
  obtain ⟨a, b⟩ := x
  cases b with
  | none => exact (mem_sjoinLeft_none.1 h).1
  | some b => exact (mem_sjoinLeft_some.1 h).1

theorem UpdatePhase.Sound.shift {phase : UpdatePhase G} (h : phase.Sound) (removed : ℕ) :
    (phase.shift removed).Sound := by
  cases phase <;> exact h

@[simp] theorem UpdatePhase.shift_zero (phase : UpdatePhase G) : phase.shift 0 = phase := by
  cases phase <;> rfl

/-- What a step of an update keeps. -/
theorem UpdateTask.turn_sound {task : UpdateTask G} {next : UpdateStep G} (h : db.Inv)
    (hphase : task.phase.Sound) (hturn : task.turn intersects db = some next) :
    UniqueAttrs (db.attrs.drop next.removed ++ next.added) ∧ (∀ r ∈ next.added, r.Sound G) ∧
      next.phase.Sound := by
  have hsame : UniqueAttrs (db.attrs.drop 0 ++ []) ∧ ∀ r ∈ ([] : List TMNTFacilityAttr),
      r.Sound G := ⟨by simpa using h.unique, fun _ hr => (List.not_mem_nil hr).elim⟩
  unfold UpdateTask.turn at hturn
  split at hturn
  case h_1 =>
    obtain rfl := Option.some.inj hturn
    refine ⟨hsame.1, hsame.2, fun f hf => ?_⟩
    rw [setDefaultTmntAttributes_eq] at hf
    obtain ⟨r, hr, rfl⟩ := List.mem_map.1 hf
    obtain ⟨x, hx, rfl⟩ := List.mem_map.1 hr
    exact ⟨h.named x hx, simple_defaultsOf _⟩
  case h_2 rows hrows =>
    obtain rfl := Option.some.inj hturn
    rw [hrows] at hphase
    refine ⟨hsame.1, hsame.2, ?_⟩
    split_ifs
    · exact hphase
    · exact fun f hf => hphase f (List.mem_filter.1 hf).1
  case h_3 deleted rows hrows =>
    obtain rfl := Option.some.inj hturn
    rw [hrows] at hphase
    refine ⟨hsame.1, hsame.2, fun r hr => ?_⟩
    obtain ⟨x, hx, rfl⟩ := List.mem_map.1 hr
    obtain ⟨hnamed, hsimple⟩ := hphase x.1 (sjoinLeft_fst hx)
    exact sound_attrRow hnamed hsimple x.2
  case h_4 deleted new hnew =>
    rw [hnew] at hphase
    obtain rfl := Option.some.inj hturn
    split_ifs with hunique
    · exact ⟨hunique, hphase, trivial⟩
    · exact ⟨hsame.1, hsame.2, trivial⟩
  case h_5 => cases hturn

theorem UniqueAttrs.map_patchedRow {rows : List TMNTFacilityAttr} (h : UniqueAttrs rows)
    (settings : CostVariable → Option (Option K)) (nodeId email : String)
    (data : TMNTFacilityPatch K) :
    UniqueAttrs (rows.map (patchedRow lib pv settings nodeId email data)) := by
  have heq : (rows.map (patchedRow lib pv settings nodeId email data)).filterMap
      TMNTFacilityAttr.altid = rows.filterMap TMNTFacilityAttr.altid := by
    rw [List.filterMap_map]
    exact List.filterMap_congr fun r _ => altid_patchedRow settings nodeId email data r
  rw [UniqueAttrs, heq]
  exact h

variable [DecidableEq G]

theorem FacilityDb.step_fail {i : ℕ}
    (hstep : db.step lib pv toCrs intersects (.fail i) = some db') :
    ∃ task, db.updates[i]? = some task ∧
      db' = { db with updates := db.updates.set i { task with phase := .done false } } := by
  obtain ⟨task, htask, hstep⟩ := Option.bind_eq_some_iff.1 hstep
  refine ⟨task, htask, ?_⟩
  split at hstep
  · cases hstep
  · exact (Option.some.inj hstep).symm

theorem FacilityDb.step_step {i : ℕ}
    (hstep : db.step lib pv toCrs intersects (.step i) = some db') :
    ∃ task next, db.updates[i]? = some task ∧ task.turn intersects db = some next ∧
      db' = db.after i task next := by
  obtain ⟨task, htask, hstep⟩ := Option.bind_eq_some_iff.1 hstep
  obtain ⟨next, hturn, hstep⟩ := Option.bind_eq_some_iff.1 hstep
  exact ⟨task, next, htask, hturn, (Option.some.inj hstep).symm⟩

omit [DecidableEq G] in
/-- The updates after a step: the one that makes it, and the others. -/
theorem FacilityDb.mem_updates_after {i : ℕ} {task t : UpdateTask G} {next : UpdateStep G}
    (h : t ∈ (db.after i task next).updates) :
    (∃ other ∈ db.updates, t = { other with phase := other.phase.shift next.removed }) ∨
      t = { task with phase := next.phase } := by
  rcases List.mem_or_eq_of_mem_set h with h | h
  · obtain ⟨other, hother, rfl⟩ := List.mem_map.1 h
    exact .inl ⟨other, hother, rfl⟩
  · exact .inr h

/-- **Every action keeps the invariant.** -/
theorem FacilityDb.Inv.step {a : FacilityAction G K} (h : db.Inv)
    (hstep : db.step lib pv toCrs intersects a = some db') : db'.Inv := by
  cases a with
  | refreshFacilities ensureFuture service url fields completed =>
    obtain rfl := Option.some.inj hstep
    cases htable : Arcgis.deleteAndRefreshTmntFacilityTable toCrs ensureFuture service url fields
      completed with
    | ok table =>
      obtain ⟨hunique, hnamed⟩ := of_deleteAndRefreshTmntFacilityTable htable
      exact ⟨hnamed, hunique, h.unique, h.sound, h.updates⟩
    | error e => exact h
  | refreshSubbasins rows =>
    obtain rfl := Option.some.inj hstep
    exact ⟨h.named, h.facilities, h.unique, h.sound, h.updates⟩
  | patch settings nodeId email data =>
    obtain rfl := Option.some.inj hstep
    refine ⟨h.named, h.facilities, ?_, ?_, h.updates⟩
    · simp only [patchTmntAttr_eq]
      exact h.unique.map_patchedRow settings nodeId email data
    · simp only [patchTmntAttr_eq, List.forall_mem_map]
      exact fun r hr => sound_patchedRow settings nodeId email data (h.sound r hr)
  | update overwrite =>
    obtain rfl := Option.some.inj hstep
    refine ⟨h.named, h.facilities, h.unique, h.sound, fun task htask => ?_⟩
    rcases List.mem_append.1 htask with htask | htask
    · exact h.updates task htask
    · obtain rfl := List.mem_singleton.1 htask
      trivial
  | step i =>
    obtain ⟨task, next, htask, hturn, rfl⟩ := FacilityDb.step_step hstep
    obtain ⟨hunique, hadded, hphase⟩ :=
      UpdateTask.turn_sound h (h.updates task (List.mem_of_getElem? htask)) hturn
    refine ⟨h.named, h.facilities, hunique, fun r hr => ?_, fun t ht => ?_⟩
    · rcases List.mem_append.1 hr with hr | hr
      · exact h.sound r (List.mem_of_mem_drop hr)
      · exact hadded r hr
    · rcases FacilityDb.mem_updates_after ht with ⟨other, hother, rfl⟩ | rfl
      · exact (h.updates other hother).shift _
      · exact hphase
  | fail i =>
    obtain ⟨task, htask, rfl⟩ := FacilityDb.step_fail hstep
    refine ⟨h.named, h.facilities, h.unique, h.sound, fun t ht => ?_⟩
    rcases List.mem_or_eq_of_mem_set ht with ht | rfl
    · exact h.updates t ht
    · trivial

omit [DecidableEq G] in
theorem inv_empty : (FacilityDb.empty G).Inv :=
  ⟨fun _ h => (List.not_mem_nil h).elim, List.nodup_nil, List.nodup_nil,
    fun _ h => (List.not_mem_nil h).elim, fun _ h => (List.not_mem_nil h).elim⟩

end Invariant

/-! ### Rows and edits are kept -/

/-- The update only adds rows, or it has ended. -/
def UpdateTask.Adds {G : Type} (task : UpdateTask G) : Prop :=
  (∃ succeeded, task.phase = .done succeeded) ∨
    task.overwrite = false ∧ task.phase.deleted = 0

/-- No update that goes on overwrites the rows. -/
def FacilityDb.Quiet {G : Type} (db : FacilityDb G) : Prop := ∀ task ∈ db.updates, task.Adds

/-- The action does not start an update that overwrites the rows. -/
def FacilityAction.Adds {G K : Type} : FacilityAction G K → Prop
  | .update overwrite => overwrite = false
  | _ => True

/-- The action does not refresh the facilities. -/
def FacilityAction.Leaves {G K : Type} : FacilityAction G K → Prop
  | .refreshFacilities .. => False
  | _ => True

/-- What an action makes of a row. -/
def FacilityAction.onRow {G K R : Type} (lib : TmntModels) (pv : PVComputation K R)
    (r : TMNTFacilityAttr) : FacilityAction G K → TMNTFacilityAttr
  | .patch settings nodeId email data => patchedRow lib pv settings nodeId email data r
  | _ => r

/-- The facilities are covered: they have attributes, or the update will add them if it ends
well. -/
def UpdatePhase.Covers {G : Type} (altids : List (Option String)) (rows : List TMNTFacilityAttr) :
    UpdatePhase G → Prop
  | .classified todo => ∀ x ∈ altids, ∃ f ∈ todo, f.1.altid = x
  | .selected _ todo => ∀ x ∈ altids, (∃ r ∈ rows, r.altid = x) ∨ ∃ f ∈ todo, f.1.altid = x
  | .joined _ new => ∀ x ∈ altids, (∃ r ∈ rows, r.altid = x) ∨ ∃ r ∈ new, r.altid = x
  | .done true => ∀ x ∈ altids, ∃ r ∈ rows, r.altid = x
  | .started | .done false => True

section Kept

variable {G K R : Type} {lib : TmntModels} {pv : PVComputation K R} {toCrs : G → G}
  {intersects : G → G → Bool} {db db' : FacilityDb G}

/-- An update that adds rows takes none away. -/
theorem UpdateTask.Adds.turn {task : UpdateTask G} {next : UpdateStep G} (h : task.Adds)
    (hturn : task.turn intersects db = some next) :
    next.removed = 0 ∧ UpdateTask.Adds { task with phase := next.phase } := by
  rcases h with ⟨succeeded, hdone⟩ | ⟨hoverwrite, hdeleted⟩
  · -- one that has ended has no next step
    simp [UpdateTask.turn, hdone] at hturn
  unfold UpdateTask.turn at hturn
  split at hturn
  case h_1 =>
    obtain rfl := Option.some.inj hturn
    exact ⟨rfl, .inr ⟨hoverwrite, rfl⟩⟩
  case h_2 rows hrows =>
    obtain rfl := Option.some.inj hturn
    refine ⟨rfl, .inr ⟨hoverwrite, ?_⟩⟩
    simp only [hoverwrite, Bool.false_eq_true, if_false]
    rfl
  case h_3 deleted rows hrows =>
    obtain rfl := Option.some.inj hturn
    rw [hrows] at hdeleted
    exact ⟨rfl, .inr ⟨hoverwrite, hdeleted⟩⟩
  case h_4 deleted new hnew =>
    obtain rfl := Option.some.inj hturn
    rw [hnew] at hdeleted
    split_ifs
    · exact ⟨hdeleted, .inl ⟨true, rfl⟩⟩
    · exact ⟨rfl, .inl ⟨false, rfl⟩⟩
  case h_5 => cases hturn

theorem FacilityDb.after_of_removed {i : ℕ} {task : UpdateTask G} {next : UpdateStep G}
    (h : next.removed = 0) : db.after i task next =
      { db with
        attrs := db.attrs ++ next.added
        updates := db.updates.set i { task with phase := next.phase } } := by
  simp [FacilityDb.after, h]

theorem UpdatePhase.Covers.mono {altids : List (Option String)} {rows rows' : List TMNTFacilityAttr}
    {phase : UpdatePhase G} (h : phase.Covers altids rows)
    (hrows : ∀ r ∈ rows, ∃ r' ∈ rows', r'.altid = r.altid) : phase.Covers altids rows' := by
  have hmono : ∀ {x}, (∃ r ∈ rows, r.altid = x) → ∃ r ∈ rows', r.altid = x := by
    rintro x ⟨r, hr, rfl⟩
    exact hrows r hr
  cases phase with
  | started => trivial
  | classified todo => exact h
  | selected deleted todo => exact fun x hx => (h x hx).imp_left hmono
  | joined deleted new => exact fun x hx => (h x hx).imp_left hmono
  | done succeeded =>
    cases succeeded with
    | true => exact fun x hx => hmono (h x hx)
    | false => trivial

theorem exists_mem_joinedRows {rows : List (TMNTFacilityRow G × DefaultAttrs)}
    {f : TMNTFacilityRow G × DefaultAttrs} (hf : f ∈ rows) (subbasins : List (Subbasin G)) :
    ∃ r ∈ joinedRows intersects rows subbasins, r.altid = f.1.altid := by
  obtain ⟨s, hs⟩ := exists_mem_sjoinLeft (meets intersects) subbasins hf
  exact ⟨attrRow f s, List.mem_map.2 ⟨(f, s), hs, rfl⟩, rfl⟩

/-- What a step of an update does to the facilities that it covers. -/
theorem UpdateTask.turn_covers {task : UpdateTask G} {next : UpdateStep G} (hadds : task.Adds)
    (hadd : task.overwrite = false)
    (h : task.phase.Covers (db.facilities.map fun x => x.1.altid) db.attrs)
    (hturn : task.turn intersects db = some next) :
    next.phase.Covers (db.facilities.map fun x => x.1.altid) (db.attrs ++ next.added) := by
  have hremoved := (hadds.turn hturn).1
  unfold UpdateTask.turn at hturn
  split at hturn
  case h_1 =>
    obtain rfl := Option.some.inj hturn
    intro x hx
    obtain ⟨row, hrow, rfl⟩ := List.mem_map.1 hx
    refine ⟨(row.1, defaultsOf row.1), ?_, rfl⟩
    rw [setDefaultTmntAttributes_eq]
    exact List.mem_map.2 ⟨row.1, List.mem_map_of_mem hrow, rfl⟩
  case h_2 todo htodo =>
    obtain rfl := Option.some.inj hturn
    rw [htodo] at h
    simp only [hadd, Bool.false_eq_true, if_false, List.append_nil]
    intro x hx
    obtain ⟨f, hf, rfl⟩ := h x hx
    by_cases hthere : f.1.altid ∈ db.attrs.map TMNTFacilityAttr.altid
    · exact .inl (List.mem_map.1 hthere)
    · exact .inr ⟨f, List.mem_filter.2 ⟨hf, decide_eq_true hthere⟩, rfl⟩
  case h_3 deleted todo htodo =>
    obtain rfl := Option.some.inj hturn
    rw [htodo] at h
    simp only [List.append_nil]
    refine fun x hx => (h x hx).imp_right ?_
    rintro ⟨f, hf, rfl⟩
    exact exists_mem_joinedRows hf db.subbasins
  case h_4 deleted new hnew =>
    rw [hnew] at h
    obtain rfl := Option.some.inj hturn
    split_ifs
    · intro x hx
      rcases h x hx with ⟨r, hr, rfl⟩ | ⟨r, hr, rfl⟩
      · exact ⟨r, List.mem_append_left _ hr, rfl⟩
      · exact ⟨r, List.mem_append_right _ hr, rfl⟩
    · trivial
  case h_5 => cases hturn

theorem altid_onRow (r : TMNTFacilityAttr) (a : FacilityAction G K) :
    (a.onRow lib pv r).altid = r.altid := by
  cases a with
  | patch settings nodeId email data => exact altid_patchedRow settings nodeId email data r
  | _ => rfl

variable [DecidableEq G]

/-- An action edits the rows and appends new ones. -/
theorem FacilityDb.step_kept {a : FacilityAction G K} (hquiet : db.Quiet) (hadds : a.Adds)
    (hstep : db.step lib pv toCrs intersects a = some db') :
    db'.Quiet ∧ ∃ new, db'.attrs = db.attrs.map (fun r => a.onRow lib pv r) ++ new := by
  have hsame : ∃ new, db.attrs = db.attrs.map (fun r => r) ++ new := ⟨[], by simp⟩
  cases a with
  | refreshFacilities ensureFuture service url fields completed =>
    obtain rfl := Option.some.inj hstep
    exact ⟨hquiet, hsame⟩
  | refreshSubbasins rows =>
    obtain rfl := Option.some.inj hstep
    exact ⟨hquiet, hsame⟩
  | patch settings nodeId email data =>
    obtain rfl := Option.some.inj hstep
    exact ⟨hquiet, [], by simp [patchTmntAttr_eq, FacilityAction.onRow]⟩
  | update overwrite =>
    obtain rfl := Option.some.inj hstep
    refine ⟨fun task htask => ?_, hsame⟩
    rcases List.mem_append.1 htask with htask | htask
    · exact hquiet task htask
    · obtain rfl := List.mem_singleton.1 htask
      exact .inr ⟨hadds, rfl⟩
  | step i =>
    obtain ⟨task, next, htask, hturn, rfl⟩ := FacilityDb.step_step hstep
    obtain ⟨hremoved, hadds⟩ := (hquiet task (List.mem_of_getElem? htask)).turn hturn
    rw [FacilityDb.after_of_removed hremoved]
    refine ⟨fun t ht => ?_, next.added, by simp [FacilityAction.onRow]⟩
    rcases List.mem_or_eq_of_mem_set ht with ht | rfl
    · exact hquiet t ht
    · exact hadds
  | fail i =>
    obtain ⟨task, htask, rfl⟩ := FacilityDb.step_fail hstep
    refine ⟨fun t ht => ?_, hsame⟩
    rcases List.mem_or_eq_of_mem_set ht with ht | rfl
    · exact hquiet t ht
    · exact .inl ⟨false, rfl⟩

/-- What an action does to the facilities that an update covers. -/
theorem FacilityDb.step_covers {a : FacilityAction G K} (hquiet : db.Quiet) (hadds : a.Adds)
    (hleaves : a.Leaves) {i : ℕ} {task : UpdateTask G} (htask : db.updates[i]? = some task)
    (hadd : task.overwrite = false)
    (h : task.phase.Covers (db.facilities.map fun x => x.1.altid) db.attrs)
    (hstep : db.step lib pv toCrs intersects a = some db') :
    db'.facilities = db.facilities ∧ ∃ task', db'.updates[i]? = some task' ∧
      task'.overwrite = false ∧
      task'.phase.Covers (db.facilities.map fun x => x.1.altid) db'.attrs := by
  obtain ⟨hlt, -⟩ := List.getElem?_eq_some_iff.1 htask
  have hmono : task.phase.Covers (db.facilities.map fun x => x.1.altid) db'.attrs := by
    obtain ⟨-, new, hnew⟩ := step_kept hquiet hadds hstep
    refine h.mono fun r hr => ⟨a.onRow lib pv r, ?_, altid_onRow r a⟩
    rw [hnew]
    exact List.mem_append_left _ (List.mem_map_of_mem hr)
  cases a with
  | refreshFacilities ensureFuture service url fields completed => exact hleaves.elim
  | refreshSubbasins rows =>
    obtain rfl := Option.some.inj hstep
    exact ⟨rfl, task, htask, hadd, hmono⟩
  | patch settings nodeId email data =>
    obtain rfl := Option.some.inj hstep
    exact ⟨rfl, task, htask, hadd, hmono⟩
  | update overwrite =>
    obtain rfl := Option.some.inj hstep
    exact ⟨rfl, task, by rw [List.getElem?_append_left hlt, htask], hadd, hmono⟩
  | step j =>
    obtain ⟨t, next, ht, hturn, rfl⟩ := step_step hstep
    have hturns := hquiet t (List.mem_of_getElem? ht)
    rw [FacilityDb.after_of_removed (hturns.turn hturn).1] at hmono ⊢
    by_cases hij : j = i
    · subst hij
      obtain rfl := Option.some.inj (htask.symm.trans ht)
      refine ⟨rfl, { task with phase := next.phase }, ?_, hadd,
        UpdateTask.turn_covers hturns hadd h hturn⟩
      rw [List.getElem?_set_self hlt]
    · exact ⟨rfl, task, by rw [List.getElem?_set_ne hij, htask], hadd, hmono⟩
  | fail j =>
    obtain ⟨t, ht, rfl⟩ := step_fail hstep
    by_cases hij : j = i
    · subst hij
      refine ⟨rfl, { t with phase := .done false }, List.getElem?_set_self hlt, ?_, trivial⟩
      obtain rfl := Option.some.inj (htask.symm.trans ht)
      exact hadd
    · exact ⟨rfl, task, by rw [List.getElem?_set_ne hij, htask], hadd, hmono⟩

/-- The edits of a run, row by row, and the rows that it appends. -/
theorem attrs_run {as : List (FacilityAction G K)} (hquiet : db.Quiet) (hadds : ∀ a ∈ as, a.Adds)
    (hrun : (FacilityDb.machine lib pv toCrs intersects).run db as = some db') :
    ∃ new, db'.attrs = db.attrs.map (fun r => as.foldl (FacilityAction.onRow lib pv) r) ++ new := by
  induction as generalizing db with
  | nil =>
    obtain rfl := Option.some.inj hrun
    exact ⟨[], by simp⟩
  | cons a as ih =>
    obtain ⟨mid, hstep, hrun⟩ := Machine.run_cons_eq_some.1 hrun
    obtain ⟨hquiet, new, hnew⟩ :=
      FacilityDb.step_kept hquiet (hadds a List.mem_cons_self) hstep
    obtain ⟨new', hnew'⟩ := ih hquiet (fun b hb => hadds b (List.mem_cons_of_mem a hb)) hrun
    refine ⟨new.map (fun r => as.foldl (FacilityAction.onRow lib pv) r) ++ new', ?_⟩
    rw [hnew', hnew, List.map_append, List.map_map, List.append_assoc]
    rfl

/-- An update covers the facilities all along. -/
theorem covers_run {as : List (FacilityAction G K)} (hquiet : db.Quiet) (hadds : ∀ a ∈ as, a.Adds)
    (hleaves : ∀ a ∈ as, a.Leaves) {i : ℕ} {task : UpdateTask G}
    (htask : db.updates[i]? = some task) (hadd : task.overwrite = false)
    (h : task.phase.Covers (db.facilities.map fun x => x.1.altid) db.attrs)
    (hrun : (FacilityDb.machine lib pv toCrs intersects).run db as = some db') :
    ∃ task', db'.updates[i]? = some task' ∧
      task'.phase.Covers (db.facilities.map fun x => x.1.altid) db'.attrs := by
  induction as generalizing db task with
  | nil =>
    obtain rfl := Option.some.inj hrun
    exact ⟨task, htask, h⟩
  | cons a as ih =>
    obtain ⟨mid, hstep, hrun⟩ := Machine.run_cons_eq_some.1 hrun
    have ha := hadds a List.mem_cons_self
    obtain ⟨hfacilities, task', htask', hadd', hcovers⟩ :=
      FacilityDb.step_covers hquiet ha (hleaves a List.mem_cons_self) htask hadd h hstep
    rw [← hfacilities] at hcovers ⊢
    exact ih (FacilityDb.step_kept hquiet ha hstep).1
      (fun b hb => hadds b (List.mem_cons_of_mem a hb))
      (fun b hb => hleaves b (List.mem_cons_of_mem a hb)) htask' hadd' hcovers hrun

end Kept

/-! ### An update by itself -/

section Alone

variable {G : Type} {intersects : G → G → Bool}

/-- The number of subbasins that a facility is in. -/
def subbasinCount (intersects : G → G → Bool) (subbasins : List (Subbasin G))
    (f : TMNTFacilityRow G) : ℕ :=
  (subbasins.filter (meets intersects (f, defaultsOf f))).length

/-- The rows that an update adds for a facility: one for each subbasin that it is in, or one. -/
def defaultRows (intersects : G → G → Bool) (subbasins : List (Subbasin G))
    (f : TMNTFacilityRow G) : List TMNTFacilityAttr :=
  match subbasins.filter (meets intersects (f, defaultsOf f)) with
  | [] => [attrRow (f, defaultsOf f) none]
  | found => found.map fun s => attrRow (f, defaultsOf f) (some s)

/-- The facilities without attributes. -/
def FacilityDb.unknown (db : FacilityDb G) : List (TMNTFacilityRow G) :=
  (db.facilities.map Prod.fst).filter fun f => f.altid ∉ db.attrs.map TMNTFacilityAttr.altid

/-- The rows that an update adds. -/
def FacilityDb.newRows (intersects : G → G → Bool) (db : FacilityDb G) : List TMNTFacilityAttr :=
  db.unknown.flatMap (defaultRows intersects db.subbasins)

theorem setDefaultTmntAttributes_filter (p : TMNTFacilityRow G → Bool)
    (rows : List (TMNTFacilityRow G)) :
    (setDefaultTmntAttributes rows).filter (fun f => p f.1) =
      setDefaultTmntAttributes (rows.filter p) := by
  rw [setDefaultTmntAttributes_eq, setDefaultTmntAttributes_eq, List.filter_map]
  rfl

/-- The join gives each facility its default rows. -/
theorem joinedRows_eq (rows : List (TMNTFacilityRow G)) (subbasins : List (Subbasin G)) :
    joinedRows intersects (setDefaultTmntAttributes rows) subbasins =
      rows.flatMap (defaultRows intersects subbasins) := by
  rw [joinedRows, setDefaultTmntAttributes_eq, sjoinLeft, List.map_flatMap, List.flatMap_map]
  refine List.flatMap_congr fun f _ => ?_
  unfold defaultRows
  cases subbasins.filter (meets intersects (f, defaultsOf f)) with
  | nil => rfl
  | cons s found => simp only [List.map_map]; rfl

theorem length_defaultRows (subbasins : List (Subbasin G)) (f : TMNTFacilityRow G) :
    (defaultRows intersects subbasins f).length =
      max 1 (subbasinCount intersects subbasins f) := by
  unfold defaultRows subbasinCount
  cases subbasins.filter (meets intersects (f, defaultsOf f)) with
  | nil => rfl
  | cons s found => simp

theorem mem_defaultRows {subbasins : List (Subbasin G)} {f : TMNTFacilityRow G}
    {r : TMNTFacilityAttr} (h : r ∈ defaultRows intersects subbasins f) :
    ∃ s, r = attrRow (f, defaultsOf f) s := by
  unfold defaultRows at h
  cases hfound : subbasins.filter (meets intersects (f, defaultsOf f)) with
  | nil =>
    rw [hfound] at h
    exact ⟨none, List.mem_singleton.1 h⟩
  | cons s found =>
    rw [hfound] at h
    obtain ⟨s, -, rfl⟩ := List.mem_map.1 h
    exact ⟨some s, rfl⟩

theorem exists_mem_defaultRows (subbasins : List (Subbasin G)) (f : TMNTFacilityRow G) :
    ∃ r ∈ defaultRows intersects subbasins f, r.altid = f.altid := by
  have hpos : 0 < (defaultRows intersects subbasins f).length := by
    rw [length_defaultRows]
    omega
  obtain ⟨r, hr⟩ := List.exists_mem_of_length_pos hpos
  obtain ⟨s, rfl⟩ := mem_defaultRows hr
  exact ⟨_, hr, rfl⟩

/-- The rows of a facility all have its `altid`. -/
theorem altids_defaultRows (subbasins : List (Subbasin G)) (f : TMNTFacilityRow G) :
    (defaultRows intersects subbasins f).map TMNTFacilityAttr.altid =
      List.replicate (max 1 (subbasinCount intersects subbasins f)) f.altid := by
  rw [← length_defaultRows, List.eq_replicate_iff]
  refine ⟨List.length_map _, fun x hx => ?_⟩
  obtain ⟨r, hr, rfl⟩ := List.mem_map.1 hx
  obtain ⟨s, rfl⟩ := mem_defaultRows hr
  rfl

/-- No facility without attributes is in several subbasins. -/
def FacilityDb.Placed (intersects : G → G → Bool) (db : FacilityDb G) : Prop :=
  ∀ f ∈ db.unknown, f.altid.isSome → subbasinCount intersects db.subbasins f ≤ 1

theorem nodup_altids_defaultRows {subbasins : List (Subbasin G)} {f : TMNTFacilityRow G} :
    ((defaultRows intersects subbasins f).filterMap TMNTFacilityAttr.altid).Nodup ↔
      (f.altid.isSome → subbasinCount intersects subbasins f ≤ 1) := by
  have hrows : (defaultRows intersects subbasins f).filterMap TMNTFacilityAttr.altid =
      (List.replicate (max 1 (subbasinCount intersects subbasins f)) f.altid).filterMap id := by
    rw [← altids_defaultRows, List.filterMap_map]
    rfl
  rw [hrows]
  cases f.altid with
  | none => simp
  | some x => simp

/-- The new rows are accepted exactly if none of them is for a facility in several subbasins. -/
theorem uniqueAttrs_newRows {db : FacilityDb G} (h : db.Inv) :
    UniqueAttrs (db.attrs ++ db.newRows intersects) ↔ db.Placed intersects := by
  have hfacilities : (db.unknown.filterMap TMNTFacilityRow.altid).Nodup :=
    (List.filter_sublist.filterMap _).nodup h.facilities
  have hpairwise : db.unknown.Pairwise fun f g => ∀ x, f.altid = some x → g.altid ≠ some x := by
    rw [List.Nodup, List.pairwise_filterMap] at hfacilities
    exact hfacilities.imp fun {f g} hne x hf hg => hne x hf x hg rfl
  -- an `altid` among the rows of a facility is that of the facility
  have haltid : ∀ {f x}, x ∈ (defaultRows intersects db.subbasins f).filterMap
      TMNTFacilityAttr.altid → f.altid = some x := by
    intro f x hx
    obtain ⟨r, hr, hrx⟩ := List.mem_filterMap.1 hx
    obtain ⟨s, rfl⟩ := mem_defaultRows hr
    exact hrx
  rw [UniqueAttrs, List.filterMap_append, List.nodup_append, FacilityDb.newRows,
    List.filterMap_flatMap, List.nodup_flatMap]
  constructor
  · rintro ⟨-, ⟨hnodup, -⟩, -⟩ f hf
    exact nodup_altids_defaultRows.1 (hnodup f hf)
  · intro hplaced
    refine ⟨h.unique, ⟨fun f hf => nodup_altids_defaultRows.2 (hplaced f hf), ?_⟩,
      fun x hx y hy => ?_⟩
    · refine hpairwise.imp fun {f g} hne => ?_
      show List.Disjoint _ _
      rw [List.disjoint_left]
      exact fun x hxf hxg => hne x (haltid hxf) (haltid hxg)
    · -- an `altid` of the table is not among those of the unknown facilities
      obtain ⟨f, hf, hyf⟩ := List.mem_flatMap.1 hy
      obtain ⟨r, hr, hrx⟩ := List.mem_filterMap.1 hx
      rintro rfl
      refine (of_decide_eq_true (List.mem_filter.1 hf).2) ?_
      exact List.mem_map.2 ⟨r, hr, hrx.trans (haltid hyf).symm⟩

theorem FacilityDb.Placed.length_defaultRows {db : FacilityDb G} (h : db.Placed intersects)
    {f : TMNTFacilityRow G} (hf : f ∈ db.unknown) (hsome : f.altid.isSome) :
    (defaultRows intersects db.subbasins f).length = 1 := by
  rw [StormPiper.length_defaultRows, Nat.max_eq_left (h f hf hsome)]

/-- An update that nothing else comes in between. -/
def FacilityDb.alone {K : Type} (db : FacilityDb G) : List (FacilityAction G K) :=
  .update false :: List.replicate 4 (.step db.updates.length)

/-- The database after it. -/
def FacilityDb.updated (intersects : G → G → Bool) (db : FacilityDb G) : FacilityDb G :=
  let accepted := UniqueAttrs (db.attrs ++ db.newRows intersects)
  { db with
    attrs := if accepted then db.attrs ++ db.newRows intersects else db.attrs
    updates := db.updates ++ [⟨false, .done (decide accepted)⟩] }

variable {K R : Type} [DecidableEq G] {lib : TmntModels} {pv : PVComputation K R} {toCrs : G → G}

/-- The last update makes a step that takes no rows away. -/
theorem run_step_last {db : FacilityDb G} {others : List (UpdateTask G)} {task : UpdateTask G}
    (hupdates : db.updates = others ++ [task]) {added : List TMNTFacilityAttr}
    {phase : UpdatePhase G} (hturn : task.turn intersects db = some ⟨0, added, phase⟩)
    (as : List (FacilityAction G K)) :
    (FacilityDb.machine lib pv toCrs intersects).run db (.step others.length :: as) =
      (FacilityDb.machine lib pv toCrs intersects).run
        { db with
          attrs := db.attrs ++ added
          updates := others ++ [{ task with phase }] } as := by
  have hget : db.updates[others.length]? = some task := by
    rw [hupdates, List.getElem?_append_right (Nat.le_refl _), Nat.sub_self]
    rfl
  have hset : db.updates.set others.length { task with phase } =
      others ++ [{ task with phase }] := by
    rw [hupdates, List.set_append_right _ _ (Nat.le_refl _), Nat.sub_self]
    rfl
  have hstep : db.step lib pv toCrs intersects (.step others.length) =
      some { db with attrs := db.attrs ++ added, updates := others ++ [{ task with phase }] } := by
    simp [FacilityDb.step, hget, hturn, FacilityDb.after_of_removed, hset]
  rw [Machine.run_cons]
  exact congrArg (Option.bind · _) hstep

theorem run_alone (db : FacilityDb G) :
    (FacilityDb.machine lib pv toCrs intersects).run db db.alone =
      some (db.updated intersects) := by
  have hselected : (setDefaultTmntAttributes (db.facilities.map Prod.fst)).filter
      (fun f => f.1.altid ∉ db.attrs.map TMNTFacilityAttr.altid) =
        setDefaultTmntAttributes db.unknown :=
    setDefaultTmntAttributes_filter (fun f => f.altid ∉ db.attrs.map TMNTFacilityAttr.altid) _
  have hstarted : (FacilityDb.machine lib pv toCrs intersects).run db db.alone =
      (FacilityDb.machine lib pv toCrs intersects).run
        { db with updates := db.updates ++ [⟨false, .started⟩] }
        (List.replicate 4 (.step db.updates.length)) := rfl
  rw [hstarted]
  simp only [List.replicate]
  rw [run_step_last rfl rfl, run_step_last rfl rfl, run_step_last rfl rfl]
  simp only [List.append_nil, hselected, joinedRows_eq]
  have hlast : UpdateTask.turn intersects
      { db with updates := db.updates ++ [⟨false, .joined 0 (db.newRows intersects)⟩] }
      ⟨false, .joined 0 (db.newRows intersects)⟩ =
        some ⟨0, if UniqueAttrs (db.attrs ++ db.newRows intersects) then db.newRows intersects
          else [], .done (decide (UniqueAttrs (db.attrs ++ db.newRows intersects)))⟩ := by
    simp only [UpdateTask.turn, List.drop_zero]
    split_ifs with hunique
    · rw [decide_eq_true hunique]
    · rw [decide_eq_false hunique]
  refine (run_step_last rfl hlast []).trans ?_
  rw [Machine.run_nil, FacilityDb.updated]
  split_ifs
  · rfl
  · rw [List.append_nil]

end Alone

/-! ### The main results -/

section Runs

variable {G K R : Type} [DecidableEq G] {lib : TmntModels} {pv : PVComputation K R} {toCrs : G → G}
  {intersects : G → G → Bool} {db db' : FacilityDb G} {as : List (FacilityAction G K)}

/-- **The rows in every state.**  Whatever happens to the tables, in any order: no facility has two
rows, every row goes by the name of its facility and has a type that the models know, and the rows
that nobody has edited have default attributes that fit their model. -/
theorem facilityAttrs_run
    (hrun : (FacilityDb.machine lib pv toCrs intersects).run (FacilityDb.empty G) as = some db) :
    UniqueAttrs db.attrs ∧ ∀ r ∈ db.attrs, r.Sound G := by
  have hinv : db.Inv := Machine.invariant inv_empty (fun _ _ _ h hstep => h.step hstep) hrun
  exact ⟨hinv.unique, hinv.sound⟩

/-- Two models. -/
def twoModels : TmntModels where
  modelingFields := ["facility_type", "captured_pct", "retained_pct"]
  model name := if name ∈ ["SimpleRetFacility", "NTFacility"] then some fun _ => true else none
  model_noModel := by decide +kernel

/-- An edit of the attributes of a facility and of its costs. -/
def captureLess : FacilityAction ℕ ℚ :=
  .patch exampleCostDb.settings "SWFA-1" "existing_user@example.com"
    { keys := ["facility_type", "captured_pct", "capital_cost", "om_cost_per_yr"]
      attrs := { TMNTFacilityAttrUpdate.empty with
        facilityType := .val "bioretention_with_full_infiltration_simple"
        capturedPct := .val 80 }
      costs := requiredCosts 100 10
      settings := fun _ => .unset }

/-- The tables are filled. -/
def filled : List (FacilityAction ℕ ℚ) :=
  [.refreshSubbasins [⟨some "FS_01", some "Foss", 7⟩],
   .refreshFacilities mailScheduled twoFacilitiesService "FeatureServer/0" typeFields
    (.submitted String)]

/-- The system of the examples. -/
def exampleMachine : Machine (FacilityDb ℕ) (FacilityAction ℕ ℚ) :=
  FacilityDb.machine twoModels (exactPv FloatOps.wholeYears) id fun a b => a == b

/-- A facility is edited while an update is late, and another update overwrites the rows. -/
def editedMeanwhile : List (FacilityAction ℕ ℚ) :=
  filled ++ [.update false, .step 0, .step 0, .update false, .step 1, .step 1, .step 1, .step 1,
    captureLess, .step 0, .step 0, .update true, .step 2, .step 2, .step 2, .step 2]

theorem facilityAttrs_run_edited : ∃ db,
    exampleMachine.run (FacilityDb.empty ℕ) editedMeanwhile = some db ∧
    UniqueAttrs db.attrs ∧ ∀ r ∈ db.attrs, r.Sound ℕ := by
  obtain ⟨db, hrun⟩ := Option.isSome_iff_exists.1 (by decide +kernel :
    (exampleMachine.run (FacilityDb.empty ℕ) editedMeanwhile).isSome = true)
  exact ⟨db, hrun, facilityAttrs_run hrun⟩

/-- **Nothing is lost.**  While no update overwrites the rows, each row stays, with the edits that
name it and no others, whatever else happens; and if an update ends well while the facilities are
not refreshed, each of them has attributes. -/
theorem facilityAttrs_kept (hquiet : db.Quiet) (hadds : ∀ a ∈ as, a.Adds)
    (hrun : (FacilityDb.machine lib pv toCrs intersects).run db as = some db') :
    (∃ new, db'.attrs = db.attrs.map (fun r => as.foldl (FacilityAction.onRow lib pv) r) ++ new) ∧
    ∀ i : ℕ, db.updates[i]? = some (⟨false, .started⟩ : UpdateTask G) → (∀ a ∈ as, a.Leaves) →
      ∀ task : UpdateTask G, db'.updates[i]? = some task → task.phase = .done true →
        ∀ f ∈ db.facilities, ∃ r ∈ db'.attrs, r.altid = f.1.altid := by
  refine ⟨attrs_run hquiet hadds hrun, fun i hi hleaves task htask hdone f hf => ?_⟩
  obtain ⟨task', htask', hcovers⟩ := covers_run hquiet hadds hleaves hi rfl trivial hrun
  obtain rfl := Option.some.inj (htask.symm.trans htask')
  rw [hdone] at hcovers
  exact hcovers _ (List.mem_map_of_mem hf)

/-- An update is to begin. -/
def waiting : FacilityDb ℕ where
  facilities := [(facilityRow id [] ⟨[("ALTID", some "SWFA-1")], some 7⟩, 1)]
  subbasins := [⟨some "FS_01", some "Foss", 7⟩]
  attrs := [attrRow (facilityRow id [] ⟨[("ALTID", some "SWFA-2")], some 7⟩,
    defaultAttrs "no_treatment" none) none]
  updates := [⟨false, .started⟩]

theorem facilityAttrs_kept_waiting : ∃ db,
    exampleMachine.run waiting [.step 0, .step 0, captureLess, .step 0, .step 0, captureLess] =
      some db ∧
    (∃ new, db.attrs = waiting.attrs.map (fun r =>
      [.step 0, .step 0, captureLess, .step 0, .step 0, captureLess].foldl
        (FacilityAction.onRow twoModels (exactPv FloatOps.wholeYears)) r) ++ new) ∧
    ∀ i : ℕ, waiting.updates[i]? = some (⟨false, .started⟩ : UpdateTask ℕ) →
      (∀ a ∈ [.step 0, .step 0, captureLess, .step 0, .step 0, captureLess], a.Leaves) →
      ∀ task : UpdateTask ℕ, db.updates[i]? = some task → task.phase = .done true →
        ∀ f ∈ waiting.facilities, ∃ r ∈ db.attrs, r.altid = f.1.altid := by
  obtain ⟨db, hrun⟩ := Option.isSome_iff_exists.1 (by decide +kernel :
    (exampleMachine.run waiting
      [.step 0, .step 0, captureLess, .step 0, .step 0, captureLess]).isSome = true)
  refine ⟨db, hrun, facilityAttrs_kept ?_ ?_ hrun⟩
  · intro task htask
    obtain rfl := List.mem_singleton.1 htask
    exact .inr ⟨rfl, rfl⟩
  · intro a ha
    simp only [List.mem_cons, List.not_mem_nil, or_false] at ha
    rcases ha with rfl | rfl | rfl | rfl | rfl | rfl <;> trivial

/-- **An update by itself.**  It succeeds exactly if no facility that is to get attributes and has
an `altid` is in several subbasins.  Then it adds the default rows of the facilities without
attributes, one for each that has an `altid`, and leaves the others as they are, so that every
facility has attributes and another update changes nothing.  Otherwise no facility gets any. -/
theorem update_alone
    (hrun : (FacilityDb.machine lib pv toCrs intersects).run (FacilityDb.empty G) as = some db) :
    ∃ db', (FacilityDb.machine lib pv toCrs intersects).run db db.alone = some db' ∧
      (db'.updates.getLast? = some ⟨false, .done true⟩ ↔ db.Placed intersects) ∧
      (db.Placed intersects →
        db'.attrs = db.attrs ++ db.unknown.flatMap (defaultRows intersects db.subbasins) ∧
        (∀ f ∈ db.unknown, f.altid.isSome →
          (defaultRows intersects db.subbasins f).length = 1) ∧
        (∀ f ∈ db.facilities, ∃ r ∈ db'.attrs, r.altid = f.1.altid) ∧
        ∃ db'', (FacilityDb.machine lib pv toCrs intersects).run db' db'.alone = some db'' ∧
          db''.attrs = db'.attrs) ∧
      (¬ db.Placed intersects → db'.attrs = db.attrs) := by
  have hinv : db.Inv := Machine.invariant inv_empty (fun _ _ _ h hstep => h.step hstep) hrun
  have hrun' : (FacilityDb.machine lib pv toCrs intersects).run db db.alone =
      some (db.updated intersects) := run_alone db
  have hinv' : (db.updated intersects).Inv :=
    Machine.invariant hinv (fun _ _ _ h hstep => h.step hstep) hrun'
  refine ⟨db.updated intersects, hrun', ?_, fun hplaced => ?_, fun hplaced => ?_⟩
  · rw [FacilityDb.updated, List.getLast?_concat, Option.some.injEq, UpdateTask.mk.injEq,
      UpdatePhase.done.injEq, decide_eq_true_iff, uniqueAttrs_newRows hinv]
    exact and_iff_right rfl
  · have hattrs : (db.updated intersects).attrs = db.attrs ++ db.newRows intersects :=
      if_pos ((uniqueAttrs_newRows hinv).2 hplaced)
    have hcovered : ∀ f ∈ db.facilities,
        ∃ r ∈ (db.updated intersects).attrs, r.altid = f.1.altid := by
      intro f hf
      rw [hattrs]
      by_cases hthere : f.1.altid ∈ db.attrs.map TMNTFacilityAttr.altid
      · obtain ⟨r, hr, hraltid⟩ := List.mem_map.1 hthere
        exact ⟨r, List.mem_append_left _ hr, hraltid⟩
      · have hunknown : f.1 ∈ db.unknown :=
          List.mem_filter.2 ⟨List.mem_map_of_mem hf, decide_eq_true hthere⟩
        obtain ⟨r, hr, hraltid⟩ := exists_mem_defaultRows db.subbasins f.1
        exact ⟨r, List.mem_append_right _ (List.mem_flatMap.2 ⟨f.1, hunknown, hr⟩), hraltid⟩
    -- nothing is left for another update to add
    have hnone : (db.updated intersects).unknown = [] := by
      refine List.filter_eq_nil_iff.2 fun f hf hnot => of_decide_eq_true hnot ?_
      obtain ⟨x, hx, rfl⟩ := List.mem_map.1 hf
      obtain ⟨r, hr, hraltid⟩ := hcovered x hx
      exact List.mem_map.2 ⟨r, hr, hraltid⟩
    have hnew : (db.updated intersects).newRows intersects = [] := by
      rw [FacilityDb.newRows, hnone]
      rfl
    refine ⟨hattrs, fun f hf hsome => hplaced.length_defaultRows hf hsome, hcovered, _,
      run_alone _, ?_⟩
    rw [FacilityDb.updated, hnew, List.append_nil]
    exact if_pos hinv'.unique
  · exact if_neg (mt (uniqueAttrs_newRows hinv).1 hplaced)

theorem update_alone_filled : ∃ db, exampleMachine.run (FacilityDb.empty ℕ) filled = some db ∧
    ∃ db', exampleMachine.run db db.alone = some db' ∧
      (db'.updates.getLast? = some ⟨false, .done true⟩ ↔ db.Placed fun a b => a == b) ∧
      (db.Placed (fun a b => a == b) →
        db'.attrs = db.attrs ++
          db.unknown.flatMap (defaultRows (fun a b => a == b) db.subbasins) ∧
        (∀ f ∈ db.unknown, f.altid.isSome →
          (defaultRows (fun a b => a == b) db.subbasins f).length = 1) ∧
        (∀ f ∈ db.facilities, ∃ r ∈ db'.attrs, r.altid = f.1.altid) ∧
        ∃ db'', exampleMachine.run db' db'.alone = some db'' ∧ db''.attrs = db'.attrs) ∧
      (¬ db.Placed (fun a b => a == b) → db'.attrs = db.attrs) := by
  obtain ⟨db, hrun⟩ := Option.isSome_iff_exists.1 (by decide +kernel :
    (exampleMachine.run (FacilityDb.empty ℕ) filled).isSome = true)
  exact ⟨db, hrun, update_alone hrun⟩

end Runs

end StormPiper
