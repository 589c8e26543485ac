import Mathlib.Data.List.AList
import StormPiper.Scenario.Data

/-!
# Creating and updating scenarios

`scenario_validator` turns a payload into the fields to write: it hashes the submitted input,
validates the delineation collection and hashes it too, and lists the properties of the
facilities.  `PATCH /scenario/{id}` compares the two hashes with the stored ones and clears the
results that do not belong to the input any more.

## Main definitions

* `ScenarioPayload` : what a client sends.
* `scenarioValidator`, `updateScenario`, `createScenario` : the functions of the source.
* `scenarioValidator_cases` : the fields that a valid payload sets.
-/

namespace StormPiper

variable {J K Digest Time : Type}

/-- `ScenarioPost` and `ScenarioPatch`: what a client sends. -/
structure ScenarioPayload (J K : Type) where
  name : ModelField String
  info : ModelField J
  input : ModelField (ScenarioInput J K)

/-- The table `scenario`. -/
abbrev ScenarioDb (J K Digest Time : Type) : Type :=
  AList fun _ : String => ScenarioRow J K Digest Time

/-- The loop over the features of a facility collection: the updated properties of those that have
properties. -/
def validateFacilities (lib : ScenarioLibrary J K Digest) :
    List (FacilityFeature J K) → Except PyError (List (Facility J K))
  | [] => .ok []
  | f :: features =>
    match f.properties with
    | none => validateFacilities lib features
    | some props => do
      let newProps ← lib.tmntAttrValidator props
      let structuralTmnt ← validateFacilities lib features
      .ok (newProps :: structuralTmnt)

/-- The delineation branch of `scenario_validator`: the input to store and `loading_hash`. -/
def validateDelineation (lib : ScenarioLibrary J K Digest) (input : ScenarioInput J K) :
    Except PyError (ScenarioInput J K × ModelField Digest) :=
  match input.delineationCollection with
  | .val collection => do
    let delineationCollection ← lib.validateDelineationCollection collection
    -- `ScenarioUpdate(**scenario)` stores the collection with lower precision, after it is hashed
    let stored ← lib.delineationCollectionUpdate delineationCollection
    .ok ({ input with delineationCollection := .val stored },
      .val (lib.getDataHash (.inr delineationCollection)))
  | _ => .ok (input, .unset)

/-- The facility branch of `scenario_validator`: `structural_tmnt`. -/
def validateTmnt (lib : ScenarioLibrary J K Digest) (input : ScenarioInput J K) :
    Except PyError (ModelField (List (Facility J K))) :=
  match input.tmntFacilityCollection with
  | .val features => (validateFacilities lib features).map .val
  | _ => .ok .unset

/-- `scenario_validator`. -/
def scenarioValidator (lib : ScenarioLibrary J K Digest) (scenario : ScenarioPayload J K) :
    Except PyError (ScenarioData J K Digest Time) :=
  let data : ScenarioData J K Digest Time :=
    { ScenarioData.empty with
      name := scenario.name, info := scenario.info, input := scenario.input }
  match scenario.input with
  | .val input => do
    let inputHash := lib.getDataHash (.inl input)
    let (stored, loadingHash) ← validateDelineation lib input
    let structuralTmnt ← validateTmnt lib input
    .ok { data with input := .val stored, inputHash := .val inputHash, loadingHash, structuralTmnt }
  | _ => .ok data

/-! ### What a valid payload writes -/

/-- `stored`, with its hash and its facilities, is what validation makes of the submitted `input`.
Where a collection is missing, its hash or list is not set. -/
structure Validated (lib : ScenarioLibrary J K Digest) (input stored : ScenarioInput J K)
    (loadingHash : ModelField Digest) (structuralTmnt : ModelField (List (Facility J K))) :
    Prop where
  delineation : validateDelineation lib input = .ok (stored, loadingHash)
  facilities : validateTmnt lib input = .ok structuralTmnt

/-- The dictionary of the fields that validation sets. -/
def submittedData (name : ModelField String) (info : ModelField J)
    (input : ModelField (ScenarioInput J K)) (inputHash loadingHash : ModelField Digest)
    (structuralTmnt : ModelField (List (Facility J K))) : ScenarioData J K Digest Time :=
  { (ScenarioData.empty : ScenarioData J K Digest Time) with
    name, info, input, inputHash, loadingHash, structuralTmnt }

/-- A valid payload without an input writes its other fields; one with an input writes what
validation makes of it. -/
theorem scenarioValidator_cases {lib : ScenarioLibrary J K Digest} {scenario : ScenarioPayload J K}
    {data : ScenarioData J K Digest Time} (h : scenarioValidator lib scenario = .ok data) :
    (scenario.input.get = none ∧
      data = submittedData scenario.name scenario.info scenario.input .unset .unset .unset) ∨
    ∃ input stored loadingHash structuralTmnt, scenario.input = .val input ∧
      Validated lib input stored loadingHash structuralTmnt ∧
      data = submittedData scenario.name scenario.info (.val stored)
        (.val (lib.getDataHash (.inl input))) loadingHash structuralTmnt := by
  unfold scenarioValidator at h
  cases hin : scenario.input with
  | unset =>
    simp only [hin] at h
    exact .inl ⟨rfl, (Except.ok.inj h).symm⟩
  | null =>
    simp only [hin] at h
    exact .inl ⟨rfl, (Except.ok.inj h).symm⟩
  | val input =>
    simp only [hin] at h
    obtain ⟨⟨stored, loadingHash⟩, hdelin, h⟩ := bind_eq_ok h
    obtain ⟨structuralTmnt, htmnt, h⟩ := bind_eq_ok h
    exact .inr ⟨input, stored, loadingHash, structuralTmnt, rfl, ⟨hdelin, htmnt⟩,
      (Except.ok.inj h).symm⟩

namespace Validated

variable {lib : ScenarioLibrary J K Digest} {input stored : ScenarioInput J K}
  {loadingHash : ModelField Digest} {structuralTmnt : ModelField (List (Facility J K))}

/-- A submitted collection is validated, hashed and stored; without one the input stays as it is. -/
theorem delineation_cases (h : Validated lib input stored loadingHash structuralTmnt) :
    (∃ v d, lib.delineationCollectionUpdate v = .ok d ∧
      stored = { input with delineationCollection := .val d } ∧
      loadingHash = .val (lib.getDataHash (.inr v))) ∨
    input.delineationCollection.get = none ∧ stored = input ∧ loadingHash = .unset := by
  have hval := h.delineation
  unfold validateDelineation at hval
  cases hin : input.delineationCollection with
  | val collection =>
    simp only [hin] at hval
    obtain ⟨v, -, hval⟩ := bind_eq_ok hval
    obtain ⟨d, hd, hval⟩ := bind_eq_ok hval
    cases hval
    exact .inl ⟨v, d, hd, rfl, rfl⟩
  | unset =>
    simp only [hin] at hval
    cases hval
    exact .inr ⟨rfl, rfl, rfl⟩
  | null =>
    simp only [hin] at hval
    cases hval
    exact .inr ⟨rfl, rfl, rfl⟩

/-- A stored delineation collection comes from the validated one that `loading_hash` is of. -/
theorem of_delineation (h : Validated lib input stored loadingHash structuralTmnt) {d : J}
    (hd : stored.delineationCollection.get = some d) :
    ∃ v, lib.delineationCollectionUpdate v = .ok d ∧
      loadingHash = .val (lib.getDataHash (.inr v)) := by
  rcases h.delineation_cases with ⟨v, d', hd', rfl, rfl⟩ | ⟨hnone, rfl, -⟩
  · cases hd
    exact ⟨v, hd', rfl⟩
  · rw [hnone] at hd
    cases hd

/-- A `loading_hash` that is set is the hash of a validated collection that is stored. -/
theorem of_loadingHash (h : Validated lib input stored loadingHash structuralTmnt) {hash : Digest}
    (hh : loadingHash.get = some hash) :
    ∃ v d, lib.delineationCollectionUpdate v = .ok d ∧
      stored.delineationCollection.get = some d ∧ hash = lib.getDataHash (.inr v) := by
  rcases h.delineation_cases with ⟨v, d, hd, rfl, rfl⟩ | ⟨-, -, rfl⟩
  · cases hh
    exact ⟨v, d, hd, rfl, rfl⟩
  · cases hh

/-- The stored facility collection is the submitted one. -/
theorem tmnt_eq (h : Validated lib input stored loadingHash structuralTmnt) :
    stored.tmntFacilityCollection = input.tmntFacilityCollection := by
  rcases h.delineation_cases with ⟨v, d, -, rfl, -⟩ | ⟨-, rfl, -⟩
  · rfl
  · rfl

/-- A stored facility collection has its validated properties listed. -/
theorem of_tmnt (h : Validated lib input stored loadingHash structuralTmnt)
    {fs : List (FacilityFeature J K)} (hfs : stored.tmntFacilityCollection.get = some fs) :
    ∃ st, validateFacilities lib fs = .ok st ∧ structuralTmnt = .val st := by
  rw [h.tmnt_eq] at hfs
  have hval := h.facilities
  unfold validateTmnt at hval
  rw [ModelField.get_eq_some.1 hfs] at hval
  obtain ⟨st, hst, rfl⟩ := map_eq_ok hval
  exact ⟨st, hst, rfl⟩

/-- Validation is a function of the submitted input. -/
theorem unique (h : Validated lib input stored loadingHash structuralTmnt)
    {stored' : ScenarioInput J K} {loadingHash' : ModelField Digest}
    {structuralTmnt' : ModelField (List (Facility J K))}
    (h' : Validated lib input stored' loadingHash' structuralTmnt') :
    stored' = stored ∧ loadingHash' = loadingHash := by
  have heq := h.delineation.symm.trans h'.delineation
  cases heq
  exact ⟨rfl, rfl⟩

end Validated

/-! ### Endpoints -/

variable [DecidableEq Digest]

/-- The fields that `PATCH /scenario/{id}` writes over the stored row `attr`. -/
def updateScenarioData (attr : ScenarioRow J K Digest Time) (data : ScenarioData J K Digest Time)
    (now : Time) : ScenarioData J K Digest Time :=
  if data.input.isSet then
    let recalculateLoading := attr.loadingHash != data.loadingHash.get
    let recalculateWq := attr.inputHash != data.inputHash.get
    let data :=
      if recalculateLoading then
        { data with lguBoundary := .null, lguLoad := .null, delinLoad := .null }
      else data
    if recalculateWq then
      { data with
        graphEdge := .null
        structuralTmntResult := .null
        inputTimeUpdated := .val now }
    else data
  else data

/-- `PATCH /scenario/{id}`; the exceptions of the dependency `validate_scenario` are answered with
422. -/
def updateScenario (lib : ScenarioLibrary J K Digest) (db : ScenarioDb J K Digest Time)
    (id : String) (scenario : ScenarioPayload J K) (now : Time) :
    Except PyError (ScenarioDb J K Digest Time) :=
  match scenarioValidator lib scenario with
  | .error _ => .error (.httpException 422)
  | .ok data =>
    match db.lookup id with
    | none => .error (.httpException 404)
    | some attr => .ok (db.insert id ((updateScenarioData attr data now).apply attr))

/-- `POST /scenario/` with the identifier that the database gives. -/
def createScenario (lib : ScenarioLibrary J K Digest) (db : ScenarioDb J K Digest Time)
    (id : String) (scenario : ScenarioPayload J K) : Except PyError (ScenarioDb J K Digest Time) :=
  match scenarioValidator lib scenario with
  | .error _ => .error (.httpException 422)
  | .ok data =>
    if id ∈ db then .error (.httpException 422)
    else .ok (db.insert id (data.apply .empty))

/-- `DELETE /scenario/{id}`. -/
def deleteScenario (db : ScenarioDb J K Digest Time) (id : String) : ScenarioDb J K Digest Time :=
  db.erase id

/-- A patch that succeeds writes over a stored row. -/
theorem updateScenario_eq_ok {lib : ScenarioLibrary J K Digest}
    {db db' : ScenarioDb J K Digest Time} {id : String} {scenario : ScenarioPayload J K}
    {now : Time} :
    updateScenario lib db id scenario now = .ok db' ↔
      ∃ data row, scenarioValidator lib scenario = .ok data ∧ db.lookup id = some row ∧
        db.insert id ((updateScenarioData row data now).apply row) = db' := by
  unfold updateScenario
  constructor
  · intro h
    split at h
    · cases h
    · rename_i data hdata
      split at h
      · cases h
      · rename_i row hrow
        exact ⟨data, row, hdata, hrow, Except.ok.inj h⟩
  · rintro ⟨data, row, hdata, hrow, rfl⟩
    rw [hdata, hrow]

omit [DecidableEq Digest] in
/-- A scenario that is created is a new row. -/
theorem createScenario_ok {lib : ScenarioLibrary J K Digest} {db db' : ScenarioDb J K Digest Time}
    {id : String} {scenario : ScenarioPayload J K}
    (h : createScenario lib db id scenario = .ok db') :
    ∃ data, scenarioValidator lib scenario = .ok data ∧ db' = db.insert id (data.apply .empty) := by
  unfold createScenario at h
  split at h
  · cases h
  · rename_i data hdata
    split_ifs at h
    exact ⟨data, hdata, (Except.ok.inj h).symm⟩

omit [DecidableEq Digest] in
/-- The rows that are left were there. -/
theorem lookup_of_lookup_deleteScenario {db : ScenarioDb J K Digest Time} {id id' : String}
    {row : ScenarioRow J K Digest Time} (h : (deleteScenario db id').lookup id = some row) :
    db.lookup id = some row := by
  by_cases hid : id = id'
  · subst hid
    rw [deleteScenario, AList.lookup_erase] at h
    cases h
  · rwa [deleteScenario, AList.lookup_erase_ne hid] at h

/-- The columns after a patch: the hashes of the stored row decide which results stay. -/
theorem updateScenarioData_apply (attr : ScenarioRow J K Digest Time) (name : ModelField String)
    (info : ModelField J) (input : ModelField (ScenarioInput J K))
    (inputHash loadingHash : ModelField Digest)
    (structuralTmnt : ModelField (List (Facility J K))) (now : Time) (h : input.isSet = true) :
    (updateScenarioData attr
        (submittedData name info input inputHash loadingHash structuralTmnt) now).apply attr =
      { name := name.apply attr.name
        info := info.apply attr.info
        input := input.apply attr.input
        inputTimeUpdated := if attr.inputHash = inputHash.get then attr.inputTimeUpdated else now
        loadingHash := loadingHash.apply attr.loadingHash
        inputHash := inputHash.apply attr.inputHash
        structuralTmnt := structuralTmnt.apply attr.structuralTmnt
        resultTimeUpdated := attr.resultTimeUpdated
        lguBoundary := if attr.loadingHash = loadingHash.get then attr.lguBoundary else none
        lguLoad := if attr.loadingHash = loadingHash.get then attr.lguLoad else none
        delinLoad := if attr.loadingHash = loadingHash.get then attr.delinLoad else none
        graphEdge := if attr.inputHash = inputHash.get then attr.graphEdge else none
        structuralTmntResult :=
          if attr.inputHash = inputHash.get then attr.structuralTmntResult else none } := by
  simp only [updateScenarioData, submittedData, h, if_true]
  by_cases hload : attr.loadingHash = loadingHash.get
  · have hl : (attr.loadingHash != loadingHash.get) = false := bne_eq_false_iff_eq.2 hload
    by_cases hwq : attr.inputHash = inputHash.get
    · have hw : (attr.inputHash != inputHash.get) = false := bne_eq_false_iff_eq.2 hwq
      simp only [hl, hw, if_pos hload, if_pos hwq, Bool.false_eq_true, if_false]
      rfl
    · have hw : (attr.inputHash != inputHash.get) = true := bne_iff_ne.2 hwq
      simp only [hl, hw, if_pos hload, if_neg hwq, Bool.false_eq_true, if_false, if_true]
      rfl
  · have hl : (attr.loadingHash != loadingHash.get) = true := bne_iff_ne.2 hload
    by_cases hwq : attr.inputHash = inputHash.get
    · have hw : (attr.inputHash != inputHash.get) = false := bne_eq_false_iff_eq.2 hwq
      simp only [hl, hw, if_neg hload, if_pos hwq, Bool.false_eq_true, if_false, if_true]
      rfl
    · have hw : (attr.inputHash != inputHash.get) = true := bne_iff_ne.2 hwq
      simp only [hl, hw, if_neg hload, if_neg hwq, if_true]
      rfl

theorem updateScenarioData_apply_unset (attr : ScenarioRow J K Digest Time)
    (name : ModelField String) (info : ModelField J) (now : Time) :
    (updateScenarioData attr (submittedData name info .unset .unset .unset .unset) now).apply attr =
      { attr with name := name.apply attr.name, info := info.apply attr.info } := rfl

end StormPiper
