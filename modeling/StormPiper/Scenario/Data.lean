import Mathlib.Data.Fintype.Pi
import StormPiper.Python.Basic

/-!
# The data of a scenario

A scenario has what the user submits (`name`, `info`, `input`), two hashes of the submitted input,
and what is computed from it.  In the database every column has a value or is null
(`ScenarioRow`); the dictionaries that the code passes around have keys that may be missing as
well (`ScenarioData`).

Parts of the documents that the code hands on without looking into them are of an opaque type `J`
of JSON documents, and hashes are of an opaque type `Digest`.  Models of the source that are dumped
and parsed again are the same values here.

## Main definitions

* `Facility`, `ScenarioInput`, `ResultRow` : the documents that the code looks into.
* `ScenarioRow`, `ScenarioData` : a stored scenario and a dictionary of fields.
* `ScenarioRow.toData`, `ScenarioData.apply` : a snapshot of a row, and the write of a dictionary.
* `ScenarioLibrary` : the computations that are not part of the scenario code.
-/

namespace StormPiper

/-- The pollutants of concern: `POCS`. -/
inductive Poc where
  | tss
  | tn
  | tp
  | tcu
  | tzn
  | phe
  | pyr
  | dehp
  deriving Repr, DecidableEq

/-- `POCS`, in its order. -/
def Poc.all : List Poc := [.tss, .tn, .tp, .tcu, .tzn, .phe, .pyr, .dehp]

instance : Fintype Poc where
  elems := ⟨Poc.all, by decide⟩
  complete poc := by cases poc <;> decide

/-- The properties of a treatment facility. -/
structure Facility (J K : Type) where
  nodeId : ModelField String
  presentValueTotalCost : ModelField K
  /-- The fields `{poc}_total_cost_dollars_per_load_lbs_removed`. -/
  costEffectiveness : Poc → ModelField K
  /-- The other properties. -/
  props : J
  deriving DecidableEq

/-- A feature of a facility collection.  `properties` is `none` where the key is missing, null or
an empty dictionary. -/
structure FacilityFeature (J K : Type) where
  properties : Option (Facility J K)
  geometry : J
  deriving DecidableEq

/-- `ScenarioInput`: the collections the user submits. -/
structure ScenarioInput (J K : Type) where
  delineationCollection : ModelField J
  tmntFacilityCollection : ModelField (List (FacilityFeature J K))
  deriving DecidableEq

/-- A row of the water quality results. -/
structure ResultRow (J K : Type) where
  nodeId : Option String
  ntype : Option String
  epoch : Option String
  /-- The fields `{poc}_load_lbs_removed`. -/
  loadLbsRemoved : Poc → ModelField K
  /-- The facilities of the watershed that is embedded in the blob of the row. -/
  treatmentFacilities : List (Facility J K)
  /-- The other columns. -/
  blob : J
  deriving DecidableEq

/-- A row of the table `scenario`. -/
structure ScenarioRow (J K Digest Time : Type) where
  name : Option String
  info : Option J
  input : Option (ScenarioInput J K)
  inputTimeUpdated : Option Time
  loadingHash : Option Digest
  inputHash : Option Digest
  structuralTmnt : Option (List (Facility J K))
  resultTimeUpdated : Option Time
  lguBoundary : Option J
  lguLoad : Option J
  delinLoad : Option J
  graphEdge : Option J
  structuralTmntResult : Option (List (ResultRow J K))
  deriving DecidableEq

/-- A dictionary with the keys of a scenario. -/
@[grind ext]
structure ScenarioData (J K Digest Time : Type) where
  id : ModelField String
  name : ModelField String
  info : ModelField J
  input : ModelField (ScenarioInput J K)
  inputTimeUpdated : ModelField Time
  loadingHash : ModelField Digest
  inputHash : ModelField Digest
  structuralTmnt : ModelField (List (Facility J K))
  resultTimeUpdated : ModelField Time
  lguBoundary : ModelField J
  lguLoad : ModelField J
  delinLoad : ModelField J
  graphEdge : ModelField J
  structuralTmntResult : ModelField (List (ResultRow J K))
  deriving DecidableEq

variable {J K Digest Time : Type}

/-- The row of a scenario of which nothing is set. -/
def ScenarioRow.empty : ScenarioRow J K Digest Time :=
  ⟨none, none, none, none, none, none, none, none, none, none, none, none, none⟩

/-- The empty dictionary. -/
def ScenarioData.empty : ScenarioData J K Digest Time :=
  ⟨.unset, .unset, .unset, .unset, .unset, .unset, .unset, .unset, .unset, .unset, .unset, .unset,
    .unset, .unset⟩

/-- `ScenarioSolve(**orm_to_dict(row)).model_dump(exclude_unset=True)`: every column is set, so
that nothing is left out. -/
def ScenarioRow.toData (row : ScenarioRow J K Digest Time) (id : String) :
    ScenarioData J K Digest Time where
  id := .val id
  name := .ofOption row.name
  info := .ofOption row.info
  input := .ofOption row.input
  inputTimeUpdated := .ofOption row.inputTimeUpdated
  loadingHash := .ofOption row.loadingHash
  inputHash := .ofOption row.inputHash
  structuralTmnt := .ofOption row.structuralTmnt
  resultTimeUpdated := .ofOption row.resultTimeUpdated
  lguBoundary := .ofOption row.lguBoundary
  lguLoad := .ofOption row.lguLoad
  delinLoad := .ofOption row.delinLoad
  graphEdge := .ofOption row.graphEdge
  structuralTmntResult := .ofOption row.structuralTmntResult

/-- The row after an update of the fields that are set. -/
def ScenarioData.apply (data : ScenarioData J K Digest Time) (row : ScenarioRow J K Digest Time) :
    ScenarioRow J K Digest Time where
  name := data.name.apply row.name
  info := data.info.apply row.info
  input := data.input.apply row.input
  inputTimeUpdated := data.inputTimeUpdated.apply row.inputTimeUpdated
  loadingHash := data.loadingHash.apply row.loadingHash
  inputHash := data.inputHash.apply row.inputHash
  structuralTmnt := data.structuralTmnt.apply row.structuralTmnt
  resultTimeUpdated := data.resultTimeUpdated.apply row.resultTimeUpdated
  lguBoundary := data.lguBoundary.apply row.lguBoundary
  lguLoad := data.lguLoad.apply row.lguLoad
  delinLoad := data.delinLoad.apply row.delinLoad
  graphEdge := data.graphEdge.apply row.graphEdge
  structuralTmntResult := data.structuralTmntResult.apply row.structuralTmntResult

/-- The delineation collection of a stored scenario. -/
def ScenarioRow.delineationCollection (row : ScenarioRow J K Digest Time) : Option J :=
  row.input.bind fun inp => inp.delineationCollection.get

/-- The facility collection of a stored scenario. -/
def ScenarioRow.tmntFacilityCollection (row : ScenarioRow J K Digest Time) :
    Option (List (FacilityFeature J K)) :=
  row.input.bind fun inp => inp.tmntFacilityCollection.get

/-- A facility without the cost-effectiveness fields. -/
def Facility.stripCost (fac : Facility J K) : Facility J K :=
  { fac with costEffectiveness := fun _ => .unset }

/-- The computations that the scenario code calls, as functions of what they are called with. -/
structure ScenarioLibrary (J K Digest : Type) where
  /-- `json.loads(validate_delineation_collection(json.dumps(collection)))`. -/
  validateDelineationCollection : J → Except PyError J
  /-- A validated delineation collection as the model `ScenarioInputUpdate` stores it. -/
  delineationCollectionUpdate : J → Except PyError J
  /-- The properties of a facility, updated by what `tmnt_attr_validator` returns for them. -/
  tmntAttrValidator : Facility J K → Except PyError (Facility J K)
  /-- `get_data_hash` of an input or of a delineation collection. -/
  getDataHash : ScenarioInput J K ⊕ J → Digest
  /-- The boundaries and the loads that `compute_scenario_loading_df` gives for a delineation
  collection. -/
  computeScenarioLoadingDf : J → Except PyError (J × J)
  /-- The loads by delineation. -/
  delinLoad : J → Except PyError J
  /-- `build_scenario_edge_list`. -/
  buildScenarioEdgeList : Option J → List (FacilityFeature J K) → Except PyError J
  /-- `nereid`'s solver over all epochs, with the boundaries, loads, edges and facilities. -/
  solveWatershed : Option J → Option J → J → List (Facility J K) →
    Except PyError (List (ResultRow J K))
  /-- The other properties of a facility as they are embedded in the results of an epoch. -/
  watershedProps : Option String → J → J

/-- The boundaries of a delineation collection. -/
def ScenarioLibrary.lguBoundary (lib : ScenarioLibrary J K Digest) (d : J) : Except PyError J :=
  (lib.computeScenarioLoadingDf d).map Prod.fst

/-- The loads of a delineation collection. -/
def ScenarioLibrary.lguLoad (lib : ScenarioLibrary J K Digest) (d : J) : Except PyError J :=
  (lib.computeScenarioLoadingDf d).map Prod.snd

end StormPiper
