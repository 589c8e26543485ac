import Mathlib.Algebra.Order.Field.Rat
import StormPiper.Run.Machine
import StormPiper.Scenario.Solve

/-!
# The results of a scenario belong to its input

A patch compares the hashes of the submitted input with the stored ones, which are not rewritten
when a collection or the whole input is dropped.  A hash that is left behind does no harm: where
results are stored, the stored hashes are those of the stored input.

A forced solve calls the solver with the cost-effectiveness fields that an earlier solve has added
to the facilities, and the solver embeds its facilities in its results.  Up to these fields the
stored results are those of the stored input, and exactly those in runs without a forced solve.

## Main definitions

* `loadingOf`, `wqOf` : the loads and the water quality results of an input.
* `ScenarioRow.Consistent`, `ScenarioRow.Fresh` : the invariants.
* `scenarioMachine` : create, patch, delete and solve.
* `results_belong_to_input` : what is stored belongs to the stored input, after every run.
* `forced_solve_embeds_cost` : a forced solve after a solve.
-/

namespace StormPiper

variable {J K Digest Time : Type}

/-! ### The results of an input -/

/-- The boundaries of an input. -/
def boundaryOf (lib : ScenarioLibrary J K Digest) (input : ScenarioInput J K) : Except PyError J :=
  onCollection input.delineationCollection.get lib.lguBoundary

/-- The loads of an input. -/
def loadingOf (lib : ScenarioLibrary J K Digest) (input : ScenarioInput J K) : Except PyError J :=
  onCollection input.delineationCollection.get lib.lguLoad

/-- The validated properties of the facilities of an input. -/
def facilitiesOf (lib : ScenarioLibrary J K Digest) (input : ScenarioInput J K) :
    Except PyError (List (Facility J K)) :=
  onCollection input.tmntFacilityCollection.get (validateFacilities lib)

/-- The water quality results of an input with the given properties of the facilities. -/
def wqWith (lib : ScenarioLibrary J K Digest) (input : ScenarioInput J K)
    (facilities : List (Facility J K)) : Except PyError (List (ResultRow J K)) := do
  let boundary ← boundaryOf lib input
  let load ← loadingOf lib input
  let edges ← onCollection input.tmntFacilityCollection.get
    (lib.buildScenarioEdgeList (some boundary))
  solveWqEpochs lib (some boundary) (some load) edges (some facilities)

/-- The water quality results of an input. -/
def wqOf (lib : ScenarioLibrary J K Digest) (input : ScenarioInput J K) :
    Except PyError (List (ResultRow J K)) := do
  let facilities ← facilitiesOf lib input
  wqWith lib input facilities

/-- The two lists differ in cost-effectiveness fields only. -/
def SameFacilities (st st' : List (Facility J K)) : Prop :=
  st.map Facility.stripCost = st'.map Facility.stripCost

/-! ### The invariants -/

/-- The hashes, the facilities and the results of a row belong to its input. -/
structure ScenarioRow.Consistent (lib : ScenarioLibrary J K Digest)
    (row : ScenarioRow J K Digest Time) : Prop where
  /-- The stored input is a validated one.  The hashes of what it has are stored, and the
  properties of its facilities are listed. -/
  input : ∀ inp, row.input = some inp → ∃ raw loadingHash structuralTmnt,
    Validated lib raw inp loadingHash structuralTmnt ∧
      row.inputHash = some (lib.getDataHash (.inl raw)) ∧
      (∀ hash, loadingHash.get = some hash → row.loadingHash = some hash) ∧
      (∀ ft, structuralTmnt.get = some ft →
        ∃ st, row.structuralTmnt = some st ∧ SameFacilities st ft)
  load : ∀ l, row.lguLoad = some l → ∃ inp b, row.input = some inp ∧ loadingOf lib inp = .ok l ∧
    boundaryOf lib inp = .ok b ∧ row.lguBoundary = some b
  result : ∀ res, row.structuralTmntResult = some res → ∃ inp ft st, row.input = some inp ∧
    facilitiesOf lib inp = .ok ft ∧ SameFacilities st ft ∧ wqWith lib inp st = .ok res
  resultLoad : row.structuralTmntResult ≠ none → row.lguLoad ≠ none

/-- No cost-effectiveness fields have come into the results. -/
structure ScenarioRow.Fresh (lib : ScenarioLibrary J K Digest)
    (row : ScenarioRow J K Digest Time) : Prop where
  pending : row.structuralTmntResult = none → ∀ inp ft, row.input = some inp →
    facilitiesOf lib inp = .ok ft → row.structuralTmnt = some ft
  result : ∀ res, row.structuralTmntResult = some res → ∃ inp, row.input = some inp ∧
    wqOf lib inp = .ok res

theorem wqWith_eq_ok {lib : ScenarioLibrary J K Digest} {input : ScenarioInput J K}
    {facilities : List (Facility J K)} {b l edges : J} {res : List (ResultRow J K)}
    {fs : List (FacilityFeature J K)} (hb : boundaryOf lib input = .ok b)
    (hl : loadingOf lib input = .ok l) (hfs : input.tmntFacilityCollection.get = some fs)
    (he : lib.buildScenarioEdgeList (some b) fs = .ok edges)
    (hr : solveWqEpochs lib (some b) (some l) edges (some facilities) = .ok res) :
    wqWith lib input facilities = .ok res := by
  rw [wqWith, hb, ok_bind, hl, ok_bind, hfs, onCollection, he, ok_bind, hr]

theorem facilitiesOf_eq_ok {lib : ScenarioLibrary J K Digest} {raw stored : ScenarioInput J K}
    {loadingHash : ModelField Digest} {structuralTmnt : ModelField (List (Facility J K))}
    {fs : List (FacilityFeature J K)} (h : Validated lib raw stored loadingHash structuralTmnt)
    (hfs : stored.tmntFacilityCollection.get = some fs) :
    ∃ ft, facilitiesOf lib stored = .ok ft ∧ structuralTmnt = .val ft := by
  obtain ⟨ft, hft, hst⟩ := h.of_tmnt hfs
  exact ⟨ft, by rw [facilitiesOf, hfs, onCollection, hft], hst⟩

theorem of_facilitiesOf {lib : ScenarioLibrary J K Digest} {raw stored : ScenarioInput J K}
    {loadingHash : ModelField Digest} {structuralTmnt : ModelField (List (Facility J K))}
    {ft : List (Facility J K)} (h : Validated lib raw stored loadingHash structuralTmnt)
    (hft : facilitiesOf lib stored = .ok ft) : structuralTmnt = .val ft := by
  obtain ⟨fs, hfs, hft'⟩ := onCollection_eq_ok hft
  obtain ⟨ft', hft', hst⟩ := h.of_tmnt hfs
  rw [hst, ← Except.ok.inj (hft'.symm.trans ‹validateFacilities lib fs = .ok ft›)]

namespace ScenarioRow

variable {lib : ScenarioLibrary J K Digest} {row : ScenarioRow J K Digest Time}

/-- The input and the hashes of a row that has just been validated. -/
theorem consistent_input {raw stored : ScenarioInput J K} {loadingHash : ModelField Digest}
    {structuralTmnt : ModelField (List (Facility J K))}
    (hval : Validated lib raw stored loadingHash structuralTmnt) (oldHash : Option Digest)
    (oldTmnt : Option (List (Facility J K))) :
    ∃ raw' loadingHash' structuralTmnt', Validated lib raw' stored loadingHash' structuralTmnt' ∧
      some (lib.getDataHash (.inl raw)) = some (lib.getDataHash (.inl raw')) ∧
      (∀ hash, loadingHash'.get = some hash → loadingHash.apply oldHash = some hash) ∧
      (∀ ft, structuralTmnt'.get = some ft →
        ∃ st, structuralTmnt.apply oldTmnt = some st ∧ SameFacilities st ft) := by
  refine ⟨raw, loadingHash, structuralTmnt, hval, rfl, fun hash hh => ?_, fun ft hft => ?_⟩
  · rw [ModelField.get_eq_some.1 hh, ModelField.apply_val]
  · exact ⟨ft, by rw [ModelField.get_eq_some.1 hft, ModelField.apply_val], rfl⟩

/-- Stored loads have the hash of their delineation collection stored with them. -/
theorem Consistent.of_lguLoad (h : row.Consistent lib) {l : J} (hl : row.lguLoad = some l) :
    ∃ inp b v d, row.input = some inp ∧ row.lguBoundary = some b ∧
      inp.delineationCollection.get = some d ∧ lib.delineationCollectionUpdate v = .ok d ∧
      row.loadingHash = some (lib.getDataHash (.inr v)) ∧ lib.lguLoad d = .ok l ∧
      lib.lguBoundary d = .ok b := by
  obtain ⟨inp, b, hinp, hload, hbound, hb⟩ := h.load l hl
  obtain ⟨d, hd, hload⟩ := onCollection_eq_ok hload
  obtain ⟨d', hd', hbound⟩ := onCollection_eq_ok hbound
  obtain rfl : d' = d := Option.some.inj (hd'.symm.trans hd)
  obtain ⟨raw, lh, ft, hval, -, hhash, -⟩ := h.input inp hinp
  obtain ⟨v, hv, hlh⟩ := hval.of_delineation hd
  exact ⟨inp, b, v, d', hinp, hb, hd, hv, hhash _ (by rw [hlh, ModelField.get_val]), hload, hbound⟩

/-- Stored results have the hash of their input stored with them. -/
theorem Consistent.of_result (h : row.Consistent lib) {res : List (ResultRow J K)}
    (hr : row.structuralTmntResult = some res) :
    ∃ inp raw loadingHash structuralTmnt, row.input = some inp ∧
      Validated lib raw inp loadingHash structuralTmnt ∧
      row.inputHash = some (lib.getDataHash (.inl raw)) ∧
      (∀ hash, loadingHash.get = some hash → row.loadingHash = some hash) := by
  obtain ⟨inp, -, -, hinp, -⟩ := h.result res hr
  obtain ⟨raw, lh, ft, hval, hhash, hlh, -⟩ := h.input inp hinp
  exact ⟨inp, raw, lh, ft, hinp, hval, hhash, hlh⟩

/-- Where results are stored and the hash of a submitted input is the stored one, the input is the
stored one too, and so is the hash of its delineation collection. -/
theorem Consistent.same_input (hinj : Function.Injective lib.getDataHash) (h : row.Consistent lib)
    {input stored : ScenarioInput J K} {loadingHash : ModelField Digest}
    {structuralTmnt : ModelField (List (Facility J K))} {res : List (ResultRow J K)}
    (hval : Validated lib input stored loadingHash structuralTmnt)
    (hres : row.structuralTmntResult = some res)
    (hhash : row.inputHash = some (lib.getDataHash (.inl input))) :
    row.input = some stored ∧ row.loadingHash = loadingHash.get ∧ row.lguLoad ≠ none := by
  have hload : row.lguLoad ≠ none := h.resultLoad (by rw [hres]; exact Option.some_ne_none res)
  obtain ⟨inp, -, -, hinp, -⟩ := h.result res hres
  obtain ⟨raw, lh, ft, hval', hhash', hlh, -⟩ := h.input inp hinp
  obtain rfl : raw = input := Sum.inl.inj (hinj (Option.some.inj (hhash'.symm.trans hhash)))
  obtain ⟨rfl, rfl⟩ := hval.unique hval'
  obtain ⟨l, hl⟩ := Option.ne_none_iff_exists'.1 hload
  obtain ⟨inp', b, v, d, hinp', -, hd, -⟩ := h.of_lguLoad hl
  obtain rfl : inp' = inp := Option.some.inj (hinp'.symm.trans hinp)
  obtain ⟨v', -, rfl⟩ := hval.of_delineation hd
  exact ⟨hinp, hlh _ rfl, hload⟩

/-! ### Patches -/

section Patches

variable [DecidableEq Digest]

/-- A patch with a valid input over a consistent row. -/
theorem Consistent.patch (hinj : Function.Injective lib.getDataHash) (h : row.Consistent lib)
    {scenario : ScenarioPayload J K} {data : ScenarioData J K Digest Time}
    (hdata : scenarioValidator lib scenario = .ok data) (now : Time) :
    ((updateScenarioData row data now).apply row).Consistent lib := by
  rcases scenarioValidator_cases hdata with ⟨hnone, rfl⟩ |
    ⟨input, stored, loadingHash, structuralTmnt, -, hval, rfl⟩
  · cases hin : scenario.input with
    | unset =>
      rw [updateScenarioData_apply_unset]
      exact ⟨h.input, h.load, h.result, h.resultLoad⟩
    | null =>
      -- the stored hashes stay, but results that are stored have hashes, and those are compared
      -- with the missing ones of the patch
      rw [updateScenarioData_apply (h := rfl)]
      have hload : ∀ l, (if row.loadingHash = none then row.lguLoad else none) ≠ some l := by
        intro l hl
        obtain ⟨hh, hl⟩ := Option.ite_none_right_eq_some.1 hl
        obtain ⟨_, _, _, _, -, -, -, -, hhash, -⟩ := h.of_lguLoad hl
        cases hh.symm.trans hhash
      have hres : ∀ res, (if row.inputHash = none then row.structuralTmntResult else none) ≠
          some res := by
        intro res hr
        obtain ⟨hh, hr⟩ := Option.ite_none_right_eq_some.1 hr
        obtain ⟨_, _, _, _, -, -, hhash, -⟩ := h.of_result hr
        cases hh.symm.trans hhash
      exact
        { input := nofun
          load := fun l hl => absurd hl (hload l)
          result := fun res hr => absurd hr (hres res)
          resultLoad := fun hr => absurd (Option.eq_none_iff_forall_ne_some.2 hres) hr }
    | val input => rw [hin] at hnone; cases hnone
  · rw [updateScenarioData_apply (h := rfl)]
    refine
      { input := ?_
        load := ?_
        result := ?_
        resultLoad := ?_ }
    · rintro _ ⟨rfl⟩
      exact consistent_input hval _ _
    · intro l hl
      obtain ⟨hh, hl⟩ := Option.ite_none_right_eq_some.1 hl
      obtain ⟨inp, b, v, d, hinp, hb, hd, hv, hhash, hload, hbound⟩ := h.of_lguLoad hl
      obtain ⟨v', d', hv', hd', hsame⟩ := hval.of_loadingHash (hh.symm.trans hhash)
      obtain rfl : v = v' := Sum.inr.inj (hinj hsame)
      obtain rfl : d = d' := Except.ok.inj (hv.symm.trans hv')
      refine ⟨stored, b, rfl, ?_, ?_, ?_⟩
      · rw [loadingOf, hd', onCollection, hload]
      · rw [boundaryOf, hd', onCollection, hbound]
      · rw [if_pos hh, hb]
    · intro res hr
      obtain ⟨hh, hres⟩ := Option.ite_none_right_eq_some.1 hr
      obtain ⟨hinp, -⟩ := h.same_input hinj hval hres hh
      obtain ⟨inp, ft, st, hinp', hwq⟩ := h.result res hres
      obtain rfl : inp = stored := Option.some.inj (hinp'.symm.trans hinp)
      exact ⟨inp, ft, st, rfl, hwq⟩
    · intro hr
      obtain ⟨res, hr⟩ := Option.ne_none_iff_exists'.1 hr
      obtain ⟨hh, hres⟩ := Option.ite_none_right_eq_some.1 hr
      obtain ⟨-, hlh, hload⟩ := h.same_input hinj hval hres hh
      simpa only [if_pos hlh] using hload

/-- A patch of a fresh row. -/
theorem Fresh.patch (hinj : Function.Injective lib.getDataHash) (h : row.Consistent lib)
    (hf : row.Fresh lib) {scenario : ScenarioPayload J K} {data : ScenarioData J K Digest Time}
    (hdata : scenarioValidator lib scenario = .ok data) (now : Time) :
    ((updateScenarioData row data now).apply row).Fresh lib := by
  have hc := h.patch hinj hdata now
  rcases scenarioValidator_cases hdata with ⟨hnone, rfl⟩ |
    ⟨input, stored, loadingHash, structuralTmnt, -, hval, rfl⟩
  · cases hin : scenario.input with
    | unset =>
      rw [updateScenarioData_apply_unset]
      exact ⟨hf.pending, hf.result⟩
    | null =>
      rw [hin, updateScenarioData_apply (h := rfl)] at hc
      rw [updateScenarioData_apply (h := rfl)]
      refine ⟨fun _ => nofun, fun res hr => ?_⟩
      obtain ⟨inp, -, -, hinp, -⟩ := hc.result res hr
      cases hinp
    | val input => rw [hin] at hnone; cases hnone
  · rw [updateScenarioData_apply (h := rfl)]
    constructor
    · rintro - _ ft ⟨rfl⟩ hft
      show structuralTmnt.apply row.structuralTmnt = some ft
      rw [of_facilitiesOf hval hft, ModelField.apply_val]
    · intro res hr
      obtain ⟨hh, hres⟩ := Option.ite_none_right_eq_some.1 hr
      obtain ⟨hinp, -⟩ := h.same_input hinj hval hres hh
      obtain ⟨inp, hinp', hwq⟩ := hf.result res hres
      obtain rfl : inp = stored := Option.some.inj (hinp'.symm.trans hinp)
      exact ⟨inp, rfl, hwq⟩

end Patches

/-! ### Creation -/

/-- A new scenario is consistent and fresh. -/
theorem created {scenario : ScenarioPayload J K} {data : ScenarioData J K Digest Time}
    (hdata : scenarioValidator lib scenario = .ok data) :
    (data.apply .empty).Consistent lib ∧ (data.apply .empty).Fresh lib := by
  rcases scenarioValidator_cases hdata with ⟨hnone, rfl⟩ |
    ⟨input, stored, loadingHash, structuralTmnt, -, hval, rfl⟩
  · have hinput : (scenario.input.apply none : Option (ScenarioInput J K)) = none := by
      rw [ModelField.apply_none, hnone]
    refine ⟨⟨fun inp hinp => ?_, nofun, nofun, fun h => absurd rfl h⟩,
      ⟨fun _ inp _ hinp => ?_, nofun⟩⟩
    · cases hinput.symm.trans hinp
    · cases hinput.symm.trans hinp
  · refine ⟨⟨?_, nofun, nofun, fun h => absurd rfl h⟩, ⟨?_, nofun⟩⟩
    · rintro _ ⟨rfl⟩
      exact consistent_input hval _ _
    · rintro - _ ft ⟨rfl⟩ hft
      show structuralTmnt.apply none = some ft
      rw [of_facilitiesOf hval hft, ModelField.apply_val]

/-! ### Solves -/

/-- What a successful solve of a stored scenario leaves in its row. -/
structure SolvedRow (lib : ScenarioLibrary J K Digest) (force : Bool)
    (row row' : ScenarioRow J K Digest Time) :
    Prop where
  input : row'.input = row.input
  inputHash : row'.inputHash = row.inputHash
  loadingHash : row'.loadingHash = row.loadingHash
  /-- The loads are those of the input, or the stored ones. -/
  load :
    (∃ inp b l, row.input = some inp ∧ boundaryOf lib inp = .ok b ∧ loadingOf lib inp = .ok l ∧
      row'.lguBoundary = some b ∧ row'.lguLoad = some l) ∨
    (row'.lguBoundary = row.lguBoundary ∧ row'.lguLoad = row.lguLoad ∧
      (row.delineationCollection = none ∨ force = false ∧ row.lguLoad ≠ none))
  /-- The results are computed from the loads in the row, or the stored ones. -/
  wq :
    (∃ inp fs edges res, row.input = some inp ∧ inp.tmntFacilityCollection.get = some fs ∧
      row.delineationCollection ≠ none ∧
      lib.buildScenarioEdgeList row'.lguBoundary fs = .ok edges ∧
      solveWqEpochs lib row'.lguBoundary row'.lguLoad edges row.structuralTmnt = .ok res ∧
      row'.structuralTmntResult = some res ∧
      (force = false → row.structuralTmntResult = none ∨ row.lguLoad = none)) ∨
    row'.structuralTmntResult = row.structuralTmntResult
  facilities : row'.structuralTmnt.map (List.map Facility.stripCost) =
    row.structuralTmnt.map (List.map Facility.stripCost)
  noFacilities : row'.structuralTmntResult = none → row'.structuralTmnt = row.structuralTmnt

@[simp] theorem toData_lguLoad (row : ScenarioRow J K Digest Time) (id : String) :
    (row.toData id).lguLoad = .ofOption row.lguLoad := rfl

@[simp] theorem toData_structuralTmnt (row : ScenarioRow J K Digest Time) (id : String) :
    (row.toData id).structuralTmnt = .ofOption row.structuralTmnt := rfl

@[simp] theorem toData_structuralTmntResult (row : ScenarioRow J K Digest Time) (id : String) :
    (row.toData id).structuralTmntResult = .ofOption row.structuralTmntResult := rfl

@[simp] theorem toData_delineationCollection (row : ScenarioRow J K Digest Time) (id : String) :
    (row.toData id).delineationCollection = row.delineationCollection := by
  simp only [ScenarioData.delineationCollection, toData, ModelField.get_ofOption,
    delineationCollection]

@[simp] theorem toData_tmntFacilityCollection (row : ScenarioRow J K Digest Time) (id : String) :
    (row.toData id).tmntFacilityCollection = row.tmntFacilityCollection := by
  simp only [ScenarioData.tmntFacilityCollection, toData, ModelField.get_ofOption,
    tmntFacilityCollection]

/-- The solve of a snapshot, written back over the row it was taken of. -/
theorem solvedRow {lib : ScenarioLibrary J K Digest} {force : Bool}
    {row : ScenarioRow J K Digest Time} {id : String} {data' : ScenarioData J K Digest Time}
    (h : Solved lib force (row.toData id) data') :
    SolvedRow lib force row (data'.apply row) := by
  obtain ⟨-, -, -, hinput, -, hloadingHash, hinputHash⟩ :
      _ ∧ _ ∧ _ ∧ data'.input = .ofOption row.input ∧ _ ∧
        data'.loadingHash = .ofOption row.loadingHash ∧
        data'.inputHash = .ofOption row.inputHash := by
    have hsub := h.submitted
    simp only [ScenarioData.submitted, toData, Prod.mk.injEq] at hsub
    exact hsub
  -- the fields of a snapshot are set, so that what is written is what the dictionary has
  obtain ⟨b, l, hb, hl, hload⟩ : ∃ b l, data'.lguBoundary = .ofOption b ∧
      data'.lguLoad = .ofOption l ∧
      ((∃ inp b' l', row.input = some inp ∧ boundaryOf lib inp = .ok b' ∧
        loadingOf lib inp = .ok l' ∧ b = some b' ∧ l = some l') ∨
      (b = row.lguBoundary ∧ l = row.lguLoad ∧
        (row.delineationCollection = none ∨ force = false ∧ row.lguLoad ≠ none))) := by
    cases hrl : recalculateLoading (row.toData id) force with
    | true =>
      obtain ⟨d, b, l, hd, hb, hl, hb', hl'⟩ := h.loading hrl
      rw [toData_delineationCollection] at hd
      obtain ⟨inp, hinp, hd⟩ := Option.bind_eq_some_iff.1 hd
      refine ⟨some b, some l, hb', hl', .inl ⟨inp, b, l, hinp, ?_, ?_, rfl, rfl⟩⟩
      · rw [boundaryOf, hd, onCollection, hb]
      · rw [loadingOf, hd, onCollection, hl]
    | false =>
      obtain ⟨hb, hl⟩ := h.noLoading hrl
      refine ⟨_, _, hb, hl, .inr ⟨rfl, rfl, ?_⟩⟩
      simp only [recalculateLoading, toData_delineationCollection, toData_lguLoad,
        ModelField.get_ofOption, Bool.and_eq_false_iff, Bool.or_eq_false_iff] at hrl
      rcases hrl with hd | ⟨hforce, hl⟩
      · exact .inl (by simpa using hd)
      · exact .inr ⟨hforce, fun hnone => by simp [hnone] at hl⟩
  refine
    { input := ?_
      inputHash := ?_
      loadingHash := ?_
      load := ?_
      wq := ?_
      facilities := ?_
      noFacilities := ?_ }
  · show data'.input.apply row.input = row.input
    rw [hinput, ModelField.apply_ofOption]
  · show data'.inputHash.apply row.inputHash = row.inputHash
    rw [hinputHash, ModelField.apply_ofOption]
  · show data'.loadingHash.apply row.loadingHash = row.loadingHash
    rw [hloadingHash, ModelField.apply_ofOption]
  · simpa only [ScenarioData.apply, hb, hl, ModelField.apply_ofOption] using hload
  · cases hwq : recalculateWq (row.toData id) force with
    | true =>
      obtain ⟨fs, edges, res, hfs, hedges, hres, hres'⟩ := h.wq hwq
      rw [toData_tmntFacilityCollection] at hfs
      obtain ⟨inp, hinp, hfs⟩ := Option.bind_eq_some_iff.1 hfs
      simp only [recalculateWq, recalculateLoading, toData_delineationCollection, toData_lguLoad,
        toData_structuralTmntResult, ModelField.get_ofOption, Bool.and_eq_true,
        Bool.or_eq_true] at hwq
      simp only [hb, hl, toData_structuralTmnt, ModelField.get_ofOption] at hedges hres
      refine .inl ⟨inp, fs, edges, res, hinp, hfs, ?_, ?_, ?_, ?_, fun hforce => ?_⟩
      · exact Option.isSome_iff_ne_none.1 hwq.1.1
      · simpa only [ScenarioData.apply, hb, ModelField.apply_ofOption] using hedges
      · simpa only [ScenarioData.apply, hb, hl, ModelField.apply_ofOption] using hres
      · simp only [ScenarioData.apply, hres', ModelField.apply_val]
      · rcases hwq.2 with (hf | ⟨-, hf | hl⟩) | hr
        · cases hforce.symm.trans hf
        · cases hforce.symm.trans hf
        · exact .inr (by simpa using hl)
        · exact .inl (by simpa using hr)
    | false =>
      right
      show data'.structuralTmntResult.apply row.structuralTmntResult = _
      rw [h.noWq hwq]
      exact ModelField.apply_ofOption _ _
  · have hst := h.facilities
    rw [toData_structuralTmnt, ModelField.get_ofOption] at hst
    show (data'.structuralTmnt.apply row.structuralTmnt).map _ = _
    cases hst' : data'.structuralTmnt with
    | unset => rfl
    | null => rw [hst'] at hst; exact hst
    | val st => rw [hst'] at hst; exact hst
  · intro hnone
    have hres : data'.structuralTmntResult.get = none := by
      cases hr : data'.structuralTmntResult with
      | unset => rfl
      | null => rfl
      | val res => simp only [ScenarioData.apply, hr, ModelField.apply_val] at hnone; cases hnone
    show data'.structuralTmnt.apply row.structuralTmnt = row.structuralTmnt
    rw [h.noFacilities hres, toData_structuralTmnt, ModelField.apply_ofOption]

/-- Where the results are computed, the row has the boundaries and loads of its input. -/
theorem Consistent.load_of_solved {force : Bool} {row' : ScenarioRow J K Digest Time}
    (h : row.Consistent lib) (hs : SolvedRow lib force row row') {inp : ScenarioInput J K}
    (hinp : row.input = some inp) (hd : row.delineationCollection ≠ none) :
    ∃ b l, boundaryOf lib inp = .ok b ∧ loadingOf lib inp = .ok l ∧
      row'.lguBoundary = some b ∧ row'.lguLoad = some l := by
  rcases hs.load with ⟨inp', b, l, hinp', hb, hl, hb', hl'⟩ | ⟨hb', hl', hnone | ⟨-, hload⟩⟩
  · obtain rfl : inp' = inp := Option.some.inj (hinp'.symm.trans hinp)
    exact ⟨b, l, hb, hl, hb', hl'⟩
  · exact absurd hnone hd
  · obtain ⟨l, hl⟩ := Option.ne_none_iff_exists'.1 hload
    obtain ⟨inp', b, hinp', hl₀, hb₀, hb⟩ := h.load l hl
    obtain rfl : inp' = inp := Option.some.inj (hinp'.symm.trans hinp)
    exact ⟨b, l, hb₀, hl₀, hb'.trans hb, hl'.trans hl⟩

/-- A stored facility collection has its properties listed. -/
theorem Consistent.structuralTmnt (h : row.Consistent lib) {inp : ScenarioInput J K}
    (hinp : row.input = some inp) {fs : List (FacilityFeature J K)}
    (hfs : inp.tmntFacilityCollection.get = some fs) :
    ∃ ft st, facilitiesOf lib inp = .ok ft ∧ row.structuralTmnt = some st ∧
      SameFacilities st ft := by
  obtain ⟨raw, lh, st, hval, -, -, hst⟩ := h.input inp hinp
  obtain ⟨ft, hft, rfl⟩ := facilitiesOf_eq_ok hval hfs
  obtain ⟨st, hst, hsame⟩ := hst ft rfl
  exact ⟨ft, st, hft, hst, hsame⟩

theorem Consistent.solve {force : Bool} {row' : ScenarioRow J K Digest Time}
    (h : row.Consistent lib)
    (hs : SolvedRow lib force row row') : row'.Consistent lib where
  input := by
    intro inp hinp
    obtain ⟨raw, lh, ft, hval, hhash, hlh, hft⟩ := h.input inp (hs.input.symm.trans hinp)
    refine ⟨raw, lh, ft, hval, hs.inputHash.trans hhash,
      fun hash hh => hs.loadingHash.trans (hlh hash hh), fun ft' hft' => ?_⟩
    obtain ⟨st, hst, hsame⟩ := hft ft' hft'
    have hfac := hs.facilities
    rw [hst, Option.map_some] at hfac
    obtain ⟨st', hst', hstrip⟩ := Option.map_eq_some_iff.1 hfac
    exact ⟨st', hst', hstrip.trans hsame⟩
  load := by
    intro l hl
    rcases hs.load with ⟨inp, b, l', hinp, hb, hl₀, hb', hl'⟩ | ⟨hb', hl', -⟩
    · obtain rfl : l' = l := Option.some.inj (hl'.symm.trans hl)
      exact ⟨inp, b, hs.input.trans hinp, hl₀, hb, hb'⟩
    · obtain ⟨inp, b, hinp, hl₀, hb, hb₀⟩ := h.load l (hl'.symm.trans hl)
      exact ⟨inp, b, hs.input.trans hinp, hl₀, hb, hb'.trans hb₀⟩
  result := by
    intro res hr
    rcases hs.wq with ⟨inp, fs, edges, res', hinp, hfs, hd, hedges, hres, hr', -⟩ | hr'
    · obtain rfl : res' = res := Option.some.inj (hr'.symm.trans hr)
      obtain ⟨b, l, hb, hl, hb', hl'⟩ := h.load_of_solved hs hinp hd
      obtain ⟨ft, st, hft, hst, hsame⟩ := h.structuralTmnt hinp hfs
      rw [hb'] at hedges hres
      rw [hl', hst] at hres
      exact ⟨inp, ft, st, hs.input.trans hinp, hft, hsame, wqWith_eq_ok hb hl hfs hedges hres⟩
    · obtain ⟨inp, ft, st, hinp, hwq⟩ := h.result res (hr'.symm.trans hr)
      exact ⟨inp, ft, st, hs.input.trans hinp, hwq⟩
  resultLoad := by
    intro hr
    rcases hs.wq with ⟨inp, fs, edges, res', hinp, hfs, hd, -⟩ | hr'
    · obtain ⟨b, l, -, -, -, hl'⟩ := h.load_of_solved hs hinp hd
      rw [hl']
      exact Option.some_ne_none l
    · rw [hr'] at hr
      rcases hs.load with ⟨inp, b, l, -, -, -, -, hl'⟩ | ⟨-, hl', -⟩
      · rw [hl']
        exact Option.some_ne_none l
      · rw [hl']
        exact h.resultLoad hr

/-- A solve that is not forced computes results only where none are stored, and there the
facilities have no cost-effectiveness fields from an earlier solve. -/
theorem Fresh.solve {row' : ScenarioRow J K Digest Time} (h : row.Consistent lib)
    (hf : row.Fresh lib)
    (hs : SolvedRow lib false row row') : row'.Fresh lib where
  pending := by
    intro hnone inp ft hinp hft
    rcases hs.wq with ⟨_, _, _, res, -, -, -, -, -, hr, -⟩ | hr
    · cases hr.symm.trans hnone
    · rw [hs.noFacilities hnone]
      exact hf.pending (hr.symm.trans hnone) inp ft (hs.input.symm.trans hinp) hft
  result := by
    intro res hr
    rcases hs.wq with ⟨inp, fs, edges, res', hinp, hfs, hd, hedges, hres, hr', hnew⟩ | hr'
    · obtain rfl : res' = res := Option.some.inj (hr'.symm.trans hr)
      have hnone : row.structuralTmntResult = none := by
        by_contra hsome
        exact (hnew rfl).elim hsome (h.resultLoad hsome)
      obtain ⟨b, l, hb, hl, hb', hl'⟩ := h.load_of_solved hs hinp hd
      obtain ⟨ft, -, hft, -⟩ := h.structuralTmnt hinp hfs
      rw [hb'] at hedges hres
      rw [hl', hf.pending hnone inp ft hinp hft] at hres
      refine ⟨inp, hs.input.trans hinp, ?_⟩
      rw [wqOf, hft, ok_bind]
      exact wqWith_eq_ok hb hl hfs hedges hres
    · obtain ⟨inp, hinp, hwq⟩ := hf.result res (hr'.symm.trans hr)
      exact ⟨inp, hs.input.trans hinp, hwq⟩

end ScenarioRow

/-! ### The machine -/

/-- An operation on the scenarios. -/
inductive ScenarioAction (J K Time : Type) where
  | create (id : String) (scenario : ScenarioPayload J K)
  | patch (id : String) (scenario : ScenarioPayload J K) (now : Time)
  | delete (id : String)
  | solve (id : String) (force : Bool) (now : Time)

/-- The operation is not a forced solve. -/
def ScenarioAction.unforced : ScenarioAction J K Time → Bool
  | .solve _ force _ => !force
  | _ => true

variable [Field K] [LinearOrder K] [DecidableEq Digest] (lib : ScenarioLibrary J K Digest)

/-- `POST /solve_scenario/{id}` and its task: the snapshot of a scenario is solved and written back.
A solve that raises writes nothing back. -/
def solveSingleScenario (db : ScenarioDb J K Digest Time) (id : String) (force : Bool)
    (now : Time) :
    Except PyError (ScenarioDb J K Digest Time) :=
  match db.lookup id with
  | none => .error (.httpException 404)
  | some row =>
    match solveScenarioData lib force now (row.toData id) with
    | (_, .error e) => .error e
    | (data, .ok ()) => solveScenarioDb db data

/-- The operations one at a time; an operation that fails changes nothing. -/
def scenarioMachine : Machine (ScenarioDb J K Digest Time) (ScenarioAction J K Time) where
  step db
    | .create id scenario => some ((createScenario lib db id scenario).toOption.getD db)
    | .patch id scenario now => some ((updateScenario lib db id scenario now).toOption.getD db)
    | .delete id => some (deleteScenario db id)
    | .solve id force now => some ((solveSingleScenario lib db id force now).toOption.getD db)

omit [Field K] [LinearOrder K] [DecidableEq Digest] in
theorem lookup_insert_cases {db : ScenarioDb J K Digest Time} {id id' : String}
    {row row' : ScenarioRow J K Digest Time} (h : (db.insert id' row).lookup id = some row') :
    (id = id' ∧ row' = row) ∨ db.lookup id = some row' := by
  by_cases hid : id = id'
  · subst hid
    rw [AList.lookup_insert] at h
    exact .inl ⟨rfl, (Option.some.inj h).symm⟩
  · rw [AList.lookup_insert_ne hid] at h
    exact .inr h

omit [DecidableEq Digest] in
/-- A solve that succeeds writes the solved snapshot over the row that it was taken of. -/
theorem solveSingleScenario_ok {db db' : ScenarioDb J K Digest Time} {id : String} {force : Bool}
    {now : Time} (h : solveSingleScenario lib db id force now = .ok db') :
    ∃ row row', db.lookup id = some row ∧ row.SolvedRow lib force row' ∧
      db' = db.insert id row' := by
  unfold solveSingleScenario at h
  split at h
  · cases h
  · rename_i row hrow
    split at h
    · cases h
    · rename_i data hsolve
      have hsolved := solveScenarioData_ok hsolve
      have hid : data.id = .val id := congrArg Prod.fst hsolved.submitted
      simp only [solveScenarioDb, hid, hrow] at h
      exact ⟨row, _, hrow, ScenarioRow.solvedRow hsolved, (Except.ok.inj h).symm⟩

/-- What an operation leaves in a row: the row it was, a created one, a patched one or a solved
one. -/
theorem scenarioMachine_cases {db db' : ScenarioDb J K Digest Time} {a : ScenarioAction J K Time}
    (h : (scenarioMachine lib).step db a = some db') {id : String}
    {row' : ScenarioRow J K Digest Time} (hrow : db'.lookup id = some row') :
    db.lookup id = some row' ∨
    (∃ (scenario : _) (data : ScenarioData J K Digest Time),
      scenarioValidator lib scenario = .ok data ∧ row' = data.apply .empty) ∨
    (∃ row scenario data now, db.lookup id = some row ∧
      scenarioValidator lib scenario = .ok data ∧
      row' = (updateScenarioData row data now).apply row) ∨
    (∃ row force, db.lookup id = some row ∧ row.SolvedRow lib force row' ∧
      (a.unforced = true → force = false)) := by
  cases a with
  | create id' scenario =>
    rcases toOption_getD_cases (Option.some.inj h) with ⟨-, rfl⟩ | hc
    · exact .inl hrow
    · obtain ⟨data, hdata, rfl⟩ := createScenario_ok hc
      rcases lookup_insert_cases hrow with ⟨-, rfl⟩ | hrow
      · exact .inr (.inl ⟨scenario, data, hdata, rfl⟩)
      · exact .inl hrow
  | patch id' scenario now =>
    rcases toOption_getD_cases (Option.some.inj h) with ⟨-, rfl⟩ | hu
    · exact .inl hrow
    · obtain ⟨data, row, hdata, hold, rfl⟩ := updateScenario_eq_ok.1 hu
      rcases lookup_insert_cases hrow with ⟨rfl, rfl⟩ | hrow
      · exact .inr (.inr (.inl ⟨row, scenario, data, now, hold, hdata, rfl⟩))
      · exact .inl hrow
  | delete id' =>
    cases h
    exact .inl (lookup_of_lookup_deleteScenario hrow)
  | solve id' force now =>
    rcases toOption_getD_cases (Option.some.inj h) with ⟨-, rfl⟩ | hs
    · exact .inl hrow
    · obtain ⟨row, row₁, hold, hsolved, rfl⟩ := solveSingleScenario_ok lib hs
      rcases lookup_insert_cases hrow with ⟨rfl, rfl⟩ | hrow
      · refine .inr (.inr (.inr ⟨row, force, hold, hsolved, fun hf => ?_⟩))
        simpa [ScenarioAction.unforced] using hf
      · exact .inl hrow

/-- Every stored scenario is consistent. -/
def ScenarioDb.Consistent (db : ScenarioDb J K Digest Time) : Prop :=
  ∀ id row, db.lookup id = some row → row.Consistent lib

/-- Every stored scenario is fresh. -/
def ScenarioDb.Fresh (db : ScenarioDb J K Digest Time) : Prop :=
  ∀ id row, db.lookup id = some row → row.Fresh lib

variable {lib}

/-- Every operation keeps the scenarios consistent. -/
theorem ScenarioDb.Consistent.step (hinj : Function.Injective lib.getDataHash)
    {db db' : ScenarioDb J K Digest Time} {a : ScenarioAction J K Time}
    (hc : ScenarioDb.Consistent lib db) (h : (scenarioMachine lib).step db a = some db') :
    ScenarioDb.Consistent lib db' := by
  intro id row' hrow
  rcases scenarioMachine_cases lib h hrow with hold | ⟨scenario, data, hdata, rfl⟩ |
    ⟨row, scenario, data, now, hold, hdata, rfl⟩ | ⟨row, force, hold, hsolved, -⟩
  · exact hc id row' hold
  · exact (ScenarioRow.created hdata).1
  · exact (hc id row hold).patch hinj hdata now
  · exact (hc id row hold).solve hsolved

/-- An operation that is not a forced solve keeps the scenarios fresh. -/
theorem ScenarioDb.Fresh.step (hinj : Function.Injective lib.getDataHash)
    {db db' : ScenarioDb J K Digest Time} {a : ScenarioAction J K Time}
    (hc : ScenarioDb.Consistent lib db) (hf : ScenarioDb.Fresh lib db) (ha : a.unforced = true)
    (h : (scenarioMachine lib).step db a = some db') : ScenarioDb.Fresh lib db' := by
  intro id row' hrow
  rcases scenarioMachine_cases lib h hrow with hold | ⟨scenario, data, hdata, rfl⟩ |
    ⟨row, scenario, data, now, hold, hdata, rfl⟩ | ⟨row, force, hold, hsolved, hforce⟩
  · exact hf id row' hold
  · exact (ScenarioRow.created hdata).2
  · exact ScenarioRow.Fresh.patch hinj (hc id row hold) (hf id row hold) hdata now
  · obtain rfl := hforce ha
    exact ScenarioRow.Fresh.solve (hc id row hold) (hf id row hold) hsolved

/-- **Scenario results belong to the stored input.**  The loads are those of the stored
delineation collection.  The water quality results are those of the stored input, with facilities
that differ from its validated ones in cost-effectiveness fields only, and in a run without a
forced solve not even in these. -/
theorem results_belong_to_input (hinj : Function.Injective lib.getDataHash)
    {db : ScenarioDb J K Digest Time} {as : List (ScenarioAction J K Time)}
    (hrun : (scenarioMachine lib).run ∅ as = some db) {id : String}
    {row : ScenarioRow J K Digest Time} (hrow : db.lookup id = some row) :
    (∀ l, row.lguLoad = some l → ∃ inp, row.input = some inp ∧ loadingOf lib inp = .ok l) ∧
    (∀ res, row.structuralTmntResult = some res → ∃ inp ft st, row.input = some inp ∧
      facilitiesOf lib inp = .ok ft ∧ SameFacilities st ft ∧ wqWith lib inp st = .ok res) ∧
    ((∀ a ∈ as, a.unforced = true) → ∀ res, row.structuralTmntResult = some res →
      ∃ inp, row.input = some inp ∧ wqOf lib inp = .ok res) := by
  have hempty : ∀ P : ScenarioRow J K Digest Time → Prop, ∀ id row,
      (∅ : ScenarioDb J K Digest Time).lookup id = some row → P row := by
    intro P id row h
    rw [AList.lookup_empty] at h
    cases h
  have hc : ScenarioDb.Consistent lib db :=
    (scenarioMachine lib).invariant (hempty _) (fun _ _ _ hc h => hc.step hinj h) hrun
  refine ⟨fun l hl => ?_, fun res hr => (hc id row hrow).result res hr, fun hunforced res hr => ?_⟩
  · obtain ⟨inp, -, hinp, hload, -⟩ := (hc id row hrow).load l hl
    exact ⟨inp, hinp, hload⟩
  · have hguard : (scenarioMachine lib).Guarded (fun _ a => a.unforced = true) ∅ as :=
      Machine.guarded_of_forall fun a ha _ => hunforced a ha
    have hf : ScenarioDb.Consistent lib db ∧ ScenarioDb.Fresh lib db := by
      refine (scenarioMachine lib).guarded_invariant
        (I := fun db => ScenarioDb.Consistent lib db ∧ ScenarioDb.Fresh lib db)
        ⟨hempty _, hempty _⟩ ?_ hguard hrun
      rintro _ a _ ⟨hc, hf⟩ ha h
      exact ⟨hc.step hinj h, hf.step hinj hc ha h⟩
    exact (hf.2 id row hrow).result res hr

/-! ### Examples -/

/-- A solver that removes two pounds of everything at every facility.  Documents are numbers, and
the hash of a document is the document. -/
def exampleLibrary : ScenarioLibrary ℕ ℚ (ScenarioInput ℕ ℚ ⊕ ℕ) where
  validateDelineationCollection := .ok
  delineationCollectionUpdate := .ok
  tmntAttrValidator := .ok
  getDataHash := id
  computeScenarioLoadingDf d := .ok (d, d)
  delinLoad := .ok
  buildScenarioEdgeList _ _ := .ok 0
  solveWatershed _ _ _ facilities :=
    .ok <| facilities.map fun fac =>
      { nodeId := fac.nodeId.get
        ntype := some "tmnt_facility"
        epoch := some "1980s"
        loadLbsRemoved := fun _ => .val 2
        treatmentFacilities := []
        blob := 0 }
  watershedProps _ props := props

/-- A scenario with a delineation and a facility of a present value of 100 dollars. -/
def exampleScenario : ScenarioPayload ℕ ℚ where
  name := .val "tmnt scenario"
  info := .unset
  input := .val
    { delineationCollection := .val 1
      tmntFacilityCollection := .val
        [{ properties := some
            { nodeId := .val "bmp-01"
              presentValueTotalCost := .val 100
              costEffectiveness := fun _ => .unset
              props := 0 }
           geometry := 0 }] }

theorem exampleLibrary_injective : Function.Injective exampleLibrary.getDataHash :=
  Function.injective_id

/-- The scenario is created and solved. -/
def exampleActions : List (ScenarioAction ℕ ℚ ℕ) :=
  [.create "scenario-1" exampleScenario, .solve "scenario-1" false 1]

theorem results_belong_to_input_solved :
    ∃ db row, (scenarioMachine exampleLibrary).run ∅ exampleActions = some db ∧
      db.lookup "scenario-1" = some row ∧ row.lguLoad = some 1 ∧
      ∃ inp res, row.input = some inp ∧ row.structuralTmntResult = some res ∧
        wqOf exampleLibrary inp = .ok res := by
  obtain ⟨db, hdb, row, hrow, hload, hres⟩ :
      ∃ db ∈ (scenarioMachine exampleLibrary).run ∅ exampleActions,
        ∃ row ∈ db.lookup "scenario-1", row.lguLoad = some 1 ∧
          row.structuralTmntResult.isSome = true := by
    decide +kernel
  obtain ⟨res, hres⟩ := Option.isSome_iff_exists.1 hres
  obtain ⟨-, -, hunforced⟩ := results_belong_to_input exampleLibrary_injective hdb hrow
  obtain ⟨inp, hinp, hwq⟩ := hunforced (by decide) res hres
  exact ⟨db, row, hdb, hrow, hload, inp, res, hinp, hres, hwq⟩

/-- **A forced solve after a solve.**  The stored results embed the cost-effectiveness fields that
the first solve has added to the facility, which the results of the stored input do not have. -/
theorem forced_solve_embeds_cost :
    Function.Injective exampleLibrary.getDataHash ∧
      ∃ db ∈ (scenarioMachine exampleLibrary).run ∅
          (exampleActions ++ [.solve "scenario-1" true 2]),
        ∃ row ∈ db.lookup "scenario-1", ∃ inp ∈ row.input,
          row.structuralTmntResult ≠ none ∧
            row.structuralTmntResult ≠ (wqOf exampleLibrary inp).toOption :=
  ⟨exampleLibrary_injective, by decide +kernel⟩

end StormPiper
