import StormPiper.Scenario.History

/-!
# The listed facilities of a scenario

The column `structural_tmnt` is derived from the facility collection of the stored input.  It is
written where a submitted input has a collection.  A patch replaces the stored input as a whole, so
that a patch without a collection drops the stored one, and the list of its facilities stays.

## Main definitions

* `ScenarioRow.TmntMatches` : the list is that of the stored collection.
* `ScenarioPayload.DropsFacilities` : an accepted payload stores an input without a collection.
* `tmntMatches_iff` : the list is right all along a run exactly if no patch drops a collection.
-/

namespace StormPiper

variable {J K Digest Time : Type}

/-- The list holds the validated properties of the stored collection, in their order and up to the
cost-effectiveness fields.  Without a collection there is no list. -/
def ScenarioRow.TmntMatches (lib : ScenarioLibrary J K Digest)
    (row : ScenarioRow J K Digest Time) : Prop :=
  match row.tmntFacilityCollection with
  | none => row.structuralTmnt = none
  | some features => ∃ st ft, row.structuralTmnt = some st ∧
      validateFacilities lib features = .ok ft ∧ SameFacilities st ft

/-- Every stored scenario has the facilities of its collection listed. -/
def ScenarioDb.TmntMatches (lib : ScenarioLibrary J K Digest)
    (db : ScenarioDb J K Digest Time) : Prop :=
  ∀ id row, db.lookup id = some row → row.TmntMatches lib

/-- The delineation collection of an input, if there is one, is valid. -/
def ScenarioInput.DelineationValid (lib : ScenarioLibrary J K Digest)
    (input : ScenarioInput J K) : Prop :=
  ∀ d, input.delineationCollection = .val d → ∃ v stored,
    lib.validateDelineationCollection d = .ok v ∧ lib.delineationCollectionUpdate v = .ok stored

/-- The payload sets the input, and what it sets has no facility collection. -/
def ScenarioPayload.DropsFacilities (lib : ScenarioLibrary J K Digest)
    (scenario : ScenarioPayload J K) : Prop :=
  scenario.input = .null ∨ ∃ input, scenario.input = .val input ∧
    input.tmntFacilityCollection.get = none ∧ input.DelineationValid lib

/-- The operation drops no facility collection that is stored. -/
def ScenarioDb.KeepsFacilities (lib : ScenarioLibrary J K Digest)
    (db : ScenarioDb J K Digest Time) : ScenarioAction J K Time → Prop
  | .patch id scenario _ => scenario.DropsFacilities lib →
      ∀ row, db.lookup id = some row → row.tmntFacilityCollection = none
  | _ => True

section Rows

variable {lib : ScenarioLibrary J K Digest} {row : ScenarioRow J K Digest Time}

theorem ScenarioRow.TmntMatches.of_some {features : List (FacilityFeature J K)}
    {st ft : List (Facility J K)} (hrow : row.tmntFacilityCollection = some features)
    (hst : row.structuralTmnt = some st) (hft : validateFacilities lib features = .ok ft)
    (hsame : SameFacilities st ft) : row.TmntMatches lib := by
  rw [TmntMatches, hrow]
  exact ⟨st, ft, hst, hft, hsame⟩

theorem ScenarioRow.tmntMatches_of_none (hrow : row.tmntFacilityCollection = none) :
    row.TmntMatches lib ↔ row.structuralTmnt = none := by
  rw [TmntMatches, hrow]

/-- A list that is right is missing exactly if the collection is. -/
theorem ScenarioRow.TmntMatches.structuralTmnt_eq_none (h : row.TmntMatches lib) :
    row.structuralTmnt = none ↔ row.tmntFacilityCollection = none := by
  cases hrow : row.tmntFacilityCollection with
  | none => exact iff_of_true ((tmntMatches_of_none hrow).1 h) rfl
  | some features =>
    rw [TmntMatches, hrow] at h
    obtain ⟨st, -, hst, -⟩ := h
    rw [hst]
    exact iff_of_false nofun nofun

/-! ### Payloads -/

/-- Validation of an input without a facility collection writes no list. -/
theorem Validated.structuralTmnt_eq_unset {input stored : ScenarioInput J K}
    {loadingHash : ModelField Digest} {structuralTmnt : ModelField (List (Facility J K))}
    (h : Validated lib input stored loadingHash structuralTmnt)
    (hnone : input.tmntFacilityCollection.get = none) : structuralTmnt = .unset := by
  have hval := h.facilities
  unfold validateTmnt at hval
  split at hval
  · rename_i features hsome
    rw [hsome] at hnone
    cases hnone
  · exact (Except.ok.inj hval).symm

/-- The delineations of an input that was validated are valid. -/
theorem Validated.delineationValid {input stored : ScenarioInput J K}
    {loadingHash : ModelField Digest} {structuralTmnt : ModelField (List (Facility J K))}
    (h : Validated lib input stored loadingHash structuralTmnt) : input.DelineationValid lib := by
  intro d hd
  have hval := h.delineation
  rw [validateDelineation, hd] at hval
  obtain ⟨v, hv, hval⟩ := bind_eq_ok hval
  obtain ⟨d', hd', -⟩ := bind_eq_ok hval
  exact ⟨v, d', hv, hd'⟩

/-- A payload that drops the facilities is accepted. -/
theorem ScenarioPayload.DropsFacilities.accepted {scenario : ScenarioPayload J K}
    (h : scenario.DropsFacilities lib) :
    ∃ data : ScenarioData J K Digest Time, scenarioValidator lib scenario = .ok data := by
  rcases h with hnull | ⟨input, hinput, htmnt, hvalid⟩
  · exact ⟨_, by rw [scenarioValidator, hnull]⟩
  · have htmnt : validateTmnt lib input = .ok .unset := by
      unfold validateTmnt
      split
      · rename_i features hsome
        rw [hsome] at htmnt
        cases htmnt
      · rfl
    obtain ⟨x, hx⟩ : ∃ x, validateDelineation lib input = .ok x := by
      unfold validateDelineation
      split
      · rename_i d hd
        obtain ⟨v, stored, hv, hstored⟩ := hvalid d hd
        exact ⟨_, by rw [hv, ok_bind, hstored, ok_bind]⟩
      · exact ⟨_, rfl⟩
    simp only [scenarioValidator, hinput, hx, htmnt, ok_bind, Except.ok.injEq, exists_eq']

/-- A created scenario has the facilities of its collection listed. -/
theorem ScenarioRow.tmntMatches_created {scenario : ScenarioPayload J K}
    {data : ScenarioData J K Digest Time} (hdata : scenarioValidator lib scenario = .ok data) :
    (data.apply .empty).TmntMatches lib := by
  rcases scenarioValidator_cases hdata with ⟨hnone, rfl⟩ |
    ⟨input, stored, loadingHash, structuralTmnt, -, hval, rfl⟩
  · refine (tmntMatches_of_none ?_).2 rfl
    have hinput : (scenario.input.apply none : Option (ScenarioInput J K)) = none := by
      rw [ModelField.apply_none, hnone]
    exact congrArg (fun x => x.bind fun inp => inp.tmntFacilityCollection.get) hinput
  · cases hfs : stored.tmntFacilityCollection.get with
    | none =>
      rw [hval.structuralTmnt_eq_unset (hval.tmnt_eq ▸ hfs)]
      refine (tmntMatches_of_none ?_).2 rfl
      exact hfs
    | some features =>
      obtain ⟨ft, hft, rfl⟩ := hval.of_tmnt hfs
      exact .of_some hfs rfl hft rfl

/-- **A patch keeps the list right exactly if it drops no collection.** -/
theorem ScenarioRow.TmntMatches.patch_iff [DecidableEq Digest] (h : row.TmntMatches lib)
    {scenario : ScenarioPayload J K} {data : ScenarioData J K Digest Time}
    (hdata : scenarioValidator lib scenario = .ok data) (now : Time) :
    ((updateScenarioData row data now).apply row).TmntMatches lib ↔
      (scenario.DropsFacilities lib → row.tmntFacilityCollection = none) := by
  rcases scenarioValidator_cases hdata with ⟨hnone, rfl⟩ |
    ⟨input, stored, loadingHash, structuralTmnt, hinput, hval, rfl⟩
  · -- an unset input leaves the stored one with its list, a null input drops it and not the list
    cases hin : scenario.input with
    | unset =>
      rw [updateScenarioData_apply_unset]
      refine iff_of_true h fun hdrops => ?_
      rcases hdrops with hnull | ⟨input, hval, -⟩
      · cases hin.symm.trans hnull
      · cases hin.symm.trans hval
    | null =>
      rw [updateScenarioData_apply (h := rfl), tmntMatches_of_none rfl]
      exact h.structuralTmnt_eq_none.trans ⟨fun hrow _ => hrow, fun hrow => hrow (.inl hin)⟩
    | val input => rw [hin] at hnone; cases hnone
  · -- an input that is set replaces the stored one; only a collection in it writes the list
    rw [updateScenarioData_apply (h := rfl)]
    cases hfs : stored.tmntFacilityCollection.get with
    | none =>
      have htmnt : input.tmntFacilityCollection.get = none := hval.tmnt_eq ▸ hfs
      rw [hval.structuralTmnt_eq_unset htmnt]
      refine (tmntMatches_of_none ?_).trans (h.structuralTmnt_eq_none.trans ?_)
      · exact hfs
      · exact ⟨fun hrow _ => hrow,
          fun hrow => hrow (.inr ⟨input, hinput, htmnt, hval.delineationValid⟩)⟩
    | some features =>
      obtain ⟨ft, hft, rfl⟩ := hval.of_tmnt hfs
      refine iff_of_true (.of_some hfs rfl hft rfl) fun hdrops => ?_
      rcases hdrops with hnull | ⟨input', hinput', htmnt, -⟩
      · cases hinput.symm.trans hnull
      · obtain rfl : input = input' := ModelField.val.inj (hinput.symm.trans hinput')
        rw [← hval.tmnt_eq, hfs] at htmnt
        cases htmnt

/-- A solve adds cost-effectiveness fields only. -/
theorem ScenarioRow.TmntMatches.solve {force : Bool} {row' : ScenarioRow J K Digest Time}
    (h : row.TmntMatches lib) (hs : row.SolvedRow lib force row') : row'.TmntMatches lib := by
  have hcol : row'.tmntFacilityCollection = row.tmntFacilityCollection := by
    rw [tmntFacilityCollection, hs.input, tmntFacilityCollection]
  have hfac := hs.facilities
  cases hrow : row.tmntFacilityCollection with
  | none =>
    rw [(tmntMatches_of_none hrow).1 h] at hfac
    exact (tmntMatches_of_none (hcol.trans hrow)).2 (Option.map_eq_none_iff.1 hfac)
  | some features =>
    rw [TmntMatches, hrow] at h
    obtain ⟨st, ft, hst, hft, hsame⟩ := h
    rw [hst, Option.map_some] at hfac
    obtain ⟨st', hst', hstrip⟩ := Option.map_eq_some_iff.1 hfac
    exact .of_some (hcol.trans hrow) hst' hft (hstrip.trans hsame)

end Rows

/-! ### Runs -/

section Runs

variable {lib : ScenarioLibrary J K Digest} {db db' : ScenarioDb J K Digest Time}

/-- The written row decides. -/
theorem ScenarioDb.TmntMatches.insert_iff (h : db.TmntMatches lib) {id : String}
    {row : ScenarioRow J K Digest Time} :
    ScenarioDb.TmntMatches lib (db.insert id row) ↔ row.TmntMatches lib := by
  constructor
  · intro hdb
    exact hdb id row (AList.lookup_insert db)
  · intro hrow id' row' hlookup
    rcases lookup_insert_cases hlookup with ⟨-, rfl⟩ | hold
    · exact hrow
    · exact h id' row' hold

variable [Field K] [LinearOrder K] [DecidableEq Digest]

/-- An operation keeps the lists right exactly if it drops no collection. -/
theorem ScenarioDb.TmntMatches.step_iff {a : ScenarioAction J K Time} (h : db.TmntMatches lib)
    (hstep : (scenarioMachine lib).step db a = some db') :
    db'.TmntMatches lib ↔ db.KeepsFacilities lib a := by
  cases a with
  | create id scenario =>
    refine iff_of_true ?_ trivial
    rcases toOption_getD_cases (Option.some.inj hstep) with ⟨-, rfl⟩ | hc
    · exact h
    · obtain ⟨data, hdata, rfl⟩ := createScenario_ok hc
      exact h.insert_iff.2 (ScenarioRow.tmntMatches_created hdata)
  | patch id scenario now =>
    rcases toOption_getD_cases (Option.some.inj hstep) with ⟨⟨e, he⟩, rfl⟩ | hu
    · -- a payload that drops the facilities of a stored row is not refused
      refine iff_of_true h fun hdrops row hrow => ?_
      obtain ⟨data, hdata⟩ := hdrops.accepted
      cases he.symm.trans (updateScenario_eq_ok.2 ⟨data, row, hdata, hrow, rfl⟩)
    · obtain ⟨data, row, hdata, hrow, rfl⟩ := updateScenario_eq_ok.1 hu
      refine h.insert_iff.trans (((h id row hrow).patch_iff hdata now).trans ?_)
      refine forall_congr' fun _ => ⟨fun hnone row' hrow' => ?_, fun hall => hall row hrow⟩
      obtain rfl : row = row' := Option.some.inj (hrow.symm.trans hrow')
      exact hnone
  | delete id =>
    refine iff_of_true (fun id' row hrow => ?_) trivial
    cases hstep
    exact h id' row (lookup_of_lookup_deleteScenario hrow)
  | solve id force now =>
    refine iff_of_true ?_ trivial
    rcases toOption_getD_cases (Option.some.inj hstep) with ⟨-, rfl⟩ | hs
    · exact h
    · obtain ⟨row, row', hrow, hsolved, rfl⟩ := solveSingleScenario_ok lib hs
      exact h.insert_iff.2 ((h id row hrow).solve hsolved)

theorem exists_run_scenarioMachine (lib : ScenarioLibrary J K Digest)
    (db : ScenarioDb J K Digest Time) (as : List (ScenarioAction J K Time)) :
    ∃ db', (scenarioMachine lib).run db as = some db' :=
  Machine.exists_run (fun _ a => by cases a <;> exact ⟨_, rfl⟩) db as

/-- **The listed facilities are those of the stored input, all along a run, exactly if** no patch
of the run drops a stored facility collection. -/
theorem tmntMatches_iff (lib : ScenarioLibrary J K Digest) (as : List (ScenarioAction J K Time)) :
    (scenarioMachine lib).Always (ScenarioDb.TmntMatches lib) ∅ as ↔
      (scenarioMachine lib).Guarded (ScenarioDb.KeepsFacilities lib) ∅ as := by
  obtain ⟨db, hrun⟩ := exists_run_scenarioMachine lib ∅ as
  refine Machine.always_iff_guarded (fun id row hrow => ?_) (fun _ _ _ h hstep => h.step_iff hstep)
    hrun
  rw [AList.lookup_empty] at hrow
  cases hrow

end Runs

/-- A patch with the delineations alone: the list of the facility stays without its collection. -/
theorem not_tmntMatches_delineation_only :
    ¬ (scenarioMachine exampleLibrary).Always (ScenarioDb.TmntMatches exampleLibrary) ∅
      [.create "scenario-1" exampleScenario,
        .patch "scenario-1" ⟨.unset, .unset, .val ⟨.val 1, .unset⟩⟩ 1] := by
  intro h
  obtain ⟨db, hrun, row, hrow, hcol, hst⟩ :
      ∃ db ∈ (scenarioMachine exampleLibrary).run ∅
        [.create "scenario-1" exampleScenario,
          .patch "scenario-1" ⟨.unset, .unset, .val ⟨.val 1, .unset⟩⟩ 1],
        ∃ row ∈ db.lookup "scenario-1", row.tmntFacilityCollection = none ∧
          row.structuralTmnt ≠ none := by
    decide +kernel
  exact hst ((ScenarioRow.tmntMatches_of_none hcol).1 (h.last hrun "scenario-1" row hrow))

end StormPiper
