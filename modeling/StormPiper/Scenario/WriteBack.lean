import StormPiper.Scenario.History

/-!
# Patches and background solves of one scenario

A solve takes a snapshot of the whole row when it is requested, runs `solve_scenario_data` on it
and writes every column of the outcome back.  A patch reads the row, compares the hashes and writes
the fields that it sets.  The steps of any number of requests interleave.

A solve leaves the submitted fields of its snapshot as they are, so that what it writes back for
them is what was stored when it was requested.

## Main definitions

* `SolveResult` : the dictionary that a solve has made of its snapshot.
* `writeBackMachine` : the steps of patches and solves.
* `WriteBackState.EditsKept` : the submitted columns are those of the acknowledged patches.
* `edits_kept_iff` : they are, all along a run, exactly if no solve writes an outdated snapshot.
* `solve_reverts_patch` : a patch between the request of a solve and its write is lost.
-/

namespace StormPiper

variable {J K Digest Time : Type}

/-- The columns that only a patch may change. -/
def ScenarioRow.edits (row : ScenarioRow J K Digest Time) :
    Option String × Option J × Option (ScenarioInput J K) × Option Digest × Option Digest :=
  (row.name, row.info, row.input, row.inputHash, row.loadingHash)

/-- What a solve has made of its snapshot. -/
structure SolveResult (J K Digest Time : Type) (id : String) where
  snapshot : ScenarioRow J K Digest Time
  data : ScenarioData J K Digest Time
  submitted : data.submitted = (snapshot.toData id).submitted

/-- A solve that is not finished. -/
inductive SolveTask (J K Digest Time : Type) (id : String) where
  /-- The task waits in the queue with the snapshot as its argument. -/
  | queued (snapshot : ScenarioRow J K Digest Time) (force : Bool)
  /-- The task body has come to `solve_scenario_db`. -/
  | solved (result : SolveResult J K Digest Time id)

/-- A patch that has read the row. -/
structure PatchRequest (J K Digest Time : Type) where
  /-- The fields of the validated request. -/
  data : ScenarioData J K Digest Time
  /-- The row it has read. -/
  attr : ScenarioRow J K Digest Time

/-- The stored row of a scenario, the requests that are not finished, and the patches that were
acknowledged. -/
structure WriteBackState (J K Digest Time : Type) (id : String) where
  row : ScenarioRow J K Digest Time
  patches : AList fun _ : ℕ => PatchRequest J K Digest Time
  solves : AList fun _ : ℕ => SolveTask J K Digest Time id
  acknowledged : List (ScenarioData J K Digest Time)

/-- A step of some request. -/
inductive WriteBackAction (J K Digest Time : Type) where
  /-- A patch is validated and reads the row. -/
  | readPatch (i : ℕ) (data : ScenarioData J K Digest Time)
  /-- A patch commits its update and is acknowledged. -/
  | commitPatch (i : ℕ) (now : Time)
  /-- The update of a patch raises: it is rolled back and answered with 422. -/
  | rejectPatch (i : ℕ)
  /-- `POST /rpc/solve_scenario/{id}` takes the snapshot and queues the task. -/
  | requestSolve (i : ℕ) (force : Bool)
  /-- The task runs `solve_scenario_data`. -/
  | runSolve (i : ℕ) (now : Time)
  /-- The task runs `solve_scenario_db`. -/
  | writeBack (i : ℕ)
  /-- The task ends without a write. -/
  | loseSolve (i : ℕ)

variable {id : String}

/-- Nothing is requested yet. -/
def WriteBackState.initial (row : ScenarioRow J K Digest Time) :
    WriteBackState J K Digest Time id :=
  ⟨row, ∅, ∅, []⟩

/-- The solve `i`, if it has come to `solve_scenario_db`. -/
def WriteBackState.solved (s : WriteBackState J K Digest Time id) (i : ℕ) :
    Option (SolveResult J K Digest Time id) :=
  match s.solves.lookup i with
  | some (.solved result) => some result
  | _ => none

/-- All requests have finished. -/
def WriteBackState.finished (s : WriteBackState J K Digest Time id) : Bool :=
  s.patches.keys.isEmpty && s.solves.keys.isEmpty

/-- The submitted columns are those of the acknowledged patches, which were made one after another
on the row that was there first. -/
def WriteBackState.EditsKept (row : ScenarioRow J K Digest Time)
    (s : WriteBackState J K Digest Time id) : Prop :=
  s.row.edits = (s.acknowledged.foldl (fun row data => data.apply row) row).edits

/-- What a solve writes back was taken from the submitted columns that are stored now. -/
def WriteBackState.UpToDate (s : WriteBackState J K Digest Time id) :
    WriteBackAction J K Digest Time → Prop
  | .writeBack i => ∀ result ∈ s.solved i, result.snapshot.edits = s.row.edits
  | _ => True

instance [DecidableEq J] [DecidableEq K] [DecidableEq Digest] [DecidableEq Time]
    (row : ScenarioRow J K Digest Time) (s : WriteBackState J K Digest Time id) :
    Decidable (s.EditsKept row) := inferInstanceAs (Decidable (_ = _))

instance [DecidableEq J] [DecidableEq K] [DecidableEq Digest]
    (s : WriteBackState J K Digest Time id) (a : WriteBackAction J K Digest Time) :
    Decidable (s.UpToDate a) :=
  match a with
  | .writeBack i =>
    match h : s.solved i with
    | none => isTrue (by simp [WriteBackState.UpToDate, h])
    | some result =>
      decidable_of_iff (result.snapshot.edits = s.row.edits) (by simp [WriteBackState.UpToDate, h])
  | .readPatch _ _ | .commitPatch _ _ | .rejectPatch _ | .requestSolve _ _ | .runSolve _ _
  | .loseSolve _ => isTrue trivial

section Machine

variable [Field K] [LinearOrder K]

/-- `solve_scenario_data` on a snapshot. -/
def SolveResult.ofSnapshot (lib : ScenarioLibrary J K Digest) (force : Bool) (now : Time)
    (snapshot : ScenarioRow J K Digest Time) : Except PyError (SolveResult J K Digest Time id) :=
  match (solveScenarioData lib force now (snapshot.toData id)).2 with
  | .error e => .error e
  | .ok () =>
    .ok
      { snapshot
        data := (solveScenarioData lib force now (snapshot.toData id)).1
        submitted := solveScenarioData_keeps_submitted lib force now _ }

variable [DecidableEq Digest]

/-- The steps of patches and solves of the scenario `id`. -/
def writeBackMachine (lib : ScenarioLibrary J K Digest) (id : String) :
    Machine (WriteBackState J K Digest Time id) (WriteBackAction J K Digest Time) where
  step s
    | .readPatch i data =>
      if i ∈ s.patches then none
      else some { s with patches := s.patches.insert i ⟨data, s.row⟩ }
    | .commitPatch i now => do
      let request ← s.patches.lookup i
      some
        { s with
          -- the hashes are compared with those of the row that was read
          row := (updateScenarioData request.attr request.data now).apply s.row
          patches := s.patches.erase i
          acknowledged := s.acknowledged ++ [request.data] }
    | .rejectPatch i =>
      if i ∈ s.patches then some { s with patches := s.patches.erase i } else none
    | .requestSolve i force =>
      if i ∈ s.solves then none
      else some { s with solves := s.solves.insert i (.queued s.row force) }
    | .runSolve i now =>
      match s.solves.lookup i with
      | some (.queued snapshot force) =>
        match SolveResult.ofSnapshot lib force now snapshot with
        | .ok result => some { s with solves := s.solves.insert i (.solved result) }
        -- the exception ends the task
        | .error _ => some { s with solves := s.solves.erase i }
      | _ => none
    | .writeBack i => do
      let result ← s.solved i
      some { s with row := result.data.apply s.row, solves := s.solves.erase i }
    | .loseSolve i =>
      if i ∈ s.solves then some { s with solves := s.solves.erase i } else none

end Machine

/-! ### The submitted columns -/

theorem ScenarioData.apply_edits (data : ScenarioData J K Digest Time)
    {row row' : ScenarioRow J K Digest Time} (h : row.edits = row'.edits) :
    (data.apply row).edits = (data.apply row').edits := by
  simp only [ScenarioRow.edits, Prod.mk.injEq] at h
  obtain ⟨hname, hinfo, hinput, hinputHash, hloadingHash⟩ := h
  simp only [ScenarioRow.edits, ScenarioData.apply, hname, hinfo, hinput, hinputHash, hloadingHash]

theorem updateScenarioData_edits [DecidableEq Digest] (attr row : ScenarioRow J K Digest Time)
    (data : ScenarioData J K Digest Time) (now : Time) :
    ((updateScenarioData attr data now).apply row).edits = (data.apply row).edits := by
  unfold updateScenarioData
  dsimp only
  split_ifs <;> rfl

/-- A solve writes back what it has read of them. -/
theorem SolveResult.apply_edits (result : SolveResult J K Digest Time id)
    (row : ScenarioRow J K Digest Time) :
    (result.data.apply row).edits = result.snapshot.edits := by
  have h := result.submitted
  simp only [ScenarioData.submitted, ScenarioRow.toData, Prod.mk.injEq] at h
  obtain ⟨-, hname, hinfo, hinput, -, hloadingHash, hinputHash⟩ := h
  simp only [ScenarioRow.edits, ScenarioData.apply, hname, hinfo, hinput, hinputHash, hloadingHash,
    ModelField.apply_ofOption]

/-! ### Runs -/

section Runs

variable [Field K] [LinearOrder K] [DecidableEq Digest] {lib : ScenarioLibrary J K Digest}

/-- What a step can do to the row: a patch is acknowledged, a solve writes back, or the row and
the acknowledged patches stay as they are. -/
theorem writeBackMachine_cases {s s' : WriteBackState J K Digest Time id}
    {a : WriteBackAction J K Digest Time} (h : (writeBackMachine lib id).step s a = some s') :
    (∃ (request : PatchRequest J K Digest Time) (now : Time),
      s'.row = (updateScenarioData request.attr request.data now).apply s.row ∧
      s'.acknowledged = s.acknowledged ++ [request.data] ∧ s.UpToDate a) ∨
    (∃ result : SolveResult J K Digest Time id, s'.row = result.data.apply s.row ∧
      s'.acknowledged = s.acknowledged ∧
      (s.UpToDate a ↔ result.snapshot.edits = s.row.edits)) ∨
    (s'.row = s.row ∧ s'.acknowledged = s.acknowledged ∧ s.UpToDate a) := by
  cases a with
  | readPatch i data =>
    obtain ⟨-, h⟩ := Option.ite_none_left_eq_some.1 h
    cases h
    exact .inr (.inr ⟨rfl, rfl, trivial⟩)
  | commitPatch i now =>
    obtain ⟨request, -, h⟩ := Option.bind_eq_some_iff.1 h
    cases h
    exact .inl ⟨request, now, rfl, rfl, trivial⟩
  | rejectPatch i =>
    obtain ⟨-, h⟩ := Option.ite_none_right_eq_some.1 h
    cases h
    exact .inr (.inr ⟨rfl, rfl, trivial⟩)
  | requestSolve i force =>
    obtain ⟨-, h⟩ := Option.ite_none_left_eq_some.1 h
    cases h
    exact .inr (.inr ⟨rfl, rfl, trivial⟩)
  | runSolve i now =>
    simp only [writeBackMachine] at h
    split at h
    · split at h <;> cases h <;> exact .inr (.inr ⟨rfl, rfl, trivial⟩)
    · cases h
  | writeBack i =>
    obtain ⟨result, hresult, h⟩ := Option.bind_eq_some_iff.1 h
    cases h
    refine .inr (.inl ⟨result, rfl, rfl, fun hok => hok result hresult, fun hsame r hr => ?_⟩)
    obtain rfl : result = r := Option.some.inj (hresult.symm.trans hr)
    exact hsame
  | loseSolve i =>
    obtain ⟨-, h⟩ := Option.ite_none_right_eq_some.1 h
    cases h
    exact .inr (.inr ⟨rfl, rfl, trivial⟩)

/-- A step keeps the edits exactly if it writes back nothing outdated. -/
theorem editsKept_step_iff {row : ScenarioRow J K Digest Time}
    {s s' : WriteBackState J K Digest Time id} {a : WriteBackAction J K Digest Time}
    (hs : s.EditsKept row) (h : (writeBackMachine lib id).step s a = some s') :
    s'.EditsKept row ↔ s.UpToDate a := by
  unfold WriteBackState.EditsKept at hs ⊢
  rcases writeBackMachine_cases h with ⟨request, now, hrow, hack, hok⟩ |
    ⟨result, hrow, hack, hok⟩ | ⟨hrow, hack, hok⟩
  · refine iff_of_true ?_ hok
    rw [hrow, hack, List.foldl_concat, updateScenarioData_edits]
    exact request.data.apply_edits hs
  · rw [hrow, hack, hok, result.apply_edits, hs]
  · rw [hrow, hack]
    exact iff_of_true hs hok

/-- **Which runs keep the edits.**  In every state that a run of patches and solves reaches, the
submitted columns are those of the acknowledged patches, if and only if each solve that writes back
does so while its snapshot of these columns is what is stored. -/
theorem edits_kept_iff {row : ScenarioRow J K Digest Time}
    {s : WriteBackState J K Digest Time id} {as : List (WriteBackAction J K Digest Time)}
    (hrun : (writeBackMachine lib id).run (.initial row) as = some s) :
    (writeBackMachine lib id).Always (WriteBackState.EditsKept row) (.initial row) as ↔
      (writeBackMachine lib id).Guarded WriteBackState.UpToDate (.initial row) as := by
  refine Machine.always_iff_guarded ?_ (fun _ _ _ hs h => editsKept_step_iff hs h) hrun
  show (WriteBackState.initial row).row.edits = row.edits
  rfl

end Runs

/-! ### Examples -/

/-- The row of a scenario that was just created. -/
def exampleRow : ScenarioRow ℕ ℚ (ScenarioInput ℕ ℚ ⊕ ℕ) ℕ :=
  match scenarioValidator exampleLibrary exampleScenario with
  | .ok data => data.apply .empty
  | .error _ => .empty

/-- A patch that changes nothing but the name. -/
def exampleRename : ScenarioData ℕ ℚ (ScenarioInput ℕ ℚ ⊕ ℕ) ℕ :=
  { ScenarioData.empty with name := .val "renamed" }

/-- A patch that has read the row before a solve, and commits after it. -/
def exampleOrderly : List (WriteBackAction ℕ ℚ (ScenarioInput ℕ ℚ ⊕ ℕ) ℕ) :=
  [.readPatch 0 exampleRename, .requestSolve 0 false, .runSolve 0 1, .writeBack 0,
    .commitPatch 0 2]

theorem edits_kept_iff_orderly :
    ∃ s, (writeBackMachine exampleLibrary "scenario-1").run (.initial exampleRow) exampleOrderly =
        some s ∧
      s.EditsKept exampleRow ∧ s.row.name = some "renamed" ∧ s.row.lguLoad = some 1 := by
  obtain ⟨s, hs, hname, hload⟩ :
      ∃ s ∈ (writeBackMachine exampleLibrary "scenario-1").run (.initial exampleRow)
        exampleOrderly, s.row.name = some "renamed" ∧ s.row.lguLoad = some 1 := by
    decide +kernel
  have halways := (edits_kept_iff hs).2 (by decide +kernel)
  exact ⟨s, hs, halways.last hs, hname, hload⟩

/-- **A solve reverts a patch.**  The name is changed while the solve waits in the queue; the solve
then writes the old one back. -/
theorem solve_reverts_patch :
    scenarioValidator exampleLibrary ⟨.val "renamed", .unset, .unset⟩ = .ok exampleRename ∧
    ∃ s ∈ (writeBackMachine exampleLibrary "scenario-1").run (.initial exampleRow)
        [.requestSolve 0 false, .readPatch 0 exampleRename, .commitPatch 0 1, .runSolve 0 2,
          .writeBack 0],
      s.finished = true ∧ s.acknowledged = [exampleRename] ∧
        s.row.name = some "tmnt scenario" ∧ ¬ s.EditsKept exampleRow :=
  ⟨rfl, by decide +kernel⟩

end StormPiper
