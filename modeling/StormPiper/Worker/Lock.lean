import StormPiper.Scenario.History
import StormPiper.Scenario.Settled

/-!
# The locks of the background tasks

A `Singleton` task takes a lock when it is queued and releases it when it has finished.  The key of
the lock is a digest of the name and the arguments of the task, and it is computed again from the
arguments as the task body leaves them.

## Main definitions

* `SingletonTask`, `Submission` : a task with its arguments, and how they are passed.
* `generateLock`, `Submission.lock` : the key.
* `SingletonTask.run` : what the body of a task does to its arguments.
* `SingletonTask.Untouched` : the task recalculates nothing and assigns nothing.
* `lock_released_iff` : an untouched task releases the key that was taken, however it ends, and of
  the tasks that come to the end of their solve no other does.
* `lock_left_behind` : a solve of a new scenario releases another lock than its own.
-/

namespace StormPiper

variable {J K Digest Time : Type}

/-! ### Tasks and their arguments -/

/-- A document among the arguments of a task. -/
inductive TaskDocument (J K Digest Time : Type) where
  | scenario (data : ScenarioData J K Digest Time)
  | scenarios (dataList : List (ScenarioData J K Digest Time))
  | flag (b : Bool)
  | json (j : J)
  deriving DecidableEq

/-- The tasks of `bg_worker` with the base `Singleton`, and the values of their parameters.  A
parameter that is left to its default is `none`. -/
inductive SingletonTask (J K Digest Time : Type) where
  | deleteAndRefreshAllResultsTables (continueChain : Option J)
  | runRefreshTask
  | updateScenarioResults (data : ScenarioData J K Digest Time) (force : Option Bool)
  | computeScenarioResults (data : ScenarioData J K Digest Time)
  | updateAllScenarioResults (dataList : List (ScenarioData J K Digest Time))
      (force : Option Bool)
  | calculateSubbasinPrometheePrioritization (data : J)

namespace SingletonTask

/-- The name of a task. -/
def name : SingletonTask J K Digest Time → String
  | deleteAndRefreshAllResultsTables _ =>
    "stormpiper.bg_worker.delete_and_refresh_all_results_tables"
  | runRefreshTask => "stormpiper.bg_worker.run_refresh_task"
  | updateScenarioResults _ _ => "stormpiper.bg_worker.update_scenario_results"
  | computeScenarioResults _ => "stormpiper.bg_worker.compute_scenario_results"
  | updateAllScenarioResults _ _ => "stormpiper.bg_worker.update_all_scenario_results"
  | calculateSubbasinPrometheePrioritization _ =>
    "stormpiper.bg_worker.calculate_subbasin_promethee_prioritization"

/-- The parameters that are passed, in the order of the signature. -/
def params : SingletonTask J K Digest Time → List (String × TaskDocument J K Digest Time)
  | deleteAndRefreshAllResultsTables continueChain =>
    (continueChain.map fun j => ("continue_chain", .json j)).toList
  | runRefreshTask => []
  | updateScenarioResults data force =>
    ("data", .scenario data) :: (force.map fun b => ("force", .flag b)).toList
  | computeScenarioResults data => [("data", .scenario data)]
  | updateAllScenarioResults dataList force =>
    ("data_list", .scenarios dataList) :: (force.map fun b => ("force", .flag b)).toList
  | calculateSubbasinPrometheePrioritization data => [("data", .json data)]

end SingletonTask

/-- A call of `apply_async`. -/
structure Submission (J K Digest Time : Type) where
  task : SingletonTask J K Digest Time
  /-- How many of the parameters are passed by position, the others are passed by name. -/
  positional : ℕ

namespace Submission

/-- The positional arguments. -/
def args (sub : Submission J K Digest Time) : List (TaskDocument J K Digest Time) :=
  (sub.task.params.take sub.positional).map Prod.snd

/-- The keyword arguments. -/
def kwargs (sub : Submission J K Digest Time) : List (String × TaskDocument J K Digest Time) :=
  sub.task.params.drop sub.positional

theorem args_append_kwargs (sub : Submission J K Digest Time) :
    sub.args ++ sub.kwargs.map Prod.snd = sub.task.params.map Prod.snd := by
  rw [args, kwargs, ← List.map_append, List.take_append_drop]

end Submission

/-! ### Keys -/

/-- What the key is computed with: `json.dumps` with `sort_keys=True, default=str`, and
`md5(...).hexdigest()`. -/
structure LockLibrary (J K Digest Time : Type) where
  dumpsArgs : List (TaskDocument J K Digest Time) → String
  dumpsKwargs : List (String × TaskDocument J K Digest Time) → String
  md5 : String → String

/-- `generate_lock`. -/
def generateLock (locks : LockLibrary J K Digest Time) (taskName : String)
    (taskArgs : List (TaskDocument J K Digest Time))
    (taskKwargs : List (String × TaskDocument J K Digest Time)) : String :=
  let strArgs := locks.dumpsArgs taskArgs
  let strKwargs := locks.dumpsKwargs taskKwargs
  let taskHash := locks.md5 (taskName ++ strArgs ++ strKwargs)
  "SINGLETONLOCK_" ++ taskHash

/-- `Singleton.generate_lock`; no task sets `unique_on`. -/
def Submission.lock (sub : Submission J K Digest Time) (locks : LockLibrary J K Digest Time) :
    String :=
  generateLock locks sub.task.name sub.args sub.kwargs

/-- The key tells the two calls apart: there is no collision between their dumps. -/
def LockLibrary.Distinguishes (locks : LockLibrary J K Digest Time)
    (sub sub' : Submission J K Digest Time) : Prop :=
  sub.lock locks = sub'.lock locks → sub.args = sub'.args ∧ sub.kwargs = sub'.kwargs

/-! ### Task bodies -/

section Bodies

variable [Field K] [LinearOrder K]

/-- The body of a task, as far as its arguments go.  `outcome` says how the bodies end that only
read their arguments. -/
def SingletonTask.run (lib : ScenarioLibrary J K Digest)
    (outcome : SingletonTask J K Digest Time → Except PyError Unit)
    (db : ScenarioDb J K Digest Time) (now : Time) :
    Mutation (SingletonTask J K Digest Time) PyError
  | .updateScenarioResults data force =>
    let r := solveScenarioData lib (force.getD false) now data
    -- `solve_scenario_db` makes a dictionary of its own and writes to the database
    (.updateScenarioResults r.1 force, r.2.bind fun _ => (solveScenarioDb db r.1).map fun _ => ())
  | .computeScenarioResults data =>
    let r := solveScenarioData lib false now data
    (.computeScenarioResults r.1, r.2)
  -- `update_all_scenario_results` submits its dictionaries to tasks that get copies of them
  | task => (task, outcome task)

/-- The arguments as `on_success` and `on_failure` get them. -/
def Submission.finished (lib : ScenarioLibrary J K Digest)
    (outcome : SingletonTask J K Digest Time → Except PyError Unit)
    (db : ScenarioDb J K Digest Time) (now : Time) (sub : Submission J K Digest Time) :
    Submission J K Digest Time :=
  { sub with task := (sub.task.run lib outcome db now).1 }

/-- Every field that the task comes to assign holds the assigned value already. -/
def SingletonTask.Settled (lib : ScenarioLibrary J K Digest) (now : Time) :
    SingletonTask J K Digest Time → Prop
  | .updateScenarioResults data force => StormPiper.Settled lib (force.getD false) now data
  | .computeScenarioResults data => StormPiper.Settled lib false now data
  | _ => True

variable {lib : ScenarioLibrary J K Digest}
  {outcome : SingletonTask J K Digest Time → Except PyError Unit}
  {db : ScenarioDb J K Digest Time} {now : Time}

/-- The values of the parameters stay as they are exactly if the task is settled. -/
theorem SingletonTask.params_run_iff (task : SingletonTask J K Digest Time) :
    (task.run lib outcome db now).1.params.map Prod.snd = task.params.map Prod.snd ↔
      task.Settled lib now := by
  cases task with
  | updateScenarioResults data force =>
    refine Iff.trans ?_ solveScenarioData_fixes_iff
    simp [run, params, Mutation.Fixes]
  | computeScenarioResults data =>
    refine Iff.trans ?_ solveScenarioData_fixes_iff
    simp [run, params, Mutation.Fixes]
  | _ => exact iff_of_true rfl trivial

/-- A settled task is left as it was submitted. -/
theorem SingletonTask.run_of_settled {task : SingletonTask J K Digest Time}
    (h : task.Settled lib now) : (task.run lib outcome db now).1 = task := by
  cases task with
  | updateScenarioResults data force =>
    exact congrArg (updateScenarioResults · force) (solveScenarioData_fixes_iff.2 h)
  | computeScenarioResults data =>
    exact congrArg computeScenarioResults (solveScenarioData_fixes_iff.2 h)
  | _ => rfl

/-- The task recalculates nothing and assigns nothing: a condition on what is submitted. -/
def SingletonTask.Untouched : SingletonTask J K Digest Time → Prop
  | .updateScenarioResults data force => StormPiper.Untouched (force.getD false) data
  | .computeScenarioResults data => StormPiper.Untouched false data
  | _ => True

/-- The solve in the body of the task does not raise, at another time than that of the results
which were submitted. -/
def SingletonTask.Solves (lib : ScenarioLibrary J K Digest) (now : Time) :
    SingletonTask J K Digest Time → Prop
  | .updateScenarioResults data force =>
    (solveScenarioData lib (force.getD false) now).Passes data ∧ data.resultTimeUpdated ≠ .val now
  | .computeScenarioResults data =>
    (solveScenarioData lib false now).Passes data ∧ data.resultTimeUpdated ≠ .val now
  | _ => True

theorem SingletonTask.settled_of_untouched {task : SingletonTask J K Digest Time}
    (h : task.Untouched) : task.Settled lib now := by
  cases task with
  | updateScenarioResults data force => exact StormPiper.Untouched.settled h
  | computeScenarioResults data => exact StormPiper.Untouched.settled h
  | _ => trivial

theorem SingletonTask.settled_iff {task : SingletonTask J K Digest Time}
    (h : task.Solves lib now) : task.Settled lib now ↔ task.Untouched := by
  cases task with
  | updateScenarioResults data force => exact settled_iff_untouched h.1 h.2
  | computeScenarioResults data => exact settled_iff_untouched h.1 h.2
  | _ => exact Iff.rfl

/-- The key that is computed when the task has finished is the one that was taken when it was
queued, if and only if every field that the body assigned before it ended held the assigned value
already. -/
theorem lock_finished_iff {locks : LockLibrary J K Digest Time}
    {sub : Submission J K Digest Time}
    (hlocks : locks.Distinguishes (sub.finished lib outcome db now) sub) :
    (sub.finished lib outcome db now).lock locks = sub.lock locks ↔
      sub.task.Settled lib now := by
  constructor
  · intro h
    obtain ⟨hargs, hkwargs⟩ := hlocks h
    have hparams : (sub.finished lib outcome db now).task.params.map Prod.snd =
        sub.task.params.map Prod.snd := by
      rw [← Submission.args_append_kwargs, ← Submission.args_append_kwargs, hargs, hkwargs]
    exact sub.task.params_run_iff.1 hparams
  · intro h
    rw [Submission.finished, SingletonTask.run_of_settled h]

/-- **Which tasks release their lock.**  A task that is submitted with nothing to recalculate and
nothing to assign releases the key that was taken, with success or not, whatever the computations
are.  Of the tasks that come to the end of their solve no other does. -/
theorem lock_released_iff (locks : LockLibrary J K Digest Time) (sub : Submission J K Digest Time)
    (lib : ScenarioLibrary J K Digest)
    (outcome : SingletonTask J K Digest Time → Except PyError Unit)
    (db : ScenarioDb J K Digest Time) (now : Time) :
    (sub.task.Untouched → (sub.finished lib outcome db now).lock locks = sub.lock locks) ∧
      (locks.Distinguishes (sub.finished lib outcome db now) sub → sub.task.Solves lib now →
        ((sub.finished lib outcome db now).lock locks = sub.lock locks ↔ sub.task.Untouched)) := by
  constructor
  · intro h
    rw [Submission.finished, SingletonTask.run_of_settled (SingletonTask.settled_of_untouched h)]
  · intro hlocks hsolves
    rw [lock_finished_iff hlocks, SingletonTask.settled_iff hsolves]

end Bodies

/-! ### Examples -/

/-- A key of an object with its number, if it is set. -/
def dumpsKey (key : String) : ModelField ℕ → String
  | .unset => ""
  | .null => key ++ ": null, "
  | .val n => key ++ ": " ++ toString n ++ ", "

/-- The keys of an example whose values are numbers, in their order. -/
def dumpsDocument : TaskDocument ℕ ℚ (ScenarioInput ℕ ℚ ⊕ ℕ) ℕ → String
  | .scenario data =>
    dumpsKey "delin_load" data.delinLoad ++ dumpsKey "lgu_boundary" data.lguBoundary ++
      dumpsKey "lgu_load" data.lguLoad ++ dumpsKey "result_time_updated" data.resultTimeUpdated
  | .scenarios dataList => toString dataList.length
  | .flag b => toString b
  | .json j => toString j

/-- The digest of an example is its text. -/
def exampleLocks : LockLibrary ℕ ℚ (ScenarioInput ℕ ℚ ⊕ ℕ) ℕ where
  dumpsArgs docs := String.join (docs.map dumpsDocument)
  dumpsKwargs docs := String.join (docs.map fun doc => doc.1 ++ ": " ++ dumpsDocument doc.2)
  md5 := id

/-- `POST /rpc/solve_scenario` with a new scenario. -/
def exampleSubmission : Submission ℕ ℚ (ScenarioInput ℕ ℚ ⊕ ℕ) ℕ where
  task :=
    match scenarioValidator exampleLibrary exampleScenario with
    | .ok data => .computeScenarioResults data
    | .error _ => .runRefreshTask
  positional := 0

/-- The submission after the task has run at the time `now`. -/
def exampleFinished (now : ℕ) (sub : Submission ℕ ℚ (ScenarioInput ℕ ℚ ⊕ ℕ) ℕ) :
    Submission ℕ ℚ (ScenarioInput ℕ ℚ ⊕ ℕ) ℕ :=
  sub.finished exampleLibrary (fun _ => .ok ()) ∅ now

/-- A solved scenario is left as it is by another solve, at any time. -/
theorem lock_released_iff_solved :
    (exampleFinished 1 exampleSubmission).task.Untouched ∧
      ∀ now, (exampleFinished now (exampleFinished 1 exampleSubmission)).lock exampleLocks =
        (exampleFinished 1 exampleSubmission).lock exampleLocks := by
  have hsolves : (exampleFinished 1 exampleSubmission).task.Solves exampleLibrary 2 := by
    refine ⟨?_, by decide +kernel⟩
    unfold Mutation.Passes
    decide +kernel
  have hlock : (exampleFinished 2 (exampleFinished 1 exampleSubmission)).lock exampleLocks =
      (exampleFinished 1 exampleSubmission).lock exampleLocks := by decide +kernel
  have huntouched : (exampleFinished 1 exampleSubmission).task.Untouched :=
    ((lock_released_iff exampleLocks _ exampleLibrary (fun _ => .ok ()) ∅ 2).2
      (fun _ => by decide +kernel) hsolves).1 hlock
  exact ⟨huntouched, fun now =>
    (lock_released_iff exampleLocks _ exampleLibrary (fun _ => .ok ()) ∅ now).1 huntouched⟩

/-- **A lock that is left behind.**  The solve of a new scenario writes its results into its
argument, and releases the key of what it has written. -/
theorem lock_left_behind :
    (exampleSubmission.task.run exampleLibrary (fun _ => .ok ()) ∅ 1).2 = .ok () ∧
      (exampleFinished 1 exampleSubmission).lock exampleLocks ≠
        exampleSubmission.lock exampleLocks := by
  decide +kernel

end StormPiper
