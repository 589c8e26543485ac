import StormPiper.Run.Canvas
import StormPiper.Tasks.Refresh

/-!
# The workflows of the background worker

The tasks of `bg_worker.py` that refresh tables run a function of `src/tasks.py` with
`run_in_chain`: a task whose `continue_chain` is false raises, a function that raises makes the task
return `False`, and otherwise the task returns `True`.  `check_results` returns whether all the
results before it are true, or raises if it may.  `Workflows` puts them together with `chain` and
`group`.  What Celery does is modelled as it is documented: a task whose process is killed has
failed; a task that is acknowledged late is delivered again if its worker stops, once it is clear
that the worker has; a task that has ended is acknowledged.

## Main definitions

* `BackgroundTask`, `Job` : the tasks, and what a worker does for each.
* `backgroundJobs` : the jobs on the change log and the tables that were replaced.
* `redeliveredJobs` : the same, where workers stop and their jobs are delivered again.
* `Workflows.refreshAll` : the daily refresh of everything.
-/

namespace StormPiper

open Relation Recency Table

/-- The tasks of the worker that the workflows are made of. -/
inductive BackgroundTask where
  /-- A function that replaces some tables, one after the other. -/
  | runInChain (writes : List Table)
  | checkResults (canRaise : Bool)
  deriving Repr, DecidableEq

namespace BackgroundTask

/-- `run_in_chain` with a function of `src/tasks.py`. -/
def ofTasks (tasks : List RefreshTask) : BackgroundTask := runInChain (tasks.map RefreshTask.table)

/-- `delete_and_refresh_tmnt_facility_table` -/
def deleteAndRefreshTmntFacilityTable : BackgroundTask :=
  ofTasks [.deleteAndRefreshTmntFacilityTable]

/-- `update_tmnt_attributes` -/
def updateTmntAttributes : BackgroundTask := ofTasks [.updateTmntAttributes]

/-- `delete_and_refresh_tmnt_facility_delineation_table` -/
def deleteAndRefreshTmntFacilityDelineationTable : BackgroundTask :=
  ofTasks [.deleteAndRefreshTmntFacilityDelineationTable]

/-- `delete_and_refresh_subbasin_table` -/
def deleteAndRefreshSubbasinTable : BackgroundTask := ofTasks [.deleteAndRefreshSubbasinTable]

/-- `delete_and_refresh_lgu_boundary_table` -/
def deleteAndRefreshLguBoundaryTable : BackgroundTask := ofTasks [.deleteAndRefreshLguBoundaryTable]

/-- `delete_and_refresh_lgu_load_table` -/
def deleteAndRefreshLguLoadTable : BackgroundTask := ofTasks [.deleteAndRefreshLguLoadTable]

/-- `delete_and_refresh_static_reference_tables` -/
def deleteAndRefreshStaticReferenceTables : BackgroundTask := ofTasks [.deleteAndRefreshMetTable]

/-- `delete_and_refresh_all_results_tables` -/
def deleteAndRefreshAllResultsTables : BackgroundTask :=
  ofTasks RefreshTask.deleteAndRefreshAllResultsTables

/-- `base=Singleton` -/
def isSingleton (t : BackgroundTask) : Bool := t = deleteAndRefreshAllResultsTables

/-- The tables that the task replaces, in this order. -/
def writes : BackgroundTask → List Table
  | runInChain ts => ts
  | checkResults _ => []

end BackgroundTask

/-- A task in a workflow.  An immutable one does not take the results of the tasks before it. -/
structure Signature where
  task : BackgroundTask
  immutable : Bool
  deriving Repr, DecidableEq

/-- `task.s(..)` -/
def BackgroundTask.s (t : BackgroundTask) : Canvas Signature := .task ⟨t, false⟩

/-- `task.si(..)` -/
def BackgroundTask.si (t : BackgroundTask) : Canvas Signature := .task ⟨t, true⟩

/-- Whether a job has ended, and how. -/
inductive JobStatus where
  | running
  | returned (b : Bool)
  | raised
  deriving Repr, DecidableEq

/-- A task in the hands of a worker. -/
structure Job where
  task : BackgroundTask
  /-- The results of the tasks before it, if it takes them. -/
  results : List Bool
  /-- The tables that its function has still to replace. -/
  todo : List Table
  status : JobStatus
  deriving Repr, DecidableEq

/-- How a job goes on. -/
inductive Progress where
  /-- The next table is replaced, or the task ends. -/
  | proceed
  /-- The function finds nothing new for the next table and leaves it. -/
  | skip
  /-- The function raises. -/
  | fail
  /-- The function raises after it has logged the next table, whose new content is rolled back. -/
  | failLogged
  /-- The process of the job is killed: the task is acknowledged and has failed, as
  `task_reject_on_worker_lost` is not set.  A check, which is acknowledged when it begins, is also
  lost with its worker. -/
  | kill
  /-- Another job holds the lock of a `Singleton`, so that this one is not published. -/
  | drop
  deriving Repr, DecidableEq

/-- What became of a table. -/
inductive Outcome where
  | replaced
  | unchanged
  /-- Logged, with its old content. -/
  | rolledBack
  deriving Repr, DecidableEq

/-- The change log, and what a workflow did to which tables, in this order. -/
structure RefreshState where
  changelog : List Table
  history : List (Table × Outcome)
  deriving Repr, DecidableEq

/-- A function is done with a table.  A table that it leaves is not logged. -/
def RefreshState.record (w : RefreshState) (t : Table) (o : Outcome) : RefreshState where
  changelog := if o = .unchanged then w.changelog else touch t w.changelog
  history := w.history ++ [(t, o)]

/-- The first argument of a task, `True` if it is not given one.  A list of results, which is what
several tasks side by side leave, is true. -/
def continueChain : List Bool → Bool
  | [] => true
  | [b] => b
  | _ :: _ :: _ => true

namespace Job

/-- The job ends with a result. -/
def finish (j : Job) (b : Bool) : Job := { j with status := .returned b }

/-- The job ends without a result. -/
def abort (j : Job) : Job := { j with status := .raised }

/-- The function of the job goes on.  `run_in_chain` turns what it raises into the result `False`.
Only `update_tmnt_attributes` can find that there is nothing to do. -/
def runFunction (j : Job) (w : RefreshState) : Progress → Option (Job × RefreshState)
  | .proceed =>
    match j.todo with
    | [] => some (j.finish true, w)
    | t :: ts => some ({ j with todo := ts }, w.record t .replaced)
  | .skip =>
    match j.todo with
    | [] => none
    | t :: ts =>
      if t = tmntFacilityAttribute then some ({ j with todo := ts }, w.record t .unchanged)
      else none
  | .fail => some (j.finish false, w)
  | .failLogged =>
    match j.todo with
    | [] => none
    | t :: ts => some ({ j with todo := ts }.finish false, w.record t .rolledBack)
  | .kill => some (j.abort, w)
  | .drop =>
    if j.task.isSingleton && j.todo = j.task.writes then some (j.abort, w) else none

/-- The job ends, as it should or with its process. -/
def endWith (j j' : Job) (w : RefreshState) : Progress → Option (Job × RefreshState)
  | .proceed => some (j', w)
  | .kill => some (j.abort, w)
  | _ => none

/-- `check_results`. -/
def checkResults (canRaise : Bool) (j : Job) : Job :=
  let succeeded := j.results.all id
  if !succeeded && canRaise then j.abort else j.finish succeeded

/-- A step of a job. -/
def step (j : Job) (c : Progress) (w : RefreshState) : Option (Job × RefreshState) :=
  if j.status = .running then
    match j.task with
    | .runInChain _ =>
      if continueChain j.results then j.runFunction w c else j.endWith j.abort w c
    | .checkResults canRaise => j.endWith (j.checkResults canRaise) w c
  else none

/-- The result of a job that has ended with one. -/
def returned (j : Job) : Option Bool :=
  match j.status with
  | .returned b => some b
  | _ => none

/-- A job that runs a function is delivered again and starts over. -/
def restart (j : Job) : Option Job :=
  match j.status, j.task with
  | .running, .runInChain writes => some { j with todo := writes }
  | _, _ => none

end Job

/-- What happens to a job in the hands of a worker. -/
inductive WorkerEvent where
  /-- It goes on. -/
  | goOn (c : Progress)
  /-- The worker stops, and the broker delivers the job again: `acks_late`. -/
  | redeliver
  deriving Repr, DecidableEq

/-- The jobs of the worker. -/
def backgroundJobs : Jobs Signature Bool Job RefreshState Progress where
  send sig results :=
    ⟨sig.task, if sig.immutable then [] else results, sig.task.writes, .running⟩
  step := Job.step
  returned := Job.returned

/-- The jobs of workers that may stop. -/
def redeliveredJobs : Jobs Signature Bool Job RefreshState WorkerEvent where
  send := backgroundJobs.send
  step j e w := match e with
    | .goOn c => j.step c w
    | .redeliver => j.restart.map fun j' => (j', w)
  returned := Job.returned

/-- Somebody else changes a table and logs it. -/
def editTable (t : Table) (w : RefreshState) : RefreshState :=
  { w with changelog := touch t w.changelog }

/-- The runs of the workflows, among the changes that others make. -/
def workflowMachine : Machine (Proc Signature Job × RefreshState) (Jobs.Action Progress Table) :=
  backgroundJobs.machine editTable

/-- The runs of the workflows on workers that may stop. -/
def redeliveredMachine : Machine (Proc Signature Job × RefreshState)
    (Jobs.Action WorkerEvent Table) :=
  redeliveredJobs.machine editTable

namespace Workflows

open BackgroundTask

/-- Each of these has no dependencies, so they all run in parallel. -/
def deleteAndRefreshTacomaGisTables : Canvas Signature :=
  .seq
    (.group deleteAndRefreshStaticReferenceTables.si
      [deleteAndRefreshTmntFacilityTable.si, deleteAndRefreshTmntFacilityDelineationTable.si,
       deleteAndRefreshSubbasinTable.si])
    (checkResults true).s

/-- The loads follow the boundaries. -/
def chainLguTables : Canvas Signature :=
  .chain deleteAndRefreshLguBoundaryTable.s [deleteAndRefreshLguLoadTable.s]

/-- `_group1` -/
def group1 : Canvas Signature := deleteAndRefreshTacomaGisTables

/-- Dependent on group 1 finishing. -/
def group2 : Canvas Signature :=
  .seq (.group updateTmntAttributes.si [chainLguTables]) (checkResults true).s

/-- Dependent on both group 1 and 2. -/
def group3 : Canvas Signature :=
  .seq (.group deleteAndRefreshAllResultsTables.s []) (checkResults true).s

/-- The refresh that is scheduled daily. -/
def refreshAll : Canvas Signature :=
  .seq (.group (.chain group1 [group2, group3]) []) (checkResults false).s

end Workflows

/-- The tables that `refreshAll` replaces. -/
def refreshedTables : List Table :=
  [met, tmntFacility, tmntFacilityDelineation, subbasin, tmntFacilityAttribute, lguBoundary,
   lguLoad] ++ resultWrites

end StormPiper
