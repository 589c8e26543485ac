import StormPiper.Tasks.Refresh
import StormPiper.Run.Machine
import Mathlib.Logic.Function.Basic

/-!
# What the tasks read

Histories of edits and complete refreshes, one at a time.  Every change of a table gives it a new
version; a refresh records, for the table it replaces, the version of every table that its code
reads (views are read as the tables they select from).

* `ChangedSinceRead` : a table that was read for the current content of `t`, directly or through
  other tables, has a new version by now.
* `undeclaredReads` : the reads of the code that `OG` does not declare.
* `not_changedSinceRead` : in every history, a table that is not dirty has no changed reads other
  than undeclared ones.
* `undeclaredReads_changed` : each undeclared read does go unnoticed.
-/

namespace StormPiper

open Relation Recency Table

/-- The tables that a view selects from; every other name is a table. -/
def selectsFrom : Table → List Table
  | tmntV => [tmntFacility, tmntFacilityAttribute, tmntFacilityCost, resultBlob]
  | t => [t]

/-- The tables whose content a task reads. -/
def RefreshTask.tablesRead (task : RefreshTask) : List Table := task.reads.flatMap selectsFrom

/-- The tables with the number of changes of each, the versions that were read for the current
content of each, and the change log. -/
structure Database where
  version : Table → ℕ
  readFor : Table → List (Table × ℕ)
  changelog : List Table

namespace Database

/-- A database in which nothing was logged yet. -/
def init : Database where
  version _ := 0
  readFor _ := []
  changelog := []

/-- A user edits a table, or a task replaces one. -/
inductive Action where
  | edit (tablename : Table)
  | refresh (task : RefreshTask)
  deriving DecidableEq

/-- The table that an action changes. -/
def Action.table : Action → Table
  | edit t => t
  | refresh task => task.table

/-- Change a table and log it. -/
def change (s : Database) (t : Table) (reads : List (Table × ℕ)) : Database where
  version := Function.update s.version t (s.version t + 1)
  readFor := Function.update s.readFor t reads
  changelog := touch t s.changelog

/-- Edits and complete refreshes, one at a time.  An edit of a table that has a default builder
changes some of its rows, and keeps what was read for the others. -/
def machine : Machine Database Action where
  step s
    | .edit t => if t ∈ derivedTables then none else some (s.change t (s.readFor t))
    | .refresh task =>
      if task ∈ RefreshTask.refreshTasks then
        some (s.change task.table (task.tablesRead.map fun r => (r, s.version r)))
      else none

/-- A table that was read for the current content of a table, directly or through other tables, has
changed since.  Only reads of `r` for `t` with `counted t r` count. -/
inductive ChangedSinceRead (counted : Table → Table → Prop) (s : Database) : Table → Prop
  | direct {t r : Table} {n : ℕ} : (r, n) ∈ s.readFor t → counted t r → s.version r ≠ n →
      ChangedSinceRead counted s t
  | through {t r : Table} {n : ℕ} : (r, n) ∈ s.readFor t → counted t r →
      ChangedSinceRead counted s r → ChangedSinceRead counted s t

end Database

/-- The reads that `OG` does not declare, each as the table that is computed and the table that is
read.  The facility costs and the previous results are read as columns of the view `tmnt_v`; the
facility attributes and the source controls are tables of user data, with default builders. -/
def undeclaredReads : List (Table × Table) :=
  [(lguBoundary, tmntFacility),
   (graphEdge, tmntFacilityCost), (graphEdge, resultBlob),
   (resultBlob, tmntFacilityCost), (resultBlob, resultBlob),
   (tmntFacilityAttribute, tmntFacility), (tmntFacilityAttribute, tmntFacilityAttribute),
   (tmntFacilityAttribute, subbasin), (tmntSourceControl, subbasin)]

/-- The dependency graph declares a read of `r` for `t`. -/
def Declared (t r : Table) : Prop := (t, r) ∉ undeclaredReads

instance (t r : Table) : Decidable (Declared t r) := inferInstanceAs (Decidable (_ ∉ _))

/-- Apart from the listed ones, every table that a task reads is an ancestor of the table that it
replaces. -/
theorem transGen_of_declared {task : RefreshTask} (htask : task ∈ RefreshTask.refreshTasks)
    {r : Table} (hr : r ∈ task.tablesRead) (hdecl : Declared task.table r) :
    TransGen OG.Adj r task.table := by
  have hall : ∀ task ∈ RefreshTask.refreshTasks, ∀ r ∈ task.tablesRead,
      Declared task.table r → r ∈ ancestors OG task.table := by decide +kernel
  exact mem_ancestors_OG.1 (hall task htask r hr hdecl)

theorem mem_derivedTables_of_declared {task : RefreshTask}
    (htask : task ∈ RefreshTask.refreshTasks) {r : Table} (hr : r ∈ task.tablesRead)
    (hdecl : Declared task.table r) : task.table ∈ derivedTables := by
  have hall : ∀ task ∈ RefreshTask.refreshTasks, ∀ r ∈ task.tablesRead,
      Declared task.table r → task.table ∈ derivedTables := by decide +kernel
  exact hall task htask r hr hdecl

namespace Database

/-- Every read is one of a task's, and a declared read of a table that has changed since shows in
the change log. -/
def ReadsLogged (s : Database) : Prop :=
  ∀ t r n, (r, n) ∈ s.readFor t →
    (∃ task ∈ RefreshTask.refreshTasks, task.table = t ∧ r ∈ task.tablesRead) ∧
    (Declared t r → t ∈ s.changelog ∧ (s.version r = n ∨ Before s.changelog t r))

theorem readsLogged_init : ReadsLogged init := by
  intro t r n h
  simp [init] at h

/-- A change of another table keeps a read logged. -/
theorem version_or_before_change {s : Database} {a t r : Table} {n : ℕ}
    {reads : List (Table × ℕ)} (hta : t ≠ a) (ht : t ∈ s.changelog)
    (h : s.version r = n ∨ Before s.changelog t r) :
    (s.change a reads).version r = n ∨ Before (s.change a reads).changelog t r := by
  by_cases hra : r = a
  · subst hra
    exact .inr (before_touch_self ht hta)
  · rcases h with h | h
    · exact .inl (by simpa [change, Function.update_of_ne hra] using h)
    · exact .inr ((before_touch_of_ne hta hra).2 h)

theorem readsLogged_step {s s' : Database} {a : Action} (h : ReadsLogged s)
    (hstep : machine.step s a = some s') : ReadsLogged s' := by
  -- the reads of the tables that are not changed
  have hother : ∀ reads t r n, t ≠ a.table → (r, n) ∈ (s.change a.table reads).readFor t →
      (∃ task ∈ RefreshTask.refreshTasks, task.table = t ∧ r ∈ task.tablesRead) ∧
      (Declared t r → t ∈ (s.change a.table reads).changelog ∧
        ((s.change a.table reads).version r = n ∨
          Before (s.change a.table reads).changelog t r)) := by
    intro reads t r n hta hrn
    obtain ⟨htask, hlog⟩ := h t r n (by simpa [change, Function.update_of_ne hta] using hrn)
    refine ⟨htask, fun hdecl => ?_⟩
    obtain ⟨ht, hver⟩ := hlog hdecl
    exact ⟨mem_touch.2 (.inl ht), version_or_before_change hta ht hver⟩
  cases a with
  | edit e =>
    simp only [machine, Option.ite_none_left_eq_some, Option.some.injEq] at hstep
    obtain ⟨he, rfl⟩ := hstep
    intro t r n hrn
    by_cases hte : t = e
    · -- an edited table has no declared reads
      subst hte
      obtain ⟨⟨task, htask, rfl, hr⟩, -⟩ := h t r n (by simpa [change] using hrn)
      exact ⟨⟨task, htask, rfl, hr⟩,
        fun hdecl => absurd (mem_derivedTables_of_declared htask hr hdecl) he⟩
    · exact hother _ t r n hte hrn
  | refresh task =>
    simp only [machine, Option.ite_none_right_eq_some, Option.some.injEq] at hstep
    obtain ⟨htask, rfl⟩ := hstep
    intro t r n hrn
    by_cases htt : t = task.table
    · subst htt
      obtain ⟨hr, rfl⟩ : r ∈ task.tablesRead ∧ s.version r = n := by
        simpa [change] using hrn
      refine ⟨⟨task, htask, rfl, hr⟩, fun hdecl => ⟨by simp [change], .inl ?_⟩⟩
      -- no task declares a read of its own table
      have hne : r ≠ task.table := by
        rintro rfl
        exact acyclic_OG _ (transGen_of_declared htask hr hdecl)
      simp [change, Function.update_of_ne hne]
    · exact hother _ t r n htt hrn

theorem readsLogged_run {s : Database} {as : List Action} (hrun : machine.run init as = some s) :
    ReadsLogged s :=
  Machine.invariant readsLogged_init (fun _ _ _ h hstep => readsLogged_step h hstep) hrun

/-- A changed declared read shows as a change log that is out of order. -/
theorem outOfOrder_of_changedSinceRead {s : Database} (h : ReadsLogged s) {t : Table}
    (ht : ChangedSinceRead Declared s t) : OutOfOrder OG s.changelog t := by
  induction ht with
  | direct hrn hdecl hne =>
    obtain ⟨⟨task, htask, rfl, hr⟩, hlog⟩ := h _ _ _ hrn
    exact ⟨_, _, .refl, transGen_of_declared htask hr hdecl, (hlog hdecl).2.resolve_left hne⟩
  | through hrn hdecl _ ih =>
    obtain ⟨⟨task, htask, rfl, hr⟩, -⟩ := h _ _ _ hrn
    obtain ⟨u, v, hv, huv, hbefore⟩ := ih
    exact ⟨u, v, hv.trans (transGen_of_declared htask hr hdecl).to_reflTransGen, huv, hbefore⟩

/-- **The dependency graph covers what the tasks read.**  In every history of edits and complete
refreshes, no table that was read for the current content of a table which is logged and not dirty,
directly or through other tables, has changed since it was read, apart from the undeclared reads. -/
theorem not_changedSinceRead {s : Database} (as : List Action)
    (hrun : machine.run init as = some s) {t : Table} (ht : t ∈ s.changelog)
    (hclean : isDirty OG t s.changelog = .ok false) : ¬ ChangedSinceRead Declared s t := by
  intro hchanged
  have hnode : t ∈ OG.nodes := by
    obtain ⟨u, v, hv, huv, -⟩ := outOfOrder_of_changedSinceRead (readsLogged_run hrun) hchanged
    exact DiGraph.transGen_right_mem (.trans_left huv hv)
  exact (isDirty_eq_false_iff acyclic_OG ht hnode).1 hclean
    (outOfOrder_of_changedSinceRead (readsLogged_run hrun) hchanged)

/-- A facility edit after the land surface was overlaid and its loads were computed: the loads are
not dirty, and none of their declared reads has changed. -/
theorem not_changedSinceRead_lguLoad :
    ∃ s, machine.run init [.edit subbasin, .refresh .deleteAndRefreshLguBoundaryTable,
        .refresh .deleteAndRefreshLguLoadTable, .edit tmntFacility] = some s ∧
      ¬ ChangedSinceRead Declared s lguLoad :=
  ⟨_, rfl, not_changedSinceRead [.edit subbasin, .refresh .deleteAndRefreshLguBoundaryTable,
    .refresh .deleteAndRefreshLguLoadTable, .edit tmntFacility] rfl (by decide)
    (by decide +kernel)⟩

/-- Refresh the table that makes an undeclared read, then change the table that it read. -/
def changeAfterRead (p : Table × Table) : List Action :=
  let refreshes t := (RefreshTask.refreshTasks.filter (·.table = t)).map Action.refresh
  refreshes p.1 ++ if p.2 ∈ derivedTables then refreshes p.2 else [.edit p.2]

/-- **Undeclared reads go unnoticed.**  Whichever of the listed reads changes, the table that was
computed from it is not dirty. -/
theorem undeclaredReads_changed : undeclaredReads.Forall fun p =>
    ∃ s, machine.run init (changeAfterRead p) = some s ∧
      p.1 ∈ s.changelog ∧ isDirty OG p.1 s.changelog = .ok false ∧
      ChangedSinceRead (fun t r => (t, r) = p) s p.1 := by
  have hall : ∀ p ∈ undeclaredReads, ∃ s ∈ machine.run init (changeAfterRead p),
      p.1 ∈ s.changelog ∧ isDirty OG p.1 s.changelog = .ok false ∧
      ∃ x ∈ s.readFor p.1, x.1 = p.2 ∧ s.version x.1 ≠ x.2 := by decide +kernel
  refine List.forall_iff_forall_mem.2 fun p hp => ?_
  obtain ⟨s, hs, hlog, hclean, ⟨r, n⟩, hrn, rfl, hne⟩ := hall p hp
  exact ⟨s, hs, hlog, hclean, .direct hrn rfl hne⟩

end Database

end StormPiper
