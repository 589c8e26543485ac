import StormPiper.Tasks.Refresh
import StormPiper.Run.Machine
import Mathlib.Logic.Function.Basic

/-!
# Interleaved edits and refreshes

A refresh reads the tables that the graph declares, computes, and then makes two commits: one of
the new content and one of its row in the change log (`_delete_and_replace_db` opens a second
session for the change log, so this commit is the earlier one).  An edit also makes two commits
(`CRUDBase.update` commits the content first).  Here the two commits of a task come in either
order, and any number of edits and refreshes interleave.

* `Pipeline.machine` : the steps of all tasks.
* `Pipeline.Orderly` : no commit to the change log falls between the read and the last commit of a
  refresh that reads this table, no refresh reads a table that is logged ahead of its content, and
  no task ends between its two commits.
* `Pipeline.current_of_not_dirty` : in every orderly run a clean table is computed from the current
  contents of all its dependencies.
* `edit_during_refresh` : an edit that commits while a refresh computes is lost behind the flag.
-/

namespace StormPiper

open Relation Recency

/-! ### Lists with one entry replaced -/

section Entries

variable {β : Type} {xs : List β} {x y : β} {k : ℕ}

theorem mem_set_of_ne (hk : xs[k]? = some y) (z : β) (hx : x ∈ xs) (hne : x ≠ y) :
    x ∈ xs.set k z := by
  obtain ⟨i, hi⟩ := List.mem_iff_getElem?.1 hx
  have hik : k ≠ i := by
    rintro rfl
    exact hne (Option.some.inj (hi.symm.trans hk))
  exact List.mem_iff_getElem?.2 ⟨i, by rw [List.getElem?_set_ne hik, hi]⟩

theorem mem_set_self (hk : xs[k]? = some y) (z : β) : z ∈ xs.set k z := by
  obtain ⟨hlt, -⟩ := List.getElem?_eq_some_iff.1 hk
  exact List.mem_iff_getElem?.2 ⟨k, by simp [hlt]⟩

theorem mem_eraseIdx_of_ne (hk : xs[k]? = some y) (hx : x ∈ xs) (hne : x ≠ y) :
    x ∈ xs.eraseIdx k := by
  obtain ⟨i, hi⟩ := List.mem_iff_getElem?.1 hx
  refine List.mem_eraseIdx_iff_getElem?.2 ⟨i, ?_, hi⟩
  rintro rfl
  exact hne (Option.some.inj (hi.symm.trans hk))

end Entries

/-- A change of one table that some request or worker is making. -/
structure Task (α C : Type) where
  table : α
  /-- The content that it writes. -/
  content : C
  /-- The content is committed. -/
  wrote : Bool
  /-- The row in the change log is committed. -/
  logged : Bool
  deriving DecidableEq

/-- The commits that the task still has to make. -/
def Task.InFlight {α C : Type} (task : Task α C) : Prop :=
  task.wrote = false ∨ task.logged = false

instance {α C : Type} (task : Task α C) : Decidable task.InFlight :=
  inferInstanceAs (Decidable (_ ∨ _))

/-- The tables, the change log and the tasks that were started. -/
structure TaskState (α C : Type) where
  content : α → C
  changelog : List α
  tasks : List (Task α C)

/-- A step of some task. -/
inductive TaskAction (α C : Type) where
  /-- A user or a service submits new content for a table. -/
  | edit (t : α) (c : C)
  /-- A refresh of a table starts: it reads and computes. -/
  | refresh (t : α)
  /-- The task with a number commits its content. -/
  | write (k : ℕ)
  /-- The task with a number commits its row in the change log. -/
  | log (k : ℕ)
  /-- The task with a number ends without another commit. -/
  | stop (k : ℕ)
  deriving DecidableEq

/-- A dependency graph with the tables that are computed from their predecessors. -/
structure Pipeline (α C : Type) [DecidableEq α] where
  graph : DiGraph α
  derived : List α
  /-- The content of a derived table, from the contents of its predecessors. -/
  compute : α → List C → C
  acyclic : Acyclic graph.Adj
  derived_mem : ∀ t ∈ derived, t ∈ graph.nodes
  /-- What a derived table depends on is derived, or depends on nothing. -/
  derived_closed : ∀ t ∈ derived, ∀ p ∈ graph.preds t, p ∈ derived ∨ graph.preds p = []

namespace Pipeline

variable {α C : Type} [DecidableEq α] (P : Pipeline α C)

/-- The content that a refresh of `t` computes. -/
def computed (t : α) (content : α → C) : C := P.compute t ((P.graph.preds t).map content)

/-- The steps of all tasks. -/
def machine : Machine (TaskState α C) (TaskAction α C) where
  step s
    | .edit t c =>
      if t ∈ P.derived then none else some { s with tasks := s.tasks ++ [⟨t, c, false, false⟩] }
    | .refresh t =>
      if t ∈ P.derived then
        some { s with tasks := s.tasks ++ [⟨t, P.computed t s.content, false, false⟩] }
      else none
    | .write k => do
      let task ← s.tasks[k]?
      if task.wrote then none
      else some { s with
        content := Function.update s.content task.table task.content
        tasks := s.tasks.set k { task with wrote := true } }
    | .log k => do
      let task ← s.tasks[k]?
      if task.logged then none
      else some { s with
        changelog := touch task.table s.changelog
        tasks := s.tasks.set k { task with logged := true } }
    | .stop k => do
      let _ ← s.tasks[k]?
      some { s with tasks := s.tasks.eraseIdx k }

/-- Nothing was logged and no task was started. -/
def init (content : α → C) : TaskState α C := ⟨content, [], []⟩

/-- The steps after which the dirty check can be trusted. -/
def Orderly (s : TaskState α C) : TaskAction α C → Prop
  | .edit _ _ => True
  | .refresh t =>
    (∀ p ∈ P.graph.preds t, p ∈ P.derived → p ∈ s.changelog) ∧
    ∀ task ∈ s.tasks, task.table ∈ P.graph.preds t → task.logged → task.wrote
  | .write _ => True
  | .log k =>
    ∀ task ∈ s.tasks[k]?, ∀ other ∈ s.tasks, other.table ∈ P.derived →
      task.table ∈ P.graph.preds other.table → ¬ other.InFlight
  | .stop k => ∀ task ∈ s.tasks[k]?, task.wrote = task.logged

instance (s : TaskState α C) (a : TaskAction α C) : Decidable (P.Orderly s a) := by
  cases a <;> unfold Orderly <;> infer_instance

/-- No task on `t` or on an ancestor is between its two commits. -/
def Settled (s : TaskState α C) (t : α) : Prop :=
  ∀ task ∈ s.tasks, ReflTransGen P.graph.Adj task.table t → task.wrote = task.logged

/-- The derived tables from `t` backwards are computed from the current contents of their
predecessors. -/
def Current (s : TaskState α C) (t : α) : Prop :=
  ∀ v ∈ P.derived, ReflTransGen P.graph.Adj v t → s.content v = P.computed v s.content

/-! ### Tables with a task between its commits -/

/-- A task on the table has committed its content, but not its row in the change log. -/
def Pending (s : TaskState α C) (t : α) : Prop :=
  ∃ task ∈ s.tasks, task.table = t ∧ task.wrote = true ∧ task.logged = false

/-- A task on the table has committed its row in the change log, but not its content. -/
def Announced (s : TaskState α C) (t : α) : Prop :=
  ∃ task ∈ s.tasks, task.table = t ∧ task.wrote = false ∧ task.logged = true

/-- The content is the computed one, or a predecessor has a change that is not logged yet. -/
def UpToDate (s : TaskState α C) (t : α) (c : C) : Prop :=
  c = P.computed t s.content ∨ ∃ p ∈ P.graph.preds t, Pending s p

/-- What every orderly run maintains. -/
structure Inv (s : TaskState α C) : Prop where
  preds_logged : ∀ v ∈ P.derived, v ∈ s.changelog →
    ∀ p ∈ P.graph.preds v, p ∈ P.derived → p ∈ s.changelog
  task_preds_logged : ∀ task ∈ s.tasks, task.table ∈ P.derived →
    ∀ p ∈ P.graph.preds task.table, p ∈ P.derived → p ∈ s.changelog
  /-- No refresh is in flight behind a table that is logged ahead of its content. -/
  not_inFlight : ∀ p, Announced s p → ∀ task ∈ s.tasks, task.table ∈ P.derived →
    p ∈ P.graph.preds task.table → ¬ task.InFlight
  /-- A table logged ahead of its content is newer than its logged successors. -/
  before_announced : ∀ p, Announced s p → ∀ v ∈ P.derived, p ∈ P.graph.preds v →
    v ∈ s.changelog → Before s.changelog v p
  task_upToDate : ∀ task ∈ s.tasks, task.table ∈ P.derived → task.InFlight →
    P.UpToDate s task.table task.content
  pending_upToDate : ∀ v ∈ P.derived, Pending s v → P.UpToDate s v (s.content v)
  /-- A logged table is up to date, older than a predecessor, or about to be written. -/
  upToDate : ∀ v ∈ P.derived, v ∈ s.changelog → P.UpToDate s v (s.content v) ∨
    (∃ p ∈ P.graph.preds v, Before s.changelog v p) ∨ Announced s v

variable {P} {s s' : TaskState α C}

theorem inv_init (content : α → C) : P.Inv (init content) := by
  constructor <;> simp [init, Announced, Pending]

theorem notMem_preds_self (t : α) : t ∉ P.graph.preds t :=
  fun h => P.acyclic t (.single (DiGraph.mem_preds.1 h))

theorem computed_update {t a : α} {content : α → C} {c : C} (h : a ∉ P.graph.preds t) :
    P.computed t (Function.update content a c) = P.computed t content := by
  unfold computed
  congr 1
  refine List.map_congr_left fun p hp => Function.update_of_ne ?_ _ _
  rintro rfl
  exact h hp

/-! ### The steps -/

/-- A started task makes no commit. -/
theorem inv_start {task : Task α C} (h : P.Inv s) (hw : task.wrote = false)
    (hl : task.logged = false)
    (hrefresh : task.table ∈ P.derived →
      (∀ p ∈ P.graph.preds task.table, p ∈ P.derived → p ∈ s.changelog) ∧
      (∀ p ∈ P.graph.preds task.table, ¬ Announced s p) ∧
      task.content = P.computed task.table s.content) :
    P.Inv { s with tasks := s.tasks ++ [task] } := by
  have hpending : ∀ t, Pending { s with tasks := s.tasks ++ [task] } t ↔ Pending s t := by
    simp [Pending, hw, or_and_right, exists_or]
  have hannounced : ∀ t, Announced { s with tasks := s.tasks ++ [task] } t ↔ Announced s t := by
    simp [Announced, hl, or_and_right, exists_or]
  have hup : ∀ t c, P.UpToDate { s with tasks := s.tasks ++ [task] } t c ↔ P.UpToDate s t c := by
    simp [UpToDate, hpending]
  have hmem : ∀ x ∈ s.tasks ++ [task], x ∈ s.tasks ∨ x = task := by simp
  constructor
  · exact h.preds_logged
  · intro x hx hd
    rcases hmem x hx with hx | rfl
    · exact h.task_preds_logged x hx hd
    · exact (hrefresh hd).1
  · intro p hp x hx hd hpx
    rw [hannounced] at hp
    rcases hmem x hx with hx | rfl
    · exact h.not_inFlight p hp x hx hd hpx
    · exact absurd hp ((hrefresh hd).2.1 p hpx)
  · intro p hp
    exact h.before_announced p ((hannounced p).1 hp)
  · intro x hx hd hflight
    rw [hup]
    rcases hmem x hx with hx | rfl
    · exact h.task_upToDate x hx hd hflight
    · exact .inl (hrefresh hd).2.2
  · intro v hd hv
    rw [hup]
    exact h.pending_upToDate v hd ((hpending v).1 hv)
  · intro v hd hv
    rw [hup, hannounced]
    exact h.upToDate v hd hv

section Commit

variable {k : ℕ} {task : Task α C}

omit [DecidableEq α] in
theorem exists_inFlight_of_mem_set {tasks : List (Task α C)} {task' x : Task α C}
    (hk : tasks[k]? = some task) (hx : x ∈ tasks.set k task') (htable : task'.table = task.table)
    (hcontent : task'.content = task.content) (hflight : task.InFlight) (hxf : x.InFlight) :
    ∃ y ∈ tasks, y.table = x.table ∧ y.content = x.content ∧ y.InFlight := by
  rcases List.mem_or_eq_of_mem_set hx with hx | rfl
  · exact ⟨x, hx, rfl, rfl, hxf⟩
  · exact ⟨task, List.mem_of_getElem? hk, htable.symm, hcontent.symm, hflight⟩

/-- The content of a table is committed. -/
theorem inv_write (h : P.Inv s) (hk : s.tasks[k]? = some task) (hw : task.wrote = false) :
    P.Inv { s with
      content := Function.update s.content task.table task.content
      tasks := s.tasks.set k { task with wrote := true } } := by
  set s' : TaskState α C := { s with
    content := Function.update s.content task.table task.content
    tasks := s.tasks.set k { task with wrote := true } } with hs'
  have hmem : ∀ x ∈ s'.tasks, x = { task with wrote := true } ∨ x ∈ s.tasks := fun x hx =>
    (List.mem_or_eq_of_mem_set hx).symm
  have htask : task ∈ s.tasks := List.mem_of_getElem? hk
  have hpending : ∀ t, Pending s t → Pending s' t := by
    rintro t ⟨x, hx, hxt, hxw, hxl⟩
    exact ⟨x, mem_set_of_ne hk _ hx (by rintro rfl; simp [hw] at hxw), hxt, hxw, hxl⟩
  have hannounced : ∀ t, Announced s' t → Announced s t := by
    rintro t ⟨x, hx, hxt, hxw, hxl⟩
    rcases hmem x hx with rfl | hx
    · simp at hxw
    · exact ⟨x, hx, hxt, hxw, hxl⟩
  -- a table is up to date as before, unless it reads the written table
  have hup : ∀ t c, P.UpToDate s t c → task.table ∉ P.graph.preds t → P.UpToDate s' t c := by
    rintro t c (hc | ⟨p, hp, hpend⟩) hnot
    · exact .inl (hc.trans (computed_update hnot).symm)
    · exact .inr ⟨p, hp, hpending p hpend⟩
  -- the written table is not logged yet, and its successors wait for that, or it is
  have hsucc : ∀ t c, task.table ∈ P.graph.preds t → task.logged = false → P.UpToDate s' t c := by
    intro t c ht hl
    exact .inr ⟨task.table, ht, _, mem_set_self hk _, rfl, rfl, hl⟩
  have hahead : task.logged = true → Announced s task.table := fun hl =>
    ⟨task, htask, rfl, hw, hl⟩
  have hself : ∀ v, v = task.table → v ∈ P.derived → P.UpToDate s' v (s'.content v) := by
    rintro v rfl hd
    have hc : s'.content task.table = task.content := Function.update_self ..
    rw [hc]
    exact hup _ _ (h.task_upToDate task htask hd (.inl hw)) (notMem_preds_self _)
  have hcontent : ∀ v, v ≠ task.table → s'.content v = s.content v := fun v hv =>
    Function.update_of_ne hv _ _
  constructor
  · exact h.preds_logged
  · intro x hx hd
    rcases hmem x hx with rfl | hx
    · exact h.task_preds_logged task htask hd
    · exact h.task_preds_logged x hx hd
  · intro p hp x hx hd hpx
    rcases hmem x hx with rfl | hx
    · exact fun hx => h.not_inFlight p (hannounced p hp) task htask hd hpx (.inl hw)
    · exact h.not_inFlight p (hannounced p hp) x hx hd hpx
  · intro p hp
    exact h.before_announced p (hannounced p hp)
  · intro x hx hd hflight
    obtain ⟨y, hy, hyt, hyc, hyf⟩ :=
      exists_inFlight_of_mem_set hk hx rfl rfl (.inl hw) hflight
    rw [← hyt] at hd ⊢
    rw [← hyc]
    by_cases hread : task.table ∈ P.graph.preds y.table
    · cases hl : task.logged with
      | false => exact hsucc _ _ hread hl
      | true => exact absurd hyf (h.not_inFlight _ (hahead hl) y hy hd hread)
    · exact hup _ _ (h.task_upToDate y hy hd hyf) hread
  · intro v hd hv
    by_cases hvt : v = task.table
    · exact hself v hvt hd
    · have hold : Pending s v := by
        obtain ⟨x, hx, hxt, hxw, hxl⟩ := hv
        rcases hmem x hx with rfl | hx
        · exact absurd hxt.symm hvt
        · exact ⟨x, hx, hxt, hxw, hxl⟩
      rw [hcontent v hvt]
      by_cases hread : task.table ∈ P.graph.preds v
      · cases hl : task.logged with
        | false => exact hsucc _ _ hread hl
        | true =>
          obtain ⟨x, hx, rfl, -, hxl⟩ := hold
          exact absurd (.inr hxl) (h.not_inFlight _ (hahead hl) x hx hd hread)
      · exact hup _ _ (h.pending_upToDate v hd hold) hread
  · intro v hd hv
    by_cases hvt : v = task.table
    · exact .inl (hself v hvt hd)
    · rw [hcontent v hvt]
      by_cases hread : task.table ∈ P.graph.preds v
      · cases hl : task.logged with
        | false => exact .inl (hsucc _ _ hread hl)
        | true => exact .inr (.inl ⟨_, hread, h.before_announced _ (hahead hl) v hd hread hv⟩)
      · rcases h.upToDate v hd hv with hu | hb | ⟨x, hx, hxt, hxw, hxl⟩
        · exact .inl (hup _ _ hu hread)
        · exact .inr (.inl hb)
        · exact .inr (.inr ⟨x, mem_set_of_ne hk _ hx (by rintro rfl; exact hvt hxt.symm),
            hxt, hxw, hxl⟩)

/-- The row of a table in the change log is committed, while no refresh that reads the table is in
flight. -/
theorem inv_log (h : P.Inv s) (hk : s.tasks[k]? = some task) (hl : task.logged = false)
    (hidle : ∀ other ∈ s.tasks, other.table ∈ P.derived →
      task.table ∈ P.graph.preds other.table → ¬ other.InFlight) :
    P.Inv { s with
      changelog := touch task.table s.changelog
      tasks := s.tasks.set k { task with logged := true } } := by
  set s' : TaskState α C := { s with
    changelog := touch task.table s.changelog
    tasks := s.tasks.set k { task with logged := true } } with hs'
  have hmem : ∀ x ∈ s'.tasks, x = { task with logged := true } ∨ x ∈ s.tasks := fun x hx =>
    (List.mem_or_eq_of_mem_set hx).symm
  have htask : task ∈ s.tasks := List.mem_of_getElem? hk
  have hlog : ∀ t ∈ s.changelog, t ∈ s'.changelog := fun t ht => mem_touch.2 (.inl ht)
  have hpending : ∀ t, Pending s' t → Pending s t := by
    rintro t ⟨x, hx, hxt, hxw, hxl⟩
    rcases hmem x hx with rfl | hx
    · simp at hxl
    · exact ⟨x, hx, hxt, hxw, hxl⟩
  have hannounced : ∀ t, Announced s t → Announced s' t := by
    rintro t ⟨x, hx, hxt, hxw, hxl⟩
    exact ⟨x, mem_set_of_ne hk _ hx (by rintro rfl; simp [hl] at hxl), hxt, hxw, hxl⟩
  have hannounced' : ∀ t, Announced s' t → Announced s t ∨ t = task.table := by
    rintro t ⟨x, hx, rfl, hxw, hxl⟩
    rcases hmem x hx with rfl | hx
    · exact .inr rfl
    · exact .inl ⟨x, hx, rfl, hxw, hxl⟩
  -- a table is up to date as before, unless it reads the logged table
  have hup : ∀ t c, P.UpToDate s t c → task.table ∉ P.graph.preds t → P.UpToDate s' t c := by
    rintro t c (hc | ⟨p, hp, x, hx, rfl, hxw, hxl⟩) hnot
    · exact .inl hc
    · exact .inr ⟨_, hp, x, mem_set_of_ne hk _ hx (by rintro rfl; exact hnot hp), rfl, hxw, hxl⟩
  -- what is logged and reads the table is now older
  have hbefore : ∀ v ∈ s.changelog, task.table ∈ P.graph.preds v →
      Before s'.changelog v task.table := by
    intro v hv hread
    exact before_touch_self hv (by rintro rfl; exact notMem_preds_self _ hread)
  have hderived : ∀ v ∈ P.derived, v ∈ s'.changelog → v = task.table ∨ v ∈ s.changelog :=
    fun v _ hv => (mem_touch.1 hv).symm
  have hback : ∀ x ∈ s'.tasks, x.InFlight → ∃ y ∈ s.tasks, y.table = x.table ∧
      y.content = x.content ∧ y.InFlight :=
    fun x hx => exists_inFlight_of_mem_set hk hx rfl rfl (.inr hl)
  constructor
  · intro v hd hv p hp hpd
    rcases hderived v hd hv with rfl | hv
    · exact hlog p (h.task_preds_logged task htask hd p hp hpd)
    · exact hlog p (h.preds_logged v hd hv p hp hpd)
  · intro x hx hd p hp hpd
    rcases hmem x hx with rfl | hx
    · exact hlog p (h.task_preds_logged task htask hd p hp hpd)
    · exact hlog p (h.task_preds_logged x hx hd p hp hpd)
  · intro p hp x hx hd hpx hflight
    obtain ⟨y, hy, hyt, -, hyf⟩ := hback x hx hflight
    rw [← hyt] at hd hpx
    rcases hannounced' p hp with hp | rfl
    · exact h.not_inFlight p hp y hy hd hpx hyf
    · exact hidle y hy hd hpx hyf
  · intro p hp v hd hpv hv
    by_cases hpt : p = task.table
    · subst hpt
      refine hbefore v ((hderived v hd hv).resolve_left ?_) hpv
      rintro rfl
      exact notMem_preds_self _ hpv
    · have hp : Announced s p := (hannounced' p hp).resolve_right hpt
      rcases hderived v hd hv with rfl | hvl
      · exact absurd (.inr hl) (h.not_inFlight p hp task htask hd hpv)
      · have hb := h.before_announced p hp v hd hpv hvl
        by_cases hvt : v = task.table
        · subst hvt
          exact absurd (.inr hl) (h.not_inFlight p hp task htask hd hpv)
        · exact (before_touch_of_ne hvt hpt).2 hb
  · intro x hx hd hflight
    obtain ⟨y, hy, hyt, hyc, hyf⟩ := hback x hx hflight
    rw [← hyt] at hd ⊢
    rw [← hyc]
    exact hup _ _ (h.task_upToDate y hy hd hyf) fun hread => hidle y hy hd hread hyf
  · intro v hd hv
    obtain ⟨x, hx, rfl, -, hxl⟩ := hpending v hv
    exact hup _ _ (h.pending_upToDate _ hd (hpending _ hv)) fun hread =>
      hidle x hx hd hread (.inr hxl)
  · intro v hd hv
    by_cases hvt : v = task.table
    · subst hvt
      cases hw : task.wrote with
      | true =>
        have hpend : Pending s task.table := ⟨task, htask, rfl, hw, hl⟩
        exact .inl (hup _ _ (h.pending_upToDate _ hd hpend) (notMem_preds_self _))
      | false => exact .inr (.inr ⟨_, mem_set_self hk _, rfl, hw, rfl⟩)
    · have hvl : v ∈ s.changelog := (hderived v hd hv).resolve_left hvt
      by_cases hread : task.table ∈ P.graph.preds v
      · exact .inr (.inl ⟨_, hread, hbefore v hvl hread⟩)
      · rcases h.upToDate v hd hvl with hu | ⟨p, hp, hb⟩ | ha
        · exact .inl (hup _ _ hu hread)
        · refine .inr (.inl ⟨p, hp, (before_touch_of_ne hvt ?_).2 hb⟩)
          rintro rfl
          exact hread hp
        · exact .inr (.inr (hannounced v ha))

/-- A task ends that has made both its commits or none. -/
theorem inv_stop (h : P.Inv s) (hk : s.tasks[k]? = some task) (heq : task.wrote = task.logged) :
    P.Inv { s with tasks := s.tasks.eraseIdx k } := by
  set s' : TaskState α C := { s with tasks := s.tasks.eraseIdx k } with hs'
  have hmem : ∀ x ∈ s'.tasks, x ∈ s.tasks := fun x => List.mem_of_mem_eraseIdx
  have hkeep : ∀ x ∈ s.tasks, x.wrote ≠ x.logged → x ∈ s'.tasks := fun x hx hne =>
    mem_eraseIdx_of_ne hk hx (by rintro rfl; exact hne heq)
  have hpending : ∀ t, Pending s' t ↔ Pending s t := by
    refine fun t => ⟨?_, ?_⟩
    · rintro ⟨x, hx, hxt⟩
      exact ⟨x, hmem x hx, hxt⟩
    · rintro ⟨x, hx, hxt, hxw, hxl⟩
      exact ⟨x, hkeep x hx (by simp [hxw, hxl]), hxt, hxw, hxl⟩
  have hannounced : ∀ t, Announced s' t ↔ Announced s t := by
    refine fun t => ⟨?_, ?_⟩
    · rintro ⟨x, hx, hxt⟩
      exact ⟨x, hmem x hx, hxt⟩
    · rintro ⟨x, hx, hxt, hxw, hxl⟩
      exact ⟨x, hkeep x hx (by simp [hxw, hxl]), hxt, hxw, hxl⟩
  have hup : ∀ t c, P.UpToDate s' t c ↔ P.UpToDate s t c := by
    refine fun t c => or_congr_right ?_
    simp only [hpending]
  constructor
  · exact h.preds_logged
  · exact fun x hx => h.task_preds_logged x (hmem x hx)
  · exact fun p hp x hx => h.not_inFlight p ((hannounced p).1 hp) x (hmem x hx)
  · exact fun p hp => h.before_announced p ((hannounced p).1 hp)
  · intro x hx hd hflight
    exact (hup _ _).2 (h.task_upToDate x (hmem x hx) hd hflight)
  · intro v hd hv
    exact (hup _ _).2 (h.pending_upToDate v hd ((hpending v).1 hv))
  · intro v hd hv
    rw [hup, hannounced]
    exact h.upToDate v hd hv

end Commit

/-- Every orderly step keeps the invariant. -/
theorem inv_step {a : TaskAction α C} (h : P.Inv s) (hok : P.Orderly s a)
    (hstep : P.machine.step s a = some s') : P.Inv s' := by
  cases a with
  | edit t c =>
    simp only [machine, Option.ite_none_left_eq_some, Option.some.injEq] at hstep
    obtain ⟨ht, rfl⟩ := hstep
    exact inv_start h rfl rfl fun hd => absurd hd ht
  | refresh t =>
    simp only [machine, Option.ite_none_right_eq_some, Option.some.injEq] at hstep
    obtain ⟨-, rfl⟩ := hstep
    refine inv_start h rfl rfl fun _ => ⟨hok.1, ?_, rfl⟩
    rintro p hp ⟨x, hx, rfl, hxw, hxl⟩
    simpa [hxw] using hok.2 x hx hp hxl
  | write k =>
    simp only [machine, Option.bind_eq_bind, Option.bind_eq_some_iff,
      Option.ite_none_left_eq_some, Option.some.injEq, Bool.not_eq_true] at hstep
    obtain ⟨task, hk, hw, rfl⟩ := hstep
    exact inv_write h hk hw
  | log k =>
    simp only [machine, Option.bind_eq_bind, Option.bind_eq_some_iff,
      Option.ite_none_left_eq_some, Option.some.injEq, Bool.not_eq_true] at hstep
    obtain ⟨task, hk, hl, rfl⟩ := hstep
    exact inv_log h hk hl (hok task hk)
  | stop k =>
    simp only [machine, Option.bind_eq_bind, Option.bind_eq_some_iff, Option.some.injEq] at hstep
    obtain ⟨task, hk, rfl⟩ := hstep
    exact inv_stop h hk (hok task hk)

theorem inv_run {content : α → C} {as : List (TaskAction α C)}
    (hok : P.machine.Guarded P.Orderly (init content) as)
    (hrun : P.machine.run (init content) as = some s) : P.Inv s :=
  Machine.guarded_invariant (inv_init content) (fun _ _ _ h hok hstep => inv_step h hok hstep) hok
    hrun

/-! ### The dirty flag -/

/-- Behind a logged derived table, every table is derived or depends on nothing, and every derived
table is logged. -/
theorem logged_of_reflTransGen (h : P.Inv s) {t v : α} (htd : t ∈ P.derived)
    (ht : t ∈ s.changelog) (hv : ReflTransGen P.graph.Adj v t) :
    (v ∈ P.derived ∨ P.graph.preds v = []) ∧ (v ∈ P.derived → v ∈ s.changelog) := by
  induction hv using ReflTransGen.head_induction_on with
  | refl => exact ⟨.inl htd, fun _ => ht⟩
  | @head v w hvw _ ih =>
    have hmem : v ∈ P.graph.preds w := DiGraph.mem_preds.2 hvw
    have hwd : w ∈ P.derived := ih.1.resolve_right (List.ne_nil_of_mem hmem)
    exact ⟨P.derived_closed w hwd v hmem, fun hvd => h.preds_logged w hwd (ih.2 hwd) v hmem hvd⟩

theorem current_of_inv (h : P.Inv s) {t : α} (htd : t ∈ P.derived) (ht : t ∈ s.changelog)
    (hsettled : P.Settled s t) (hclean : ¬ OutOfOrder P.graph s.changelog t) : P.Current s t := by
  intro v hvd hv
  have hv' : v ∈ s.changelog := (logged_of_reflTransGen h htd ht hv).2 hvd
  have hidle : ∀ p, ReflTransGen P.graph.Adj p t → ¬ Pending s p ∧ ¬ Announced s p := by
    refine fun p hp => ⟨?_, ?_⟩ <;> rintro ⟨x, hx, rfl, hxw, hxl⟩ <;>
      simpa [hxw, hxl] using hsettled x hx hp
  rcases h.upToDate v hvd hv' with (hc | ⟨p, hp, hpend⟩) | ⟨p, hp, hbefore⟩ | ha
  · exact hc
  · exact absurd hpend (hidle p (.head (DiGraph.mem_preds.1 hp) hv)).1
  · exact absurd ⟨p, v, hv, .single (DiGraph.mem_preds.1 hp), hbefore⟩ hclean
  · exact absurd ha (hidle v hv).2

/-- In every orderly run, a logged derived table that is not dirty is computed from the current
contents of all tables that it depends on, once no task is between its two commits on one of
them. -/
theorem current_of_not_dirty {content : α → C} {as : List (TaskAction α C)}
    (hok : P.machine.Guarded P.Orderly (init content) as)
    (hrun : P.machine.run (init content) as = some s) {t : α} (htd : t ∈ P.derived)
    (ht : t ∈ s.changelog) (hsettled : P.Settled s t)
    (hclean : isDirty P.graph t s.changelog = .ok false) : P.Current s t :=
  current_of_inv (inv_run hok hrun) htd ht hsettled
    ((isDirty_eq_false_iff P.acyclic ht (P.derived_mem t htd)).1 hclean)

end Pipeline

/-! ### The tables of the database -/

/-- The dependency graph of the database with the tables that its tasks compute. -/
def databasePipeline {C : Type} (compute : Table → List C → C) : Pipeline Table C where
  graph := OG
  derived := derivedTables
  compute := compute
  acyclic := acyclic_OG
  derived_mem := by decide +kernel
  derived_closed := by decide +kernel

/-- **A clean flag is right after orderly runs.**  However edits and refreshes of the database
interleave, if every step is orderly, then every logged derived table that is not dirty is computed
from the current contents of all tables it depends on, directly or through others, whenever no task
is between its two commits on one of these tables. -/
theorem current_of_clean_flag {C : Type} (compute : Table → List C → C) (content : Table → C)
    (as : List (TaskAction Table C)) {s : TaskState Table C}
    (hok : (databasePipeline compute).machine.Guarded (databasePipeline compute).Orderly
      (Pipeline.init content) as)
    (hrun : (databasePipeline compute).machine.run (Pipeline.init content) as = some s)
    {t : Table} (htd : t ∈ derivedTables) (ht : t ∈ s.changelog)
    (hsettled : (databasePipeline compute).Settled s t)
    (hclean : isDirty OG t s.changelog = .ok false) : (databasePipeline compute).Current s t :=
  Pipeline.current_of_not_dirty hok hrun htd ht hsettled hclean

/-- The database with numbers as contents, where a table is the sum of what it depends on. -/
def examplePipeline : Pipeline Table ℕ := databasePipeline fun _ => List.foldl (· + ·) 0

/-- The land surface, its loads and the upstream load reduction are refreshed one after the other,
and an edit of the source controls commits before the last of them reads. -/
theorem current_of_clean_flag_edit_before :
    ∃ s, examplePipeline.machine.run (Pipeline.init fun _ => 0)
        [.refresh .lguBoundary, .log 0, .write 0, .refresh .lguLoad, .log 1, .write 1,
         .edit .tmntSourceControl 1, .write 2, .log 2,
         .refresh .tmntSourceControlUpstreamLoadReduced, .log 3, .write 3] = some s ∧
      examplePipeline.Current s .tmntSourceControlUpstreamLoadReduced := by
  obtain ⟨s, hs, hsettled, ht, hclean⟩ :
      ∃ s ∈ examplePipeline.machine.run (Pipeline.init fun _ => 0)
        [.refresh .lguBoundary, .log 0, .write 0, .refresh .lguLoad, .log 1, .write 1,
         .edit .tmntSourceControl 1, .write 2, .log 2,
         .refresh .tmntSourceControlUpstreamLoadReduced, .log 3, .write 3],
      (∀ task ∈ s.tasks, task.wrote = task.logged) ∧
      Table.tmntSourceControlUpstreamLoadReduced ∈ s.changelog ∧
      isDirty OG .tmntSourceControlUpstreamLoadReduced s.changelog = .ok false := by
    decide +kernel
  exact ⟨s, hs, current_of_clean_flag _ _ _ (by decide +kernel) hs (by decide) ht
    (fun task htask _ => hsettled task htask) hclean⟩

/-- **An edit during a refresh is lost behind the flag.**  The upstream load reduction is refreshed
after the tables it depends on; an edit of the source controls commits both its content and its row
in the change log between the read and the commits of this refresh.  When all tasks have finished
the table is not dirty, but it is not computed from the current source controls. -/
theorem edit_during_refresh :
    ∃ s, examplePipeline.machine.run (Pipeline.init fun _ => 0)
        [.refresh .lguBoundary, .log 0, .write 0, .refresh .lguLoad, .log 1, .write 1,
         .refresh .tmntSourceControlUpstreamLoadReduced,
         .edit .tmntSourceControl 1, .write 3, .log 3, .log 2, .write 2] = some s ∧
      (∀ task ∈ s.tasks, ¬ task.InFlight) ∧
      Table.tmntSourceControlUpstreamLoadReduced ∈ s.changelog ∧
      isDirty OG .tmntSourceControlUpstreamLoadReduced s.changelog = .ok false ∧
      ¬ examplePipeline.Current s
        .tmntSourceControlUpstreamLoadReduced := by
  obtain ⟨s, hs, hdone, ht, hclean, hne⟩ :
      ∃ s ∈ examplePipeline.machine.run (Pipeline.init fun _ => 0)
        [.refresh .lguBoundary, .log 0, .write 0, .refresh .lguLoad, .log 1, .write 1,
         .refresh .tmntSourceControlUpstreamLoadReduced,
         .edit .tmntSourceControl 1, .write 3, .log 3, .log 2, .write 2],
      (∀ task ∈ s.tasks, ¬ task.InFlight) ∧
      Table.tmntSourceControlUpstreamLoadReduced ∈ s.changelog ∧
      isDirty OG .tmntSourceControlUpstreamLoadReduced s.changelog = .ok false ∧
      s.content .tmntSourceControlUpstreamLoadReduced ≠
        examplePipeline.computed .tmntSourceControlUpstreamLoadReduced
          s.content := by
    decide +kernel
  exact ⟨s, hs, hdone, ht, hclean, fun h => hne (h _ (by decide) .refl)⟩

end StormPiper
