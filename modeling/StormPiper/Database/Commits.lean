import StormPiper.Run.Transaction
import StormPiper.Dependencies.Changelog

/-!
# The commits of a table and of its row in the change log

Every operation that changes a table logs this in the change log, with a commit of its own.
`_delete_and_replace_db` commits the change log first, inside the transaction of the data;
`CRUDBase.create`, `update` and `remove` commit the data first (`database/utils.py`,
`database/crud/base.py`).

* `DbOperation.steps` : the steps of each operation that can raise.
* `movesTogether_iff` : data and change log are committed together, and neither if the operation
  fails, exactly if no step after the first commit is the first to raise.
* `not_movesTogether` : a `create` that fails after its commit is not logged.
-/

namespace StormPiper

/-- The points at which an operation can raise. -/
inductive DbStep where
  /-- `sa.inspect(engine).has_table(...)` -/
  | hasTable
  | beginData
  /-- `delete from "..."` -/
  | deleteFrom
  /-- `to_sql`, `to_postgis` with `if_exists="append"` -/
  | appendRows
  | commitData
  | beginLog
  | selectLog
  | executeLog
  | commitLog
  | beginSequence
  | commitSequence
  | modelDump
  | getRecord
  | execute
  | commit
  | refresh
  /-- `on_after_create`, `on_after_update` -/
  | onAfter
  deriving DecidableEq, Repr

/-- The transactions of an operation. -/
inductive DbWork where
  | content
  | changelog
  | sequence
  deriving DecidableEq, Repr

/-- The tables with the change log. -/
structure Tables (α Row : Type) where
  rows : α → List Row
  changelog : List (TableChangeLog α)

variable {α Row Id : Type} [DecidableEq α] [DecidableEq Id]

/-- An operation on one table. -/
inductive DbOperation (Row Id : Type) where
  | deleteAndReplace (tableExists : Bool) (df : List Row)
  | create (newObj : Row)
  | update (id : Id) (updateData : Row → Row)
  | remove (id : Id)

/-- A table of the database: its name, the primary key of its rows, and the clocks of the server
and the database. -/
structure TableContext (α Row Id : Type) where
  table : α
  idOf : Row → Id
  ts : ℕ
  now : ℕ

namespace DbOperation

/-- The rows of the table after the operation. -/
def newRows (idOf : Row → Id) : DbOperation Row Id → List Row → List Row
  | deleteAndReplace tableExists df, rows => (if tableExists then [] else rows) ++ df
  | create newObj, rows => rows ++ [newObj]
  | update id updateData, rows => rows.map fun r => if idOf r = id then updateData r else r
  | remove id, rows => rows.filter fun r => idOf r ≠ id

variable (ctx : TableContext α Row Id)

/-- A statement on the rows of the table. -/
def onRows (f : List Row → List Row) : Effect (Tables α Row) :=
  .statement fun db => { db with rows := Function.update db.rows ctx.table (f (db.rows ctx.table)) }

/-- `sync_log` and `async_log`, and the commit that follows. -/
def logSteps : List (TxStep (Tables α Row) DbStep DbWork) :=
  [⟨.selectLog, .changelog, .other⟩,
   ⟨.executeLog, .changelog, .statement fun db =>
      { db with changelog := syncLog ctx.ts ctx.now ctx.table db.changelog }⟩,
   ⟨.commitLog, .changelog, .commit⟩]

/-- The steps of an operation, in their order. -/
def steps : DbOperation Row Id → List (TxStep (Tables α Row) DbStep DbWork)
  | deleteAndReplace tableExists df =>
    [⟨.hasTable, .content, .other⟩, ⟨.beginData, .content, .other⟩] ++
    (if tableExists then [⟨.deleteFrom, .content, onRows ctx fun _ => []⟩] else []) ++
    [⟨.appendRows, .content, onRows ctx (· ++ df)⟩, ⟨.beginLog, .changelog, .other⟩] ++
    logSteps ctx ++
    -- `reset_sequence` logs its own exceptions; only its transaction can raise
    [⟨.commitData, .content, .commit⟩, ⟨.beginSequence, .sequence, .other⟩,
     ⟨.commitSequence, .sequence, .commit⟩]
  | create newObj =>
    [⟨.modelDump, .content, .other⟩, ⟨.execute, .content, onRows ctx (· ++ [newObj])⟩,
     ⟨.commit, .content, .commit⟩, ⟨.refresh, .content, .other⟩] ++ logSteps ctx ++
    [⟨.onAfter, .content, .other⟩]
  | update id updateData =>
    [⟨.getRecord, .content, .other⟩, ⟨.modelDump, .content, .other⟩,
     ⟨.execute, .content, onRows ctx fun rows => rows.map fun r =>
        if ctx.idOf r = id then updateData r else r⟩,
     ⟨.commit, .content, .commit⟩, ⟨.refresh, .content, .other⟩] ++ logSteps ctx ++
    [⟨.onAfter, .content, .other⟩]
  | remove id =>
    [⟨.execute, .content, onRows ctx fun rows => rows.filter fun r => ctx.idOf r ≠ id⟩,
     ⟨.commit, .content, .commit⟩] ++ logSteps ctx

/-- The database with the operation done to the rows of the table. -/
def replaceRows (op : DbOperation Row Id) (db : Tables α Row) : Tables α Row :=
  { db with rows := Function.update db.rows ctx.table (op.newRows ctx.idOf (db.rows ctx.table)) }

/-- What the commit of a transaction makes of the database. -/
def commitEffect (op : DbOperation Row Id) : DbWork → Tables α Row → Tables α Row
  | .content, db => op.replaceRows ctx db
  | .changelog, db => { db with changelog := syncLog ctx.ts ctx.now ctx.table db.changelog }
  | .sequence, db => db

/-- What raises: the steps that fail, and the look-up of a record that is not there. -/
def raises (op : DbOperation Row Id) (db : Tables α Row) (fails : DbStep → Bool) (s : DbStep) :
    Bool :=
  fails s || match op, s with
    | update id _, .getRecord => (db.rows ctx.table).all fun r => ctx.idOf r ≠ id
    | _, _ => false

/-- An operation of which some steps fail. -/
def run (op : DbOperation Row Id) (fails : DbStep → Bool) (db : Tables α Row) :
    TxResult (Tables α Row) DbStep DbWork :=
  exec (op.raises ctx db fails) (.start db) (op.steps ctx)

/-- The steps up to the first commit. -/
def firstSteps : DbOperation Row Id → List DbStep
  | deleteAndReplace tableExists _ =>
    [.hasTable, .beginData] ++ (if tableExists then [.deleteFrom] else []) ++
    [.appendRows, .beginLog, .selectLog, .executeLog, .commitLog]
  | create _ => [.modelDump, .execute, .commit]
  | update _ _ => [.getRecord, .modelDump, .execute, .commit]
  | remove _ => [.execute, .commit]

/-- The steps after the first commit. -/
def laterSteps : DbOperation Row Id → List DbStep
  | deleteAndReplace _ _ => [.commitData, .beginSequence, .commitSequence]
  | create _ | update _ _ => [.refresh, .selectLog, .executeLog, .commitLog, .onAfter]
  | remove _ => [.selectLog, .executeLog, .commitLog]

end DbOperation

/-- The row in the change log is committed exactly if the content is; if the operation fails neither
is, and both are as they were in `db`. -/
def MovesTogether (db : Tables α Row) (r : TxResult (Tables α Row) DbStep DbWork) : Prop :=
  Together .changelog .content r ∧ (r.raised.isSome → r.db = db)

namespace DbOperation

variable {ctx : TableContext α Row Id} {op : DbOperation Row Id} {fails : DbStep → Bool}
  {db : Tables α Row}

/-- The transactions of every operation make its changes when they are committed. -/
theorem commitsTotal (op : DbOperation Row Id) :
    CommitsTotal (op.commitEffect ctx) (fun _ => id) (op.steps ctx) := by
  cases op with
  | deleteAndReplace tableExists df =>
    cases tableExists <;>
    simp [steps, logSteps, onRows, CommitsTotal, commitEffect, replaceRows, newRows, funext_iff]
  | create newObj =>
    simp [steps, logSteps, onRows, CommitsTotal, commitEffect, replaceRows, newRows, funext_iff]
  | update id updateData =>
    simp [steps, logSteps, onRows, CommitsTotal, commitEffect, replaceRows, newRows, funext_iff]
  | remove id =>
    simp [steps, logSteps, onRows, CommitsTotal, commitEffect, replaceRows, newRows, funext_iff]

theorem db_run : (op.run ctx fails db).db =
    (op.run ctx fails db).commits.foldl (fun db w => op.commitEffect ctx w db) db :=
  db_exec op.commitsTotal

/-- The commit of the sequence alone leaves content and change log as they were. -/
theorem foldl_commitEffect {ws : List DbWork} (hlog : .changelog ∉ ws) (hcontent : .content ∉ ws) :
    ws.foldl (fun db w => op.commitEffect ctx w db) db = db := by
  induction ws with
  | nil => rfl
  | cons w ws ih =>
    have ih := ih (fun h => hlog (List.mem_cons_of_mem _ h))
      fun h => hcontent (List.mem_cons_of_mem _ h)
    cases w with
    | content => exact absurd List.mem_cons_self hcontent
    | changelog => exact absurd List.mem_cons_self hlog
    | sequence => exact ih

variable (ctx) in
/-- The steps of an operation around its first commit, which is that of the change log or that of
the content; the other one comes later. -/
theorem steps_split (op : DbOperation Row Id) : ∃ pre c post first second,
    op.steps ctx = pre ++ c :: post ∧
    (pre ++ [c]).map (·.name) = op.firstSteps ∧ post.map (·.name) = op.laterSteps ∧
    c.commits = [first] ∧ commitsOf pre = [] ∧ second ∈ commitsOf post ∧
    (first = .changelog ∧ second = .content ∨ first = .content ∧ second = .changelog) := by
  cases op with
  | deleteAndReplace tableExists df =>
    refine ⟨[⟨.hasTable, .content, .other⟩, ⟨.beginData, .content, .other⟩] ++
      (if tableExists then [⟨.deleteFrom, .content, onRows ctx fun _ => []⟩] else []) ++
      [⟨.appendRows, .content, onRows ctx (· ++ df)⟩, ⟨.beginLog, .changelog, .other⟩,
       ⟨.selectLog, .changelog, .other⟩, ⟨.executeLog, .changelog, .statement fun db =>
        { db with changelog := syncLog ctx.ts ctx.now ctx.table db.changelog }⟩],
      ⟨.commitLog, .changelog, .commit⟩,
      [⟨.commitData, .content, .commit⟩, ⟨.beginSequence, .sequence, .other⟩,
       ⟨.commitSequence, .sequence, .commit⟩], .changelog, .content, ?_⟩
    cases tableExists <;>
    simp [steps, logSteps, firstSteps, laterSteps, commitsOf, TxStep.commits, onRows]
  | create newObj =>
    refine ⟨[⟨.modelDump, .content, .other⟩, ⟨.execute, .content, onRows ctx (· ++ [newObj])⟩],
      ⟨.commit, .content, .commit⟩,
      ⟨.refresh, .content, .other⟩ :: (logSteps ctx ++ [⟨.onAfter, .content, .other⟩]),
      .content, .changelog, ?_⟩
    simp [steps, logSteps, firstSteps, laterSteps, commitsOf, TxStep.commits, onRows]
  | update id updateData =>
    refine ⟨[⟨.getRecord, .content, .other⟩, ⟨.modelDump, .content, .other⟩,
      ⟨.execute, .content, onRows ctx fun rows => rows.map fun r =>
        if ctx.idOf r = id then updateData r else r⟩], ⟨.commit, .content, .commit⟩,
      ⟨.refresh, .content, .other⟩ :: (logSteps ctx ++ [⟨.onAfter, .content, .other⟩]),
      .content, .changelog, ?_⟩
    simp [steps, logSteps, firstSteps, laterSteps, commitsOf, TxStep.commits, onRows]
  | remove id =>
    refine ⟨[⟨.execute, .content, onRows ctx fun rows => rows.filter fun r => ctx.idOf r ≠ id⟩],
      ⟨.commit, .content, .commit⟩, logSteps ctx, .content, .changelog, ?_⟩
    simp [steps, logSteps, firstSteps, laterSteps, commitsOf, TxStep.commits, onRows]

/-- An operation that fails and commits neither content nor change log leaves both as they were. -/
theorem movesTogether_run :
    MovesTogether db (op.run ctx fails db) ↔
      Together .changelog .content (op.run ctx fails db) := by
  refine ⟨fun h => h.1, fun h => ⟨h, fun hraised => ?_⟩⟩
  obtain ⟨hlog, hcontent⟩ := h.2 hraised
  rw [db_run, foldl_commitEffect hlog hcontent]

/-- **When data and change log move together.**  Exactly if nothing raises, or something raises
before or at the first commit. -/
theorem movesTogether_iff : MovesTogether db (op.run ctx fails db) ↔
    (∀ s ∈ op.firstSteps ++ op.laterSteps, op.raises ctx db fails s = false) ∨
      ∃ s ∈ op.firstSteps, op.raises ctx db fails s = true := by
  obtain ⟨pre, c, post, first, second, hsteps, hfirst, hlater, hc, hpre, hsecond, horder⟩ :=
    op.steps_split ctx
  have hsplit : pre ++ c :: post = (pre ++ [c]) ++ post := by simp
  have hboth : Together first second (op.run ctx fails db) ↔
      (∀ s ∈ (pre ++ [c]) ++ post, op.raises ctx db fails s.name = false) ∨
        ∃ s ∈ pre ++ [c], op.raises ctx db fails s.name = true := by
    rw [run, hsteps, ← hsplit]
    exact together_iff hc (by simp [hpre]) (by simp [hpre]) hsecond
  rw [movesTogether_run, ← hfirst, ← hlater, ← List.map_append, List.forall_mem_map]
  simp only [List.mem_map, exists_exists_and_eq_and]
  rcases horder with ⟨rfl, rfl⟩ | ⟨rfl, rfl⟩
  · exact hboth
  · rw [together_comm]
    exact hboth

/-- A `create` that fails when the new row is read back has committed the row and not logged it; a
table that is replaced and fails at its commit is logged and has its old rows. -/
theorem not_movesTogether :
    let ctx : TableContext String ℕ ℕ := ⟨"tmnt_facility", id, 7, 7⟩
    let db : Tables String ℕ := ⟨fun _ => [1], [⟨"tmnt_facility", 3⟩]⟩
    let created := (create 2).run ctx (· = .refresh) db
    let replaced := (deleteAndReplace true [2]).run ctx (· = .commitData) db
    (created.db.rows ctx.table = [1, 2] ∧ created.db.changelog = [⟨"tmnt_facility", 3⟩]) ∧
    (replaced.db.rows ctx.table = [1] ∧ replaced.db.changelog = [⟨"tmnt_facility", 7⟩]) ∧
    ¬ MovesTogether db created ∧ ¬ MovesTogether db replaced := by
  refine ⟨by decide, by decide, fun h => ?_, fun h => ?_⟩
  · exact absurd h.1.1 (by decide)
  · exact absurd h.1.1 (by decide)

end DbOperation

end StormPiper
