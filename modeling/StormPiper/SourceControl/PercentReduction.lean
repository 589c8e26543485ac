import StormPiper.Python.Basic
import StormPiper.Frame.Basic
import Mathlib.Algebra.Order.Field.Rat
import Mathlib.Data.String.Basic

/-!
# Source controls

A source control reduces the load of one variable in one subbasin by a percentage.  Several controls
of one subbasin and variable are numbered by their `order` and "will be applied in order least to
greatest".

* `calculateSrcCtrlPercentReduction` (`src/results.py`) computes the load that each control
  takes away: it walks over the distinct orders and looks up what the previous order left.
* `applyTidyLoadReduction` (`src/loading.py`) subtracts these loads.

Values are exact rationals.
-/

namespace StormPiper

open StormPiper.Frame

/-- `Direction` -/
inductive Direction where
  | upstream
  | downstream
  deriving Repr, DecidableEq

/-- A row of a load table, with the subbasin of its node joined in. -/
structure LoadRow where
  nodeId : String
  epoch : String
  variableName : String
  subbasin : Option String
  value : ℚ
  deriving Repr, DecidableEq

/-- The columns on which load tables are joined. -/
def LoadRow.key (r : LoadRow) : String × String × String := (r.nodeId, r.epoch, r.variableName)

/-- A row of the table `tmnt_source_control`. -/
structure TMNTSourceControl where
  subbasin : String
  variableName : String
  order : ℤ
  activity : String
  direction : Direction
  percentReduction : ℚ
  deriving Repr, DecidableEq

/-- A load row joined with a source control. -/
structure SrcCtrlRow where
  load : LoadRow
  ctrl : TMNTSourceControl
  deriving Repr, DecidableEq

/-- The columns that name the load of a joined row. -/
def SrcCtrlRow.key (r : SrcCtrlRow) : String × String × String := r.load.key

/-- The columns by which the joined rows are grouped. -/
def SrcCtrlRow.group (r : SrcCtrlRow) : (String × String × String) × ℤ := (r.key, r.ctrl.order)

/-- A joined row with the value before and after the control. -/
structure RemainingRow extends SrcCtrlRow where
  valueRemainingPrev : ℚ
  valueRemaining : ℚ
  deriving Repr, DecidableEq

/-- A row of the result. -/
structure LoadReducedRow extends RemainingRow where
  loadReduced : ℚ
  id : ℕ
  deriving Repr, DecidableEq

/-- The result of the calculation: `pandas.DataFrame([])` has no columns. -/
inductive LoadReduced where
  | noColumns
  | frame (rows : List LoadReducedRow)
  deriving Repr, DecidableEq

/-- The order of rows by node, epoch, variable and order. -/
def SrcCtrlRow.le (a b : SrcCtrlRow) : Bool :=
  ((compare a.load.nodeId b.load.nodeId).then <| (compare a.load.epoch b.load.epoch).then <|
    (compare a.load.variableName b.load.variableName).then <|
    compare a.ctrl.order b.ctrl.order).isLE

/-- The order of source controls by subbasin, variable and order. -/
def TMNTSourceControl.le (a b : TMNTSourceControl) : Bool :=
  ((compare a.subbasin b.subbasin).then <| (compare a.variableName b.variableName).then <|
    compare a.order b.order).isLE

/-- The part of a load that a control leaves. -/
def TMNTSourceControl.factor (c : TMNTSourceControl) : ℚ := 1 - c.percentReduction / 100

/-- The load rows joined with the controls of one direction (`df1`). -/
def joinSrcCtrls (load : List LoadRow) (srcCtrls : List TMNTSourceControl)
    (direction : Direction) : List SrcCtrlRow :=
  let srcCtrlDirectional :=
    sortValues TMNTSourceControl.le (srcCtrls.filter (·.direction = direction))
  sortValues SrcCtrlRow.le <|
    (merge (fun r : LoadRow => (r.subbasin, r.variableName))
      (fun c : TMNTSourceControl => (some c.subbasin, c.variableName)) load srcCtrlDirectional).map
        fun x => ⟨x.1, x.2⟩

/-- One turn of the loop: the rows of the order at position `i`, with what is left of their values.
What was left before is looked up in the frame `df2[prev_order]`; where this frame has no row of
the same load, it is the original value. -/
def remainingFrame (df1 : List SrcCtrlRow) (orders : List ℤ) (df2 : List (List RemainingRow))
    (i : ℕ) (order : ℤ) : Except PyError (List RemainingRow) := do
  let df := df1.filter (·.ctrl.order = order)
  let withPrev : List (SrcCtrlRow × Option ℚ) ←
    if i > 0 then do
      let prevOrder ← pyIndex orders (i - 1 : ℕ)
      let frame ← pyIndex df2 prevOrder
      .ok ((mergeLeft SrcCtrlRow.key (·.key) df frame).map fun x =>
        (x.1, x.2.map (·.valueRemaining)))
    else .ok (df.map fun r => (r, some r.load.value))
  return withPrev.map fun x =>
    let valueRemainingPrev := x.2.getD x.1.load.value
    { x.1 with
      valueRemainingPrev := valueRemainingPrev
      valueRemaining := valueRemainingPrev * x.1.ctrl.factor }

/-- The frames `df2` after the given number of turns. -/
def remainingFrames (df1 : List SrcCtrlRow) (orders : List ℤ) :
    ℕ → Except PyError (List (List RemainingRow))
  | 0 => .ok []
  | i + 1 => do
    let df2 ← remainingFrames df1 orders i
    match orders[i]? with
    | none => return df2
    | some order =>
      let df ← remainingFrame df1 orders df2 i order
      return df2 ++ [df]

/-- The load that each control takes away. -/
def calculateSrcCtrlPercentReduction (load : List LoadRow) (srcCtrls : List TMNTSourceControl)
    (direction : Direction) : Except PyError LoadReduced :=
  let df1 := joinSrcCtrls load srcCtrls direction
  if ∀ row ∈ df1, (df1.filter fun r => r.group = row.group).length ≤ 1 then do
    let orders := sortedUnique (·.ctrl.order) df1
    let df2 ← remainingFrames df1 orders orders.length
    if df2.length = 0 then return .noColumns
    else
      let df := sortValues (fun a b : RemainingRow => a.toSrcCtrlRow.le b.toSrcCtrlRow) df2.flatten
      return .frame <| df.zipIdx.map fun (r, id) =>
        { r with loadReduced := r.valueRemainingPrev - r.valueRemaining, id := id }
  else .error .assertionError

/-- A result that was written to its table and read back: the table has the columns. -/
def LoadReduced.throughTable : LoadReduced → LoadReduced
  | noColumns => frame []
  | frame rows => frame rows

/-- The rows of the table. -/
def LoadReduced.rows : LoadReduced → List LoadReducedRow
  | noColumns => []
  | frame rows => rows

theorem LoadReduced.throughTable_eq (loadReduced : LoadReduced) :
    loadReduced.throughTable = .frame loadReduced.rows := by
  cases loadReduced <;> rfl

/-- Subtract from each load the sum of what its controls take away. -/
def applyTidyLoadReduction (load : List LoadRow) : LoadReduced → Except PyError (List LoadRow)
  | .noColumns => .error .keyError
  | .frame rows =>
    .ok <| (mergeLeft LoadRow.key Prod.fst load (groupbySum (·.key) (·.loadReduced) rows)).map
      fun x => { x.1 with value := x.1.value - (x.2.map Prod.snd).getD 0 }

/-- The load that is handed to the next stage: the reductions are calculated, stored and
subtracted. -/
def loadToNext (load : List LoadRow) (srcCtrls : List TMNTSourceControl) (direction : Direction) :
    Except PyError (List LoadRow) := do
  let loadReduced ← calculateSrcCtrlPercentReduction load srcCtrls direction
  applyTidyLoadReduction load loadReduced.throughTable

/-! ### The tables -/

/-- A load table with one row for each node, epoch and variable. -/
structure LoadTable where
  rows : List LoadRow
  key_nodup : (rows.map LoadRow.key).Nodup

/-- A table of source controls that satisfies the constraints of the database. -/
structure SourceControlTable where
  rows : List TMNTSourceControl
  order_unique : (rows.map fun c => (c.direction, c.subbasin, c.variableName, c.order)).Nodup
  activity_unique : (rows.map fun c => (c.direction, c.subbasin, c.variableName, c.activity)).Nodup
  percentReduction_mem : ∀ c ∈ rows, 0 ≤ c.percentReduction ∧ c.percentReduction ≤ 100

/-- The controls of a direction whose subbasin and variable match a load row. -/
def matching (srcCtrls : List TMNTSourceControl) (direction : Direction) (r : LoadRow) :
    List TMNTSourceControl :=
  srcCtrls.filter fun c =>
    c.direction = direction ∧ some c.subbasin = r.subbasin ∧ c.variableName = r.variableName

/-- The distinct orders of the controls that match some load row, least first. -/
def appliedOrders (load : List LoadRow) (srcCtrls : List TMNTSourceControl)
    (direction : Direction) : List ℤ :=
  sortedUnique (·.order) (load.flatMap (matching srcCtrls direction))

/-- The frame in which the turn at position `i` looks up what is left: `df2[orders[i - 1]]`. -/
def frameConsulted (orders : List ℤ) (i : ℕ) : Option ℕ :=
  if i = 0 then none else orders[i - 1]?.bind (pyPosition i)

end StormPiper
