import StormPiper.Python.Text
import StormPiper.Sql.Query

/-!
# The views of the subbasins

The queries of `database/schemas/views.py` on the tables that they read: `subbasinwqresult_v`, the
results of a subbasin with their concentrations and yields, and `subbasininfo_v`, which adds for
each subbasin the areas that are treated.  A view has its rows or ends in the error of one of its
divisions.

`A` is the type of the columns of `subbasin` that the views only hand on.  The order of a sub-query
is left out, as no join keeps it.
-/

namespace StormPiper

namespace Views

/-- A row of `subbasin`. -/
structure Subbasin (A K : Type) where
  basinname : Option String
  subbasin : Option String
  areaAcres : Option K
  attrs : A
  deriving DecidableEq

/-- A row of `subbasin_result`, with the value of each of its columns of numbers. -/
structure SubbasinResult (K : Type) where
  subbasin : Option String
  nodeId : Option String
  epoch : Option String
  value : String → Option K

/-- A row of `tmnt_facility`. -/
structure TMNTFacility where
  altid : Option String
  flowcontroltype : Option String
  waterqualitytype : Option String

/-- A row of `lgu_boundary`. -/
structure LguBoundary (G : Type) where
  relid : Option String
  nodeId : Option String
  subbasin : Option String
  basinname : Option String
  geom : Option G

/-- A row of `result_blob`. -/
structure ResultBlob (K : Type) where
  nodeId : String
  epoch : String
  nodeType : Option String
  areaAcres : Option K
  effAreaAcres : Option K

/-- The tables that the views are about. -/
structure Tables (A G K : Type) where
  subbasin : List (Subbasin A K)
  subbasinResult : List (SubbasinResult K)
  tmntFacility : List TMNTFacility
  lguBoundary : List (LguBoundary G)
  resultBlob : List (ResultBlob K)

/-! ### The columns of `subbasin_result` -/

/-- `load_cols` of `schemas/subbasin.py`. -/
def subbasinLoadCols : List String :=
  ["runoff_volume_cuft", "TCu_load_lbs", "TN_load_lbs", "TP_load_lbs", "TSS_load_lbs",
    "TZn_load_lbs", "PHE_load_lbs", "PYR_load_lbs", "DEHP_load_lbs"]

/-- `_result_cols` -/
def resultCols : List String :=
  (subbasinLoadCols.flatMap fun n => ["", "_generated", "_reduced"].map (n ++ ·)) ++
    subbasinLoadCols.map fun n => replace (replace n "_lbs" "_pct") "_cuft" "_pct" ++ "_reduced"

/-- `sr_cols` -/
def srCols : List String := ["node_id", "epoch"] ++ resultCols

/-- `load_cols` -/
def loadCols : List String := srCols.filter (endswith · "_load_lbs")

/-- `yield_cols` -/
def yieldCols : List String := loadCols.map (replace · "_load_lbs" "_yield_lbs_per_acre")

/-- `conc_cols` -/
def concCols : List String := loadCols.map (replace · "_load_lbs" "_conc_mg/l")

section Queries

variable {A G K : Type} [Field K] [LinearOrder K]

/-! ### `subbasinwqresult_v` -/

/-- `cuft_per_acre_to_inch` -/
def cuftPerAcreToInch : K := ((2754821 : ℕ) : K) / ((10000000000 : ℕ) : K)

/-- `lbs_per_cuft_to_mgl` -/
def lbsPerCuftToMgl : K := ((1601846337 : ℕ) : K) / ((100000 : ℕ) : K)

/-- A row of `subbasinwqresult_v`, with the names of the columns that it computes. -/
structure WqResult (K : Type) where
  subbasin : Option String
  basinname : Option String
  sr : Option (SubbasinResult K)
  concs : List (String × Option K)
  runoffDepthInches : Option K
  yields : List (String × Option K)

/-- The `select` of `subbasinwqresult_v`. -/
def wqResult (s : Subbasin A K) (sr : Option (SubbasinResult K)) :
    Except SqlError (WqResult K) := do
  let col (n : String) := sr.bind fun r => r.value n
  let concs ← loadCols.mapM fun n => Sql.div (col n) (col "runoff_volume_cuft")
  let depth ← Sql.div (Sql.mul (col "runoff_volume_cuft") (some cuftPerAcreToInch)) s.areaAcres
  let yields ← loadCols.mapM fun n => Sql.div (col n) s.areaAcres
  return { subbasin := s.subbasin, basinname := s.basinname, sr
           concs := concCols.zip (concs.map fun x => Sql.mul x (some lbsPerCuftToMgl))
           runoffDepthInches := depth
           yields := yieldCols.zip yields }

/-- `select * from subbasinwqresult_v where ...`, with a condition on the columns of the results.
The condition is applied before the other columns are computed. -/
def subbasinwqresultV (where_ : Option (SubbasinResult K) → Bool) (tables : Tables A G K) :
    Except SqlError (List (WqResult K)) :=
  ((Sql.leftJoin (fun s sr => Sql.eq sr.subbasin s.subbasin)
    tables.subbasin tables.subbasinResult).filter fun x => where_ x.2).mapM
      fun x => wqResult x.1 x.2

/-! ### The sub-queries of `subbasininfo_v` -/

/-- A row of `Q`: a piece of the land with its facility. -/
structure QRow (K : Type) where
  relid : Option String
  subbasin : Option String
  areaAcres : Option K
  altid : Option String
  flowcontroltype : Option String
  waterqualitytype : Option String

variable (stArea : G → K) (tables : Tables A G K)

/-- `ST_AREA(GEOM) / 43560`: the divisor is not zero. -/
def areaAcres (lgu : LguBoundary G) : Option K :=
  lgu.geom.map fun g => stArea g / ((43560 : ℕ) : K)

/-- `Q`: the land surfaces with their facilities. -/
def q : List (QRow K) :=
  (Sql.leftJoin (fun lgu tmnt => Sql.eq tmnt.altid lgu.relid)
    tables.lguBoundary tables.tmntFacility).map fun x =>
      { relid := x.1.relid
        subbasin := x.1.subbasin
        areaAcres := areaAcres stArea x.1
        altid := x.2.bind (·.altid)
        flowcontroltype := x.2.bind (·.flowcontroltype)
        waterqualitytype := x.2.bind (·.waterqualitytype) }

/-- `SELECT Q.SUBBASIN, SUM(Q.AREA_ACRES) FROM Q WHERE ... GROUP BY Q.SUBBASIN`. -/
def areaBySubbasin (where_ : QRow K → Bool) (q : List (QRow K)) :
    List (Option String × Option K) :=
  (Sql.groupBy (·.subbasin) (q.filter where_)).map fun g =>
    (g.1, Sql.sum (g.2.map (·.areaAcres)))

/-- `TOTALAREA` -/
def totalArea : List (Option String × Option K) :=
  areaBySubbasin (fun _ => true) (q stArea tables)

/-- `BASICWQAREA` -/
def basicWqArea : List (Option String × Option K) :=
  areaBySubbasin (fun r => Sql.eq r.waterqualitytype (some "Basic")) (q stArea tables)

/-- `ENHWQAREA` -/
def enhWqArea : List (Option String × Option K) :=
  areaBySubbasin (fun r => Sql.eq r.waterqualitytype (some "Enhanced")) (q stArea tables)

/-- `FCAREA` -/
def fcArea : List (Option String × Option K) :=
  areaBySubbasin (fun r => r.flowcontroltype.isSome) (q stArea tables)

/-- `TMNTAREA` -/
def tmntArea : List (Option String × Option K) :=
  areaBySubbasin (fun r => r.altid.isSome) (q stArea tables)

/-- A row of `RES`. -/
structure ResRow (K : Type) where
  nodeId : String
  areaAcres : Option K
  effAreaAcres : Option K
  subbasin : Option String
  basinname : Option String

/-- `WHERE R.EPOCH = '1980s' and R.NODE_TYPE = 'land_surface'`. -/
def ResultBlob.isLandSurface (r : ResultBlob K) : Bool :=
  r.epoch = "1980s" && Sql.eq r.nodeType (some "land_surface")

/-- `RES`: the results of the land surfaces. -/
def res : List (ResRow K) :=
  ((Sql.leftJoin (fun r lb => Sql.eq lb.nodeId (some r.nodeId))
    tables.resultBlob tables.lguBoundary).filter fun x => x.1.isLandSurface).map fun x =>
      { nodeId := x.1.nodeId
        areaAcres := x.1.areaAcres
        effAreaAcres := x.1.effAreaAcres
        subbasin := x.2.bind (·.subbasin)
        basinname := x.2.bind (·.basinname) }

/-- `EFFAREA` -/
def effArea : List (Option String × Option K) :=
  (Sql.groupBy (fun r => (r.subbasin, r.basinname)) (res tables)).map fun g =>
    (g.1.1, Sql.sum (g.2.map (·.effAreaAcres)))

/-- `TMNTCOUNT` -/
def tmntCount : List (Option String × Option ℕ) :=
  (Sql.groupBy (·.subbasin) tables.lguBoundary).map fun g =>
    (g.1, some (Sql.countDistinct (g.2.map (·.relid))))

/-! ### `TMNTSUMMARY` -/

/-- A row of `SUBBASIN S` with the columns of the sub-queries that are joined to it. -/
structure Joined (A K : Type) where
  s : Subbasin A K
  tmntFacilityCount : Option ℕ := none
  treatedAreaAcres : Option K := none
  totalAreaAcres : Option K := none
  basicwqAreaAcres : Option K := none
  enhwqAreaAcres : Option K := none
  fcAreaAcres : Option K := none
  effAreaAcres : Option K := none

/-- `LEFT JOIN g ON g.SUBBASIN = S.SUBBASIN`, which sets a column. -/
def leftJoinOn {C : Type} (g : List (Option String × Option C))
    (set : Joined A K → Option C → Joined A K) (left : List (Joined A K)) : List (Joined A K) :=
  (Sql.leftJoin (fun x g => Sql.eq g.1 x.s.subbasin) left g).map fun x =>
    set x.1 (x.2.bind (·.2))

/-- The `FROM` of `TMNTSUMMARY`. -/
def joined : List (Joined A K) :=
  tables.subbasin.map (fun s => { s })
  |> leftJoinOn (tmntCount tables) (fun x c => { x with tmntFacilityCount := c })
  |> leftJoinOn (tmntArea stArea tables) (fun x c => { x with treatedAreaAcres := c })
  |> leftJoinOn (totalArea stArea tables) (fun x c => { x with totalAreaAcres := c })
  |> leftJoinOn (basicWqArea stArea tables) (fun x c => { x with basicwqAreaAcres := c })
  |> leftJoinOn (enhWqArea stArea tables) (fun x c => { x with enhwqAreaAcres := c })
  |> leftJoinOn (fcArea stArea tables) (fun x c => { x with fcAreaAcres := c })
  |> leftJoinOn (effArea tables) (fun x c => { x with effAreaAcres := c })

/-- A row of `TMNTSUMMARY`. -/
structure TmntSummary (K : Type) where
  subbasin : Option String
  tmntFacilityCount : Option ℕ
  totalAreaAcres : Option K
  treatedAreaAcres : Option K
  treatedAreaPct : Option K
  basicwqAreaAcres : Option K
  basicwqAreaPct : Option K
  enhwqAreaAcres : Option K
  enhwqAreaPct : Option K
  fcAreaAcres : Option K
  fcAreaPct : Option K
  effAreaAcres : Option K
  effAreaPct : Option K

/-- `100 * (x / total)`. -/
def pct (x total : Option K) : Except SqlError (Option K) := do
  return Sql.mul (some ((100 : ℕ) : K)) (← Sql.div x total)

/-- The `SELECT` of `TMNTSUMMARY`. -/
def Joined.summary (x : Joined A K) : Except SqlError (TmntSummary K) := do
  let treatedAreaPct ← pct x.treatedAreaAcres x.totalAreaAcres
  let basicwqAreaPct ← pct x.basicwqAreaAcres x.totalAreaAcres
  let enhwqAreaPct ← pct x.enhwqAreaAcres x.totalAreaAcres
  let fcAreaPct ← pct x.fcAreaAcres x.totalAreaAcres
  let effAreaPct ← pct x.effAreaAcres x.totalAreaAcres
  return { subbasin := x.s.subbasin
           tmntFacilityCount := x.tmntFacilityCount
           totalAreaAcres := x.totalAreaAcres
           treatedAreaAcres := x.treatedAreaAcres, treatedAreaPct
           basicwqAreaAcres := x.basicwqAreaAcres, basicwqAreaPct
           enhwqAreaAcres := x.enhwqAreaAcres, enhwqAreaPct
           fcAreaAcres := x.fcAreaAcres, fcAreaPct
           effAreaAcres := x.effAreaAcres, effAreaPct }

/-- `TMNTSUMMARY` -/
def tmntSummary : Except SqlError (List (TmntSummary K)) :=
  (joined stArea tables).mapM Joined.summary

/-! ### `subbasininfo_v` -/

/-- A row of `subbasininfo_v`: the columns of `s`, of `wq` and of `ts`, but for the total area. -/
structure SubbasinInfo (A K : Type) where
  s : Subbasin A K
  ts : Option (TmntSummary K)
  wq : Option (WqResult K)

/-- `subbasininfo_v` -/
def subbasininfoV : Except SqlError (List (SubbasinInfo A K)) := do
  let ts ← tmntSummary stArea tables
  let wq ← subbasinwqresultV (fun sr => Sql.eq (sr.bind (·.epoch)) (some "1980s")) tables
  let rows := Sql.leftJoin (fun s ts => Sql.eq ts.subbasin s.subbasin) tables.subbasin ts
  let rows := Sql.leftJoin (fun x wq => Sql.eq wq.subbasin x.1.subbasin) rows wq
  return Sql.orderBy (·.s.subbasin) (rows.map fun x => { s := x.1.1, ts := x.1.2, wq := x.2 })

end Queries

end Views

end StormPiper
