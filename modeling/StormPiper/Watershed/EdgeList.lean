import StormPiper.Python.Text
import StormPiper.Frame.Basic
import StormPiper.Graph.DiGraph

/-!
# The edges of the watershed graph

`buildEdgeList` (`src/graph.py`) makes the edge list of the watershed from the table `lgu_boundary`
and the view `tmnt_v`.  The nodes are text, of four kinds: land surfaces `ls_…`, treatment
facilities, subbasins `SB_…` and basins `B_…`; whatever has no target drains to `PUGET_SOUND`.
The edges come in four families, one for each kind of source:

* `daToTmnt` : a land surface drains to its facility, or else to its subbasin,
* `tmntToSubbasin` : a facility drains to the subbasin that it is in,
* `subbasinToWshed` : a subbasin drains to its basin,
* `wshedToSound` : a basin drains to the sound.

`initGraphFromDf` (`src/solve_structural_wq.py`) is the directed graph of an edge list.
-/

namespace StormPiper

open StormPiper.Frame

/-- A row of `lgu_boundary` without its geometry. -/
structure LguBoundary where
  altid : Option String
  relid : Option String
  nodeId : String
  subbasin : Option String
  basinname : Option String
  deriving Repr, DecidableEq

/-- A row of `tmnt_v`, with the columns that an edge has. -/
structure TmntNode where
  nodeId : String
  subbasin : Option String
  basinname : Option String
  deriving Repr, DecidableEq

/-- `ntype` -/
inductive NodeType where
  | landSurface
  | tmntFacility
  deriving Repr, DecidableEq

/-- An edge of the graph with the data of its source. -/
structure Edge where
  source : Option String
  target : Option String
  ntype : NodeType
  subbasin : Option String
  basinname : Option String
  deriving Repr, DecidableEq

/-- `"SB_" + subbasin`. -/
def sbNode (subbasin : Option String) : Option String := subbasin.map ("SB_" ++ ·)

/-- `"B_" + basinname.str.replace(" ", "_")`. -/
def bNode (basinname : Option String) : Option String :=
  basinname.map fun b => "B_" ++ replace b " " "_"

/-- The node that everything drains to. -/
def PUGET_SOUND : String := "PUGET_SOUND"

/-- An edge out of a land surface, a subbasin or a basin. -/
def LguBoundary.edge (r : LguBoundary) (source target : Option String) : Edge :=
  { source, target, ntype := .landSurface, subbasin := r.subbasin, basinname := r.basinname }

/-- The facility of a land surface, or its subbasin. -/
def LguBoundary.dsNodeId (r : LguBoundary) : Option String := r.relid <|> sbNode r.subbasin

/-- `da_to_tmnt`: from the delineations to what they drain to. -/
def daToTmnt (lgu : List LguBoundary) : List Edge :=
  (lgu.filter fun r => startswith r.nodeId "ls_").map fun r => r.edge (some r.nodeId) r.dsNodeId

/-- `tmnt_to_subbasin`: from the facilities to their subbasins. -/
def tmntToSubbasin (tmntV : List TmntNode) : List Edge :=
  tmntV.map fun f =>
    { source := some f.nodeId, target := sbNode f.subbasin, ntype := .tmntFacility,
      subbasin := f.subbasin, basinname := f.basinname }

/-- `subbasin_to_wshed`: from the subbasins to their basins. -/
def subbasinToWshed (lgu : List LguBoundary) : List Edge :=
  (dropDuplicates LguBoundary.subbasin lgu).map fun r =>
    r.edge (sbNode r.subbasin) (bNode r.basinname)

/-- `wshed_to_sound`: from the basins to the sound. -/
def wshedToSound (lgu : List LguBoundary) : List Edge :=
  ((dropDuplicates LguBoundary.basinname lgu).filter fun r => r.altid.isSome).map fun r =>
    r.edge (bNode r.basinname) (some PUGET_SOUND)

/-- The edge list of the watershed. -/
def buildEdgeList (lguBoundary : List LguBoundary) (tmntV : Option (List TmntNode)) : List Edge :=
  (daToTmnt lguBoundary ++ tmntToSubbasin (tmntV.getD []) ++ subbasinToWshed lguBoundary ++
    wshedToSound lguBoundary).map fun e => { e with target := some (e.target.getD PUGET_SOUND) }

/-- The graph of an edge list. -/
def initGraphFromDf (edgeList : List Edge) : DiGraph (Option String) :=
  DiGraph.empty.addEdges (edgeList.map fun e => (e.source, e.target))

theorem adj_initGraphFromDf {edgeList : List Edge} {u v : Option String} :
    (initGraphFromDf edgeList).Adj u v ↔ ∃ e ∈ edgeList, e.source = u ∧ e.target = v := by
  have hempty : ¬ (DiGraph.empty : DiGraph (Option String)).Adj u v := List.not_mem_nil
  simp [initGraphFromDf, DiGraph.adj_addEdges, hempty]

/-- There is an edge from `u` to `v`, where edges without a target go to the sound. -/
def Flows (edges : List Edge) (u v : Option String) : Prop :=
  ∃ e ∈ edges, e.source = u ∧ some (e.target.getD PUGET_SOUND) = v

theorem flows_append {es es' : List Edge} {u v : Option String} :
    Flows (es ++ es') u v ↔ Flows es u v ∨ Flows es' u v := by
  simp only [Flows, List.mem_append, or_and_right, exists_or]

theorem flows_map {α : Type} {rows : List α} {f : α → Edge} {u v : Option String} :
    Flows (rows.map f) u v ↔
      ∃ r ∈ rows, (f r).source = u ∧ some ((f r).target.getD PUGET_SOUND) = v := by
  simp [Flows]

theorem adj_buildEdgeList {lgu : List LguBoundary} {tmntV : Option (List TmntNode)}
    {u v : Option String} :
    (initGraphFromDf (buildEdgeList lgu tmntV)).Adj u v ↔
      ((Flows (daToTmnt lgu) u v ∨ Flows (tmntToSubbasin (tmntV.getD [])) u v) ∨
        Flows (subbasinToWshed lgu) u v) ∨ Flows (wshedToSound lgu) u v := by
  rw [adj_initGraphFromDf, buildEdgeList, ← flows_append, ← flows_append, ← flows_append]
  constructor
  · rintro ⟨e, he, hsource, htarget⟩
    obtain ⟨e', he', rfl⟩ := List.mem_map.1 he
    exact ⟨e', he', hsource, htarget⟩
  · rintro ⟨e, he, hsource, htarget⟩
    exact ⟨_, List.mem_map_of_mem he, hsource, htarget⟩

theorem flows_daToTmnt {lgu : List LguBoundary} {u v : Option String} :
    Flows (daToTmnt lgu) u v ↔
      ∃ r ∈ lgu, startswith r.nodeId "ls_" = true ∧ some r.nodeId = u ∧
        some (r.dsNodeId.getD PUGET_SOUND) = v := by
  simp only [daToTmnt, flows_map, List.mem_filter, and_assoc, LguBoundary.edge]

theorem flows_tmntToSubbasin {tmntV : List TmntNode} {u v : Option String} :
    Flows (tmntToSubbasin tmntV) u v ↔
      ∃ f ∈ tmntV, some f.nodeId = u ∧ some ((sbNode f.subbasin).getD PUGET_SOUND) = v := by
  simp only [tmntToSubbasin, flows_map]

theorem flows_subbasinToWshed {lgu : List LguBoundary} {u v : Option String} :
    Flows (subbasinToWshed lgu) u v ↔
      ∃ r, IsFirst LguBoundary.subbasin lgu r ∧ sbNode r.subbasin = u ∧
        some ((bNode r.basinname).getD PUGET_SOUND) = v := by
  simp only [subbasinToWshed, flows_map, mem_dropDuplicates, LguBoundary.edge]

theorem flows_wshedToSound {lgu : List LguBoundary} {u v : Option String} :
    Flows (wshedToSound lgu) u v ↔
      ∃ r, IsFirst LguBoundary.basinname lgu r ∧ r.altid.isSome ∧ bNode r.basinname = u ∧
        some PUGET_SOUND = v := by
  simp only [wshedToSound, flows_map, List.mem_filter, mem_dropDuplicates, and_assoc,
    LguBoundary.edge, Option.getD_some]

end StormPiper
