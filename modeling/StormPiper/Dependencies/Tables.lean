import StormPiper.Dependencies.Dirty

/-!
# The dependency graph of the database

`Table` lists the names that the hand-written adjacency list of `database/dependencies.py`
mentions; every other name that can be logged is `Table.other`.  `OG` is the graph that the source
builds from that list: read in the order of the rows, then turned around so that its edges follow
the flow of information.

`ancestors` computes the ancestors of a table; `mem_ancestors` identifies them with the tables from
which there is a path, for every graph on which the computation has reached a closed set.
-/

namespace StormPiper

open Relation

/-- The tables and views of the database. -/
inductive Table where
  | met
  | tmntFacility
  | tmntFacilityDelineation
  | subbasin
  | tmntSourceControl
  | tmntFacilityAttribute
  | tmntFacilityCost
  | globalCostSetting
  | scenario
  | tmntV
  | lguBoundary
  | graphEdge
  | lguLoad
  | tmntSourceControlUpstreamLoadReduced
  | lguLoadToStructural
  | resultBlob
  | resultV
  | loadToDsSrcCtrl
  | tmntSourceControlDownstreamLoadReduced
  | subbasinResult
  /-- A table that the adjacency list does not mention, such as the global settings. -/
  | other (name : String)
  deriving Repr, DecidableEq

open Table

/-- The rows of the adjacency list: a table and the tables it depends on. -/
def DEPENDENCY_ADJACENCY_LIST : List (Table × List Table) :=
  [(met, []),
   (tmntFacility, []),
   (tmntFacilityDelineation, []),
   (subbasin, []),
   (tmntSourceControl, []),
   (tmntFacilityAttribute, []),
   (tmntFacilityCost, [globalCostSetting]),
   (scenario, [globalCostSetting]),
   (tmntV, [tmntFacilityAttribute, tmntFacility, tmntFacilityCost]),
   (lguBoundary, [subbasin, tmntFacilityDelineation]),
   (graphEdge, [lguBoundary, tmntFacilityAttribute, tmntFacility]),
   (lguLoad, [lguBoundary]),
   (tmntSourceControlUpstreamLoadReduced, [lguLoad, tmntSourceControl, lguBoundary]),
   (lguLoadToStructural, [tmntSourceControlUpstreamLoadReduced, lguLoad]),
   (resultBlob, [lguLoadToStructural, graphEdge, tmntFacilityAttribute, met, tmntFacility]),
   (resultV, [resultBlob]),
   (loadToDsSrcCtrl, [resultBlob]),
   (tmntSourceControlDownstreamLoadReduced, [loadToDsSrcCtrl, tmntSourceControl, lguBoundary]),
   (subbasinResult, [loadToDsSrcCtrl, tmntSourceControlDownstreamLoadReduced])]

/-- `nx.read_adjlist`: each row adds its first name as a node and an edge to each of the others. -/
def readAdjlist {α : Type*} [DecidableEq α] (rows : List (α × List α)) : DiGraph α :=
  rows.foldl (fun g row => row.2.foldl (fun g v => g.addEdge row.1 v) (g.addNode row.1))
    DiGraph.empty

/-- The static graph defined by the adjacency list, in the order of information flow. -/
def OG : DiGraph Table := (readAdjlist DEPENDENCY_ADJACENCY_LIST).reverse

/-! ### Ancestors -/

section Ancestors

variable {α : Type} [DecidableEq α]

/-- Add the predecessors of the tables in `S` until there are no new ones, at most `n` times. -/
def closePreds (g : DiGraph α) : ℕ → List α → List α
  | 0, S => S
  | n + 1, S =>
    match ((S.flatMap g.preds).filter (· ∉ S)).dedup with
    | [] => S
    | new => closePreds g n (S ++ new)

/-- The nodes from which there is a path to `t`. -/
def ancestors (g : DiGraph α) (t : α) : List α := closePreds g g.nodes.length (g.preds t).dedup

theorem transGen_of_mem_closePreds {g : DiGraph α} {t : α} {n : ℕ} {S : List α}
    (hS : ∀ u ∈ S, TransGen g.Adj u t) : ∀ u ∈ closePreds g n S, TransGen g.Adj u t := by
  induction n generalizing S with
  | zero => exact hS
  | succ n ih =>
    rw [closePreds]
    split
    · exact hS
    · rename_i new hne
      refine ih fun u hu => ?_
      rcases List.mem_append.1 hu with hu | hu
      · exact hS u hu
      · have hmem := List.mem_of_mem_filter (List.mem_dedup.1 hu)
        obtain ⟨w, hw, huw⟩ := List.mem_flatMap.1 hmem
        exact .head (DiGraph.mem_preds.1 huw) (hS w hw)

theorem mem_closePreds_of_mem {g : DiGraph α} {n : ℕ} {S : List α} {u : α} (hu : u ∈ S) :
    u ∈ closePreds g n S := by
  induction n generalizing S with
  | zero => exact hu
  | succ n ih =>
    rw [closePreds]
    split
    · exact hu
    · exact ih (List.mem_append_left _ hu)

theorem closePreds_nil (g : DiGraph α) (n : ℕ) : closePreds g n [] = [] := by
  cases n <;> simp [closePreds]

/-- The computed ancestors contain all their predecessors. -/
def AncestorsClosed (g : DiGraph α) (t : α) : Prop :=
  ∀ v ∈ ancestors g t, ∀ u ∈ g.preds v, u ∈ ancestors g t

instance (g : DiGraph α) (t : α) : Decidable (AncestorsClosed g t) :=
  inferInstanceAs (Decidable (∀ _ ∈ _, ∀ _ ∈ _, _))

theorem mem_ancestors {g : DiGraph α} {t u : α} (h : AncestorsClosed g t) :
    u ∈ ancestors g t ↔ TransGen g.Adj u t := by
  constructor
  · intro hu
    exact transGen_of_mem_closePreds (fun w hw => .single (by simpa using hw)) u hu
  · intro hu
    induction hu using TransGen.head_induction_on with
    | single hr => exact mem_closePreds_of_mem (by simpa using hr)
    | head hr _ ih => exact h _ ih _ (DiGraph.mem_preds.2 hr)

end Ancestors

/-! ### The graph of the database -/

theorem OG_edges : OG.edges =
    [(globalCostSetting, tmntFacilityCost), (globalCostSetting, scenario),
     (tmntFacilityAttribute, tmntV), (tmntFacility, tmntV), (tmntFacilityCost, tmntV),
     (subbasin, lguBoundary), (tmntFacilityDelineation, lguBoundary),
     (lguBoundary, graphEdge), (tmntFacilityAttribute, graphEdge), (tmntFacility, graphEdge),
     (lguBoundary, lguLoad),
     (lguLoad, tmntSourceControlUpstreamLoadReduced),
     (tmntSourceControl, tmntSourceControlUpstreamLoadReduced),
     (lguBoundary, tmntSourceControlUpstreamLoadReduced),
     (tmntSourceControlUpstreamLoadReduced, lguLoadToStructural), (lguLoad, lguLoadToStructural),
     (lguLoadToStructural, resultBlob), (graphEdge, resultBlob),
     (tmntFacilityAttribute, resultBlob), (met, resultBlob), (tmntFacility, resultBlob),
     (resultBlob, resultV),
     (resultBlob, loadToDsSrcCtrl),
     (loadToDsSrcCtrl, tmntSourceControlDownstreamLoadReduced),
     (tmntSourceControl, tmntSourceControlDownstreamLoadReduced),
     (lguBoundary, tmntSourceControlDownstreamLoadReduced),
     (loadToDsSrcCtrl, subbasinResult),
     (tmntSourceControlDownstreamLoadReduced, subbasinResult)] := by decide +kernel

/-- A rank that rises along every edge of `OG`. -/
def rank : Table → ℕ
  | tmntFacilityCost | scenario | lguBoundary => 1
  | tmntV | graphEdge | lguLoad => 2
  | tmntSourceControlUpstreamLoadReduced => 3
  | lguLoadToStructural => 4
  | resultBlob => 5
  | resultV | loadToDsSrcCtrl => 6
  | tmntSourceControlDownstreamLoadReduced => 7
  | subbasinResult => 8
  | _ => 0

theorem acyclic_OG : Acyclic OG.Adj := by
  have hrank : ∀ e ∈ OG.edges, rank e.1 < rank e.2 := by rw [OG_edges]; decide
  exact acyclic_of_rank rank fun u v h => hrank (u, v) h

theorem ancestorsClosed_OG (t : Table) : AncestorsClosed OG t := by
  have hnodes : ∀ t ∈ OG.nodes, AncestorsClosed OG t := by decide +kernel
  by_cases ht : t ∈ OG.nodes
  · exact hnodes t ht
  · have hpreds : OG.preds t = [] :=
      List.eq_nil_iff_forall_not_mem.2 fun u hu => ht (DiGraph.mem_preds.1 hu).right_mem
    have hanc : ancestors OG t = [] := by rw [ancestors, hpreds]; exact closePreds_nil _ _
    simp [AncestorsClosed, hanc]

theorem mem_ancestors_OG {t u : Table} : u ∈ ancestors OG t ↔ TransGen OG.Adj u t :=
  mem_ancestors (ancestorsClosed_OG t)

instance (u t : Table) : Decidable (TransGen OG.Adj u t) := decidable_of_iff _ mem_ancestors_OG

end StormPiper
