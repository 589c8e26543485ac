import StormPiper.Dependencies.Dirty

/-!
# The simplified graph

`simplify_graph` visits the nodes of a graph and removes those that are not kept from a copy, after
it has joined their predecessors to their successors.  The nodes are looked up in the copy, which
loses nodes on the way.  Every node is visited once, so that it is still there when it is looked up.

* `simplifyGraphStep`, `simplifyGraphIn` : the loop with its lookups, in any order of the nodes.
* `simplifyGraphIn_eq` : no lookup fails, and the result is that of `DiGraph.eliminate`.
* `simplifyGraphIn_reachability` : the edges of the result are the paths of the graph through nodes
  that are not kept, in whatever order the nodes are visited.
-/

namespace StormPiper

open Relation

variable {α : Type} [DecidableEq α]

/-- `g.successors(n)`. -/
def successors (g : DiGraph α) (n : α) : Except PyError (List α) :=
  if n ∈ g.nodes then .ok (g.succs n) else .error .networkXError

/-- `g.remove_node(n)`. -/
def removeNode (g : DiGraph α) (n : α) : Except PyError (DiGraph α) :=
  if n ∈ g.nodes then .ok (g.removeNode n) else .error .networkXError

/-- One turn of the loop of `simplify_graph`. -/
def simplifyGraphStep (nodes : List α) (ng : DiGraph α) (n : α) : Except PyError (DiGraph α) :=
  if n ∈ nodes then .ok ng
  else do
    let preds ← predecessors ng n
    let succs ← successors ng n
    removeNode (ng.addEdges (preds.product succs)) n

/-- The loop over the nodes in an order. -/
def simplifyGraphIn (order : List α) (g : DiGraph α) (nodes : List α) :
    Except PyError (DiGraph α) :=
  order.foldlM (simplifyGraphStep nodes) g

/-- The nodes are those that are kept, and the edges are the paths of length at least one whose
interior nodes are not kept. -/
structure PreservesReachability (g : DiGraph α) (nodes : List α) (ng : DiGraph α) : Prop where
  mem_nodes : ∀ x, x ∈ ng.nodes ↔ x ∈ g.nodes ∧ x ∈ nodes
  adj : ∀ u v, ng.Adj u v ↔ u ∈ ng.nodes ∧ v ∈ ng.nodes ∧
    ∃ interior : List α, (∀ x ∈ interior, x ∉ nodes) ∧ (u :: (interior ++ [v])).IsChain g.Adj

/-- A node that is there is bridged over and removed. -/
theorem simplifyGraphStep_eq {nodes : List α} {ng : DiGraph α} {n : α} (hn : n ∈ ng.nodes) :
    simplifyGraphStep nodes ng n = .ok (if n ∈ nodes then ng else ng.bridgeNode n) := by
  unfold simplifyGraphStep
  split_ifs
  · rfl
  · have hmem : n ∈ (ng.addEdges ((ng.preds n).product (ng.succs n))).nodes := by
      rw [DiGraph.mem_nodes_addEdges]
      · exact hn
      · rintro ⟨i, o⟩ he
        obtain ⟨hi, ho⟩ := List.mem_product.1 he
        exact ⟨(DiGraph.mem_preds.1 hi).left_mem, (DiGraph.mem_succs.1 ho).right_mem⟩
    rw [predecessors, if_pos hn, ok_bind, successors, if_pos hn, ok_bind, removeNode, if_pos hmem]
    rfl

/-- **No lookup fails.** -/
theorem simplifyGraphIn_eq {nodes order : List α} (hnd : order.Nodup) {g : DiGraph α}
    (h : ∀ n ∈ order, n ∈ g.nodes) :
    simplifyGraphIn order g nodes = .ok (g.eliminate nodes order) := by
  unfold simplifyGraphIn DiGraph.eliminate
  induction order generalizing g with
  | nil => rfl
  | cons n order ih =>
    obtain ⟨hn, hnd⟩ := List.nodup_cons.1 hnd
    rw [List.foldlM_cons, simplifyGraphStep_eq (h n List.mem_cons_self), ok_bind, List.foldl_cons]
    refine ih hnd fun m hm => ?_
    -- the nodes still to come are others than the one that is removed
    have hne : m ≠ n := by
      rintro rfl
      exact hn hm
    have hmem : m ∈ g.nodes := h m (List.mem_cons_of_mem n hm)
    split_ifs
    · exact hmem
    · exact DiGraph.mem_nodes_bridgeNode.2 ⟨hmem, hne⟩

omit [DecidableEq α] in
/-- An interior node of a path is a node. -/
theorem via_nodes_iff {g : DiGraph α} {nodes : List α} {u v : α} :
    Via g.Adj (fun x => x ∈ g.nodes ∧ x ∉ nodes) u v ↔ Via g.Adj (fun x => x ∉ nodes) u v := by
  constructor
  · exact fun h => h.mono fun _ => And.right
  · intro h
    induction h with
    | edge hr => exact .edge hr
    | cons hr hw _ ih => exact .cons hr ⟨hr.right_mem, hw⟩ ih

theorem preservesReachability_eliminate {g : DiGraph α} {nodes order : List α}
    (h : order.Perm g.nodes) : PreservesReachability g nodes (g.eliminate nodes order) := by
  have helim : DiGraph.Eliminated g (fun x => x ∈ g.nodes ∧ x ∉ nodes) (g.eliminate nodes order) :=
    ((DiGraph.Eliminated.refl g).eliminate nodes (h.nodup_iff.2 g.nodes_nodup) (by simp)).congr
      fun x => by simp [h.mem_iff]
  have hmem : ∀ x, x ∈ (g.eliminate nodes order).nodes ↔ x ∈ g.nodes ∧ x ∈ nodes := by
    intro x
    rw [helim.mem_nodes]
    tauto
  refine ⟨hmem, fun u v => ?_⟩
  rw [helim.adj, via_nodes_iff, via_iff_exists_isChain, hmem, hmem]
  constructor
  · rintro ⟨⟨interior, hinterior, hchain⟩, hu, hv⟩
    have hvia : Via g.Adj (fun x => x ∉ nodes) u v :=
      via_iff_exists_isChain.2 ⟨interior, hinterior, hchain⟩
    have hgu : u ∈ g.nodes := DiGraph.transGen_left_mem hvia.transGen
    have hgv : v ∈ g.nodes := DiGraph.transGen_right_mem hvia.transGen
    exact ⟨⟨hgu, by tauto⟩, ⟨hgv, by tauto⟩, interior, hinterior, hchain⟩
  · rintro ⟨⟨-, hu⟩, ⟨-, hv⟩, hpath⟩
    exact ⟨hpath, fun h => h.2 hu, fun h => h.2 hv⟩

/-- **Node elimination preserves reachability.**  In whatever order the nodes are visited the loop
ends, and its result has the kept nodes and an edge for each path through nodes that are not kept;
so any other order gives the same nodes and edges. -/
theorem simplifyGraphIn_reachability (g : DiGraph α) (nodes : List α) {order : List α}
    (h : order.Perm g.nodes) : ∃ ng, simplifyGraphIn order g nodes = .ok ng ∧
      PreservesReachability g nodes ng ∧
      ∀ order' : List α, order'.Perm g.nodes → ∃ ng', simplifyGraphIn order' g nodes = .ok ng' ∧
        (∀ x, x ∈ ng'.nodes ↔ x ∈ ng.nodes) ∧ ∀ u v, ng'.Adj u v ↔ ng.Adj u v := by
  have hloop {order : List α} (h : order.Perm g.nodes) :
      simplifyGraphIn order g nodes = .ok (g.eliminate nodes order) :=
    simplifyGraphIn_eq (h.nodup_iff.2 g.nodes_nodup) fun _ => h.mem_iff.1
  have hg : PreservesReachability g nodes (g.eliminate nodes order) :=
    preservesReachability_eliminate h
  refine ⟨_, hloop h, hg, fun order' h' => ⟨_, hloop h', fun x => ?_, fun u v => ?_⟩⟩
  · rw [(preservesReachability_eliminate h').mem_nodes, hg.mem_nodes]
  · have hg' : PreservesReachability g nodes (g.eliminate nodes order') :=
      preservesReachability_eliminate h'
    rw [hg'.adj, hg.adj, hg'.mem_nodes, hg'.mem_nodes, hg.mem_nodes, hg.mem_nodes]

/-- A triangle with a loop at the node that is not kept. -/
theorem simplifyGraphIn_reachability_triangle :
    let g : DiGraph ℕ :=
      (((DiGraph.empty.addEdge 0 1).addEdge 1 1).addEdge 1 2).addEdge 2 0
    ∃ ng, simplifyGraphIn [2, 1, 0] g [0, 2] = .ok ng ∧ PreservesReachability g [0, 2] ng ∧
      ∀ order' : List ℕ, order'.Perm g.nodes → ∃ ng', simplifyGraphIn order' g [0, 2] = .ok ng' ∧
        (∀ x, x ∈ ng'.nodes ↔ x ∈ ng.nodes) ∧ ∀ u v, ng'.Adj u v ↔ ng.Adj u v :=
  simplifyGraphIn_reachability _ _ (by decide)

end StormPiper
