import StormPiper.Graph.Paths
import Mathlib.Data.List.ProdSigma
import Mathlib.Data.List.Nodup

/-!
# Finite directed graphs

A directed graph is the list of its nodes, in the order in which they were added, and the list of
its edges; the endpoints of every edge are nodes.  The operations are those of a mutable graph
(`addNode`, `addEdge`, `removeNode`, `reverse`), each with one lemma for the nodes and one for the
edges of its result.

`bridgeNode` joins every predecessor of a node to every successor and then removes the node;
`eliminate` does this for every node of a list that is not to be kept.  Whatever the order of the
list, the result has an edge exactly where the graph has a path through removed nodes
(`Eliminated`, `eliminated_eliminate`).
-/

namespace StormPiper

open Relation

/-- A finite directed graph. -/
structure DiGraph (α : Type*) where
  /-- The nodes, in order of insertion. -/
  nodes : List α
  /-- The edges, in order of insertion. -/
  edges : List (α × α)
  nodes_nodup : nodes.Nodup
  edges_mem : ∀ e ∈ edges, e.1 ∈ nodes ∧ e.2 ∈ nodes

namespace DiGraph

variable {α : Type*}

/-- There is an edge from `u` to `v`. -/
def Adj (g : DiGraph α) (u v : α) : Prop := (u, v) ∈ g.edges

theorem Adj.left_mem {g : DiGraph α} {u v : α} (h : g.Adj u v) : u ∈ g.nodes :=
  (g.edges_mem _ h).1

theorem Adj.right_mem {g : DiGraph α} {u v : α} (h : g.Adj u v) : v ∈ g.nodes :=
  (g.edges_mem _ h).2

theorem transGen_left_mem {g : DiGraph α} {u v : α} (h : TransGen g.Adj u v) : u ∈ g.nodes := by
  obtain ⟨w, hw, -⟩ := TransGen.head'_iff.1 h
  exact hw.left_mem

theorem transGen_right_mem {g : DiGraph α} {u v : α} (h : TransGen g.Adj u v) : v ∈ g.nodes := by
  obtain ⟨w, -, hw⟩ := TransGen.tail'_iff.1 h
  exact hw.right_mem

/-- The graph without nodes. -/
def empty : DiGraph α := ⟨[], [], .nil, by simp⟩

/-- `ng` is `g` with the nodes in `K` eliminated: its edges are the paths of `g` whose interior
lies in `K`. -/
structure Eliminated (g : DiGraph α) (K : α → Prop) (ng : DiGraph α) : Prop where
  mem_nodes : ∀ x, x ∈ ng.nodes ↔ x ∈ g.nodes ∧ ¬ K x
  adj : ∀ u v, ng.Adj u v ↔ Via g.Adj K u v ∧ ¬ K u ∧ ¬ K v

theorem Eliminated.refl (g : DiGraph α) : Eliminated g (fun _ => False) g :=
  ⟨by simp, by simp [via_none]⟩

theorem Eliminated.congr {g ng : DiGraph α} {K L : α → Prop} (h : Eliminated g K ng)
    (hKL : ∀ x, K x ↔ L x) : Eliminated g L ng := by
  have : K = L := funext fun x => propext (hKL x)
  exact this ▸ h

variable [DecidableEq α]

instance (g : DiGraph α) (u v : α) : Decidable (g.Adj u v) :=
  inferInstanceAs (Decidable ((u, v) ∈ g.edges))

/-- The sources of the edges into `n`. -/
def preds (g : DiGraph α) (n : α) : List α := (g.edges.filter fun e => e.2 = n).map Prod.fst

/-- The targets of the edges out of `n`. -/
def succs (g : DiGraph α) (n : α) : List α := (g.edges.filter fun e => e.1 = n).map Prod.snd

@[simp] theorem mem_preds {g : DiGraph α} {u n : α} : u ∈ g.preds n ↔ g.Adj u n := by
  simp [preds, Adj]

@[simp] theorem mem_succs {g : DiGraph α} {n v : α} : v ∈ g.succs n ↔ g.Adj n v := by
  simp [succs, Adj]

/-- Add a node, if it is not there. -/
def addNode (g : DiGraph α) (n : α) : DiGraph α where
  nodes := if n ∈ g.nodes then g.nodes else g.nodes ++ [n]
  edges := g.edges
  nodes_nodup := by
    split_ifs with h
    · exact g.nodes_nodup
    · exact g.nodes_nodup.append (by simp) (by simpa using h)
  edges_mem e he := by
    obtain ⟨h1, h2⟩ := g.edges_mem e he
    split_ifs <;> simp [h1, h2]

@[simp] theorem mem_nodes_addNode {g : DiGraph α} {n x : α} :
    x ∈ (g.addNode n).nodes ↔ x ∈ g.nodes ∨ x = n := by
  simp only [addNode]
  split_ifs with h
  · exact ⟨.inl, fun hx => hx.elim id fun e => e ▸ h⟩
  · simp

@[simp] theorem adj_addNode {g : DiGraph α} {n u v : α} : (g.addNode n).Adj u v ↔ g.Adj u v :=
  Iff.rfl

/-- Add an edge, and its endpoints where they are not there. -/
def addEdge (g : DiGraph α) (u v : α) : DiGraph α where
  nodes := ((g.addNode u).addNode v).nodes
  edges := if (u, v) ∈ g.edges then g.edges else g.edges ++ [(u, v)]
  nodes_nodup := ((g.addNode u).addNode v).nodes_nodup
  edges_mem e he := by
    have hmem : e ∈ g.edges ∨ e = (u, v) := by
      split_ifs at he with h
      · exact .inl he
      · simpa using he
    rcases hmem with h | rfl
    · simp [g.edges_mem e h]
    · simp

@[simp] theorem mem_nodes_addEdge {g : DiGraph α} {u v x : α} :
    x ∈ (g.addEdge u v).nodes ↔ x ∈ g.nodes ∨ x = u ∨ x = v := by
  simp [addEdge, or_assoc]

@[simp] theorem adj_addEdge {g : DiGraph α} {u v a b : α} :
    (g.addEdge u v).Adj a b ↔ g.Adj a b ∨ (a = u ∧ b = v) := by
  simp only [Adj, addEdge]
  split_ifs with h
  · exact ⟨.inl, fun hab => hab.elim id fun ⟨e1, e2⟩ => e1 ▸ e2 ▸ h⟩
  · simp

/-- Remove a node and its edges. -/
def removeNode (g : DiGraph α) (n : α) : DiGraph α where
  nodes := g.nodes.filter (· ≠ n)
  edges := g.edges.filter fun e => e.1 ≠ n ∧ e.2 ≠ n
  nodes_nodup := g.nodes_nodup.filter _
  edges_mem e he := by
    obtain ⟨he, hn⟩ := List.mem_filter.1 he
    simp only [decide_eq_true_eq] at hn
    obtain ⟨h1, h2⟩ := g.edges_mem e he
    simp [h1, h2, hn.1, hn.2]

@[simp] theorem mem_nodes_removeNode {g : DiGraph α} {n x : α} :
    x ∈ (g.removeNode n).nodes ↔ x ∈ g.nodes ∧ x ≠ n := by
  simp [removeNode]

@[simp] theorem adj_removeNode {g : DiGraph α} {n u v : α} :
    (g.removeNode n).Adj u v ↔ g.Adj u v ∧ u ≠ n ∧ v ≠ n := by
  simp [Adj, removeNode]

/-- The graph with every edge turned around. -/
def reverse (g : DiGraph α) : DiGraph α where
  nodes := g.nodes
  edges := g.edges.map Prod.swap
  nodes_nodup := g.nodes_nodup
  edges_mem e he := by
    obtain ⟨e', he', rfl⟩ := List.mem_map.1 he
    exact (g.edges_mem e' he').symm

/-! ### Eliminating nodes -/

/-- Add a list of edges. -/
def addEdges (g : DiGraph α) (es : List (α × α)) : DiGraph α :=
  es.foldl (fun g e => g.addEdge e.1 e.2) g

theorem adj_addEdges {g : DiGraph α} {es : List (α × α)} {u v : α} :
    (g.addEdges es).Adj u v ↔ g.Adj u v ∨ (u, v) ∈ es := by
  unfold addEdges
  induction es generalizing g with
  | nil => simp
  | cons e es ih =>
    rw [List.foldl_cons, ih, adj_addEdge, List.mem_cons, or_assoc]
    simp [Prod.ext_iff]

theorem mem_nodes_addEdges {g : DiGraph α} {es : List (α × α)}
    (hes : ∀ e ∈ es, e.1 ∈ g.nodes ∧ e.2 ∈ g.nodes) {x : α} :
    x ∈ (g.addEdges es).nodes ↔ x ∈ g.nodes := by
  unfold addEdges
  induction es generalizing g with
  | nil => rfl
  | cons e es ih =>
    obtain ⟨h1, h2⟩ := hes e List.mem_cons_self
    have hnodes : ∀ y, y ∈ (g.addEdge e.1 e.2).nodes ↔ y ∈ g.nodes := by
      intro y
      rw [mem_nodes_addEdge]
      exact ⟨fun h => h.elim id fun h => h.elim (· ▸ h1) (· ▸ h2), .inl⟩
    rw [List.foldl_cons, ih fun e' he' => ?_, hnodes]
    simpa [hnodes] using hes e' (List.mem_cons_of_mem _ he')

/-- Join every predecessor of `n` to every successor, then remove `n`. -/
def bridgeNode (g : DiGraph α) (n : α) : DiGraph α :=
  (g.addEdges ((g.preds n).product (g.succs n))).removeNode n

theorem adj_bridgeNode {g : DiGraph α} {n u v : α} :
    (g.bridgeNode n).Adj u v ↔ bridge g.Adj n u v := by
  simp [bridgeNode, bridge, adj_addEdges]

theorem mem_nodes_bridgeNode {g : DiGraph α} {n x : α} :
    x ∈ (g.bridgeNode n).nodes ↔ x ∈ g.nodes ∧ x ≠ n := by
  rw [bridgeNode, mem_nodes_removeNode, mem_nodes_addEdges]
  rintro ⟨i, o⟩ he
  obtain ⟨hi, ho⟩ := List.mem_product.1 he
  exact ⟨(mem_preds.1 hi).left_mem, (mem_succs.1 ho).right_mem⟩

/-- Bridge over and remove, one after the other, the nodes of `order` that are not in `keep`. -/
def eliminate (keep : List α) (order : List α) (g : DiGraph α) : DiGraph α :=
  order.foldl (fun ng n => if n ∈ keep then ng else ng.bridgeNode n) g

theorem Eliminated.bridgeNode {g ng : DiGraph α} {K : α → Prop} {n : α}
    (h : Eliminated g K ng) (hn : ¬ K n) :
    Eliminated g (fun x => K x ∨ x = n) (ng.bridgeNode n) where
  mem_nodes x := by rw [mem_nodes_bridgeNode, h.mem_nodes, not_or, and_assoc]
  adj u v := by rw [adj_bridgeNode, bridge_via hn h.adj]

theorem Eliminated.eliminate {g : DiGraph α} (keep : List α) {order : List α}
    (hnd : order.Nodup) {ng : DiGraph α} {K : α → Prop} (h : Eliminated g K ng)
    (hK : ∀ n ∈ order, ¬ K n) :
    Eliminated g (fun x => K x ∨ (x ∈ order ∧ x ∉ keep)) (ng.eliminate keep order) := by
  unfold DiGraph.eliminate
  induction order generalizing ng K with
  | nil => exact h.congr (by simp)
  | cons n order ih =>
    obtain ⟨hn, hnd⟩ := List.nodup_cons.1 hnd
    rw [List.foldl_cons]
    by_cases hkeep : n ∈ keep
    · rw [if_pos hkeep]
      refine (ih hnd h fun m hm => hK m (List.mem_cons_of_mem _ hm)).congr fun x => ?_
      by_cases hx : x = n
      · subst hx; simp [hn, hkeep]
      · simp [hx]
    · rw [if_neg hkeep]
      have hb := h.bridgeNode (hK n List.mem_cons_self)
      refine (ih hnd hb fun m hm => ?_).congr fun x => ?_
      · have hne : m ≠ n := fun e => hn (e ▸ hm)
        simp [hK m (List.mem_cons_of_mem _ hm), hne]
      · by_cases hx : x = n
        · subst hx; simp [hkeep]
        · simp [hx]

/-- Eliminating the nodes outside `keep` leaves the kept nodes, with an edge for every path
through nodes that were not kept. -/
theorem eliminated_eliminate (g : DiGraph α) (keep : List α) :
    Eliminated g (fun x => x ∈ g.nodes ∧ x ∉ keep) (g.eliminate keep g.nodes) :=
  ((Eliminated.refl g).eliminate keep g.nodes_nodup (by simp)).congr (by simp)

end DiGraph

end StormPiper
