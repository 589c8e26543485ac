import StormPiper.Graph.DiGraph
import StormPiper.Run.Recency
import StormPiper.Python.Basic
import Mathlib.Data.Finset.Card
import Mathlib.Data.List.MinMax

/-!
# The dirty check

The functions of `database/dependencies.py` for an arbitrary dependency graph: an edge `u → v`
says that table `v` is computed from table `u`, and the changelog lists the tables that were ever
logged, oldest change first.

* `simplifyGraph` removes the tables that were never logged, bridging over them;
* `checkIfDepsAreSorted` walks backwards from a table and compares changelog positions;
* `isDirty` is the negated outcome of that walk.

`isDirty_spec` says what the walk decides, for every acyclic graph: a table is dirty exactly when
some table `v`, itself or an ancestor, was logged before one of its own ancestors `u`
(`OutOfOrder`).
-/

namespace StormPiper

open Relation Recency

variable {α : Type} [DecidableEq α]

/-- The subgraph of `g` at `nodes`, with the predecessors and successors of every missing node
connected. -/
def simplifyGraph (g : DiGraph α) (nodes : List α) : DiGraph α := g.eliminate nodes g.nodes

/-- `g.predecessors(n)`. -/
def predecessors (g : DiGraph α) (n : α) : Except PyError (List α) :=
  if n ∈ g.nodes then .ok (g.preds n) else .error .networkXError

/-- The table is newer in the changelog than each of its predecessors. -/
def checkIfSorted (preds : List α) (tablename : α) (changelog : List α) : Except PyError Bool :=
  if preds.length = 0 then .ok true
  else do
    -- discard tables on which we are not dependant
    let changelogSlim := changelog.filter (· ∈ preds)
    let maxi ← pyMax (← changelogSlim.mapM (index changelog))
    let tablenamei ← index changelog tablename
    return decide (maxi < tablenamei)

/-- The table, its dependencies, and theirs in turn, are sorted in time.  A recursion deeper than
`depth` ends in a `RecursionError`. -/
def checkIfDepsAreSorted (g : DiGraph α) (changelog : List α) : ℕ → α → Except PyError Bool
  | 0, _ => .error .recursionError
  | depth + 1, tablename => do
    let preds ← predecessors g tablename
    let tableIsSorted ← checkIfSorted preds tablename changelog
    if tableIsSorted then preds.allM (checkIfDepsAreSorted g changelog depth)
    else return false

/-- The table, or a table it depends on, is older than one of its own dependencies.  The depth is
that of a walk without repetition: a deeper one goes round a cycle and never ends. -/
def isDirty (g : DiGraph α) (tablename : α) (changelog : List α) : Except PyError Bool := do
  let ng := simplifyGraph g changelog
  let isSorted ← checkIfDepsAreSorted ng changelog (ng.nodes.length + 1) tablename
  return !isSorted

/-- Some logged `v`, the table itself or an ancestor, was logged before one of its own logged
ancestors `u`. -/
def OutOfOrder (g : DiGraph α) (changelog : List α) (t : α) : Prop :=
  ∃ u v, ReflTransGen g.Adj v t ∧ TransGen g.Adj u v ∧ Before changelog v u

/-! ### One comparison -/

theorem index_of_mem {xs : List α} {x : α} (h : x ∈ xs) : index xs x = .ok (xs.idxOf x) :=
  if_pos h

theorem mapM_index {xs ys : List α} (h : ∀ x ∈ ys, x ∈ xs) :
    ys.mapM (index xs) = .ok (ys.map xs.idxOf) := by
  induction ys with
  | nil => rfl
  | cons y ys ih =>
    rw [List.mapM_cons, index_of_mem (h y List.mem_cons_self),
      ih fun x hx => h x (List.mem_cons_of_mem _ hx)]
    rfl

theorem pyMax_lt {xs : List ℕ} (h : xs ≠ []) {k : ℕ} :
    ∃ m, pyMax xs = .ok m ∧ (m < k ↔ ∀ x ∈ xs, x < k) := by
  obtain ⟨m, hm⟩ : ∃ m, xs.max? = some m := by
    cases h' : xs.max? with
    | none => exact absurd (List.max?_eq_none_iff.1 h') h
    | some m => exact ⟨m, rfl⟩
  obtain ⟨hmem, hle⟩ := List.max?_eq_some_iff.1 hm
  refine ⟨m, by simp [pyMax, hm], fun h x hx => ?_, fun h => h m hmem⟩
  have := hle x hx
  omega

theorem checkIfSorted_spec {preds : List α} {t : α} {changelog : List α}
    (hpreds : ∀ u ∈ preds, u ∈ changelog) (ht : t ∈ changelog) :
    ∃ b, checkIfSorted preds t changelog = .ok b ∧
      (b = true ↔ ∀ u ∈ preds, changelog.idxOf u < changelog.idxOf t) := by
  cases preds with
  | nil => exact ⟨true, rfl, by simp⟩
  | cons p ps =>
    set slim := changelog.filter (· ∈ p :: ps) with hslim
    have hp : p ∈ slim := by simp [hslim, hpreds p List.mem_cons_self]
    have hmap : slim.mapM (index changelog) = .ok (slim.map changelog.idxOf) :=
      mapM_index fun x hx => List.mem_of_mem_filter hx
    have hne : slim.map changelog.idxOf ≠ [] := by
      simpa using List.ne_nil_of_mem hp
    obtain ⟨m, hm, hlt⟩ := pyMax_lt hne (k := changelog.idxOf t)
    refine ⟨decide (m < changelog.idxOf t), ?_, ?_⟩
    · simp only [checkIfSorted, List.length_cons, Nat.add_one_ne_zero, if_false, ← hslim, hmap,
        index_of_mem ht]
      change (pyMax _ >>= _) = _
      rw [hm]
      rfl
    · rw [decide_eq_true_iff, hlt]
      constructor
      · intro h u hu
        exact h _ (List.mem_map_of_mem (by simpa [hslim, hpreds u hu] using hu))
      · intro h x hx
        obtain ⟨u, hu, rfl⟩ := List.mem_map.1 hx
        exact h u (by simpa using (List.mem_filter.1 hu).2)

/-! ### The walk -/

/-- Every table from which `t` can be reached is newer than each of its predecessors. -/
def InOrder (g : DiGraph α) (changelog : List α) (t : α) : Prop :=
  ∀ v, ReflTransGen g.Adj v t → ∀ u, g.Adj u v → changelog.idxOf u < changelog.idxOf v

theorem inOrder_iff {g : DiGraph α} {changelog : List α} {t : α} :
    InOrder g changelog t ↔ (∀ u, g.Adj u t → changelog.idxOf u < changelog.idxOf t) ∧
      ∀ u, g.Adj u t → InOrder g changelog u := by
  constructor
  · intro h
    exact ⟨h t .refl, fun u hu v hv => h v (hv.tail hu)⟩
  · rintro ⟨h1, h2⟩ v hv
    rcases ReflTransGen.cases_tail hv with rfl | ⟨w, hvw, hwt⟩
    · exact h1
    · exact h2 w hwt v hvw

omit [DecidableEq α] in
theorem allM_spec {xs : List α} {f : α → Except PyError Bool} {P : α → Prop}
    (h : ∀ x ∈ xs, ∃ b, f x = .ok b ∧ (b = true ↔ P x)) :
    ∃ b, xs.allM f = .ok b ∧ (b = true ↔ ∀ x ∈ xs, P x) := by
  induction xs with
  | nil => exact ⟨true, rfl, by simp⟩
  | cons x xs ih =>
    obtain ⟨b, hb, hP⟩ := h x List.mem_cons_self
    cases b with
    | false =>
      refine ⟨false, by simp only [List.allM, hb]; rfl, ?_⟩
      simpa using fun hx => absurd (hP.2 hx) (by simp)
    | true =>
      obtain ⟨c, hc, hQ⟩ := ih fun y hy => h y (List.mem_cons_of_mem _ hy)
      refine ⟨c, ?_, ?_⟩
      · simp only [List.allM, hb]
        exact hc
      · simp [hQ, hP.1 rfl]

open Classical in
/-- The walk returns, and decides `InOrder`, when its depth exceeds the number of ancestors. -/
theorem checkIfDepsAreSorted_spec {g : DiGraph α} {changelog : List α} (hg : Acyclic g.Adj)
    (hlog : ∀ x ∈ g.nodes, x ∈ changelog) (depth : ℕ) :
    ∀ t ∈ g.nodes, (g.nodes.toFinset.filter fun x => TransGen g.Adj x t).card < depth →
      ∃ b, checkIfDepsAreSorted g changelog depth t = .ok b ∧
        (b = true ↔ InOrder g changelog t) := by
  induction depth with
  | zero => intro t _ h; omega
  | succ depth ih =>
    intro t ht hcard
    obtain ⟨b, hb, hsorted⟩ := checkIfSorted_spec
      (fun u hu => hlog u (DiGraph.mem_preds.1 hu).left_mem) (hlog t ht)
    have hrec : ∀ u ∈ g.preds t, ∃ b, checkIfDepsAreSorted g changelog depth u = .ok b ∧
        (b = true ↔ InOrder g changelog u) := by
      intro u hu
      have hut : g.Adj u t := DiGraph.mem_preds.1 hu
      -- a predecessor has fewer ancestors: it is one of the table's, but not one of its own
      have hfewer : (g.nodes.toFinset.filter fun x => TransGen g.Adj x u).card <
          (g.nodes.toFinset.filter fun x => TransGen g.Adj x t).card := by
        refine Finset.card_lt_card ?_
        rw [Finset.ssubset_iff_of_subset fun x hx => ?_]
        · exact ⟨u, by simp [hut.left_mem, TransGen.single hut], by simp [hg u]⟩
        · simp only [Finset.mem_filter] at hx ⊢
          exact ⟨hx.1, hx.2.tail hut⟩
      exact ih u hut.left_mem (by omega)
    obtain ⟨c, hc, hall⟩ := allM_spec hrec
    rw [inOrder_iff]
    simp only [DiGraph.mem_preds] at hsorted hall
    refine ⟨b && c, ?_, by rw [Bool.and_eq_true, hsorted, hall]⟩
    simp only [checkIfDepsAreSorted, predecessors, ht, if_true]
    change (checkIfSorted (g.preds t) t changelog >>= _) = _
    rw [hb]
    cases b with
    | false => rfl
    | true => exact hc

/-! ### The check -/

theorem eliminated_simplifyGraph (g : DiGraph α) (nodes : List α) :
    DiGraph.Eliminated g (fun x => x ∈ g.nodes ∧ x ∉ nodes) (simplifyGraph g nodes) :=
  g.eliminated_eliminate nodes

theorem mem_simplifyGraph {g : DiGraph α} {nodes : List α} {x : α} :
    x ∈ (simplifyGraph g nodes).nodes ↔ x ∈ g.nodes ∧ x ∈ nodes := by
  rw [(eliminated_simplifyGraph g nodes).mem_nodes]
  simp only [not_and, not_not]
  exact ⟨fun ⟨h1, h2⟩ => ⟨h1, h2 h1⟩, fun ⟨h1, h2⟩ => ⟨h1, fun _ => h2⟩⟩

/-- Between kept nodes, simplifying a graph preserves reachability in both directions. -/
theorem transGen_simplifyGraph {g : DiGraph α} {nodes : List α} {u v : α} (hu : u ∈ nodes)
    (hv : v ∈ nodes) :
    TransGen (simplifyGraph g nodes).Adj u v ↔ TransGen g.Adj u v := by
  have hadj : (simplifyGraph g nodes).Adj = fun a b =>
      Via g.Adj (fun x => x ∈ g.nodes ∧ x ∉ nodes) a b ∧ ¬ (a ∈ g.nodes ∧ a ∉ nodes) ∧
        ¬ (b ∈ g.nodes ∧ b ∉ nodes) :=
    funext₂ fun a b => propext ((eliminated_simplifyGraph g nodes).adj a b)
  rw [hadj]
  exact transGen_via_iff (by simp [hu]) (by simp [hv])

theorem adj_simplifyGraph_mem {g : DiGraph α} {nodes : List α} {u v : α}
    (h : (simplifyGraph g nodes).Adj u v) : u ∈ nodes ∧ v ∈ nodes :=
  ⟨(mem_simplifyGraph.1 h.left_mem).2, (mem_simplifyGraph.1 h.right_mem).2⟩

theorem acyclic_simplifyGraph {g : DiGraph α} (hg : Acyclic g.Adj) (nodes : List α) :
    Acyclic (simplifyGraph g nodes).Adj := by
  intro u hu
  obtain ⟨w, hw, -⟩ := TransGen.head'_iff.1 hu
  have hmem := (adj_simplifyGraph_mem hw).1
  exact hg u ((transGen_simplifyGraph hmem hmem).1 hu)

/-- Positions that rise along every edge behind `t` rise along every path to `t`. -/
theorem InOrder.idxOf_lt {g : DiGraph α} {changelog : List α} {u v t : α}
    (h : InOrder g changelog t) (huv : TransGen g.Adj u v) (hvt : ReflTransGen g.Adj v t) :
    changelog.idxOf u < changelog.idxOf v := by
  induction huv with
  | single hr => exact h _ hvt _ hr
  | tail _ hr ih =>
    have hbefore := ih (.head hr hvt)
    have hedge := h _ hvt _ hr
    omega

theorem not_inOrder_simplifyGraph {g : DiGraph α} (hg : Acyclic g.Adj) {changelog : List α} {t : α}
    (ht : t ∈ changelog) :
    ¬ InOrder (simplifyGraph g changelog) changelog t ↔ OutOfOrder g changelog t := by
  constructor
  · intro h
    simp only [InOrder, not_forall, Nat.not_lt] at h
    obtain ⟨v, hvt, u, huv, hle⟩ := h
    obtain ⟨hu, hv⟩ := adj_simplifyGraph_mem huv
    have hpath : TransGen g.Adj u v := (transGen_simplifyGraph hu hv).1 (.single huv)
    have hne : v ≠ u := by rintro rfl; exact hg _ hpath
    refine ⟨u, v, ?_, hpath, ?_⟩
    · rcases reflTransGen_iff_eq_or_transGen.1 hvt with rfl | h
      · exact .refl
      · exact ((transGen_simplifyGraph hv ht).1 h).to_reflTransGen
    · refine (before_or_before hv hu hne).resolve_right fun h => ?_
      have := h.2.2
      omega
  · rintro ⟨u, v, hvt, huv, hv, hu, hlt⟩ h
    have hvt' : ReflTransGen (simplifyGraph g changelog).Adj v t := by
      rcases reflTransGen_iff_eq_or_transGen.1 hvt with rfl | hvt
      · exact .refl
      · exact ((transGen_simplifyGraph hv ht).2 hvt).to_reflTransGen
    have := h.idxOf_lt ((transGen_simplifyGraph hu hv).2 huv) hvt'
    omega

/-- The check returns on every logged table of an acyclic graph, and decides `OutOfOrder`. -/
theorem isDirty_spec {g : DiGraph α} (hg : Acyclic g.Adj) {changelog : List α} {t : α}
    (ht : t ∈ changelog) (htg : t ∈ g.nodes) :
    ∃ b, isDirty g t changelog = .ok b ∧ (b = true ↔ OutOfOrder g changelog t) := by
  classical
  have hmem : t ∈ (simplifyGraph g changelog).nodes := mem_simplifyGraph.2 ⟨htg, ht⟩
  obtain ⟨b, hb, hord⟩ := checkIfDepsAreSorted_spec (acyclic_simplifyGraph hg changelog)
    (fun x hx => (mem_simplifyGraph.1 hx).2) ((simplifyGraph g changelog).nodes.length + 1) t hmem
    (Nat.lt_succ_of_le ((Finset.card_filter_le _ _).trans (List.toFinset_card_le _)))
  refine ⟨!b, by simp only [isDirty, hb]; rfl, ?_⟩
  rw [Bool.not_eq_true', ← Bool.not_eq_true, hord, not_inOrder_simplifyGraph hg ht]

/-- **The dirty check decides exactly out-of-order paths.**  On every acyclic graph, for every
logged table `t` of the graph, the check returns, and it returns `True` exactly when there are
logged tables `u` and `v` such that `v` is `t` or an ancestor of `t`, there is a path from `u` to
`v` (through logged or unlogged tables), and `u` was logged after `v`. -/
theorem isDirty_iff_logged_after {g : DiGraph α} (hg : Acyclic g.Adj) {changelog : List α} {t : α}
    (ht : t ∈ changelog) (htg : t ∈ g.nodes) :
    ∃ b, isDirty g t changelog = .ok b ∧
      (b = true ↔ ∃ u v, (u ∈ changelog ∧ u ∈ g.nodes) ∧ (v ∈ changelog ∧ v ∈ g.nodes) ∧
        (v = t ∨ TransGen g.Adj v t) ∧ TransGen g.Adj u v ∧
        changelog.idxOf v < changelog.idxOf u) := by
  obtain ⟨b, hb, h⟩ := isDirty_spec hg ht htg
  refine ⟨b, hb, h.trans ⟨?_, ?_⟩⟩
  · rintro ⟨u, v, hvt, huv, hv, hu, hlt⟩
    refine ⟨u, v, ⟨hu, DiGraph.transGen_left_mem huv⟩, ⟨hv, DiGraph.transGen_right_mem huv⟩,
      ?_, huv, hlt⟩
    rcases reflTransGen_iff_eq_or_transGen.1 hvt with rfl | h
    · exact .inl rfl
    · exact .inr h
  · rintro ⟨u, v, ⟨hu, -⟩, ⟨hv, -⟩, hvt, huv, hlt⟩
    exact ⟨u, v, hvt.elim (fun e => e ▸ .refl) fun h => h.to_reflTransGen, huv, hv, hu, hlt⟩

/-- Three tables in a row, the middle one never logged: the last is dirty once the first has been
logged after it. -/
theorem isDirty_iff_logged_after_chain :
    let g : DiGraph ℕ := (DiGraph.empty.addEdge 0 1).addEdge 1 2
    ∃ b, isDirty g 2 [2, 0] = .ok b ∧
      (b = true ↔ ∃ u v, (u ∈ [2, 0] ∧ u ∈ g.nodes) ∧ (v ∈ [2, 0] ∧ v ∈ g.nodes) ∧
        (v = 2 ∨ TransGen g.Adj v 2) ∧ TransGen g.Adj u v ∧
        [2, 0].idxOf v < [2, 0].idxOf u) :=
  isDirty_iff_logged_after
    (acyclic_of_rank id fun u v h => by
      have hall : ∀ e ∈ ((DiGraph.empty.addEdge 0 1).addEdge 1 2).edges, e.1 < e.2 := by decide
      exact hall (u, v) h)
    (by decide) (by decide)

example : isDirty ((DiGraph.empty.addEdge 0 1).addEdge 1 2) 2 [2, 0] = .ok true := by decide

theorem isDirty_eq_false_iff {g : DiGraph α} (hg : Acyclic g.Adj) {changelog : List α} {t : α}
    (ht : t ∈ changelog) (htg : t ∈ g.nodes) :
    isDirty g t changelog = .ok false ↔ ¬ OutOfOrder g changelog t := by
  obtain ⟨b, hb, h⟩ := isDirty_spec hg ht htg
  rw [hb, ← h]
  cases b <;> simp

theorem isDirty_eq_true_iff {g : DiGraph α} (hg : Acyclic g.Adj) {changelog : List α} {t : α}
    (ht : t ∈ changelog) (htg : t ∈ g.nodes) :
    isDirty g t changelog = .ok true ↔ OutOfOrder g changelog t := by
  obtain ⟨b, hb, h⟩ := isDirty_spec hg ht htg
  rw [hb, ← h]
  cases b <;> simp

end StormPiper
