import Mathlib.Data.List.Chain
import Mathlib.Logic.Relation
import Mathlib.Data.Nat.Notation

/-!
# Paths whose interior lies in a set, and the elimination of a vertex

`Via R K u v` says that there is a path of length at least one from `u` to `v` along `R` all of
whose interior vertices lie in `K`.  Adding one vertex `n` to `K` adds exactly the paths that
bridge over `n` (`via_insert`): this is the step of an algorithm that removes vertices one at a
time and joins the predecessors of the removed vertex to its successors (`bridge`).  As a list of
vertices the path is a chain (`via_iff_exists_isChain`).
-/

namespace StormPiper

open Relation

variable {α : Type*}

/-- A path of length at least one from the first to the second vertex with interior in `K`. -/
inductive Via (R : α → α → Prop) (K : α → Prop) : α → α → Prop
  | edge {u v : α} : R u v → Via R K u v
  | cons {u w v : α} : R u w → K w → Via R K w v → Via R K u v

/-- The edges left when the vertex `n` is removed after its predecessors have been joined to its
successors. -/
def bridge (R : α → α → Prop) (n : α) (u v : α) : Prop :=
  (R u v ∨ (R u n ∧ R n v)) ∧ u ≠ n ∧ v ≠ n

/-- A relation without cycles. -/
def Acyclic (R : α → α → Prop) : Prop := ∀ u, ¬ TransGen R u u

namespace Via

variable {R : α → α → Prop} {K L : α → Prop} {u v w : α}

theorem trans (h : Via R K u w) (hw : K w) (h' : Via R K w v) : Via R K u v := by
  induction h with
  | edge hr => exact .cons hr hw h'
  | cons hr hk _ ih => exact .cons hr hk (ih hw h')

theorem mono (hKL : ∀ x, K x → L x) (h : Via R K u v) : Via R L u v := by
  induction h with
  | edge hr => exact .edge hr
  | cons hr hk _ ih => exact .cons hr (hKL _ hk) ih

theorem transGen (h : Via R K u v) : TransGen R u v := by
  induction h with
  | edge hr => exact .single hr
  | cons hr _ _ ih => exact .head hr ih

end Via

/-- The vertices of such a path, one after the other. -/
theorem via_iff_exists_isChain {R : α → α → Prop} {K : α → Prop} {u v : α} :
    Via R K u v ↔ ∃ interior : List α, (∀ x ∈ interior, K x) ∧
      (u :: (interior ++ [v])).IsChain R := by
  constructor
  · intro h
    induction h with
    | edge hr => exact ⟨[], by simp, by simpa using hr⟩
    | @cons u w v hr hw _ ih =>
      obtain ⟨interior, hK, hchain⟩ := ih
      exact ⟨w :: interior, by simpa [hw] using hK, List.isChain_cons_cons.2 ⟨hr, hchain⟩⟩
  · rintro ⟨interior, hK, hchain⟩
    induction interior generalizing u with
    | nil => exact .edge (by simpa using hchain)
    | cons w interior ih =>
      obtain ⟨hr, hchain⟩ := List.isChain_cons_cons.1 hchain
      exact .cons hr (hK w List.mem_cons_self)
        (ih (fun x hx => hK x (List.mem_cons_of_mem w hx)) hchain)

theorem via_none {R : α → α → Prop} {u v : α} : Via R (fun _ => False) u v ↔ R u v := by
  constructor
  · intro h
    cases h with
    | edge hr => exact hr
    | cons _ hk _ => exact hk.elim
  · exact .edge

/-- Allowing one more interior vertex adds exactly the paths that bridge over it. -/
theorem via_insert {R : α → α → Prop} {K : α → Prop} {n u v : α} :
    Via R (fun x => K x ∨ x = n) u v ↔ Via R K u v ∨ (Via R K u n ∧ Via R K n v) := by
  constructor
  · intro h
    induction h with
    | edge hr => exact .inl (.edge hr)
    | @cons u w v hr hk _ ih =>
      rcases hk with hk | rfl
      · rcases ih with h | ⟨h1, h2⟩
        · exact .inl (.cons hr hk h)
        · exact .inr ⟨.cons hr hk h1, h2⟩
      · -- the path reaches the new vertex: keep only its last visit
        rcases ih with h | ⟨-, h⟩
        · exact .inr ⟨.edge hr, h⟩
        · exact .inr ⟨.edge hr, h⟩
  · rintro (h | ⟨h1, h2⟩)
    · exact h.mono fun _ => .inl
    · exact (h1.mono fun _ => .inl).trans (.inr rfl) (h2.mono fun _ => .inl)

/-- Every path to a vertex outside `K` runs first through `K` to some vertex outside `K`, and from
there along such segments. -/
theorem exists_via_of_transGen {R : α → α → Prop} {K : α → Prop} {u v : α} (hv : ¬ K v)
    (h : TransGen R u v) :
    ∃ x, Via R K u x ∧ ¬ K x ∧
      ReflTransGen (fun a b => Via R K a b ∧ ¬ K a ∧ ¬ K b) x v := by
  induction h using TransGen.head_induction_on with
  | single hr => exact ⟨v, .edge hr, hv, .refl⟩
  | @head u w hr _ ih =>
    obtain ⟨x, hx, hKx, hpath⟩ := ih
    by_cases hw : K w
    · exact ⟨x, .cons hr hw hx, hKx, hpath⟩
    · exact ⟨w, .edge hr, hw, .head ⟨hx, hw, hKx⟩ hpath⟩

/-- Between vertices outside `K`, the paths of the graph are the paths along segments through
`K`. -/
theorem transGen_via_iff {R : α → α → Prop} {K : α → Prop} {u v : α} (hu : ¬ K u) (hv : ¬ K v) :
    TransGen (fun a b => Via R K a b ∧ ¬ K a ∧ ¬ K b) u v ↔ TransGen R u v := by
  constructor
  · clear hu hv
    intro h
    induction h with
    | single h => exact h.1.transGen
    | tail _ h ih => exact ih.trans h.1.transGen
  · intro h
    obtain ⟨x, hx, hKx, hpath⟩ := exists_via_of_transGen hv h
    exact .head' ⟨hx, hu, hKx⟩ hpath

/-- Bridging over `n` in a graph whose edges are the paths through the vertices eliminated so
far. -/
theorem bridge_via {R E : α → α → Prop} {K : α → Prop} {n : α} (hn : ¬ K n)
    (hE : ∀ u v, E u v ↔ Via R K u v ∧ ¬ K u ∧ ¬ K v) (u v : α) :
    bridge E n u v ↔ Via R (fun x => K x ∨ x = n) u v ∧ ¬ (K u ∨ u = n) ∧ ¬ (K v ∨ v = n) := by
  simp only [bridge, hE, via_insert, not_or]
  constructor
  · rintro ⟨⟨h, hu, hv⟩ | ⟨⟨h1, hu, -⟩, h2, -, hv⟩, hun, hvn⟩
    · exact ⟨.inl h, ⟨hu, hun⟩, hv, hvn⟩
    · exact ⟨.inr ⟨h1, h2⟩, ⟨hu, hun⟩, hv, hvn⟩
  · rintro ⟨h | ⟨h1, h2⟩, ⟨hu, hun⟩, hv, hvn⟩
    · exact ⟨.inl ⟨h, hu, hv⟩, hun, hvn⟩
    · exact ⟨.inr ⟨⟨h1, hu, hn⟩, h2, hn, hv⟩, hun, hvn⟩

/-- A relation that raises a rank has no cycle. -/
theorem acyclic_of_rank {R : α → α → Prop} (rank : α → ℕ) (h : ∀ u v, R u v → rank u < rank v) :
    Acyclic R := by
  have hlt : ∀ u v, TransGen R u v → rank u < rank v := by
    intro u v huv
    induction huv with
    | single hr => exact h _ _ hr
    | tail _ hr ih =>
      have hedge := h _ _ hr
      omega
  exact fun u hu => Nat.lt_irrefl _ (hlt u u hu)

end StormPiper
