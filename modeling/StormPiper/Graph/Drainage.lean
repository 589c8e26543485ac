import Mathlib.Data.Set.Finite.List
import Mathlib.Order.WellFounded
import StormPiper.Graph.Paths

/-!
# Drainage

A relation drains to a sink if every vertex has at most one target, there is no cycle and following
the targets from every vertex that has one ends at the sink.

For a relation that raises a bounded rank this is a question about single edges: every target but
the sink has a target again (`drains_iff`).  For one that may have cycles these are the only other
way not to reach the sink (`reaches_of_acyclic`).
-/

namespace StormPiper

open Relation

variable {α : Type*} {R : α → α → Prop} {sink : α}

/-- Following `R` from every vertex with a target ends at `sink`. -/
structure Drains (R : α → α → Prop) (sink : α) : Prop where
  target_unique : ∀ u v w, R u v → R u w → v = w
  acyclic : Acyclic R
  reaches : ∀ u v, R u v → TransGen R u sink

theorem sink_or_continues {u v : α} (hunique : ∀ v', R u v' → v = v')
    (hpath : TransGen R u sink) : v = sink ∨ ∃ w, R v w := by
  obtain ⟨v', hv', hrest⟩ := TransGen.head'_iff.1 hpath
  obtain rfl := hunique v' hv'
  rcases ReflTransGen.cases_head hrest with heq | ⟨w, hw, -⟩
  · exact .inl heq
  · exact .inr ⟨w, hw⟩

theorem Drains.target_continues (h : Drains R sink) {u v : α} (huv : R u v) :
    v = sink ∨ ∃ w, R v w :=
  sink_or_continues (h.target_unique u v · huv) (h.reaches u v huv)

/-- Where every target but the sink has a target again, a path can only end at the sink.  The
induction is on the distance to the bound of the rank. -/
theorem reaches_of_rank (rank : α → ℕ) (bound : ℕ)
    (hrank : ∀ u v, R u v → rank u < rank v ∧ rank v ≤ bound)
    (hnext : ∀ u v, R u v → v = sink ∨ ∃ w, R v w) {u v : α} (huv : R u v) :
    TransGen R u sink := by
  induction hd : bound - rank u using Nat.strongRecOn generalizing u v with
  | ind d ih =>
    rcases hnext u v huv with rfl | ⟨w, hvw⟩
    · exact .single huv
    · have hlt := (hrank u v huv).1
      have hle := hrank v w hvw
      exact .head huv (ih (bound - rank v) (by omega) hvw rfl)

/-- With finitely many sources, a relation without cycles that goes on after every target but the
sink can only end at the sink.  The induction goes against the paths. -/
theorem reaches_of_acyclic (sources : List α) (hsource : ∀ u v, R u v → u ∈ sources)
    (hacyclic : Acyclic R) (hnext : ∀ u v, R u v → v = sink ∨ ∃ w, R v w) {u v : α} (huv : R u v) :
    TransGen R u sink := by
  -- a path is a strict order on the finitely many sources
  have hwf : WellFounded fun b a : {u // u ∈ sources} => TransGen R a b := by
    have : Finite {u // u ∈ sources} := (List.finite_toSet sources).to_subtype
    have : IsTrans {u // u ∈ sources} fun b a => TransGen R a b :=
      ⟨fun _ _ _ hab hbc => hbc.trans hab⟩
    have : Std.Irrefl fun b a : {u // u ∈ sources} => TransGen R a b := ⟨fun a => hacyclic a⟩
    exact Finite.wellFounded_of_trans_of_irrefl _
  have hall : ∀ x : {u // u ∈ sources}, ∀ v, R x v → TransGen R x sink := by
    intro x
    induction x using hwf.induction with
    | _ x ih =>
      intro v hxv
      rcases hnext x v hxv with rfl | ⟨w, hvw⟩
      · exact .single hxv
      · exact .head hxv (ih ⟨v, hsource v w hvw⟩ (.single hxv) w hvw)
  exact hall ⟨u, hsource u v huv⟩ v huv

/-- **A relation with a bounded rank drains to the sink exactly if it goes on after every target
but the sink.** -/
theorem drains_iff (rank : α → ℕ) (bound : ℕ)
    (hrank : ∀ u v, R u v → rank u < rank v ∧ rank v ≤ bound)
    (hunique : ∀ u v w, R u v → R u w → v = w) :
    Drains R sink ↔ ∀ u v, R u v → v = sink ∨ ∃ w, R v w :=
  ⟨fun h _ _ huv => h.target_continues huv, fun hnext =>
    ⟨hunique, acyclic_of_rank rank fun u v huv => (hrank u v huv).1, fun _ _ huv =>
      reaches_of_rank rank bound hrank hnext huv⟩⟩

end StormPiper
