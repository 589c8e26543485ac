import Mathlib.Algebra.BigOperators.Field
import Mathlib.Algebra.BigOperators.Intervals
import Mathlib.Algebra.Order.BigOperators.Ring.Finset
import Mathlib.Algebra.Order.Field.Basic
import Mathlib.Tactic.Ring

/-!
# Compounded reductions

Factors `q 0, q 1, ...` between `0` and `1` are applied one after the other to an amount.  The
amount taken away in step `i` is the part `1 - q i` of what is left before it, and what is left in
the end is the product of all factors (`prod_eq_one_sub_sum`).

When step `i` takes its part of what a *subset* `S i` of the earlier steps leaves, it takes too
much, and the total is right exactly when no step notices the difference
(`one_sub_sum_eq_prod_iff`).
-/

namespace StormPiper

open Finset

section Telescope

variable {𝕜 : Type*} [CommRing 𝕜] (q : ℕ → 𝕜)

theorem prod_eq_one_sub_sum (n : ℕ) :
    ∏ i ∈ range n, q i = 1 - ∑ i ∈ range n, (∏ j ∈ range i, q j) * (1 - q i) := by
  induction n with
  | zero => simp
  | succ n ih => rw [prod_range_succ, sum_range_succ, mul_one_sub, ← sub_sub, ← ih]; ring

end Telescope

section Order

variable {𝕜 : Type*} [Field 𝕜] [LinearOrder 𝕜] [IsStrictOrderedRing 𝕜] {q : ℕ → 𝕜}

/-- A product of factors between `0` and `1` is `1` only when all factors are. -/
theorem prod_eq_one_iff_of_mem_Icc {s : Finset ℕ} (h0 : ∀ i, 0 ≤ q i) (h1 : ∀ i, q i ≤ 1) :
    ∏ i ∈ s, q i = 1 ↔ ∀ i ∈ s, q i = 1 := by
  constructor
  · intro h i hi
    refine le_antisymm (h1 i) ?_
    calc 1 = ∏ j ∈ s, q j := h.symm
      _ = q i * ∏ j ∈ s.erase i, q j := (mul_prod_erase s q hi).symm
      _ ≤ q i * 1 :=
        mul_le_mul_of_nonneg_left (prod_le_one (fun j _ => h0 j) fun j _ => h1 j) (h0 i)
      _ = q i := mul_one _
  · exact prod_eq_one

theorem prod_range_le_prod {s : Finset ℕ} {i : ℕ} (hs : s ⊆ range i) (h0 : ∀ i, 0 ≤ q i)
    (h1 : ∀ i, q i ≤ 1) : ∏ j ∈ range i, q j ≤ ∏ j ∈ s, q j := by
  rw [← prod_sdiff hs]
  exact mul_le_of_le_one_left (prod_nonneg fun j _ => h0 j)
    (prod_le_one (fun j _ => h0 j) fun j _ => h1 j)

/-- Leaving out factors leaves the product as it is when the rest is zero, or they are all one. -/
theorem prod_eq_prod_range_iff {s : Finset ℕ} {i : ℕ} (hs : s ⊆ range i) (h0 : ∀ i, 0 ≤ q i)
    (h1 : ∀ i, q i ≤ 1) :
    ∏ j ∈ s, q j = ∏ j ∈ range i, q j ↔
      (∃ j ∈ s, q j = 0) ∨ ∀ j < i, j ∉ s → q j = 1 := by
  have hone : ∏ j ∈ range i \ s, q j = 1 ↔ ∀ j < i, j ∉ s → q j = 1 := by
    rw [prod_eq_one_iff_of_mem_Icc h0 h1]
    simp
  rw [← prod_sdiff hs, eq_comm, mul_left_eq_self₀, ← hone, prod_eq_zero_iff, or_comm]

/-- **When reductions of partial remainders compound.**  Step `i` takes the part `1 - q i` of what
the steps in `S i` leave.  In total the steps leave the product of all factors exactly when, for
each of them, it takes nothing, or nothing is left before it, or the earlier steps that it passes
over take nothing. -/
theorem one_sub_sum_eq_prod_iff {S : ℕ → Finset ℕ} (hS : ∀ i, S i ⊆ range i) (h0 : ∀ i, 0 ≤ q i)
    (h1 : ∀ i, q i ≤ 1) (n : ℕ) :
    1 - ∑ i ∈ range n, (∏ j ∈ S i, q j) * (1 - q i) = ∏ i ∈ range n, q i ↔
      ∀ i < n, q i = 1 ∨ (∃ j ∈ S i, q j = 0) ∨ ∀ j < i, j ∉ S i → q j = 1 := by
  -- each step takes at least its part of what is really left
  have hterm : ∀ i ∈ range n,
      (∏ j ∈ range i, q j) * (1 - q i) ≤ (∏ j ∈ S i, q j) * (1 - q i) := fun i _ =>
    mul_le_mul_of_nonneg_right (prod_range_le_prod (hS i) h0 h1) (sub_nonneg.2 (h1 i))
  rw [prod_eq_one_sub_sum, sub_right_inj, eq_comm, sum_eq_sum_iff_of_le hterm]
  simp only [mem_range]
  refine forall₂_congr fun i _ => ?_
  rw [eq_comm, mul_eq_mul_right_iff, prod_eq_prod_range_iff (hS i) h0 h1, sub_eq_zero, or_comm,
    eq_comm (a := (1 : 𝕜))]

end Order

end StormPiper
