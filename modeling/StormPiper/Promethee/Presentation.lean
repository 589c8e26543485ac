import Mathlib.Logic.Equiv.Set
import StormPiper.Promethee.Ranking

/-!
# Scores do not depend on presentation

What `run_promethee_ii` returns does not change if the criteria are listed in another order, if all
weights are multiplied by the same number, if a column is replaced by one with the same order, or
if a criterion without weight is added.  Listing the subbasins in another order lists the scores in
that order.

Each law is one about the net score, since the rescaling only depends on the set of the scores.

* `netScore_congr` : columns with the same order.
* `netScore_comp`, `netScore_of_injective`, `netScore_mul_const` : the other laws.
* `runPrometheeIi_presentation` : the laws of the scores.
-/

namespace StormPiper

open Comparison

variable {K : Type} [Field K] [LinearOrder K] [IsStrictOrderedRing K] {N M : ℕ}
  {matrix : Fin N → Fin M → K} {weights : Fin M → K} {types : Fin M → ℤ}

/-! ### The net score -/

omit [IsStrictOrderedRing K] in
theorem netScore_congr {matrix' : Fin N → Fin M → K}
    (h : ∀ k i j, directed matrix' types k i < directed matrix' types k j ↔
      directed matrix types k i < directed matrix types k j) :
    netScore matrix' weights types = netScore matrix weights types := by
  unfold netScore
  simp only [fun k => ordinal_congr (K := K) (h k)]

/-- A map that is strictly increasing on a column keeps its order, in either direction. -/
theorem directed_lt_iff_of_strictMonoOn (htypes : ∀ k, types k = 1 ∨ types k = -1)
    {matrix' : Fin N → Fin M → K} {g : Fin M → K → K}
    (hg : ∀ k, StrictMonoOn (g k) (Set.range fun i => matrix i k))
    (hmap : ∀ i k, matrix' i k = g k (matrix i k)) (k : Fin M) (i j : Fin N) :
    directed matrix' types k i < directed matrix' types k j ↔
      directed matrix types k i < directed matrix types k j := by
  have hlt : ∀ i j, matrix' i k < matrix' j k ↔ matrix i k < matrix j k := fun i j => by
    rw [hmap, hmap]
    exact (hg k).lt_iff_lt ⟨i, rfl⟩ ⟨j, rfl⟩
  unfold directed
  rcases htypes k with h | h <;> rw [h]
  · simpa using hlt i j
  · simpa using hlt j i

omit [IsStrictOrderedRing K] in
theorem netScore_comp (σ : Equiv.Perm (Fin N)) :
    netScore (fun i k => matrix (σ i) k) weights types = netScore matrix weights types ∘ σ := by
  funext i
  unfold netScore weighted
  refine Finset.sum_congr rfl fun k _ => ?_
  exact congrArg (fun x => x / ((N : K) - 1) * share weights k)
    (net_comp (ordinal (directed matrix types k)) σ i)

omit [IsStrictOrderedRing K] in
/-- The criteria may be listed otherwise, and those without weight left out. -/
theorem netScore_of_injective {M' : ℕ} {e : Fin M → Fin M'} (he : Function.Injective e)
    {matrix' : Fin N → Fin M' → K} {weights' : Fin M' → K} {types' : Fin M' → ℤ}
    (hmatrix : ∀ i k, matrix' i (e k) = matrix i k) (hweights : ∀ k, weights' (e k) = weights k)
    (htypes : ∀ k, types' (e k) = types k) (hzero : ∀ k, k ∉ Set.range e → weights' k = 0) :
    netScore matrix' weights' types' = netScore matrix weights types := by
  have hcolumn : ∀ k, directed matrix' types' (e k) = directed matrix types k := fun k =>
    funext fun i => by simp only [directed, hmatrix, htypes]
  funext i
  exact weighted_of_injective he hweights (fun k => by simp only [hcolumn]) hzero i

omit [IsStrictOrderedRing K] in
theorem netScore_mul_const {c : K} (hc : c ≠ 0) :
    netScore matrix (fun k => c * weights k) types = netScore matrix weights types := by
  funext i
  unfold netScore weighted
  exact Finset.sum_congr rfl fun k _ => by rw [share_mul_const hc]

/-! ### The scores -/

section Scores

variable {df df' : String → Option (Fin N → K)} {criteria : Fin M → String}

/-- Two analyses with the same net score return the same scores. -/
theorem runPrometheeIi_congr (hN : 2 ≤ N) {M' : ℕ} {criteria' : Fin M' → String}
    {matrix' : Fin N → Fin M' → K} (hmatrix : columnsToNumpy df criteria = .ok matrix)
    (hmatrix' : columnsToNumpy df' criteria' = .ok matrix') (hw : ∀ k, 0 ≤ weights k)
    {weights' : Fin M' → K} (hw' : ∀ k, 0 ≤ weights' k)
    (htypes : ∀ k, types k = 1 ∨ types k = -1) {types' : Fin M' → ℤ}
    (htypes' : ∀ k, types' k = 1 ∨ types' k = -1)
    (h : netScore matrix' weights' types' = netScore matrix weights types) :
    runPrometheeIi df' criteria' weights' types' = runPrometheeIi df criteria weights types := by
  rw [runPrometheeIi_eq_minmax hN hmatrix' hw' htypes', h,
    runPrometheeIi_eq_minmax hN hmatrix hw htypes]

/-- The set of the scores does not depend on the order of the subbasins. -/
theorem runPrometheeIi_comp (hN : 2 ≤ N) (hmatrix : columnsToNumpy df criteria = .ok matrix)
    (σ : Equiv.Perm (Fin N))
    (hmatrix' : columnsToNumpy df' criteria = .ok fun i k => matrix (σ i) k)
    (hw : ∀ k, 0 ≤ weights k) (htypes : ∀ k, types k = 1 ∨ types k = -1) :
    runPrometheeIi df' criteria weights types =
      (runPrometheeIi df criteria weights types).map fun scores i => scores (σ i) := by
  obtain ⟨lo, hi, hlo, hhi, hrun⟩ := runPrometheeIi_eq hN hmatrix hw htypes
  have hrange : Set.range (netScore (fun i k => matrix (σ i) k) weights types) =
      Set.range (netScore matrix weights types) := by
    rw [netScore_comp, EquivLike.range_comp]
  rw [runPrometheeIi_eq_minmax hN hmatrix' hw htypes,
    minmaxNormalization_eq (hrange ▸ hlo) (hrange ▸ hhi), hrun, netScore_comp]
  rfl

/-- **Scores do not depend on presentation.**  Permuting the subbasins permutes the scores.
Permuting the criteria with their weights and directions, multiplying the weights by a positive
number, mapping columns by strictly increasing functions and adding a criterion of weight zero
leave the scores as they are. -/
theorem runPrometheeIi_presentation (hN : 2 ≤ N) (df : String → Option (Fin N → K))
    (criteria : Fin M → String) (matrix : Fin N → Fin M → K)
    (hmatrix : columnsToNumpy df criteria = .ok matrix) (weights : Fin M → K)
    (hw : ∀ k, 0 ≤ weights k) (types : Fin M → ℤ) (htypes : ∀ k, types k = 1 ∨ types k = -1) :
    (∀ σ : Equiv.Perm (Fin N),
      runPrometheeIi (fun name => (df name).map fun column i => column (σ i)) criteria weights
          types = (runPrometheeIi df criteria weights types).map fun scores i => scores (σ i)) ∧
    (∀ π : Equiv.Perm (Fin M),
      runPrometheeIi df (fun k => criteria (π k)) (fun k => weights (π k)) (fun k => types (π k)) =
        runPrometheeIi df criteria weights types) ∧
    (∀ c, 0 < c → runPrometheeIi df criteria (fun k => c * weights k) types =
      runPrometheeIi df criteria weights types) ∧
    (∀ (df' : String → Option (Fin N → K)) (criteria' : Fin M → String)
        (matrix' : Fin N → Fin M → K) (g : Fin M → K → K),
      columnsToNumpy df' criteria' = .ok matrix' →
      (∀ k, StrictMonoOn (g k) (Set.range fun i => matrix i k)) →
      (∀ i k, matrix' i k = g k (matrix i k)) →
      runPrometheeIi df' criteria' weights types = runPrometheeIi df criteria weights types) ∧
    ∀ (place : Fin (M + 1)) (name : String) (direction : ℤ), (df name).isSome →
      direction = 1 ∨ direction = -1 →
      runPrometheeIi df (place.insertNth name criteria) (place.insertNth 0 weights)
          (place.insertNth direction types) = runPrometheeIi df criteria weights types := by
  have hcolumn := columnsToNumpy_eq_ok.1 hmatrix
  refine ⟨fun σ => ?_, fun π => ?_, fun c hc => ?_, ?_, ?_⟩
  · -- the subbasins in another order
    exact runPrometheeIi_comp hN hmatrix σ (columnsToNumpy_eq_ok.2 fun k => by rw [hcolumn k]; rfl)
      hw htypes
  · -- the criteria in another order
    refine runPrometheeIi_congr hN hmatrix (columnsToNumpy_eq_ok.2 fun k => hcolumn (π k)) hw
      (fun k => hw (π k)) htypes (fun k => htypes (π k)) ?_
    exact (netScore_of_injective π.injective (fun _ _ => rfl) (fun _ => rfl) (fun _ => rfl)
      fun k hk => absurd (π.surjective k) hk).symm
  · -- the weights in another unit
    exact runPrometheeIi_congr hN hmatrix hmatrix hw (fun k => mul_nonneg hc.le (hw k)) htypes
      htypes (netScore_mul_const hc.ne')
  · -- other columns with the same order
    intro df' criteria' matrix' g hmatrix' hg hmap
    exact runPrometheeIi_congr hN hmatrix hmatrix' hw hw htypes htypes
      (netScore_congr (directed_lt_iff_of_strictMonoOn htypes hg hmap))
  · -- a criterion of weight zero at some place
    intro place name direction hname hdirection
    obtain ⟨column, hadded⟩ := Option.isSome_iff_exists.1 hname
    have hmatrix' : columnsToNumpy df (place.insertNth name criteria) =
        .ok fun i => place.insertNth (column i) (matrix i) :=
      columnsToNumpy_eq_ok.2 <| (Fin.forall_iff_succAbove place).2
        ⟨by simpa using hadded, fun k => by simpa using hcolumn k⟩
    refine runPrometheeIi_congr hN hmatrix hmatrix' hw ?_ htypes ?_ ?_
    · exact (Fin.forall_iff_succAbove place).2 ⟨by simp, fun k => by simpa using hw k⟩
    · exact (Fin.forall_iff_succAbove place).2
        ⟨by simpa using hdirection, fun k => by simpa using htypes k⟩
    · refine netScore_of_injective (Fin.succAbove_right_injective (p := place)) (fun i k => by simp)
        (fun k => by simp) (fun k => by simp) fun k hk => ?_
      rw [Fin.range_succAbove] at hk
      obtain rfl : k = place := by simpa using hk
      simp

end Scores

/-- The scores of the test with all weights doubled. -/
theorem runPrometheeIi_presentation_test :
    runPrometheeIi testDf testColumns (fun k => 2 * if k = 0 then 1 else 2)
        (fun k => if k = 0 then 1 else -1) =
      runPrometheeIi testDf testColumns (fun k => if k = 0 then 1 else 2)
        (fun k => if k = 0 then 1 else -1) :=
  (runPrometheeIi_presentation (by decide) testDf testColumns testMatrix columnsToNumpy_test
    (fun k => if k = 0 then 1 else 2) (by decide) (fun k => if k = 0 then 1 else -1)
    (by decide)).2.2.1 2 (by decide)

end StormPiper
