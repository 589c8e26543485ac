import StormPiper.Promethee.Textbook

/-!
# Net flows are conserved

Every preference function gives degrees between zero and one, whatever its thresholds.  What one
alternative gains in a comparison another one loses, so the scores of `prom_ii` add up to zero, as
does each column of the weighted flow, and no score leaves the interval from minus one to one.

* `preferenceFunction_mem_Icc` : the degrees of all preference functions.
* `Criterion.reverse` : the criterion in the other direction.
* `promIi_conserved` : the scores.
-/

namespace StormPiper

open Comparison

variable {K : Type} [Field K] [LinearOrder K] [IsStrictOrderedRing K]

/-! ### The preference functions -/

theorem usual_mem_Icc (d q p : K) : usual d q p ∈ Set.Icc (0 : K) 1 := by
  unfold usual
  split_ifs <;> simp

theorem ushape_mem_Icc (d q p : K) : ushape d q p ∈ Set.Icc (0 : K) 1 := by
  unfold ushape
  split_ifs <;> simp

/-- Between the thresholds the first one is smaller, so the guard against a division by zero is not
needed there. -/
theorem vshape2_mem_Icc (d q p : K) : vshape2 d q p ∈ Set.Icc (0 : K) 1 := by
  unfold vshape2
  split_ifs with hbetween hlt
  · have hd : 0 < d - q := sub_pos.2 hbetween.1
    have hp : d - q ≤ p - q := sub_le_sub_right hbetween.2 q
    exact ⟨div_nonneg hd.le (hd.le.trans hp), div_le_one_of_le₀ hp (hd.le.trans hp)⟩
  · exact absurd (hbetween.1.trans_le hbetween.2) hlt
  · simp
  · simp

omit [IsStrictOrderedRing K] in
/-- The V shape is the linear preference from zero on. -/
theorem vshape_eq (d q p : K) : vshape d q p = vshape2 d 0 p := by
  simp only [vshape, vshape2, sub_zero]

theorem level_mem_Icc (d q p : K) : level d q p ∈ Set.Icc (0 : K) 1 := by
  unfold level
  split_ifs
  · exact ⟨by norm_num, by norm_num⟩
  · simp
  · simp

/-- The degrees of every preference function are between zero and one. -/
theorem preferenceFunction_mem_Icc (name : String) (d q p : K) :
    preferenceFunction name d q p ∈ Set.Icc (0 : K) 1 := by
  have hvshape : vshape d q p ∈ Set.Icc (0 : K) 1 := vshape_eq d q p ▸ vshape2_mem_Icc d 0 p
  unfold preferenceFunction
  cases hf : (PREFERENCE_FUNCTIONS (K := K)).lookup name with
  | none => exact usual_mem_Icc d q p
  | some f =>
    -- what the name is looked up to is one of the entries of the table
    obtain ⟨before, after, hlist, -⟩ := List.lookup_eq_some_iff.1 hf
    have hmem : (name, f) ∈ PREFERENCE_FUNCTIONS := by
      rw [hlist]
      exact List.mem_append_right _ List.mem_cons_self
    simp only [PREFERENCE_FUNCTIONS, List.mem_cons, Prod.mk.injEq, List.not_mem_nil,
      or_false] at hmem
    rcases hmem with ⟨-, rfl⟩ | ⟨-, rfl⟩ | ⟨-, rfl⟩ | ⟨-, rfl⟩ | ⟨-, rfl⟩ | ⟨-, rfl⟩
    · exact usual_mem_Icc d q p
    · exact ushape_mem_Icc d q p
    · exact hvshape
    · exact vshape2_mem_Icc d q p
    · exact level_mem_Icc d q p
    · exact vshape2_mem_Icc d q p

/-! ### The net flow by one criterion -/

namespace Criterion

variable {N M : ℕ} (c : Criterion K) (column : Fin N → K)

omit [IsStrictOrderedRing K] in
theorem sum_netFlow : ∑ i, c.netFlow column i = 0 := by
  unfold netFlow
  rw [← Finset.sum_div, sum_net, zero_div]

theorem abs_netFlow_le (hN : 2 ≤ N) (i : Fin N) : |c.netFlow column i| ≤ 1 := by
  have hothers : (0 : K) < (N : K) - 1 := others_pos hN
  have hmem : ∀ i j, criterionComparison c.preference c.direction column i j ∈ Set.Icc (0 : K) 1 :=
    fun i j => preferenceFunction_mem_Icc _ _ _ _
  have hnet := abs_net_le (fun i j => (hmem i j).1) (fun i j => (hmem i j).2) i
  rw [Fintype.card_fin] at hnet
  rw [netFlow, abs_div, abs_of_pos hothers]
  exact div_le_one_of_le₀ hnet hothers.le

/-- The criterion in the other direction. -/
def reverse : Criterion K :=
  { c with
    direction := -c.direction
    direction_unit := by
      rcases c.direction_unit with h | h <;> rw [h] <;> decide }

omit [IsStrictOrderedRing K] in
/-- In the other direction, what spoke for an alternative speaks against it. -/
theorem netFlow_reverse (i : Fin N) : c.reverse.netFlow column i = -c.netFlow column i := by
  have hflip : criterionComparison c.preference (-c.direction) column =
      fun i j => criterionComparison c.preference c.direction column j i := by
    funext i j
    unfold criterionComparison
    rw [Int.cast_neg, mul_neg, mul_neg, neg_sub_neg]
  have hnet : (criterionComparison c.preference (-c.direction) column).net i =
      -(criterionComparison c.preference c.direction column).net i := by
    rw [hflip, net_flip]
  calc c.reverse.netFlow column i
      = (criterionComparison c.preference (-c.direction) column).net i / ((N : K) - 1) := rfl
    _ = -c.netFlow column i := by rw [hnet, neg_div, netFlow]

end Criterion

/-! ### The scores -/

/-- **Net flows are conserved.**  The scores of `prom_ii` add up to zero and lie between minus one
and one, each column of the weighted flow adds up to zero, and reversing all directions negates
every score. -/
theorem promIi_conserved {N M : ℕ} (hN : 2 ≤ N) (criteria : Fin M → Criterion K)
    (matrix : Fin N → Fin M → K) (chunksize : Option ℕ) (hchunk : ∀ c ∈ chunksize, 1 ≤ c) :
    ∃ scores weightedFlow,
      Criterion.promIi criteria matrix chunksize = .ok (scores, weightedFlow) ∧
      ∑ i, scores i = 0 ∧
      (∀ i, -1 ≤ scores i ∧ scores i ≤ 1) ∧
      (∀ k, ∑ i, weightedFlow i k = 0) ∧
      ∃ weightedFlow', Criterion.promIi (fun k => (criteria k).reverse) matrix chunksize =
        .ok (fun i => -scores i, weightedFlow') := by
  have hsize : 1 ≤ chunksize.getD N := by
    cases chunksize with
    | none => exact le_trans (by decide) hN
    | some c => exact hchunk c rfl
  have hweight : ∀ k, 0 ≤ (criteria k).weight := fun k => (criteria k).weight_nonneg
  refine ⟨_, _, Criterion.promIi_eq criteria matrix hsize, ?_, fun i => abs_le.1 ?_, fun k => ?_,
    ⟨_, (Criterion.promIi_eq _ matrix hsize).trans
      (congrArg Except.ok (Prod.ext (funext fun i => ?_) rfl))⟩⟩
  · exact sum_weighted fun k => Criterion.sum_netFlow _ _
  · exact abs_weighted_le hweight fun k => Criterion.abs_netFlow_le _ _ hN i
  · rw [← Finset.sum_mul, Criterion.sum_netFlow, zero_mul]
  · simp only [weighted, Criterion.netFlow_reverse, neg_mul, Finset.sum_neg_distrib]
    rfl

/-- Chunks of two. -/
theorem promIi_conserved_test : ∃ scores weightedFlow,
    Criterion.promIi testCriteria testMatrix (some 2) = .ok (scores, weightedFlow) ∧
      ∑ i, scores i = 0 := by
  obtain ⟨scores, weightedFlow, hok, hsum, -⟩ :=
    promIi_conserved (by decide) testCriteria testMatrix (some 2) (by simp)
  exact ⟨scores, weightedFlow, hok, hsum⟩

end StormPiper
