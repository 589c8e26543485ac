import StormPiper.Cost.DirectSum

/-!
# Replacements at the end of a life

A facility with a life of `L` years is replaced at the end of each life, and the cost of the `k`-th
replacement belongs to the year that contains the end of the `k`-th life, which is `⌊k * L⌋` years
after the first one.  The table of yearly costs compares the years with the multiples of `L` before
they are rounded, so it finds the replacement only where such a multiple is whole.

* `LifeEndsIn` : the years in which a life ends.
* `ChargedAtEndsOfLife` : every replacement is charged once and in its year.
* `chargedAtEndsOfLife_iff` : this holds exactly if nothing is charged, the life is a whole number
  of years, or no life ends before the horizon does.
-/

namespace StormPiper

variable {K : Type} [Field K] [LinearOrder K] [IsStrictOrderedRing K] [FloorRing K]

/-- A life of `lifespan` years that began in the year `start` ends in the year `y`, which is one of
the horizon. -/
def LifeEndsIn (start horizon : ℤ) (lifespan : K) (y : ℤ) : Prop :=
  ∃ k : ℕ, 1 ≤ k ∧ ⌊(k : K) * lifespan⌋ ≤ horizon ∧ y = start + ⌊(k : K) * lifespan⌋

/-- Each year in which a life ends has one row, the cost of a replacement is charged in the rows of
these years, and in no other row. -/
structure ChargedAtEndsOfLife (start horizon : ℤ) (lifespan cost : K)
    (table : List (OmRow K (Extended K))) : Prop where
  one_row : ∀ y, LifeEndsIn start horizon lifespan y →
    (table.filter fun row => row.year = y).length = 1
  charged : ∀ row ∈ table, LifeEndsIn start horizon lifespan row.year → row.replacementCost = cost
  no_other : ∀ row ∈ table, ¬ LifeEndsIn start horizon lifespan row.year → row.replacementCost = 0

/-- The settings of an analysis whose basis year and horizon are whole. -/
def wholeSettings (discountRate inflationRate : K) (start horizon : ℤ) : PVSettings K where
  discountRate
  inflationRate
  planningHorizonYrs := horizon
  costBasisYear := start

/-! ### The ends of the lives -/

section Lives

variable {start horizon : ℤ} {lifespan : K}

/-- Only the first multiple of a life is the end of the first life. -/
theorem floor_eq_mul_iff (hlife : 1 ≤ lifespan) :
    (∃ k : ℕ, 1 ≤ k ∧ ((⌊lifespan⌋ : ℤ) : K) = k * lifespan) ↔ lifespan = ⌊lifespan⌋ := by
  constructor
  · rintro ⟨k, hk, heq⟩
    have hpos : (0 : K) < lifespan := zero_lt_one.trans_le hlife
    have hle : (k : K) * lifespan ≤ 1 * lifespan := by
      rw [← heq, one_mul]
      exact Int.floor_le lifespan
    have hk1 : k ≤ 1 := by exact_mod_cast le_of_mul_le_mul_right hle hpos
    obtain rfl : k = 1 := by omega
    rw [heq, Nat.cast_one, one_mul]
  · intro h
    exact ⟨1, le_rfl, by rw [Nat.cast_one, one_mul, ← h]⟩

theorem floor_mul_of_whole (h : lifespan = ⌊lifespan⌋) (k : ℕ) :
    ((⌊(k : K) * lifespan⌋ : ℤ) : K) = k * lifespan := by
  rw [h]
  have hcast : (k : K) * ((⌊lifespan⌋ : ℤ) : K) = ((k * ⌊lifespan⌋ : ℤ) : K) := by push_cast; rfl
  rw [hcast, Int.floor_intCast]

/-- Where the life is a whole number of years, or no life ends within the horizon, the multiples of
the life find the years in which a life ends. -/
theorem multiple_iff_lifeEndsIn (hlife : 1 ≤ lifespan)
    (h : lifespan = ⌊lifespan⌋ ∨ horizon < ⌊lifespan⌋) {y : ℤ} (hy : y ≤ start + horizon) :
    (∃ k : ℕ, 1 ≤ k ∧ ((y - start : ℤ) : K) = k * lifespan) ↔
      LifeEndsIn start horizon lifespan y := by
  have hfirst : ∀ k : ℕ, 1 ≤ k → ⌊lifespan⌋ ≤ ⌊(k : K) * lifespan⌋ := fun k hk =>
    Int.floor_le_floor (le_mul_of_one_le_left (zero_le_one.trans hlife) (by exact_mod_cast hk))
  rcases h with hwhole | hlate
  · constructor
    · rintro ⟨k, hk, heq⟩
      have hyk : y - start = ⌊(k : K) * lifespan⌋ := by rw [← heq, Int.floor_intCast]
      exact ⟨k, hk, by omega, by omega⟩
    · rintro ⟨k, hk, -, rfl⟩
      exact ⟨k, hk, by rw [add_sub_cancel_left, floor_mul_of_whole hwhole]⟩
  · constructor
    · rintro ⟨k, hk, heq⟩
      have hyk : y - start = ⌊(k : K) * lifespan⌋ := by rw [← heq, Int.floor_intCast]
      have := hfirst k hk
      omega
    · rintro ⟨k, hk, hle, -⟩
      have := hfirst k hk
      omega

end Lives

/-! ### The table -/

section Table

variable {ops : FloatOps K} {omCost : K} {omCostBasisYear : Option K}
  {discountRate inflationRate : K} {start horizon : ℤ} {lifespan : K} {cost : Option K}

/-- The rows are those of the years of the horizon. -/
theorem computeBmpOmPv_years (hlife : 1 ≤ lifespan) :
    computeBmpOmPv ops omCost omCostBasisYear (some (start : K)) (some lifespan) cost
        (wholeSettings discountRate inflationRate start horizon) =
      .ok ((arangeInt start (start + horizon + 1)).map
        (omRow ops omCost (omCostBasisYear.getD start) (cost.getD 0)
          (wholeSettings discountRate inflationRate start horizon) (start + horizon + 1)
          ((arange (start : K) ((start + horizon + 1 : ℤ) + 1) lifespan).drop 1))) := by
  have hfirst : truncate (min (start : K) (start : K)) = start := by
    rw [min_self, truncate_intCast]
  have hlast : truncate (max (start : K) (start : K) + (horizon : K) + 1) =
      start + horizon + 1 := by
    have hcast : max (start : K) (start : K) + (horizon : K) + 1 =
        ((start + horizon + 1 : ℤ) : K) := by simp
    rw [hcast, truncate_intCast]
  have hstep : lifespan ≠ 0 := (zero_lt_one.trans_le hlife).ne'
  simp only [computeBmpOmPv, wholeSettings, Option.getD_some, hfirst, hlast, npArange,
    if_neg hstep, ok_bind]

/-- A replacement is charged where a multiple of the life is a whole number of years. -/
theorem charged_iff (hlife : 1 ≤ lifespan) {y : ℤ} (hy : y ≤ start + horizon) :
    (y : K) ∈ (arange (start : K) ((start + horizon + 1 : ℤ) + 1) lifespan).drop 1 ↔
      ∃ k : ℕ, 1 ≤ k ∧ ((y - start : ℤ) : K) = k * lifespan := by
  have hend : (y : K) < ((start + horizon + 1 : ℤ) : K) + 1 := by
    exact_mod_cast (by omega : y < start + horizon + 1 + 1)
  rw [mem_arange_drop_one (zero_lt_one.trans_le hlife)]
  refine exists_congr fun k => and_congr Iff.rfl ⟨fun h => ?_, fun h => ⟨?_, hend⟩⟩
  · rw [Int.cast_sub, h.1, add_sub_cancel_left]
  · rw [← h, Int.cast_sub, add_sub_cancel]

/-- If the first life ends within the horizon, but not with a whole year, its replacement is not
charged. -/
theorem not_chargedAtEndsOfLife (hlife : 1 ≤ lifespan) (hcost : cost.getD 0 ≠ 0)
    (hwhole : lifespan ≠ ⌊lifespan⌋) (hends : ⌊lifespan⌋ ≤ horizon) :
    ¬ ChargedAtEndsOfLife start horizon lifespan (cost.getD 0)
      ((arangeInt start (start + horizon + 1)).map
        (omRow ops omCost (omCostBasisYear.getD start) (cost.getD 0)
          (wholeSettings discountRate inflationRate start horizon) (start + horizon + 1)
          ((arange (start : K) ((start + horizon + 1 : ℤ) + 1) lifespan).drop 1))) := by
  intro h
  have hfloor : 1 ≤ ⌊lifespan⌋ := Int.le_floor.2 (by simpa using hlife)
  have hmem : start + ⌊lifespan⌋ ∈ arangeInt start (start + horizon + 1) :=
    mem_arangeInt.2 ⟨by omega, by omega⟩
  -- the end of the first life is in the horizon, so its year must be charged
  have hcharged := h.charged _ (List.mem_map_of_mem hmem)
    ⟨1, le_rfl, by simpa using hends, by simp [omRow]⟩
  simp only [omRow] at hcharged
  split_ifs at hcharged with hin
  · refine hwhole ((floor_eq_mul_iff hlife).1 ?_)
    obtain ⟨k, hk, heq⟩ := (charged_iff hlife (by omega)).1 hin
    exact ⟨k, hk, by rwa [add_sub_cancel_left] at heq⟩
  · exact hcost hcharged.symm

/-- **Replacements are charged once and in their years exactly if** the replacement costs nothing,
the life is a whole number of years, or the first life ends after the horizon. -/
theorem chargedAtEndsOfLife_iff (ops : FloatOps K) (omCost : K) (omCostBasisYear cost : Option K)
    (discountRate inflationRate : K) (start horizon : ℤ) (lifespan : K) (hlife : 1 ≤ lifespan) :
    ∃ table, computeBmpOmPv ops omCost omCostBasisYear (some (start : K)) (some lifespan) cost
        (wholeSettings discountRate inflationRate start horizon) = .ok table ∧
      (ChargedAtEndsOfLife start horizon lifespan (cost.getD 0) table ↔
        cost.getD 0 = 0 ∨ lifespan = ⌊lifespan⌋ ∨ horizon < ⌊lifespan⌋) := by
  refine ⟨_, computeBmpOmPv_years hlife, ⟨fun h => ?_, fun h => ?_⟩⟩
  · by_contra hnot
    simp only [not_or, not_lt] at hnot
    exact not_chargedAtEndsOfLife hlife hnot.1 hnot.2.1 hnot.2.2 h
  · have hrow : ∀ y ∈ arangeInt start (start + horizon + 1), cost.getD 0 = 0 ∨
        ((y : K) ∈ (arange (start : K) ((start + horizon + 1 : ℤ) + 1) lifespan).drop 1 ↔
          LifeEndsIn start horizon lifespan y) := by
      intro y hy
      have hle : y ≤ start + horizon := Int.lt_add_one_iff.1 (mem_arangeInt.1 hy).2
      exact h.imp id fun h => (charged_iff hlife hle).trans (multiple_iff_lifeEndsIn hlife h hle)
    refine ⟨?_, ?_, ?_⟩
    · -- the year of the end of a life has exactly one row, whatever it is charged
      rintro _ ⟨k, -, hk, rfl⟩
      have hnonneg : 0 ≤ ⌊(k : K) * lifespan⌋ :=
        Int.floor_nonneg.2 (mul_nonneg (Nat.cast_nonneg k) (zero_le_one.trans hlife))
      have hcount := (nodup_arangeInt start (start + horizon + 1)).count
        (a := start + ⌊(k : K) * lifespan⌋)
      rw [if_pos (mem_arangeInt.2 ⟨by omega, by omega⟩), List.count_eq_countP,
        List.countP_eq_length_filter] at hcount
      rw [List.filter_map, List.length_map]
      exact hcount
    · rintro _ hmem hends
      obtain ⟨y, hy, rfl⟩ := List.mem_map.1 hmem
      rcases hrow y hy with hzero | hiff
      · simp only [omRow, hzero, ite_self]
      · exact if_pos (hiff.2 hends)
    · rintro _ hmem hends
      obtain ⟨y, hy, rfl⟩ := List.mem_map.1 hmem
      rcases hrow y hy with hzero | hiff
      · simp only [omRow, hzero, ite_self]
      · exact if_neg fun hin => hends (hiff.1 hin)

end Table

/-- A facility of the year 2023 with a life of seven and a half years, in a horizon of fifteen
years. -/
theorem not_chargedAtEndsOfLife_half_year :
    ∃ table, computeBmpOmPv ⟨roundCents, fun _ _ => 0⟩ 6000 none (some ((2023 : ℤ) : ℚ))
        (some (15 / 2)) (some 225000) (wholeSettings (5 / 100) (22 / 1000) 2023 15) = .ok table ∧
      ¬ ChargedAtEndsOfLife 2023 15 (15 / 2 : ℚ) ((some 225000).getD 0) table :=
  ⟨_, computeBmpOmPv_years (by norm_num), not_chargedAtEndsOfLife (by norm_num) (by norm_num)
    (by norm_num) (by norm_num)⟩

/-- With a life of fifteen years all is right. -/
theorem chargedAtEndsOfLife_whole_years :
    ∃ table, computeBmpOmPv ⟨roundCents, fun _ _ => 0⟩ 6000 none (some ((2023 : ℤ) : ℚ))
        (some 15) (some 225000) (wholeSettings (5 / 100) (22 / 1000) 2023 50) = .ok table ∧
      ChargedAtEndsOfLife 2023 50 (15 : ℚ) ((some 225000).getD 0) table := by
  obtain ⟨table, htable, hiff⟩ := chargedAtEndsOfLife_iff ⟨roundCents, fun _ _ => 0⟩ 6000 none
    (some 225000) (5 / 100) (22 / 1000) 2023 50 (15 : ℚ) (by norm_num)
  exact ⟨table, htable, hiff.2 (.inr (.inl (by norm_num)))⟩

end StormPiper
