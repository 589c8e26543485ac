import Mathlib.Data.Fintype.Lattice
import StormPiper.Promethee.Textbook

/-!
# Better subbasins are ranked higher

`run_promethee_ii` compares the subbasins with the usual preference function, which only asks which
value is larger, and puts the scores between their minimum and maximum on a scale from zero to one
hundred.  An alternative that is at least as good as another one on every criterion has at least
its score.

* `netScore` : the score before it is rescaled.
* `minmaxNormalization_eq`, `runPrometheeIi_eq` : the scores as positions between two bounds.
* `runPrometheeIi_dominance` : the ranking.
-/

namespace StormPiper

open Comparison

variable {K : Type} [Field K] [LinearOrder K] {N M : ℕ}

/-- The values of a column in the direction of its criterion. -/
def directed (matrix : Fin N → Fin M → K) (types : Fin M → ℤ) (k : Fin M) (i : Fin N) : K :=
  matrix i k * types k

/-- The weighted net flow of the alternatives where only the order of the values counts. -/
def netScore (matrix : Fin N → Fin M → K) (weights : Fin M → K) (types : Fin M → ℤ) : Fin N → K :=
  weighted weights fun k i => (ordinal (directed matrix types k) : Comparison (Fin N) K).net i /
    ((N : K) - 1)

omit [LinearOrder K] in
/-- The matrix has the columns of the criteria. -/
theorem columnsToNumpy_eq_ok {df : String → Option (Fin N → K)} {criteria : Fin M → String}
    {matrix : Fin N → Fin M → K} :
    columnsToNumpy df criteria = .ok matrix ↔ ∀ k, df (criteria k) = some fun i => matrix i k := by
  unfold columnsToNumpy
  constructor
  · intro h k
    split_ifs at h with hsome
    obtain ⟨column, hcolumn⟩ := Option.isSome_iff_exists.1 (hsome k)
    simp only [← Except.ok.inj h, hcolumn, Option.getD_some]
  · intro h
    simp only [h, Option.isSome_some, implies_true, if_true, Option.getD_some]

variable [IsStrictOrderedRing K]

theorem criterionComparison_usual (q p : K) (d : ℤ) (column : Fin N → K) :
    criterionComparison (fun x => preferenceFunction "usual" x q p) d column =
      ordinal fun i => column i * d := by
  funext i j
  exact if_congr sub_pos rfl rfl

omit [IsStrictOrderedRing K] in
theorem checkPrefFxn_usual :
    checkPrefFxn K (.list (List.replicate M "usual")) M = .ok fun _ => "usual" := by
  have hnames : checkParamLength (List.replicate M "usual") M = .ok fun _ => "usual" := by
    rw [← List.ofFn_const]
    exact checkParamLength_ofFn _
  simp only [checkPrefFxn, hnames, ok_bind]
  exact if_pos fun _ => by simp [PREFERENCE_FUNCTIONS]

omit [IsStrictOrderedRing K] in
/-- The normalised array, where its bounds are known. -/
theorem minmaxNormalization_eq {arr : Fin N → K} {lo hi : K} (hlo : IsLeast (Set.range arr) lo)
    (hhi : IsGreatest (Set.range arr) hi) :
    minmaxNormalization arr = .ok fun i => rescale lo hi (arr i) := by
  have hmin : (List.ofFn arr).min? = some lo := by
    refine List.min?_eq_some_iff.2 ⟨List.mem_ofFn.2 hlo.1, fun b hb => hlo.2 ?_⟩
    exact List.mem_ofFn.1 hb
  have hmax : (List.ofFn arr).max? = some hi := by
    refine List.max?_eq_some_iff.2 ⟨List.mem_ofFn.2 hhi.1, fun b hb => hhi.2 ?_⟩
    exact List.mem_ofFn.1 hb
  simp only [minmaxNormalization, hmin, hmax]
  refine congrArg Except.ok (funext fun i => ?_)
  unfold rescale
  split_ifs <;> rfl

/-- The scores, up to their rescaling. -/
theorem runPrometheeIi_eq_minmax (hN : 2 ≤ N) {df : String → Option (Fin N → K)}
    {criteria : Fin M → String} {matrix : Fin N → Fin M → K}
    (hmatrix : columnsToNumpy df criteria = .ok matrix) {weights : Fin M → K}
    (hw : ∀ k, 0 ≤ weights k) {types : Fin M → ℤ} (htypes : ∀ k, types k = 1 ∨ types k = -1) :
    runPrometheeIi df criteria weights types =
      (minmaxNormalization (netScore matrix weights types) >>= fun scores =>
        .ok fun i => scores i * (100 : ℕ)) := by
  have hbmod : ∀ k, (((some types).getD fun _ => 1) k).bmod 256 = types k := by
    intro k
    rw [Option.getD_some]
    rcases htypes k with h | h <;> rw [h] <;> rfl
  have hparam : checkParamLength ((none : Option (List K)).getD (List.replicate M 0)) M =
      .ok fun _ => 0 := by
    rw [Option.getD_none, ← List.ofFn_const]
    exact checkParamLength_ofFn _
  have hsize : 1 ≤ (none : Option ℕ).getD N := le_trans (by decide) hN
  have hprom := promIi_eq matrix hw hbmod checkPrefFxn_usual hparam hparam hsize rfl
  simp only [criterionComparison_usual] at hprom
  simp only [runPrometheeIi, hmatrix, hprom, ok_bind]
  rfl

/-- **The scores are the positions of the net flows between their minimum and maximum.** -/
theorem runPrometheeIi_eq (hN : 2 ≤ N) {df : String → Option (Fin N → K)}
    {criteria : Fin M → String} {matrix : Fin N → Fin M → K}
    (hmatrix : columnsToNumpy df criteria = .ok matrix) {weights : Fin M → K}
    (hw : ∀ k, 0 ≤ weights k) {types : Fin M → ℤ} (htypes : ∀ k, types k = 1 ∨ types k = -1) :
    ∃ lo hi, IsLeast (Set.range (netScore matrix weights types)) lo ∧
      IsGreatest (Set.range (netScore matrix weights types)) hi ∧
      runPrometheeIi df criteria weights types =
        .ok fun i => rescale lo hi (netScore matrix weights types i) * 100 := by
  have : Nonempty (Fin N) := ⟨⟨0, by omega⟩⟩
  obtain ⟨i, hi⟩ := Finite.exists_min (netScore matrix weights types)
  obtain ⟨j, hj⟩ := Finite.exists_max (netScore matrix weights types)
  have hleast : IsLeast (Set.range (netScore matrix weights types)) _ :=
    ⟨⟨i, rfl⟩, Set.forall_mem_range.2 hi⟩
  have hgreatest : IsGreatest (Set.range (netScore matrix weights types)) _ :=
    ⟨⟨j, rfl⟩, Set.forall_mem_range.2 hj⟩
  refine ⟨_, _, hleast, hgreatest, ?_⟩
  rw [runPrometheeIi_eq_minmax hN hmatrix hw htypes, minmaxNormalization_eq hleast hgreatest,
    ok_bind, Nat.cast_ofNat]

/-! ### Dominance -/

section Dominance

variable {matrix : Fin N → Fin M → K} {weights : Fin M → K} {types : Fin M → ℤ} {a b : Fin N}

theorem netScore_mono (hN : 2 ≤ N) (hw : ∀ k, 0 ≤ weights k)
    (h : ∀ k, directed matrix types k b ≤ directed matrix types k a) :
    netScore matrix weights types b ≤ netScore matrix weights types a :=
  weighted_mono hw fun k => div_le_div_of_nonneg_right (net_ordinal_mono (h k)) (others_pos hN).le

theorem netScore_strictMono (hN : 2 ≤ N) (hw : ∀ k, 0 ≤ weights k)
    (h : ∀ k, directed matrix types k b ≤ directed matrix types k a) {k : Fin M}
    (hk : 0 < weights k) (hlt : directed matrix types k b < directed matrix types k a) :
    netScore matrix weights types b < netScore matrix weights types a :=
  weighted_strictMono hw
    (fun k => div_le_div_of_nonneg_right (net_ordinal_mono (h k)) (others_pos hN).le) hk
    (div_lt_div_of_pos_right (net_ordinal_strictMono hlt) (others_pos hN))

/-- With a single criterion that has weight, the net flow orders the alternatives as the values
do. -/
theorem netScore_single (hN : 2 ≤ N) {k : Fin M} (hk : 0 < weights k)
    (hzero : ∀ l, l ≠ k → weights l = 0) :
    netScore matrix weights types b < netScore matrix weights types a ↔
      directed matrix types k b < directed matrix types k a := by
  unfold netScore
  rw [weighted_single hk.ne' hzero, weighted_single hk.ne' hzero,
    div_lt_div_iff_of_pos_right (others_pos hN), net_ordinal_lt_iff]

end Dominance

/-- **A better subbasin is never ranked below a worse one.**  The scores are between zero and one
hundred and reach both unless they are all equal; at least as good on every criterion means at
least the score, and more than the score if one of the criteria with weight is better; and with a
single criterion that has weight the scores are ordered as its values in its direction, ties
included. -/
theorem runPrometheeIi_dominance (hN : 2 ≤ N) (df : String → Option (Fin N → K))
    (criteria : Fin M → String) (matrix : Fin N → Fin M → K)
    (hmatrix : columnsToNumpy df criteria = .ok matrix) (weights : Fin M → K)
    (hw : ∀ k, 0 ≤ weights k) (types : Fin M → ℤ) (htypes : ∀ k, types k = 1 ∨ types k = -1) :
    ∃ scores, runPrometheeIi df criteria weights types = .ok scores ∧
      (∀ a b, (∀ k, matrix b k * types k ≤ matrix a k * types k) → scores b ≤ scores a ∧
        ((∃ k, 0 < weights k ∧ matrix b k * types k < matrix a k * types k) →
          scores b < scores a)) ∧
      (∀ i, 0 ≤ scores i ∧ scores i ≤ 100) ∧
      ((∃ i j, scores i ≠ scores j) → (∃ i, scores i = 0) ∧ ∃ i, scores i = 100) ∧
      ∀ k, 0 < weights k → (∀ l, l ≠ k → weights l = 0) → ∀ a b,
        (scores b < scores a ↔ matrix b k * types k < matrix a k * types k) ∧
        (scores b = scores a ↔ matrix b k = matrix a k) := by
  obtain ⟨lo, hi, hlo, hhi, hrun⟩ := runPrometheeIi_eq hN hmatrix hw htypes
  have hbounds : ∀ i, lo ≤ netScore matrix weights types i ∧ netScore matrix weights types i ≤ hi :=
    fun i => ⟨hlo.2 ⟨i, rfl⟩, hhi.2 ⟨i, rfl⟩⟩
  have hrange : ∀ {a b}, netScore matrix weights types b < netScore matrix weights types a →
      lo < hi := fun h => ((hbounds _).1.trans_lt h).trans_le (hbounds _).2
  -- the rescaling keeps the order, since it is only constant where all net scores are equal
  have hlt : ∀ a b, rescale lo hi (netScore matrix weights types b) * 100 <
      rescale lo hi (netScore matrix weights types a) * 100 ↔
      netScore matrix weights types b < netScore matrix weights types a := by
    intro a b
    rw [mul_lt_mul_iff_of_pos_right (by norm_num)]
    refine ⟨fun h => ?_, fun h => (rescale_lt_iff (hrange h)).2 h⟩
    by_contra hle
    exact absurd (rescale_mono ((hbounds a).1.trans (hbounds a).2) (not_lt.1 hle)) (not_le.2 h)
  refine ⟨_, hrun, fun a b h => ⟨?_, ?_⟩, fun i => ⟨?_, ?_⟩, ?_, ?_⟩
  · exact not_lt.1 fun hba => absurd (netScore_mono hN hw h) (not_le.2 ((hlt b a).1 hba))
  · rintro ⟨k, hk, hk'⟩
    exact (hlt a b).2 (netScore_strictMono hN hw h hk hk')
  · exact mul_nonneg (rescale_nonneg (hbounds i).1 (hbounds i).2) (by norm_num)
  · have := rescale_le_one (hbounds i).1 (hbounds i).2
    linarith
  · rintro ⟨i, j, hij⟩
    have hlohi : lo < hi := by
      rcases lt_or_gt_of_ne hij with h | h
      · exact hrange ((hlt _ _).1 h)
      · exact hrange ((hlt _ _).1 h)
    obtain ⟨i, hi'⟩ := hlo.1
    obtain ⟨j, hj'⟩ := hhi.1
    refine ⟨⟨i, ?_⟩, ⟨j, ?_⟩⟩
    · rw [hi', rescale_lo hlohi, zero_mul]
    · rw [hj', rescale_hi, one_mul]
  · intro k hk hzero a b
    have horder : ∀ a b, (rescale lo hi (netScore matrix weights types b) * 100 <
        rescale lo hi (netScore matrix weights types a) * 100) ↔
        matrix b k * types k < matrix a k * types k := fun a b =>
      (hlt a b).trans (netScore_single hN hk hzero)
    refine ⟨horder a b, ?_⟩
    have htype : (types k : K) ≠ 0 := by
      rcases htypes k with h | h <;> rw [h] <;> norm_num
    -- the order of the scores is that of the values, so the ties are the same
    have hties : ∀ x y : K, x = y ↔ ¬ x < y ∧ ¬ y < x := fun x y => by
      rw [not_lt, not_lt, le_antisymm_iff, and_comm]
    rw [hties, horder a b, horder b a, ← hties]
    exact mul_left_inj' htype

/-- The table of the test. -/
def testDf (column : String) : Option (Fin 5 → ℚ) :=
  if column = "TSS_load_lbs" then some fun i => testMatrix i ⟨0, Nat.two_pos⟩
  else if column = "access" then some fun i => testMatrix i ⟨1, Nat.one_lt_two⟩
  else none

/-- Its two criteria. -/
def testColumns (k : Fin 2) : String := if k.val = 0 then "TSS_load_lbs" else "access"

theorem columnsToNumpy_test : columnsToNumpy testDf testColumns = .ok testMatrix := by
  refine columnsToNumpy_eq_ok.2 fun k => ?_
  match k with
  | 0 => rfl
  | 1 => rfl

/-- The scores of the test, with its two weights and directions. -/
theorem runPrometheeIi_dominance_test : ∃ scores,
    runPrometheeIi testDf testColumns (fun k => if k = 0 then 1 else 2)
      (fun k => if k = 0 then 1 else -1) = .ok scores ∧ ∀ i, 0 ≤ scores i ∧ scores i ≤ 100 := by
  obtain ⟨scores, hok, -, hbounds, -⟩ := runPrometheeIi_dominance (by decide) testDf testColumns
    testMatrix columnsToNumpy_test (fun k => if k = 0 then 1 else 2) (by decide)
    (fun k => if k = 0 then 1 else -1) (by decide)
  exact ⟨scores, hok, hbounds⟩

end StormPiper
