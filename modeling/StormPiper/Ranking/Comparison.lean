import Mathlib.Algebra.BigOperators.Group.Finset.Basic
import Mathlib.Algebra.BigOperators.Ring.Finset
import Mathlib.Algebra.BigOperators.Field
import Mathlib.Algebra.Order.BigOperators.Group.Finset
import Mathlib.Algebra.Order.Field.Basic
import Mathlib.Algebra.Order.Group.Abs
import Mathlib.Data.Fintype.Card
import Mathlib.Tactic.Linarith

/-!
# Pairwise comparisons

A comparison says to which degree each alternative is preferred to each other one.  The net flow of
an alternative is what speaks for it less what speaks against it, added up over all alternatives.

* `net` : the net flow; it sums to zero, and to better comparisons belong larger flows.
* `ordinal` : the comparison of values that only asks which one is larger.
* `share`, `weighted` : the net flows of several criteria, weighted and added up.
* `rescale` : the position between a lower and an upper bound.
-/

namespace StormPiper

open Finset

variable {ι κ K : Type*} [Fintype ι] [Fintype κ]

/-- `P i j` is the degree to which `i` is preferred to `j`. -/
abbrev Comparison (ι K : Type*) := ι → ι → K

namespace Comparison

/-! ### The net flow -/

section Net

variable [AddCommGroup K] (P : Comparison ι K)

/-- What speaks for an alternative, less what speaks against it. -/
def net (i : ι) : K := ∑ j, P i j - ∑ j, P j i

theorem sum_net : ∑ i, net P i = 0 := by
  unfold net
  rw [sum_sub_distrib, sum_comm, sub_self]

theorem net_flip (i : ι) : net (fun i j => P j i) i = -net P i :=
  (neg_sub _ _).symm

theorem net_comp {ι' : Type*} [Fintype ι'] (σ : ι' ≃ ι) (i : ι') :
    net (fun i j => P (σ i) (σ j)) i = net P (σ i) := by
  unfold net
  rw [σ.sum_comp fun j => P (σ i) j, σ.sum_comp fun j => P j (σ i)]

variable {P} [LinearOrder K] [IsOrderedAddMonoid K] {a b : ι}

theorem net_le_net (hfor : ∀ j, P b j ≤ P a j) (hagainst : ∀ j, P j a ≤ P j b) :
    net P b ≤ net P a :=
  sub_le_sub (sum_le_sum fun j _ => hfor j) (sum_le_sum fun j _ => hagainst j)

theorem net_lt_net (hfor : ∀ j, P b j ≤ P a j) (hagainst : ∀ j, P j a ≤ P j b)
    (hlt : ∃ j, P b j < P a j) : net P b < net P a := by
  obtain ⟨j, hj⟩ := hlt
  have hlt := sum_lt_sum (fun j _ => hfor j) ⟨j, mem_univ j, hj⟩
  have hle := sum_le_sum fun j (_ : j ∈ univ) => hagainst j
  exact (sub_lt_sub_right hlt _).trans_le (sub_le_sub_left hle _)

end Net

section Bounds

variable [Field K] [LinearOrder K] [IsStrictOrderedRing K] {P : Comparison ι K}

/-- An alternative is compared with all others, to a degree of at most one. -/
theorem abs_net_le [DecidableEq ι] (h0 : ∀ i j, 0 ≤ P i j) (h1 : ∀ i j, P i j ≤ 1) (i : ι) :
    |net P i| ≤ (Fintype.card ι : K) - 1 := by
  have hself : ∑ j ∈ univ.erase i, (P i j - P j i) = net P i := by
    rw [net, ← sum_sub_distrib]
    exact sum_erase _ (sub_self _)
  have hterm : ∀ j, |P i j - P j i| ≤ 1 := fun j =>
    abs_le.2 ⟨by linarith [h0 i j, h1 j i], by linarith [h0 j i, h1 i j]⟩
  have hcard : (((univ : Finset ι).erase i).card : K) = (Fintype.card ι : K) - 1 := by
    rw [card_erase_of_mem (mem_univ i), card_univ, Nat.cast_pred (Fintype.card_pos_iff.2 ⟨i⟩)]
  calc |net P i| = |∑ j ∈ univ.erase i, (P i j - P j i)| := by rw [hself]
    _ ≤ ∑ j ∈ univ.erase i, |P i j - P j i| := abs_sum_le_sum_abs _ _
    _ ≤ ∑ _j ∈ univ.erase i, 1 := sum_le_sum fun j _ => hterm j
    _ = (Fintype.card ι : K) - 1 := by rw [sum_const, nsmul_eq_mul, mul_one, hcard]

end Bounds

/-! ### The ordinal comparison -/

section Ordinal

variable [Field K] [LinearOrder K] [IsStrictOrderedRing K] {α β : Type*} [LinearOrder α]
  [LinearOrder β]

/-- A larger value is preferred entirely, whatever the difference. -/
def ordinal (x : ι → α) : Comparison ι K := fun i j => if x j < x i then 1 else 0

omit [Fintype ι] [LinearOrder K] [IsStrictOrderedRing K] in
theorem ordinal_congr {x : ι → α} {y : ι → β} (h : ∀ i j, y i < y j ↔ x i < x j) :
    (ordinal y : Comparison ι K) = ordinal x := by
  funext i j
  exact if_congr (h j i) rfl rfl

variable {x : ι → α} {a b : ι}

omit [Fintype ι] in
theorem ordinal_le_ordinal {i j i' j' : ι} (h : x j < x i → x j' < x i') :
    (ordinal x i j : K) ≤ ordinal x i' j' := by
  unfold ordinal
  split_ifs with h1 h2 h2
  · exact le_rfl
  · exact absurd (h h1) h2
  · exact zero_le_one
  · exact le_rfl

theorem net_ordinal_mono (h : x b ≤ x a) : net (ordinal x : Comparison ι K) b ≤ net (ordinal x) a :=
  net_le_net (fun _ => ordinal_le_ordinal fun hlt => hlt.trans_le h)
    fun _ => ordinal_le_ordinal fun hlt => h.trans_lt hlt

theorem net_ordinal_strictMono (h : x b < x a) :
    net (ordinal x : Comparison ι K) b < net (ordinal x) a := by
  refine net_lt_net (fun _ => ordinal_le_ordinal fun hlt => hlt.trans h)
    (fun _ => ordinal_le_ordinal fun hlt => h.trans hlt) ⟨b, ?_⟩
  simp [ordinal, h]

theorem net_ordinal_lt_iff : net (ordinal x : Comparison ι K) b < net (ordinal x) a ↔ x b < x a :=
  ⟨fun h => lt_of_not_ge fun hle => absurd (net_ordinal_mono hle) (not_le.2 h),
    net_ordinal_strictMono⟩

end Ordinal

/-! ### Several criteria -/

section Weighted

variable [Field K] [LinearOrder K] [IsStrictOrderedRing K] {w : κ → K} {φ ψ : κ → ι → K}

omit [LinearOrder K] [IsStrictOrderedRing K] in
/-- The part of a criterion in the total weight. -/
def share (w : κ → K) (k : κ) : K := w k / ∑ l, w l

/-- The flows of the criteria, weighted and added up. -/
def weighted (w : κ → K) (φ : κ → ι → K) (i : ι) : K := ∑ k, φ k i * share w k

theorem share_nonneg (hw : ∀ k, 0 ≤ w k) (k : κ) : 0 ≤ share w k :=
  div_nonneg (hw k) (sum_nonneg fun l _ => hw l)

theorem share_pos (hw : ∀ k, 0 ≤ w k) {k : κ} (hk : 0 < w k) : 0 < share w k :=
  div_pos hk (hk.trans_le (single_le_sum (fun l _ => hw l) (mem_univ k)))

theorem sum_share_le_one (w : κ → K) : ∑ k, share w k ≤ 1 := by
  unfold share
  rw [← sum_div]
  exact div_self_le_one _

omit [LinearOrder K] [IsStrictOrderedRing K] in
theorem share_mul_const {c : K} (hc : c ≠ 0) (k : κ) : share (fun k => c * w k) k = share w k := by
  unfold share
  rw [← mul_sum, mul_div_mul_left _ _ hc]

omit [Fintype ι] [LinearOrder K] [IsStrictOrderedRing K] in
/-- Criteria may be renamed, and criteria without weight left out. -/
theorem weighted_of_injective {κ' : Type*} [Fintype κ'] {e : κ → κ'} (he : Function.Injective e)
    {w' : κ' → K} {φ' : κ' → ι → K} (hw : ∀ k, w' (e k) = w k) (hφ : ∀ k, φ' (e k) = φ k)
    (hzero : ∀ k, k ∉ Set.range e → w' k = 0) (i : ι) : weighted w' φ' i = weighted w φ i := by
  have hsum : ∑ k, w k = ∑ k, w' k :=
    Fintype.sum_of_injective e he _ _ hzero fun k => (hw k).symm
  refine (Fintype.sum_of_injective e he _ _ ?_ ?_).symm
  · intro k hk
    simp only [share, hzero k hk, zero_div, mul_zero]
  · intro k
    simp only [share, hw, hφ, hsum]

omit [LinearOrder K] [IsStrictOrderedRing K] in
theorem sum_weighted (h : ∀ k, ∑ i, φ k i = 0) : ∑ i, weighted w φ i = 0 := by
  unfold weighted
  rw [sum_comm]
  exact sum_eq_zero fun k _ => by rw [← sum_mul, h k, zero_mul]

omit [Fintype ι] in
theorem abs_weighted_le (hw : ∀ k, 0 ≤ w k) {i : ι} (h : ∀ k, |φ k i| ≤ 1) :
    |weighted w φ i| ≤ 1 := by
  calc |weighted w φ i| ≤ ∑ k, |φ k i * share w k| := abs_sum_le_sum_abs _ _
    _ ≤ ∑ k, share w k := by
        refine sum_le_sum fun k _ => ?_
        rw [abs_mul, abs_of_nonneg (share_nonneg hw k)]
        exact mul_le_of_le_one_left (share_nonneg hw k) (h k)
    _ ≤ 1 := sum_share_le_one w

variable {a b : ι}

omit [Fintype ι] in
theorem weighted_mono (hw : ∀ k, 0 ≤ w k) (h : ∀ k, φ k b ≤ φ k a) :
    weighted w φ b ≤ weighted w φ a :=
  sum_le_sum fun k _ => mul_le_mul_of_nonneg_right (h k) (share_nonneg hw k)

omit [Fintype ι] in
theorem weighted_strictMono (hw : ∀ k, 0 ≤ w k) (h : ∀ k, φ k b ≤ φ k a) {k : κ} (hk : 0 < w k)
    (hlt : φ k b < φ k a) : weighted w φ b < weighted w φ a :=
  sum_lt_sum (fun k _ => mul_le_mul_of_nonneg_right (h k) (share_nonneg hw k))
    ⟨k, mem_univ k, mul_lt_mul_of_pos_right hlt (share_pos hw hk)⟩

omit [Fintype ι] in
theorem weighted_single [DecidableEq κ] {k : κ} (hk : w k ≠ 0) (hzero : ∀ l, l ≠ k → w l = 0)
    (i : ι) : weighted w φ i = φ k i := by
  have hsum : ∑ l, w l = w k := sum_eq_single k (fun l _ hl => hzero l hl) (by simp)
  unfold weighted
  rw [sum_eq_single k (fun l _ hl => by rw [share, hzero l hl, zero_div, mul_zero]) (by simp),
    share, hsum, div_self hk, mul_one]

end Weighted

/-! ### The position between two bounds -/

section Rescale

variable [Field K] [LinearOrder K] [IsStrictOrderedRing K] {lo hi x y : K}

/-- The position of `x` between `lo` and `hi`, from zero to one. -/
def rescale (lo hi x : K) : K := if hi - lo = 0 then 1 else (x - lo) / (hi - lo)

theorem rescale_of_lt (h : lo < hi) (x : K) : rescale lo hi x = (x - lo) / (hi - lo) :=
  if_neg (sub_pos.2 h).ne'

omit [IsStrictOrderedRing K] in
theorem rescale_of_eq (h : lo = hi) (x : K) : rescale lo hi x = 1 :=
  if_pos (sub_eq_zero.2 h.symm)

theorem rescale_lo (h : lo < hi) : rescale lo hi lo = 0 := by
  rw [rescale_of_lt h, sub_self, zero_div]

omit [IsStrictOrderedRing K] in
theorem rescale_hi (lo hi : K) : rescale lo hi hi = 1 := by
  unfold rescale
  split_ifs with h
  · rfl
  · exact div_self h

theorem rescale_lt_iff (h : lo < hi) : rescale lo hi x < rescale lo hi y ↔ x < y := by
  rw [rescale_of_lt h, rescale_of_lt h, div_lt_div_iff_of_pos_right (sub_pos.2 h),
    sub_lt_sub_iff_right]

theorem rescale_mono (h : lo ≤ hi) (hxy : x ≤ y) : rescale lo hi x ≤ rescale lo hi y := by
  rcases h.eq_or_lt with heq | hlt
  · rw [rescale_of_eq heq, rescale_of_eq heq]
  · exact not_lt.1 fun hyx => absurd ((rescale_lt_iff hlt).1 hyx) (not_lt.2 hxy)

theorem rescale_nonneg (h : lo ≤ x) (h' : x ≤ hi) : 0 ≤ rescale lo hi x := by
  rcases (h.trans h').eq_or_lt with heq | hlt
  · rw [rescale_of_eq heq]
    exact zero_le_one
  · rw [← rescale_lo hlt]
    exact rescale_mono hlt.le h

theorem rescale_le_one (h : lo ≤ x) (h' : x ≤ hi) : rescale lo hi x ≤ 1 := by
  rw [← rescale_hi lo hi]
  exact rescale_mono (h.trans h') h'

end Rescale

end Comparison

end StormPiper
