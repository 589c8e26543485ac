import Mathlib.Algebra.Order.BigOperators.Group.List
import Mathlib.Algebra.Order.Field.Basic
import Mathlib.Data.Finset.Card
import Mathlib.Order.BooleanAlgebra.Basic
import Mathlib.Tactic.Linarith

/-!
# Regions and their areas

Regions can be intersected, joined and taken away from each other, and the area of two regions that
do not meet is the sum of their areas.  Shapes in the plane are such regions, up to lines and
points, and so are finite sets of cells.

A layer of regions cuts a region into its *parts*: what each region of the layer takes of it, and
the rest.  The areas of the parts sum up to the area of the region exactly if no two of the layer
overlap in it.

* `RegionArea` : an additive area.
* `cover` : the region that a list of regions covers.
* `sum_area_eq_iff` : the areas sum up to that of the cover exactly if the regions do not overlap.
* `sum_parts_eq_iff`, `area_le_sum_parts` : the same for the parts of a region.
* `sum_le_larger` : what is lost when small parts are dropped.
-/

namespace StormPiper

namespace Regions

/-- An additive area. -/
structure RegionArea (G K : Type*) [GeneralizedBooleanAlgebra G] [Field K] [LinearOrder K] where
  area : G → K
  area_nonneg : ∀ g, 0 ≤ area g
  area_sup : ∀ a b, Disjoint a b → area (a ⊔ b) = area a + area b

variable {G K : Type*} [GeneralizedBooleanAlgebra G]

/-- What a list of regions covers. -/
def cover (gs : List G) : G := gs.foldr (· ⊔ ·) ⊥

@[simp] theorem cover_nil : cover ([] : List G) = ⊥ := rfl

@[simp] theorem cover_cons (g : G) (gs : List G) : cover (g :: gs) = g ⊔ cover gs := rfl

theorem foldl_sdiff (g : G) (gs : List G) : gs.foldl (· \ ·) g = g \ cover gs := by
  induction gs generalizing g with
  | nil => simp
  | cons a gs ih => rw [List.foldl_cons, ih, cover_cons, sdiff_sdiff_left]

theorem inf_cover (g : G) (gs : List G) : g ⊓ cover gs = cover (gs.map (g ⊓ ·)) := by
  induction gs with
  | nil => simp
  | cons a gs ih => rw [cover_cons, inf_sup_left, ih, List.map_cons, cover_cons]

theorem le_cover {g : G} {gs : List G} (h : g ∈ gs) : g ≤ cover gs := by
  induction gs with
  | nil => cases h
  | cons a gs ih =>
    rcases List.mem_cons.1 h with rfl | h
    · exact le_sup_left
    · exact (ih h).trans le_sup_right

variable [Field K] [LinearOrder K] [IsStrictOrderedRing K] (A : RegionArea G K)

namespace RegionArea

omit [IsStrictOrderedRing K] in
@[simp] theorem area_bot : A.area ⊥ = 0 := by
  have h := A.area_sup ⊥ ⊥ disjoint_bot_left
  rw [sup_bot_eq] at h
  exact left_eq_add.1 h

omit [IsStrictOrderedRing K] in
theorem area_inf_add_sdiff (a b : G) : A.area (a ⊓ b) + A.area (a \ b) = A.area a := by
  rw [← A.area_sup _ _ disjoint_inf_sdiff, sup_inf_sdiff]

theorem area_mono {a b : G} (h : a ≤ b) : A.area a ≤ A.area b := by
  have hsplit := A.area_inf_add_sdiff b a
  rw [inf_eq_right.2 h] at hsplit
  have := A.area_nonneg (b \ a)
  linarith

omit [IsStrictOrderedRing K] in
theorem area_sup_add_inf (a b : G) :
    A.area (a ⊔ b) + A.area (a ⊓ b) = A.area a + A.area b := by
  have hsplit := A.area_inf_add_sdiff b a
  have hsup := A.area_sup a (b \ a) disjoint_sdiff_self_right
  rw [sup_sdiff_self_right] at hsup
  rw [inf_comm] at hsplit
  rw [hsup, add_assoc, add_comm (A.area (b \ a)), hsplit]

theorem area_eq_zero_of_le {a b : G} (h : a ≤ b) (hb : A.area b = 0) : A.area a = 0 :=
  le_antisymm (hb ▸ A.area_mono h) (A.area_nonneg a)

end RegionArea

/-! ### The areas of a list of regions -/

/-- No two of the regions overlap. -/
def Apart (gs : List G) : Prop := gs.Pairwise fun a b => A.area (a ⊓ b) = 0

theorem area_cover_le_sum (gs : List G) : A.area (cover gs) ≤ (gs.map A.area).sum := by
  induction gs with
  | nil => simp
  | cons a gs ih =>
    rw [cover_cons, List.map_cons, List.sum_cons]
    have hsup := A.area_sup_add_inf a (cover gs)
    have := A.area_nonneg (a ⊓ cover gs)
    linarith

/-- A region does not overlap the cover exactly if it overlaps none of the regions. -/
theorem area_inf_cover_eq_zero_iff (g : G) (gs : List G) :
    A.area (g ⊓ cover gs) = 0 ↔ ∀ a ∈ gs, A.area (g ⊓ a) = 0 := by
  constructor
  · intro h a ha
    exact A.area_eq_zero_of_le (inf_le_inf_left g (le_cover ha)) h
  · intro h
    refine le_antisymm ?_ (A.area_nonneg _)
    calc A.area (g ⊓ cover gs) = A.area (cover (gs.map (g ⊓ ·))) := by rw [inf_cover]
      _ ≤ ((gs.map (g ⊓ ·)).map A.area).sum := area_cover_le_sum A _
      _ = 0 := List.sum_eq_zero fun x hx => by
        obtain ⟨b, hb, rfl⟩ := List.mem_map.1 hx
        obtain ⟨a, ha, rfl⟩ := List.mem_map.1 hb
        exact h a ha

/-- **The areas sum up to the area of the cover exactly if no two regions overlap.** -/
theorem sum_area_eq_iff (gs : List G) :
    (gs.map A.area).sum = A.area (cover gs) ↔ Apart A gs := by
  induction gs with
  | nil => simp [Apart]
  | cons a gs ih =>
    rw [Apart, List.pairwise_cons, ← Apart, ← ih, ← area_inf_cover_eq_zero_iff]
    rw [cover_cons, List.map_cons, List.sum_cons]
    have hsup := A.area_sup_add_inf a (cover gs)
    have hle := area_cover_le_sum A gs
    have hnonneg := A.area_nonneg (a ⊓ cover gs)
    constructor
    · intro h
      exact ⟨by linarith, by linarith⟩
    · rintro ⟨hinf, hsum⟩
      linarith

/-! ### The parts of a region -/

/-- What each region of the layer takes, and the rest. -/
def parts (g : G) (layer : List G) : List G := layer.map (g ⊓ ·) ++ [layer.foldl (· \ ·) g]

omit [IsStrictOrderedRing K] in
theorem sum_parts (g : G) (layer : List G) :
    ((parts g layer).map A.area).sum =
      ((layer.map (g ⊓ ·)).map A.area).sum + A.area (g \ cover layer) := by
  rw [parts, List.map_append, List.sum_append, List.map_singleton, List.sum_singleton,
    foldl_sdiff]

theorem area_le_sum_parts (g : G) (layer : List G) :
    A.area g ≤ ((parts g layer).map A.area).sum := by
  have hcover := area_cover_le_sum A (layer.map (g ⊓ ·))
  rw [← inf_cover] at hcover
  have hsplit := A.area_inf_add_sdiff g (cover layer)
  rw [sum_parts]
  linarith

/-- **The areas of the parts sum up to the area of the region exactly if no two regions of the layer
overlap in it.** -/
theorem sum_parts_eq_iff (g : G) (layer : List G) :
    ((parts g layer).map A.area).sum = A.area g ↔ Apart A (layer.map (g ⊓ ·)) := by
  have hsplit := A.area_inf_add_sdiff g (cover layer)
  rw [← sum_area_eq_iff, ← inf_cover, sum_parts]
  constructor
  · intro h
    linarith
  · intro h
    linarith

omit [IsStrictOrderedRing K] [Field K] [LinearOrder K] in
theorem le_of_mem_parts {g a : G} {layer : List G} (h : a ∈ parts g layer) : a ≤ g := by
  rcases List.mem_append.1 h with h | h
  · obtain ⟨b, -, rfl⟩ := List.mem_map.1 h
    exact inf_le_left
  · obtain rfl := List.mem_singleton.1 h
    rw [foldl_sdiff]
    exact sdiff_le

omit [IsStrictOrderedRing K] in
theorem Apart.perm {gs gs' : List G} (hperm : gs.Perm gs') (h : Apart A gs') : Apart A gs :=
  (hperm.pairwise_iff fun h => by rwa [inf_comm]).2 h

theorem Apart.map_inf {gs : List G} (h : Apart A gs) (g : G) : Apart A (gs.map (g ⊓ ·)) :=
  List.pairwise_map.2 (h.imp fun hab =>
    A.area_eq_zero_of_le (inf_le_inf inf_le_right inf_le_right) hab)

/-! ### Small regions are dropped -/

/-- The regions with an area over `c`. -/
def larger (c : K) (gs : List G) : List G := gs.filter fun g => c < A.area g

/-- The other regions that have an area. -/
def dropped (c : K) (gs : List G) : List G := gs.filter fun g => A.area g ≤ c ∧ A.area g ≠ 0

/-- **Of the area, not more is lost than `c` for each region that is dropped.** -/
theorem sum_le_larger (c : K) (gs : List G) :
    (gs.map A.area).sum ≤ ((larger A c gs).map A.area).sum + (dropped A c gs).length * c := by
  induction gs with
  | nil => simp [larger, dropped]
  | cons a gs ih =>
    unfold larger dropped at ih ⊢
    rw [List.map_cons, List.sum_cons]
    by_cases h : c < A.area a
    · rw [List.filter_cons_of_pos (by simpa using h), List.map_cons, List.sum_cons,
        List.filter_cons_of_neg (by simp [h])]
      linarith
    · rw [List.filter_cons_of_neg (by simpa using h)]
      by_cases hzero : A.area a = 0
      · rw [List.filter_cons_of_neg (by simp [hzero]), hzero]
        linarith
      · rw [List.filter_cons_of_pos (by simp [not_lt.1 h, hzero]), List.length_cons, Nat.cast_succ,
          add_one_mul]
        linarith [not_lt.1 h]

theorem sum_larger_le (c : K) (gs : List G) :
    ((larger A c gs).map A.area).sum ≤ (gs.map A.area).sum := by
  induction gs with
  | nil => simp [larger]
  | cons a gs ih =>
    rw [List.map_cons, List.sum_cons]
    by_cases h : c < A.area a
    · rw [larger, List.filter_cons_of_pos (by simpa using h), ← larger, List.map_cons,
        List.sum_cons]
      linarith
    · rw [larger, List.filter_cons_of_neg (by simpa using h), ← larger]
      linarith [A.area_nonneg a]

theorem sum_larger_eq {c : K} {gs : List G} (h : dropped A c gs = []) :
    ((larger A c gs).map A.area).sum = (gs.map A.area).sum := by
  refine le_antisymm (sum_larger_le A c gs) ?_
  have hle := sum_le_larger A c gs
  rwa [h, List.length_nil, Nat.cast_zero, zero_mul, add_zero] at hle

/-- A region that is larger than the loss has a part that is not dropped. -/
theorem exists_mem_larger {c : K} (hc : 0 ≤ c) {g : G} {layer : List G}
    (h : (layer.length + 1) * c < A.area g) : ∃ a ∈ parts g layer, c < A.area a := by
  have hparts := area_le_sum_parts A g layer
  have hlarger := sum_le_larger A c (parts g layer)
  have hlength : ((dropped A c (parts g layer)).length : K) ≤ layer.length + 1 := by
    have hle : (dropped A c (parts g layer)).length ≤ (parts g layer).length :=
      List.length_filter_le _ _
    have hparts : (parts g layer).length = layer.length + 1 := by simp [parts]
    exact_mod_cast hparts ▸ hle
  have hlost := mul_le_mul_of_nonneg_right hlength hc
  have hpos : 0 < ((larger A c (parts g layer)).map A.area).sum := by linarith
  obtain ⟨a, ha⟩ : ∃ a, a ∈ larger A c (parts g layer) := by
    refine List.exists_mem_of_ne_nil _ fun hnil => ?_
    rw [hnil, List.map_nil, List.sum_nil] at hpos
    exact lt_irrefl _ hpos
  obtain ⟨hmem, hlt⟩ := List.mem_filter.1 ha
  exact ⟨a, hmem, of_decide_eq_true hlt⟩

/-! ### Cells -/

/-- The area of a set of cells, each of the same area. -/
def cells {α : Type*} [DecidableEq α] (size : K) (h : 0 ≤ size) : RegionArea (Finset α) K where
  area s := s.card * size
  area_nonneg s := mul_nonneg (Nat.cast_nonneg _) h
  area_sup s t hst := by
    rw [Finset.sup_eq_union, Finset.card_union_of_disjoint hst, Nat.cast_add, add_mul]

end Regions

end StormPiper
