import Mathlib.Data.List.Nodup

/-!
# Recency lists

A recency list holds each element at most once, the one touched last at the end.  `touch x`
moves `x` to the end, or appends it when it is new; `Before l x y` says that `x` and `y` are both
listed and that `y` was touched after `x`.
-/

namespace StormPiper

namespace Recency

variable {α : Type*} [DecidableEq α]

/-- Move `x` to the end of the list, or append it. -/
def touch (x : α) (l : List α) : List α := l.filter (· ≠ x) ++ [x]

/-- Touch a list of elements, the first of them first. -/
def touchAll (xs : List α) (l : List α) : List α := xs.foldl (fun l x => touch x l) l

/-- Both elements are listed, the first before the second. -/
def Before (l : List α) (x y : α) : Prop := x ∈ l ∧ y ∈ l ∧ l.idxOf x < l.idxOf y

instance (l : List α) (x y : α) : Decidable (Before l x y) :=
  inferInstanceAs (Decidable (_ ∧ _ ∧ _))

variable {l : List α} {x y z : α}

@[simp] theorem mem_touch : y ∈ touch x l ↔ y ∈ l ∨ y = x := by
  by_cases h : y = x <;> simp [touch, h]

theorem Before.ne (h : Before l x y) : x ≠ y := by
  rintro rfl
  exact Nat.lt_irrefl _ h.2.2

theorem Before.trans (h : Before l x y) (h' : Before l y z) : Before l x z :=
  ⟨h.1, h'.2.1, Nat.lt_trans h.2.2 h'.2.2⟩

theorem Before.asymm (h : Before l x y) : ¬ Before l y x :=
  fun h' => (h.trans h').ne rfl

theorem before_or_before (hx : x ∈ l) (hy : y ∈ l) (hne : x ≠ y) : Before l x y ∨ Before l y x := by
  have hidx : l.idxOf x ≠ l.idxOf y := fun h => hne ((List.idxOf_inj hx).1 h)
  rcases Nat.lt_or_gt_of_ne hidx with h | h
  · exact .inl ⟨hx, hy, h⟩
  · exact .inr ⟨hy, hx, h⟩

/-- Leaving out a third element does not change the order of two. -/
theorem idxOf_filter_lt {p : α → Bool} (hx : p x) (hy : p y) :
    (l.filter p).idxOf x < (l.filter p).idxOf y ↔ l.idxOf x < l.idxOf y := by
  induction l with
  | nil => simp
  | cons a l ih =>
    by_cases ha : p a
    · rw [List.filter_cons_of_pos ha]
      by_cases hax : a = x <;> by_cases hay : a = y
      all_goals grind
    · have hax : a ≠ x := fun e => ha (e ▸ hx)
      have hay : a ≠ y := fun e => ha (e ▸ hy)
      rw [List.filter_cons_of_neg ha, ih]
      simp [hax, hay]

/-- Touching a third element does not change the order of two. -/
theorem before_touch_of_ne (hx : x ≠ z) (hy : y ≠ z) :
    Before (touch z l) x y ↔ Before l x y := by
  simp only [Before, mem_touch, hx, hy, or_false]
  refine and_congr_right fun hxl => and_congr_right fun hyl => ?_
  have hxf : x ∈ l.filter (· ≠ z) := by simp [hxl, hx]
  have hyf : y ∈ l.filter (· ≠ z) := by simp [hyl, hy]
  rw [touch, List.idxOf_append_of_mem hxf, List.idxOf_append_of_mem hyf]
  exact idxOf_filter_lt (by simpa using hx) (by simpa using hy)

theorem before_touch_self (hx : x ∈ l) (hne : x ≠ z) : Before (touch z l) x z := by
  have hxf : x ∈ l.filter (· ≠ z) := by simp [hx, hne]
  refine ⟨by simp [hx], by simp, ?_⟩
  rw [touch, List.idxOf_append_of_mem hxf, List.idxOf_append_of_notMem (by simp)]
  simpa using List.idxOf_lt_length_of_mem hxf

/-! ### Touching several elements -/

theorem mem_touchAll {xs : List α} : y ∈ touchAll xs l ↔ y ∈ l ∨ y ∈ xs := by
  unfold touchAll
  induction xs generalizing l with
  | nil => simp
  | cons x xs ih => rw [List.foldl_cons, ih, mem_touch, List.mem_cons, or_assoc]

/-- Two elements that are not touched keep their order. -/
theorem before_touchAll_of_notMem {xs : List α} (hx : x ∉ xs) (hy : y ∉ xs) :
    Before (touchAll xs l) x y ↔ Before l x y := by
  unfold touchAll
  induction xs generalizing l with
  | nil => rfl
  | cons z xs ih =>
    simp only [List.mem_cons, not_or] at hx hy
    rw [List.foldl_cons, ih hx.2 hy.2, before_touch_of_ne hx.1 hy.1]

/-- A touched element comes after every listed one that is not touched. -/
theorem before_touchAll_of_mem {xs : List α} (hxl : x ∈ l) (hx : x ∉ xs) (hy : y ∈ xs) :
    Before (touchAll xs l) x y := by
  unfold touchAll
  induction xs generalizing l with
  | nil => cases hy
  | cons z xs ih =>
    simp only [List.mem_cons, not_or] at hx
    rw [List.foldl_cons]
    by_cases hyx : y ∈ xs
    · exact ih (by simp [hxl]) hx.2 hyx
    · obtain rfl : y = z := (List.mem_cons.1 hy).resolve_right hyx
      exact (before_touchAll_of_notMem hx.2 hyx).2 (before_touch_self hxl hx.1)

/-- Distinct elements end up in the order in which they are touched. -/
theorem before_touchAll_of_before {xs : List α} (hnd : xs.Nodup) (h : Before xs x y) :
    Before (touchAll xs l) x y := by
  obtain ⟨hx, hy, hlt⟩ := h
  induction xs generalizing l with
  | nil => cases hx
  | cons z xs ih =>
    obtain ⟨hz, hnd⟩ := List.nodup_cons.1 hnd
    change Before (touchAll xs (touch z l)) x y
    have hyz : y ≠ z := by rintro rfl; simp at hlt
    have hyxs : y ∈ xs := (List.mem_cons.1 hy).resolve_left hyz
    by_cases hxz : x = z
    · subst hxz
      exact before_touchAll_of_mem (by simp) hz hyxs
    · have hxxs : x ∈ xs := (List.mem_cons.1 hx).resolve_left hxz
      rw [List.idxOf_cons_ne _ (Ne.symm hxz), List.idxOf_cons_ne _ (Ne.symm hyz)] at hlt
      exact ih hnd hxxs hyxs (by omega)

end Recency

end StormPiper
