import Mathlib.Algebra.BigOperators.Group.List.Basic
import Mathlib.Algebra.Order.BigOperators.Group.List
import Mathlib.Data.List.ReduceOption
import StormPiper.Frame.Basic
import StormPiper.Sql.Null

/-!
# Joins and groups in SQL

Queries on tables given as lists of rows.  A comparison with a null is not true, so that a null
joins nothing, while `GROUP BY` puts the nulls of its key together.  An aggregate leaves nulls out
and is null where nothing is left.

* `Sql.leftJoin_eq_map` : where no left row has two partners, a left join has one row for each.
* `Sql.leftJoin_groupBy` : a left join with groups finds for each left row the group of its rows.
* `Sql.sum_filter` : the sum of the rows of a group, as a sum over all rows.
-/

namespace StormPiper

namespace Sql

variable {α β γ δ κ ι K : Type}

/-- `x = y`, which is not true of nulls. -/
def eq [DecidableEq κ] (x y : Option κ) : Bool := x.isSome && x = y

/-- `left LEFT JOIN right ON on`. -/
def leftJoin (on : α → β → Bool) (left : List α) (right : List β) : List (α × Option β) :=
  Frame.sjoinLeft on left right

/-- `GROUP BY key`: the keys with their rows. -/
def groupBy [DecidableEq κ] (key : α → κ) (rows : List α) : List (κ × List α) :=
  (rows.map key).dedup.map fun k => (k, rows.filter fun a => key a = k)

/-- `sum(x)`. -/
def sum [AddCommMonoid K] (xs : List (Option K)) : Option K :=
  match xs.reduceOption with
  | [] => none
  | ys => some ys.sum

/-- `count(DISTINCT x)`. -/
def countDistinct [DecidableEq κ] (xs : List (Option κ)) : ℕ := xs.reduceOption.dedup.length

/-- The order of `ORDER BY` on text, with the nulls last. -/
def leNullsLast : Option String → Option String → Bool
  | _, none => true
  | none, some _ => false
  | some a, some b => decide (a ≤ b)

/-- `ORDER BY col`. -/
def orderBy (col : α → Option String) (rows : List α) : List α :=
  Frame.sortValues (fun a b => leNullsLast (col a) (col b)) rows

theorem eq_iff [DecidableEq κ] {x y : Option κ} : eq x y = true ↔ x.isSome ∧ x = y := by
  simp [eq]

theorem eq_some_iff [DecidableEq κ] {x : Option κ} {k : κ} : eq x (some k) = true ↔ x = some k := by
  rw [eq_iff]
  constructor
  · exact And.right
  · rintro rfl
    exact ⟨rfl, rfl⟩

@[simp] theorem eq_none [DecidableEq κ] (x : Option κ) : eq x none = false := by
  cases x <;> rfl

theorem perm_orderBy (col : α → Option String) (rows : List α) : (orderBy col rows).Perm rows :=
  Frame.perm_sortValues _ rows

/-! ### Left joins -/

/-- Where no left row has two partners, a left join has one row for each left row. -/
theorem leftJoin_eq_map {on : α → β → Bool} {left : List α} {right : List β}
    (h : ∀ a ∈ left, (right.filter (on a)).length ≤ 1) :
    leftJoin on left right = left.map fun a => (a, right.find? (on a)) := by
  induction left with
  | nil => rfl
  | cons a left ih =>
    have ih := ih fun x hx => h x (List.mem_cons_of_mem _ hx)
    have hone : (match right.filter (on a) with
        | [] => [(a, none)]
        | bs => bs.map fun b => (a, some b)) = [(a, right.find? (on a))] := by
      rw [← List.head?_filter]
      cases hbs : right.filter (on a) with
      | nil => rfl
      | cons b bs =>
        have hle := h a List.mem_cons_self
        rw [hbs, List.length_cons] at hle
        obtain rfl : bs = [] := List.eq_nil_of_length_eq_zero (by omega)
        rfl
    rw [leftJoin, Frame.sjoinLeft] at ih
    rw [leftJoin, Frame.sjoinLeft, List.flatMap_cons, ih, List.map_cons]
    exact congrArg (· ++ _) hone

/-- A condition on the right row that the missing row does not meet makes it an inner join. -/
theorem filter_leftJoin (on : α → β → Bool) (left : List α) (right : List β)
    (p : Option β → Bool) (hnone : p none = false) :
    (leftJoin on left right).filter (fun x => p x.2) =
      left.flatMap fun a =>
        (right.filter fun b => on a b && p (some b)).map fun b => (a, some b) := by
  rw [leftJoin, Frame.sjoinLeft, List.filter_flatMap]
  refine congrArg (left.flatMap ·) (funext fun a => ?_)
  have hright : (right.filter fun b => on a b && p (some b)) =
      (right.filter (on a)).filter fun b => p (some b) := by
    rw [List.filter_filter]
    exact List.filter_congr fun b _ => Bool.and_comm ..
  rw [hright]
  cases right.filter (on a) with
  | nil => simp [hnone]
  | cons b bs => rw [List.filter_map]; rfl

/-- The only row that is found is the one that is there. -/
theorem find?_eq_some_of_mem {rows : List β} {p : β → Bool} (h : (rows.filter p).length ≤ 1)
    {b : β} (hb : b ∈ rows) (hp : p b = true) : rows.find? p = some b := by
  have hmem : b ∈ rows.filter p := List.mem_filter.2 ⟨hb, hp⟩
  rw [← List.head?_filter]
  cases hbs : rows.filter p with
  | nil =>
    rw [hbs] at hmem
    cases hmem
  | cons c bs =>
    rw [hbs, List.length_cons] at h
    obtain rfl : bs = [] := List.eq_nil_of_length_eq_zero (by omega)
    rw [hbs] at hmem
    rw [List.mem_singleton.1 hmem]
    rfl

theorem length_filter_map (col : β → Option ι) [DecidableEq ι] (rows : List β) (x : Option ι) :
    (rows.filter fun b => eq (col b) x).length =
      ((rows.map col).filter fun y => eq y x).length := by
  rw [List.filter_map, List.length_map]
  rfl

/-- A column that has no value twice finds at most one row for each value. -/
theorem length_filter_eq_le_one [DecidableEq ι] {col : β → Option ι} {rows : List β}
    (hnd : (rows.filterMap col).Nodup) (x : Option ι) :
    (rows.filter fun b => eq (col b) x).length ≤ 1 := by
  cases x with
  | none => simp
  | some k =>
    induction rows with
    | nil => simp
    | cons b rows ih =>
      by_cases hb : col b = some k
      · rw [List.filterMap_cons_some hb] at hnd
        obtain ⟨hk, -⟩ := List.nodup_cons.1 hnd
        rw [List.filter_cons, if_pos (eq_some_iff.2 hb), List.filter_eq_nil_iff.2]
        · simp
        · intro c hc hck
          exact hk (List.mem_filterMap.2 ⟨c, hc, eq_some_iff.1 hck⟩)
      · rw [List.filter_cons, if_neg (by rwa [eq_some_iff])]
        refine ih ?_
        cases hcol : col b with
        | none => rwa [List.filterMap_cons_none hcol] at hnd
        | some l =>
          rw [List.filterMap_cons_some hcol] at hnd
          exact (List.nodup_cons.1 hnd).2

/-- What holds of the row that is found holds of a row that is there. -/
theorem any_find? [DecidableEq ι] {col : β → Option ι} {rows : List β}
    (hnd : (rows.filterMap col).Nodup) (x : Option ι) (p : β → Bool) :
    (rows.find? fun b => eq (col b) x).any p = rows.any fun b => eq (col b) x && p b := by
  have hle := length_filter_eq_le_one hnd x
  rw [← List.head?_filter]
  rw [← List.any_filter]
  cases hbs : rows.filter fun b => eq (col b) x with
  | nil => rfl
  | cons b bs =>
    rw [hbs, List.length_cons] at hle
    obtain rfl : bs = [] := List.eq_nil_of_length_eq_zero (by omega)
    simp

/-! ### Groups -/

section Groups

variable [DecidableEq κ] [DecidableEq ι] {key : α → κ} {col : κ → Option ι} {rows : List α}

/-- The groups of a value: at most one, where the value determines the key of the group. -/
theorem filter_groupBy (f : List α → δ) {x : Option ι}
    (hdet : ∀ a ∈ rows, ∀ a' ∈ rows, eq (col (key a)) x → eq (col (key a')) x → key a = key a') :
    ((groupBy key rows).map fun g => (col g.1, f g.2)).filter (fun g => eq g.1 x) =
      if rows.any fun a => eq (col (key a)) x then
        [(x, f (rows.filter fun a => eq (col (key a)) x))] else [] := by
  have hkeys : ∀ k ∈ (rows.map key).dedup.filter (fun k => eq (col k) x),
      ∃ a ∈ rows, key a = k ∧ eq (col (key a)) x := by
    intro k hk
    obtain ⟨hmem, heq⟩ := List.mem_filter.1 hk
    obtain ⟨a, ha, rfl⟩ := List.mem_map.1 (List.mem_dedup.1 hmem)
    exact ⟨a, ha, rfl, heq⟩
  have hgroups : ((groupBy key rows).map fun g => (col g.1, f g.2)).filter (fun g => eq g.1 x) =
      ((rows.map key).dedup.filter fun k => eq (col k) x).map fun k =>
        (col k, f (rows.filter fun a => key a = k)) := by
    rw [groupBy, List.map_map, List.filter_map]
    rfl
  rw [hgroups]
  have hnd : ((rows.map key).dedup.filter fun k => eq (col k) x).Nodup :=
    (List.nodup_dedup _).filter _
  cases hks : (rows.map key).dedup.filter fun k => eq (col k) x with
  | nil =>
    rw [if_neg]
    · rfl
    · rw [List.any_eq_true]
      rintro ⟨a, ha, heq⟩
      have hmem : key a ∈ (rows.map key).dedup.filter fun k => eq (col k) x :=
        List.mem_filter.2 ⟨List.mem_dedup.2 (List.mem_map_of_mem ha), heq⟩
      rw [hks] at hmem
      cases hmem
  | cons k ks =>
    obtain ⟨a, ha, rfl, heq⟩ := hkeys k (by rw [hks]; exact List.mem_cons_self)
    obtain rfl : ks = [] := by
      refine List.eq_nil_iff_forall_not_mem.2 fun k' hk' => ?_
      obtain ⟨a', ha', rfl, heq'⟩ := hkeys k' (by rw [hks]; exact List.mem_cons_of_mem _ hk')
      rw [hks] at hnd
      exact (List.nodup_cons.1 hnd).1 (hdet a ha a' ha' heq heq' ▸ hk')
    have hrows : (rows.filter fun a' => key a' = key a) =
        rows.filter fun a' => eq (col (key a')) x := by
      refine List.filter_congr fun a' ha' => ?_
      rw [Bool.eq_iff_iff, decide_eq_true_iff]
      exact ⟨fun h => h ▸ heq, fun h => hdet a' ha' a ha h heq⟩
    rw [if_pos (List.any_eq_true.2 ⟨a, ha, heq⟩), List.map_singleton, hrows, (eq_iff.1 heq).2]

/-- **A left join with groups** finds for each left row the group of the rows that have its value,
if there is one. -/
theorem leftJoin_groupBy (f : List α → δ) {sub : γ → Option ι} (left : List γ)
    (hdet : ∀ a ∈ rows, ∀ a' ∈ rows, (col (key a)).isSome → col (key a) = col (key a') →
      key a = key a') :
    leftJoin (fun r g => eq g.1 (sub r)) left
        ((groupBy key rows).map fun g => (col g.1, f g.2)) =
      left.map fun r => (r, if rows.any fun a => eq (col (key a)) (sub r) then
        some (sub r, f (rows.filter fun a => eq (col (key a)) (sub r))) else none) := by
  have hfilter (r : γ) := filter_groupBy (x := sub r) f fun a ha a' ha' h h' =>
    hdet a ha a' ha' (eq_iff.1 h).1 ((eq_iff.1 h).2.trans (eq_iff.1 h').2.symm)
  rw [leftJoin_eq_map]
  · refine List.map_congr_left fun r _ => ?_
    rw [← List.head?_filter, hfilter]
    split_ifs <;> rfl
  · intro r _
    rw [hfilter]
    split_ifs <;> simp

end Groups

/-! ### Sums -/

variable [AddCommMonoid K]

theorem isSome_sum {xs : List (Option K)} : (sum xs).isSome ↔ ∃ a, some a ∈ xs := by
  simp only [← List.reduceOption_mem_iff]
  unfold sum
  cases xs.reduceOption with
  | nil => simp
  | cons a as => exact iff_of_true rfl ⟨a, List.mem_cons_self⟩

theorem sum_eq_none_iff {xs : List (Option K)} : sum xs = none ↔ ∀ x ∈ xs, x = none := by
  rw [← Option.not_isSome_iff_eq_none, isSome_sum]
  constructor
  · intro h x hx
    cases x with
    | none => rfl
    | some a => exact absurd ⟨a, hx⟩ h
  · rintro h ⟨a, ha⟩
    cases h _ ha

theorem getD_sum (xs : List (Option K)) : (sum xs).getD 0 = (xs.map (·.getD 0)).sum := by
  have hred : (sum xs).getD 0 = xs.reduceOption.sum := by
    unfold sum
    cases xs.reduceOption <;> rfl
  rw [hred]
  clear hred
  induction xs with
  | nil => rfl
  | cons x xs ih =>
    cases x with
    | none => rw [List.reduceOption_cons_of_none, ih, List.map_cons, List.sum_cons,
        Option.getD_none, zero_add]
    | some a => rw [List.reduceOption_cons_of_some, List.sum_cons, ih, List.map_cons,
        List.sum_cons, Option.getD_some]

/-- The sum of a group, as a sum over all rows. -/
theorem sum_filter (p : α → Bool) (col : α → Option K) (rows : List α) :
    (sum ((rows.filter p).map col)).getD 0 =
      (rows.map fun a => if p a then (col a).getD 0 else 0).sum := by
  rw [getD_sum, List.map_map]
  induction rows with
  | nil => rfl
  | cons a rows ih =>
    rw [List.map_cons, List.sum_cons, ← ih]
    by_cases ha : p a = true
    · rw [List.filter_cons_of_pos ha, List.map_cons, List.sum_cons, if_pos ha]
      rfl
    · rw [List.filter_cons_of_neg ha, if_neg ha, zero_add]

/-- Where there is no row the group is missing, and its sum is null as is that of no rows. -/
theorem bind_sum (p : α → Bool) (col : α → Option K) (rows : List α) (k : κ) :
    ((if rows.any p then some (k, sum ((rows.filter p).map col)) else none).bind Prod.snd) =
      sum ((rows.filter p).map col) := by
  split_ifs with hany
  · rfl
  · have hnil : rows.filter p = [] :=
      List.filter_eq_nil_iff.2 fun a ha hp => hany (List.any_eq_true.2 ⟨a, ha, hp⟩)
    rw [hnil]
    rfl

end Sql

end StormPiper
