import Mathlib.Algebra.BigOperators.Group.List.Basic
import Mathlib.Data.List.Dedup
import Mathlib.Data.List.Sort

/-!
# Data frames

The operations on tables of rows that the components share.  A frame is a list of rows, and a
column is a function on rows.

* `merge` and `mergeLeft` : inner and left join on equal keys, in the order of the left rows.
* `sjoinLeft` : left join on a relation of the rows.
* `sortValues` : a stable sort.
* `groupbySum` : the sum of a column for each key.
* `dropDuplicates`, `duplicated` : the first row of each key, and the other ones.
* `filter_key_flatMap` : rows of one key, in a frame that was made row by row.
* `mergeLeft_groupbySum` : joining grouped sums gives each row the sum of its own key.
-/

namespace StormPiper

namespace Frame

variable {α β κ : Type} [DecidableEq κ]

/-- The pairs of rows with equal keys. -/
def merge (leftKey : α → κ) (rightKey : β → κ) (left : List α) (right : List β) : List (α × β) :=
  left.flatMap fun a => (right.filter fun b => rightKey b = leftKey a).map fun b => (a, b)

/-- The right rows of a key, or a missing row. -/
def partners (rightKey : β → κ) (right : List β) (k : κ) : List (Option β) :=
  match right.filter fun b => rightKey b = k with
  | [] => [none]
  | bs => bs.map some

/-- The pairs of rows with equal keys, and the left rows without a partner. -/
def mergeLeft (leftKey : α → κ) (rightKey : β → κ) (left : List α) (right : List β) :
    List (α × Option β) :=
  left.flatMap fun a => (partners rightKey right (leftKey a)).map fun b => (a, b)

/-- A left join on a relation of the rows. -/
def sjoinLeft (joined : α → β → Bool) (left : List α) (right : List β) : List (α × Option β) :=
  left.flatMap fun a =>
    match right.filter (joined a) with
    | [] => [(a, none)]
    | bs => bs.map fun b => (a, some b)

/-- The rows in the order of `le`. -/
def sortValues (le : α → α → Bool) (rows : List α) : List α :=
  rows.insertionSort fun a b => le a b = true

/-- For each key the sum of a column. -/
def groupbySum {M : Type} [AddCommMonoid M] (key : α → κ) (col : α → M) (rows : List α) :
    List (κ × M) :=
  (rows.map key).dedup.map fun k => (k, ((rows.filter fun a => key a = k).map col).sum)

/-- The distinct values of a column in increasing order. -/
def sortedUnique {ι : Type} [LinearOrder ι] (col : α → ι) (rows : List α) : List ι :=
  (rows.map col).dedup.insertionSort (· ≤ ·)

/-- The first row of each key. -/
def dropDuplicates (key : α → κ) : List α → List α
  | [] => []
  | a :: rows => a :: (dropDuplicates key rows).filter fun b => key b ≠ key a

/-- The rows whose key is seen already. -/
def duplicatedAfter (key : α → κ) : List κ → List α → List α
  | _, [] => []
  | seen, a :: rows =>
    if key a ∈ seen then a :: duplicatedAfter key seen rows
    else duplicatedAfter key (key a :: seen) rows

/-- The rows whose key an earlier row has. -/
def duplicated (key : α → κ) (rows : List α) : List α := duplicatedAfter key [] rows

/-- `a` is a row, and no other row of its key comes before it. -/
def IsFirst (key : α → κ) (rows : List α) (a : α) : Prop :=
  (rows.find? fun b => key b = key a) = some a

instance [DecidableEq α] (key : α → κ) (rows : List α) (a : α) : Decidable (IsFirst key rows a) :=
  inferInstanceAs (Decidable ((rows.find? fun b => key b = key a) = some a))

theorem perm_sortValues (le : α → α → Bool) (rows : List α) : (sortValues le rows).Perm rows :=
  List.perm_insertionSort _ _

theorem mem_sortedUnique {ι : Type} [LinearOrder ι] {col : α → ι} {rows : List α} {i : ι} :
    i ∈ sortedUnique col rows ↔ ∃ a ∈ rows, col a = i := by
  simp [sortedUnique]

theorem nodup_sortedUnique {ι : Type} [LinearOrder ι] (col : α → ι) (rows : List α) :
    (sortedUnique col rows).Nodup :=
  (List.perm_insertionSort _ _).nodup_iff.2 (List.nodup_dedup _)

theorem pairwise_lt_sortedUnique {ι : Type} [LinearOrder ι] (col : α → ι) (rows : List α) :
    (sortedUnique col rows).Pairwise (· < ·) := by
  have hle : (sortedUnique col rows).Pairwise (· ≤ ·) := List.pairwise_insertionSort _ _
  exact hle.imp₂ (fun _ _ h hne => lt_of_le_of_ne h hne) (nodup_sortedUnique col rows)

/-- Only the set of values counts. -/
theorem sortedUnique_congr {ι : Type} [LinearOrder ι] {colA : α → ι} {colB : β → ι} {as : List α}
    {bs : List β} (h : ∀ i, (∃ a ∈ as, colA a = i) ↔ ∃ b ∈ bs, colB b = i) :
    sortedUnique colA as = sortedUnique colB bs := by
  have hperm : (sortedUnique colA as).Perm (sortedUnique colB bs) :=
    (List.perm_ext_iff_of_nodup (nodup_sortedUnique _ _) (nodup_sortedUnique _ _)).2 fun i => by
      rw [mem_sortedUnique, mem_sortedUnique, h]
  exact hperm.eq_of_pairwise (fun _ _ _ _ hab hba => absurd hba (lt_asymm hab))
    (pairwise_lt_sortedUnique _ _) (pairwise_lt_sortedUnique _ _)

/-- In an increasing list, positions are in the order of the elements. -/
theorem idxOf_lt_idxOf {ι : Type} [LinearOrder ι] {xs : List ι} (h : xs.Pairwise (· < ·)) {a b : ι}
    (ha : a ∈ xs) (hb : b ∈ xs) : xs.idxOf a < xs.idxOf b ↔ a < b := by
  have hmono : ∀ {x y : ι}, x ∈ xs → y ∈ xs → xs.idxOf x < xs.idxOf y → x < y := by
    intro x y hx hy hlt
    have := List.pairwise_iff_getElem.1 h _ _ (List.idxOf_lt_length_of_mem hx)
      (List.idxOf_lt_length_of_mem hy) hlt
    simpa using this
  refine ⟨hmono ha hb, fun hab => ?_⟩
  by_contra hnot
  rcases Nat.lt_or_eq_of_le (Nat.not_lt.1 hnot) with hlt | heq
  · exact lt_asymm hab (hmono hb ha hlt)
  · exact hab.ne ((List.idxOf_inj hb).1 heq).symm

/-! ### The first row of each key -/

theorem IsFirst.mem {key : α → κ} {rows : List α} {a : α} (h : IsFirst key rows a) : a ∈ rows :=
  List.mem_of_find?_eq_some h

theorem IsFirst.unique {key : α → κ} {rows : List α} {a b : α} (ha : IsFirst key rows a)
    (hb : IsFirst key rows b) (hkey : key a = key b) : a = b := by
  unfold IsFirst at ha hb
  rw [hkey, hb] at ha
  exact (Option.some.inj ha).symm

/-- Rows that come after it do not matter. -/
theorem IsFirst.append {key : α → κ} {rows : List α} {a : α} (h : IsFirst key rows a)
    (later : List α) : IsFirst key (rows ++ later) a := by
  unfold IsFirst at h ⊢
  rw [List.find?_append, h]
  rfl

theorem exists_isFirst (key : α → κ) {rows : List α} {a : α} (ha : a ∈ rows) :
    ∃ b, IsFirst key rows b ∧ key b = key a := by
  obtain ⟨b, hb⟩ := Option.isSome_iff_exists.1
    (List.find?_isSome (p := fun b => decide (key b = key a)) |>.2 ⟨a, ha, by simp⟩)
  have hkey : key b = key a := by simpa using List.find?_some hb
  exact ⟨b, by rw [IsFirst, hkey, hb], hkey⟩

/-- Where the rows of a kind come first, a key of such a row has its first row among them. -/
theorem exists_isFirst_partition (key : α → κ) {p : α → Bool} {rows : List α} {a : α}
    (ha : a ∈ rows) (hp : p a = true) :
    ∃ b, IsFirst key (rows.filter p ++ rows.filter fun x => !p x) b ∧ key b = key a ∧
      p b = true := by
  obtain ⟨b, hb, hkey⟩ := exists_isFirst key (List.mem_filter.2 ⟨ha, hp⟩)
  exact ⟨b, hb.append _, hkey, (List.mem_filter.1 hb.mem).2⟩

theorem mem_dropDuplicates {key : α → κ} {rows : List α} {a : α} :
    a ∈ dropDuplicates key rows ↔ IsFirst key rows a := by
  unfold IsFirst
  induction rows with
  | nil => simp [dropDuplicates]
  | cons b rows ih =>
    rw [dropDuplicates, List.mem_cons, List.mem_filter, ih]
    by_cases hkey : key b = key a
    · rw [List.find?_cons_of_pos (by simpa using hkey), Option.some.injEq]
      refine ⟨fun h => h.elim Eq.symm fun h => ?_, fun h => .inl h.symm⟩
      exact absurd hkey.symm (by simpa using h.2)
    · rw [List.find?_cons_of_neg (by simpa using hkey)]
      refine ⟨fun h => h.elim (fun h => absurd (h ▸ rfl) hkey) And.left, fun h => .inr ⟨h, ?_⟩⟩
      simpa using fun e => hkey e.symm

/-! ### The rows of one key -/

/-- In a frame made row by row, the rows of a key come from the rows of that key. -/
theorem filter_key_flatMap (ka : α → κ) (kb : β → κ) {f : α → List β} {rows : List α}
    (h : ∀ a ∈ rows, ∀ b ∈ f a, kb b = ka a) (k : κ) :
    ((rows.flatMap f).filter fun b => kb b = k) = (rows.filter fun a => ka a = k).flatMap f := by
  induction rows with
  | nil => rfl
  | cons a rows ih =>
    have ih := ih fun x hx => h x (List.mem_cons_of_mem _ hx)
    rw [List.flatMap_cons, List.filter_append, ih]
    by_cases hk : ka a = k
    · have hall : (f a).filter (fun b => kb b = k) = f a :=
        List.filter_eq_self.2 fun b hb => by simpa [hk] using h a List.mem_cons_self b hb
      rw [hall, List.filter_cons_of_pos (by simpa using hk), List.flatMap_cons]
    · have hnone : (f a).filter (fun b => kb b = k) = [] :=
        List.filter_eq_nil_iff.2 fun b hb => by simpa [h a List.mem_cons_self b hb] using hk
      rw [hnone, List.filter_cons_of_neg (by simpa using hk), List.nil_append]

/-- Where the keys are distinct, a row is the only one of its key. -/
theorem filter_key_eq_singleton (key : α → κ) {rows : List α} (hnd : (rows.map key).Nodup) {a : α}
    (ha : a ∈ rows) : (rows.filter fun b => key b = key a) = [a] := by
  induction rows with
  | nil => cases ha
  | cons b rows ih =>
    obtain ⟨hb, hnd⟩ := List.nodup_cons.1 (by rwa [List.map_cons] at hnd)
    rcases List.mem_cons.1 ha with rfl | ha
    · rw [List.filter_cons_of_pos (by simp), List.filter_eq_nil_iff.2]
      intro x hx hxa
      exact hb (List.mem_map.2 ⟨x, hx, by simpa using hxa⟩)
    · rw [List.filter_cons_of_neg, ih hnd ha]
      intro hba
      exact hb (List.mem_map.2 ⟨a, ha, (by simpa using hba : key b = key a).symm⟩)

theorem merge_filter_key {leftKey : α → κ} {rightKey : β → κ} {κ' : Type} [DecidableEq κ']
    (key : α → κ') {left : List α} {right : List β} (k : κ') :
    ((merge leftKey rightKey left right).filter fun x => key x.1 = k) =
      merge leftKey rightKey (left.filter fun a => key a = k) right := by
  refine filter_key_flatMap key (fun x : α × β => key x.1) ?_ k
  rintro a - x hx
  obtain ⟨b, -, rfl⟩ := List.mem_map.1 hx
  rfl

theorem mergeLeft_filter_key {leftKey : α → κ} {rightKey : β → κ} {κ' : Type} [DecidableEq κ']
    (key : α → κ') {left : List α} {right : List β} (k : κ') :
    ((mergeLeft leftKey rightKey left right).filter fun x => key x.1 = k) =
      mergeLeft leftKey rightKey (left.filter fun a => key a = k) right := by
  refine filter_key_flatMap key (fun x : α × Option β => key x.1) ?_ k
  rintro a - x hx
  obtain ⟨b, -, rfl⟩ := List.mem_map.1 hx
  rfl

/-- Every left row stays in a left join. -/
theorem exists_mem_mergeLeft (leftKey : α → κ) (rightKey : β → κ) (left : List α) (right : List β)
    {a : α} : (∃ b, (a, b) ∈ mergeLeft leftKey rightKey left right) ↔ a ∈ left := by
  have hne : ∀ k, partners rightKey right k ≠ [] := by
    intro k
    unfold partners
    split <;> simp_all
  simp only [mergeLeft, List.mem_flatMap, List.mem_map, Prod.mk.injEq]
  constructor
  · rintro ⟨b, a', ha', b', -, rfl, rfl⟩
    exact ha'
  · intro ha
    obtain ⟨b, hb⟩ := List.exists_mem_of_ne_nil _ (hne (leftKey a))
    exact ⟨b, a, ha, b, hb, rfl, rfl⟩

theorem mem_sjoinLeft_some {joined : α → β → Bool} {left : List α} {right : List β} {a : α}
    {b : β} : (a, some b) ∈ sjoinLeft joined left right ↔
      a ∈ left ∧ b ∈ right ∧ joined a b = true := by
  rw [sjoinLeft, List.mem_flatMap]
  constructor
  · rintro ⟨a', ha', hmem⟩
    split at hmem
    · cases List.mem_singleton.1 hmem
    · obtain ⟨b', hb', heq⟩ := List.mem_map.1 hmem
      cases heq
      exact ⟨ha', List.mem_filter.1 hb'⟩
  · rintro ⟨ha, hb⟩
    have hmem : b ∈ right.filter (joined a) := List.mem_filter.2 hb
    refine ⟨a, ha, ?_⟩
    split
    · rename_i hnil
      rw [hnil] at hmem
      cases hmem
    · exact List.mem_map_of_mem hmem

theorem mem_sjoinLeft_none {joined : α → β → Bool} {left : List α} {right : List β} {a : α} :
    (a, none) ∈ sjoinLeft joined left right ↔ a ∈ left ∧ ∀ b ∈ right, joined a b = false := by
  rw [sjoinLeft, List.mem_flatMap]
  constructor
  · rintro ⟨a', ha', hmem⟩
    split at hmem
    · rename_i hnil
      cases List.mem_singleton.1 hmem
      exact ⟨ha', fun b hb => by simpa using List.filter_eq_nil_iff.1 hnil b hb⟩
    · obtain ⟨b, -, heq⟩ := List.mem_map.1 hmem
      cases heq
  · rintro ⟨ha, hnone⟩
    refine ⟨a, ha, ?_⟩
    rw [List.filter_eq_nil_iff.2 fun b hb => by simp [hnone b hb]]
    exact List.mem_singleton_self _

/-- Every left row stays in a join. -/
theorem exists_mem_sjoinLeft (joined : α → β → Bool) {left : List α} (right : List β) {a : α}
    (ha : a ∈ left) : ∃ b, (a, b) ∈ sjoinLeft joined left right := by
  by_cases hex : ∃ b ∈ right, joined a b = true
  · obtain ⟨b, hb, hab⟩ := hex
    exact ⟨some b, mem_sjoinLeft_some.2 ⟨ha, hb, hab⟩⟩
  · refine ⟨none, mem_sjoinLeft_none.2 ⟨ha, fun b hb => ?_⟩⟩
    rw [Bool.eq_false_iff]
    exact fun hab => hex ⟨b, hb, hab⟩

/-- Rows made from the partners of a key, where a missing row makes none. -/
theorem flatMap_partners {γ : Type} {rightKey : β → κ} {right : List β} {k : κ}
    {f : Option β → List γ} (hf : f none = []) :
    (partners rightKey right k).flatMap f =
      (right.filter fun b => rightKey b = k).flatMap fun b => f (some b) := by
  unfold partners
  split
  · rename_i hnone
    rw [hnone, List.flatMap_singleton, hf, List.flatMap_nil]
  · rw [List.flatMap_map]

theorem count_filter_eq_ite [DecidableEq α] (p : α → Prop) [DecidablePred p] (rows : List α)
    (a : α) : (rows.filter fun b => p b).count a = if p a then rows.count a else 0 := by
  split_ifs with hp
  · exact List.count_filter (by simpa using hp)
  · exact List.count_eq_zero.2 fun ha => hp (by simpa using (List.mem_filter.1 ha).2)

/-- How often an element occurs in a frame made row by row. -/
theorem count_flatMap_of_ite {γ : Type} [DecidableEq γ] {rows : List α} {f : α → List γ} {c : γ}
    {p : α → Prop} [DecidablePred p] {n : ℕ}
    (h : ∀ a, (f a).count c = if p a then n else 0) :
    (rows.flatMap f).count c = (rows.filter fun a => p a).length * n := by
  induction rows with
  | nil => simp
  | cons a rows ih =>
    rw [List.flatMap_cons, List.count_append, ih, h]
    by_cases hp : p a
    · simp [hp, Nat.add_mul, Nat.add_comm]
    · simp [hp]

/-- Where a key is there at most once, its partner is the first row of the key. -/
theorem partners_eq_find (rightKey : β → κ) {right : List β} {k : κ}
    (h : (right.filter fun b => rightKey b = k).length ≤ 1) :
    partners rightKey right k = [right.find? fun b => rightKey b = k] := by
  rw [← List.head?_filter]
  unfold partners
  split
  · rename_i hnil
    rw [hnil]
    rfl
  · rename_i hne
    obtain ⟨b, hb⟩ := List.length_eq_one_iff.1
      (Nat.le_antisymm h (List.length_pos_iff.2 fun hnil => hne hnil))
    rw [hb]
    rfl

theorem length_filter_key_le_one (key : α → κ) {rows : List α} (hnd : (rows.map key).Nodup)
    (k : κ) : (rows.filter fun a => key a = k).length ≤ 1 := by
  by_cases hex : ∃ a ∈ rows, key a = k
  · obtain ⟨a, ha, rfl⟩ := hex
    rw [filter_key_eq_singleton key hnd ha, List.length_singleton]
  · rw [List.filter_eq_nil_iff.2 fun a ha hk => hex ⟨a, ha, by simpa using hk⟩, List.length_nil]
    exact Nat.zero_le 1

/-- Where no key is there twice on the right, a left join has one row for each left row. -/
theorem map_fst_mergeLeft {leftKey : α → κ} {rightKey : β → κ} {left : List α} {right : List β}
    (h : ∀ a ∈ left, (right.filter fun b => rightKey b = leftKey a).length ≤ 1) :
    (mergeLeft leftKey rightKey left right).map Prod.fst = left := by
  induction left with
  | nil => rfl
  | cons a left ih =>
    have ih := ih fun x hx => h x (List.mem_cons_of_mem _ hx)
    have hone : ((partners rightKey right (leftKey a)).map fun b => (a, b)).map Prod.fst = [a] := by
      rw [partners_eq_find rightKey (h a List.mem_cons_self)]
      rfl
    rw [mergeLeft] at ih
    rw [mergeLeft, List.flatMap_cons, List.map_append, hone, ih]
    rfl

/-- Where the keys on the right are distinct, a left join finds the row of each key. -/
theorem mergeLeft_eq_map {leftKey : α → κ} {rightKey : β → κ} {right : List β}
    (hnd : (right.map rightKey).Nodup) (left : List α) :
    mergeLeft leftKey rightKey left right =
      left.map fun a => (a, right.find? fun b => rightKey b = leftKey a) := by
  induction left with
  | nil => rfl
  | cons a left ih =>
    rw [mergeLeft] at ih
    rw [mergeLeft, List.flatMap_cons, List.map_cons, ih,
      partners_eq_find rightKey (length_filter_key_le_one rightKey hnd _)]
    rfl

/-- Where the keys on the right are distinct, a left row is joined with the row of its key. -/
theorem eq_some_of_mem_mergeLeft {leftKey : α → κ} {rightKey : β → κ} {left : List α}
    {right : List β} (hnd : (right.map rightKey).Nodup) {a : α} {o : Option β} {b : β}
    (hx : (a, o) ∈ mergeLeft leftKey rightKey left right) (hb : b ∈ right)
    (hkey : rightKey b = leftKey a) : o = some b := by
  rw [mergeLeft_eq_map hnd] at hx
  obtain ⟨a', -, heq⟩ := List.mem_map.1 hx
  obtain ⟨rfl, rfl⟩ := Prod.mk.inj heq
  rw [← List.head?_filter, ← hkey, filter_key_eq_singleton rightKey hnd hb]
  rfl

/-- The rows of the keys, one key after the other. -/
theorem perm_flatMap_filter_key (key : α → κ) {ks : List κ} (hnd : ks.Nodup) {rows : List α}
    (hkeys : ∀ a ∈ rows, key a ∈ ks) :
    (ks.flatMap fun k => rows.filter fun a => key a = k).Perm rows := by
  classical
  refine List.perm_iff_count.2 fun a => ?_
  have hrow : ∀ k, (rows.filter fun b => key b = k).count a =
      if key a = k then rows.count a else 0 := fun k =>
    count_filter_eq_ite (fun b => key b = k) rows a
  rw [count_flatMap_of_ite hrow]
  by_cases ha : a ∈ rows
  · have hone : (ks.filter fun k => key a = k).length = 1 := by
      have hsingle := filter_key_eq_singleton id (by simpa using hnd) (hkeys a ha)
      simp only [id, eq_comm (b := key a)] at hsingle
      rw [hsingle]
      rfl
    rw [hone, Nat.one_mul]
  · rw [List.count_eq_zero.2 ha, Nat.mul_zero]

/-! ### Joining grouped sums -/

theorem groupbySum_filter {M : Type} [AddCommMonoid M] (key : α → κ) (col : α → M)
    (rows : List α) (k : κ) :
    ((groupbySum key col rows).filter fun g => g.1 = k) =
      if k ∈ rows.map key then [(k, ((rows.filter fun a => key a = k).map col).sum)] else [] := by
  rw [groupbySum, List.filter_map]
  have hcomp : ((fun g : κ × M => decide (g.1 = k)) ∘ fun k =>
      (k, ((rows.filter fun a => key a = k).map col).sum)) = fun x => decide (x = k) := rfl
  rw [hcomp]
  split_ifs with hk
  · have hsingle := filter_key_eq_singleton id (a := k)
      (by simpa using List.nodup_dedup (rows.map key)) (List.mem_dedup.2 hk)
    simp only [id] at hsingle
    rw [hsingle]
    rfl
  · rw [List.filter_eq_nil_iff.2 fun x hx => ?_]
    · rfl
    · have hx := List.mem_dedup.1 hx
      rintro h
      exact hk (of_decide_eq_true h ▸ hx)

/-- Each left row gets the sum over the rows of its own key, zero where there are none. -/
theorem mergeLeft_groupbySum {M : Type} [AddCommMonoid M] (leftKey : α → κ) (key : β → κ)
    (col : β → M) (left : List α) (rows : List β) :
    ((mergeLeft leftKey Prod.fst left (groupbySum key col rows)).map fun x =>
        (x.1, (x.2.map Prod.snd).getD 0)) =
      left.map fun a => (a, ((rows.filter fun b => key b = leftKey a).map col).sum) := by
  have hpartner : ∀ k, (partners Prod.fst (groupbySum key col rows) k).map
      (fun g => (g.map Prod.snd).getD 0) =
        [((rows.filter fun b => key b = k).map col).sum] := by
    intro k
    rw [partners, groupbySum_filter]
    split_ifs with hk
    · rfl
    · have hnone : (rows.filter fun b => key b = k) = [] :=
        List.filter_eq_nil_iff.2 fun b hb hbk =>
          hk (List.mem_map.2 ⟨b, hb, of_decide_eq_true hbk⟩)
      simp [hnone]
  induction left with
  | nil => rfl
  | cons a left ih =>
    have hone := congrArg (List.map fun s => (a, s)) (hpartner (leftKey a))
    rw [List.map_map] at hone
    rw [List.map_cons, ← ih, mergeLeft, List.flatMap_cons, List.map_append, List.map_map]
    exact congrArg (· ++ _) hone

end Frame

end StormPiper
