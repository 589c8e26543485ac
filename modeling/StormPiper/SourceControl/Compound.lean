import StormPiper.SourceControl.PercentReduction
import StormPiper.Arithmetic.Compounding
import Mathlib.Logic.Relation
import Mathlib.Tactic.Linarith

/-!
# When source controls compound

The loop of `calculateSrcCtrlPercentReduction` looks up what the previous order left in the frame
whose *position* is the previous order.  This is the frame of the previous order when the orders of
all controls are `0, 1, 2, ...`, and even then it has no row for a load that lacks a control of this
order.

For one load row, `chain i` is the set of positions whose reductions the turn at position `i` takes
into account, and `remaining i` is the value from which it takes its part
(`filter_remainingFrames`).  `source_controls_compound_iff` says for which tables the controls
compound nevertheless.
-/

namespace StormPiper

open Relation StormPiper.Frame Finset

/-- The turn of control `c` looks up the frame in which control `d` matches the same load row. -/
def Consults (orders : List ℤ) (controls : List TMNTSourceControl) (c d : TMNTSourceControl) :
    Prop :=
  d ∈ controls ∧ frameConsulted orders (orders.idxOf c.order) = some (orders.idxOf d.order)

/-- Every control of a load row that takes something either comes after a control that takes all, in
the chain of the frames that are looked up for it, or finds in this chain all earlier controls that
take something. -/
def RowCompounds (orders : List ℤ) (controls : List TMNTSourceControl) (value : ℚ) : Prop :=
  value = 0 ∨ ∀ c ∈ controls, c.percentReduction = 0 ∨
    (∃ d, TransGen (Consults orders controls) c d ∧ d.percentReduction = 100) ∨
    ∀ d ∈ controls, d.order < c.order →
      d.percentReduction = 0 ∨ TransGen (Consults orders controls) c d

/-- No look-up of a frame is out of range. -/
def LookupsInRange (orders : List ℤ) : Prop :=
  ∀ i < orders.length, 0 < i → (frameConsulted orders i).isSome

theorem frameConsulted_lt {orders : List ℤ} {i j : ℕ} (h : frameConsulted orders i = some j) :
    j < i := by
  unfold frameConsulted at h
  split_ifs at h
  obtain ⟨o, -, ho⟩ := Option.bind_eq_some_iff.1 h
  exact pyPosition_lt ho

/-! ### One load row -/

section Row

variable (orders : List ℤ) (controls : List TMNTSourceControl) (value : ℚ)

/-- The controls whose order is the one at position `i`. -/
def controlsAt (i : ℕ) : List TMNTSourceControl :=
  controls.filter fun c => orders[i]? = some c.order

/-- The part of the value that the controls at position `i` leave. -/
def factorAt (i : ℕ) : ℚ := ((controlsAt orders controls i).map (·.factor)).prod

/-- The turn at position `i` looks up the frame at position `j`, and this frame has the row. -/
def ConsultsAt (i j : ℕ) : Prop :=
  frameConsulted orders i = some j ∧ controlsAt orders controls j ≠ []

open Classical in
/-- The positions whose reductions the turn at position `i` takes into account. -/
noncomputable def chain (i : ℕ) : Finset ℕ :=
  (range i).filter fun j => TransGen (ConsultsAt orders controls) i j

/-- The value from which the turn at position `i` takes its part. -/
noncomputable def remaining (i : ℕ) : ℚ :=
  value * ∏ j ∈ chain orders controls i, factorAt orders controls j

variable {orders controls value} {i j k : ℕ}

theorem lt_of_transGen_consultsAt (h : TransGen (ConsultsAt orders controls) i j) : j < i := by
  induction h with
  | single h => exact frameConsulted_lt h.1
  | tail _ h ih =>
    have hlt := frameConsulted_lt h.1
    omega

theorem mem_chain : j ∈ chain orders controls i ↔ TransGen (ConsultsAt orders controls) i j := by
  classical
  simp only [chain, mem_filter, mem_range, and_iff_right_iff_imp]
  exact lt_of_transGen_consultsAt

theorem chain_subset (i : ℕ) : chain orders controls i ⊆ range i :=
  fun _ h => mem_range.2 (lt_of_transGen_consultsAt (mem_chain.1 h))

/-- The frame looked up has the row: its own chain is taken over. -/
theorem chain_of_consulted (h : frameConsulted orders i = some k)
    (hk : controlsAt orders controls k ≠ []) :
    chain orders controls i = insert k (chain orders controls k) := by
  ext j
  simp only [mem_insert, mem_chain]
  constructor
  · intro hij
    obtain ⟨m, him, hmj⟩ := TransGen.head'_iff.1 hij
    obtain rfl : m = k := Option.some.inj (him.1.symm.trans h)
    rcases reflTransGen_iff_eq_or_transGen.1 hmj with rfl | hmj
    · exact .inl rfl
    · exact .inr hmj
  · rintro (rfl | hkj)
    · exact .single ⟨h, hk⟩
    · exact .head ⟨h, hk⟩ hkj

/-- No frame is looked up, or it has no row. -/
theorem chain_of_miss
    (h : ∀ k, frameConsulted orders i = some k → controlsAt orders controls k = []) :
    chain orders controls i = ∅ := by
  refine eq_empty_of_forall_notMem fun j hj => ?_
  obtain ⟨m, him, -⟩ := TransGen.head'_iff.1 (mem_chain.1 hj)
  exact him.2 (h m him.1)

theorem remaining_of_consulted (h : frameConsulted orders i = some k)
    (hk : controlsAt orders controls k ≠ []) :
    remaining orders controls value i =
      remaining orders controls value k * factorAt orders controls k := by
  have hnot : k ∉ chain orders controls k := by
    intro hmem
    have := lt_of_transGen_consultsAt (mem_chain.1 hmem)
    omega
  rw [remaining, chain_of_consulted h hk, prod_insert hnot, remaining]
  ring

theorem remaining_of_miss
    (h : ∀ k, frameConsulted orders i = some k → controlsAt orders controls k = []) :
    remaining orders controls value i = value := by
  rw [remaining, chain_of_miss h, prod_empty, mul_one]

/-! ### Positions and controls -/

section Positions

variable (hsorted : orders.Pairwise (· < ·)) (hnd : (controls.map (·.order)).Nodup)
  (hmem : ∀ c ∈ controls, c.order ∈ orders)

include hnd hmem in
theorem controlsAt_idxOf {c : TMNTSourceControl} (hc : c ∈ controls) :
    controlsAt orders controls (orders.idxOf c.order) = [c] := by
  have horder : orders[orders.idxOf c.order]? = some c.order :=
    List.getElem?_idxOf (hmem c hc)
  rw [controlsAt, horder, ← filter_key_eq_singleton _ hnd hc]
  simp only [Option.some.injEq, eq_comm]

include hsorted hnd hmem in
theorem controlsAt_eq_nil_or (i : ℕ) : controlsAt orders controls i = [] ∨
    ∃ c ∈ controls, i = orders.idxOf c.order ∧ controlsAt orders controls i = [c] := by
  cases h : controlsAt orders controls i with
  | nil => exact .inl rfl
  | cons c cs =>
    obtain ⟨hc, hi⟩ : c ∈ controls ∧ orders[i]? = some c.order := by
      simpa [controlsAt] using (h ▸ List.mem_cons_self : c ∈ controlsAt orders controls i)
    obtain ⟨hlt, hi⟩ := List.getElem?_eq_some_iff.1 hi
    have horders : orders.Nodup := hsorted.imp ne_of_lt
    have hidx : i = orders.idxOf c.order := by
      rw [← hi, horders.idxOf_getElem]
    refine .inr ⟨c, hc, hidx, ?_⟩
    rw [← h, hidx, controlsAt_idxOf hnd hmem hc]

include hnd hmem in
theorem factorAt_idxOf {c : TMNTSourceControl} (hc : c ∈ controls) :
    factorAt orders controls (orders.idxOf c.order) = c.factor := by
  rw [factorAt, controlsAt_idxOf hnd hmem hc]
  simp

theorem factorAt_of_nil (h : controlsAt orders controls i = []) :
    factorAt orders controls i = 1 := by
  simp [factorAt, h]

include hsorted hnd hmem in
/-- The chain of the position of a control holds the positions of the controls it consults. -/
theorem transGen_consultsAt_iff {c : TMNTSourceControl} :
    TransGen (ConsultsAt orders controls) (orders.idxOf c.order) j ↔
      ∃ d ∈ controls, j = orders.idxOf d.order ∧ TransGen (Consults orders controls) c d := by
  have hcontrol : ∀ {j}, controlsAt orders controls j ≠ [] →
      ∃ d ∈ controls, j = orders.idxOf d.order := by
    intro j hj
    obtain ⟨d, hd, hjd, -⟩ := (controlsAt_eq_nil_or hsorted hnd hmem j).resolve_left hj
    exact ⟨d, hd, hjd⟩
  constructor
  · intro h
    induction h with
    | single h =>
      obtain ⟨d, hd, rfl⟩ := hcontrol h.2
      exact ⟨d, hd, rfl, .single ⟨hd, h.1⟩⟩
    | tail _ h ih =>
      obtain ⟨e, -, rfl, hce⟩ := ih
      obtain ⟨d, hd, rfl⟩ := hcontrol h.2
      exact ⟨d, hd, rfl, hce.tail ⟨hd, h.1⟩⟩
  · rintro ⟨d, -, rfl, h⟩
    refine TransGen.lift (fun x : TMNTSourceControl => orders.idxOf x.order) ?_ _ _ h
    rintro a b ⟨hb, hab⟩
    exact ⟨hab, by rw [controlsAt_idxOf hnd hmem hb]; simp⟩

theorem factor_eq_one {c : TMNTSourceControl} : c.factor = 1 ↔ c.percentReduction = 0 := by
  rw [TMNTSourceControl.factor]
  constructor <;> intro h <;> linarith

theorem factor_eq_zero {c : TMNTSourceControl} : c.factor = 0 ↔ c.percentReduction = 100 := by
  rw [TMNTSourceControl.factor]
  constructor <;> intro h <;> linarith

include hsorted hnd hmem in
/-- The condition on the controls of a row, in terms of positions. -/
theorem rowCompounds_iff : RowCompounds orders controls value ↔ value = 0 ∨
    ∀ i < orders.length, factorAt orders controls i = 1 ∨
      (∃ j ∈ chain orders controls i, factorAt orders controls j = 0) ∨
      ∀ j < i, j ∉ chain orders controls i → factorAt orders controls j = 1 := by
  refine or_congr_right ⟨fun h i _ => ?_, fun h c hc => ?_⟩
  · rcases controlsAt_eq_nil_or hsorted hnd hmem i with hnil | ⟨c, hc, rfl, -⟩
    · exact .inl (factorAt_of_nil hnil)
    · rcases h c hc with h0 | ⟨d, hcd, hd⟩ | hall
      · exact .inl ((factorAt_idxOf hnd hmem hc).trans (factor_eq_one.2 h0))
      · have hdc : d ∈ controls := by
          obtain ⟨_, -, hd⟩ := TransGen.tail'_iff.1 hcd
          exact hd.1
        refine .inr (.inl ⟨_, mem_chain.2
          ((transGen_consultsAt_iff hsorted hnd hmem).2 ⟨d, hdc, rfl, hcd⟩), ?_⟩)
        rw [factorAt_idxOf hnd hmem hdc, factor_eq_zero.2 hd]
      · refine .inr (.inr fun j hj hnot => ?_)
        rcases controlsAt_eq_nil_or hsorted hnd hmem j with hnil | ⟨d, hd, rfl, -⟩
        · exact factorAt_of_nil hnil
        · rw [factorAt_idxOf hnd hmem hd, factor_eq_one]
          have hlt := (idxOf_lt_idxOf hsorted (hmem d hd) (hmem c hc)).1 hj
          refine (hall d hd hlt).resolve_right fun hcd => hnot (mem_chain.2 ?_)
          exact (transGen_consultsAt_iff hsorted hnd hmem).2 ⟨d, hd, rfl, hcd⟩
  · rcases h _ (List.idxOf_lt_length_of_mem (hmem c hc)) with h1 | ⟨j, hj, hj0⟩ | hall
    · exact .inl (factor_eq_one.1 ((factorAt_idxOf hnd hmem hc).symm.trans h1))
    · obtain ⟨d, hd, rfl, hcd⟩ := (transGen_consultsAt_iff hsorted hnd hmem).1 (mem_chain.1 hj)
      rw [factorAt_idxOf hnd hmem hd] at hj0
      exact .inr (.inl ⟨d, hcd, factor_eq_zero.1 hj0⟩)
    · refine .inr (.inr fun d hd hlt => or_iff_not_imp_right.2 fun hnot => ?_)
      have hj := (idxOf_lt_idxOf hsorted (hmem d hd) (hmem c hc)).2 hlt
      have h1 := hall _ hj fun hmem' => hnot ?_
      · rw [factorAt_idxOf hnd hmem hd] at h1
        exact factor_eq_one.1 h1
      · obtain ⟨e, he, hde, hce⟩ :=
          (transGen_consultsAt_iff hsorted hnd hmem).1 (mem_chain.1 hmem')
        have horder : d.order = e.order := (List.idxOf_inj (hmem d hd)).1 hde
        rwa [List.inj_on_of_nodup_map hnd hd he horder]

end Positions

/-- All controls together leave the product of their factors. -/
theorem prod_factorAt (hnd : orders.Nodup) (hmem : ∀ c ∈ controls, c.order ∈ orders) :
    ∏ i ∈ range orders.length, factorAt orders controls i =
      (controls.map (·.factor)).prod := by
  induction controls with
  | nil => simp [factorAt, controlsAt]
  | cons c cs ih =>
    have hc : c.order ∈ orders := hmem c List.mem_cons_self
    have hcons : ∀ i ∈ range orders.length, factorAt orders (c :: cs) i =
        (if i = orders.idxOf c.order then c.factor else 1) * factorAt orders cs i := by
      intro i hi
      have hat : orders[i]? = some c.order ↔ i = orders.idxOf c.order := by
        rw [List.getElem?_eq_some_iff]
        constructor
        · rintro ⟨hlt, h⟩
          rw [← h, hnd.idxOf_getElem]
        · rintro rfl
          exact ⟨List.idxOf_lt_length_of_mem hc, List.getElem_idxOf _⟩
      by_cases h : i = orders.idxOf c.order
      · rw [if_pos h, factorAt, controlsAt, List.filter_cons_of_pos (by simpa using hat.2 h),
          List.map_cons, List.prod_cons]
        rfl
      · have hnot : ¬ orders[i]? = some c.order := fun h' => h (hat.1 h')
        rw [if_neg h, one_mul, factorAt, controlsAt, List.filter_cons_of_neg (by simpa using hnot)]
        rfl
    rw [prod_congr rfl hcons, prod_mul_distrib, prod_ite_eq',
      if_pos (mem_range.2 (List.idxOf_lt_length_of_mem hc)),
      ih fun d hd => hmem d (List.mem_cons_of_mem _ hd), List.map_cons, List.prod_cons]

end Row

/-! ### The joined rows -/

section Join

variable {load : List LoadRow} {srcCtrls : List TMNTSourceControl} {direction : Direction}

theorem mem_joinSrcCtrls {x : SrcCtrlRow} : x ∈ joinSrcCtrls load srcCtrls direction ↔
    x.load ∈ load ∧ x.ctrl ∈ matching srcCtrls direction x.load := by
  obtain ⟨r, c⟩ := x
  simp only [joinSrcCtrls, (perm_sortValues _ _).mem_iff, List.mem_map, merge, List.mem_flatMap,
    List.mem_filter, matching, Prod.mk.injEq, decide_eq_true_eq]
  constructor
  · rintro ⟨_, ⟨a, ha, b, ⟨⟨hb, hd⟩, hs, hv⟩, rfl⟩, h⟩
    cases h
    exact ⟨ha, hb, hd, hs, hv⟩
  · rintro ⟨ha, hb, hd, hs, hv⟩
    exact ⟨(r, c), ⟨r, ha, c, ⟨⟨hb, hd⟩, hs, hv⟩, rfl⟩, rfl⟩

theorem sortedUnique_joinSrcCtrls :
    sortedUnique (·.ctrl.order) (joinSrcCtrls load srcCtrls direction) =
      appliedOrders load srcCtrls direction := by
  refine sortedUnique_congr fun o => ⟨?_, ?_⟩
  · rintro ⟨x, hx, rfl⟩
    obtain ⟨hr, hc⟩ := mem_joinSrcCtrls.1 hx
    exact ⟨x.ctrl, List.mem_flatMap.2 ⟨x.load, hr, hc⟩, rfl⟩
  · rintro ⟨c, hc, rfl⟩
    obtain ⟨r, hr, hc⟩ := List.mem_flatMap.1 hc
    exact ⟨⟨r, c⟩, mem_joinSrcCtrls.2 ⟨hr, hc⟩, rfl⟩

/-- The joined rows of one key: for each load row of this key, one for each matching control. -/
theorem perm_joinSrcCtrls_key (k : String × String × String) :
    ((joinSrcCtrls load srcCtrls direction).filter fun x => x.key = k).Perm
      ((load.filter fun r => r.key = k).flatMap fun r =>
        (matching srcCtrls direction r).map fun c => ⟨r, c⟩) := by
  set directional := sortValues TMNTSourceControl.le (srcCtrls.filter (·.direction = direction))
  have hmatch : ∀ r : LoadRow, (directional.filter fun c =>
      (some c.subbasin, c.variableName) = (r.subbasin, r.variableName)).Perm
        (matching srcCtrls direction r) := by
    intro r
    refine ((perm_sortValues _ _).filter _).trans (List.Perm.of_eq ?_)
    rw [List.filter_filter]
    refine List.filter_congr fun c _ => ?_
    rw [← Bool.decide_and]
    exact decide_eq_decide.2 (by rw [Prod.mk.injEq]; tauto)
  refine ((perm_sortValues _ _).filter _).trans ?_
  rw [List.filter_map]
  refine (List.Perm.of_eq (congrArg _ (merge_filter_key LoadRow.key k))).trans ?_
  rw [merge, List.map_flatMap]
  refine List.Perm.flatMap_left _ fun r _ => ?_
  rw [List.map_map]
  exact (hmatch r).map _

theorem perm_joinSrcCtrls_filter (hnd : (load.map LoadRow.key).Nodup) {r : LoadRow}
    (hr : r ∈ load) :
    ((joinSrcCtrls load srcCtrls direction).filter fun x => x.key = r.key).Perm
      ((matching srcCtrls direction r).map fun c => ⟨r, c⟩) := by
  refine (perm_joinSrcCtrls_key r.key).trans ?_
  rw [filter_key_eq_singleton _ hnd hr, List.flatMap_singleton]

end Join

/-! ### The loop -/

section Loop

variable {load : LoadTable} {srcCtrls : SourceControlTable} {direction : Direction}

theorem order_nodup_matching (srcCtrls : SourceControlTable) (direction : Direction)
    (r : LoadRow) : ((matching srcCtrls.rows direction r).map (·.order)).Nodup := by
  refine List.Nodup.map_on ?_ (srcCtrls.order_unique.of_map.filter _)
  intro c hc d hd horder
  simp only [matching, List.mem_filter, decide_eq_true_eq] at hc hd
  obtain ⟨hc, hcd, hcs, hcv⟩ := hc
  obtain ⟨hd, hdd, hds, hdv⟩ := hd
  refine List.inj_on_of_nodup_map srcCtrls.order_unique hc hd ?_
  rw [hcd, hdd, Option.some.inj (hcs.trans hds.symm), hcv, hdv, horder]

theorem order_mem_appliedOrders {load : List LoadRow} {srcCtrls : List TMNTSourceControl}
    {r : LoadRow} (hr : r ∈ load) {c : TMNTSourceControl}
    (hc : c ∈ matching srcCtrls direction r) :
    c.order ∈ appliedOrders load srcCtrls direction :=
  mem_sortedUnique.2 ⟨c, List.mem_flatMap.2 ⟨r, hr, hc⟩, rfl⟩

theorem eq_of_perm_of_length_le_one {α : Type} {xs ys : List α} (h : xs.Perm ys)
    (hys : ys.length ≤ 1) : xs = ys := by
  match ys, hys with
  | [], _ => exact h.eq_nil
  | [y], _ => exact List.perm_singleton.1 h

theorem length_controlsAt_le_one (orders : List ℤ) {controls : List TMNTSourceControl}
    (hnd : (controls.map (·.order)).Nodup) (i : ℕ) :
    (controlsAt orders controls i).length ≤ 1 := by
  cases ho : orders[i]? with
  | none => simp [controlsAt, ho]
  | some o =>
    by_cases h : ∃ c ∈ controls, c.order = o
    · obtain ⟨c, hc, rfl⟩ := h
      have hsingle := filter_key_eq_singleton _ hnd hc
      simp only [controlsAt, ho, Option.some.injEq, eq_comm (a := c.order)]
      rw [hsingle]
      exact Nat.le_refl 1
    · have hnil : controlsAt orders controls i = [] :=
        List.filter_eq_nil_iff.2 fun c hc hco =>
          h ⟨c, hc, (Option.some.inj (ho.symm.trans (of_decide_eq_true hco))).symm⟩
      simp [hnil]

theorem controlsAt_eq_nil_or_singleton (orders : List ℤ) {controls : List TMNTSourceControl}
    (hnd : (controls.map (·.order)).Nodup) (i : ℕ) :
    controlsAt orders controls i = [] ∨ ∃ c, controlsAt orders controls i = [c] := by
  rcases Nat.le_one_iff_eq_zero_or_eq_one.1 (length_controlsAt_le_one orders hnd i) with h | h
  · exact .inl (List.length_eq_zero_iff.1 h)
  · exact .inr (List.length_eq_one_iff.1 h)

/-- The joined rows of one load row and one order. -/
theorem joinSrcCtrls_filter {r : LoadRow} (hr : r ∈ load.rows) {i : ℕ} {o : ℤ}
    (ho : (appliedOrders load.rows srcCtrls.rows direction)[i]? = some o) :
    (((joinSrcCtrls load.rows srcCtrls.rows direction).filter fun x => x.ctrl.order = o).filter
        fun x => x.key = r.key) =
      (controlsAt (appliedOrders load.rows srcCtrls.rows direction)
        (matching srcCtrls.rows direction r) i).map fun c => ⟨r, c⟩ := by
  refine eq_of_perm_of_length_le_one ?_ ?_
  · rw [List.filter_comm]
    refine ((perm_joinSrcCtrls_filter load.key_nodup hr).filter _).trans (List.Perm.of_eq ?_)
    rw [List.filter_map, controlsAt, ho]
    simp only [Option.some.injEq, eq_comm (a := o)]
    rfl
  · rw [List.length_map]
    exact length_controlsAt_le_one _ (order_nodup_matching srcCtrls direction r) i

/-- No two joined rows agree in load and order: the assertion of the source holds. -/
theorem length_group_le_one (x : SrcCtrlRow)
    (hx : x ∈ joinSrcCtrls load.rows srcCtrls.rows direction) :
    ((joinSrcCtrls load.rows srcCtrls.rows direction).filter
      fun y => y.group = x.group).length ≤ 1 := by
  obtain ⟨hr, hc⟩ := mem_joinSrcCtrls.1 hx
  have ho : (appliedOrders load.rows srcCtrls.rows direction)[
      (appliedOrders load.rows srcCtrls.rows direction).idxOf x.ctrl.order]? = some x.ctrl.order :=
    List.getElem?_idxOf (order_mem_appliedOrders hr hc)
  have hgroup : (joinSrcCtrls load.rows srcCtrls.rows direction).filter
      (fun y => y.group = x.group) =
        ((joinSrcCtrls load.rows srcCtrls.rows direction).filter fun y =>
          y.ctrl.order = x.ctrl.order).filter fun y => y.key = x.load.key := by
    rw [List.filter_filter]
    refine List.filter_congr fun y _ => ?_
    rw [← Bool.decide_and]
    exact decide_eq_decide.2 Prod.ext_iff
  rw [hgroup, joinSrcCtrls_filter hr ho, List.length_map]
  exact length_controlsAt_le_one _ (order_nodup_matching srcCtrls direction x.load) _

/-- The rows that the turn at position `i` makes for one load row. -/
noncomputable def rowsAt (orders : List ℤ) (controls : List TMNTSourceControl) (r : LoadRow)
    (i : ℕ) : List RemainingRow :=
  (controlsAt orders controls i).map fun c =>
    { load := r
      ctrl := c
      valueRemainingPrev := remaining orders controls r.value i
      valueRemaining := remaining orders controls r.value i * c.factor }

end Loop

section Turn

variable {df1 : List SrcCtrlRow} {orders : List ℤ} {controls : LoadRow → List TMNTSourceControl}
  {rows : List LoadRow} {df2 : List (List RemainingRow)} {i : ℕ} {o : ℤ}

/-- Each order has one joined row for each load row and control of this order. -/
def JoinedRight (df1 : List SrcCtrlRow) (orders : List ℤ)
    (controls : LoadRow → List TMNTSourceControl) (rows : List LoadRow) : Prop :=
  ∀ r ∈ rows, ∀ i o, orders[i]? = some o →
    ((df1.filter fun x => x.ctrl.order = o).filter fun x => x.key = r.key) =
      (controlsAt orders (controls r) i).map fun c => ⟨r, c⟩

/-- The frame at position `i` has the right rows for each load row. -/
def FrameRight (orders : List ℤ) (controls : LoadRow → List TMNTSourceControl)
    (rows : List LoadRow) (i : ℕ) (frame : List RemainingRow) : Prop :=
  ∀ r ∈ rows, (frame.filter fun x => x.key = r.key) = rowsAt orders (controls r) r i

/-- The first turn starts from the original values. -/
theorem remainingFrame_zero (hdf1 : JoinedRight df1 orders controls rows)
    (ho : orders[0]? = some o) :
    ∃ frame, remainingFrame df1 orders df2 0 o = .ok frame ∧
      FrameRight orders controls rows 0 frame := by
  refine ⟨_, rfl, fun r hr => ?_⟩
  have hstart : remaining orders (controls r) r.value 0 = r.value := by
    refine remaining_of_miss fun k hk => ?_
    have := frameConsulted_lt hk
    omega
  rw [List.map_map, List.filter_map]
  refine (congrArg (List.map _) (hdf1 r hr 0 o ho)).trans ?_
  rw [List.map_map, rowsAt, hstart]
  rfl

/-- The previous order of a later turn. -/
theorem exists_prevOrder (hi : 0 < i) (ho : orders[i]? = some o) :
    ∃ prevOrder, pyIndex orders (i - 1 : ℕ) = .ok prevOrder ∧
      frameConsulted orders i = pyPosition i prevOrder := by
  obtain ⟨hlt, -⟩ := List.getElem?_eq_some_iff.1 ho
  have hprev : i - 1 < orders.length := by omega
  have hpos : pyPosition orders.length (i - 1 : ℕ) = some (i - 1) := by
    rw [pyPosition, if_pos (by omega), if_pos (by omega)]
    simp
  refine ⟨orders[i - 1], pyIndex_eq_ok hpos (List.getElem?_eq_getElem hprev), ?_⟩
  rw [frameConsulted, if_neg (by omega), List.getElem?_eq_getElem hprev]
  rfl

theorem remainingFrame_error (hi : 0 < i) (hlen : df2.length = i) (ho : orders[i]? = some o)
    (hnone : frameConsulted orders i = none) :
    remainingFrame df1 orders df2 i o = .error .indexError := by
  obtain ⟨prevOrder, hprev, hcons⟩ := exists_prevOrder hi ho
  have hframe : pyIndex df2 prevOrder = .error .indexError :=
    pyIndex_eq_error (by rw [hlen, ← hcons, hnone])
  simp only [remainingFrame, hi, if_true, hprev, ok_bind, hframe, error_bind]

/-- A later turn joins the rows of its order with the frame that it looks up. -/
theorem exists_remainingFrame_eq (df1 : List SrcCtrlRow) (hi : 0 < i) (hlen : df2.length = i)
    (ho : orders[i]? = some o) {k : ℕ} (hk : frameConsulted orders i = some k) :
    ∃ frame, df2[k]? = some frame ∧ remainingFrame df1 orders df2 i o =
      .ok (((mergeLeft SrcCtrlRow.key (fun x : RemainingRow => x.key)
        (df1.filter fun x => x.ctrl.order = o) frame).map fun x =>
          (x.1, x.2.map (·.valueRemaining))).map fun x =>
            { x.1 with
              valueRemainingPrev := x.2.getD x.1.load.value
              valueRemaining := x.2.getD x.1.load.value * x.1.ctrl.factor }) := by
  obtain ⟨prevOrder, hprev, hcons⟩ := exists_prevOrder hi ho
  have hklt : k < df2.length := hlen ▸ frameConsulted_lt hk
  have hframe : pyIndex df2 prevOrder = .ok df2[k] :=
    pyIndex_eq_ok (by rw [hlen, ← hcons, hk]) (List.getElem?_eq_getElem hklt)
  refine ⟨df2[k], List.getElem?_eq_getElem hklt, ?_⟩
  simp only [remainingFrame, hi, if_true, hprev, ok_bind, hframe]
  rfl

/-- What a row finds in the frame that is looked up: what is left there, or its own value. -/
theorem partners_rowsAt {k : ℕ} (hk : frameConsulted orders i = some k) {frame : List RemainingRow}
    {r : LoadRow} (hframe : (frame.filter fun x => x.key = r.key) = rowsAt orders (controls r) r k)
    (hnd : ((controls r).map (·.order)).Nodup) :
    (partners (fun x : RemainingRow => x.key) frame r.key).map
        (fun b => (b.map (·.valueRemaining)).getD r.value) =
      [remaining orders (controls r) r.value i] := by
  rw [partners, hframe, rowsAt]
  rcases controlsAt_eq_nil_or_singleton orders hnd k with hat | ⟨d, hat⟩
  · have hmiss : remaining orders (controls r) r.value i = r.value :=
      remaining_of_miss fun m hm => by rw [Option.some.inj (hm.symm.trans hk), hat]
    rw [hmiss, hat]
    rfl
  · have hfactor : factorAt orders (controls r) k = d.factor := by simp [factorAt, hat]
    rw [remaining_of_consulted hk (by simp [hat]), hfactor, hat]
    rfl

/-- A later turn takes over what the frame that it looks up has left. -/
theorem remainingFrame_ok (hdf1 : JoinedRight df1 orders controls rows)
    (hnd : ∀ r ∈ rows, ((controls r).map (·.order)).Nodup) (hi : 0 < i)
    (hlen : df2.length = i) (ho : orders[i]? = some o) {k : ℕ}
    (hk : frameConsulted orders i = some k)
    (hdf2 : ∀ frame, df2[k]? = some frame → FrameRight orders controls rows k frame) :
    ∃ frame, remainingFrame df1 orders df2 i o = .ok frame ∧
      FrameRight orders controls rows i frame := by
  obtain ⟨consulted, hconsulted, heq⟩ := exists_remainingFrame_eq df1 hi hlen ho hk
  have hright := hdf2 consulted hconsulted
  -- the rows of the turn, one after the other
  let row (a : SrcCtrlRow) (v : ℚ) : RemainingRow :=
    { a with valueRemainingPrev := v, valueRemaining := v * a.ctrl.factor }
  let turn (a : SrcCtrlRow) : List RemainingRow :=
    ((partners (fun x : RemainingRow => x.key) consulted a.key).map
      fun b => (b.map (·.valueRemaining)).getD a.load.value).map (row a)
  have hok : remainingFrame df1 orders df2 i o =
      .ok ((df1.filter fun x => x.ctrl.order = o).flatMap turn) := by
    refine heq.trans (congrArg Except.ok ?_)
    rw [mergeLeft]
    rw [List.map_map, List.map_flatMap]
    refine congrArg (fun f => List.flatMap f _) (funext fun a => ?_)
    simp only [turn, List.map_map]
    rfl
  refine ⟨_, hok, fun r hr => ?_⟩
  rw [filter_key_flatMap SrcCtrlRow.key _ (fun a _ b hb => ?_), hdf1 r hr i o ho,
    List.flatMap_map, rowsAt, List.map_eq_flatMap]
  · refine congrArg (fun f => List.flatMap f _) (funext fun c => ?_)
    exact congrArg (List.map (row ⟨r, c⟩)) (partners_rowsAt hk (hright r hr) (hnd r hr))
  · obtain ⟨v, -, rfl⟩ := List.mem_map.1 hb
    rfl

/-- The loop fails at the first look-up that is out of range, and otherwise makes frames with the
property `R` that every turn hands on. -/
theorem remainingFrames_spec {R : ℕ → List RemainingRow → Prop}
    (hzero : ∀ o, orders[0]? = some o → ∃ frame, remainingFrame df1 orders [] 0 o = .ok frame ∧
      R 0 frame)
    (hturn : ∀ df2 i o k, 0 < i → df2.length = i → orders[i]? = some o →
      frameConsulted orders i = some k → (∀ frame, df2[k]? = some frame → R k frame) →
      ∃ frame, remainingFrame df1 orders df2 i o = .ok frame ∧ R i frame) :
    ∀ n ≤ orders.length,
      ((∀ i < n, 0 < i → (frameConsulted orders i).isSome) →
        ∃ df2, remainingFrames df1 orders n = .ok df2 ∧ df2.length = n ∧
          ∀ i frame, df2[i]? = some frame → R i frame) ∧
      (¬ (∀ i < n, 0 < i → (frameConsulted orders i).isSome) →
        remainingFrames df1 orders n = .error .indexError) := by
  intro n
  induction n with
  | zero => exact fun _ => ⟨fun _ => ⟨[], rfl, rfl, by simp⟩, fun h => absurd (by simp) h⟩
  | succ n ih =>
    intro hn
    obtain ⟨hok, herr⟩ := ih (by omega)
    have ho : orders[n]? = some orders[n] := List.getElem?_eq_getElem (by omega)
    by_cases hrange : ∀ i < n, 0 < i → (frameConsulted orders i).isSome
    · obtain ⟨df2, hdf2, hlen, hright⟩ := hok hrange
      -- the turn at position `n`
      have hstep : remainingFrames df1 orders (n + 1) =
          (remainingFrame df1 orders df2 n orders[n]).bind fun df => .ok (df2 ++ [df]) := by
        simp only [remainingFrames, hdf2, ok_bind, ho]
        rfl
      have hframe : (0 < n → (frameConsulted orders n).isSome) →
          ∃ frame, remainingFrame df1 orders df2 n orders[n] = .ok frame ∧ R n frame := by
        intro hsome
        rcases Nat.eq_zero_or_pos n with rfl | hpos
        · obtain rfl := List.length_eq_zero_iff.1 hlen
          exact hzero _ ho
        · obtain ⟨k, hk⟩ := Option.isSome_iff_exists.1 (hsome hpos)
          exact hturn df2 n _ k hpos hlen ho hk fun frame hf => hright k frame hf
      refine ⟨fun h => ?_, fun h => ?_⟩
      · obtain ⟨frame, hf, hfr⟩ := hframe fun hpos => h n (by omega) hpos
        refine ⟨df2 ++ [frame], by rw [hstep, hf]; rfl, by simp [hlen], fun i g hg => ?_⟩
        rcases Nat.lt_or_ge i n with hi | hi
        · rw [List.getElem?_append_left (by omega)] at hg
          exact hright i g hg
        · obtain ⟨hlt, -⟩ := List.getElem?_eq_some_iff.1 hg
          obtain rfl : i = n := by simp [hlen] at hlt; omega
          rw [← hlen, List.getElem?_append_right (Nat.le_refl _)] at hg
          obtain rfl : frame = g := by simpa using hg
          exact hfr
      · have hlast : 0 < n ∧ frameConsulted orders n = none := by
          by_contra hnot
          refine h fun i hi hpos => ?_
          rcases Nat.lt_succ_iff_lt_or_eq.1 hi with hi | rfl
          · exact hrange i hi hpos
          · exact Option.isSome_iff_ne_none.2 fun hnone => hnot ⟨hpos, hnone⟩
        rw [hstep, remainingFrame_error hlast.1 hlen ho hlast.2]
        rfl
    · refine ⟨fun h => absurd (fun i hi => h i (by omega)) hrange, fun _ => ?_⟩
      simp only [remainingFrames, herr hrange, error_bind]

end Turn

/-! ### The sums -/

section Sums

theorem sum_map_eq_sum_range {α : Type} (g : α → ℚ) (xs : List α) (f : ℕ → ℚ)
    (h : ∀ i x, xs[i]? = some x → g x = f i) : (xs.map g).sum = ∑ i ∈ range xs.length, f i := by
  induction xs generalizing f with
  | nil => rfl
  | cons x xs ih =>
    rw [List.map_cons, List.sum_cons, h 0 x rfl, List.length_cons, sum_range_succ',
      ih (fun i => f (i + 1)) fun i y hy => h (i + 1) y hy, add_comm]

/-- The rows that the calculation returns for the frames of its loop. -/
def reducedRows (df2 : List (List RemainingRow)) : List LoadReducedRow :=
  (sortValues (fun a b : RemainingRow => a.toSrcCtrlRow.le b.toSrcCtrlRow)
    df2.flatten).zipIdx.map fun (r, id) =>
      { r with loadReduced := r.valueRemainingPrev - r.valueRemaining, id := id }

/-- Numbering the rows does not change what is taken from a load. -/
theorem sum_reducedRows (df2 : List (List RemainingRow)) (k : String × String × String) :
    (((reducedRows df2).filter fun x => x.key = k).map (·.loadReduced)).sum =
      (df2.map fun frame => ((frame.filter fun x => x.key = k).map fun x =>
        x.valueRemainingPrev - x.valueRemaining).sum).sum := by
  set sorted := sortValues (fun a b : RemainingRow => a.toSrcCtrlRow.le b.toSrcCtrlRow)
    df2.flatten with hsorted
  let taken (x : RemainingRow) : ℚ := x.valueRemainingPrev - x.valueRemaining
  have hnumber : ((reducedRows df2).filter fun x => x.key = k).map (·.loadReduced) =
      (sorted.filter fun x => x.key = k).map taken := by
    rw [reducedRows, List.filter_map, List.map_map, ← List.zipIdx_map_fst 0 sorted,
      List.filter_map, List.map_map]
    rfl
  have hperm : (sorted.filter fun x => x.key = k).Perm
      (df2.flatten.filter fun x => x.key = k) := (perm_sortValues _ _).filter _
  rw [hnumber, (hperm.map taken).sum_eq, List.filter_flatten, List.map_flatten, List.sum_flatten,
    List.map_map, List.map_map]
  rfl

/-- What the turn at position `i` takes from a load row. -/
theorem sum_rowsAt {orders : List ℤ} {controls : List TMNTSourceControl}
    (hnd : (controls.map (·.order)).Nodup) (r : LoadRow) (i : ℕ) :
    ((rowsAt orders controls r i).map fun x => x.valueRemainingPrev - x.valueRemaining).sum =
      remaining orders controls r.value i * (1 - factorAt orders controls i) := by
  rw [rowsAt, factorAt, List.map_map]
  rcases controlsAt_eq_nil_or_singleton orders hnd i with hat | ⟨c, hat⟩
  · simp [hat]
  · simp only [hat, Function.comp_def, List.map_cons, List.map_nil, List.sum_cons, List.sum_nil,
      List.prod_cons, List.prod_nil]
    ring

end Sums

/-! ### The result -/

section Result

variable (load : LoadTable) (srcCtrls : SourceControlTable) (direction : Direction)

/-- The part of the value of a load row that its turns leave in total. -/
noncomputable def leftOver (orders : List ℤ) (controls : List TMNTSourceControl) : ℚ :=
  1 - ∑ i ∈ range orders.length,
    (∏ j ∈ chain orders controls i, factorAt orders controls j) * (1 - factorAt orders controls i)

theorem leftOver_singleton (o : ℤ) (controls : List TMNTSourceControl) :
    leftOver [o] controls = factorAt [o] controls 0 := by
  have hsub : chain [o] controls 0 ⊆ range 0 := chain_subset 0
  have hchain : chain [o] controls 0 = ∅ := subset_empty.1 (by simpa using hsub)
  rw [leftOver, List.length_singleton, sum_range_one, hchain, prod_empty, one_mul, sub_sub_cancel]

theorem joinedRight : JoinedRight (joinSrcCtrls load.rows srcCtrls.rows direction)
    (appliedOrders load.rows srcCtrls.rows direction) (matching srcCtrls.rows direction)
    load.rows :=
  fun _ hr _ _ ho => joinSrcCtrls_filter hr ho

/-- The calculation fails exactly when a look-up is out of range; otherwise its rows take from each
load row the part that its turns take. -/
theorem calculateSrcCtrlPercentReduction_taken :
    (¬ LookupsInRange (appliedOrders load.rows srcCtrls.rows direction) →
      calculateSrcCtrlPercentReduction load.rows srcCtrls.rows direction =
        .error .indexError) ∧
    (LookupsInRange (appliedOrders load.rows srcCtrls.rows direction) →
      ∃ out rows, calculateSrcCtrlPercentReduction load.rows srcCtrls.rows direction = .ok out ∧
        out.throughTable = .frame rows ∧
        ∀ r ∈ load.rows, ((rows.filter fun x => x.key = r.key).map (·.loadReduced)).sum =
          r.value * (1 - leftOver (appliedOrders load.rows srcCtrls.rows direction)
            (matching srcCtrls.rows direction r))) := by
  set orders := appliedOrders load.rows srcCtrls.rows direction with horders
  have hjoined := joinedRight load srcCtrls direction
  obtain ⟨hok, herr⟩ := remainingFrames_spec (fun o ho => remainingFrame_zero hjoined ho)
    (fun _ _ _ _ hi hlen ho hk hright => remainingFrame_ok hjoined
      (fun r _ => order_nodup_matching srcCtrls direction r) hi hlen ho hk hright)
    orders.length (Nat.le_refl _)
  have hassert : ∀ x ∈ joinSrcCtrls load.rows srcCtrls.rows direction,
      ((joinSrcCtrls load.rows srcCtrls.rows direction).filter
        fun y => y.group = x.group).length ≤ 1 := length_group_le_one
  refine ⟨fun h => ?_, fun h => ?_⟩
  · simp only [calculateSrcCtrlPercentReduction, sortedUnique_joinSrcCtrls, if_pos hassert]
    rw [← horders, herr h]
    rfl
  · obtain ⟨df2, hdf2, hlen, hright⟩ := hok h
    have hcalc : ∃ out,
        calculateSrcCtrlPercentReduction load.rows srcCtrls.rows direction = .ok out ∧
          out.throughTable = .frame (reducedRows df2) := by
      simp only [calculateSrcCtrlPercentReduction, sortedUnique_joinSrcCtrls, if_pos hassert]
      rw [← horders, hdf2, ok_bind]
      by_cases hempty : df2.length = 0
      · obtain rfl := List.length_eq_zero_iff.1 hempty
        exact ⟨.noColumns, rfl, rfl⟩
      · exact ⟨.frame (reducedRows df2), by rw [if_neg hempty]; rfl, rfl⟩
    obtain ⟨out, hout, htable⟩ := hcalc
    refine ⟨out, _, hout, htable, fun r hr => ?_⟩
    rw [sum_reducedRows, sum_map_eq_sum_range _ df2 _ fun i frame hf => by
      rw [hright i frame hf r hr, sum_rowsAt (order_nodup_matching srcCtrls direction r)],
      hlen, leftOver, sub_sub_cancel, mul_sum]
    exact sum_congr rfl fun i _ => mul_assoc _ _ _

/-- The calculation fails exactly when a look-up is out of range, and otherwise subtracts the part
that the turns take. -/
theorem calculateSrcCtrlPercentReduction_spec :
    (¬ LookupsInRange (appliedOrders load.rows srcCtrls.rows direction) →
      calculateSrcCtrlPercentReduction load.rows srcCtrls.rows direction =
        .error .indexError) ∧
    (LookupsInRange (appliedOrders load.rows srcCtrls.rows direction) →
      ∃ out, calculateSrcCtrlPercentReduction load.rows srcCtrls.rows direction = .ok out ∧
        applyTidyLoadReduction load.rows out.throughTable =
          .ok (load.rows.map fun r => { r with
            value := r.value * leftOver (appliedOrders load.rows srcCtrls.rows direction)
              (matching srcCtrls.rows direction r) })) := by
  obtain ⟨herr, hok⟩ := calculateSrcCtrlPercentReduction_taken load srcCtrls direction
  refine ⟨herr, fun h => ?_⟩
  obtain ⟨out, rows, hout, htable, htaken⟩ := hok h
  refine ⟨out, hout, ?_⟩
  have hmerge := congrArg (List.map fun x : LoadRow × ℚ =>
    { x.1 with value := x.1.value - x.2 }) (mergeLeft_groupbySum LoadRow.key
      (fun x : LoadReducedRow => x.key) (·.loadReduced) load.rows rows)
  rw [List.map_map, List.map_map] at hmerge
  rw [htable]
  refine congrArg Except.ok (hmerge.trans (List.map_congr_left fun r hr => ?_))
  simp only [Function.comp_apply, htaken r hr, mul_sub, mul_one, sub_sub_cancel]

/-- The calculated reductions leave of each load row the product of what its controls leave. -/
def Compounds : Prop :=
  ∀ out, calculateSrcCtrlPercentReduction load.rows srcCtrls.rows direction = .ok out →
    applyTidyLoadReduction load.rows out.throughTable = .ok (load.rows.map fun r => { r with
      value := r.value * ((matching srcCtrls.rows direction r).map (·.factor)).prod })

variable {srcCtrls} in
theorem factor_mem {c : TMNTSourceControl} (hc : c ∈ srcCtrls.rows) :
    0 ≤ c.factor ∧ c.factor ≤ 1 := by
  obtain ⟨h0, h100⟩ := srcCtrls.percentReduction_mem c hc
  rw [TMNTSourceControl.factor]
  constructor <;> linarith

variable {load srcCtrls direction} in
/-- A load row keeps the product of its factors exactly when its controls compound. -/
theorem mul_leftOver_eq_iff {r : LoadRow} (hr : r ∈ load.rows) :
    r.value * leftOver (appliedOrders load.rows srcCtrls.rows direction)
        (matching srcCtrls.rows direction r) =
      r.value * ((matching srcCtrls.rows direction r).map (·.factor)).prod ↔
    RowCompounds (appliedOrders load.rows srcCtrls.rows direction)
      (matching srcCtrls.rows direction r) r.value := by
  have hsorted : (appliedOrders load.rows srcCtrls.rows direction).Pairwise (· < ·) :=
    pairwise_lt_sortedUnique _ _
  have hmem : ∀ c ∈ matching srcCtrls.rows direction r,
      c.order ∈ appliedOrders load.rows srcCtrls.rows direction := fun c hc =>
    order_mem_appliedOrders hr hc
  have hnd := order_nodup_matching srcCtrls direction r
  have hfactor : ∀ i, 0 ≤ factorAt (appliedOrders load.rows srcCtrls.rows direction)
        (matching srcCtrls.rows direction r) i ∧
      factorAt (appliedOrders load.rows srcCtrls.rows direction)
        (matching srcCtrls.rows direction r) i ≤ 1 := by
    intro i
    rcases controlsAt_eq_nil_or hsorted hnd hmem i with hnil | ⟨c, hc, rfl, -⟩
    · rw [factorAt_of_nil hnil]
      exact ⟨zero_le_one, le_refl 1⟩
    · rw [factorAt_idxOf hnd hmem hc]
      exact factor_mem (List.mem_of_mem_filter hc)
  rw [rowCompounds_iff hsorted hnd hmem, mul_eq_mul_left_iff, or_comm,
    ← prod_factorAt (hsorted.imp ne_of_lt) hmem, leftOver,
    one_sub_sum_eq_prod_iff chain_subset (fun i => (hfactor i).1) fun i => (hfactor i).2]

variable {load srcCtrls direction} in
/-- Where the controls compound, the next stage gets the compounded load. -/
theorem loadToNext_of_compounds (h : Compounds load srcCtrls direction) {next : List LoadRow}
    (hnext : loadToNext load.rows srcCtrls.rows direction = .ok next) :
    next = load.rows.map fun r => { r with
      value := r.value * ((matching srcCtrls.rows direction r).map (·.factor)).prod } := by
  unfold loadToNext at hnext
  cases hout : calculateSrcCtrlPercentReduction load.rows srcCtrls.rows direction with
  | error e => rw [hout] at hnext; cases hnext
  | ok out =>
    rw [hout, ok_bind, h out hout] at hnext
    exact (Except.ok.inj hnext).symm

/-- **When source controls compound.**  The reductions leave of every load row the product of what
its controls leave exactly when, if no look-up of a frame is out of range, the controls of every
load row find in the frames that are looked up what the earlier controls left.  Then the load that
is handed to the next stage is not negative if the given load is not, and depends for each load row
on its own controls only. -/
theorem source_controls_compound_iff :
    (Compounds load srcCtrls direction ↔
      (LookupsInRange (appliedOrders load.rows srcCtrls.rows direction) → ∀ r ∈ load.rows,
        RowCompounds (appliedOrders load.rows srcCtrls.rows direction)
          (matching srcCtrls.rows direction r) r.value)) ∧
    (Compounds load srcCtrls direction → (∀ r ∈ load.rows, 0 ≤ r.value) → ∀ next,
      loadToNext load.rows srcCtrls.rows direction = .ok next → ∀ r ∈ next, 0 ≤ r.value) ∧
    ∀ srcCtrls', Compounds load srcCtrls direction → Compounds load srcCtrls' direction →
      ∀ next next', loadToNext load.rows srcCtrls.rows direction = .ok next →
        loadToNext load.rows srcCtrls'.rows direction = .ok next' →
        ∀ (i : ℕ) (r : LoadRow), load.rows[i]? = some r →
          matching srcCtrls.rows direction r = matching srcCtrls'.rows direction r →
          next[i]? = next'[i]? := by
  obtain ⟨herr, hok⟩ := calculateSrcCtrlPercentReduction_spec load srcCtrls direction
  refine ⟨⟨fun h hrange r hr => ?_, fun h out hout => ?_⟩, fun h hload next hnext r' hr' => ?_, ?_⟩
  · obtain ⟨out, hout, happly⟩ := hok hrange
    have hmap := Except.ok.inj ((h out hout).symm.trans happly)
    have hrow := List.map_inj_left.1 hmap r hr
    exact (mul_leftOver_eq_iff hr).1 (congrArg LoadRow.value hrow).symm
  · by_cases hrange : LookupsInRange (appliedOrders load.rows srcCtrls.rows direction)
    · obtain ⟨out', hout', happly⟩ := hok hrange
      obtain rfl : out' = out := Except.ok.inj (hout'.symm.trans hout)
      rw [happly]
      refine congrArg Except.ok (List.map_congr_left fun r hr => ?_)
      rw [(mul_leftOver_eq_iff hr).2 (h hrange r hr)]
    · rw [herr hrange] at hout
      cases hout
  · rw [loadToNext_of_compounds h hnext] at hr'
    obtain ⟨r, hr, rfl⟩ := List.mem_map.1 hr'
    refine mul_nonneg (hload r hr) (List.prod_nonneg fun x hx => ?_)
    obtain ⟨c, hc, rfl⟩ := List.mem_map.1 hx
    exact (factor_mem (List.mem_of_mem_filter hc)).1
  · intro srcCtrls' h h' next next' hnext hnext' i r hr hmatch
    rw [loadToNext_of_compounds h hnext, loadToNext_of_compounds h' hnext', List.getElem?_map,
      List.getElem?_map, hr, Option.map_some, Option.map_some, hmatch]

end Result

/-! ### Orders with a gap -/

/-- One load in each of two subbasins. -/
def loadOfTwo : LoadTable where
  rows := [⟨"SB_A", "1980s", "TSS", some "A", 100⟩, ⟨"SB_B", "1980s", "TSS", some "B", 100⟩]
  key_nodup := by decide

/-- Two controls of subbasin `A`, each of which takes 80 percent. -/
def srcCtrlsOfA : SourceControlTable where
  rows := [⟨"A", "TSS", 0, "sweeping", .downstream, 80⟩,
    ⟨"A", "TSS", 2, "education", .downstream, 80⟩]
  order_unique := by decide
  activity_unique := by decide
  percentReduction_mem := by decide +kernel

/-- The same controls, and three small ones of subbasin `B`. -/
def srcCtrlsOfTwo : SourceControlTable where
  rows := srcCtrlsOfA.rows ++ [⟨"B", "TSS", 0, "sweeping", .downstream, 10⟩,
    ⟨"B", "TSS", 1, "cleaning", .downstream, 10⟩, ⟨"B", "TSS", 2, "education", .downstream, 10⟩]
  order_unique := by decide
  activity_unique := by decide
  percentReduction_mem := by decide +kernel

/-- **A subbasin that lacks an order.**  The controls of `A` leave 4 of 100, unless subbasin `B` has
a control with an order between theirs: then each of them takes 80 of the original 100, and the load
that is handed on is negative. -/
theorem not_compounds_of_missing_order :
    loadToNext loadOfTwo.rows srcCtrlsOfA.rows .downstream =
      .ok [⟨"SB_A", "1980s", "TSS", some "A", 4⟩, ⟨"SB_B", "1980s", "TSS", some "B", 100⟩] ∧
    loadToNext loadOfTwo.rows srcCtrlsOfTwo.rows .downstream =
      .ok [⟨"SB_A", "1980s", "TSS", some "A", -60⟩,
        ⟨"SB_B", "1980s", "TSS", some "B", 729 / 10⟩] ∧
    ¬ Compounds loadOfTwo srcCtrlsOfTwo .downstream := by
  have hnext : loadToNext loadOfTwo.rows srcCtrlsOfTwo.rows .downstream =
      .ok [⟨"SB_A", "1980s", "TSS", some "A", -60⟩,
        ⟨"SB_B", "1980s", "TSS", some "B", 729 / 10⟩] := by decide +kernel
  refine ⟨by decide +kernel, hnext, fun h => ?_⟩
  exact absurd (loadToNext_of_compounds h hnext) (by decide +kernel)

end StormPiper
