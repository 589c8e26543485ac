import StormPiper.SourceControl.Compound

/-!
# Which frame is looked up

A turn of the loop of `calculateSrcCtrlPercentReduction` looks up the frame `df2[prev_order]`, where
the frame of the previous order is the one before.  This file says for which orders the two are the
same, for load tables of any rows.

* `LooksUpPrevious` : no look-up is out of range, and each one finds the frame that was made for the
  previous order.
* `looksUpPrevious_iff` : this holds exactly when the orders are their own positions, up to the
  largest one.
-/

namespace StormPiper

open StormPiper.Frame

/-- Each turn finds, in the frames that were made before it, the one of the previous order. -/
def TurnsLookUpPrevious (df1 : List SrcCtrlRow) (orders : List ℤ) : Prop :=
  ∀ i df2 prevOrder, i + 1 < orders.length → orders[i]? = some prevOrder →
    remainingFrames df1 orders (i + 1) = .ok df2 →
    ∃ frame, df2[i]? = some frame ∧ pyIndex df2 prevOrder = .ok frame ∧
      ∀ row ∈ frame, row.ctrl.order = prevOrder

/-- The calculation indexes its list of frames in range, and consults for the previous order the
frame it made for this order.  Where the assertion on the joined rows fails, it comes to no
look-up. -/
def LooksUpPrevious (load : List LoadRow) (srcCtrls : List TMNTSourceControl)
    (direction : Direction) : Prop :=
  calculateSrcCtrlPercentReduction load srcCtrls direction ≠ .error .indexError ∧
    (calculateSrcCtrlPercentReduction load srcCtrls direction ≠ .error .assertionError →
      TurnsLookUpPrevious (joinSrcCtrls load srcCtrls direction)
        (appliedOrders load srcCtrls direction))

/-- Two joined rows agree in node, epoch, variable and order. -/
def JoinedTwice (load : List LoadRow) (srcCtrls : List TMNTSourceControl)
    (direction : Direction) : Prop :=
  ∃ row ∈ joinSrcCtrls load srcCtrls direction,
    1 < ((joinSrcCtrls load srcCtrls direction).filter fun r => r.group = row.group).length

/-- All orders but the last are their own positions; the first can also be `-1`, which as an index
means the last of the frames made so far. -/
def OrdersArePositions (orders : List ℤ) : Prop :=
  ∀ i, i + 1 < orders.length → orders[i]? = some (i : ℤ) ∨ (i = 0 ∧ orders[0]? = some (-1))

/-! ### The frames that are made -/

section Frames

variable {df1 : List SrcCtrlRow} {orders : List ℤ} {df2 : List (List RemainingRow)} {i k : ℕ}
  {o : ℤ}

/-- The frame was made for an order. -/
def MadeFor (o : ℤ) (frame : List RemainingRow) : Prop :=
  frame ≠ [] ∧ ∀ row ∈ frame, row.ctrl.order = o

/-- Each frame was made for the order at its position. -/
def FramesMadeFor (orders : List ℤ) (df2 : List (List RemainingRow)) : Prop :=
  ∀ (i : ℕ) (frame : List RemainingRow), df2[i]? = some frame →
    ∀ o, orders[i]? = some o → MadeFor o frame

theorem MadeFor.unique {frame : List RemainingRow} {o o' : ℤ} (h : MadeFor o frame)
    (h' : MadeFor o' frame) : o = o' := by
  obtain ⟨row, hrow⟩ := List.exists_mem_of_ne_nil _ h.1
  rw [← h.2 row hrow, h'.2 row hrow]

/-- A turn makes at least one row for each joined row of its order. -/
theorem madeFor_of_rows {rows : List (SrcCtrlRow × Option ℚ)}
    (hne : (df1.filter fun x => x.ctrl.order = o) ≠ [])
    (hrows : ∀ a, a ∈ df1.filter (fun x => x.ctrl.order = o) ↔ ∃ v, (a, v) ∈ rows) :
    MadeFor o (rows.map fun x =>
      { x.1 with
        valueRemainingPrev := x.2.getD x.1.load.value
        valueRemaining := x.2.getD x.1.load.value * x.1.ctrl.factor }) := by
  constructor
  · obtain ⟨a, ha⟩ := List.exists_mem_of_ne_nil _ hne
    obtain ⟨v, hv⟩ := (hrows a).1 ha
    exact List.ne_nil_of_mem (List.mem_map_of_mem hv)
  · intro row hrow
    obtain ⟨⟨a, v⟩, hav, rfl⟩ := List.mem_map.1 hrow
    simpa using (List.mem_filter.1 ((hrows a).2 ⟨v, hav⟩)).2

theorem remainingFrame_madeFor_zero (hne : (df1.filter fun x => x.ctrl.order = o) ≠ []) :
    ∃ frame, remainingFrame df1 orders [] 0 o = .ok frame ∧ MadeFor o frame := by
  refine ⟨_, rfl, madeFor_of_rows hne fun a => ⟨fun ha => ?_, ?_⟩⟩
  · exact ⟨_, List.mem_map_of_mem ha⟩
  · rintro ⟨v, hv⟩
    obtain ⟨b, hb, he⟩ := List.mem_map.1 hv
    cases he
    exact hb

theorem remainingFrame_madeFor (hne : (df1.filter fun x => x.ctrl.order = o) ≠ []) (hi : 0 < i)
    (hlen : df2.length = i) (ho : orders[i]? = some o) (hk : frameConsulted orders i = some k) :
    ∃ frame, remainingFrame df1 orders df2 i o = .ok frame ∧ MadeFor o frame := by
  obtain ⟨consulted, -, heq⟩ := exists_remainingFrame_eq df1 hi hlen ho hk
  refine ⟨_, heq, madeFor_of_rows hne fun a => ?_⟩
  rw [← exists_mem_mergeLeft SrcCtrlRow.key (fun x : RemainingRow => x.key) _ consulted]
  constructor
  · rintro ⟨b, hb⟩
    exact ⟨_, List.mem_map_of_mem hb⟩
  · rintro ⟨v, hv⟩
    obtain ⟨⟨a', b⟩, hb, he⟩ := List.mem_map.1 hv
    cases he
    exact ⟨b, hb⟩

end Frames

/-! ### The look-ups -/

section Lookups

/-- The frame that is looked up is the previous one exactly at the orders that are their positions,
the first of them possibly `-1`. -/
theorem pyPosition_succ_eq_some {i : ℕ} {o : ℤ} :
    pyPosition (i + 1) o = some i ↔ o = i ∨ o = -1 := by
  unfold pyPosition
  split_ifs with h0 hlt hneg
  · simp only [Option.some.injEq]
    omega
  · simp only [false_iff]
    omega
  · simp only [Option.some.injEq]
    omega
  · simp only [false_iff]
    omega

/-- In an increasing list of orders, only the first can be `-1` where it is followed by its own
positions. -/
theorem ordersArePositions_iff {orders : List ℤ} (hsorted : orders.Pairwise (· < ·)) :
    OrdersArePositions orders ↔
      ∀ i prevOrder, i + 1 < orders.length → orders[i]? = some prevOrder →
        pyPosition (i + 1) prevOrder = some i := by
  simp only [pyPosition_succ_eq_some]
  constructor
  · intro h i prevOrder hi ho
    rcases h i hi with h | ⟨rfl, h⟩
    · exact .inl (Option.some.inj (ho.symm.trans h))
    · exact .inr (Option.some.inj (ho.symm.trans h))
  · intro h i hi
    have hi' : i < orders.length := by omega
    have ho : orders[i]? = some orders[i] := List.getElem?_eq_getElem hi'
    rcases h i _ hi ho with he | he
    · exact .inl (by rw [ho, he])
    · rcases Nat.eq_zero_or_pos i with rfl | hpos
      · exact .inr ⟨rfl, by rw [ho, he]⟩
      · -- a later `-1` would come after an order that is a position or `-1` itself
        have hprev : orders[i - 1]? = some orders[i - 1] :=
          List.getElem?_eq_getElem (by omega)
        have hlt : orders[i - 1] < orders[i] :=
          List.pairwise_iff_getElem.1 hsorted _ _ (by omega) hi' (by omega)
        rcases h (i - 1) _ (by omega) hprev with h' | h' <;> omega

variable (load : List LoadRow) (srcCtrls : List TMNTSourceControl) (direction : Direction)

/-- The frames of the loop are made for the orders at their positions, up to the first look-up that
is out of range. -/
theorem remainingFrames_madeFor :
    ∀ n ≤ (appliedOrders load srcCtrls direction).length,
      ((∀ i < n, 0 < i → (frameConsulted (appliedOrders load srcCtrls direction) i).isSome) →
        ∃ df2, remainingFrames (joinSrcCtrls load srcCtrls direction)
            (appliedOrders load srcCtrls direction) n = .ok df2 ∧ df2.length = n ∧
          FramesMadeFor (appliedOrders load srcCtrls direction) df2) ∧
      (¬ (∀ i < n, 0 < i →
          (frameConsulted (appliedOrders load srcCtrls direction) i).isSome) →
        remainingFrames (joinSrcCtrls load srcCtrls direction)
          (appliedOrders load srcCtrls direction) n = .error .indexError) := by
  have hrows : ∀ {i : ℕ} {o}, (appliedOrders load srcCtrls direction)[i]? = some o →
      ((joinSrcCtrls load srcCtrls direction).filter fun x => x.ctrl.order = o) ≠ [] := by
    intro i o ho
    rw [← sortedUnique_joinSrcCtrls] at ho
    obtain ⟨x, hx, rfl⟩ := mem_sortedUnique.1 (List.mem_of_getElem? ho)
    exact List.ne_nil_of_mem (List.mem_filter.2 ⟨hx, by simp⟩)
  refine remainingFrames_spec (fun o ho => ?_) fun df2 i o k hi hlen ho hk _ => ?_
  · obtain ⟨frame, hframe, hmade⟩ := remainingFrame_madeFor_zero (hrows ho)
    refine ⟨frame, hframe, fun o' ho' => ?_⟩
    obtain rfl : o = o' := Option.some.inj (ho.symm.trans ho')
    exact hmade
  · obtain ⟨frame, hframe, hmade⟩ := remainingFrame_madeFor (hrows ho) hi hlen ho hk
    refine ⟨frame, hframe, fun o' ho' => ?_⟩
    obtain rfl : o = o' := Option.some.inj (ho.symm.trans ho')
    exact hmade

variable {load srcCtrls direction}

/-- Where no look-up is out of range, the turns find the previous frames exactly at such orders. -/
theorem turnsLookUpPrevious_iff (h : LookupsInRange (appliedOrders load srcCtrls direction)) :
    TurnsLookUpPrevious (joinSrcCtrls load srcCtrls direction)
        (appliedOrders load srcCtrls direction) ↔
      OrdersArePositions (appliedOrders load srcCtrls direction) := by
  have hsorted : (appliedOrders load srcCtrls direction).Pairwise (· < ·) :=
    pairwise_lt_sortedUnique _ _
  have hframes : ∀ i, i + 1 < (appliedOrders load srcCtrls direction).length →
      ∃ df2, remainingFrames (joinSrcCtrls load srcCtrls direction)
          (appliedOrders load srcCtrls direction) (i + 1) = .ok df2 ∧ df2.length = i + 1 ∧
        FramesMadeFor (appliedOrders load srcCtrls direction) df2 :=
    fun i hi => (remainingFrames_madeFor load srcCtrls direction (i + 1) (by omega)).1
      fun j hj hpos => h j (by omega) hpos
  rw [ordersArePositions_iff hsorted]
  constructor
  · intro hturns i prevOrder hi ho
    obtain ⟨df2, hdf2, hlen, hmade⟩ := hframes i hi
    obtain ⟨frame, hframe, hindex, -⟩ := hturns i df2 prevOrder hi ho hdf2
    obtain ⟨k, hk, hkframe⟩ := exists_of_pyIndex_eq_ok hindex
    -- the frame was made for one order, and this order has one position
    have hklt : k < (appliedOrders load srcCtrls direction).length := by
      have := pyPosition_lt hk
      omega
    have hko := List.getElem?_eq_getElem hklt
    have horder := (hmade k frame hkframe _ hko).unique (hmade i frame hframe _ ho)
    rw [horder] at hko
    have hki : k = i :=
      (List.getElem?_inj hklt (hsorted.imp ne_of_lt)).1 (hko.trans ho.symm)
    rw [← hlen, hk, hki]
  · intro hpos i df2 prevOrder hi ho hdf2
    obtain ⟨df2', hdf2', hlen, hmade⟩ := hframes i hi
    obtain rfl : df2' = df2 := Except.ok.inj (hdf2'.symm.trans hdf2)
    have hframe : df2'[i]? = some df2'[i] := List.getElem?_eq_getElem (by omega)
    refine ⟨df2'[i], hframe, pyIndex_eq_ok ?_ hframe, (hmade i _ hframe _ ho).2⟩
    rw [hlen, hpos i prevOrder hi ho]

theorem OrdersArePositions.lookupsInRange
    (h : OrdersArePositions (appliedOrders load srcCtrls direction)) :
    LookupsInRange (appliedOrders load srcCtrls direction) := by
  have hsorted : (appliedOrders load srcCtrls direction).Pairwise (· < ·) :=
    pairwise_lt_sortedUnique _ _
  have h := (ordersArePositions_iff hsorted).1 h
  intro i hi hpos
  have ho := List.getElem?_eq_getElem (show i - 1 < (appliedOrders load srcCtrls direction).length
    by omega)
  have hfound := h (i - 1) _ (by omega) ho
  rw [Nat.sub_add_cancel hpos] at hfound
  rw [frameConsulted, if_neg (by omega), ho, Option.bind_some, hfound]
  rfl

/-- **Which order numbers are accepted.**  The calculation looks up no frame out of range, and for
each order the frame it made for the previous order, exactly when the distinct orders of the
controls that match some load, apart from the largest one, are `0, 1, 2, ...` in turn (the first can
also be `-1`), or when two joined rows agree in load and order, so that it comes to no look-up. -/
theorem looksUpPrevious_iff (load : List LoadRow) (srcCtrls : List TMNTSourceControl)
    (direction : Direction) :
    LooksUpPrevious load srcCtrls direction ↔
      JoinedTwice load srcCtrls direction ∨
        OrdersArePositions (appliedOrders load srcCtrls direction) := by
  by_cases htwice : JoinedTwice load srcCtrls direction
  · have hcalc : calculateSrcCtrlPercentReduction load srcCtrls direction =
        .error .assertionError := by
      unfold calculateSrcCtrlPercentReduction
      refine if_neg fun hassert => ?_
      obtain ⟨row, hrow, hlt⟩ := htwice
      exact absurd (hassert row hrow) (by omega)
    simp [LooksUpPrevious, hcalc, htwice]
  · have hassert : ∀ row ∈ joinSrcCtrls load srcCtrls direction,
        ((joinSrcCtrls load srcCtrls direction).filter fun r => r.group = row.group).length ≤ 1 :=
      fun row hrow => Nat.not_lt.1 fun hlt => htwice ⟨row, hrow, hlt⟩
    obtain ⟨hok, herr⟩ := remainingFrames_madeFor load srcCtrls direction _ (Nat.le_refl _)
    by_cases hrange : LookupsInRange (appliedOrders load srcCtrls direction)
    · obtain ⟨df2, hdf2, -⟩ := hok hrange
      have hcalc : ∃ out, calculateSrcCtrlPercentReduction load srcCtrls direction = .ok out := by
        simp only [calculateSrcCtrlPercentReduction, sortedUnique_joinSrcCtrls, if_pos hassert,
          hdf2, ok_bind]
        split_ifs <;> exact ⟨_, rfl⟩
      obtain ⟨out, hout⟩ := hcalc
      simp [LooksUpPrevious, hout, htwice, turnsLookUpPrevious_iff hrange]
    · have hcalc : calculateSrcCtrlPercentReduction load srcCtrls direction =
          .error .indexError := by
        simp only [calculateSrcCtrlPercentReduction, sortedUnique_joinSrcCtrls, if_pos hassert,
          herr hrange, error_bind]
      have hnot : ¬ OrdersArePositions (appliedOrders load srcCtrls direction) :=
        fun h => hrange h.lookupsInRange
      simp [LooksUpPrevious, hcalc, htwice, hnot]

end Lookups

/-- Two controls of one subbasin, numbered from 1. -/
def srcCtrlsFromOne : SourceControlTable where
  rows := [⟨"A", "TSS", 1, "sweeping", .downstream, 80⟩,
    ⟨"A", "TSS", 2, "education", .downstream, 80⟩]
  order_unique := by decide
  activity_unique := by decide
  percentReduction_mem := by decide +kernel

/-- **Numbering that starts at 1.**  The second order looks up `df2[1]`, and there is one frame. -/
theorem not_looksUpPrevious_from_one :
    calculateSrcCtrlPercentReduction loadOfTwo.rows srcCtrlsFromOne.rows .downstream =
        .error .indexError ∧
      ¬ LooksUpPrevious loadOfTwo.rows srcCtrlsFromOne.rows .downstream := by
  have hcalc : calculateSrcCtrlPercentReduction loadOfTwo.rows srcCtrlsFromOne.rows .downstream =
      .error .indexError := by decide +kernel
  exact ⟨hcalc, fun h => h.1 hcalc⟩

end StormPiper
