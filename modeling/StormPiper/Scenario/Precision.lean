import StormPiper.Python.Numbers

/-!
# The precision of coordinates

`lower_precision` walks through the coordinates of a geometry and rounds them in place, where it can
assign to their container: in a list whose elements are all floats.  A number that it meets on its
own it rounds in a local variable, a tuple in a copy, and an integer is not a sequence that it can
walk through (`models/scenario.py`).

The in-place assignments of a call are the nest after it.  The floats are doubles, and `round` gives
the double nearest to the decimal number that it rounds to.

* `LowersPrecision` : the coordinates come back rounded, once and for all.
* `lowPrecision_iff` : the coordinates for which the validators of polygons and points do this.
-/

namespace StormPiper

/-- The sequences of Python that coordinates come in. -/
inductive SeqKind where
  | list
  | tuple
  deriving DecidableEq, Repr

/-- Numbers in nested sequences. -/
inductive Nest where
  | int (n : ℤ)
  | float (x : PyFloat)
  | seq (kind : SeqKind) (elems : List Nest)

/-- `round(x, 5)` -/
def roundFive (x : PyFloat) : PyFloat := x.round 5

namespace Nest

/-- `isinstance(v, float)` -/
def isFloat : Nest → Bool
  | .float _ => true
  | _ => false

/-- What is not a sequence is a number. -/
def isNumber : Nest → Bool
  | .seq _ _ => false
  | _ => true

/-- `round(x, 5)` of a number; an integer is not changed. -/
def roundFloat : Nest → Nest
  | .float x => .float (roundFive x)
  | v => v

mutual

/-- One turn of the loop of `lower_precision`: the object as its container has it afterwards. -/
def lowerObj : Nest → Except PyError Nest
  -- `for v in obj` on a number
  | .int _ => .error .typeError
  -- the rounded number is assigned to `obj` alone
  | .float x => .ok (.float x)
  | .seq kind elems =>
    if elems.all isFloat then
      match kind with
      | .list => .ok (.seq .list (elems.map roundFloat))
      -- the numbers are rounded in `list(obj)`
      | .tuple => .ok (.seq .tuple elems)
    else do
      let elems ← lowerPrecision elems
      return .seq kind elems

/-- `lower_precision` -/
def lowerPrecision : List Nest → Except PyError (List Nest)
  | [] => .ok []
  | obj :: data => do
    let obj ← lowerObj obj
    let data ← lowerPrecision data
    return obj :: data

end

/-- `lower_precision(ele)` for an element that may be a number. -/
def lowerEle : Nest → Except PyError Nest
  | .seq kind elems => do
    let elems ← lowerPrecision elems
    return .seq kind elems
  | _ => .error .typeError

end Nest

open Nest

/-- `LowResPolygon.low_precision` -/
def LowResPolygon.lowPrecision : Nest → Except PyError Nest
  | .seq kind rings => do
    let rings ← rings.mapM lowerEle
    return .seq kind rings
  | _ => .error .typeError

/-- `LowResPoint.low_precision` -/
def LowResPoint.lowPrecision : Nest → Except PyError Nest
  | .seq _ elems => lowerEle (.seq .list elems)
  | _ => .error .typeError

namespace Nest

mutual

/-- The coordinates as the model parses them, lists of floats, with a function of the numbers. -/
def parsed (f : PyFloat → PyFloat) : Nest → Nest
  | .int n => .float (f (.ofRat n))
  | .float x => .float (f x)
  | .seq _ elems => .seq .list (parsedList f elems)

/-- The same for the elements of a sequence. -/
def parsedList (f : PyFloat → PyFloat) : List Nest → List Nest
  | [] => []
  | x :: elems => parsed f x :: parsedList f elems

end

/-- Sequences of sequences, as deep as one likes, whose innermost ones are positions: sequences of
numbers that satisfy `P`. -/
inductive Positions (P : SeqKind → List Nest → Prop) : Nest → Prop
  | position {kind : SeqKind} {elems : List Nest} : elems ≠ [] → (∀ x ∈ elems, x.isNumber) →
    P kind elems → Positions P (.seq kind elems)
  | seq {kind : SeqKind} {elems : List Nest} : (∀ x ∈ elems, Positions P x) →
    Positions P (.seq kind elems)

/-- The coordinates of a polygon: a sequence of rings, which are sequences of positions or of
deeper sequences. -/
def Polygon (P : SeqKind → List Nest → Prop) (c : Nest) : Prop :=
  ∃ kind rings, c = .seq kind rings ∧
    ∀ r ∈ rings, ∃ kind elems, r = .seq kind elems ∧ ∀ x ∈ elems, Positions P x

/-- The coordinates of a point. -/
def Point (P : List Nest → Prop) (c : Nest) : Prop :=
  ∃ kind elems, c = .seq kind elems ∧ elems ≠ [] ∧ (∀ x ∈ elems, x.isNumber) ∧ P elems

/-- A float that is nearest to a number with no more than five decimals. -/
def FiveDecimals : Nest → Prop
  | .float x => x.HasDecimals 5
  | _ => False

/-- The numbers are floats, and in a tuple they have no more than five decimals. -/
def Lowerable (kind : SeqKind) (elems : List Nest) : Prop :=
  (∀ x ∈ elems, x.isFloat) ∧ (kind = .tuple → ∀ x ∈ elems, x.FiveDecimals)

/-- The numbers are floats with no more than five decimals. -/
def Rounded (elems : List Nest) : Prop := ∀ x ∈ elems, x.FiveDecimals

/-- The validator returns the coordinates in their shape with every number rounded, and the second
time it returns what the first time gave. -/
def LowersPrecision (validator : Nest → Except PyError Nest) (c : Nest) : Prop :=
  ∃ c', validator c = .ok c' ∧ c'.parsed id = c.parsed roundFive ∧ validator c' = .ok c'

/-- Zero without its sign. -/
def unsigned : PyFloat → PyFloat
  | .finite x => .finite (if x.magnitude = 0 then .zero binary64 false else x)
  | x => x

/-- The zero that a number of at most half a unit of the fifth decimal is rounded to, with its sign;
`0.0` for the other numbers. -/
def signOfZero : PyFloat → PyFloat
  | .finite x => .finite (.zero binary64 (decide (x.magnitude ≤ 1 / 200000) && x.negative))
  | _ => .finite (.zero binary64 false)

/-- The coordinates differ only beyond the fifth decimal: rounded they are the same numbers. -/
def SameToFive (c d : Nest) : Prop :=
  c.parsed (unsigned ∘ roundFive) = d.parsed (unsigned ∘ roundFive)

/-- The coordinates that are rounded to zero have the same signs. -/
def SameZeroSigns (c d : Nest) : Prop := c.parsed signOfZero = d.parsed signOfZero

/-! ### Numbers -/

/-- Rounding a double keeps its sign. -/
theorem exists_roundFive_finite (x : Binary binary64) : ∃ x' : Binary binary64,
    roundFive (.finite x) = .finite x' ∧ x'.negative = x.negative ∧
      (x'.magnitude = 0 ↔ x.magnitude ≤ 1 / 200000) := by
  obtain ⟨x', hx', -⟩ := Binary.exists_toGrid (by positivity)
    (PyFloat.ten_pow_mul_lt (by decide : 5 ≤ 15)) (PyFloat.ten_pow_le (by decide)) (by decide)
    (by decide) x
  refine ⟨x', hx', (Binary.toGrid_eq_finite.1 hx').1.symm, ?_⟩
  rw [Binary.toGrid_magnitude_eq_zero_iff (by positivity)
    (PyFloat.ten_pow_mul_lt (by decide : 5 ≤ 15)) hx']
  norm_num
  constructor <;> intro h <;> linarith

theorem signOfZero_finite {x x' : Binary binary64} (hneg : x'.negative = x.negative)
    (hzero : x'.magnitude = 0 ↔ x.magnitude ≤ 1 / 200000) : signOfZero (.finite x) =
      .finite (.zero binary64 (decide (x'.magnitude = 0) && x'.negative)) := by
  simp only [signOfZero, hneg, hzero]

/-- Two numbers are rounded to the same float if they are the same number and, for a zero, have the
same sign. -/
theorem roundFive_eq_iff (x y : PyFloat) : roundFive x = roundFive y ↔
    (unsigned ∘ roundFive) x = (unsigned ∘ roundFive) y ∧ signOfZero x = signOfZero y := by
  cases x with
  | finite x =>
    obtain ⟨x', hx, hxneg, hxzero⟩ := exists_roundFive_finite x
    rw [Function.comp_apply, hx, signOfZero_finite hxneg hxzero]
    cases y with
    | finite y =>
      obtain ⟨y', hy, hyneg, hyzero⟩ := exists_roundFive_finite y
      rw [Function.comp_apply, hy, signOfZero_finite hyneg hyzero]
      simp only [unsigned, Extended.finite.injEq]
      by_cases hx0 : x'.magnitude = 0
      · by_cases hy0 : y'.magnitude = 0
        · rw [Binary.eq_zero_iff.2 hx0, Binary.eq_zero_iff.2 hy0]
          simp [Binary.zero]
        · refine iff_of_false (fun h => hy0 (h ▸ hx0)) ?_
          rintro ⟨h, -⟩
          rw [if_pos hx0, if_neg hy0] at h
          exact hy0 (h ▸ rfl)
      · by_cases hy0 : y'.magnitude = 0
        · refine iff_of_false (fun h => hx0 (h ▸ hy0)) ?_
          rintro ⟨h, -⟩
          rw [if_neg hx0, if_pos hy0] at h
          exact hx0 (h ▸ rfl)
        · simp [hx0, hy0]
    | _ => simp [roundFive, PyFloat.round, unsigned]
  | _ =>
    cases y with
    | finite y =>
      obtain ⟨y', hy, -⟩ := exists_roundFive_finite y
      rw [Function.comp_apply, Function.comp_apply, hy]
      simp [roundFive, PyFloat.round, unsigned]
    | _ => simp [roundFive, PyFloat.round, unsigned, signOfZero]

@[simp] theorem roundFive_roundFive (x : PyFloat) : roundFive (roundFive x) = roundFive x :=
  PyFloat.round_round (by decide) x

theorem roundFloat_roundFloat (v : Nest) : v.roundFloat.roundFloat = v.roundFloat := by
  cases v <;> simp [roundFloat]

theorem isFloat_roundFloat (v : Nest) : v.roundFloat.isFloat = v.isFloat := by
  cases v <;> rfl

theorem FiveDecimals.isFloat {v : Nest} (h : v.FiveDecimals) : v.isFloat := by
  cases v with
  | float x => rfl
  | _ => cases h

theorem parsed_roundFloat {v : Nest} (h : v.isFloat) :
    v.roundFloat.parsed id = v.parsed roundFive := by
  cases v with
  | float x => rfl
  | int n => cases h
  | seq kind elems => cases h

theorem parsed_eq_iff {v : Nest} (h : v.isFloat) :
    v.parsed id = v.parsed roundFive ↔ v.FiveDecimals := by
  cases v with
  | float x =>
    rw [FiveDecimals, ← PyFloat.round_eq_self_iff (by decide), eq_comm]
    simp only [parsed, id, Nest.float.injEq]
    rfl
  | int n => cases h
  | seq kind elems => cases h

/-! ### Lists -/

theorem parsedList_eq (f : PyFloat → PyFloat) (elems : List Nest) :
    parsedList f elems = elems.map (parsed f) := by
  induction elems with
  | nil => rfl
  | cons x elems ih => rw [parsedList, ih, List.map_cons]

mutual

/-- Coordinates that agree in two respects agree in what these determine. -/
theorem parsed_congr_iff {f g h : PyFloat → PyFloat}
    (hfg : ∀ x y, f x = f y ↔ g x = g y ∧ h x = h y) : ∀ c d : Nest,
    c.parsed f = d.parsed f ↔ c.parsed g = d.parsed g ∧ c.parsed h = d.parsed h
  | .int m, .int n => by simp [parsed, hfg]
  | .int m, .float y => by simp [parsed, hfg]
  | .float x, .int n => by simp [parsed, hfg]
  | .float x, .float y => by simp [parsed, hfg]
  | .seq _ xs, .seq _ ys => by simp [parsed, parsedList_congr_iff hfg xs ys]
  | .int m, .seq _ ys => by simp [parsed]
  | .float x, .seq _ ys => by simp [parsed]
  | .seq _ xs, .int n => by simp [parsed]
  | .seq _ xs, .float y => by simp [parsed]

theorem parsedList_congr_iff {f g h : PyFloat → PyFloat}
    (hfg : ∀ x y, f x = f y ↔ g x = g y ∧ h x = h y) : ∀ xs ys : List Nest,
    parsedList f xs = parsedList f ys ↔
      parsedList g xs = parsedList g ys ∧ parsedList h xs = parsedList h ys
  | [], [] => by simp [parsedList]
  | [], y :: ys => by simp [parsedList]
  | x :: xs, [] => by simp [parsedList]
  | x :: xs, y :: ys => by
    simp only [parsedList, List.cons.injEq, parsed_congr_iff hfg x y,
      parsedList_congr_iff hfg xs ys]
    tauto

end

theorem lowerPrecision_eq (data : List Nest) : lowerPrecision data = data.mapM lowerObj := by
  induction data with
  | nil => rfl
  | cons obj data ih => rw [lowerPrecision, ih, List.mapM_cons]

/-- A list comes back element by element. -/
theorem exists_mapM_iff {f : Nest → Except PyError Nest} {xs : List Nest} :
    (∃ ys, xs.mapM f = .ok ys ∧ ys.map (parsed id) = xs.map (parsed roundFive) ∧
      ys.mapM f = .ok ys) ↔ ∀ x ∈ xs, LowersPrecision f x := by
  induction xs with
  | nil => exact ⟨fun _ _ hx => absurd hx List.not_mem_nil, fun _ => ⟨[], rfl, rfl, rfl⟩⟩
  | cons x xs ih =>
    rw [List.forall_mem_cons, ← ih]
    simp only [List.mapM_cons, bind_eq_ok_iff, pure_eq_ok]
    constructor
    · rintro ⟨_, ⟨y, hy, ys, hys, rfl⟩, hparsed, hagain⟩
      rw [List.map_cons, List.map_cons, List.cons.injEq] at hparsed
      simp only [List.mapM_cons, bind_eq_ok_iff, pure_eq_ok, List.cons.injEq] at hagain
      obtain ⟨y', hy', ys', hys', rfl, rfl⟩ := hagain
      exact ⟨⟨y, hy, hparsed.1, hy'⟩, ys, hys, hparsed.2, hys'⟩
    · rintro ⟨⟨y, hy, hparsed, hy'⟩, ys, hys, hparsedList, hys'⟩
      refine ⟨y :: ys, ⟨y, hy, ys, hys, rfl⟩, ?_, ?_⟩
      · rw [List.map_cons, List.map_cons, hparsed, hparsedList]
      · simp only [List.mapM_cons, bind_eq_ok_iff, pure_eq_ok]
        exact ⟨y, hy', ys, hys', rfl⟩

/-- A number among the elements that is not a float ends the walk. -/
theorem lowerPrecision_numbers {elems : List Nest} (hnum : ∀ x ∈ elems, x.isNumber)
    {elems' : List Nest} : lowerPrecision elems = .ok elems' ↔
      (∀ x ∈ elems, x.isFloat) ∧ elems' = elems := by
  rw [lowerPrecision_eq]
  induction elems generalizing elems' with
  | nil => simp [pure_eq_ok]
  | cons x elems ih =>
    rw [List.forall_mem_cons] at hnum ⊢
    simp only [List.mapM_cons, bind_eq_ok_iff, pure_eq_ok, ih hnum.2]
    cases x with
    | int n => simp [lowerObj, isFloat]
    | float x =>
      simp only [lowerObj, isFloat, Except.ok.injEq, true_and]
      constructor
      · rintro ⟨_, rfl, _, ⟨hall, rfl⟩, rfl⟩
        exact ⟨hall, rfl⟩
      · rintro ⟨hall, rfl⟩
        exact ⟨_, rfl, _, ⟨hall, rfl⟩, rfl⟩
    | seq kind elems => exact absurd hnum.1 (by simp [isNumber])

theorem map_parsed_eq_iff {elems : List Nest} (hfloat : ∀ x ∈ elems, x.isFloat) :
    elems.map (parsed id) = elems.map (parsed roundFive) ↔ ∀ x ∈ elems, x.FiveDecimals := by
  rw [List.map_inj_left]
  exact forall₂_congr fun x hx => parsed_eq_iff (hfloat x hx)

/-! ### One object -/

theorem lowersPrecision_position {kind : SeqKind} {elems : List Nest}
    (hnum : ∀ x ∈ elems, x.isNumber) :
    LowersPrecision lowerObj (.seq kind elems) ↔ Lowerable kind elems := by
  by_cases hfloat : ∀ x ∈ elems, x.isFloat
  · have hall : elems.all isFloat := List.all_eq_true.2 hfloat
    cases kind with
    | list =>
      have hround : (elems.map roundFloat).all isFloat := by
        simpa [List.all_map, Function.comp_def, isFloat_roundFloat] using hfloat
      refine iff_of_true ⟨.seq .list (elems.map roundFloat), ?_, ?_, ?_⟩ ⟨hfloat, by simp⟩
      · simp only [lowerObj, hall, if_true]
      · simp only [parsed, parsedList_eq, List.map_map]
        exact congrArg _ (List.map_congr_left fun x hx => parsed_roundFloat (hfloat x hx))
      · simp only [lowerObj, hround, if_true, List.map_map, Function.comp_def,
          roundFloat_roundFloat]
    | tuple =>
      have hok : lowerObj (.seq .tuple elems) = .ok (.seq .tuple elems) := by
        simp only [lowerObj, hall, if_true]
      have hparsed : (seq .tuple elems).parsed id = (seq .tuple elems).parsed roundFive ↔
          ∀ x ∈ elems, x.FiveDecimals := by
        simp only [parsed, parsedList_eq, Nest.seq.injEq, true_and]
        exact map_parsed_eq_iff hfloat
      constructor
      · rintro ⟨c', hc', heq, -⟩
        obtain rfl : Nest.seq .tuple elems = c' := Except.ok.inj (hok.symm.trans hc')
        exact ⟨hfloat, fun _ => hparsed.1 heq⟩
      · rintro ⟨-, hrounded⟩
        exact ⟨_, hok, hparsed.2 (hrounded rfl), hok⟩
  · have hall : ¬ elems.all isFloat := fun h => hfloat (List.all_eq_true.1 h)
    refine iff_of_false ?_ fun h => hfloat h.1
    rintro ⟨c', hc', -⟩
    simp only [lowerObj, if_neg hall] at hc'
    obtain ⟨elems', helems, -⟩ := bind_eq_ok hc'
    exact hfloat ((lowerPrecision_numbers hnum).1 helems).1

theorem Positions.exists_seq {P : SeqKind → List Nest → Prop} {x : Nest} (h : Positions P x) :
    ∃ kind elems, x = .seq kind elems := by
  cases h with
  | position => exact ⟨_, _, rfl⟩
  | seq => exact ⟨_, _, rfl⟩

theorem not_all_isFloat {P : SeqKind → List Nest → Prop} {elems : List Nest} (hne : elems ≠ [])
    (h : ∀ x ∈ elems, Positions P x) : ¬ elems.all isFloat := by
  intro hall
  obtain ⟨x, hx⟩ := List.exists_mem_of_ne_nil elems hne
  obtain ⟨kind, inner, rfl⟩ := (h x hx).exists_seq
  exact absurd (List.all_eq_true.1 hall _ hx) (by simp [isFloat])

/-- No object turns into a float, or from one into something else. -/
theorem isFloat_lowerObj {x y : Nest} (h : lowerObj x = .ok y) : y.isFloat = x.isFloat := by
  cases x with
  | int n => cases h
  | float x => rw [← Except.ok.inj h]
  | seq kind elems =>
    simp only [lowerObj] at h
    split_ifs at h
    · cases kind with
      | list => rw [← Except.ok.inj h]; rfl
      | tuple => rw [← Except.ok.inj h]
    · obtain ⟨elems', -, hy⟩ := bind_eq_ok h
      rw [pure_eq_ok.1 hy]
      rfl

theorem lowerObj_seq {kind : SeqKind} {elems : List Nest} (hall : ¬ elems.all isFloat)
    {c : Nest} : lowerObj (.seq kind elems) = .ok c ↔
      ∃ elems', elems.mapM lowerObj = .ok elems' ∧ c = .seq kind elems' := by
  simp only [lowerObj, if_neg hall, lowerPrecision_eq, bind_eq_ok_iff, pure_eq_ok]

/-- A sequence of sequences is lowered if they are. -/
theorem lowersPrecision_seq {kind : SeqKind} {elems : List Nest}
    (h : ∀ x ∈ elems, Positions (fun _ _ => True) x) :
    LowersPrecision lowerObj (.seq kind elems) ↔ ∀ x ∈ elems, LowersPrecision lowerObj x := by
  by_cases hne : elems = []
  · subst hne
    refine iff_of_true ?_ (by simp)
    cases kind <;> exact ⟨_, rfl, rfl, rfl⟩
  · have hall : ¬ elems.all isFloat := not_all_isFloat hne h
    have hall' {elems' : List Nest} (helems : elems.mapM lowerObj = .ok elems') :
        ¬ elems'.all isFloat := by
      have hmap : elems'.map isFloat = elems.map isFloat :=
        map_of_mapM_eq_ok helems fun _ _ => isFloat_lowerObj
      have heq := congrArg (fun bs : List Bool => bs.all id) hmap
      simp only [List.all_map, Function.id_comp] at heq
      rwa [heq]
    rw [← exists_mapM_iff]
    constructor
    · rintro ⟨c', hc', hparsed, hagain⟩
      obtain ⟨elems', helems, rfl⟩ := (lowerObj_seq hall).1 hc'
      obtain ⟨elems'', hagain, heq⟩ := (lowerObj_seq (hall' helems)).1 hagain
      obtain rfl : elems' = elems'' := by simpa using heq
      simp only [parsed, parsedList_eq, Nest.seq.injEq, true_and] at hparsed
      exact ⟨elems', helems, hparsed, hagain⟩
    · rintro ⟨elems', helems, hparsed, hagain⟩
      refine ⟨.seq kind elems', (lowerObj_seq hall).2 ⟨elems', helems, rfl⟩, ?_,
        (lowerObj_seq (hall' helems)).2 ⟨elems', hagain, rfl⟩⟩
      simp only [parsed, parsedList_eq, hparsed]

theorem positions_lowerable_position {kind : SeqKind} {elems : List Nest} (hne : elems ≠ [])
    (hnum : ∀ x ∈ elems, x.isNumber) :
    Positions Lowerable (.seq kind elems) ↔ Lowerable kind elems := by
  constructor
  · intro h
    cases h with
    | position _ _ hlow => exact hlow
    | seq h =>
      obtain ⟨x, hx⟩ := List.exists_mem_of_ne_nil elems hne
      obtain ⟨kind, inner, rfl⟩ := (h x hx).exists_seq
      exact absurd (hnum _ hx) (by simp [isNumber])
  · exact fun h => .position hne hnum h

theorem positions_lowerable_seq {kind : SeqKind} {elems : List Nest}
    (hseq : ∀ x ∈ elems, Positions (fun _ _ => True) x) :
    Positions Lowerable (.seq kind elems) ↔ ∀ x ∈ elems, Positions Lowerable x := by
  constructor
  · intro h
    cases h with
    | position hne hnum _ =>
      obtain ⟨x, hx⟩ := List.exists_mem_of_ne_nil elems hne
      obtain ⟨kind, inner, rfl⟩ := (hseq x hx).exists_seq
      exact absurd (hnum _ hx) (by simp [isNumber])
    | seq h => exact h
  · exact fun h => .seq h

/-- **One object** is lowered exactly if all its positions can be. -/
theorem lowersPrecision_lowerObj {x : Nest} (h : Positions (fun _ _ => True) x) :
    LowersPrecision lowerObj x ↔ Positions Lowerable x := by
  induction h with
  | position hne hnum _ =>
    rw [lowersPrecision_position hnum, positions_lowerable_position hne hnum]
  | seq h ih =>
    rw [lowersPrecision_seq h, positions_lowerable_seq h]
    exact forall₂_congr ih

/-! ### The validators -/

/-- A validator that goes through the elements of a sequence. -/
theorem lowersPrecision_of_mapM {validator f : Nest → Except PyError Nest} {kind : SeqKind}
    (hvalidator : ∀ elems, validator (.seq kind elems) =
      elems.mapM f >>= fun elems => return .seq kind elems) {elems : List Nest} :
    LowersPrecision validator (.seq kind elems) ↔ ∀ x ∈ elems, LowersPrecision f x := by
  rw [← exists_mapM_iff]
  simp only [LowersPrecision, hvalidator, bind_eq_ok_iff, pure_eq_ok]
  constructor
  · rintro ⟨_, ⟨elems', helems, rfl⟩, hparsed, hagain⟩
    simp only [parsed, parsedList_eq, Nest.seq.injEq, true_and] at hparsed
    simp only [hvalidator, bind_eq_ok_iff, pure_eq_ok, Nest.seq.injEq, true_and,
      exists_eq_right'] at hagain
    exact ⟨elems', helems, hparsed, hagain⟩
  · rintro ⟨elems', helems, hparsed, hagain⟩
    refine ⟨_, ⟨elems', helems, rfl⟩, ?_, ?_⟩
    · simp only [parsed, parsedList_eq, hparsed]
    · rw [hvalidator, hagain, ok_bind]
      rfl

theorem lowersPrecision_lowerEle {kind : SeqKind} {elems : List Nest}
    (h : ∀ x ∈ elems, Positions (fun _ _ => True) x) :
    LowersPrecision lowerEle (.seq kind elems) ↔ ∀ x ∈ elems, Positions Lowerable x := by
  have hele (elems : List Nest) : lowerEle (.seq kind elems) =
      elems.mapM lowerObj >>= fun elems => return .seq kind elems := by
    rw [lowerEle, lowerPrecision_eq]
  rw [lowersPrecision_of_mapM hele]
  exact forall₂_congr fun x hx => lowersPrecision_lowerObj (h x hx)

/-- **Polygons** come back rounded exactly if all their positions are lists of floats, or tuples of
floats with no more than five decimals. -/
theorem lowPrecision_polygon_iff {c : Nest} (h : Polygon (fun _ _ => True) c) :
    LowersPrecision LowResPolygon.lowPrecision c ↔ Polygon Lowerable c := by
  obtain ⟨kind, rings, rfl, hrings⟩ := h
  have hiff : Polygon Lowerable (.seq kind rings) ↔ ∀ r ∈ rings, LowersPrecision lowerEle r := by
    constructor
    · rintro ⟨_, _, heq, hlow⟩ r hr
      obtain ⟨rfl, rfl⟩ := Nest.seq.inj heq
      obtain ⟨kind', elems, rfl, hwf⟩ := hrings r hr
      obtain ⟨_, _, heq, helems⟩ := hlow _ hr
      obtain ⟨rfl, rfl⟩ := Nest.seq.inj heq
      exact (lowersPrecision_lowerEle hwf).2 helems
    · intro hall
      refine ⟨kind, rings, rfl, fun r hr => ?_⟩
      obtain ⟨kind', elems, rfl, hwf⟩ := hrings r hr
      exact ⟨kind', elems, rfl, (lowersPrecision_lowerEle hwf).1 (hall _ hr)⟩
  rw [hiff]
  exact lowersPrecision_of_mapM fun _ => rfl

/-- **Points** are never rounded: they come back rounded exactly if they already are. -/
theorem lowPrecision_point_iff {c : Nest} (h : Point (fun _ => True) c) :
    LowersPrecision LowResPoint.lowPrecision c ↔ Point Rounded c := by
  obtain ⟨kind, elems, rfl, hne, hnum, -⟩ := h
  have hlower {c' : Nest} : LowResPoint.lowPrecision (.seq kind elems) = .ok c' ↔
      (∀ x ∈ elems, x.isFloat) ∧ c' = .seq .list elems := by
    simp only [LowResPoint.lowPrecision, lowerEle, bind_eq_ok_iff, lowerPrecision_numbers hnum,
      pure_eq_ok]
    constructor
    · rintro ⟨_, ⟨hfloat, rfl⟩, rfl⟩
      exact ⟨hfloat, rfl⟩
    · rintro ⟨hfloat, rfl⟩
      exact ⟨_, ⟨hfloat, rfl⟩, rfl⟩
  constructor
  · rintro ⟨c', hc', hparsed, -⟩
    obtain ⟨hfloat, rfl⟩ := hlower.1 hc'
    simp only [parsed, parsedList_eq, Nest.seq.injEq, true_and] at hparsed
    have hround := (map_parsed_eq_iff hfloat).1 hparsed
    exact ⟨kind, elems, rfl, hne, hnum, hround⟩
  · rintro ⟨_, _, heq, -, -, hround⟩
    obtain ⟨rfl, rfl⟩ := Nest.seq.inj heq
    have hok : LowResPoint.lowPrecision (.seq kind elems) = .ok (.seq .list elems) :=
      hlower.2 ⟨fun x hx => (hround x hx).isFloat, rfl⟩
    refine ⟨_, hok, ?_, hok⟩
    simp only [parsed, parsedList_eq, Nest.seq.injEq, true_and]
    exact (map_parsed_eq_iff fun x hx => (hround x hx).isFloat).2 hround

/-- **When coordinates are lowered in their precision.**  Those of a polygon exactly if each
position is a list of floats, or a tuple of floats with no more than five decimals; those of a point
exactly if they already are.  Coordinates that are lowered and differ only beyond the fifth decimal
have the same hash exactly if the numbers that are rounded to zero have the same signs. -/
theorem lowPrecision_iff {Digest : Type} (hash : Nest → Digest) (c d : Nest) :
    (Polygon (fun _ _ => True) c →
      (LowersPrecision LowResPolygon.lowPrecision c ↔ Polygon Lowerable c)) ∧
    (Point (fun _ => True) c →
      (LowersPrecision LowResPoint.lowPrecision c ↔ Point Rounded c)) ∧
    ∀ (validator : Nest → Except PyError Nest) (c' d' : Nest), LowersPrecision validator c →
      LowersPrecision validator d → validator c = .ok c' → validator d = .ok d' →
      (hash (c'.parsed id) = hash (d'.parsed id) → c'.parsed id = d'.parsed id) →
      c.SameToFive d → (hash (c'.parsed id) = hash (d'.parsed id) ↔ c.SameZeroSigns d) := by
  refine ⟨lowPrecision_polygon_iff, lowPrecision_point_iff, ?_⟩
  rintro validator c' d' ⟨e, he, hparsed, -⟩ ⟨e', he', hparsed', -⟩ hc hd hhash hsame
  obtain rfl : e = c' := Except.ok.inj (he.symm.trans hc)
  obtain rfl : e' = d' := Except.ok.inj (he'.symm.trans hd)
  have hiff : e.parsed id = e'.parsed id ↔ c.SameZeroSigns d := by
    rw [hparsed, hparsed', parsed_congr_iff roundFive_eq_iff]
    exact and_iff_right hsame
  exact ⟨fun h => hiff.1 (hhash h), fun h => congrArg hash (hiff.2 h)⟩

/-- A ring with two positions in lists, one of them with too many decimals, and a point of the test
data. -/
theorem lowersPrecision_floats :
    LowersPrecision LowResPolygon.lowPrecision
      (.seq .list [.seq .list [.seq .list [.float (.ofRat (-122.4660614)),
        .float (.ofRat 47.1946356)], .seq .list [.float (.ofRat (-122.5)), .float (.ofRat 47)]]]) ∧
    LowersPrecision LowResPoint.lowPrecision
      (.seq .list [.float (.ofRat (-122.473)), .float (.ofRat 47.255)]) := by
  let c : Nest := .seq .list [.seq .list [.seq .list [.float (.ofRat (-122.4660614)),
    .float (.ofRat 47.1946356)], .seq .list [.float (.ofRat (-122.5)), .float (.ofRat 47)]]]
  let p : Nest := .seq .list [.float (.ofRat (-122.473)), .float (.ofRat 47.255)]
  have hposition (x y : PyFloat) : Positions Lowerable (.seq .list [.float x, .float y]) :=
    .position (by simp) (by simp [isNumber]) ⟨by simp [isFloat], by simp⟩
  have hwf (x y : PyFloat) : Positions (fun _ _ => True) (.seq .list [.float x, .float y]) :=
    .position (by simp) (by simp [isNumber]) trivial
  have hrounded : Rounded [.float (.ofRat (-122.473)), .float (.ofRat 47.255)] := by
    rintro x hx
    rcases List.mem_cons.1 hx with rfl | hx
    · exact PyFloat.hasDecimals_ofRat (k := -12247300) (by norm_num)
    · rw [List.mem_singleton.1 hx]
      exact PyFloat.hasDecimals_ofRat (k := 4725500) (by norm_num)
  constructor
  · refine ((lowPrecision_iff id c c).1 ⟨.list, _, rfl, ?_⟩).2 ⟨.list, _, rfl, ?_⟩
    · rintro r hr
      rw [List.mem_singleton.1 hr]
      exact ⟨.list, _, rfl, by simp [hwf]⟩
    · rintro r hr
      rw [List.mem_singleton.1 hr]
      exact ⟨.list, _, rfl, by simp [hposition]⟩
  · exact ((lowPrecision_iff id p p).2.1 ⟨.list, _, rfl, by simp, by simp [isNumber], trivial⟩).2
      ⟨.list, _, rfl, by simp, by simp [isNumber], hrounded⟩

/-- `0.000001` and `-0.000001`, as JSON texts have them. -/
def millionth (negative : Bool) : PyFloat := .ofRat (if negative then -0.000001 else 0.000001)

/-- A millionth is not zero, and rounded to zero. -/
theorem exists_millionth (negative : Bool) : ∃ x : Binary binary64,
    millionth negative = .finite x ∧ x.negative = negative ∧ x.magnitude ≠ 0 ∧
      x.magnitude ≤ 1 / 200000 := by
  have hrepr : ∀ e : ℤ, -1074 ≤ e → binary64.nearest ((2 : ℚ) ^ e) = 2 ^ e :=
    fun e he => binary64.nearest_two_zpow he
  have hlow : (2 : ℚ) ^ (-20 : ℤ) ≤ binary64.nearest 0.000001 :=
    BinaryFormat.le_nearest (zpow_pos two_pos _) (by norm_num) (hrepr _ (by decide))
  have hhigh : binary64.nearest (0.000001 : ℚ) ≤ 2 ^ (-18 : ℤ) :=
    BinaryFormat.nearest_le (by norm_num) (by norm_num) (hrepr _ (by decide))
  let x : Binary binary64 := ⟨negative, binary64.nearest 0.000001,
    BinaryFormat.nearest_nonneg (by norm_num), BinaryFormat.nearest_nearest _,
    hhigh.trans_lt (zpow_lt_zpow_right₀ one_lt_two (by decide))⟩
  refine ⟨x, ?_, rfl, ?_, ?_⟩
  · have hfinite : ∀ q : ℚ, |q| = 0.000001 → (q < 0 ↔ negative = true) → q ≠ 0 →
        PyFloat.ofRat q = .finite x := by
      intro q habs hneg hne
      refine Binary.round_eq_finite.2 ⟨?_, by rw [habs]; rfl⟩
      rw [if_neg hne]
      exact Bool.eq_iff_iff.2 (decide_eq_true_iff.trans hneg)
    cases negative
    · exact hfinite _ (by norm_num) (by norm_num) (by norm_num)
    · exact hfinite _ (by norm_num) (by norm_num) (by norm_num)
  · exact ((zpow_pos two_pos _).trans_le hlow).ne'
  · refine hhigh.trans ?_
    norm_num

theorem not_fiveDecimals_millionth : ¬ (Nest.float (millionth false)).FiveDecimals := by
  obtain ⟨x, hx, -, hne, hle⟩ := exists_millionth false
  obtain ⟨x', hround, -, hzero⟩ := exists_roundFive_finite x
  intro h
  rw [hx, FiveDecimals, ← PyFloat.round_eq_self_iff (by decide)] at h
  obtain rfl := Extended.finite.inj (hround.symm.trans h)
  exact hne (hzero.2 hle)

/-- A ring with one position in a list. -/
def ring (position : List Nest) : Nest := .seq .list [.seq .list [.seq .list position]]

/-- A whole degree ends in a `TypeError`, a position in a tuple stays as it is, and so does every
point.  Two rings that differ beyond the fifth decimal are two if this makes a sign. -/
theorem not_lowersPrecision :
    LowResPolygon.lowPrecision (ring [.int (-122), .float (.ofRat 47.5)]) = .error .typeError ∧
    ¬ LowersPrecision LowResPolygon.lowPrecision (ring [.int (-122), .float (.ofRat 47.5)]) ∧
    ¬ LowersPrecision LowResPolygon.lowPrecision
      (.seq .list [.seq .list [.seq .tuple [.float (millionth false), .float (.ofRat 47.5)]]]) ∧
    ¬ LowersPrecision LowResPoint.lowPrecision
      (.seq .list [.float (millionth false), .float (.ofRat 47.5)]) ∧
    ¬ LowersPrecision LowResPoint.lowPrecision (.seq .list [.int 10, .float (.ofRat 47.5)]) ∧
    (ring [.float (millionth false), .float (.ofRat 47.5)]).SameToFive
      (ring [.float (millionth true), .float (.ofRat 47.5)]) ∧
    LowResPolygon.lowPrecision (ring [.float (millionth false), .float (.ofRat 47.5)]) ≠
      LowResPolygon.lowPrecision (ring [.float (millionth true), .float (.ofRat 47.5)]) := by
  have hround := not_fiveDecimals_millionth
  have hparsed : (Nest.float (millionth false)).parsed id ≠
      (Nest.float (millionth false)).parsed roundFive :=
    fun h => hround ((parsed_eq_iff rfl).1 h)
  refine ⟨rfl, ?_, ?_, ?_, ?_, ?_, ?_⟩
  · rintro ⟨c', hc', -⟩
    cases hc'
  · let c : Nest :=
      .seq .list [.seq .list [.seq .tuple [.float (millionth false), .float (.ofRat 47.5)]]]
    have hc : LowResPolygon.lowPrecision c = .ok c := rfl
    rintro ⟨c', hc', heq, -⟩
    obtain rfl : c = c' := Except.ok.inj (hc.symm.trans hc')
    simp only [c, parsed, parsedList, Nest.seq.injEq, List.cons.injEq, true_and, and_true] at heq
    exact hparsed heq.1
  · rintro ⟨c', hc', heq, -⟩
    rw [← Except.ok.inj hc'] at heq
    simp only [parsed, parsedList, Nest.seq.injEq, List.cons.injEq, true_and, and_true] at heq
    exact hparsed heq.1
  · rintro ⟨c', hc', -⟩
    cases hc'
  · have hsame : (unsigned ∘ roundFive) (millionth false) =
        (unsigned ∘ roundFive) (millionth true) := by
      have hzero : ∀ negative, (unsigned ∘ roundFive) (millionth negative) =
          .finite (.zero binary64 false) := by
        intro negative
        obtain ⟨x, hx, -, -, hle⟩ := exists_millionth negative
        obtain ⟨x', hx', -, hzero⟩ := exists_roundFive_finite x
        rw [Function.comp_apply, hx, hx', unsigned, if_pos (hzero.2 hle)]
      rw [hzero, hzero]
    simp only [SameToFive, ring, parsed, parsedList, hsame]
  · intro h
    have hne : roundFive (millionth false) ≠ roundFive (millionth true) := by
      obtain ⟨x, hx, hneg, -⟩ := exists_millionth false
      obtain ⟨y, hy, hneg', -⟩ := exists_millionth true
      obtain ⟨x', hx', hxneg, -⟩ := exists_roundFive_finite x
      obtain ⟨y', hy', hyneg, -⟩ := exists_roundFive_finite y
      rw [hx, hx', hy, hy']
      rintro heq
      obtain rfl := Extended.finite.inj heq
      rw [hneg] at hxneg
      rw [hneg'] at hyneg
      exact absurd (hxneg.symm.trans hyneg) (by decide)
    have heq := Except.ok.inj h
    simp [roundFloat] at heq
    exact hne heq

end Nest

end StormPiper
