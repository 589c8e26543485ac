import Mathlib.Algebra.BigOperators.Fin
import Mathlib.Algebra.Order.Field.Basic
import Mathlib.Data.List.OfFn
import StormPiper.Python.Basic

/-!
# The prioritisation of subbasins

A shallow embedding of `src/decision_support`: PROMETHEE II with its preference functions, in
exact arithmetic over an ordered field.

An array whose shape is fixed is a function on its indices.  The request has one weight and one
direction for each criterion, so the arrays of criteria have the columns of the matrix as their
indices; the lists whose length the code checks are lists.

## Main definitions

* `PREFERENCE_FUNCTIONS` : the preference functions by their names.
* `unicriterionFlow`, `multicriterionFlow`, `weightedMulticriterionFlow`, `promIi` : the flows.
* `minmaxNormalization`, `runPrometheeIi` : the scores.
-/

namespace StormPiper

section Arrays

variable {α K : Type}

/-- `numpy.arange(start, stop, step)` for numbers that are not negative. -/
def npArangeNat (start stop step : ℕ) : Except PyError (List ℕ) :=
  if step = 0 then .error .zeroDivisionError
  else .ok (List.range' start ((stop - start + step - 1) / step) step)

/-- `numpy.array_split(array, indices)`: the parts between each index and the next one. -/
def arraySplit (array : List α) (indices : List ℕ) : List (List α) :=
  ((0 :: indices).zip (indices ++ [array.length])).map fun s => (array.take s.2).drop s.1

/-- `array[start:stop] += values`.  The slice ends with the array, and values of another shape than
the slice are refused, except that a single value is added to the whole slice. -/
def sliceAdd [AddMonoid K] {N : ℕ} (array : Fin N → K) (start stop : ℕ) (values : List K) :
    Except PyError (Fin N → K) :=
  if values.length = min stop N - start ∨ values.length = 1 then
    .ok fun t =>
      if start ≤ t ∧ t < stop then
        array t + values.getD (if values.length = 1 then 0 else t - start) 0
      else array t
  else .error .valueError

/-- `for i in range(n)`, where `body` gives what is added at `i` to two arrays of zeros. -/
def accumulate {β : Type} [AddMonoid β] {n : ℕ} (body : Fin n → Except PyError (β × β)) :
    Except PyError ((Fin n → β) × (Fin n → β)) :=
  (List.finRange n).foldlM (fun arrays i => do
    let (plus, minus) ← body i
    .ok (Function.update arrays.1 i (arrays.1 i + plus),
      Function.update arrays.2 i (arrays.2 i + minus))) (fun _ => 0, fun _ => 0)

end Arrays

/-! ### The preference functions -/

section Preference

variable {K : Type} [Field K] [LinearOrder K]

/-- `usual` -/
def usual (d _q _p : K) : K := if 0 < d then 1 else 0

/-- `ushape` -/
def ushape (d q _p : K) : K := if q < d then 1 else 0

/-- `vshape_2` -/
def vshape2 (d q p : K) : K :=
  if q < d ∧ d ≤ p then (d - q) / (if q < p then p - q else 1) else if p < d then 1 else 0

/-- `vshape` -/
def vshape (d _q p : K) : K :=
  if 0 < d ∧ d ≤ p then d / (if 0 < p then p else 1) else if p < d then 1 else 0

/-- `level` -/
def level (d q p : K) : K :=
  if q < d ∧ d ≤ p then 1 / 2 else if p < d then 1 else 0

/-- `PREFERENCE_FUNCTIONS` -/
def PREFERENCE_FUNCTIONS : List (String × (K → K → K → K)) :=
  [("usual", usual), ("ushape", ushape), ("vshape", vshape), ("vshape_2", vshape2),
    ("level", level), ("linear", vshape2)]

end Preference

/-! ### The checks of the parameters -/

section Checks

/-- `check_param_length`: the array with its length. -/
def checkParamLength {α : Type} (arr : List α) (M : ℕ) : Except PyError (Fin M → α) :=
  if h : arr.length = M then .ok fun k => arr.get (k.cast h.symm) else .error .valueError

/-- The argument `pref_function`. -/
inductive PrefFunction where
  | none
  | str (name : String)
  | list (names : List String)
  deriving Repr, DecidableEq

/-- `check_pref_fxn`. -/
def checkPrefFxn (K : Type) [Field K] [LinearOrder K] (prefFunction : PrefFunction) (M : ℕ) :
    Except PyError (Fin M → String) := do
  let names :=
    match prefFunction with
    | .none => List.replicate M "usual"
    | .str name => List.replicate M name
    | .list names => names
  let names ← checkParamLength names M
  if ∀ k, names k ∈ (PREFERENCE_FUNCTIONS (K := K)).map Prod.fst then .ok names
  else .error .valueError

end Checks

section Flows

variable {K : Type} [Field K] [LinearOrder K]

/-- `check_weights`. -/
def checkWeights {M : ℕ} (weights : Fin M → K) : Except PyError (Fin M → K) :=
  if ∀ k, 0 ≤ weights k then
    .ok (if 0 < ∑ k, weights k then fun k => weights k / ∑ l, weights l else weights)
  else .error .assertionError

/-- `minmax_normalization`. -/
def minmaxNormalization {N : ℕ} (arr : Fin N → K) : Except PyError (Fin N → K) :=
  match (List.ofFn arr).min?, (List.ofFn arr).max? with
  | some lo, some hi =>
    .ok (if hi - lo = 0 then fun _ => 1 else fun i => (arr i - lo) / (hi - lo))
  | _, _ => .error .valueError

/-! ### The flows -/

/-- The loop of `unicriterion_flow` over the chunks, for the alternative with the value `c`. -/
def splitFlows (N : ℕ) (chunks : List (List K)) (c : K) (fxn : K → K → K → K) (q p : K) :
    Except PyError ((Fin N → K) × (Fin N → K)) :=
  chunks.zipIdx.foldlM (fun splits (chunk : List K × ℕ) => do
    let (arr, j) := chunk
    let n := arr.length
    let diff := arr.map fun x => c - x
    -- the slice starts at the number of the chunk, not at its offset
    let splitsPlus ← sliceAdd splits.1 j (j + n) (diff.map fun d => fxn d q p)
    let splitsMinus ← sliceAdd splits.2 j (j + n) (diff.map fun d => fxn (-d) q p)
    .ok (splitsPlus, splitsMinus)) (fun _ => 0, fun _ => 0)

/-- `unicriterion_flow`, for two or more alternatives. -/
def unicriterionFlow {N : ℕ} (array : Fin N → K) (fxn : K → K → K → K) (q p : K)
    (chunksize : ℕ) : Except PyError ((Fin N → K) × (Fin N → K)) := do
  let chunks := arraySplit (List.ofFn array) (← npArangeNat chunksize N chunksize)
  let (uniflowPlus, uniflowMinus) ← accumulate fun i => do
    let (splitsPlus, splitsMinus) ← splitFlows N chunks (array i) fxn q p
    .ok (∑ t, splitsPlus t, ∑ t, splitsMinus t)
  .ok (fun i => uniflowPlus i / ((N : K) - 1), fun i => uniflowMinus i / ((N : K) - 1))

/-- `multicriterion_flow`. -/
def multicriterionFlow {N M : ℕ} (matrix : Fin N → Fin M → K) (criteriaType : Option (Fin M → ℤ))
    (prefFunction : PrefFunction) (q p : Option (List K)) (chunksize : Option ℕ) :
    Except PyError ((Fin N → Fin M → K) × (Fin N → Fin M → K)) := do
  let prefFunction ← checkPrefFxn K prefFunction M
  -- `astype(numpy.int8)` keeps the last eight bits
  let criteriaType := fun k => ((criteriaType.getD fun _ => 1) k).bmod 256
  let q ← checkParamLength (q.getD (List.replicate M 0)) M
  let p ← checkParamLength (p.getD (List.replicate M 0)) M
  let chunksize := chunksize.getD N
  let matrixT := fun k i => matrix i k * (criteriaType k : K)
  let (prefMatrixPlus, prefMatrixMinus) ← accumulate fun k =>
    unicriterionFlow (matrixT k) ((PREFERENCE_FUNCTIONS.lookup (prefFunction k)).getD usual)
      (q k) (p k) chunksize
  .ok (fun i k => prefMatrixPlus k i, fun i k => prefMatrixMinus k i)

/-- `weighted_multicriterion_flow`. -/
def weightedMulticriterionFlow {N M : ℕ} (multicriterionResults : Fin N → Fin M → K)
    (weights : Fin M → K) : Except PyError ((Fin N → K) × (Fin N → Fin M → K)) := do
  let weights ← checkWeights weights
  let weightedFlow := fun i k => multicriterionResults i k * weights k
  .ok (fun i => ∑ k, weightedFlow i k, weightedFlow)

/-- `prom_ii`. -/
def promIi {N M : ℕ} (matrix : Fin N → Fin M → K) (weights : Fin M → K)
    (criteriaType : Option (Fin M → ℤ)) (prefFunction : PrefFunction) (q p : Option (List K))
    (chunksize : Option ℕ) : Except PyError ((Fin N → K) × (Fin N → Fin M → K)) := do
  let (plus, minus) ← multicriterionFlow matrix criteriaType prefFunction q p chunksize
  weightedMulticriterionFlow (fun i k => plus i k - minus i k) weights

/-- `df[criteria].to_numpy()`. -/
def columnsToNumpy {N M : ℕ} (df : String → Option (Fin N → K)) (criteria : Fin M → String) :
    Except PyError (Fin N → Fin M → K) :=
  if ∀ k, (df (criteria k)).isSome then
    .ok fun i k => ((df (criteria k)).getD fun _ => 0) i
  else .error .keyError

/-- `run_promethee_ii`. -/
def runPrometheeIi {N M : ℕ} (df : String → Option (Fin N → K)) (criteria : Fin M → String)
    (weights : Fin M → K) (types : Fin M → ℤ) : Except PyError (Fin N → K) := do
  let matrix ← columnsToNumpy df criteria
  let prefFuncs := PrefFunction.list (List.replicate M "usual")
  let (scores, _) ← promIi matrix weights (some types) prefFuncs none none none
  let scores ← minmaxNormalization scores
  .ok fun i => scores i * (100 : ℕ)

end Flows

end StormPiper
