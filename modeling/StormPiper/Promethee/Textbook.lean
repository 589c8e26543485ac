import Mathlib.Data.Rat.Floor
import StormPiper.Promethee.Flow
import StormPiper.Ranking.Comparison

/-!
# The flows are those of the textbook

`unicriterion_flow` compares an alternative with the others chunk by chunk, and adds what it finds
for a chunk to a slice of an array of zeros.  The slices overlap, but only the sum of the array is
used.  So no slice has the wrong length, and the flows are the sums over all alternatives, whatever
the size of the chunks.

* `splitFlows_spec` : the sums of the two arrays after the loop over the chunks.
* `unicriterionFlow_eq`, `multicriterionFlow_eq` : the flows as sums.
* `Criterion` : a criterion of an analysis, with what holds of its parameters.
* `promIi_eq_textbook` : the scores.
-/

namespace StormPiper

/-! ### The loops -/

section Loops

/-- A loop that adds to each entry once. -/
theorem accumulate_eq_ok {β : Type} [AddMonoid β] {n : ℕ} {body : Fin n → Except PyError (β × β)}
    {f g : Fin n → β} (h : ∀ i, body i = .ok (f i, g i)) : accumulate body = .ok (f, g) := by
  -- the loop is generalised over the two arrays, an index is only met once
  have hloop : ∀ (is : List (Fin n)) (plus minus : Fin n → β), is.Nodup →
      is.foldlM (fun arrays i => body i >>= fun x =>
        .ok (Function.update arrays.1 i (arrays.1 i + x.1),
          Function.update arrays.2 i (arrays.2 i + x.2))) (plus, minus) =
      (.ok (fun i => if i ∈ is then plus i + f i else plus i,
        fun i => if i ∈ is then minus i + g i else minus i) : Except PyError _) := by
    intro is
    induction is with
    | nil => intro plus minus _; simp [pure, Except.pure]
    | cons a is ih =>
      intro plus minus hnodup
      obtain ⟨ha, his⟩ := List.nodup_cons.1 hnodup
      rw [List.foldlM_cons, h a]
      refine (ih _ _ his).trans (congrArg Except.ok (Prod.ext ?_ ?_))
      all_goals
        funext i
        by_cases hi : i = a
        · subst hi
          simp [ha]
        · simp [hi]
  have hall := hloop (List.finRange n) (fun _ => 0) (fun _ => 0) (List.nodup_finRange n)
  simp only [List.mem_finRange, if_true, zero_add] at hall
  exact hall

variable {K : Type} [AddCommMonoid K] {N : ℕ}

/-- What is added to a slice is added to the sum. -/
theorem sliceAdd_spec (start : ℕ) (values : List K) (h : start + values.length ≤ N)
    (array : Fin N → K) : ∃ array', sliceAdd array start (start + values.length) values =
        .ok array' ∧ ∑ t, array' t = ∑ t, array t + values.sum := by
  have hlen : values.length = min (start + values.length) N - start := by omega
  refine ⟨_, if_pos (.inl hlen), ?_⟩
  have hsum : values.sum = ∑ t : Fin N,
      if start ≤ t ∧ t < start + values.length then values.getD (t - start) 0 else 0 := by
    rw [← Fin.sum_univ_getElem]
    refine Fintype.sum_of_injective (fun t => ⟨start + t, by omega⟩) ?_ _ _ ?_ ?_
    · intro t u htu
      have := congrArg Fin.val htu
      exact Fin.ext (by simpa using this)
    · intro t ht
      refine if_neg fun hin => ht ⟨⟨t - start, by omega⟩, Fin.ext ?_⟩
      exact Nat.add_sub_cancel' hin.1
    · intro t
      simp
  rw [hsum, ← Finset.sum_add_distrib]
  refine Finset.sum_congr rfl fun t _ => ?_
  by_cases hin : start ≤ (t : ℕ) ∧ (t : ℕ) < start + values.length
  · -- a single value stands at the start of its slice
    have hat : (if values.length = 1 then 0 else (t : ℕ) - start) = t - start := by
      split_ifs <;> omega
    rw [if_pos hin, if_pos hin, hat]
  · rw [if_neg hin, if_neg hin, add_zero]

end Loops

/-! ### The chunks -/

section Chunks

variable {α : Type}

/-- The parts of an array from `start` on, cut every `step` places. -/
theorem arraySplit_range (array : List α) (step n : ℕ) :
    ∀ start, (((start :: List.range' (start + step) n step).zip
      (List.range' (start + step) n step ++ [array.length])).map fun s =>
        (array.take s.2).drop s.1).flatten = array.drop start := by
  induction n with
  | zero => intro start; simp
  | succ n ih =>
    intro start
    rw [List.range'_succ, List.cons_append, List.zip_cons_cons, List.map_cons, List.flatten_cons,
      ih (start + step), List.drop_take, Nat.add_sub_cancel_left, ← List.drop_drop,
      List.take_append_drop]

theorem flatten_arraySplit (array : List α) (step n : ℕ) :
    (arraySplit array (List.range' step n step)).flatten = array := by
  have h := arraySplit_range array step n 0
  rwa [Nat.zero_add, List.drop_zero] at h

/-- A chunk fits into the array at the place of its number. -/
theorem number_add_length_le {array : List α} {step n : ℕ} (hstep : 1 ≤ step) :
    ∀ start number, number ≤ start → start + n * step ≤ array.length →
      ∀ chunk ∈ (((start :: List.range' (start + step) n step).zip
        (List.range' (start + step) n step ++ [array.length])).map fun s =>
          (array.take s.2).drop s.1).zipIdx number, chunk.2 + chunk.1.length ≤ array.length := by
  induction n with
  | zero =>
    intro start number hnumber hstart chunk hchunk
    simp only [List.range'_zero, List.nil_append, List.zip_cons_cons, List.zip_nil_left,
      List.map_cons, List.map_nil, List.zipIdx_cons, List.zipIdx_nil, List.mem_singleton] at hchunk
    subst hchunk
    simp only [List.length_drop, List.length_take]
    omega
  | succ n ih =>
    intro start number hnumber hstart chunk hchunk
    have hmul : (n + 1) * step = n * step + step := by ring
    rw [List.range'_succ, List.cons_append, List.zip_cons_cons, List.map_cons, List.zipIdx_cons,
      List.mem_cons] at hchunk
    rcases hchunk with rfl | hchunk
    · simp only [List.length_drop, List.length_take]
      omega
    · -- the next chunk starts at least one place later
      exact ih (start + step) (number + 1) (by omega) (by omega) chunk hchunk

/-- The chunks of an array: together they are the array, and each fits into it at the place of its
number. -/
theorem exists_chunks (array : List α) {step : ℕ} (hstep : 1 ≤ step) :
    ∃ indices, npArangeNat step array.length step = .ok indices ∧
      (arraySplit array indices).flatten = array ∧
      ∀ chunk ∈ (arraySplit array indices).zipIdx, chunk.2 + chunk.1.length ≤ array.length := by
  refine ⟨_, if_neg (by omega), flatten_arraySplit array step _, fun chunk hchunk => ?_⟩
  have hcount : (array.length - step + step - 1) / step * step ≤ array.length := by
    by_cases hlen : step ≤ array.length
    · exact (Nat.div_mul_le_self _ step).trans (by omega)
    · have hzero : (array.length - step + step - 1) / step = 0 := Nat.div_eq_of_lt (by omega)
      rw [hzero, Nat.zero_mul]
      exact Nat.zero_le _
  exact number_add_length_le hstep 0 0 le_rfl ((Nat.zero_add _).trans_le hcount) chunk
    (by rwa [Nat.zero_add])

end Chunks

/-! ### The flows -/

section Flows

variable {K : Type} [Field K] {N M : ℕ}

/-- **The sums after the loop over the chunks.**  The loop is generalised over the two arrays and
the number of the first chunk. -/
theorem splitFlows_spec {chunks : List (List K)}
    (hfit : ∀ chunk ∈ chunks.zipIdx, chunk.2 + chunk.1.length ≤ N) (c : K)
    (fxn : K → K → K → K) (q p : K) :
    ∃ splits, splitFlows N chunks c fxn q p = .ok splits ∧
      ∑ t, splits.1 t = (chunks.flatten.map fun x => fxn (c - x) q p).sum ∧
      ∑ t, splits.2 t = (chunks.flatten.map fun x => fxn (x - c) q p).sum := by
  have hloop : ∀ (chunks : List (List K × ℕ)) (plus minus : Fin N → K),
      (∀ chunk ∈ chunks, chunk.2 + chunk.1.length ≤ N) →
      ∃ splits, chunks.foldlM (fun splits (chunk : List K × ℕ) => do
          let diff := chunk.1.map fun x => c - x
          let splitsPlus ← sliceAdd splits.1 chunk.2 (chunk.2 + chunk.1.length)
            (diff.map fun d => fxn d q p)
          let splitsMinus ← sliceAdd splits.2 chunk.2 (chunk.2 + chunk.1.length)
            (diff.map fun d => fxn (-d) q p)
          .ok (splitsPlus, splitsMinus)) (plus, minus) = (.ok splits : Except PyError _) ∧
        ∑ t, splits.1 t =
          ∑ t, plus t + ((chunks.map Prod.fst).flatten.map fun x => fxn (c - x) q p).sum ∧
        ∑ t, splits.2 t =
          ∑ t, minus t + ((chunks.map Prod.fst).flatten.map fun x => fxn (x - c) q p).sum := by
    intro chunks
    induction chunks with
    | nil => intro plus minus _; exact ⟨(plus, minus), rfl, by simp, by simp⟩
    | cons chunk chunks ih =>
      intro plus minus hfit
      obtain ⟨arr, j⟩ := chunk
      have hchunk : j + arr.length ≤ N := hfit (arr, j) List.mem_cons_self
      have hlen : ∀ f : K → K, ((arr.map fun x => c - x).map f).length = arr.length :=
        fun f => by rw [List.length_map, List.length_map]
      obtain ⟨plus', hplus, hplusSum⟩ := sliceAdd_spec j
        ((arr.map fun x => c - x).map fun d => fxn d q p) (by rwa [hlen]) plus
      obtain ⟨minus', hminus, hminusSum⟩ := sliceAdd_spec j
        ((arr.map fun x => c - x).map fun d => fxn (-d) q p) (by rwa [hlen]) minus
      rw [hlen] at hplus hminus
      obtain ⟨splits, hsplits, h1, h2⟩ :=
        ih plus' minus' fun chunk hc => hfit chunk (List.mem_cons_of_mem _ hc)
      refine ⟨splits, ?_, ?_, ?_⟩
      · simp only [List.foldlM_cons, hplus, hminus, ok_bind]
        exact hsplits
      · rw [h1, hplusSum]
        simp [add_assoc, Function.comp_def]
      · rw [h2, hminusSum]
        simp [add_assoc, Function.comp_def]
  obtain ⟨splits, hsplits, h1, h2⟩ := hloop chunks.zipIdx (fun _ => 0) (fun _ => 0) hfit
  exact ⟨splits, hsplits, by simpa using h1, by simpa using h2⟩

/-- The flows of a criterion are sums over all alternatives. -/
theorem unicriterionFlow_eq (array : Fin N → K) (fxn : K → K → K → K) (q p : K) {chunksize : ℕ}
    (hchunk : 1 ≤ chunksize) : unicriterionFlow array fxn q p chunksize =
      .ok (fun i => (∑ j, fxn (array i - array j) q p) / ((N : K) - 1),
        fun i => (∑ j, fxn (array j - array i) q p) / ((N : K) - 1)) := by
  obtain ⟨indices, hindices, hflatten, hfit⟩ := exists_chunks (List.ofFn array) hchunk
  rw [List.length_ofFn] at hindices hfit
  have hsplits := fun i => splitFlows_spec hfit (array i) fxn q p
  choose splits hok hplus hminus using hsplits
  have hloop : accumulate (fun i =>
      splitFlows N (arraySplit (List.ofFn array) indices) (array i) fxn q p >>= fun splits =>
        .ok (∑ t, splits.1 t, ∑ t, splits.2 t)) =
      .ok (fun i => ∑ t, (splits i).1 t, fun i => ∑ t, (splits i).2 t) :=
    accumulate_eq_ok fun i => bind_eq_ok_iff.2 ⟨splits i, hok i, rfl⟩
  refine bind_eq_ok_iff.2 ⟨indices, hindices, bind_eq_ok_iff.2 ⟨_, hloop,
    congrArg Except.ok (Prod.ext ?_ ?_)⟩⟩
  all_goals
    funext i
    simp only [hplus, hminus, hflatten, List.map_ofFn, List.sum_ofFn, Function.comp_def]

variable [LinearOrder K]

/-- The preference function of a name. -/
def preferenceFunction (name : String) : K → K → K → K :=
  (PREFERENCE_FUNCTIONS.lookup name).getD usual

/-- The flows of all criteria, where the parameters pass their checks. -/
theorem multicriterionFlow_eq (matrix : Fin N → Fin M → K) {criteriaType : Option (Fin M → ℤ)}
    {d : Fin M → ℤ} (htypes : ∀ k, ((criteriaType.getD fun _ => 1) k).bmod 256 = d k)
    {prefFunction : PrefFunction} {names : Fin M → String}
    (hnames : checkPrefFxn K prefFunction M = .ok names) {q p : Option (List K)} {qs ps : Fin M → K}
    (hq : checkParamLength (q.getD (List.replicate M 0)) M = .ok qs)
    (hp : checkParamLength (p.getD (List.replicate M 0)) M = .ok ps) {chunksize : Option ℕ}
    (hchunk : 1 ≤ chunksize.getD N) :
    multicriterionFlow matrix criteriaType prefFunction q p chunksize =
      .ok (fun i k => (∑ j, preferenceFunction (names k) (matrix i k * d k - matrix j k * d k)
          (qs k) (ps k)) / ((N : K) - 1),
        fun i k => (∑ j, preferenceFunction (names k) (matrix j k * d k - matrix i k * d k)
          (qs k) (ps k)) / ((N : K) - 1)) := by
  have hloop := accumulate_eq_ok fun k => unicriterionFlow_eq (fun i => matrix i k * (d k : K))
    (preferenceFunction (names k)) (qs k) (ps k) hchunk
  simp only [preferenceFunction] at hloop
  simp only [multicriterionFlow, hnames, hq, hp, htypes, ok_bind, hloop, preferenceFunction]

omit [Field K] [LinearOrder K] in
theorem checkParamLength_ofFn (f : Fin M → K) : checkParamLength (List.ofFn f) M = .ok f := by
  unfold checkParamLength
  rw [dif_pos List.length_ofFn]
  refine congrArg Except.ok (funext fun k => ?_)
  simp

/-- Weights that add up to zero are zero, so they may be divided by their sum. -/
theorem checkWeights_eq [IsStrictOrderedRing K] {weights : Fin M → K}
    (hw : ∀ k, 0 ≤ weights k) : checkWeights weights = .ok (Comparison.share weights) := by
  unfold checkWeights
  rw [if_pos hw]
  split_ifs with hpos
  · rfl
  · have hsum : ∑ k, weights k = 0 :=
      le_antisymm (not_lt.1 hpos) (Finset.sum_nonneg fun k _ => hw k)
    refine congrArg Except.ok (funext fun k => ?_)
    have hk := (Finset.sum_eq_zero_iff_of_nonneg fun k _ => hw k).1 hsum k (Finset.mem_univ k)
    rw [Comparison.share, hk, zero_div]

theorem others_pos [IsStrictOrderedRing K] (hN : 2 ≤ N) : (0 : K) < (N : K) - 1 := by
  rw [sub_pos]
  exact_mod_cast (by omega : 1 < N)

/-- The comparison by one criterion in its direction. -/
def criterionComparison (f : K → K) (d : ℤ) (column : Fin N → K) : Comparison (Fin N) K :=
  fun i j => f (column i * d - column j * d)

/-- **The scores are the weighted net flows.** -/
theorem promIi_eq [IsStrictOrderedRing K] (matrix : Fin N → Fin M → K) {weights : Fin M → K}
    (hw : ∀ k, 0 ≤ weights k) {criteriaType : Option (Fin M → ℤ)} {d : Fin M → ℤ}
    (htypes : ∀ k, ((criteriaType.getD fun _ => 1) k).bmod 256 = d k) {prefFunction : PrefFunction}
    {names : Fin M → String} (hnames : checkPrefFxn K prefFunction M = .ok names)
    {q p : Option (List K)} {qs ps : Fin M → K}
    (hq : checkParamLength (q.getD (List.replicate M 0)) M = .ok qs)
    (hp : checkParamLength (p.getD (List.replicate M 0)) M = .ok ps) {chunksize : Option ℕ}
    (hchunk : 1 ≤ chunksize.getD N) {φ : Fin M → Fin N → K}
    (hφ : φ = fun k i =>
      (criterionComparison (fun x => preferenceFunction (names k) x (qs k) (ps k)) (d k)
        (fun i => matrix i k)).net i / ((N : K) - 1)) :
    promIi matrix weights criteriaType prefFunction q p chunksize =
      .ok (Comparison.weighted weights φ, fun i k => φ k i * Comparison.share weights k) := by
  subst hφ
  simp only [promIi, multicriterionFlow_eq matrix htypes hnames hq hp hchunk, ok_bind,
    weightedMulticriterionFlow, checkWeights_eq hw, ← sub_div]
  rfl

end Flows

/-! ### The criteria of an analysis -/

/-- A criterion of an analysis: its column is compared by a registered preference function, in one
of the two directions, and it has a weight. -/
structure Criterion (K : Type) [Field K] [LinearOrder K] where
  prefFunction : String
  q : K
  p : K
  weight : K
  direction : ℤ
  registered : prefFunction ∈ (PREFERENCE_FUNCTIONS (K := K)).map Prod.fst
  weight_nonneg : 0 ≤ weight
  direction_unit : direction = 1 ∨ direction = -1

namespace Criterion

variable {K : Type} [Field K] [LinearOrder K] {N M : ℕ}

/-- The degree of preference at a difference. -/
def preference (c : Criterion K) (x : K) : K := preferenceFunction c.prefFunction x c.q c.p

/-- The call of `prom_ii` with one entry of each parameter for each criterion. -/
def promIi (criteria : Fin M → Criterion K) (matrix : Fin N → Fin M → K)
    (chunksize : Option ℕ) : Except PyError ((Fin N → K) × (Fin N → Fin M → K)) :=
  StormPiper.promIi matrix (fun k => (criteria k).weight) (some fun k => (criteria k).direction)
    (.list (List.ofFn fun k => (criteria k).prefFunction))
    (some (List.ofFn fun k => (criteria k).q)) (some (List.ofFn fun k => (criteria k).p)) chunksize

/-- The net flow of an alternative by one criterion. -/
def netFlow (c : Criterion K) (column : Fin N → K) (i : Fin N) : K :=
  (criterionComparison c.preference c.direction column).net i / ((N : K) - 1)

theorem direction_bmod (c : Criterion K) : c.direction.bmod 256 = c.direction := by
  rcases c.direction_unit with h | h <;> rw [h] <;> rfl

theorem checkPrefFxn_registered (criteria : Fin M → Criterion K) :
    checkPrefFxn K (.list (List.ofFn fun k => (criteria k).prefFunction)) M =
      .ok fun k => (criteria k).prefFunction := by
  simp only [checkPrefFxn, checkParamLength_ofFn, ok_bind]
  exact if_pos fun k => (criteria k).registered

theorem promIi_eq [IsStrictOrderedRing K] (criteria : Fin M → Criterion K)
    (matrix : Fin N → Fin M → K) {chunksize : Option ℕ} (hchunk : 1 ≤ chunksize.getD N) :
    Criterion.promIi criteria matrix chunksize =
      .ok (Comparison.weighted (fun k => (criteria k).weight)
          fun k => (criteria k).netFlow fun i => matrix i k,
        fun i k => (criteria k).netFlow (fun i => matrix i k) i *
          Comparison.share (fun k => (criteria k).weight) k) := by
  have htypes : ∀ k, (((some fun k => (criteria k).direction).getD fun _ => 1) k).bmod 256 =
      (criteria k).direction := fun k => (criteria k).direction_bmod
  have hparam : ∀ f : Fin M → K,
      checkParamLength ((some (List.ofFn f)).getD (List.replicate M 0)) M = .ok f :=
    checkParamLength_ofFn
  exact StormPiper.promIi_eq matrix (fun k => (criteria k).weight_nonneg) htypes
    (checkPrefFxn_registered criteria) (hparam fun k => (criteria k).q)
    (hparam fun k => (criteria k).p) hchunk rfl

end Criterion

section Textbook

variable {K : Type} [Field K] [LinearOrder K] [IsStrictOrderedRing K] {N M : ℕ}

/-- **The flows are those of the textbook, for every size of the chunks.**  `unicriterion_flow`
returns, so that no values are added to a slice of another length, and it returns the sums of the
preferences over all alternatives, divided by the number of the others.  The score adds up the net
flows by the criteria in their directions, with the weights divided by their sum. -/
theorem promIi_eq_textbook (hN : 2 ≤ N) (criteria : Fin M → Criterion K)
    (matrix : Fin N → Fin M → K) (chunksize : ℕ) (hchunk : 1 ≤ chunksize) :
    (∀ (array : Fin N → K) (fxn : K → K → K → K) (q p : K),
      unicriterionFlow array fxn q p chunksize =
        .ok (fun i => (∑ j, fxn (array i - array j) q p) / ((N - 1 : ℕ) : K),
          fun i => (∑ j, fxn (array j - array i) q p) / ((N - 1 : ℕ) : K))) ∧
    (∃ weightedFlow, Criterion.promIi criteria matrix (some chunksize) =
      .ok (fun i => ∑ k, (criteria k).weight / (∑ l, (criteria l).weight) *
        ((∑ j, (criteria k).preference
            (matrix i k * (criteria k).direction - matrix j k * (criteria k).direction)) /
            ((N - 1 : ℕ) : K) -
          (∑ j, (criteria k).preference
            (matrix j k * (criteria k).direction - matrix i k * (criteria k).direction)) /
            ((N - 1 : ℕ) : K)), weightedFlow)) ∧
    ∀ chunksize', 1 ≤ chunksize' → Criterion.promIi criteria matrix (some chunksize') =
      Criterion.promIi criteria matrix (some chunksize) := by
  have hcast : ((N - 1 : ℕ) : K) = (N : K) - 1 := Nat.cast_pred (by omega)
  have heq := fun (c : ℕ) (hc : 1 ≤ c) =>
    Criterion.promIi_eq criteria matrix (show 1 ≤ (some c).getD N from hc)
  rw [hcast]
  refine ⟨fun array fxn q p => unicriterionFlow_eq array fxn q p hchunk,
    ⟨fun i k => (criteria k).netFlow (fun i => matrix i k) i *
      Comparison.share (fun k => (criteria k).weight) k, ?_⟩, fun chunksize' hchunk' => ?_⟩
  · rw [heq chunksize hchunk]
    refine congrArg Except.ok (Prod.ext (funext fun i => ?_) rfl)
    simp only [Comparison.weighted]
    refine Finset.sum_congr rfl fun k _ => ?_
    rw [Criterion.netFlow, Comparison.net, sub_div, mul_comm]
    rfl
  · rw [heq chunksize hchunk, heq chunksize' hchunk']

end Textbook

/-- The weights and directions of `tests/test_src/test_prom.py`, the second criterion with a linear
preference. -/
def testCriteria : Fin 2 → Criterion ℚ := fun k =>
  if k = 0 then
    { prefFunction := "usual", q := 0, p := 0, weight := 1, direction := 1
      registered := by simp [PREFERENCE_FUNCTIONS]
      weight_nonneg := by decide
      direction_unit := by decide }
  else
    { prefFunction := "linear", q := 1, p := 3, weight := 2, direction := -1
      registered := by simp [PREFERENCE_FUNCTIONS]
      weight_nonneg := by decide
      direction_unit := by decide }

/-- Five alternatives and two criteria. -/
def testMatrix : Fin 5 → Fin 2 → ℚ := fun i k =>
  if k = 0 then [3, 1, 4, 1, 5].getD i 0 else [2, 7, 1, 8, 2].getD i 0

/-- Chunks of three or of two, with a short last chunk either way. -/
theorem promIi_eq_textbook_test :
    Criterion.promIi testCriteria testMatrix (some 3) =
      Criterion.promIi testCriteria testMatrix (some 2) :=
  (promIi_eq_textbook (by decide) testCriteria testMatrix 2 (by decide)).2.2 3 (by decide)

example : (Criterion.promIi testCriteria testMatrix (some 2)).map (fun r => List.ofFn r.1) =
    .ok [1 / 3, -3 / 4, 1 / 2, -3 / 4, 2 / 3] := by
  decide +kernel

end StormPiper
