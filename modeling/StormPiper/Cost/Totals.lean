import Mathlib.Algebra.BigOperators.Group.Finset.Piecewise
import StormPiper.Cost.DirectSum
import StormPiper.Cost.Safety

/-!
# The cost table and the headline totals

`compute_bmp_pv` computes the headline totals and the table of yearly costs on two ways.  The
capital cost enters the table by a join of the install year on the years of the table, and the
cells of the table are `null` where a factor is not a number.

* `AgreesWithTotals` : the columns of the table add up to the totals.
* `PVRequest.TableCovers` : the capital cost has its row, and all factors are numbers.
* `agreesWithTotals_iff` : the table agrees exactly for these requests.
-/

namespace StormPiper

open StormPiper.Frame

variable {K : Type} [Field K] [LinearOrder K]

/-- The columns of the cost table add up to the headline totals, and the last cumulative cost is
the total. -/
structure AgreesWithTotals (round : K → K) (res : PVResults K) : Prop where
  capital : (res.presentValueCostTable.map (·.pvCapitalCost)).sum = res.presentValueCapitalCost
  om : ∃ xs : List K, res.presentValueCostTable.map (·.pvOmCost) = xs.map some ∧
    res.presentValueOmCost = .finite (round xs.sum)
  total : ∃ t, (res.presentValueCostTable.map (·.pvTotalCostCumsum)).getLast? = some (some t) ∧
    res.presentValueTotalCost = .finite (round t)

/-! ### The columns of the table -/

section Columns

/-- The capital cost in the row of a year. -/
def capitalIn (install capital : K) (y : ℤ) : K := if install = (y : K) then capital else 0

/-- The total cost of a row. -/
def totalCell (install capital : K) (row : OmRow K (Extended K)) : Extended K :=
  row.pvOmCost.add (.finite (capitalIn install capital row.year))

/-- Each row stays, and those of the install year get the capital cost. -/
theorem joinCapitalCost_eq (table : List (OmRow K (Extended K))) (install capital : K) :
    joinCapitalCost table install capital = table.map fun row =>
      { row with
        pvCapitalCost := capitalIn install capital row.year
        pvTotalCostSum := totalCell install capital row
        pvOmCostCumsum := .nan
        pvTotalCostCumsum := .nan } := by
  have hpartner : ∀ y : K, partners Prod.fst [(install, capital)] y =
      [if install = y then some (install, capital) else none] := by
    intro y
    by_cases h : install = y <;> simp [partners, h]
  rw [joinCapitalCost, mergeLeft, List.map_flatMap]
  simp only [hpartner, List.map_cons, List.map_nil]
  rw [← List.map_eq_flatMap]
  refine List.map_congr_left fun row _ => ?_
  simp only [capitalIn, totalCell]
  split_ifs <;> rfl

omit [LinearOrder K] in
/-- The columns that the cumulative columns are added to. -/
theorem map_assignCumsums {γ : Type} (table : List (PVRow K (Extended K)))
    (f : PVRow K (Extended K) → γ)
    (hf : ∀ row om total, f { row with pvOmCostCumsum := om, pvTotalCostCumsum := total } = f row) :
    (assignCumsums table).map f = table.map f := by
  rw [assignCumsums, List.map_map]
  have hfst : ((table.zip ((Extended.cumsum (table.map fun row => row.pvOmCost)).zip
      (Extended.cumsum (table.map fun row => row.pvTotalCostSum)))).map Prod.fst) = table := by
    refine List.map_fst_zip ?_
    simp [Extended.length_cumsum]
  conv_rhs => rw [← hfst, List.map_map]
  exact List.map_congr_left fun x _ => hf _ _ _

omit [LinearOrder K] in
theorem map_pvTotalCostCumsum_assignCumsums (table : List (PVRow K (Extended K))) :
    (assignCumsums table).map (·.pvTotalCostCumsum) =
      Extended.cumsum (table.map fun row => row.pvTotalCostSum) := by
  have hsnd : ((table.zip ((Extended.cumsum (table.map fun row => row.pvOmCost)).zip
      (Extended.cumsum (table.map fun row => row.pvTotalCostSum)))).map fun x => x.2.2) =
        Extended.cumsum (table.map fun row => row.pvTotalCostSum) := by
    refine (List.map_map (f := Prod.snd) (g := Prod.snd)).symm.trans ?_
    rw [List.map_snd_zip, List.map_snd_zip]
    · simp [Extended.length_cumsum]
    · simp [Extended.length_cumsum]
  rw [assignCumsums, List.map_map]
  exact hsnd

variable (table : List (OmRow K (Extended K))) (install capital : K)

theorem capital_column : ((assignCumsums (joinCapitalCost table install capital)).map
    PVRow.toJson).map (·.pvCapitalCost) =
      table.map fun row => capitalIn install capital row.year := by
  rw [List.map_map, joinCapitalCost_eq]
  refine (map_assignCumsums _ _ fun _ _ _ => rfl).trans ?_
  rw [List.map_map]
  rfl

theorem om_column : ((assignCumsums (joinCapitalCost table install capital)).map
    PVRow.toJson).map (·.pvOmCost) = table.map fun row => row.pvOmCost.toJson := by
  rw [List.map_map, joinCapitalCost_eq]
  refine (map_assignCumsums _ _ fun _ _ _ => rfl).trans ?_
  rw [List.map_map]
  rfl

/-- The cumulative total of the table in the results. -/
theorem total_column : ((assignCumsums (joinCapitalCost table install capital)).map
    PVRow.toJson).map (·.pvTotalCostCumsum) =
      (Extended.cumsum (table.map (totalCell install capital))).map Extended.toJson := by
  have h := congrArg (List.map Extended.toJson)
    (map_pvTotalCostCumsum_assignCumsums (joinCapitalCost table install capital))
  rw [List.map_map] at h ⊢
  refine h.trans ?_
  rw [joinCapitalCost_eq, List.map_map]
  rfl

end Columns

/-! ### The requests whose table is complete -/

namespace PVRequest

variable [FloorRing K] (req : PVRequest K)

/-- The powers of the row of a year do not divide by zero. -/
def FactorsFinite (y : ℤ) : Prop :=
  (1 + req.settings.inflationRate ≠ 0 ∨
    0 ≤ truncate ((y : K) - req.omBasis) ∧ 0 ≤ truncate ((y : K) - req.settings.costBasisYear)) ∧
  (1 + req.settings.discountRate ≠ 0 ∨ truncate ((y : K) - req.settings.costBasisYear) ≤ 0)

/-- The table has rows, one of them is that of the install year where there is a capital cost, and
the factors of all rows are numbers. -/
structure TableCovers (ops : FloatOps K) : Prop where
  rows : req.firstYear < req.endYear
  install : |req.discountedCapital ops| ≤ 1 / 200 ∨
    ∃ y : ℤ, req.install = y ∧ req.firstYear ≤ y ∧ y < req.endYear
  factors : ∀ y : ℤ, req.firstYear ≤ y → y < req.endYear → req.FactorsFinite y

end PVRequest

section Rows

variable [FloorRing K]

/-- The O&M cost of a row is a number exactly if the factors are. -/
theorem omRow_pvOmCost_finite (ops : FloatOps K) (req : PVRequest K) (cost : K) (last : ℤ)
    (years : List K) (y : ℤ) :
    (∃ c, (omRow ops req.omCostPerYr req.omBasis cost req.settings last years y).pvOmCost =
        .finite c) ↔ req.FactorsFinite y := by
  -- a product is a number exactly if its factors are, and rounding keeps what is no number
  have hprod : ∀ (x : K) (d e e' : Extended K),
      (∃ c, (d.mul ((((Extended.finite x).mul e).mul e').mapFinite ops.round)).mapFinite ops.round =
        .finite c) ↔ ((∃ c, e = .finite c) ∧ ∃ c, e' = .finite c) ∧ ∃ c, d = .finite c := by
    intro x d e e'
    constructor
    · rintro ⟨c, h⟩
      obtain ⟨p, hp, -⟩ := Extended.mapFinite_eq_finite.1 h
      obtain ⟨a, b, rfl, hb, -⟩ := Extended.mul_eq_finite.1 hp
      obtain ⟨q, hq, -⟩ := Extended.mapFinite_eq_finite.1 hb
      obtain ⟨u, v, hu, rfl, -⟩ := Extended.mul_eq_finite.1 hq
      obtain ⟨-, w, -, rfl, -⟩ := Extended.mul_eq_finite.1 hu
      exact ⟨⟨⟨w, rfl⟩, v, rfl⟩, a, rfl⟩
    · rintro ⟨⟨⟨w, rfl⟩, v, rfl⟩, a, rfl⟩
      exact ⟨_, rfl⟩
  refine (hprod _ _ _ _).trans ?_
  rw [Extended.exists_zpow_eq_finite, Extended.exists_zpow_eq_finite,
    Extended.exists_inv_zpow_eq_finite, ← or_and_left]
  rfl

theorem isCents_pvOmCost (rpow : K → K → K) (req : PVRequest K) (cost : K) (last : ℤ)
    (years : List K) (y : ℤ) {c : K}
    (h : (omRow ⟨roundCents, rpow⟩ req.omCostPerYr req.omBasis cost req.settings last years
      y).pvOmCost = .finite c) : IsCents c := by
  obtain ⟨a, -, rfl⟩ := Extended.mapFinite_eq_finite.1 h
  exact isCents_roundCents a

omit [FloorRing K] in
/-- The capital cost is found once if the install year is one of the years. -/
theorem sum_capitalIn [IsStrictOrderedRing K] (install capital : K) (start stop : ℤ) :
    ((arangeInt start stop).map (capitalIn install capital)).sum = capital ↔
      capital = 0 ∨ ∃ y : ℤ, install = y ∧ start ≤ y ∧ y < stop := by
  by_cases hrow : ∃ y : ℤ, install = y ∧ start ≤ y ∧ y < stop
  · obtain ⟨y, rfl, hy⟩ := hrow
    have hcell : ∀ z ∈ arangeInt start stop,
        capitalIn (y : K) capital z = if y = z then capital else 0 := fun z _ => by
      simp only [capitalIn, Int.cast_inj]
    refine iff_of_true ?_ (.inr ⟨y, rfl, hy⟩)
    rw [List.map_congr_left hcell, ← List.sum_toFinset _ (nodup_arangeInt start stop),
      Finset.sum_ite_eq, if_pos (List.mem_toFinset.2 (mem_arangeInt.2 hy))]
  · have hcell : ∀ x ∈ (arangeInt start stop).map (capitalIn install capital), x = 0 := by
      intro x hx
      obtain ⟨z, hz, rfl⟩ := List.mem_map.1 hx
      exact if_neg fun h => hrow ⟨z, h, mem_arangeInt.1 hz⟩
    rw [List.sum_eq_zero hcell, or_iff_left hrow, eq_comm]

end Rows

/-! ### Agreement -/

section Agreement

variable [IsStrictOrderedRing K] [FloorRing K] (rpow : K → K → K) (req : PVRequest K) (cost : K)
  (years : List K)

/-- The row of a year, with what is charged in the replacement years. -/
def PVRequest.costRow (y : ℤ) : OmRow K (Extended K) :=
  omRow ⟨roundCents, rpow⟩ req.omCostPerYr req.omBasis cost req.settings req.endYear years y

variable {rpow req cost years}

omit [IsStrictOrderedRing K] in
/-- The capital column of the results. -/
theorem PVRequest.results_capital :
    (req.results ⟨roundCents, rpow⟩ (req.costRow rpow cost years)).presentValueCostTable.map
        (·.pvCapitalCost) =
      (arangeInt req.firstYear req.endYear).map
        (capitalIn req.install (roundCents (req.discountedCapital ⟨roundCents, rpow⟩))) := by
  refine (capital_column _ _ _).trans ?_
  rw [List.map_map]
  rfl

/-- A table that agrees with the totals is complete. -/
theorem tableCovers_of_agreesWithTotals
    (h : AgreesWithTotals roundCents
      (req.results ⟨roundCents, rpow⟩ (req.costRow rpow cost years))) :
    req.TableCovers ⟨roundCents, rpow⟩ where
  rows := by
    obtain ⟨t, ht, -⟩ := h.total
    rw [PVRequest.results, total_column] at ht
    obtain ⟨x, hx, -⟩ := List.mem_map.1 (List.mem_of_getLast? ht)
    have hpos := List.length_pos_of_mem hx
    rw [Extended.length_cumsum, List.length_map, List.length_map] at hpos
    obtain ⟨y, hy⟩ := List.exists_mem_of_length_pos hpos
    have := mem_arangeInt.1 hy
    omega
  install := by
    have hsum := h.capital
    rw [PVRequest.results_capital] at hsum
    exact ((sum_capitalIn _ _ _ _).1 hsum).imp_left roundCents_eq_zero_iff.1
  factors := by
    intro y hfirst hlast
    obtain ⟨xs, hxs, -⟩ := h.om
    rw [PVRequest.results, om_column, List.map_map] at hxs
    have hmem := List.mem_map_of_mem
      (f := (fun row => row.pvOmCost.toJson) ∘ req.costRow rpow cost years)
      (mem_arangeInt.2 ⟨hfirst, hlast⟩)
    rw [hxs] at hmem
    obtain ⟨c, -, hc⟩ := List.mem_map.1 hmem
    exact (omRow_pvOmCost_finite _ req cost req.endYear years y).1
      ⟨c, Extended.toJson_eq_some.1 hc.symm⟩

/-- A complete table agrees with the totals. -/
theorem agreesWithTotals_of_tableCovers (h : req.TableCovers ⟨roundCents, rpow⟩) :
    AgreesWithTotals roundCents
      (req.results ⟨roundCents, rpow⟩ (req.costRow rpow cost years)) := by
  set capital := roundCents (req.discountedCapital ⟨roundCents, rpow⟩) with hcapital
  set span := arangeInt req.firstYear req.endYear with hspan
  have hcell : ∀ y ∈ span, ∃ c, (req.costRow rpow cost years y).pvOmCost = .finite c := fun y hy =>
    (omRow_pvOmCost_finite _ req cost req.endYear years y).2
      (h.factors y (mem_arangeInt.1 hy).1 (mem_arangeInt.1 hy).2)
  choose! g hg using hcell
  have hom : (span.map (req.costRow rpow cost years)).map (fun row => row.pvOmCost) =
      (span.map g).map .finite := by
    rw [List.map_map, List.map_map]
    exact List.map_congr_left hg
  have htotal : (span.map (req.costRow rpow cost years)).map (totalCell req.install capital) =
      (span.map fun y => g y + capitalIn req.install capital y).map .finite := by
    rw [List.map_map, List.map_map]
    refine List.map_congr_left fun y hy => ?_
    simp only [Function.comp_apply, totalCell, hg y hy]
    rfl
  have hcap : (span.map (capitalIn req.install capital)).sum = capital :=
    (sum_capitalIn _ _ _ _).2 (h.install.imp_left roundCents_eq_zero_iff.2)
  -- whole cents, so that rounding the sum of the column changes nothing
  have hcents : IsCents (span.map g).sum := by
    refine isCents_sum fun c hc => ?_
    obtain ⟨y, hy, rfl⟩ := List.mem_map.1 hc
    exact isCents_pvOmCost rpow req cost req.endYear years y (hg y hy)
  have homCost : (req.results ⟨roundCents, rpow⟩ (req.costRow rpow cost years)).presentValueOmCost =
      .finite (roundCents (span.map g).sum) := by
    have hsum := Extended.sum_finite (span.map g)
    rw [← hom] at hsum
    exact congrArg (Extended.mapFinite roundCents) hsum
  have hne : span ≠ [] := by
    intro hnil
    have hmem : req.firstYear ∈ span := mem_arangeInt.2 ⟨le_rfl, h.rows⟩
    rw [hnil] at hmem
    cases hmem
  refine ⟨?_, ⟨span.map g, ?_, homCost⟩, ⟨(span.map g).sum + capital, ?_, ?_⟩⟩
  · rw [PVRequest.results_capital]
    exact hcap
  · have hjson := congrArg (List.map Extended.toJson) hom
    rw [List.map_map, List.map_map (f := Extended.finite)] at hjson
    rw [PVRequest.results, om_column]
    exact hjson
  · rw [PVRequest.results, total_column, htotal, List.getLast?_map,
      Extended.getLast?_cumsum_finite (by simpa using hne), List.sum_map_add, hcap]
    rfl
  · have htot : (req.results ⟨roundCents, rpow⟩
        (req.costRow rpow cost years)).presentValueTotalCost =
        .finite (roundCents (capital + roundCents (span.map g).sum)) :=
      congrArg (fun x => (Extended.add (.finite capital) x).mapFinite roundCents) homCost
    rw [htot, roundCents_of_isCents hcents, add_comm]

/-- **The table agrees with the totals exactly if it is complete.** -/
theorem agreesWithTotals_iff (rpow : K → K → K) (hrpow : ∀ x y, 0 < x → rpow x y ≠ 0)
    (req : PVRequest K) (res : PVResults K)
    (hres : computeBmpPv ⟨roundCents, rpow⟩ req = .ok res) :
    AgreesWithTotals roundCents res ↔ req.TableCovers ⟨roundCents, rpow⟩ := by
  obtain ⟨cost, years, hspec⟩ := computeBmpPv_eq_ok_iff ⟨roundCents, rpow⟩ req hrpow
  have heq : res = req.results ⟨roundCents, rpow⟩ (req.costRow rpow cost years) :=
    ((hspec res).1 hres).2
  rw [heq]
  exact ⟨tableCovers_of_agreesWithTotals, agreesWithTotals_of_tableCovers⟩

end Agreement

/-- The example of `models/npv.py`, whose install year is whole. -/
theorem agreesWithTotals_iff_example :
    ∃ res, computeBmpPv ⟨roundCents, fun _ _ => 1⟩ (exampleRequest (some 15) 50) = .ok res ∧
      AgreesWithTotals roundCents res := by
  obtain ⟨cost, years, hspec⟩ := computeBmpPv_eq_ok_iff ⟨roundCents, fun _ _ => 1⟩
    (exampleRequest (some 15) 50) fun _ _ _ => one_ne_zero
  have hsafe : (exampleRequest (some 15) 50).Safe :=
    ⟨by decide +kernel, by decide +kernel, by decide +kernel⟩
  have hres := (hspec _).2 ⟨hsafe, rfl⟩
  refine ⟨_, hres, (agreesWithTotals_iff _ (fun _ _ _ => one_ne_zero) _ _ hres).2
    ⟨by decide +kernel, .inr ⟨2027, by decide +kernel⟩, fun y _ _ => ?_⟩⟩
  exact ⟨.inl (by decide +kernel), .inl (by decide +kernel)⟩

/-- A facility that is installed in the middle of the year 2022: its capital cost has no row. -/
theorem not_agreesWithTotals_half_year :
    ∃ res, computeBmpPv ⟨roundCents, fun _ _ => 1⟩
        { exampleRequest (some 15) 50 with installYear := some (4045 / 2) } = .ok res ∧
      ¬ AgreesWithTotals roundCents res := by
  have hcolumn : (computeBmpPv ⟨roundCents, fun _ _ => 1⟩
      { exampleRequest (some 15) 50 with installYear := some (4045 / 2) }).map (fun res =>
        ((res.presentValueCostTable.map (·.pvCapitalCost)).sum, res.presentValueCapitalCost)) =
      .ok (0, 450000) := by
    decide +kernel
  cases hres : computeBmpPv ⟨roundCents, fun _ _ => 1⟩
      { exampleRequest (some 15) 50 with installYear := some (4045 / 2) } with
  | error e =>
    rw [hres] at hcolumn
    cases hcolumn
  | ok res =>
    rw [hres] at hcolumn
    obtain ⟨hsum, hcapital⟩ := Prod.mk.inj (Except.ok.inj hcolumn)
    refine ⟨res, rfl, fun h => ?_⟩
    have hagree := h.capital
    rw [hsum, hcapital] at hagree
    norm_num at hagree

end StormPiper
