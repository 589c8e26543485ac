import Mathlib.Data.Rat.Floor
import StormPiper.Cost.Record
import StormPiper.Run.Machine

/-!
# Stored present values over a history of writes

A patch is computed from the patch alone, while the record keeps every field that the patch does
not mention.  The stored present values stay those of the stored record as long as every patch
that is computed *covers* the record: what it leaves out is null in the record, or has the value
that null stands for.  One patch that does not is enough to break this.

## Main definitions

* `CostRecord.Current` : the stored present values are null or those of the stored attributes.
* `CostPatch.Covers` : the patch alone and the patched record are the same request.
* `costMachine` : patches, calculations and changes of the settings.
* `costMachine_current` : the values stay current over every run of covering patches.
* `not_current_of_partial_patch` : two patches after which they are not.
-/

namespace StormPiper

variable {K Node : Type}

/-- The three stored present values. -/
def CostRecord.values (r : CostRecord K) : Option K × Option (Extended K) × Option (Extended K) :=
  (r.presentValueCapitalCost, r.presentValueOmCost, r.presentValueTotalCost)

/-- The three present values of a result. -/
def PVResults.values (res : PVResults K) : Option K × Option (Extended K) × Option (Extended K) :=
  (some res.presentValueCapitalCost, some res.presentValueOmCost, some res.presentValueTotalCost)

@[simp] theorem CostPatch.apply_none (a : CostAttrs K) : CostPatch.none.apply a = a := rfl

@[simp] theorem PVResults.toUpdate_attrs (res : PVResults K) (r : CostRecord K) :
    (res.toUpdate.apply r).toCostAttrs = r.toCostAttrs := rfl

@[simp] theorem CostUpdate.cleared_attrs (r : CostRecord K) :
    (CostUpdate.cleared.apply r).toCostAttrs = r.toCostAttrs := rfl

@[simp] theorem CostPatch.toUpdate_attrs (p : CostPatch K) (r : CostRecord K) :
    (p.toUpdate.apply r).toCostAttrs = p.apply r.toCostAttrs := rfl

theorem PVResults.toUpdate_settings (res : PVResults K) (r : CostRecord K) (v : CostVariable) :
    (res.toUpdate.apply r).settings v = some (res.settings.get v) := by
  cases v <;> rfl

section Step

variable [Field K] [LinearOrder K] [FloorRing K] (ops : FloatOps K)

/-- The stored present values are all null, or those that `compute_bmp_pv` gives for the stored
attributes and the stored settings. -/
def CostRecord.Current (r : CostRecord K) : Prop :=
  r.values = (none, none, none) ∨
    ∃ req ∈ pvRequest r.toCostAttrs r.settings, ∃ res ∈ (computeBmpPv ops req).toOption,
      r.values = res.values

instance CostRecord.Current.decidable (r : CostRecord K) : Decidable (r.Current ops) :=
  inferInstanceAs (Decidable (_ ∨ _))

variable {ops}

theorem toOption_eq_some {α : Type} {x : Except PyError α} {a : α} :
    a ∈ x.toOption ↔ x = .ok a := by
  cases x <;> simp [Except.toOption]

theorem computeBmpPv_settings {req : PVRequest K} {res : PVResults K}
    (h : computeBmpPv ops req = .ok res) : res.settings = req.settings := by
  simp only [computeBmpPv] at h
  obtain ⟨capital, -, h⟩ := bind_eq_ok h
  obtain ⟨table, -, h⟩ := bind_eq_ok h
  cases h
  rfl

theorem CostRecord.current_cleared (r : CostRecord K) :
    (CostUpdate.cleared.apply r).Current ops := .inl rfl

/-- Writing results onto a record makes it current if they were computed from a request with the
same meaning as the record. -/
theorem CostRecord.current_of_results {r : CostRecord K} {req req' : PVRequest K}
    {res : PVResults K} {g : CostVariable → Option K} (hres : computeBmpPv ops req = .ok res)
    (hreq' : pvRequest r.toCostAttrs g = some req') (hsame : req.withDefaults = req'.withDefaults) :
    (res.toUpdate.apply r).Current ops := by
  have hres' : computeBmpPv ops req' = .ok res := by
    rw [← computeBmpPv_withDefaults, ← hsame, computeBmpPv_withDefaults, hres]
  obtain ⟨hattrs, -⟩ := pvRequest_eq_some.1 hreq'
  refine .inr ⟨req', pvRequest_eq_some.2 ⟨hattrs, fun v => ?_⟩, res, toOption_eq_some.2 hres', rfl⟩
  rw [PVResults.toUpdate_settings, computeBmpPv_settings hres']

end Step

/-! ### The machine -/

/-- A request to the server. -/
inductive CostAction (Node K : Type) where
  | patch (node : Node) (p : CostPatch K)
  | calculate (node : Node)
  | setting (v : CostVariable) (value : Option K)
  deriving Repr

variable [DecidableEq Node] [Field K] [LinearOrder K] [FloorRing K] (ops : FloatOps K)

/-- The cost database under requests: one that fails leaves what it has committed before. -/
def costMachine : Machine (CostDb Node K) (CostAction Node K) where
  step s
    | .patch node p => some ((patchTmntAttr ops s node p).toOption.getD s)
    | .calculate node => some (calculatePvForExistingTmntInDb ops s node).1
    | .setting v value => some ((patchCostGlobal s v value).toOption.getD s)

/-- Every stored record is current. -/
def CostDb.Current (s : CostDb Node K) : Prop :=
  ∀ node r, s.costs.lookup node = some r → r.Current ops

/-- The patch alone is not a valid request, or it has the same meaning as the record that it
leaves: every optional field that it does not mention is null in the record or has the value that
null stands for. -/
def CostPatch.Covers (p : CostPatch K) (a : CostAttrs K) (g : CostVariable → Option K) : Prop :=
  ∀ req ∈ pvRequest p.attrs g,
    (pvRequest (p.apply a) g).map PVRequest.withDefaults = some req.withDefaults

instance CostPatch.Covers.decidable (p : CostPatch K) (a : CostAttrs K)
    (g : CostVariable → Option K) : Decidable (p.Covers a g) :=
  inferInstanceAs (Decidable (∀ req ∈ pvRequest p.attrs g, _))

/-- Every patch covers the record it is applied to. -/
def CostAction.Covers (s : CostDb Node K) : CostAction Node K → Prop
  | .patch node p =>
    ∀ g ∈ (getPvSettings s.settings).toOption,
      p.Covers ((s.costs.lookup node).getD .empty).toCostAttrs g
  | _ => True

instance CostAction.Covers.decidable (s : CostDb Node K) :
    ∀ a : CostAction Node K, Decidable (a.Covers s)
  | .patch _ _ => inferInstanceAs (Decidable (∀ g ∈ (getPvSettings s.settings).toOption, _))
  | .calculate _ => isTrue trivial
  | .setting _ _ => isTrue trivial

variable {ops}

theorem CostDb.Current.upsert {s : CostDb Node K} (hs : s.Current ops) {node : Node}
    {u : CostUpdate K} (hu : (u.apply ((s.costs.lookup node).getD .empty)).Current ops) :
    (s.upsert node u).Current ops := by
  intro other r hr
  by_cases hnode : other = node
  · subst hnode
    rw [CostDb.lookup_upsert_self] at hr
    exact Option.some.inj hr ▸ hu
  · rw [CostDb.upsert, AList.lookup_insert_ne hnode] at hr
    exact hs other r hr

/-- What an accepted patch writes: nothing, the patch with its results cleared, or the patch with
the results of the patch alone. -/
theorem patchTmntAttr_cases {s s' : CostDb Node K} {node : Node} {p : CostPatch K}
    (h : patchTmntAttr ops s node p = .ok s') :
    s' = s ∨ s' = s.upsert node (p.toUpdate.update .cleared) ∨
      ∃ g req res, getPvSettings s.settings = .ok g ∧ pvRequest p.attrs g = some req ∧
        computeBmpPv ops req = .ok res ∧
        s' = s.upsert node ((p.toUpdate.update .cleared).update res.toUpdate) := by
  unfold patchTmntAttr PVComputation.patchTmntAttr at h
  split at h
  · cases h
  · rename_i u? hu
    split at h
    · cases h
    · obtain ⟨g, hg, hu⟩ := bind_eq_ok hu
      cases h
      unfold PVComputation.maybeUpdatePvParams at hu
      split at hu
      · split at hu
        · cases hu
          exact .inr (.inl rfl)
        · rename_i req hreq
          obtain ⟨_, hcompute, rfl⟩ := map_eq_ok hu
          obtain ⟨res, hres, rfl⟩ := map_eq_ok hcompute
          exact .inr (.inr ⟨g, req, res, hg, hreq, hres, rfl⟩)
      · cases hu
        exact .inl rfl

/-- What a calculation writes: nothing, cleared results, or the results of the stored record. -/
theorem calculatePv_cases (ops : FloatOps K) (s : CostDb Node K) (node : Node) :
    (calculatePvForExistingTmntInDb ops s node).1 = s ∨
      (calculatePvForExistingTmntInDb ops s node).1 = s.upsert node .cleared ∨
      ∃ r g req res, s.costs.lookup node = some r ∧ r.request g = some req ∧
        computeBmpPv ops req = .ok res ∧
        (calculatePvForExistingTmntInDb ops s node).1 = s.upsert node res.toUpdate := by
  unfold calculatePvForExistingTmntInDb PVComputation.calculatePvForExistingTmntInDb
  split
  · exact .inl rfl
  · rename_i r hr
    split
    · exact .inl rfl
    · rename_i g _
      split
      · exact .inr (.inl rfl)
      · rename_i req hreq
        split
        · exact .inl rfl
        · rename_i hcompute
          obtain ⟨res, hres, rfl⟩ := map_eq_ok hcompute
          exact .inr (.inr ⟨r, g, req, res, hr, hreq, hres, rfl⟩)

/-- A patch that covers the record keeps every record current. -/
theorem CostDb.Current.patch {s s' : CostDb Node K} (hs : s.Current ops) {node : Node}
    {p : CostPatch K} (hok : (CostAction.patch node p).Covers s)
    (h : patchTmntAttr ops s node p = .ok s') : s'.Current ops := by
  rcases patchTmntAttr_cases h with rfl | rfl | ⟨g, req, res, hg, hreq, hres, rfl⟩
  · exact hs
  · refine hs.upsert ?_
    rw [CostUpdate.update_apply]
    exact CostRecord.current_cleared _
  · refine hs.upsert ?_
    have hcover := hok g (toOption_eq_some.2 hg) req hreq
    obtain ⟨req', hreq', hsame⟩ := Option.map_eq_some_iff.1 hcover
    rw [CostUpdate.update_apply, CostUpdate.update_apply]
    exact CostRecord.current_of_results hres hreq' hsame.symm

/-- A calculation keeps every record current. -/
theorem CostDb.Current.calculate {s : CostDb Node K} (hs : s.Current ops) (node : Node) :
    (calculatePvForExistingTmntInDb ops s node).1.Current ops := by
  rcases calculatePv_cases ops s node with h | h | ⟨r, g, req, res, hr, hreq, hres, h⟩
  · rwa [h]
  · rw [h]
    exact hs.upsert (CostRecord.current_cleared _)
  · rw [h]
    refine hs.upsert ?_
    rw [hr]
    exact CostRecord.current_of_results hres hreq rfl

theorem CostDb.Current.step {s s' : CostDb Node K} {a : CostAction Node K} (hs : s.Current ops)
    (hok : a.Covers s) (h : (costMachine ops).step s a = some s') : s'.Current ops := by
  cases a with
  | patch node p =>
    rcases toOption_getD_cases (Option.some.inj h) with ⟨-, rfl⟩ | hp
    · exact hs
    · exact hs.patch hok hp
  | calculate node => cases h; exact hs.calculate node
  | setting v value =>
    cases h
    unfold patchCostGlobal
    split <;> exact hs

/-- **Stored present values are never out of date, while patches cover the records.** -/
theorem costMachine_current {s s' : CostDb Node K} {as : List (CostAction Node K)}
    (hs : s.Current ops) (hok : (costMachine ops).Guarded (fun s a => a.Covers s) s as)
    (h : (costMachine ops).run s as = some s') : s'.Current ops :=
  (costMachine ops).guarded_invariant hs (fun _ _ _ hs hok h => hs.step hok h) hok h

/-! ### Examples -/

/-- Floats as exact rationals, for whole years only. -/
def FloatOps.wholeYears : FloatOps ℚ where
  round := roundCents
  rpow _ _ := 0

/-- One facility without a record, no discount, no inflation, a horizon of one year. -/
def exampleCostDb : CostDb String ℚ where
  facilities := ["SWFA-100002"]
  costs := ∅
  settings
    | .discountRate => some (some 0)
    | .inflationRate => some (some 0)
    | .planningHorizonYrs => some (some 1)
    | .costBasisYear => some (some 2023)

/-- A patch of the required costs. -/
def requiredCosts (capitalCost omCostPerYr : ℚ) : CostPatch ℚ :=
  { CostPatch.none with capitalCost := .val capitalCost, omCostPerYr := .val omCostPerYr }

/-- A patch of what is paid at the end of a life. -/
def replacementCosts (replacementCost lifespanYrs : ℚ) : CostPatch ℚ :=
  { CostPatch.none with
    replacementCost := .val replacementCost
    lifespanYrs := .val lifespanYrs }

theorem exampleCostDb_current : exampleCostDb.Current .wholeYears := by
  intro node r hr
  rw [exampleCostDb, AList.lookup_empty] at hr
  cases hr

/-- The costs of a replacement come in a patch of their own, and a calculation follows. -/
def exampleCostActions : List (CostAction String ℚ) :=
  [.patch "SWFA-100002" (requiredCosts 100 10), .patch "SWFA-100002" (replacementCosts 50 1),
    .calculate "SWFA-100002"]

theorem costMachine_current_calculated :
    ∃ s, (costMachine .wholeYears).run exampleCostDb exampleCostActions = some s ∧
      s.Current .wholeYears :=
  ⟨_, rfl, costMachine_current exampleCostDb_current
    (by decide +kernel : (costMachine .wholeYears).Guarded _ _ exampleCostActions) rfl⟩

/-- **A patch of the required costs alone, onto a record with a replacement cost.**  The server
accepts both patches, and the values it stores are those of a facility that is never replaced. -/
theorem not_current_of_partial_patch :
    ∃ r ∈ (patchTmntAttr .wholeYears exampleCostDb "SWFA-100002"
        ((requiredCosts 100 10).update (replacementCosts 50 1))).toOption.bind fun s =>
          (patchTmntAttr .wholeYears s "SWFA-100002" (requiredCosts 100 10)).toOption.bind fun s =>
            s.costs.lookup "SWFA-100002",
      r.replacementCost = some 50 ∧ r.lifespanYrs = some 1 ∧
        r.presentValueTotalCost = some (.finite 120) ∧ ¬ r.Current .wholeYears := by
  decide +kernel

end StormPiper
