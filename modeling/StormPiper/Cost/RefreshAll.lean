import StormPiper.Cost.History

/-!
# Refreshing the present values of all facilities

`POST /refresh_pv_for_all_existing_tmnt` calculates one record after the other, and an exception
leaves the loop: the incomplete record that raises it has been cleared, the records after it are
left as they are.

## Main definitions

* `refreshPvForAllExistingTmnt` : the endpoint.
* `CostRecord.Refreshed` : a record has the present values of its attributes, or none if it is
  incomplete.
* `refreshed_iff` : when every record is refreshed.
-/

namespace StormPiper

variable {K Node : Type} [DecidableEq Node] [Field K] [LinearOrder K] [FloorRing K]
  (ops : FloatOps K)

/-- The exceptions that the endpoint answers with 404; others go through. -/
def pvHttpError : PyError → PyError
  | .recordNotFound => .httpException 404
  | .validationError => .httpException 404
  | e => e

/-- The loop of `refresh_pv_for_all_existing_tmnt`. -/
def refreshEach (s : CostDb Node K) : List Node → CostDb Node K × Except PyError Unit
  | [] => (s, .ok ())
  | node :: nodes =>
    match calculatePvForExistingTmntInDb ops s node with
    | (s', .error e) => (s', .error (pvHttpError e))
    | (s', .ok ()) => refreshEach s' nodes

/-- `POST /refresh_pv_for_all_existing_tmnt`. -/
def refreshPvForAllExistingTmnt (s : CostDb Node K) : CostDb Node K × Except PyError Unit :=
  match s.costs.keys with
  | [] => (s, .error (.httpException 404))
  | nodes => refreshEach ops s nodes

/-- The required fields are there. -/
def CostRecord.Complete (g : CostVariable → Option K) (r : CostRecord K) : Prop :=
  (r.request g).isSome

instance CostRecord.Complete.decidable (g : CostVariable → Option K) (r : CostRecord K) :
    Decidable (r.Complete g) :=
  inferInstanceAs (Decidable (_ = true))

/-- A complete record holds the present values that `compute_bmp_pv` gives for it, an incomplete
one holds none. -/
def CostRecord.Refreshed (g : CostVariable → Option K) (r : CostRecord K) : Prop :=
  match r.request g with
  | none => r.values = (none, none, none)
  | some req => ∃ res ∈ (computeBmpPv ops req).toOption, r.values = res.values

instance CostRecord.Refreshed.decidable (g : CostVariable → Option K) (r : CostRecord K) :
    Decidable (r.Refreshed ops g) :=
  match h : r.request g with
  | none => decidable_of_iff (r.values = (none, none, none)) (by rw [CostRecord.Refreshed, h])
  | some req =>
    decidable_of_iff (∃ res ∈ (computeBmpPv ops req).toOption, r.values = res.values)
      (by rw [CostRecord.Refreshed, h])

/-- Every stored record is refreshed. -/
def CostDb.Refreshed (g : CostVariable → Option K) (s : CostDb Node K) : Prop :=
  ∀ node r, s.costs.lookup node = some r → r.Refreshed ops g

/-- `compute_bmp_pv` returns for the record. -/
def CostRecord.Computes (g : CostVariable → Option K) (r : CostRecord K) : Prop :=
  ∃ req ∈ r.request g, ∃ res ∈ (computeBmpPv ops req).toOption, True

/-- What it takes for a refresh to reach all records of a list: the records before the first
incomplete one can be computed, and those after it are refreshed already. -/
def ReachesAll (g : CostVariable → Option K) (rs : List (CostRecord K)) : Prop :=
  (∀ r ∈ rs.takeWhile (·.Complete g), r.Computes ops g) ∧
    ∀ r ∈ (rs.dropWhile (·.Complete g)).drop 1, r.Refreshed ops g

instance CostRecord.Computes.decidable (g : CostVariable → Option K) (r : CostRecord K) :
    Decidable (r.Computes ops g) :=
  inferInstanceAs (Decidable (∃ req ∈ r.request g, _))

instance ReachesAll.decidable (g : CostVariable → Option K) (rs : List (CostRecord K)) :
    Decidable (ReachesAll ops g rs) :=
  inferInstanceAs (Decidable (_ ∧ _))

variable {ops} {g : CostVariable → Option K}

theorem reachesAll_nil : ReachesAll ops g [] := ⟨fun _ h => (by cases h), fun _ h => (by cases h)⟩

theorem reachesAll_cons_incomplete {r : CostRecord K} {rs : List (CostRecord K)}
    (hr : r.request g = none) : ReachesAll ops g (r :: rs) ↔ ∀ r' ∈ rs, r'.Refreshed ops g := by
  have hc : ¬ r.Complete g := by simp [CostRecord.Complete, hr]
  simp [ReachesAll, hc]

theorem reachesAll_cons_complete {r : CostRecord K} {rs : List (CostRecord K)}
    {req : PVRequest K} (hr : r.request g = some req) :
    ReachesAll ops g (r :: rs) ↔ r.Computes ops g ∧ ReachesAll ops g rs := by
  have hc : r.Complete g := by simp [CostRecord.Complete, hr]
  simp [ReachesAll, hc, and_assoc]

/-! ### One record -/

/-- A record stays the same request when its results are written. -/
theorem CostRecord.request_results {r : CostRecord K} {req : PVRequest K} {res : PVResults K}
    (hreq : r.request g = some req) (hres : computeBmpPv ops req = .ok res) :
    (res.toUpdate.apply r).request g = some req := by
  obtain ⟨hattrs, hg⟩ := pvRequest_eq_some.1 hreq
  refine pvRequest_eq_some.2 ⟨hattrs, fun v => ?_⟩
  have hv := hg v
  rw [CostRecord.currentSettings] at hv ⊢
  rw [PVResults.toUpdate_settings, computeBmpPv_settings hres]
  cases hgv : g v with
  | none => rfl
  | some x => simpa [hgv] using hv

theorem CostRecord.refreshed_results {r : CostRecord K} {req : PVRequest K} {res : PVResults K}
    (hreq : r.request g = some req) (hres : computeBmpPv ops req = .ok res) :
    (res.toUpdate.apply r).Refreshed ops g := by
  unfold CostRecord.Refreshed
  rw [CostRecord.request_results hreq hres]
  exact ⟨res, toOption_eq_some.2 hres, rfl⟩

omit [Field K] [LinearOrder K] [FloorRing K] in
theorem CostRecord.request_cleared (r : CostRecord K) :
    (CostUpdate.cleared.apply r).request g = r.request g := by
  have hsettings : (CostUpdate.cleared.apply r).settings = r.settings := by
    funext v
    cases v <;> rfl
  unfold CostRecord.request CostRecord.currentSettings
  rw [hsettings, CostUpdate.cleared_attrs]

theorem CostRecord.refreshed_cleared {r : CostRecord K} (hreq : r.request g = none) :
    (CostUpdate.cleared.apply r).Refreshed ops g := by
  unfold CostRecord.Refreshed
  rw [CostRecord.request_cleared, hreq]
  rfl

/-- The calculation of an incomplete record clears it and raises. -/
theorem calculatePv_incomplete {s : CostDb Node K} {node : Node} {r : CostRecord K}
    (hr : s.costs.lookup node = some r) (hg : getPvSettings s.settings = .ok g)
    (hreq : r.request g = none) :
    calculatePvForExistingTmntInDb ops s node =
      (s.upsert node .cleared, .error .validationError) := by
  have hreq' : (exactPv ops).request r.toCostAttrs (r.currentSettings g) = none := hreq
  simp only [calculatePvForExistingTmntInDb, PVComputation.calculatePvForExistingTmntInDb, hr, hg,
    hreq']

theorem calculatePv_error {s : CostDb Node K} {node : Node} {r : CostRecord K}
    {req : PVRequest K} {e : PyError} (hr : s.costs.lookup node = some r)
    (hg : getPvSettings s.settings = .ok g) (hreq : r.request g = some req)
    (hres : computeBmpPv ops req = .error e) :
    calculatePvForExistingTmntInDb ops s node = (s, .error e) := by
  have hreq' : (exactPv ops).request r.toCostAttrs (r.currentSettings g) = some req := hreq
  have hcompute : (exactPv ops).compute req = .error e :=
    congrArg (Except.map PVResults.toUpdate) hres
  simp only [calculatePvForExistingTmntInDb, PVComputation.calculatePvForExistingTmntInDb, hr, hg,
    hreq', hcompute]

theorem calculatePv_ok {s : CostDb Node K} {node : Node} {r : CostRecord K}
    {req : PVRequest K} {res : PVResults K} (hr : s.costs.lookup node = some r)
    (hg : getPvSettings s.settings = .ok g) (hreq : r.request g = some req)
    (hres : computeBmpPv ops req = .ok res) :
    calculatePvForExistingTmntInDb ops s node = (s.upsert node res.toUpdate, .ok ()) := by
  have hreq' : (exactPv ops).request r.toCostAttrs (r.currentSettings g) = some req := hreq
  have hcompute : (exactPv ops).compute req = .ok res.toUpdate :=
    congrArg (Except.map PVResults.toUpdate) hres
  simp only [calculatePvForExistingTmntInDb, PVComputation.calculatePvForExistingTmntInDb, hr, hg,
    hreq', hcompute]

/-! ### The loop -/

/-- A calculation changes no other record. -/
theorem calculatePv_lookup_ne (ops : FloatOps K) (s : CostDb Node K) {node other : Node}
    (h : other ≠ node) :
    (calculatePvForExistingTmntInDb ops s node).1.costs.lookup other =
      s.costs.lookup other := by
  rcases calculatePv_cases ops s node with hs | hs | ⟨-, -, -, res, -, -, -, hs⟩
  · rw [hs]
  · rw [hs, CostDb.lookup_upsert_ne s h]
  · rw [hs, CostDb.lookup_upsert_ne s h]

/-- The loop changes no other record. -/
theorem refreshEach_lookup_of_notMem {s : CostDb Node K} {nodes : List Node} {other : Node}
    (h : other ∉ nodes) :
    (refreshEach ops s nodes).1.costs.lookup other = s.costs.lookup other := by
  induction nodes generalizing s with
  | nil => rfl
  | cons node nodes ih =>
    rw [List.mem_cons, not_or] at h
    have hstep := calculatePv_lookup_ne ops s h.1
    rw [refreshEach]
    split
    · rename_i s' e hcalc
      rwa [hcalc] at hstep
    · rename_i s' hcalc
      rw [ih h.2]
      rwa [hcalc] at hstep

/-- Every record of `nodes` is refreshed in `s`. -/
def RefreshedIn (ops : FloatOps K) (g : CostVariable → Option K) (s : CostDb Node K)
    (nodes : List Node) : Prop :=
  ∀ node ∈ nodes, ∀ r, s.costs.lookup node = some r → r.Refreshed ops g

theorem refreshedIn_cons {s : CostDb Node K} {node : Node} {nodes : List Node}
    {r : CostRecord K} (hr : s.costs.lookup node = some r) :
    RefreshedIn ops g s (node :: nodes) ↔ r.Refreshed ops g ∧ RefreshedIn ops g s nodes := by
  simp [RefreshedIn, hr]

theorem refreshedIn_congr {s t : CostDb Node K} {nodes : List Node}
    (h : ∀ node ∈ nodes, s.costs.lookup node = t.costs.lookup node) :
    RefreshedIn ops g s nodes ↔ RefreshedIn ops g t nodes := by
  refine forall₂_congr fun node hnode => ?_
  rw [h node hnode]

/-- Whether the loop leaves all its records refreshed is decided by the records it starts with. -/
theorem refreshEach_refreshedIn {s : CostDb Node K} (hg : getPvSettings s.settings = .ok g)
    {entries : List (Node × CostRecord K)} (hnd : (entries.map Prod.fst).Nodup)
    (hs : ∀ e ∈ entries, s.costs.lookup e.1 = some e.2) :
    RefreshedIn ops g (refreshEach ops s (entries.map Prod.fst)).1 (entries.map Prod.fst) ↔
      ReachesAll ops g (entries.map Prod.snd) := by
  induction entries generalizing s with
  | nil => simp [RefreshedIn, reachesAll_nil]
  | cons e entries ih =>
    obtain ⟨node, r⟩ := e
    rw [List.map_cons, List.map_cons] at *
    obtain ⟨hnode, hnd⟩ := List.nodup_cons.1 hnd
    have hr : s.costs.lookup node = some r := hs (node, r) List.mem_cons_self
    have hrest : ∀ e ∈ entries, s.costs.lookup e.1 = some e.2 := fun e he =>
      hs e (List.mem_cons_of_mem _ he)
    have hother : ∀ u, ∀ other ∈ entries.map Prod.fst,
        (s.upsert node u).costs.lookup other = s.costs.lookup other := fun u other hmem =>
      s.lookup_upsert_ne (by rintro rfl; exact hnode hmem) u
    have hself : ∀ u, (s.upsert node u).costs.lookup node = some (u.apply r) := fun u => by
      rw [CostDb.lookup_upsert_self, hr, Option.getD_some]
    have hstart : RefreshedIn ops g s (entries.map Prod.fst) ↔
        ∀ r' ∈ entries.map Prod.snd, r'.Refreshed ops g := by
      simp only [RefreshedIn, List.forall_mem_map]
      refine forall₂_congr fun e he => ?_
      simp [hrest e he]
    rw [refreshEach]
    cases hreq : r.request g with
    | none =>
      -- the record is cleared, and the loop is left
      simp only [calculatePv_incomplete hr hg hreq]
      rw [refreshedIn_cons (hself _), reachesAll_cons_incomplete hreq,
        refreshedIn_congr (hother _), hstart]
      exact and_iff_right (CostRecord.refreshed_cleared hreq)
    | some req =>
      rw [reachesAll_cons_complete hreq]
      cases hres : computeBmpPv ops req with
      | error e =>
        -- the record stays as it is, and the loop is left
        simp only [calculatePv_error hr hg hreq hres]
        rw [refreshedIn_cons hr]
        have hno : ¬ r.Refreshed ops g := by
          unfold CostRecord.Refreshed
          simp [hreq, hres, Except.toOption]
        have hno' : ¬ r.Computes ops g := by
          simp [CostRecord.Computes, hreq, hres, Except.toOption]
        tauto
      | ok res =>
        simp only [calculatePv_ok hr hg hreq hres]
        have hafter : (refreshEach ops (s.upsert node res.toUpdate)
            (entries.map Prod.fst)).1.costs.lookup node = some (res.toUpdate.apply r) := by
          rw [refreshEach_lookup_of_notMem hnode, hself]
        have hyes : r.Computes ops g := ⟨req, hreq, res, toOption_eq_some.2 hres, trivial⟩
        have hloop := ih (s := s.upsert node res.toUpdate) hg hnd fun e he => by
          rw [hother _ _ (List.mem_map_of_mem he)]
          exact hrest e he
        rw [refreshedIn_cons hafter, hloop]
        exact and_congr_left' (iff_of_true (CostRecord.refreshed_results hreq hres) hyes)

/-- The records with their keys, in the order in which `get_all` lists them. -/
def CostDb.records (s : CostDb Node K) : List (Node × CostRecord K) :=
  s.costs.entries.map fun e => (e.1, e.2)

omit [DecidableEq Node] [Field K] [LinearOrder K] [FloorRing K] in
theorem CostDb.records_keys (s : CostDb Node K) : s.records.map Prod.fst = s.costs.keys := by
  rw [CostDb.records, List.map_map]
  rfl

omit [Field K] [LinearOrder K] [FloorRing K] in
theorem CostDb.lookup_of_mem_records {s : CostDb Node K} {e : Node × CostRecord K}
    (he : e ∈ s.records) : s.costs.lookup e.1 = some e.2 := by
  obtain ⟨x, hx, rfl⟩ := List.mem_map.1 he
  exact AList.mem_lookup_iff.2 hx

theorem refreshPv_fst (s : CostDb Node K) :
    (refreshPvForAllExistingTmnt ops s).1 = (refreshEach ops s s.costs.keys).1 := by
  unfold refreshPvForAllExistingTmnt
  split
  · rename_i hkeys
    rw [hkeys]
    rfl
  · rfl

/-- **Refresh-all refreshes all exactly when it reaches all.** -/
theorem refreshed_iff (s : CostDb Node K) (hg : getPvSettings s.settings = .ok g) :
    (refreshPvForAllExistingTmnt ops s).1.Refreshed ops g ↔
      ReachesAll ops g (s.records.map Prod.snd) := by
  have hnd : (s.records.map Prod.fst).Nodup := by
    rw [s.records_keys]
    exact s.costs.keys_nodup
  rw [← refreshEach_refreshedIn hg hnd fun e he => CostDb.lookup_of_mem_records he,
    s.records_keys, refreshPv_fst]
  refine ⟨fun h node _ r hr => h node r hr, fun h node r hr => ?_⟩
  by_cases hnode : node ∈ s.costs.keys
  · exact h node hnode r hr
  · rw [refreshEach_lookup_of_notMem hnode, AList.lookup_eq_none.2 hnode] at hr
    cases hr

/-! ### Examples -/

/-- Two facilities without results, the first one without a yearly cost. -/
def incompleteFirst : CostDb String ℚ :=
  { exampleCostDb with
    costs := [⟨"SWFA-100002", { CostRecord.empty with capitalCost := some 100 }⟩,
      ⟨"SWFA-100018",
        { CostRecord.empty with capitalCost := some 100, omCostPerYr := some 10 }⟩].toAList }

/-- The same facilities, with the incomplete one last. -/
def incompleteLast : CostDb String ℚ :=
  { incompleteFirst with costs := incompleteFirst.costs.entries.reverse.toAList }

/-- The settings of the examples. -/
def exampleSettings (v : CostVariable) : Option ℚ := (exampleCostDb.settings v).join

theorem refreshed_iff_incompleteLast :
    (refreshPvForAllExistingTmnt .wholeYears incompleteLast).1.Refreshed .wholeYears
        exampleSettings :=
  (refreshed_iff incompleteLast rfl).2 (by decide +kernel)

/-- **An incomplete record ends the refresh.**  The second facility is complete, and its present
values stay null. -/
theorem not_refreshed_after_incomplete :
    ∃ r ∈ (refreshPvForAllExistingTmnt .wholeYears incompleteFirst).1.costs.lookup "SWFA-100018",
      r.Complete exampleSettings ∧ r.presentValueTotalCost = none ∧
        ¬ r.Refreshed .wholeYears exampleSettings := by
  decide +kernel

end StormPiper
