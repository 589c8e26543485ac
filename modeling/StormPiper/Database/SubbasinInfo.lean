import Mathlib.Algebra.Order.Field.Basic
import Mathlib.Tactic.Linarith
import StormPiper.Database.Views
import StormPiper.Python.Basic

/-!
# The summary of a subbasin

`subbasininfo_v` joins eight sub-queries with different groups to the table `subbasin`.  Where the
names of the tables are unique each of them has at most one row for a subbasin, so that the view has
one row for each, with the sums of the areas of its own pieces.  But the view divides by the total
area, the area of the subbasin and the volume of the runoff without asking whether they are zero,
and a division by zero ends the query.

* `Tables.areaOf` : what an area of the view is the sum of.
* `Tables.Summarised` : the view has one row for each subbasin, with the right areas.
* `Tables.DivisionSafe` : no dividend stands over a zero.
* `subbasininfoV_summarised_iff` : the view is right exactly if no division is by zero.
-/

namespace StormPiper

namespace Views

variable {A G K : Type} [Field K] [LinearOrder K]

section Statement

variable (stArea : G → K) (tables : Tables A G K)

/-- The piece is treated by a facility with a property. -/
def Tables.treatedBy (p : TMNTFacility → Bool) (lgu : LguBoundary G) : Bool :=
  tables.tmntFacility.any fun f => Sql.eq f.altid lgu.relid && p f

/-- The sum of the areas of the pieces of a subbasin with a property, null where there is none. -/
def Tables.areaOf (p : LguBoundary G → Bool) (s : Subbasin A K) : Option K :=
  Sql.sum ((tables.lguBoundary.filter fun lgu => Sql.eq lgu.subbasin s.subbasin && p lgu).map
    (areaAcres stArea))

/-- The result is of a land surface on a piece of the subbasin. -/
def Tables.isResultOf (s : Subbasin A K) (r : ResultBlob K) : Bool :=
  r.isLandSurface && tables.lguBoundary.any fun lgu =>
    Sql.eq lgu.nodeId (some r.nodeId) && Sql.eq lgu.subbasin s.subbasin

/-- The names of the tables are unique, as far as they are not null, the basin is that of the
subbasin, and no area is negative. -/
structure Tables.Valid : Prop where
  nodup_subbasin : (tables.subbasin.filterMap (·.subbasin)).Nodup
  nodup_altid : (tables.tmntFacility.filterMap (·.altid)).Nodup
  nodup_nodeId : (tables.lguBoundary.filterMap (·.nodeId)).Nodup
  nodup_result : (tables.subbasinResult.filterMap fun r =>
    r.subbasin.bind fun s => r.epoch.map fun e => (s, e)).Nodup
  basinname_eq : ∀ lgu ∈ tables.lguBoundary, ∀ lgu' ∈ tables.lguBoundary, lgu.subbasin.isSome →
    lgu.subbasin = lgu'.subbasin → lgu.basinname = lgu'.basinname
  stArea_nonneg : ∀ lgu ∈ tables.lguBoundary, ∀ g ∈ lgu.geom, 0 ≤ stArea g

variable {tables}

/-- The areas of a row of the view are the sums over the pieces of its subbasin. -/
structure SubbasinInfo.Sums (tables : Tables A G K) (r : SubbasinInfo A K) : Prop where
  total_eq : r.ts.bind (·.totalAreaAcres) = tables.areaOf stArea (fun _ => true) r.s
  treated_eq : r.ts.bind (·.treatedAreaAcres) =
    tables.areaOf stArea (tables.treatedBy fun _ => true) r.s
  basicwq_eq : r.ts.bind (·.basicwqAreaAcres) =
    tables.areaOf stArea (tables.treatedBy fun f => f.waterqualitytype = some "Basic") r.s
  enhwq_eq : r.ts.bind (·.enhwqAreaAcres) =
    tables.areaOf stArea (tables.treatedBy fun f => f.waterqualitytype = some "Enhanced") r.s
  fc_eq : r.ts.bind (·.fcAreaAcres) =
    tables.areaOf stArea (tables.treatedBy fun f => f.flowcontroltype.isSome) r.s
  eff_eq : r.ts.bind (·.effAreaAcres) =
    Sql.sum ((tables.resultBlob.filter (tables.isResultOf r.s)).map (·.effAreaAcres))

/-- The treated areas are no larger than the whole, and neither are their percentages. -/
structure SubbasinInfo.Bounded (r : SubbasinInfo A K) : Prop where
  basicwq_add_enhwq_le : (r.ts.bind (·.basicwqAreaAcres)).getD 0 +
    (r.ts.bind (·.enhwqAreaAcres)).getD 0 ≤ (r.ts.bind (·.treatedAreaAcres)).getD 0
  treated_le : (r.ts.bind (·.treatedAreaAcres)).getD 0 ≤ (r.ts.bind (·.totalAreaAcres)).getD 0
  pct_mem : ∀ col ∈ [TmntSummary.treatedAreaPct, TmntSummary.basicwqAreaPct,
    TmntSummary.enhwqAreaPct, TmntSummary.fcAreaPct], ∀ p ∈ r.ts.bind col,
    (∃ a ∈ r.ts.bind (·.totalAreaAcres), 0 < a) → 0 ≤ p ∧ p ≤ 100

variable (tables)

/-- The view has one row for each subbasin, with the right areas. -/
def Tables.Summarised : Prop :=
  ∃ rows, subbasininfoV stArea tables = .ok rows ∧ (rows.map (·.s)).Perm tables.subbasin ∧
    ∀ r ∈ rows, r.Sums stArea tables ∧ r.Bounded

/-- The pieces of the subbasin that have an area all have the area 0. -/
def Tables.ZeroArea (s : Subbasin A K) : Prop :=
  (∃ lgu ∈ tables.lguBoundary, Sql.eq lgu.subbasin s.subbasin ∧ lgu.geom.isSome) ∧
  ∀ lgu ∈ tables.lguBoundary, Sql.eq lgu.subbasin s.subbasin → ∀ g ∈ lgu.geom, stArea g = 0

/-- A result of the epoch that the view shows belongs to the subbasin. -/
def Tables.HasResult (s : Subbasin A K) (sr : SubbasinResult K) : Prop :=
  sr ∈ tables.subbasinResult ∧ Sql.eq sr.subbasin s.subbasin ∧ sr.epoch = some "1980s"

/-- No dividend stands over a zero: a subbasin whose area is 0 in `lgu_boundary` has no area that is
treated and no effective area, one whose own area is 0 has no runoff and no loads, and where the
runoff is 0 there are no loads. -/
structure Tables.DivisionSafe : Prop where
  treated_none : ∀ s ∈ tables.subbasin, tables.ZeroArea stArea s → ∀ lgu ∈ tables.lguBoundary,
    Sql.eq lgu.subbasin s.subbasin → tables.treatedBy (fun _ => true) lgu → lgu.geom = none
  eff_none : ∀ s ∈ tables.subbasin, tables.ZeroArea stArea s → ∀ r ∈ tables.resultBlob,
    tables.isResultOf s r → r.effAreaAcres = none
  result_none : ∀ s ∈ tables.subbasin, ∀ sr, tables.HasResult s sr → s.areaAcres = some 0 →
    sr.value "runoff_volume_cuft" = none ∧ ∀ n ∈ loadCols, sr.value n = none
  load_none : ∀ s ∈ tables.subbasin, ∀ sr, tables.HasResult s sr →
    sr.value "runoff_volume_cuft" = some 0 → ∀ n ∈ loadCols, sr.value n = none

end Statement

/-! ### Divisions -/

section Divisions

theorem exists_pct_eq_ok {x total : Option K} :
    (∃ z, pct x total = .ok z) ↔ (total = some 0 → x = none) := by
  rw [← Sql.exists_div_eq_ok]
  simp only [pct, bind_eq_ok_iff, pure_eq_ok]
  constructor
  · rintro ⟨_, y, hy, -⟩
    exact ⟨y, hy⟩
  · rintro ⟨y, hy⟩
    exact ⟨_, y, hy, rfl⟩

/-- A percentage of something that is no larger than the whole. -/
theorem pct_mem [IsStrictOrderedRing K] {x total z : Option K} (h : pct x total = .ok z)
    (hx : 0 ≤ x.getD 0) (hle : x.getD 0 ≤ total.getD 0) {p : K} (hp : p ∈ z) :
    0 ≤ p ∧ p ≤ 100 := by
  obtain ⟨y, hy, hz⟩ := bind_eq_ok_iff.1 h
  obtain rfl := pure_eq_ok.1 hz
  cases x with
  | none =>
    obtain rfl : y = none := (Except.ok.inj hy).symm
    cases hp
  | some a =>
    cases total with
    | none =>
      obtain rfl : y = none := (Except.ok.inj hy).symm
      cases hp
    | some b =>
      simp only [Option.getD_some] at hx hle
      rw [Sql.div_some_some] at hy
      split_ifs at hy with hb
      obtain rfl : y = some (a / b) := (Except.ok.inj hy).symm
      obtain rfl : ((100 : ℕ) : K) * (a / b) = p := Option.some.inj hp
      have hpos : 0 < b := lt_of_le_of_ne (hx.trans hle) (Ne.symm hb)
      have hdiv : a / b ≤ 1 := (div_le_one hpos).2 hle
      have hnonneg : 0 ≤ a / b := div_nonneg hx hpos.le
      push_cast
      exact ⟨by linarith, by linarith⟩

/-- The summary of a row has the areas of the row and their percentages. -/
theorem summary_eq_ok {x : Joined A K} {t : TmntSummary K} (h : x.summary = .ok t) :
    t.subbasin = x.s.subbasin ∧ t.totalAreaAcres = x.totalAreaAcres ∧
    t.treatedAreaAcres = x.treatedAreaAcres ∧ t.basicwqAreaAcres = x.basicwqAreaAcres ∧
    t.enhwqAreaAcres = x.enhwqAreaAcres ∧ t.fcAreaAcres = x.fcAreaAcres ∧
    t.effAreaAcres = x.effAreaAcres ∧
    pct x.treatedAreaAcres x.totalAreaAcres = .ok t.treatedAreaPct ∧
    pct x.basicwqAreaAcres x.totalAreaAcres = .ok t.basicwqAreaPct ∧
    pct x.enhwqAreaAcres x.totalAreaAcres = .ok t.enhwqAreaPct ∧
    pct x.fcAreaAcres x.totalAreaAcres = .ok t.fcAreaPct := by
  simp only [Joined.summary, bind_eq_ok_iff, pure_eq_ok] at h
  obtain ⟨_, htreated, _, hbasic, _, henh, _, hfc, _, -, rfl⟩ := h
  exact ⟨rfl, rfl, rfl, rfl, rfl, rfl, rfl, htreated, hbasic, henh, hfc⟩

theorem exists_summary_eq_ok {x : Joined A K} : (∃ t, x.summary = .ok t) ↔
    (x.totalAreaAcres = some 0 → x.treatedAreaAcres = none ∧ x.basicwqAreaAcres = none ∧
      x.enhwqAreaAcres = none ∧ x.fcAreaAcres = none ∧ x.effAreaAcres = none) := by
  simp only [imp_and, ← exists_pct_eq_ok]
  simp only [Joined.summary, bind_eq_ok_iff, pure_eq_ok]
  constructor
  · rintro ⟨_, a, ha, b, hb, c, hc, d, hd, e, he, -⟩
    exact ⟨⟨a, ha⟩, ⟨b, hb⟩, ⟨c, hc⟩, ⟨d, hd⟩, e, he⟩
  · rintro ⟨⟨a, ha⟩, ⟨b, hb⟩, ⟨c, hc⟩, ⟨d, hd⟩, e, he⟩
    exact ⟨_, a, ha, b, hb, c, hc, d, hd, e, he, rfl⟩

theorem exists_wqResult_eq_ok {s : Subbasin A K} {sr : SubbasinResult K} :
    (∃ w, wqResult s (some sr) = .ok w) ↔
      (s.areaAcres = some 0 →
        sr.value "runoff_volume_cuft" = none ∧ ∀ n ∈ loadCols, sr.value n = none) ∧
      (sr.value "runoff_volume_cuft" = some 0 → ∀ n ∈ loadCols, sr.value n = none) := by
  have hmul : Sql.mul (sr.value "runoff_volume_cuft") (some cuftPerAcreToInch) = none ↔
      sr.value "runoff_volume_cuft" = none := by
    cases sr.value "runoff_volume_cuft" <;> simp [Sql.mul]
  have hcond : ((s.areaAcres = some 0 →
        sr.value "runoff_volume_cuft" = none ∧ ∀ n ∈ loadCols, sr.value n = none) ∧
      (sr.value "runoff_volume_cuft" = some 0 → ∀ n ∈ loadCols, sr.value n = none)) ↔
      (∀ n ∈ loadCols, sr.value "runoff_volume_cuft" = some 0 → sr.value n = none) ∧
      (s.areaAcres = some 0 →
        Sql.mul (sr.value "runoff_volume_cuft") (some cuftPerAcreToInch) = none) ∧
      ∀ n ∈ loadCols, s.areaAcres = some 0 → sr.value n = none := by
    rw [hmul]
    tauto
  rw [hcond]
  simp only [← Sql.exists_div_eq_ok, ← exists_mapM_eq_ok]
  simp only [wqResult, bind_eq_ok_iff, pure_eq_ok, Option.bind_some]
  constructor
  · rintro ⟨_, concs, hconcs, depth, hdepth, yields, hyields, -⟩
    exact ⟨⟨concs, hconcs⟩, ⟨depth, hdepth⟩, yields, hyields⟩
  · rintro ⟨⟨concs, hconcs⟩, ⟨depth, hdepth⟩, yields, hyields⟩
    exact ⟨_, concs, hconcs, depth, hdepth, yields, hyields, rfl⟩

theorem subbasin_wqResult {s : Subbasin A K} {sr : Option (SubbasinResult K)} {w : WqResult K}
    (h : wqResult s sr = .ok w) : w.subbasin = s.subbasin := by
  simp only [wqResult, bind_eq_ok_iff, pure_eq_ok] at h
  obtain ⟨concs, -, depth, -, yields, -, rfl⟩ := h
  rfl

end Divisions

/-! ### The joins of the summary -/

section Joins

variable {stArea : G → K} {tables : Tables A G K}

omit [Field K] [LinearOrder K] in
/-- A join with the groups of a sub-query sets the column to the aggregate of the rows of the
subbasin. -/
theorem leftJoinOn_groupBy {α κ C : Type} [DecidableEq κ] (key : α → κ)
    (col : κ → Option String) {rows : List α} (f : List α → Option C)
    (set : Joined A K → Option C → Joined A K) (left : List (Joined A K))
    (hdet : ∀ a ∈ rows, ∀ a' ∈ rows, (col (key a)).isSome → col (key a) = col (key a') →
      key a = key a') :
    leftJoinOn ((Sql.groupBy key rows).map fun g => (col g.1, f g.2)) set left =
      left.map fun x => set x
        ((if rows.any fun a => Sql.eq (col (key a)) x.s.subbasin then some (x.s.subbasin,
          f (rows.filter fun a => Sql.eq (col (key a)) x.s.subbasin)) else none).bind (·.2)) := by
  rw [leftJoinOn, Sql.leftJoin_groupBy f left hdet, List.map_map]
  rfl

/-- The facility of a piece. -/
def Tables.facility (tables : Tables A G K) (lgu : LguBoundary G) : Option TMNTFacility :=
  tables.tmntFacility.find? fun f => Sql.eq f.altid lgu.relid

/-- The row of `Q` of a piece. -/
def Tables.qRow (stArea : G → K) (tables : Tables A G K) (lgu : LguBoundary G) : QRow K where
  relid := lgu.relid
  subbasin := lgu.subbasin
  areaAcres := areaAcres stArea lgu
  altid := (tables.facility lgu).bind (·.altid)
  flowcontroltype := (tables.facility lgu).bind (·.flowcontroltype)
  waterqualitytype := (tables.facility lgu).bind (·.waterqualitytype)

theorem q_eq (h : tables.Valid stArea) :
    q stArea tables = tables.lguBoundary.map (tables.qRow stArea) := by
  rw [q, Sql.leftJoin_eq_map, List.map_map]
  · rfl
  · exact fun lgu _ => Sql.length_filter_eq_le_one h.nodup_altid lgu.relid

theorem leftJoinOn_areaBySubbasin (h : tables.Valid stArea) {where_ : QRow K → Bool}
    {p : LguBoundary G → Bool} (hp : ∀ lgu, where_ (tables.qRow stArea lgu) = p lgu)
    (set : Joined A K → Option K → Joined A K) (left : List (Joined A K)) :
    leftJoinOn (areaBySubbasin where_ (q stArea tables)) set left =
      left.map fun x => set x (tables.areaOf stArea p x.s) := by
  rw [areaBySubbasin, leftJoinOn_groupBy QRow.subbasin (fun k => k)
    (fun rows => Sql.sum (rows.map (·.areaAcres))) set left]
  · refine List.map_congr_left fun x _ => congrArg (set x) ?_
    rw [Sql.bind_sum, q_eq h, List.filter_filter, List.filter_map, List.map_map]
    unfold Tables.areaOf
    have hfilter : (tables.lguBoundary.filter ((fun r : QRow K =>
        Sql.eq r.subbasin x.s.subbasin && where_ r) ∘ tables.qRow stArea)) =
        tables.lguBoundary.filter fun lgu => Sql.eq lgu.subbasin x.s.subbasin && p lgu :=
      List.filter_congr fun lgu _ => congrArg (Sql.eq lgu.subbasin x.s.subbasin && ·) (hp lgu)
    rw [hfilter]
    rfl
  · exact fun _ _ _ _ _ => id

theorem res_eq (h : tables.Valid stArea) :
    res tables = (tables.resultBlob.filter (·.isLandSurface)).map fun r =>
      let lb := tables.lguBoundary.find? fun lb => Sql.eq lb.nodeId (some r.nodeId)
      ⟨r.nodeId, r.areaAcres, r.effAreaAcres, lb.bind (·.subbasin), lb.bind (·.basinname)⟩ := by
  rw [res, Sql.leftJoin_eq_map, List.filter_map, List.map_map]
  · rfl
  · exact fun r _ => Sql.length_filter_eq_le_one h.nodup_nodeId (some r.nodeId)

/-- The basin of a row of `RES` is that of its subbasin. -/
theorem basinname_res (h : tables.Valid stArea) {r r' : ResRow K} (hr : r ∈ res tables)
    (hr' : r' ∈ res tables) (hsome : r.subbasin.isSome) (heq : r.subbasin = r'.subbasin) :
    r.basinname = r'.basinname := by
  have hpiece : ∀ r ∈ res tables, r.subbasin.isSome → ∃ lgu ∈ tables.lguBoundary,
      r.subbasin = lgu.subbasin ∧ r.basinname = lgu.basinname := by
    intro r hr hsome
    rw [res_eq h] at hr
    obtain ⟨b, -, rfl⟩ := List.mem_map.1 hr
    dsimp only at hsome ⊢
    cases hlb : tables.lguBoundary.find? fun lb => Sql.eq lb.nodeId (some b.nodeId) with
    | none =>
      rw [hlb] at hsome
      cases hsome
    | some lgu => exact ⟨lgu, List.mem_of_find?_eq_some hlb, rfl, rfl⟩
  obtain ⟨lgu, hmem, hsub, hbasin⟩ := hpiece r hr hsome
  obtain ⟨lgu', hmem', hsub', hbasin'⟩ := hpiece r' hr' (heq ▸ hsome)
  rw [hbasin, hbasin']
  exact h.basinname_eq lgu hmem lgu' hmem' (hsub ▸ hsome) (hsub ▸ hsub' ▸ heq)

theorem leftJoinOn_effArea (h : tables.Valid stArea) (set : Joined A K → Option K → Joined A K)
    (left : List (Joined A K)) : leftJoinOn (effArea tables) set left = left.map fun x => set x
      (Sql.sum ((tables.resultBlob.filter (tables.isResultOf x.s)).map (·.effAreaAcres))) := by
  rw [effArea, leftJoinOn_groupBy (fun r : ResRow K => (r.subbasin, r.basinname)) Prod.fst
    (fun rows => Sql.sum (rows.map (·.effAreaAcres))) set left]
  · refine List.map_congr_left fun x _ => congrArg (set x) ?_
    rw [Sql.bind_sum, res_eq h, List.filter_map, List.map_map, List.filter_filter]
    have hfilter : ∀ r : ResultBlob K,
        (Sql.eq ((tables.lguBoundary.find? fun lb => Sql.eq lb.nodeId (some r.nodeId)).bind
          (·.subbasin)) x.s.subbasin && r.isLandSurface) = tables.isResultOf x.s r := by
      intro r
      rw [Tables.isResultOf, Bool.and_comm, ← Sql.any_find? h.nodup_nodeId]
      congr 1
      cases tables.lguBoundary.find? fun lb => Sql.eq lb.nodeId (some r.nodeId) <;> rfl
    rw [← List.filter_congr fun r _ => hfilter r]
    rfl
  · rintro r hr r' hr' hsome heq
    exact Prod.ext heq (basinname_res h hr hr' hsome heq)

theorem treatedBy_eq (h : tables.Valid stArea) (p : TMNTFacility → Bool) (lgu : LguBoundary G) :
    tables.treatedBy p lgu = (tables.facility lgu).any p :=
  (Sql.any_find? h.nodup_altid lgu.relid p).symm

omit [Field K] [LinearOrder K] in
theorem treatedBy_of_treatedBy {p : TMNTFacility → Bool} {lgu : LguBoundary G}
    (h : tables.treatedBy p lgu) : tables.treatedBy (fun _ => true) lgu := by
  obtain ⟨f, hf, hboth⟩ := List.any_eq_true.1 h
  obtain ⟨haltid, -⟩ := Bool.and_eq_true_iff.1 hboth
  exact List.any_eq_true.2 ⟨f, hf, by rw [haltid]; rfl⟩

/-- The facility of a piece has one type. -/
theorem not_treatedBy_enhanced (h : tables.Valid stArea) (lgu : LguBoundary G)
    (hbasic : tables.treatedBy (fun f => f.waterqualitytype = some "Basic") lgu) :
    ¬ tables.treatedBy (fun f => f.waterqualitytype = some "Enhanced") lgu := by
  rw [treatedBy_eq h] at hbasic ⊢
  cases hf : tables.facility lgu with
  | none => simp
  | some f =>
    rw [hf, Option.any_some, decide_eq_true_iff] at hbasic
    simp [hbasic]

theorem eq_waterqualitytype (h : tables.Valid stArea) (type : String) (lgu : LguBoundary G) :
    Sql.eq (tables.qRow stArea lgu).waterqualitytype (some type) =
      tables.treatedBy (fun f => f.waterqualitytype = some type) lgu := by
  rw [treatedBy_eq h, Bool.eq_iff_iff, Sql.eq_some_iff, Tables.qRow]
  cases tables.facility lgu with
  | none => simp
  | some f => simp

theorem isSome_flowcontroltype (h : tables.Valid stArea) (lgu : LguBoundary G) :
    (tables.qRow stArea lgu).flowcontroltype.isSome =
      tables.treatedBy (fun f => f.flowcontroltype.isSome) lgu := by
  rw [treatedBy_eq h, Tables.qRow]
  cases tables.facility lgu <;> rfl

theorem isSome_altid (h : tables.Valid stArea) (lgu : LguBoundary G) :
    (tables.qRow stArea lgu).altid.isSome = tables.treatedBy (fun _ => true) lgu := by
  rw [treatedBy_eq h, Tables.qRow]
  cases hf : tables.facility lgu with
  | none => rfl
  | some f =>
    -- a facility that is found has an id
    have hfound : Sql.eq f.altid lgu.relid = true :=
      List.find?_some (p := fun f : TMNTFacility => Sql.eq f.altid lgu.relid) hf
    exact (Sql.eq_iff.1 hfound).1

/-- The row of a subbasin after all joins. -/
def Tables.joinedRow (stArea : G → K) (tables : Tables A G K) (s : Subbasin A K) :
    Joined A K where
  s := s
  tmntFacilityCount :=
    if tables.lguBoundary.any fun lgu => Sql.eq lgu.subbasin s.subbasin then
      some (Sql.countDistinct ((tables.lguBoundary.filter fun lgu =>
        Sql.eq lgu.subbasin s.subbasin).map (·.relid))) else none
  treatedAreaAcres := tables.areaOf stArea (tables.treatedBy fun _ => true) s
  totalAreaAcres := tables.areaOf stArea (fun _ => true) s
  basicwqAreaAcres :=
    tables.areaOf stArea (tables.treatedBy fun f => f.waterqualitytype = some "Basic") s
  enhwqAreaAcres :=
    tables.areaOf stArea (tables.treatedBy fun f => f.waterqualitytype = some "Enhanced") s
  fcAreaAcres := tables.areaOf stArea (tables.treatedBy fun f => f.flowcontroltype.isSome) s
  effAreaAcres :=
    Sql.sum ((tables.resultBlob.filter (tables.isResultOf s)).map (·.effAreaAcres))

omit [Field K] [LinearOrder K] in
theorem leftJoinOn_tmntCount (set : Joined A K → Option ℕ → Joined A K)
    (left : List (Joined A K)) : leftJoinOn (tmntCount tables) set left = left.map fun x => set x
      (if tables.lguBoundary.any fun lgu => Sql.eq lgu.subbasin x.s.subbasin then
        some (Sql.countDistinct ((tables.lguBoundary.filter fun lgu =>
          Sql.eq lgu.subbasin x.s.subbasin).map (·.relid))) else none) := by
  rw [tmntCount, leftJoinOn_groupBy LguBoundary.subbasin (fun k => k)
    (fun rows => some (Sql.countDistinct (rows.map (·.relid)))) set left fun _ _ _ _ _ => id]
  refine List.map_congr_left fun x _ => congrArg (set x) ?_
  split_ifs <;> rfl

/-- **No join has two rows for a subbasin.** -/
theorem joined_eq (h : tables.Valid stArea) :
    joined stArea tables = tables.subbasin.map (tables.joinedRow stArea) := by
  unfold joined
  rw [leftJoinOn_tmntCount, tmntArea, leftJoinOn_areaBySubbasin h (isSome_altid h), totalArea,
    leftJoinOn_areaBySubbasin h fun _ => rfl, basicWqArea,
    leftJoinOn_areaBySubbasin h (eq_waterqualitytype h "Basic"), enhWqArea,
    leftJoinOn_areaBySubbasin h (eq_waterqualitytype h "Enhanced"), fcArea,
    leftJoinOn_areaBySubbasin h (isSome_flowcontroltype h), leftJoinOn_effArea h]
  simp only [List.map_map]
  rfl

end Joins

/-! ### Areas -/

section Areas

variable {stArea : G → K} {tables : Tables A G K} {s : Subbasin A K}

omit [LinearOrder K] in
theorem areaOf_eq_none_iff {p : LguBoundary G → Bool} : tables.areaOf stArea p s = none ↔
    ∀ lgu ∈ tables.lguBoundary, Sql.eq lgu.subbasin s.subbasin → p lgu → lgu.geom = none := by
  rw [Tables.areaOf, Sql.sum_eq_none_iff]
  simp only [List.forall_mem_map, List.mem_filter, Bool.and_eq_true, areaAcres,
    Option.map_eq_none_iff, and_imp]

variable [IsStrictOrderedRing K]

theorem areaAcres_nonneg (h : tables.Valid stArea) {lgu : LguBoundary G}
    (hlgu : lgu ∈ tables.lguBoundary) : 0 ≤ (areaAcres stArea lgu).getD 0 := by
  unfold areaAcres
  cases hgeom : lgu.geom with
  | none => exact le_refl _
  | some g => exact div_nonneg (h.stArea_nonneg lgu hlgu g hgeom) (Nat.cast_nonneg _)

theorem areas_nonneg (h : tables.Valid stArea) (p : LguBoundary G → Bool) :
    ∀ x ∈ (tables.lguBoundary.filter p).map ((·.getD 0) ∘ areaAcres stArea), 0 ≤ x := by
  intro x hx
  obtain ⟨lgu, hlgu, rfl⟩ := List.mem_map.1 hx
  exact areaAcres_nonneg h (List.mem_filter.1 hlgu).1

theorem areaOf_nonneg (h : tables.Valid stArea) (p : LguBoundary G → Bool) :
    0 ≤ (tables.areaOf stArea p s).getD 0 := by
  rw [Tables.areaOf, Sql.getD_sum, List.map_map]
  exact List.sum_nonneg (areas_nonneg h _)

/-- Areas of pieces of which none has both properties. -/
theorem areaOf_add_le (h : tables.Valid stArea) {p p' p'' : LguBoundary G → Bool}
    (hp : ∀ lgu, p lgu → p'' lgu) (hp' : ∀ lgu, p' lgu → p'' lgu)
    (hnot : ∀ lgu, p lgu → ¬ p' lgu) :
    (tables.areaOf stArea p s).getD 0 + (tables.areaOf stArea p' s).getD 0 ≤
      (tables.areaOf stArea p'' s).getD 0 := by
  simp only [Tables.areaOf, Sql.sum_filter]
  rw [← List.sum_map_add]
  refine List.sum_le_sum fun lgu hlgu => ?_
  have hnonneg : 0 ≤ (areaAcres stArea lgu).getD 0 := areaAcres_nonneg h hlgu
  cases hs : Sql.eq lgu.subbasin s.subbasin with
  | false => simp
  | true =>
    by_cases h₁ : p lgu
    · simp [h₁, hp lgu h₁, hnot lgu h₁]
    · by_cases h₂ : p' lgu
      · simp [h₁, h₂, hp' lgu h₂]
      · simp only [Bool.true_and, if_neg h₁, if_neg h₂, add_zero]
        split_ifs
        · exact hnonneg
        · exact le_refl _

theorem areaOf_le (h : tables.Valid stArea) {p p' : LguBoundary G → Bool}
    (hp : ∀ lgu, p lgu → p' lgu) :
    (tables.areaOf stArea p s).getD 0 ≤ (tables.areaOf stArea p' s).getD 0 := by
  have hadd : (tables.areaOf stArea p s).getD 0 +
      (tables.areaOf stArea (fun _ => false) s).getD 0 ≤ (tables.areaOf stArea p' s).getD 0 :=
    areaOf_add_le h hp (by simp) (by simp)
  have hnonneg := areaOf_nonneg (s := s) h fun _ => false
  linarith

/-- A total area of 0. -/
theorem areaOf_eq_zero_iff (h : tables.Valid stArea) :
    tables.areaOf stArea (fun _ => true) s = some 0 ↔ tables.ZeroArea stArea s := by
  have hsome : (tables.areaOf stArea (fun _ => true) s).isSome ↔
      ∃ lgu ∈ tables.lguBoundary, Sql.eq lgu.subbasin s.subbasin ∧ lgu.geom.isSome := by
    rw [Option.isSome_iff_ne_none, Ne, areaOf_eq_none_iff]
    simp only [true_implies, not_forall, ← Ne.eq_def, ← Option.isSome_iff_ne_none, exists_prop]
  have hzero : (tables.areaOf stArea (fun _ => true) s).getD 0 = 0 ↔
      ∀ lgu ∈ tables.lguBoundary, Sql.eq lgu.subbasin s.subbasin → ∀ g ∈ lgu.geom,
        stArea g = 0 := by
    rw [Tables.areaOf, Sql.getD_sum, List.map_map]
    simp only [Bool.and_true]
    constructor
    · intro hsum lgu hlgu hsub g hg
      have hmem : lgu ∈ tables.lguBoundary.filter fun lgu => Sql.eq lgu.subbasin s.subbasin :=
        List.mem_filter.2 ⟨hlgu, hsub⟩
      have hle := List.single_le_sum (areas_nonneg h _) _ (List.mem_map_of_mem hmem)
      have harea : stArea g / ((43560 : ℕ) : K) = 0 := by
        refine le_antisymm ?_ (div_nonneg (h.stArea_nonneg lgu hlgu g hg) (Nat.cast_nonneg _))
        rwa [hsum, Function.comp_apply, areaAcres, hg, Option.map_some, Option.getD_some] at hle
      rcases div_eq_zero_iff.1 harea with hg | hfactor
      · exact hg
      · exact absurd hfactor (Nat.cast_ne_zero.2 (by decide))
    · intro hall
      refine List.sum_eq_zero fun x hx => ?_
      obtain ⟨lgu, hlgu, rfl⟩ := List.mem_map.1 hx
      obtain ⟨hmem, hsub⟩ := List.mem_filter.1 hlgu
      rw [Function.comp_apply, areaAcres]
      cases hgeom : lgu.geom with
      | none => rfl
      | some g => rw [Option.map_some, Option.getD_some, hall lgu hmem hsub g hgeom, zero_div]
  rw [Tables.ZeroArea, ← hsome, ← hzero]
  cases tables.areaOf stArea (fun _ => true) s <;> simp

end Areas

/-! ### The rows of the view -/

section Rows

variable {stArea : G → K} {tables : Tables A G K} {s : Subbasin A K}

/-- The summary of a subbasin divides by no zero. -/
theorem exists_summary_joinedRow [IsStrictOrderedRing K] (h : tables.Valid stArea) :
    (∃ t, (tables.joinedRow stArea s).summary = .ok t) ↔ (tables.ZeroArea stArea s →
      (∀ lgu ∈ tables.lguBoundary, Sql.eq lgu.subbasin s.subbasin →
        tables.treatedBy (fun _ => true) lgu → lgu.geom = none) ∧
      ∀ r ∈ tables.resultBlob, tables.isResultOf s r → r.effAreaAcres = none) := by
  have htreated {p : TMNTFacility → Bool}
      (hnone : tables.areaOf stArea (tables.treatedBy fun _ => true) s = none) :
      tables.areaOf stArea (tables.treatedBy p) s = none := by
    rw [areaOf_eq_none_iff] at hnone ⊢
    exact fun lgu hlgu hsub hp => hnone lgu hlgu hsub (treatedBy_of_treatedBy hp)
  have heff : Sql.sum ((tables.resultBlob.filter (tables.isResultOf s)).map (·.effAreaAcres)) =
      none ↔ ∀ r ∈ tables.resultBlob, tables.isResultOf s r → r.effAreaAcres = none := by
    rw [Sql.sum_eq_none_iff]
    simp only [List.forall_mem_map, List.mem_filter, and_imp]
  rw [exists_summary_eq_ok, ← areaOf_eq_zero_iff h, ← areaOf_eq_none_iff, ← heff]
  refine imp_congr_right fun _ => ?_
  constructor
  · rintro ⟨htr, -, -, -, heff⟩
    exact ⟨htr, heff⟩
  · rintro ⟨htr, heff⟩
    exact ⟨htr, htreated htr, htreated htr, htreated htr, heff⟩

/-- The subbasins with the results that the view shows. -/
def Tables.shownResults (tables : Tables A G K) :
    List (Subbasin A K × Option (SubbasinResult K)) :=
  tables.subbasin.flatMap fun s => (tables.subbasinResult.filter fun sr =>
    Sql.eq sr.subbasin s.subbasin && Sql.eq sr.epoch (some "1980s")).map fun sr => (s, some sr)

theorem subbasinwqresultV_eq :
    subbasinwqresultV (fun sr => Sql.eq (sr.bind (·.epoch)) (some "1980s")) tables =
      tables.shownResults.mapM fun x => wqResult x.1 x.2 := by
  have hinner := Sql.filter_leftJoin (fun s sr => Sql.eq sr.subbasin s.subbasin) tables.subbasin
    tables.subbasinResult (fun sr => Sql.eq (sr.bind (·.epoch)) (some "1980s")) rfl
  rw [subbasinwqresultV, hinner]
  rfl

omit [Field K] [LinearOrder K] in
theorem forall_mem_shownResults {P : Subbasin A K × Option (SubbasinResult K) → Prop} :
    (∀ x ∈ tables.shownResults, P x) ↔
      ∀ s ∈ tables.subbasin, ∀ sr, tables.HasResult s sr → P (s, some sr) := by
  simp only [Tables.shownResults, List.forall_mem_flatMap, List.forall_mem_map, List.mem_filter,
    Bool.and_eq_true, Sql.eq_some_iff, Tables.HasResult]

/-- The view returns where it divides by no zero. -/
theorem divisionSafe_iff [IsStrictOrderedRing K] (h : tables.Valid stArea) :
    tables.DivisionSafe stArea ↔ (∃ ts, tmntSummary stArea tables = .ok ts) ∧
      ∃ wq, subbasinwqresultV (fun sr => Sql.eq (sr.bind (·.epoch)) (some "1980s")) tables =
        .ok wq := by
  rw [tmntSummary, joined_eq h, subbasinwqresultV_eq, exists_mapM_eq_ok, exists_mapM_eq_ok,
    List.forall_mem_map, forall_mem_shownResults]
  simp only [exists_summary_joinedRow h, exists_wqResult_eq_ok]
  constructor
  · rintro ⟨htreated, heff, hresult, hload⟩
    exact ⟨fun s hs hzero => ⟨htreated s hs hzero, heff s hs hzero⟩,
      fun s hs sr hsr => ⟨hresult s hs sr hsr, hload s hs sr hsr⟩⟩
  · rintro ⟨hsummary, hwq⟩
    exact ⟨fun s hs hzero => (hsummary s hs hzero).1, fun s hs hzero => (hsummary s hs hzero).2,
      fun s hs sr hsr => (hwq s hs sr hsr).1, fun s hs sr hsr => (hwq s hs sr hsr).2⟩

/-- A subbasin has at most one result of an epoch. -/
theorem length_result_le_one (h : tables.Valid stArea) (x : Option String) :
    (tables.subbasinResult.filter fun sr =>
      Sql.eq sr.subbasin x && Sql.eq sr.epoch (some "1980s")).length ≤ 1 := by
  cases x with
  | none => simp
  | some k =>
    have hle := Sql.length_filter_eq_le_one h.nodup_result (some (k, "1980s"))
    have hfilter : ∀ sr : SubbasinResult K,
        (Sql.eq sr.subbasin (some k) && Sql.eq sr.epoch (some "1980s")) =
          Sql.eq (sr.subbasin.bind fun s => sr.epoch.map fun e => (s, e)) (some (k, "1980s")) := by
      intro sr
      rw [Bool.eq_iff_iff, Bool.and_eq_true, Sql.eq_some_iff, Sql.eq_some_iff, Sql.eq_some_iff]
      cases sr.subbasin <;> cases sr.epoch <;> simp
    rwa [List.filter_congr fun sr _ => hfilter sr]

/-- No name is there twice in the results of an epoch. -/
theorem length_shownResults_le_one (h : tables.Valid stArea) (x : Option String) :
    (tables.shownResults.filter fun y => Sql.eq y.1.subbasin x).length ≤ 1 := by
  cases x with
  | none => simp
  | some k =>
    have heq : ∀ y : Option String, Sql.eq y (some k) = decide (y = some k) := fun y => by
      rw [Bool.eq_iff_iff, Sql.eq_some_iff, decide_eq_true_iff]
    have hsub := Sql.length_filter_eq_le_one h.nodup_subbasin (some k)
    simp only [heq] at hsub ⊢
    rw [Tables.shownResults, Frame.filter_key_flatMap (fun s : Subbasin A K => s.subbasin)
      (fun y : Subbasin A K × Option (SubbasinResult K) => y.1.subbasin)]
    · cases hs : tables.subbasin.filter fun s => s.subbasin = some k with
      | nil => exact Nat.zero_le 1
      | cons s ss =>
        rw [hs, List.length_cons] at hsub
        obtain rfl : ss = [] := List.eq_nil_of_length_eq_zero (by omega)
        rw [List.flatMap_singleton, List.length_map]
        exact length_result_le_one h s.subbasin
    · intro s _ y hy
      obtain ⟨sr, -, rfl⟩ := List.mem_map.1 hy
      rfl

/-- The names of `TMNTSUMMARY` are those of the subbasins. -/
theorem length_tmntSummary_le_one (h : tables.Valid stArea) {ts : List (TmntSummary K)}
    (hts : tmntSummary stArea tables = .ok ts) (x : Option String) :
    (ts.filter fun t => Sql.eq t.subbasin x).length ≤ 1 := by
  rw [tmntSummary, joined_eq h] at hts
  have hnames : ts.map TmntSummary.subbasin =
      (tables.subbasin.map (tables.joinedRow stArea)).map (·.s.subbasin) :=
    map_of_mapM_eq_ok hts fun _ _ ht => (summary_eq_ok ht).1
  have hle := Sql.length_filter_eq_le_one h.nodup_subbasin x
  rw [Sql.length_filter_map] at hle ⊢
  rw [hnames, List.map_map]
  exact hle

theorem length_wqResult_le_one (h : tables.Valid stArea) {wq : List (WqResult K)}
    (hwq : subbasinwqresultV (fun sr => Sql.eq (sr.bind (·.epoch)) (some "1980s")) tables = .ok wq)
    (x : Option String) : (wq.filter fun w => Sql.eq w.subbasin x).length ≤ 1 := by
  rw [subbasinwqresultV_eq] at hwq
  have hnames : wq.map WqResult.subbasin = tables.shownResults.map fun y => y.1.subbasin :=
    map_of_mapM_eq_ok hwq fun _ _ hw => subbasin_wqResult hw
  have hle := length_shownResults_le_one h x
  rw [Sql.length_filter_map fun y : Subbasin A K × Option (SubbasinResult K) => y.1.subbasin] at hle
  rw [Sql.length_filter_map, hnames]
  exact hle

/-- The row of the view for a subbasin. -/
def infoRow (ts : List (TmntSummary K)) (wq : List (WqResult K)) (s : Subbasin A K) :
    SubbasinInfo A K where
  s := s
  ts := ts.find? fun t => Sql.eq t.subbasin s.subbasin
  wq := wq.find? fun w => Sql.eq w.subbasin s.subbasin

/-- **One row for each subbasin.** -/
theorem subbasininfoV_eq (h : tables.Valid stArea) {ts : List (TmntSummary K)}
    {wq : List (WqResult K)} (hts : tmntSummary stArea tables = .ok ts)
    (hwq : subbasinwqresultV (fun sr => Sql.eq (sr.bind (·.epoch)) (some "1980s")) tables =
      .ok wq) : subbasininfoV stArea tables =
        .ok (Sql.orderBy (·.s.subbasin) (tables.subbasin.map (infoRow ts wq))) := by
  rw [subbasininfoV, hts, ok_bind, hwq, ok_bind]
  dsimp only
  rw [Sql.leftJoin_eq_map, Sql.leftJoin_eq_map]
  · simp only [List.map_map]
    rfl
  · intro s _
    exact length_tmntSummary_le_one h hts s.subbasin
  · intro x _
    exact length_wqResult_le_one h hwq x.1.subbasin

/-- The summary that the view shows for a subbasin is that of its joined row. -/
theorem infoRow_ts (h : tables.Valid stArea) {ts : List (TmntSummary K)} (wq : List (WqResult K))
    (hts : tmntSummary stArea tables = .ok ts) (hs : s ∈ tables.subbasin)
    (hsome : s.subbasin.isSome) :
    ∃ t, (infoRow ts wq s).ts = some t ∧ (tables.joinedRow stArea s).summary = .ok t := by
  have hle := length_tmntSummary_le_one h hts s.subbasin
  rw [tmntSummary, joined_eq h] at hts
  obtain ⟨t, ht, hsum⟩ := exists_of_mapM_eq_ok hts (List.mem_map_of_mem hs)
  have hname : t.subbasin = s.subbasin := (summary_eq_ok hsum).1
  exact ⟨t, Sql.find?_eq_some_of_mem hle ht (Sql.eq_iff.2 ⟨hname ▸ hsome, hname⟩), hsum⟩

omit [Field K] [LinearOrder K] in
/-- A subbasin without a name has no summary and no areas. -/
theorem infoRow_ts_of_none {ts : List (TmntSummary K)} {wq : List (WqResult K)}
    (hnone : s.subbasin = none) : (infoRow ts wq s).ts = none := by
  rw [infoRow, List.find?_eq_none]
  intro t _
  rw [hnone, Sql.eq_none]
  exact Bool.false_ne_true

omit [LinearOrder K] in
theorem areaOf_of_none (hnone : s.subbasin = none) (p : LguBoundary G → Bool) :
    tables.areaOf stArea p s = none := by
  rw [areaOf_eq_none_iff]
  intro lgu _ hsub
  rw [hnone, Sql.eq_none] at hsub
  cases hsub

theorem sums_infoRow (h : tables.Valid stArea) {ts : List (TmntSummary K)}
    {wq : List (WqResult K)} (hts : tmntSummary stArea tables = .ok ts)
    (hs : s ∈ tables.subbasin) : (infoRow ts wq s).Sums stArea tables := by
  cases hname : s.subbasin with
  | none =>
    have hnull (col : TmntSummary K → Option K) (p : LguBoundary G → Bool) :
        (infoRow ts wq s).ts.bind col = tables.areaOf stArea p s := by
      rw [infoRow_ts_of_none hname, areaOf_of_none hname]
      rfl
    refine ⟨hnull _ _, hnull _ _, hnull _ _, hnull _ _, hnull _ _, ?_⟩
    have heff : ∀ r, ¬ tables.isResultOf s r := by simp [Tables.isResultOf, hname]
    rw [infoRow_ts_of_none hname]
    exact (Sql.sum_eq_none_iff.2 fun x hx => by
      obtain ⟨r, hr, -⟩ := List.mem_map.1 hx
      exact absurd (List.mem_filter.1 hr).2 (heff r)).symm
  | some k =>
    obtain ⟨t, hr, hsum⟩ := infoRow_ts h wq hts hs (by rw [hname]; rfl)
    obtain ⟨-, htotal, htreated, hbasic, henh, hfc, heff, -⟩ := summary_eq_ok hsum
    have hcol (col : TmntSummary K → Option K) : (infoRow ts wq s).ts.bind col = col t := by
      rw [hr, Option.bind_some]
    refine ⟨(hcol _).trans htotal, (hcol _).trans htreated, (hcol _).trans hbasic,
      (hcol _).trans henh, (hcol _).trans hfc, ?_⟩
    rw [hr]
    exact heff

theorem bounded_infoRow [IsStrictOrderedRing K] (h : tables.Valid stArea)
    {ts : List (TmntSummary K)} {wq : List (WqResult K)}
    (hts : tmntSummary stArea tables = .ok ts) (hs : s ∈ tables.subbasin) :
    (infoRow ts wq s).Bounded := by
  cases hname : s.subbasin with
  | none =>
    have hr : (infoRow ts wq s).ts = none := infoRow_ts_of_none hname
    exact ⟨by simp [hr], by simp [hr], by simp [hr]⟩
  | some k =>
    obtain ⟨t, hr, hsum⟩ := infoRow_ts h wq hts hs (by rw [hname]; rfl)
    obtain ⟨-, htotal, htreated, hbasic, henh, -, -, htreatedPct, hbasicPct, henhPct, hfcPct⟩ :=
      summary_eq_ok hsum
    have hcol (col : TmntSummary K → Option K) : (infoRow ts wq s).ts.bind col = col t := by
      rw [hr, Option.bind_some]
    have hle {p : TMNTFacility → Bool} : (tables.areaOf stArea (tables.treatedBy p) s).getD 0 ≤
        (tables.areaOf stArea (fun _ => true) s).getD 0 := areaOf_le h fun _ _ => rfl
    refine ⟨?_, ?_, ?_⟩
    · rw [hcol, hcol, hcol, hbasic, henh, htreated]
      exact areaOf_add_le h (fun _ => treatedBy_of_treatedBy) (fun _ => treatedBy_of_treatedBy)
        (not_treatedBy_enhanced h)
    · rw [hcol, hcol, htreated, htotal]
      exact hle
    · intro col hmem p hp _
      rw [hcol] at hp
      simp only [List.mem_cons, List.not_mem_nil, or_false] at hmem
      rcases hmem with rfl | rfl | rfl | rfl
      · exact pct_mem htreatedPct (areaOf_nonneg h _) hle hp
      · exact pct_mem hbasicPct (areaOf_nonneg h _) hle hp
      · exact pct_mem henhPct (areaOf_nonneg h _) hle hp
      · exact pct_mem hfcPct (areaOf_nonneg h _) hle hp

/-- **When the view is right.**  Exactly if it divides by no zero. -/
theorem subbasininfoV_summarised_iff [IsStrictOrderedRing K] (h : tables.Valid stArea) :
    tables.Summarised stArea ↔ tables.DivisionSafe stArea := by
  rw [divisionSafe_iff h]
  constructor
  · rintro ⟨rows, hrows, -⟩
    obtain ⟨ts, hts, hrows⟩ := bind_eq_ok hrows
    obtain ⟨wq, hwq, -⟩ := bind_eq_ok hrows
    exact ⟨⟨ts, hts⟩, wq, hwq⟩
  · rintro ⟨⟨ts, hts⟩, wq, hwq⟩
    refine ⟨_, subbasininfoV_eq h hts hwq, ?_, fun r hr => ?_⟩
    · have hmap : (tables.subbasin.map (infoRow ts wq)).map (·.s) = tables.subbasin := by
        rw [List.map_map]
        exact List.map_id _
      have hperm := (Sql.perm_orderBy (·.s.subbasin) (tables.subbasin.map (infoRow ts wq))).map
        SubbasinInfo.s
      rwa [hmap] at hperm
    · obtain ⟨s, hs, rfl⟩ := List.mem_map.1 ((Sql.perm_orderBy _ _).mem_iff.1 hr)
      exact ⟨sums_infoRow h hts hs, bounded_infoRow h hts hs⟩

end Rows

/-- A subbasin that is one piece with a facility, with an area and a volume of runoff. -/
def treatedSubbasin (area runoff : ℚ) : Tables Unit ℚ ℚ where
  subbasin := [⟨some "FOSS WATERWAY", some "FS_01", some 2, ()⟩]
  subbasinResult := [⟨some "FS_01", some "SB_FS_01", some "1980s",
    fun n => some (if n = "runoff_volume_cuft" then runoff else 0)⟩]
  tmntFacility := [⟨some "bmp-01", none, some "Basic"⟩]
  lguBoundary := [⟨some "bmp-01", some "ls_1", some "FS_01", some "FOSS WATERWAY", some area⟩]
  resultBlob := [⟨"ls_1", "1980s", some "land_surface", some 1, some 1⟩]

theorem treatedSubbasin_valid {area : ℚ} (h : 0 ≤ area) (runoff : ℚ) :
    (treatedSubbasin area runoff).Valid id := by
  constructor
  · simp [treatedSubbasin]
  · simp [treatedSubbasin]
  · simp [treatedSubbasin]
  · simp [treatedSubbasin]
  · simp [treatedSubbasin]
  · simpa [treatedSubbasin] using h

theorem treatedSubbasin_summarised : (treatedSubbasin 43560 100).Summarised id := by
  have harea : ∀ s, (treatedSubbasin 43560 100).ZeroArea id s → s.subbasin ≠ some "FS_01" := by
    rintro s ⟨-, hzero⟩ hs
    have h := hzero _ List.mem_cons_self (by rw [hs]; rfl) 43560 rfl
    norm_num at h
  have hname : ∀ s ∈ (treatedSubbasin 43560 100).subbasin,
      s.subbasin = some "FS_01" ∧ s.areaAcres = some 2 := by simp [treatedSubbasin]
  have hrunoff : ∀ s sr, (treatedSubbasin 43560 100).HasResult s sr →
      sr.value "runoff_volume_cuft" = some 100 := by
    rintro s sr ⟨hmem, -⟩
    rw [List.mem_singleton.1 hmem]
    rfl
  refine (subbasininfoV_summarised_iff (treatedSubbasin_valid (by norm_num) _)).2 ⟨?_, ?_, ?_, ?_⟩
  · exact fun s hs hzero => absurd (hname s hs).1 (harea s hzero)
  · exact fun s hs hzero => absurd (hname s hs).1 (harea s hzero)
  · intro s hs sr _ hzero
    rw [(hname s hs).2] at hzero
    norm_num at hzero
  · intro s _ sr hsr hzero
    rw [hrunoff s sr hsr] at hzero
    norm_num at hzero

/-- Without runoff, or where the piece has no extent, the query ends in a division by zero. -/
theorem not_summarised_division_by_zero :
    ((treatedSubbasin 43560 0).Valid id ∧ ¬ (treatedSubbasin 43560 0).Summarised id) ∧
    (treatedSubbasin 0 100).Valid id ∧ ¬ (treatedSubbasin 0 100).Summarised id := by
  have hrunoff : (subbasininfoV id (treatedSubbasin 43560 0)).toOption.isNone := by decide +kernel
  have harea : (subbasininfoV id (treatedSubbasin 0 100)).toOption.isNone := by decide +kernel
  refine ⟨⟨treatedSubbasin_valid (by norm_num) _, ?_⟩, treatedSubbasin_valid le_rfl _, ?_⟩
  · rintro ⟨rows, hrows, -⟩
    rw [hrows] at hrunoff
    cases hrunoff
  · rintro ⟨rows, hrows, -⟩
    rw [hrows] at harea
    cases harea

end Views

end StormPiper
