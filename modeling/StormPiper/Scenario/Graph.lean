import Mathlib.Algebra.Order.Field.Rat
import StormPiper.Python.Basic
import StormPiper.Watershed.Delineated

/-!
# The graph of a scenario

A scenario has delineations and facilities of its own and the subbasins of the database.  Its land
surfaces are the pieces of the delineations in the subbasins (`overlay_rodeo`), and the facilities
get their subbasins by a join of their own (`assign_subbasin_to_points`).  A table that is read from
a collection has a column only if a feature has the property, and a missing column is an exception.

Shapes are of an opaque type `G`.  What geopandas finds out about them, and the hash of the standard
library, are parameters.

* `validateDelineationCollection`, `overlayRodeo`, `assignSubbasinToPoints`,
  `buildScenarioEdgeList` : the functions of the source.
* `ScenarioDrainsWhen` : the condition on the scenario, piece by piece.
* `scenarioEdgeList_drains_iff` : the graph of a scenario drains exactly under this condition.
-/

namespace StormPiper

open StormPiper.Frame

/-! ### Delineations and facilities -/

/-- What geopandas says of two shapes. -/
structure Geometry (G K : Type) where
  /-- `wkt.dumps`. -/
  dumps : G → String
  /-- The area of the part of a polygon in another one, if they meet: a row of `overlay`. -/
  pieceArea : G → G → Option K
  /-- A point and a polygon meet: a row of `sjoin`. -/
  intersects : G → G → Bool

/-- A feature of a delineation collection. -/
structure DelineationFeature (G : Type) where
  name : ModelField String
  relid : ModelField String
  geometry : G

/-- A row of a validated delineation collection. -/
structure Delineation (G : Type) where
  name : Option String
  relid : Option String
  altid : String
  nodeId : String
  geometry : G

/-- A table that may be without the column `relid`. -/
structure RelidTable (R : Type) where
  hasRelid : Bool
  rows : List R

/-- A row of the table `subbasin`. -/
structure Subbasin (G : Type) where
  subbasin : Option String
  basinname : Option String
  geometry : G

/-- A feature of a facility collection. -/
structure ScenarioFacility (G : Type) where
  nodeId : String
  /-- The names of its other properties. -/
  keys : List String
  geometry : G

/-- The text of a value that may be missing. -/
def pyStr (x : Option String) : String := x.getD "None"

/-- `scenario_delin_uid`. -/
def scenarioDelinUid (sha256 : String → String) (ix : ℕ) (geom : String)
    (name relid : Option String) : String :=
  let inp := toString ix ++ "_" ++ geom ++ "_" ++ pyStr name ++ "_" ++ pyStr relid
  String.ofList ((sha256 inp).toList.take 8)

section Model

variable {G K : Type} (geo : Geometry G K)

/-- The columns that validation adds to a feature. -/
def DelineationFeature.validate (sha256 : String → String) (r : DelineationFeature G) (ix : ℕ) :
    Delineation G :=
  let altid := scenarioDelinUid sha256 ix (geo.dumps r.geometry) r.name.get r.relid.get
  { name := r.name.get
    relid := r.relid.get
    altid
    nodeId := "ls_" ++ pyStr r.name.get ++ "_" ++ altid
    geometry := r.geometry }

/-- `validate_delineation_collection`. -/
def validateDelineationCollection (sha256 : String → String)
    (features : List (DelineationFeature G)) : Except PyError (RelidTable (Delineation G)) :=
  if features.any fun r => r.name.isSet then
    .ok
      { hasRelid := features.any fun r => r.relid.isSet
        rows := features.zipIdx.map fun r => r.1.validate geo sha256 r.2 }
  else .error .keyError

/-! ### The overlay -/

/-- The intersections of the delineations with the subbasins, with their areas. -/
def overlay (delineations : List (Delineation G)) (subbasins : List (Subbasin G)) :
    List (Delineation G × Subbasin G × K) :=
  delineations.flatMap fun d => subbasins.filterMap fun s =>
    (geo.pieceArea d.geometry s.geometry).map fun area => (d, s, area)

/-- The piece of a delineation in a subbasin. -/
def lguPiece (d : Delineation G) (s : Subbasin G) : LguBoundary where
  altid := some d.altid
  relid := d.relid
  nodeId := d.nodeId ++ "_SB_" ++ pyStr s.subbasin
  subbasin := some (pyStr s.subbasin)
  basinname := some (pyStr s.basinname)

variable [One K] [LT K] [DecidableLT K]

/-- `overlay_rodeo` with the intersections. -/
def overlayRodeo (delineations : RelidTable (Delineation G)) (subbasins : List (Subbasin G)) :
    RelidTable LguBoundary where
  hasRelid := delineations.hasRelid
  rows := ((overlay geo delineations.rows subbasins).filter fun x => 1 < x.2.2).map fun x =>
    lguPiece x.1 x.2.1

/-! ### The edges -/

omit [One K] [LT K] [DecidableLT K] in
/-- `points.sjoin(subs, how="left")`.  A column that both tables have is renamed. -/
def assignSubbasinToPoints (points : List (ScenarioFacility G)) (subbasins : List (Subbasin G)) :
    List TmntNode :=
  let renamed := points.any fun f => "basinname" ∈ f.keys
  (sjoinLeft (fun f s => geo.intersects f.geometry s.geometry) points subbasins).map fun x =>
    { nodeId := x.1.nodeId
      subbasin := x.2.bind Subbasin.subbasin
      basinname := if renamed then none else x.2.bind Subbasin.basinname }

/-- `build_scenario_edge_list`.  Tables without rows have no columns. -/
def buildScenarioEdgeList (subbasins : List (Subbasin G)) (lguBoundary : RelidTable LguBoundary)
    (tmnt : List (ScenarioFacility G)) : Except PyError (List Edge) :=
  let tmntV := assignSubbasinToPoints geo tmnt subbasins
  if lguBoundary.rows.isEmpty || !lguBoundary.hasRelid then .error .keyError
  else if tmnt.isEmpty || tmnt.any fun f => "subbasin" ∈ f.keys then .error .keyError
  else .ok (buildEdgeList lguBoundary.rows (some tmntV))

end Model

/-! ### The condition -/

/-- What is promised of the facilities of a scenario: names of their own. -/
structure FacilityNames {G : Type} (tmnt : List (ScenarioFacility G)) : Prop where
  nodeId_nodup : (tmnt.map ScenarioFacility.nodeId).Nodup
  name : ∀ f ∈ tmnt, startswith f.nodeId "ls_" = false ∧ startswith f.nodeId "SB_" = false ∧
    startswith f.nodeId "B_" = false ∧ f.nodeId ≠ PUGET_SOUND

section Condition

variable {G K : Type} [One K] [LT K] (geo : Geometry G K)

/-- `r` is a piece of a delineation that is kept, that is one of more than a square foot. -/
def IsPiece (delineations : List (Delineation G)) (subbasins : List (Subbasin G))
    (r : LguBoundary) : Prop :=
  ∃ d ∈ delineations, ∃ s ∈ subbasins,
    (∃ area, geo.pieceArea d.geometry s.geometry = some area ∧ 1 < area) ∧ r = lguPiece d s

/-- The scenario has pieces, relids and facilities.  Pieces of one name have one target.  What a
facility or a relid names is there, and no piece names itself over others. -/
structure ScenarioDrainsWhen (delineations : RelidTable (Delineation G))
    (subbasins : List (Subbasin G)) (tmnt : List (ScenarioFacility G)) : Prop where
  hasRelid : delineations.hasRelid = true
  exists_piece : ∃ r, IsPiece geo delineations.rows subbasins r
  exists_facility : tmnt ≠ []
  no_subbasin_key : ∀ f ∈ tmnt, "subbasin" ∉ f.keys
  piece_target : ∀ r r', IsPiece geo delineations.rows subbasins r →
    IsPiece geo delineations.rows subbasins r' → r.nodeId = r'.nodeId → r.dsNodeId = r'.dsNodeId
  /-- A facility meets subbasins of one name only. -/
  one_subbasin : ∀ f ∈ tmnt, ∀ s ∈ subbasins, ∀ s' ∈ subbasins,
    geo.intersects f.geometry s.geometry = true → geo.intersects f.geometry s'.geometry = true →
      s.subbasin = s'.subbasin
  /-- There is a piece in the subbasin of every facility. -/
  subbasin_covered : ∀ f ∈ tmnt, ∀ s ∈ subbasins, geo.intersects f.geometry s.geometry = true →
    ∀ n, s.subbasin = some n → ∃ r, IsPiece geo delineations.rows subbasins r ∧ r.subbasin = some n
  /-- A relid names the sound, a facility, or the node, subbasin or basin of a piece. -/
  relid_named : ∀ r, IsPiece geo delineations.rows subbasins r → ∀ n, r.relid = some n →
    n = PUGET_SOUND ∨ (∃ f ∈ tmnt, f.nodeId = n) ∨
      ∃ r', IsPiece geo delineations.rows subbasins r' ∧
        (r'.nodeId = n ∨ sbNode r'.subbasin = some n ∨ bNode r'.basinname = some n)
  relid_acyclic : Acyclic fun m n : String =>
    ∃ r, IsPiece geo delineations.rows subbasins r ∧ r.nodeId = m ∧ r.relid = some n

end Condition

/-! ### The tables of a scenario -/

section Tables

variable {G K : Type} [One K] [LT K] [DecidableLT K] {geo : Geometry G K}
  {delineations : RelidTable (Delineation G)} {subbasins : List (Subbasin G)}
  {tmnt : List (ScenarioFacility G)}

theorem mem_overlayRodeo {r : LguBoundary} :
    r ∈ (overlayRodeo geo delineations subbasins).rows ↔
      IsPiece geo delineations.rows subbasins r := by
  simp only [overlayRodeo, overlay, IsPiece, List.mem_map, List.mem_filter, List.mem_flatMap,
    List.mem_filterMap, Option.map_eq_some_iff, decide_eq_true_eq]
  constructor
  · rintro ⟨_, ⟨⟨d, hd, s, hs, area, harea, rfl⟩, hlt⟩, rfl⟩
    exact ⟨d, hd, s, hs, ⟨area, harea, hlt⟩, rfl⟩
  · rintro ⟨d, hd, s, hs, ⟨area, harea, hlt⟩, rfl⟩
    exact ⟨(d, s, area), ⟨⟨d, hd, s, hs, area, harea, rfl⟩, hlt⟩, rfl⟩

omit [One K] [LT K] [DecidableLT K]

/-- The rows of a facility: one for each subbasin that it meets, or one without a subbasin. -/
theorem mem_assignSubbasinToPoints {t : TmntNode}
    (ht : t ∈ assignSubbasinToPoints geo tmnt subbasins) :
    ∃ f ∈ tmnt, t.nodeId = f.nodeId ∧
      ((t.subbasin = none ∧ ∀ s ∈ subbasins, geo.intersects f.geometry s.geometry = false) ∨
        ∃ s ∈ subbasins, geo.intersects f.geometry s.geometry = true ∧
          t.subbasin = s.subbasin) := by
  obtain ⟨⟨f, s⟩, hrow, rfl⟩ := List.mem_map.1 ht
  cases s with
  | none =>
    obtain ⟨hf, hnone⟩ := mem_sjoinLeft_none.1 hrow
    exact ⟨f, hf, rfl, .inl ⟨rfl, hnone⟩⟩
  | some s =>
    obtain ⟨hf, hs, hmeets⟩ := mem_sjoinLeft_some.1 hrow
    exact ⟨f, hf, rfl, .inr ⟨s, hs, hmeets, rfl⟩⟩

theorem exists_assignSubbasinToPoints_of_intersects {f : ScenarioFacility G} (hf : f ∈ tmnt)
    {s : Subbasin G} (hs : s ∈ subbasins)
    (hmeets : geo.intersects f.geometry s.geometry = true) :
    ∃ t ∈ assignSubbasinToPoints geo tmnt subbasins,
      t.nodeId = f.nodeId ∧ t.subbasin = s.subbasin :=
  ⟨_, List.mem_map_of_mem (mem_sjoinLeft_some.2 ⟨hf, hs, hmeets⟩), rfl, rfl⟩

/-- The rows have the nodes of the facilities. -/
theorem exists_nodeId_assignSubbasinToPoints {n : String} :
    (∃ t ∈ assignSubbasinToPoints geo tmnt subbasins, t.nodeId = n) ↔
      ∃ f ∈ tmnt, f.nodeId = n := by
  constructor
  · rintro ⟨t, ht, rfl⟩
    obtain ⟨f, hf, hnode, -⟩ := mem_assignSubbasinToPoints ht
    exact ⟨f, hf, hnode.symm⟩
  · rintro ⟨f, hf, rfl⟩
    obtain ⟨s, hrow⟩ := exists_mem_sjoinLeft
      (fun f s => geo.intersects f.geometry s.geometry) subbasins hf
    exact ⟨_, List.mem_map_of_mem hrow, rfl⟩

/-- The subbasins of the rows are those that the facilities meet. -/
theorem exists_subbasin_assignSubbasinToPoints {n : String} :
    (∃ t ∈ assignSubbasinToPoints geo tmnt subbasins, t.subbasin = some n) ↔
      ∃ f ∈ tmnt, ∃ s ∈ subbasins, geo.intersects f.geometry s.geometry = true ∧
        s.subbasin = some n := by
  constructor
  · rintro ⟨t, ht, hn⟩
    obtain ⟨f, hf, -, ⟨hsub, -⟩ | ⟨s, hs, hmeets, hsub⟩⟩ := mem_assignSubbasinToPoints ht
    · cases hsub.symm.trans hn
    · exact ⟨f, hf, s, hs, hmeets, hsub.symm.trans hn⟩
  · rintro ⟨f, hf, s, hs, hmeets, hn⟩
    obtain ⟨t, ht, -, hsub⟩ := exists_assignSubbasinToPoints_of_intersects hf hs hmeets
    exact ⟨t, ht, hsub.trans hn⟩

/-- The rows of each facility have one subbasin exactly if it meets subbasins of one name only. -/
theorem facility_target_iff (hnd : (tmnt.map ScenarioFacility.nodeId).Nodup) :
    (∀ t ∈ assignSubbasinToPoints geo tmnt subbasins,
      ∀ t' ∈ assignSubbasinToPoints geo tmnt subbasins,
        t.nodeId = t'.nodeId → t.subbasin = t'.subbasin) ↔
      ∀ f ∈ tmnt, ∀ s ∈ subbasins, ∀ s' ∈ subbasins,
        geo.intersects f.geometry s.geometry = true →
          geo.intersects f.geometry s'.geometry = true → s.subbasin = s'.subbasin := by
  constructor
  · intro h f hf s hs s' hs' hmeets hmeets'
    obtain ⟨t, ht, hnode, hsub⟩ := exists_assignSubbasinToPoints_of_intersects hf hs hmeets
    obtain ⟨t', ht', hnode', hsub'⟩ := exists_assignSubbasinToPoints_of_intersects hf hs' hmeets'
    rw [← hsub, ← hsub']
    exact h t ht t' ht' (hnode.trans hnode'.symm)
  · intro h t ht t' ht' hnode
    obtain ⟨f, hf, hfn, hsub⟩ := mem_assignSubbasinToPoints ht
    obtain ⟨f', hf', hfn', hsub'⟩ := mem_assignSubbasinToPoints ht'
    obtain rfl : f = f' :=
      List.inj_on_of_nodup_map hnd hf hf' (hfn.symm.trans (hnode.trans hfn'))
    -- the rows of a facility are all without a subbasin, or all with one
    rcases hsub with ⟨hsub, hnone⟩ | ⟨s, hs, hmeets, hsub⟩
    · rcases hsub' with ⟨hsub', -⟩ | ⟨s', hs', hmeets', -⟩
      · rw [hsub, hsub']
      · rw [hnone s' hs'] at hmeets'
        cases hmeets'
    · rcases hsub' with ⟨-, hnone⟩ | ⟨s', hs', hmeets', hsub'⟩
      · rw [hnone s hs] at hmeets
        cases hmeets
      · rw [hsub, hsub']
        exact h f hf s hs s' hs' hmeets hmeets'

end Tables

/-! ### When the graph of a scenario drains -/

section Drain

variable {G K : Type} [One K] [LT K] [DecidableLT K] {geo : Geometry G K}
  {delineations : RelidTable (Delineation G)} {subbasins : List (Subbasin G)}
  {tmnt : List (ScenarioFacility G)}

omit [One K] [LT K] [DecidableLT K] in
/-- The nodes of validated delineations are land surfaces. -/
theorem validateDelineationCollection_nodeId {sha256 : String → String}
    {features : List (DelineationFeature G)}
    (h : validateDelineationCollection geo sha256 features = .ok delineations) :
    ∀ d ∈ delineations.rows, ∃ n, d.nodeId = "ls_" ++ n := by
  unfold validateDelineationCollection at h
  split_ifs at h
  cases h
  intro d hd
  obtain ⟨r, -, rfl⟩ := List.mem_map.1 hd
  exact ⟨_, by rw [DelineationFeature.validate]; simp only [String.append_assoc]; rfl⟩

/-- The tables of a scenario are the pieces of its delineations. -/
theorem delineatedTables (hland : ∀ d ∈ delineations.rows, ∃ n, d.nodeId = "ls_" ++ n)
    (hnames : FacilityNames tmnt) :
    DelineatedTables (overlayRodeo geo delineations subbasins).rows
      (assignSubbasinToPoints geo tmnt subbasins) where
  named :=
    { subbasin_isSome := by
        intro r hr
        obtain ⟨d, -, s, -, -, rfl⟩ := mem_overlayRodeo.1 hr
        rfl
      basinname_isSome := by
        intro r hr
        obtain ⟨d, -, s, -, -, rfl⟩ := mem_overlayRodeo.1 hr
        rfl
      facility_name := by
        intro t ht
        obtain ⟨f, hf, hnode, -⟩ := mem_assignSubbasinToPoints ht
        rw [hnode]
        exact hnames.name f hf }
  landSurface := by
    intro r hr
    obtain ⟨d, hd, s, -, -, rfl⟩ := mem_overlayRodeo.1 hr
    obtain ⟨n, hn⟩ := hland d hd
    rw [lguPiece, hn, String.append_assoc, String.append_assoc]
    exact startswith_append _ _
  altid_isSome := by
    intro r hr
    obtain ⟨d, -, s, -, -, rfl⟩ := mem_overlayRodeo.1 hr
    rfl

/-- The condition on the tables, for the tables of a scenario. -/
theorem tablesDrain_iff (hnames : FacilityNames tmnt) (hrelid : delineations.hasRelid = true)
    (hpiece : ∃ r, IsPiece geo delineations.rows subbasins r) (hfacility : tmnt ≠ [])
    (hkey : ∀ f ∈ tmnt, "subbasin" ∉ f.keys) :
    TablesDrain (overlayRodeo geo delineations subbasins).rows
        (assignSubbasinToPoints geo tmnt subbasins) ↔
      ScenarioDrainsWhen geo delineations subbasins tmnt := by
  constructor
  · intro h
    refine
      { hasRelid := hrelid
        exists_piece := hpiece
        exists_facility := hfacility
        no_subbasin_key := hkey
        piece_target := fun r r' hr hr' =>
          h.land_target r (mem_overlayRodeo.2 hr) r' (mem_overlayRodeo.2 hr')
        one_subbasin := (facility_target_iff hnames.nodeId_nodup).1 h.facility_target
        subbasin_covered := ?_
        relid_named := ?_
        relid_acyclic := ?_ }
    · intro f hf s hs hmeets n hn
      obtain ⟨t, ht, hsub⟩ :=
        exists_subbasin_assignSubbasinToPoints.2 ⟨f, hf, s, hs, hmeets, hn⟩
      obtain ⟨r, hr, hrn⟩ := h.subbasin_mem t ht n hsub
      exact ⟨r, mem_overlayRodeo.1 hr, hrn⟩
    · intro r hr n hn
      have hnode := h.relid_isNode r (mem_overlayRodeo.2 hr) n hn
      simpa only [IsNode, exists_nodeId_assignSubbasinToPoints, mem_overlayRodeo] using hnode
    · simpa only [mem_overlayRodeo] using h.relid_acyclic
  · intro h
    refine
      { land_target := fun r hr r' hr' =>
          h.piece_target r r' (mem_overlayRodeo.1 hr) (mem_overlayRodeo.1 hr')
        facility_target := (facility_target_iff hnames.nodeId_nodup).2 h.one_subbasin
        subbasin_mem := ?_
        relid_isNode := ?_
        relid_acyclic := ?_ }
    · intro t ht n hn
      obtain ⟨f, hf, s, hs, hmeets, hsn⟩ :=
        exists_subbasin_assignSubbasinToPoints.1 ⟨t, ht, hn⟩
      obtain ⟨r, hr, hrn⟩ := h.subbasin_covered f hf s hs hmeets n hsn
      exact ⟨r, mem_overlayRodeo.2 hr, hrn⟩
    · intro r hr n hn
      have hnamed := h.relid_named r (mem_overlayRodeo.1 hr) n hn
      simpa only [IsNode, exists_nodeId_assignSubbasinToPoints, mem_overlayRodeo] using hnamed
    · simpa only [mem_overlayRodeo] using h.relid_acyclic

omit [One K] [LT K] [DecidableLT K] in
/-- The edge list is made exactly if no column is missing. -/
theorem buildScenarioEdgeList_eq_ok {lguBoundary : RelidTable LguBoundary} {edges : List Edge} :
    buildScenarioEdgeList geo subbasins lguBoundary tmnt = .ok edges ↔
      (lguBoundary.rows ≠ [] ∧ lguBoundary.hasRelid = true ∧ tmnt ≠ [] ∧
        ∀ f ∈ tmnt, "subbasin" ∉ f.keys) ∧
      edges = buildEdgeList lguBoundary.rows
        (some (assignSubbasinToPoints geo tmnt subbasins)) := by
  unfold buildScenarioEdgeList
  by_cases hlgu : lguBoundary.rows ≠ [] ∧ lguBoundary.hasRelid = true
  · have hlgu' : (lguBoundary.rows.isEmpty || !lguBoundary.hasRelid) = false := by simp [hlgu]
    by_cases htmnt : tmnt ≠ [] ∧ ∀ f ∈ tmnt, "subbasin" ∉ f.keys
    · have htmnt' : (tmnt.isEmpty || tmnt.any fun f => "subbasin" ∈ f.keys) = false := by
        simpa using htmnt
      simp only [hlgu', htmnt', Bool.false_eq_true, if_false, Except.ok.injEq, eq_comm (a := edges)]
      exact ⟨fun h => ⟨⟨hlgu.1, hlgu.2, htmnt⟩, h⟩, And.right⟩
    · have htmnt' : (tmnt.isEmpty || tmnt.any fun f => "subbasin" ∈ f.keys) = true := by
        by_contra hfalse
        exact htmnt (by simpa using hfalse)
      simp only [hlgu', htmnt', Bool.false_eq_true, if_false, if_true]
      exact ⟨nofun, fun h => absurd h.1.2.2 htmnt⟩
  · have hlgu' : (lguBoundary.rows.isEmpty || !lguBoundary.hasRelid) = true := by
      by_contra hfalse
      exact hlgu (by simpa using hfalse)
    simp only [hlgu', if_true]
    exact ⟨nofun, fun h => absurd ⟨h.1.1, h.1.2.1⟩ hlgu⟩

/-- The graph of a scenario whose delineations are land surfaces. -/
theorem scenarioEdgeList_drains (hland : ∀ d ∈ delineations.rows, ∃ n, d.nodeId = "ls_" ++ n)
    (hnames : FacilityNames tmnt) :
    (∃ edges, buildScenarioEdgeList geo subbasins (overlayRodeo geo delineations subbasins) tmnt =
        .ok edges ∧
      SourcesDrain edges ((overlayRodeo geo delineations subbasins).rows.map LguBoundary.nodeId ++
        tmnt.map ScenarioFacility.nodeId)) ↔
      ScenarioDrainsWhen geo delineations subbasins tmnt := by
  -- the rows of the join have the nodes of the facilities
  have hnodes : ∀ n, n ∈ sourceNodes (overlayRodeo geo delineations subbasins).rows
      (assignSubbasinToPoints geo tmnt subbasins) ↔
        n ∈ (overlayRodeo geo delineations subbasins).rows.map LguBoundary.nodeId ++
          tmnt.map ScenarioFacility.nodeId := by
    intro n
    rw [sourceNodes, List.mem_append, List.mem_append]
    refine or_congr Iff.rfl ?_
    simpa only [List.mem_map] using exists_nodeId_assignSubbasinToPoints
  have htables : DelineatedTables (overlayRodeo geo delineations subbasins).rows
      (assignSubbasinToPoints geo tmnt subbasins) := delineatedTables hland hnames
  constructor
  · rintro ⟨edges, hedges, hdrain⟩
    obtain ⟨⟨hrows, hrelid, hfacility, hkey⟩, rfl⟩ := buildScenarioEdgeList_eq_ok.1 hedges
    obtain ⟨r, hr⟩ := List.exists_mem_of_ne_nil _ hrows
    exact (tablesDrain_iff hnames hrelid ⟨r, mem_overlayRodeo.1 hr⟩ hfacility hkey).1
      (htables.tablesDrain (hdrain.mono fun n => (hnodes n).1))
  · intro h
    obtain ⟨r, hr⟩ := h.exists_piece
    have hrows : (overlayRodeo geo delineations subbasins).rows ≠ [] :=
      List.ne_nil_of_mem (mem_overlayRodeo.2 hr)
    have htablesDrain := (tablesDrain_iff hnames h.hasRelid h.exists_piece h.exists_facility
      h.no_subbasin_key).2 h
    exact ⟨_, buildScenarioEdgeList_eq_ok.2
      ⟨⟨hrows, h.hasRelid, h.exists_facility, h.no_subbasin_key⟩, rfl⟩,
      (htablesDrain.sourcesDrain htables).mono fun n => (hnodes n).2⟩

/-- **The graph of a scenario drains exactly under the condition.**  For every validated collection
of delineations, every layer of subbasins and all shapes: there is an edge list in which every piece
and every facility has exactly one target, which has no cycle and in which the targets lead to the
sound, if and only if the scenario meets `ScenarioDrainsWhen`. -/
theorem scenarioEdgeList_drains_iff (geo : Geometry G K) (sha256 : String → String)
    (features : List (DelineationFeature G)) (delineations : RelidTable (Delineation G))
    (subbasins : List (Subbasin G)) (tmnt : List (ScenarioFacility G))
    (hval : validateDelineationCollection geo sha256 features = .ok delineations)
    (hnames : FacilityNames tmnt) :
    (∃ edges, buildScenarioEdgeList geo subbasins (overlayRodeo geo delineations subbasins) tmnt =
        .ok edges ∧
      SourcesDrain edges ((overlayRodeo geo delineations subbasins).rows.map LguBoundary.nodeId ++
        tmnt.map ScenarioFacility.nodeId)) ↔
      ScenarioDrainsWhen geo delineations subbasins tmnt :=
  scenarioEdgeList_drains (validateDelineationCollection_nodeId hval) hnames

end Drain

/-! ### Two scenarios -/

/-- Shapes made of numbered squares with sides of ten feet. -/
def squares : Geometry (List ℕ) ℚ where
  dumps _ := "POLYGON ((0.0000000000000000 0.0000000000000000, 10.0000000000000000 " ++
    "0.0000000000000000, 10.0000000000000000 10.0000000000000000, 0.0000000000000000 " ++
    "10.0000000000000000, 0.0000000000000000 0.0000000000000000))"
  pieceArea d s :=
    match d.filter fun square => square ∈ s with
    | [] => none
    | part => some (100 * part.length)
  intersects point s := point.any fun square => square ∈ s

/-- The hash of the only delineation of the examples. -/
def exampleSha256 : String → String :=
  fun _ => "306f9a14986b6711f1bd55c94af4fb6c1b0e81b8c5d55057c8a24a612a363e7f"

/-- A delineation of the first square, which drains to the facility `bmp-01`. -/
def exampleFeatures : List (DelineationFeature (List ℕ)) :=
  [{ name := .val "delin-01", relid := .val "bmp-01", geometry := [1] }]

/-- A table with one delineation. -/
def exampleDelineations : RelidTable (Delineation (List ℕ)) where
  hasRelid := true
  rows :=
    [{ name := some "delin-01", relid := some "bmp-01", altid := "306f9a14",
       nodeId := "ls_delin-01_306f9a14", geometry := [1] }]

/-- Two subbasins of one square each. -/
def exampleSubbasins : List (Subbasin (List ℕ)) :=
  [{ subbasin := some "FS_01", basinname := some "FOSS WATERWAY", geometry := [1] },
   { subbasin := some "FS_02", basinname := some "FOSS WATERWAY", geometry := [2] }]

/-- The facility `bmp-01` in one of the squares. -/
def facilityIn (square : ℕ) : List (ScenarioFacility (List ℕ)) :=
  [{ nodeId := "bmp-01", keys := ["facility_type"], geometry := [square] }]

theorem validate_exampleFeatures :
    validateDelineationCollection squares exampleSha256 exampleFeatures =
      .ok exampleDelineations := by
  simp [validateDelineationCollection, DelineationFeature.validate, exampleFeatures,
    exampleDelineations, scenarioDelinUid, exampleSha256, ModelField.isSet, ModelField.get, pyStr]

theorem facilityNames_facilityIn (square : ℕ) : FacilityNames (facilityIn square) where
  nodeId_nodup := by simp [facilityIn]
  name := by simp [facilityIn, startswith, List.isPrefixOf, PUGET_SOUND]

/-- The only piece of the examples. -/
theorem isPiece_example {r : LguBoundary} :
    IsPiece squares exampleDelineations.rows exampleSubbasins r ↔
      r = { altid := some "306f9a14", relid := some "bmp-01",
            nodeId := "ls_delin-01_306f9a14_SB_FS_01", subbasin := some "FS_01",
            basinname := some "FOSS WATERWAY" } := by
  have hrows : (overlayRodeo squares exampleDelineations exampleSubbasins).rows =
      [{ altid := some "306f9a14", relid := some "bmp-01",
         nodeId := "ls_delin-01_306f9a14_SB_FS_01", subbasin := some "FS_01",
         basinname := some "FOSS WATERWAY" }] := by
    decide +kernel
  rw [← mem_overlayRodeo, hrows, List.mem_singleton]

/-- With the facility in the subbasin of its delineation the graph drains. -/
theorem scenarioEdgeList_drains_same_subbasin :
    ∃ edges, buildScenarioEdgeList squares exampleSubbasins
        (overlayRodeo squares exampleDelineations exampleSubbasins) (facilityIn 1) = .ok edges ∧
      SourcesDrain edges ((overlayRodeo squares exampleDelineations exampleSubbasins).rows.map
        LguBoundary.nodeId ++ (facilityIn 1).map ScenarioFacility.nodeId) := by
  refine (scenarioEdgeList_drains_iff squares exampleSha256 exampleFeatures exampleDelineations
    exampleSubbasins (facilityIn 1) validate_exampleFeatures (facilityNames_facilityIn 1)).2 ?_
  refine
    { hasRelid := rfl
      exists_piece := ⟨_, isPiece_example.2 rfl⟩
      exists_facility := by simp [facilityIn]
      no_subbasin_key := by simp [facilityIn]
      piece_target := ?_
      one_subbasin := by decide
      subbasin_covered := ?_
      relid_named := ?_
      relid_acyclic := ?_ }
  · intro r r' hr hr' _
    rw [isPiece_example.1 hr, isPiece_example.1 hr']
  · intro f hf s hs hmeets n hn
    refine ⟨_, isPiece_example.2 rfl, ?_⟩
    have hsub : ∀ f ∈ facilityIn 1, ∀ s ∈ exampleSubbasins,
        squares.intersects f.geometry s.geometry = true → s.subbasin = some "FS_01" := by decide
    exact (hsub f hf s hs hmeets).symm.trans hn
  · intro r hr n hn
    rw [isPiece_example.1 hr] at hn
    obtain rfl := Option.some.inj hn
    exact .inr (.inl ⟨_, List.mem_singleton_self _, rfl⟩)
  · refine acyclic_of_rank (fun n => if n = "bmp-01" then 1 else 0) ?_
    rintro m n ⟨r, hr, rfl, hn⟩
    rw [isPiece_example.1 hr] at hn ⊢
    obtain rfl := Option.some.inj hn
    decide

/-- **A facility in a subbasin without a delineation.**  Nothing leads on from its subbasin. -/
theorem not_drains_other_subbasin :
    validateDelineationCollection squares exampleSha256 exampleFeatures =
        .ok exampleDelineations ∧ FacilityNames (facilityIn 2) ∧
      ¬ ∃ edges, buildScenarioEdgeList squares exampleSubbasins
          (overlayRodeo squares exampleDelineations exampleSubbasins) (facilityIn 2) = .ok edges ∧
        SourcesDrain edges ((overlayRodeo squares exampleDelineations exampleSubbasins).rows.map
          LguBoundary.nodeId ++ (facilityIn 2).map ScenarioFacility.nodeId) := by
  refine ⟨validate_exampleFeatures, facilityNames_facilityIn 2, fun hdrains => ?_⟩
  have h := (scenarioEdgeList_drains
    (validateDelineationCollection_nodeId validate_exampleFeatures)
    (facilityNames_facilityIn 2)).1 hdrains
  obtain ⟨r, hr, hsub⟩ := h.subbasin_covered _ (List.mem_singleton_self _)
    { subbasin := some "FS_02", basinname := some "FOSS WATERWAY", geometry := [2] }
    (by simp [exampleSubbasins]) (by decide) "FS_02" rfl
  rw [isPiece_example.1 hr] at hsub
  exact absurd hsub (by decide)

end StormPiper
