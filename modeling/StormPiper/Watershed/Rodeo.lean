import StormPiper.Geometry.Regions
import StormPiper.Scenario.Graph

/-!
# The land surfaces of the watershed

`overlay_rodeo` cuts the delineations and the subbasins along each other (`geopandas.overlay`): a
land surface is what a delineation and a subbasin have in common, or what is left of one of them.
Pieces of at most a square foot are dropped (`src/tmnt/spatial.py`).

Shapes are regions with an additive area.  The overlay itself is a parameter; what is assumed of it
is what its documentation says, that it finds these pieces, in some order.  Pieces that are only
lines or points, which it drops, are empty regions here.

* `Rodeo.Overlays` : what is assumed of `geopandas.overlay`.
* `Rodeo.overlayRodeo` : the land surfaces of two tables.
* `Rodeo.geometry_pieces` : the land surfaces of a subbasin are its parts of over a square foot.
* `Rodeo.overlayRodeo_rows` : for a scenario, these are the rows of `overlayRodeo`.
* `overlayRodeo_area` : the areas of the land surfaces of a subbasin sum up to its own area, but for
  what is dropped and for what several delineations overlap in.
-/

namespace StormPiper

open Regions

/-- A row of `tmnt_facility_delineation`. -/
structure TMNTFacilityDelineation (G : Type) where
  altid : Option String
  relid : Option String
  nodeId : Option String
  geom : G

/-- A row of the overlay with its shape. -/
structure LandSurface (G : Type) extends LguBoundary where
  geometry : G

/-- The kinds of overlays that are asked for. -/
inductive OverlayHow where
  | intersection
  | union
  deriving DecidableEq, Repr

namespace Rodeo

variable {G K : Type} [GeneralizedBooleanAlgebra G]

/-! ### The overlay -/

/-- A piece, with the rows that it comes from. -/
abbrev Piece (G : Type) := Option (TMNTFacilityDelineation G) × Option (Subbasin G) × G

section Overlay

variable (delineations : List (TMNTFacilityDelineation G)) (subbasins : List (Subbasin G))

/-- What the rows have in common. -/
def intersections : List (Piece G) :=
  delineations.flatMap fun d => subbasins.map fun s => (some d, some s, d.geom ⊓ s.geometry)

/-- What is left of the delineations. -/
def outside : List (Piece G) :=
  delineations.map fun d =>
    (some d, none, (subbasins.map Subbasin.geometry).foldl (· \ ·) d.geom)

/-- What is left of the subbasins. -/
def undelineated : List (Piece G) :=
  subbasins.map fun s =>
    (none, some s, (delineations.map TMNTFacilityDelineation.geom).foldl (· \ ·) s.geometry)

/-- The pieces of a union, empty or not. -/
def pieces : List (Piece G) :=
  intersections delineations subbasins ++ outside delineations subbasins ++
    undelineated delineations subbasins

end Overlay

/-- `geopandas.overlay(delineations, subbasins, how=how, keep_geom_type=True)`. -/
abbrev OverlayFunction (G : Type) :=
  List (TMNTFacilityDelineation G) → List (Subbasin G) → OverlayHow → List (Piece G)

/-- The overlay finds what the rows have in common, and for a union also what is left of them: the
pieces that are not empty, in some order. -/
structure Overlays [DecidableEq G] (overlay : OverlayFunction G) : Prop where
  intersection : ∀ delineations subbasins, (overlay delineations subbasins .intersection).Perm
    ((intersections delineations subbasins).filter fun x => x.2.2 ≠ ⊥)
  union : ∀ delineations subbasins, (overlay delineations subbasins .union).Perm
    ((pieces delineations subbasins).filter fun x => x.2.2 ≠ ⊥)

/-- The name of a land surface. -/
def nodeId (delineation : Option String) (subbasin : String) : String :=
  match delineation with
  | some n => n ++ "_SB_" ++ subbasin
  | none => "SB_" ++ subbasin

/-- `df["subbasin"].fillna("None").astype(str)`. -/
def subbasinOf (x : Piece G) : String := pyStr (x.2.1.bind Subbasin.subbasin)

/-- The row of a piece. -/
def landSurface (x : Piece G) : LandSurface G where
  altid := x.1.bind TMNTFacilityDelineation.altid
  relid := x.1.bind TMNTFacilityDelineation.relid
  nodeId := nodeId (x.1.bind TMNTFacilityDelineation.nodeId) (subbasinOf x)
  subbasin := some (subbasinOf x)
  basinname := some (pyStr (x.2.1.bind Subbasin.basinname))
  geometry := x.2.2

variable (overlay : OverlayFunction G) [Field K] [LinearOrder K] (A : RegionArea G K)

/-- `overlay_rodeo`. -/
def overlayRodeo (delineations : Option (List (TMNTFacilityDelineation G)))
    (subbasins : Option (List (Subbasin G))) (how : OverlayHow) : List (LandSurface G) :=
  match delineations, subbasins with
  | some delineations, some subbasins =>
    ((overlay delineations subbasins how).map landSurface).filter fun r => 1 < A.area r.geometry
  | _, _ => []

/-! ### Empty pieces are small -/

section Pieces

variable [DecidableEq G] [IsStrictOrderedRing K] {overlay A}
  {delineations : List (TMNTFacilityDelineation G)} {subbasins : List (Subbasin G)}

theorem filter_landSurface (xs : List (Piece G)) :
    ((xs.filter fun x => x.2.2 ≠ ⊥).map landSurface).filter (fun r => 1 < A.area r.geometry) =
      (xs.filter fun x => 1 < A.area x.2.2).map landSurface := by
  rw [List.filter_map, List.filter_filter]
  refine congrArg _ (List.filter_congr fun x _ => ?_)
  have hbot : x.2.2 = ⊥ → ¬ 1 < A.area x.2.2 := by
    intro h hlt
    rw [h, A.area_bot] at hlt
    exact absurd (zero_lt_one.trans hlt) (lt_irrefl _)
  by_cases hlt : 1 < A.area x.2.2
  · have hne : x.2.2 ≠ ⊥ := fun h => hbot h hlt
    simp [landSurface, hlt, hne]
  · simp [landSurface, hlt]

theorem overlayRodeo_union (ho : Overlays overlay) :
    (overlayRodeo overlay A (some delineations) (some subbasins) .union).Perm
      (((pieces delineations subbasins).filter fun x => 1 < A.area x.2.2).map landSurface) := by
  rw [← filter_landSurface]
  exact ((ho.union delineations subbasins).map landSurface).filter _

theorem overlayRodeo_intersection (ho : Overlays overlay) :
    (overlayRodeo overlay A (some delineations) (some subbasins) .intersection).Perm
      (((intersections delineations subbasins).filter fun x =>
        1 < A.area x.2.2).map landSurface) := by
  rw [← filter_landSurface]
  exact ((ho.intersection delineations subbasins).map landSurface).filter _

omit [DecidableEq G] in
theorem mem_pieces {x : Piece G} : x ∈ pieces delineations subbasins ↔
    (∃ d ∈ delineations, ∃ s ∈ subbasins, x = (some d, some s, d.geom ⊓ s.geometry)) ∨
    (∃ d ∈ delineations, x = (some d, none, d.geom \ cover (subbasins.map Subbasin.geometry))) ∨
    (∃ s ∈ subbasins, x = (none, some s,
      s.geometry \ cover (delineations.map TMNTFacilityDelineation.geom))) := by
  simp only [pieces, intersections, outside, undelineated, foldl_sdiff, List.mem_append,
    List.mem_flatMap, List.mem_map, or_assoc, eq_comm]

theorem mem_overlayRodeo_union (ho : Overlays overlay) {r : LandSurface G} :
    r ∈ overlayRodeo overlay A (some delineations) (some subbasins) .union ↔
      ∃ x ∈ pieces delineations subbasins, 1 < A.area x.2.2 ∧ landSurface x = r := by
  simp only [(overlayRodeo_union ho).mem_iff, List.mem_map, List.mem_filter, decide_eq_true_eq,
    and_assoc]

end Pieces

/-! ### The area of a subbasin -/

section Area

variable [DecidableEq G] [IsStrictOrderedRing K] {overlay}
  {delineations : List (TMNTFacilityDelineation G)} {subbasins : List (Subbasin G)}

/-- The name of a subbasin in the table. -/
def name (s : Subbasin G) : String := pyStr s.subbasin

/-- The subbasins have names of their own, and none is called as the land outside of them. -/
structure Named (subbasins : List (Subbasin G)) : Prop where
  nodup : (subbasins.map name).Nodup
  ne_none : ∀ s ∈ subbasins, name s ≠ "None"

/-- The land surfaces of a subbasin. -/
def piecesOf (rows : List (LandSurface G)) (s : Subbasin G) : List (LandSurface G) :=
  rows.filter fun r => r.subbasin = some (name s)

/-- The area of the land surfaces of a subbasin. -/
def totalArea (rows : List (LandSurface G)) (s : Subbasin G) : K :=
  ((piecesOf rows s).map fun r => A.area r.geometry).sum

/-- The parts of a subbasin, cut along the delineations. -/
def partsOf (delineations : List (TMNTFacilityDelineation G)) (s : Subbasin G) : List G :=
  parts s.geometry (delineations.map TMNTFacilityDelineation.geom)

/-- How the land surfaces account for a subbasin.  They are its parts of more than a square foot:
what is missing is at most a square foot for each part that is dropped, and what is too much is
where delineations overlap. -/
structure Accounts (delineations : List (TMNTFacilityDelineation G)) (rows : List (LandSurface G))
    (s : Subbasin G) : Prop where
  perm : ((piecesOf rows s).map LandSurface.geometry).Perm (larger A 1 (partsOf delineations s))
  inside : ∀ r ∈ piecesOf rows s, r.geometry ≤ s.geometry
  covered : A.area s.geometry ≤ totalArea A rows s + (dropped A 1 (partsOf delineations s)).length
  within : Apart A (delineations.map fun d => s.geometry ⊓ d.geom) →
    totalArea A rows s ≤ A.area s.geometry
  exact : dropped A 1 (partsOf delineations s) = [] →
    (totalArea A rows s = A.area s.geometry ↔
      Apart A (delineations.map fun d => s.geometry ⊓ d.geom))

omit [DecidableEq G] in
theorem filter_intersections (h : Named subbasins) {s : Subbasin G} (hs : s ∈ subbasins) :
    ((intersections delineations subbasins).filter fun x => subbasinOf x = name s) =
      delineations.map fun d => (some d, some s, d.geom ⊓ s.geometry) := by
  have hone := Frame.filter_key_eq_singleton name h.nodup hs
  rw [intersections, List.filter_flatMap, List.map_eq_flatMap]
  refine List.flatMap_congr fun d _ => ?_
  rw [List.filter_map]
  exact congrArg (List.map fun s => (some d, some s, d.geom ⊓ s.geometry)) hone

omit [DecidableEq G] in
theorem filter_pieces (h : Named subbasins) {s : Subbasin G} (hs : s ∈ subbasins) :
    ((pieces delineations subbasins).filter fun x => subbasinOf x = name s) =
      (delineations.map fun d => (some d, some s, d.geom ⊓ s.geometry)) ++
        [(none, some s,
          (delineations.map TMNTFacilityDelineation.geom).foldl (· \ ·) s.geometry)] := by
  have hone := Frame.filter_key_eq_singleton name h.nodup hs
  have houtside :
      ((outside delineations subbasins).filter fun x => subbasinOf x = name s) = [] := by
    refine List.filter_eq_nil_iff.2 fun x hx => ?_
    obtain ⟨d, -, rfl⟩ := List.mem_map.1 hx
    exact fun heq => h.ne_none s hs (of_decide_eq_true heq).symm
  rw [pieces, List.filter_append, List.filter_append, filter_intersections h hs, houtside,
    List.append_nil, undelineated, List.filter_map]
  exact congrArg (fun ss => _ ++ List.map _ ss) hone

/-- **The land surfaces of a subbasin are its parts of more than a square foot.** -/
theorem geometry_pieces (ho : Overlays overlay) (h : Named subbasins) {s : Subbasin G}
    (hs : s ∈ subbasins) :
    ((piecesOf (overlayRodeo overlay A (some delineations) (some subbasins) .union) s).map
      LandSurface.geometry).Perm (larger A 1 (partsOf delineations s)) := by
  have hswap : (piecesOf (overlayRodeo overlay A (some delineations) (some subbasins) .union)
      s).Perm ((((pieces delineations subbasins).filter fun x => subbasinOf x = name s).filter
        fun x => 1 < A.area x.2.2).map landSurface) := by
    refine ((overlayRodeo_union ho).filter _).trans (.of_eq ?_)
    rw [List.filter_map, List.filter_filter, List.filter_filter]
    refine congrArg _ (List.filter_congr fun x _ => ?_)
    simp [landSurface, Bool.and_comm]
  refine (hswap.map _).trans (.of_eq ?_)
  rw [filter_pieces h hs, List.map_map, larger, partsOf, parts, List.map_map, List.filter_append,
    List.filter_append, List.map_append, List.filter_map, List.filter_map, List.map_map]
  congr 1
  · simp [Function.comp_def, landSurface, inf_comm]
  · by_cases hlt : 1 < A.area
        ((delineations.map TMNTFacilityDelineation.geom).foldl (· \ ·) s.geometry) <;>
      simp [hlt, landSurface]

/-- The land surfaces of a subbasin account for it. -/
theorem accounts_overlayRodeo (ho : Overlays overlay) (h : Named subbasins) {s : Subbasin G}
    (hs : s ∈ subbasins) :
    Accounts A delineations (overlayRodeo overlay A (some delineations) (some subbasins) .union)
      s := by
  have hperm : ((piecesOf (overlayRodeo overlay A (some delineations) (some subbasins) .union)
      s).map LandSurface.geometry).Perm (larger A 1 (partsOf delineations s)) :=
    geometry_pieces A ho h hs
  have htotal : totalArea A (overlayRodeo overlay A (some delineations) (some subbasins) .union)
      s = ((larger A 1 (partsOf delineations s)).map A.area).sum := by
    rw [← (hperm.map A.area).sum_eq, List.map_map]
    rfl
  have hexact := sum_parts_eq_iff A s.geometry (delineations.map TMNTFacilityDelineation.geom)
  rw [List.map_map, ← partsOf] at hexact
  have hparts := area_le_sum_parts A s.geometry (delineations.map TMNTFacilityDelineation.geom)
  rw [← partsOf] at hparts
  refine ⟨hperm, fun r hr => ?_, ?_, fun hapart => ?_, fun hnone => ?_⟩
  · have hmem := hperm.mem_iff.1 (List.mem_map_of_mem hr)
    exact le_of_mem_parts (List.mem_of_mem_filter hmem)
  · have hlarger := sum_le_larger A 1 (partsOf delineations s)
    rw [mul_one] at hlarger
    exact htotal ▸ hparts.trans hlarger
  · rw [htotal, ← hexact.2 hapart]
    exact sum_larger_le A 1 _
  · rw [htotal, sum_larger_eq A hnone]
    exact hexact

/-! ### No land is counted twice -/

omit [DecidableEq G] in
theorem apart_intersections
    (hdelineations : Apart A (delineations.map TMNTFacilityDelineation.geom))
    (hsubbasins : Apart A (subbasins.map Subbasin.geometry)) :
    Apart A ((intersections delineations subbasins).map fun x => x.2.2) := by
  rw [Apart, intersections, List.map_flatMap, List.pairwise_flatMap]
  constructor
  · intro d _
    have hapart := hsubbasins.map_inf A d.geom
    rw [List.map_map] at hapart
    rwa [List.map_map]
  · refine (List.pairwise_map.1 hdelineations).imp fun hdd x hx y hy => ?_
    rw [List.map_map] at hx hy
    obtain ⟨s, -, rfl⟩ := List.mem_map.1 hx
    obtain ⟨s', -, rfl⟩ := List.mem_map.1 hy
    exact A.area_eq_zero_of_le (inf_le_inf inf_le_left inf_le_left) hdd

omit [DecidableEq G] [IsStrictOrderedRing K] in
theorem area_inf_eq_zero_of_disjoint {a b c d : G} (ha : a ≤ c) (hb : b ≤ d) (h : Disjoint c d) :
    A.area (a ⊓ b) = 0 := by
  rw [(h.mono ha hb).eq_bot, A.area_bot]

omit [DecidableEq G] in
/-- The pieces of a union do not overlap where neither layer overlaps itself. -/
theorem apart_pieces
    (hdelineations : Apart A (delineations.map TMNTFacilityDelineation.geom))
    (hsubbasins : Apart A (subbasins.map Subbasin.geometry)) :
    Apart A ((pieces delineations subbasins).map fun x => x.2.2) := by
  have hd {d : TMNTFacilityDelineation G} (h : d ∈ delineations) :
      d.geom ≤ cover (delineations.map TMNTFacilityDelineation.geom) :=
    le_cover (List.mem_map_of_mem h)
  have hs {s : Subbasin G} (h : s ∈ subbasins) :
      s.geometry ≤ cover (subbasins.map Subbasin.geometry) :=
    le_cover (List.mem_map_of_mem h)
  have houtside : Apart A ((outside delineations subbasins).map fun x => x.2.2) := by
    rw [Apart, outside, List.map_map, List.pairwise_map]
    simp only [Function.comp_apply, foldl_sdiff]
    exact (List.pairwise_map.1 hdelineations).imp
      fun h => A.area_eq_zero_of_le (inf_le_inf sdiff_le sdiff_le) h
  have hundelineated : Apart A ((undelineated delineations subbasins).map fun x => x.2.2) := by
    rw [Apart, undelineated, List.map_map, List.pairwise_map]
    simp only [Function.comp_apply, foldl_sdiff]
    exact (List.pairwise_map.1 hsubbasins).imp
      fun h => A.area_eq_zero_of_le (inf_le_inf sdiff_le sdiff_le) h
  rw [Apart, pieces, List.map_append, List.map_append, List.pairwise_append,
    List.pairwise_append]
  refine ⟨⟨apart_intersections A hdelineations hsubbasins, houtside, ?_⟩, hundelineated, ?_⟩
  · intro x hx y hy
    obtain ⟨p, hp, rfl⟩ := List.mem_map.1 hx
    obtain ⟨d, -, hmem⟩ := List.mem_flatMap.1 hp
    obtain ⟨s, hs', rfl⟩ := List.mem_map.1 hmem
    obtain ⟨q, hq, rfl⟩ := List.mem_map.1 hy
    obtain ⟨d', -, rfl⟩ := List.mem_map.1 hq
    rw [foldl_sdiff]
    exact area_inf_eq_zero_of_disjoint A (inf_le_right.trans (hs hs')) le_rfl
      disjoint_sdiff_self_right
  · intro x hx y hy
    obtain ⟨q, hq, rfl⟩ := List.mem_map.1 hy
    obtain ⟨s, hs', rfl⟩ := List.mem_map.1 hq
    rw [foldl_sdiff]
    -- the first piece is of a delineation, and the second one is outside of all of them
    have hle : x ≤ cover (delineations.map TMNTFacilityDelineation.geom) := by
      rcases List.mem_append.1 hx with hx | hx
      · obtain ⟨p, hp, rfl⟩ := List.mem_map.1 hx
        obtain ⟨d, hd', hmem⟩ := List.mem_flatMap.1 hp
        obtain ⟨s, -, rfl⟩ := List.mem_map.1 hmem
        exact inf_le_left.trans (hd hd')
      · obtain ⟨p, hp, rfl⟩ := List.mem_map.1 hx
        obtain ⟨d, hd', rfl⟩ := List.mem_map.1 hp
        rw [foldl_sdiff]
        exact sdiff_le.trans (hd hd')
    exact area_inf_eq_zero_of_disjoint A hle le_rfl disjoint_sdiff_self_right

/-- No land is in two land surfaces. -/
theorem apart_overlayRodeo (ho : Overlays overlay)
    (hdelineations : Apart A (delineations.map TMNTFacilityDelineation.geom))
    (hsubbasins : Apart A (subbasins.map Subbasin.geometry)) :
    Apart A ((overlayRodeo overlay A (some delineations) (some subbasins) .union).map
      LandSurface.geometry) := by
  refine Apart.perm A ((overlayRodeo_union ho).map _) ?_
  refine (apart_pieces A hdelineations hsubbasins).sublist ?_
  rw [List.map_map]
  exact List.filter_sublist.map _

end Area

/-! ### Scenarios -/

/-- The row of a delineation of a scenario. -/
def scenarioRow (d : Delineation G) : TMNTFacilityDelineation G where
  altid := some d.altid
  relid := d.relid
  nodeId := some d.nodeId
  geom := d.geometry

/-- What is asked of shapes of a scenario, answered by the regions. -/
def PieceAreas (geo : Geometry G K) [DecidableEq G] : Prop :=
  ∀ d s, geo.pieceArea d s = if d ⊓ s = ⊥ then none else some (A.area (d ⊓ s))

variable {overlay} in
/-- For a scenario, the rows are those of `overlayRodeo`. -/
theorem overlayRodeo_rows [DecidableEq G] [IsStrictOrderedRing K] (ho : Overlays overlay)
    {geo : Geometry G K} (hgeo : PieceAreas A geo) (delineations : RelidTable (Delineation G))
    (subbasins : List (Subbasin G)) :
    ((overlayRodeo overlay A (some (delineations.rows.map scenarioRow)) (some subbasins)
      .intersection).map LandSurface.toLguBoundary).Perm
        (StormPiper.overlayRodeo geo delineations subbasins).rows := by
  refine ((overlayRodeo_intersection ho).map _).trans (.of_eq ?_)
  rw [intersections, List.map_map, List.flatMap_map, StormPiper.overlayRodeo, StormPiper.overlay]
  simp only [List.filter_flatMap, List.map_flatMap]
  refine List.flatMap_congr fun d _ => ?_
  induction subbasins with
  | nil => rfl
  | cons s subbasins ih =>
    rw [List.filterMap_cons, List.map_cons, hgeo]
    by_cases hbot : d.geometry ⊓ s.geometry = ⊥
    · have hsmall : ¬ 1 < A.area (d.geometry ⊓ s.geometry) := by
        rw [hbot, A.area_bot]
        exact zero_lt_one.not_gt
      rw [if_pos hbot, Option.map_none]
      simp only [scenarioRow] at ih
      simpa only [List.filter_cons, scenarioRow, hsmall, decide_false, Bool.false_eq_true, if_false]
        using ih
    · rw [if_neg hbot, Option.map_some]
      simp only [scenarioRow] at ih
      by_cases hlt : 1 < A.area (d.geometry ⊓ s.geometry)
      · simp only [List.filter_cons, scenarioRow, hlt, decide_true, if_true, List.map_cons, ← ih]
        rfl
      · simpa only [List.filter_cons, scenarioRow, hlt, decide_false, Bool.false_eq_true, if_false]
          using ih

end Rodeo

/-- **The land surfaces account for the subbasins.**  The land surfaces of a subbasin are its parts
of more than a square foot; their areas sum up to its own area, but for at most a square foot for
each part that is dropped and for the land that several delineations overlap in.  Where neither
layer overlaps itself, no land is in two land surfaces. -/
theorem overlayRodeo_area {G K : Type} [GeneralizedBooleanAlgebra G] [DecidableEq G] [Field K]
    [LinearOrder K] [IsStrictOrderedRing K] {overlay : Rodeo.OverlayFunction G}
    (ho : Rodeo.Overlays overlay) (A : RegionArea G K)
    {delineations : List (TMNTFacilityDelineation G)} {subbasins : List (Subbasin G)}
    (h : Rodeo.Named subbasins) :
    let rows := Rodeo.overlayRodeo overlay A (some delineations) (some subbasins) .union
    (∀ s ∈ subbasins, Rodeo.Accounts A delineations rows s) ∧
      (Apart A (delineations.map TMNTFacilityDelineation.geom) →
        Apart A (subbasins.map Subbasin.geometry) →
        Apart A (rows.map LandSurface.geometry)) :=
  ⟨fun _ hs => Rodeo.accounts_overlayRodeo A ho h hs, Rodeo.apart_overlayRodeo A ho⟩

/-- An overlay that goes through the pieces in their order. -/
def overlayInOrder {G : Type} [GeneralizedBooleanAlgebra G] [DecidableEq G] :
    Rodeo.OverlayFunction G := fun delineations subbasins how =>
  let pieces := match how with
    | .intersection => Rodeo.intersections delineations subbasins
    | .union => Rodeo.pieces delineations subbasins
  pieces.filter fun x => x.2.2 ≠ ⊥

theorem overlays_overlayInOrder {G : Type} [GeneralizedBooleanAlgebra G] [DecidableEq G] :
    Rodeo.Overlays (overlayInOrder (G := G)) := ⟨fun _ _ => .refl _, fun _ _ => .refl _⟩

/-- A city of square feet. -/
def squareFeet : RegionArea (Finset ℕ) ℚ := cells 1 zero_le_one

/-- Two subbasins of ten and of six square feet. -/
def twoSubbasins : List (Subbasin (Finset ℕ)) :=
  [⟨some "FS_01", some "FOSS WATERWAY", Finset.range 10⟩,
   ⟨some "NT_01", some "NORTH TACOMA", Finset.range 16 \ Finset.range 10⟩]

/-- Two delineations that overlap in a square foot, one of them in both subbasins. -/
def twoDelineations : List (TMNTFacilityDelineation (Finset ℕ)) :=
  [⟨some "D1", some "SWFA-1", some "ls_SWFA-1_D1", {2, 3, 4, 5}⟩,
   ⟨some "D2", some "SWFA-2", some "ls_SWFA-2_D2", {5, 6, 7, 10, 11}⟩]

theorem overlayRodeo_area_twoSubbasins :
    let rows := Rodeo.overlayRodeo overlayInOrder squareFeet (some twoDelineations)
      (some twoSubbasins) .union
    Rodeo.Named twoSubbasins ∧
      (∀ s ∈ twoSubbasins, Rodeo.Accounts squareFeet twoDelineations rows s) ∧
      (Apart squareFeet (twoDelineations.map TMNTFacilityDelineation.geom) →
        Apart squareFeet (twoSubbasins.map Subbasin.geometry) →
        Apart squareFeet (rows.map LandSurface.geometry)) := by
  have hnamed : Rodeo.Named twoSubbasins := ⟨by decide, by decide⟩
  exact ⟨hnamed, overlayRodeo_area overlays_overlayInOrder squareFeet hnamed⟩

end StormPiper
