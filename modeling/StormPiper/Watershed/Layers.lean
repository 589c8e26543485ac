import StormPiper.Facilities.Attributes
import StormPiper.Sql.Query
import StormPiper.Watershed.Rodeo

/-!
# The watershed of the layers

From the layers of the GIS, that is facilities, delineations and subbasins, and from the attributes
of the facilities, the tasks build the table `lgu_boundary` (`overlay_rodeo_from_database`) and with
the view `tmnt_v` the edges of the watershed graph (`build_edge_list_from_database`).

The tables `lgu_boundary` and `tmnt_v` are well formed if the layers are (`Layers.Valid`).  They are
read without an order, and a basin has its outlet if the row of it that is read first is delineated:
this can be so if a delineation covers a part of the basin, and it is so in every order if no part
of the basin is left out.

Of the columns of `tmnt_v` only those of the graph are modelled, without the joins to the costs and
results, which have one row for a facility.  Facilities without an id are left out.

* `Layers.lguBoundary`, `Layers.tmntV`, `buildEdgeListFromDatabase` : the functions of the source.
* `Layers.Reads` : what the database returns for the two tables, in any order.
* `Layers.Valid.watershedTables` : the tables are well formed.
* `layers_drain_iff` : the graph of the layers drains in some order exactly if every basin is
  delineated somewhere, and in every order exactly if it is delineated throughout.
-/

namespace StormPiper

open StormPiper.Regions StormPiper.Rodeo StormPiper.Frame

/-- The tables that the graph is built from. -/
structure Layers (G : Type) where
  facilities : List (TMNTFacilityRow G)
  delineations : List (TMNTFacilityDelineation G)
  subbasins : List (Subbasin G)
  attrs : List TMNTFacilityAttr

/-- `delineation_node_id`. -/
def delineationNodeId (relid altid : Option String) : String :=
  "ls_" ++ pyStr relid ++ "_" ++ pyStr altid

/-- The text after which a name follows does not begin anew in the name. -/
def Unambiguous (name : String) : Prop := ¬ "_SB_".toList <:+: '_' :: name.toList

instance (name : String) : Decidable (Unambiguous name) :=
  inferInstanceAs (Decidable (¬ "_SB_".toList <:+: '_' :: name.toList))

/-- A row of the view `tmnt_v` as a node of the graph. -/
def tmntNode {G : Type} (x : TMNTFacilityRow G × Option TMNTFacilityAttr) : Option TmntNode :=
  x.1.nodeId.map fun n =>
    { nodeId := n
      subbasin := x.2.bind TMNTFacilityAttr.subbasin
      basinname := x.2.bind TMNTFacilityAttr.basinname }

/-- `build_edge_list_from_database` on the rows that are read, if all facilities have an id. -/
def buildEdgeListFromDatabase {G : Type} (lgu : List LguBoundary)
    (fac : List (TMNTFacilityRow G × Option TMNTFacilityAttr)) : Option (List Edge) :=
  (fac.mapM tmntNode).map fun nodes => buildEdgeList lgu (some nodes)

namespace Layers

variable {G K : Type} [GeneralizedBooleanAlgebra G] [Field K] [LinearOrder K]

section Model

variable (overlay : OverlayFunction G) (A : RegionArea G K) (t : Layers G)

/-- The delineations of facilities that are in their table. -/
def known : List (TMNTFacilityDelineation G) :=
  t.delineations.filter fun d => (t.facilities.map TMNTFacilityRow.altid).contains d.relid

/-- `overlay_rodeo_from_database`. -/
def overlayRodeoFromDatabase : List (LandSurface G) :=
  Rodeo.overlayRodeo overlay A (some t.known) (some t.subbasins) .union

/-- The table `lgu_boundary`, without its ids and shapes. -/
def lguBoundary : List LguBoundary :=
  (t.overlayRodeoFromDatabase overlay A).map LandSurface.toLguBoundary

/-- `tmnt_facility as t LEFT JOIN tmnt_facility_attribute as ta on t.node_id = ta.node_id`. -/
def tmntV : List (TMNTFacilityRow G × Option TMNTFacilityAttr) :=
  Sql.leftJoin (fun f a => Sql.eq a.nodeId f.nodeId) t.facilities t.attrs

/-- What is read of the two tables: all rows, in the order in which the database returns them. -/
structure Reads (lgu : List LguBoundary)
    (fac : List (TMNTFacilityRow G × Option TMNTFacilityAttr)) : Prop where
  lgu : lgu.Perm (t.lguBoundary overlay A)
  fac : fac.Perm t.tmntV

end Model

/-! ### Well formed layers -/

section Valid

variable (A : RegionArea G K) (t : Layers G)

/-- The attributes of a facility. -/
def attrOf (f : TMNTFacilityRow G) (a : TMNTFacilityAttr) : Prop :=
  f ∈ t.facilities ∧ a ∈ t.attrs ∧ a.nodeId = f.nodeId

/-- What the refreshes and updates see to, and what is asked of the layers of the GIS: ids and names
that are unique and can be told apart, and subbasins that are larger than what may be dropped of
them. -/
structure Valid : Prop where
  altids_unique : UniqueAltids t.facilities
  facility_named : ∀ f ∈ t.facilities, f.nodeId = f.altid
  attrs_unique : UniqueAttrs t.attrs
  attr_named : ∀ a ∈ t.attrs, a.nodeId = a.altid
  attr_located : ∀ a ∈ t.attrs, a.subbasin = some "None" ∨
    ∃ s ∈ t.subbasins, a.subbasin = some (name s)
  attributed : ∀ f ∈ t.facilities, ∃ a ∈ t.attrs, a.nodeId = f.nodeId
  delineation_named : ∀ d ∈ t.known, d.nodeId = some (delineationNodeId d.relid d.altid)
  altid_isSome : ∀ f ∈ t.facilities, ∃ n ∈ f.altid, startswith n "ls_" = false ∧
    startswith n "SB_" = false ∧ startswith n "B_" = false ∧ n ≠ PUGET_SOUND
  delineation_isSome : ∀ d ∈ t.known, d.altid.isSome
  delineation_nodup : (t.known.map TMNTFacilityDelineation.nodeId).Nodup
  subbasins_named : Named t.subbasins
  unambiguous : ∀ s ∈ t.subbasins, Unambiguous (name s)
  basin_ne_none : ∀ s ∈ t.subbasins, bNode (some (pyStr s.basinname)) ≠ bNode (some "None")
  subbasin_large : ∀ s ∈ t.subbasins, (t.known.length : K) + 1 < A.area s.geometry

/-- In every basin, a delineation covers more than a square foot of a subbasin. -/
def BasinsDelineated : Prop :=
  ∀ s ∈ t.subbasins, ∃ d ∈ t.known, ∃ s' ∈ t.subbasins,
    bNode (some (pyStr s'.basinname)) = bNode (some (pyStr s.basinname)) ∧
      1 < A.area (d.geom ⊓ s'.geometry)

/-- In every basin, no more than a square foot of a subbasin is left out by the delineations.  Of
the basins that are one node it suffices for one. -/
def BasinsCovered : Prop :=
  ∀ s ∈ t.subbasins, ∃ s' ∈ t.subbasins,
    bNode (some (pyStr s'.basinname)) = bNode (some (pyStr s.basinname)) ∧
      ∀ u ∈ t.subbasins, pyStr u.basinname = pyStr s'.basinname →
        ¬ 1 < A.area (u.geometry \ cover (t.known.map TMNTFacilityDelineation.geom))

/-- If a facility is outside of the subbasins, so is more than a square foot of a delineation. -/
def OutsideDelineated : Prop :=
  (∃ f a, t.attrOf f a ∧ a.subbasin = some "None") →
    ∃ d ∈ t.known, 1 < A.area (d.geom \ cover (t.subbasins.map Subbasin.geometry))

end Valid

/-! ### The names of the land surfaces -/

theorem eq_nil_of_unambiguous {s s' : List Char} (h : ¬ "_SB_".toList <:+: '_' :: s)
    {a : List Char} (heq : "_SB_".toList ++ s = a ++ ("_SB_".toList ++ s')) : a = [] := by
  have hsep : "_SB_".toList = ['_', 'S', 'B', '_'] := rfl
  rw [hsep] at h heq
  match a, heq with
  | [], _ => rfl
  | [c], heq => simp at heq
  | [c, d], heq => simp at heq
  | [c, d, e], heq =>
    simp only [List.cons_append, List.nil_append, List.cons.injEq] at heq
    obtain ⟨-, -, -, -, hs⟩ := heq
    exact absurd ⟨[], s', by simp [hs]⟩ h
  | c :: d :: e :: f :: a, heq =>
    simp only [List.cons_append, List.nil_append, List.cons.injEq] at heq
    obtain ⟨-, -, -, -, hs⟩ := heq
    exact absurd ⟨'_' :: a, s', by simp [hs]⟩ h

/-- The name of a land surface tells its delineation and its subbasin. -/
theorem nodeId_injective {n n' s s' : String} (hs : Unambiguous s) (hs' : Unambiguous s')
    (h : nodeId (some n) s = nodeId (some n') s') : n = n' ∧ s = s' := by
  have hlist := congrArg String.toList h
  simp only [nodeId, String.toList_append, List.append_assoc] at hlist
  rcases List.append_eq_append_iff.1 hlist with ⟨a, hn, hrest⟩ | ⟨a, hn, hrest⟩
  · obtain rfl := eq_nil_of_unambiguous hs hrest
    rw [List.nil_append] at hrest
    exact ⟨String.toList_inj.1 (by rw [hn, List.append_nil]),
      String.toList_inj.1 (List.append_cancel_left hrest)⟩
  · obtain rfl := eq_nil_of_unambiguous hs' hrest
    rw [List.nil_append] at hrest
    exact ⟨String.toList_inj.1 (by rw [hn, List.append_nil]),
      String.toList_inj.1 (List.append_cancel_left hrest).symm⟩

theorem nodeId_none_ne (s n s' : String) : nodeId none s ≠ nodeId (some ("ls_" ++ n)) s' := by
  intro h
  have hlist := congrArg String.toList h
  simp [nodeId, String.toList_append] at hlist

theorem unambiguous_none : Unambiguous "None" := by decide

/-- What the name of a piece is made of. -/
def key (x : Piece G) : Option String × String :=
  (x.1.bind TMNTFacilityDelineation.nodeId, subbasinOf x)

section Names

variable {A : RegionArea G K} {t : Layers G}

theorem Valid.nodup_keys (h : t.Valid A) : ((pieces t.known t.subbasins).map key).Nodup := by
  have hintersections : (intersections t.known t.subbasins).map key =
      (t.known.map TMNTFacilityDelineation.nodeId).product (t.subbasins.map name) := by
    simp only [intersections, List.product, List.map_flatMap, List.map_map, List.flatMap_map]
    rfl
  have houtside : (outside t.known t.subbasins).map key =
      (t.known.map TMNTFacilityDelineation.nodeId).map fun n => (n, "None") := by
    rw [outside, List.map_map, List.map_map]
    rfl
  have hundelineated : (undelineated t.known t.subbasins).map key =
      (t.subbasins.map name).map fun s => (none, s) := by
    rw [undelineated, List.map_map, List.map_map]
    rfl
  have hnone : "None" ∉ t.subbasins.map name := by
    intro hmem
    obtain ⟨s, hs, heq⟩ := List.mem_map.1 hmem
    exact h.subbasins_named.ne_none s hs heq
  have hsome : ∀ n ∈ t.known.map TMNTFacilityDelineation.nodeId, n ≠ none := by
    intro n hn
    obtain ⟨d, hd, rfl⟩ := List.mem_map.1 hn
    rw [h.delineation_named d hd]
    exact Option.some_ne_none _
  rw [pieces, List.map_append, List.map_append, hintersections, houtside, hundelineated,
    List.nodup_append, List.nodup_append]
  refine ⟨⟨h.delineation_nodup.product h.subbasins_named.nodup,
    h.delineation_nodup.map fun _ _ => congrArg Prod.fst, ?_⟩,
    h.subbasins_named.nodup.map fun _ _ => congrArg Prod.snd, ?_⟩
  · rintro ⟨n, s⟩ hx y hy rfl
    obtain ⟨n', -, heq⟩ := List.mem_map.1 hy
    obtain rfl := congrArg Prod.snd heq
    exact hnone (List.mem_product.1 hx).2
  · rintro ⟨n, s⟩ hx y hy rfl
    obtain ⟨s', -, heq⟩ := List.mem_map.1 hy
    obtain rfl := congrArg Prod.fst heq
    rcases List.mem_append.1 hx with hx | hx
    · exact hsome _ (List.mem_product.1 hx).1 rfl
    · obtain ⟨n', hn', heq'⟩ := List.mem_map.1 hx
      exact hsome n' hn' (congrArg Prod.fst heq')

theorem Valid.key_some (h : t.Valid A) {x : Piece G} (hx : x ∈ pieces t.known t.subbasins) :
    Unambiguous (key x).2 ∧ ((key x).1 = none ∨ ∃ n, (key x).1 = some ("ls_" ++ n)) := by
  have hd : ∀ d ∈ t.known, ∃ n, d.nodeId = some ("ls_" ++ n) := fun d hd =>
    ⟨_, by rw [h.delineation_named d hd, delineationNodeId, String.append_assoc,
      String.append_assoc]⟩
  rcases mem_pieces.1 hx with ⟨d, hmem, s, hs, rfl⟩ | ⟨d, hmem, rfl⟩ | ⟨s, hs, rfl⟩
  · exact ⟨h.unambiguous s hs, .inr (hd d hmem)⟩
  · exact ⟨unambiguous_none, .inr (hd d hmem)⟩
  · exact ⟨h.unambiguous s hs, .inl rfl⟩

/-- No two land surfaces have one name. -/
theorem Valid.nodup_nodeId [DecidableEq G] [IsStrictOrderedRing K] {overlay : OverlayFunction G}
    (ho : Overlays overlay) (h : t.Valid A) :
    ((t.lguBoundary overlay A).map LguBoundary.nodeId).Nodup := by
  have hkeys : (((pieces t.known t.subbasins).map key).map fun k => nodeId k.1 k.2).Nodup := by
    refine List.Nodup.map_on (fun k hk k' hk' heq => ?_) h.nodup_keys
    obtain ⟨x, hx, rfl⟩ := List.mem_map.1 hk
    obtain ⟨x', hx', rfl⟩ := List.mem_map.1 hk'
    obtain ⟨hname, hfirst⟩ := h.key_some hx
    obtain ⟨hname', hfirst'⟩ := h.key_some hx'
    generalize key x = k at *
    generalize key x' = k' at *
    obtain ⟨n, s⟩ := k
    obtain ⟨n', s'⟩ := k'
    dsimp only at *
    rcases hfirst with rfl | ⟨n, rfl⟩ <;> rcases hfirst' with rfl | ⟨n', rfl⟩
    · simpa [nodeId] using heq
    · exact absurd heq (nodeId_none_ne s n' s')
    · exact absurd heq.symm (nodeId_none_ne s' n s)
    · obtain ⟨hn, hs⟩ := nodeId_injective hname hname' heq
      rw [hn, hs]
  refine ((((overlayRodeo_union ho).map _).map _).nodup_iff).2 (hkeys.sublist ?_)
  rw [List.map_map, List.map_map, List.map_map]
  exact List.filter_sublist.map _

end Names

/-! ### The rows of the table -/

section Rows

/-- The row of a piece of a delineation and a subbasin, or of what is left of one of them. -/
def row (d : Option (TMNTFacilityDelineation G)) (s : Option (Subbasin G)) : LguBoundary where
  altid := d.bind TMNTFacilityDelineation.altid
  relid := d.bind TMNTFacilityDelineation.relid
  nodeId := nodeId (d.bind TMNTFacilityDelineation.nodeId) (pyStr (s.bind Subbasin.subbasin))
  subbasin := some (pyStr (s.bind Subbasin.subbasin))
  basinname := some (pyStr (s.bind Subbasin.basinname))

variable [DecidableEq G] [IsStrictOrderedRing K] {overlay : OverlayFunction G}
  (ho : Overlays overlay) {A : RegionArea G K} {t : Layers G}
include ho

theorem mem_lguBoundary {r : LguBoundary} : r ∈ t.lguBoundary overlay A ↔
    (∃ d ∈ t.known, ∃ s ∈ t.subbasins, 1 < A.area (d.geom ⊓ s.geometry) ∧
      r = row (some d) (some s)) ∨
    (∃ d ∈ t.known, 1 < A.area (d.geom \ cover (t.subbasins.map Subbasin.geometry)) ∧
      r = row (some d) none) ∨
    (∃ s ∈ t.subbasins,
      1 < A.area (s.geometry \ cover (t.known.map TMNTFacilityDelineation.geom)) ∧
      r = row none (some s)) := by
  rw [lguBoundary, overlayRodeoFromDatabase, List.mem_map]
  constructor
  · rintro ⟨p, hp, rfl⟩
    obtain ⟨x, hx, hlt, rfl⟩ := (mem_overlayRodeo_union ho).1 hp
    rcases mem_pieces.1 hx with ⟨d, hd, s, hs, rfl⟩ | ⟨d, hd, rfl⟩ | ⟨s, hs, rfl⟩
    · exact .inl ⟨d, hd, s, hs, hlt, rfl⟩
    · exact .inr (.inl ⟨d, hd, hlt, rfl⟩)
    · exact .inr (.inr ⟨s, hs, hlt, rfl⟩)
  · rintro (⟨d, hd, s, hs, hlt, rfl⟩ | ⟨d, hd, hlt, rfl⟩ | ⟨s, hs, hlt, rfl⟩)
    · exact ⟨_, (mem_overlayRodeo_union ho).2
        ⟨_, mem_pieces.2 (.inl ⟨d, hd, s, hs, rfl⟩), hlt, rfl⟩, rfl⟩
    · exact ⟨_, (mem_overlayRodeo_union ho).2
        ⟨_, mem_pieces.2 (.inr (.inl ⟨d, hd, rfl⟩)), hlt, rfl⟩, rfl⟩
    · exact ⟨_, (mem_overlayRodeo_union ho).2
        ⟨_, mem_pieces.2 (.inr (.inr ⟨s, hs, rfl⟩)), hlt, rfl⟩, rfl⟩

/-- A subbasin has a row. -/
theorem Valid.exists_row (h : t.Valid A) {s : Subbasin G} (hs : s ∈ t.subbasins) :
    ∃ d, row d (some s) ∈ t.lguBoundary overlay A := by
  have hlarge := h.subbasin_large s hs
  rw [← mul_one ((t.known.length : K) + 1),
    ← List.length_map TMNTFacilityDelineation.geom] at hlarge
  obtain ⟨g, hg, hlt⟩ := exists_mem_larger A zero_le_one hlarge
  rcases List.mem_append.1 hg with hg | hg
  · rw [List.map_map] at hg
    obtain ⟨d, hd, rfl⟩ := List.mem_map.1 hg
    rw [Function.comp_apply, inf_comm] at hlt
    exact ⟨some d, (mem_lguBoundary ho).2 (.inl ⟨d, hd, s, hs, hlt, rfl⟩)⟩
  · obtain rfl := List.mem_singleton.1 hg
    rw [foldl_sdiff] at hlt
    exact ⟨none, (mem_lguBoundary ho).2 (.inr (.inr ⟨s, hs, hlt, rfl⟩))⟩

/-- The rows of a subbasin have its basin. -/
theorem Valid.basinname_eq (h : t.Valid A) {s : Subbasin G} (hs : s ∈ t.subbasins)
    {r : LguBoundary} (hr : r ∈ t.lguBoundary overlay A) (hrs : r.subbasin = some (name s)) :
    r.basinname = some (pyStr s.basinname) := by
  have hunique : ∀ s' ∈ t.subbasins, name s' = name s → s' = s := fun s' hs' heq =>
    List.inj_on_of_nodup_map h.subbasins_named.nodup hs' hs heq
  rcases (mem_lguBoundary ho).1 hr with ⟨d, -, s', hs', -, rfl⟩ | ⟨d, -, -, rfl⟩ | ⟨s', hs', -, rfl⟩
  · rw [hunique s' hs' (Option.some.inj hrs)]
    rfl
  · exact absurd (Option.some.inj hrs).symm (h.subbasins_named.ne_none s hs)
  · rw [hunique s' hs' (Option.some.inj hrs)]
    rfl

/-- Only land outside of the subbasins is in the subbasin `None`. -/
theorem Valid.of_none (h : t.Valid A) {r : LguBoundary} (hr : r ∈ t.lguBoundary overlay A)
    (hrs : r.subbasin = some "None") : ∃ d ∈ t.known,
      1 < A.area (d.geom \ cover (t.subbasins.map Subbasin.geometry)) ∧
      r = row (some d) none := by
  rcases (mem_lguBoundary ho).1 hr with ⟨d, -, s, hs, -, rfl⟩ | hd | ⟨s, hs, -, rfl⟩
  · exact absurd (Option.some.inj hrs) (h.subbasins_named.ne_none s hs)
  · exact hd
  · exact absurd (Option.some.inj hrs) (h.subbasins_named.ne_none s hs)

end Rows

/-! ### The facilities -/

section Facilities

variable {A : RegionArea G K} {t : Layers G}

/-- The node of a facility with its attributes. -/
def nodeOf (f : TMNTFacilityRow G) (a : Option TMNTFacilityAttr) : TmntNode where
  nodeId := f.nodeId.getD ""
  subbasin := a.bind TMNTFacilityAttr.subbasin
  basinname := a.bind TMNTFacilityAttr.basinname

/-- The facilities as nodes of the graph. -/
def nodes (t : Layers G) : List TmntNode :=
  t.facilities.map fun f => nodeOf f (t.attrs.find? fun a => Sql.eq a.nodeId f.nodeId)

omit [GeneralizedBooleanAlgebra G] in
theorem mapM_tmntNode {xs : List (TMNTFacilityRow G × Option TMNTFacilityAttr)}
    (h : ∀ x ∈ xs, x.1.nodeId.isSome) :
    xs.mapM tmntNode = some (xs.map fun x => nodeOf x.1 x.2) := by
  induction xs with
  | nil => rfl
  | cons x xs ih =>
    obtain ⟨n, hn⟩ := Option.isSome_iff_exists.1 (h x List.mem_cons_self)
    have hx : tmntNode x = some (nodeOf x.1 x.2) := by
      simp [tmntNode, nodeOf, hn]
    rw [List.mapM_cons, hx, ih fun y hy => h y (List.mem_cons_of_mem x hy)]
    rfl

variable (h : t.Valid A)
include h

theorem Valid.nodeId_eq {f : TMNTFacilityRow G} (hf : f ∈ t.facilities) :
    ∃ n, f.altid = some n ∧ f.nodeId = some n := by
  obtain ⟨n, hn, -⟩ := h.altid_isSome f hf
  exact ⟨n, hn, (h.facility_named f hf).trans hn⟩

theorem Valid.exists_attrOf {f : TMNTFacilityRow G} (hf : f ∈ t.facilities) :
    ∃ a, t.attrOf f a := by
  obtain ⟨a, ha, heq⟩ := h.attributed f hf
  exact ⟨a, hf, ha, heq⟩

theorem Valid.length_attrs (x : Option String) :
    (t.attrs.filter fun a => Sql.eq a.nodeId x).length ≤ 1 := by
  refine Sql.length_filter_eq_le_one ?_ x
  rw [List.filterMap_congr fun a ha => h.attr_named a ha]
  exact h.attrs_unique

theorem Valid.find?_attrs {f : TMNTFacilityRow G} {a : TMNTFacilityAttr} (hfa : t.attrOf f a) :
    (t.attrs.find? fun a => Sql.eq a.nodeId f.nodeId) = some a := by
  obtain ⟨hf, ha, heq⟩ := hfa
  obtain ⟨n, -, hn⟩ := h.nodeId_eq hf
  exact Sql.find?_eq_some_of_mem (h.length_attrs f.nodeId) ha
    (Sql.eq_iff.2 ⟨by rw [heq, hn]; rfl, heq⟩)

theorem Valid.mem_nodes {n : TmntNode} :
    n ∈ t.nodes ↔ ∃ f a, t.attrOf f a ∧ n = nodeOf f (some a) := by
  rw [nodes, List.mem_map]
  constructor
  · rintro ⟨f, hf, rfl⟩
    obtain ⟨a, hfa⟩ := h.exists_attrOf hf
    exact ⟨f, a, hfa, by rw [h.find?_attrs hfa]⟩
  · rintro ⟨f, a, hfa, rfl⟩
    exact ⟨f, hfa.1, by rw [h.find?_attrs hfa]⟩

/-- The graph is that of the rows that are read. -/
theorem Valid.exists_nodes {fac : List (TMNTFacilityRow G × Option TMNTFacilityAttr)}
    (hfac : fac.Perm t.tmntV) (lgu : List LguBoundary) : ∃ nodes, nodes.Perm t.nodes ∧
      buildEdgeListFromDatabase lgu fac = some (buildEdgeList lgu (some nodes)) := by
  have hjoin : t.tmntV =
      t.facilities.map fun f => (f, t.attrs.find? fun a => Sql.eq a.nodeId f.nodeId) :=
    Sql.leftJoin_eq_map fun f _ => h.length_attrs f.nodeId
  have hsome : ∀ x ∈ fac, x.1.nodeId.isSome := by
    intro x hx
    rw [hfac.mem_iff, hjoin] at hx
    obtain ⟨f, hf, rfl⟩ := List.mem_map.1 hx
    obtain ⟨n, -, hn⟩ := h.nodeId_eq hf
    rw [hn]
    rfl
  refine ⟨fac.map fun x => nodeOf x.1 x.2, ?_, ?_⟩
  · refine (hfac.map _).trans (.of_eq ?_)
    rw [hjoin, List.map_map]
    rfl
  · rw [buildEdgeListFromDatabase, mapM_tmntNode hsome]
    rfl

theorem Valid.nodup_nodes : (t.nodes.map TmntNode.nodeId).Nodup := by
  have hids : t.facilities.filterMap TMNTFacilityRow.altid = t.nodes.map TmntNode.nodeId := by
    rw [nodes, List.map_map, ← List.filterMap_eq_map]
    refine List.filterMap_congr fun f hf => ?_
    obtain ⟨n, haltid, hn⟩ := h.nodeId_eq hf
    simp [nodeOf, haltid, hn]
  exact hids ▸ h.altids_unique

end Facilities

/-! ### The tables are well formed -/

section Tables

variable [DecidableEq G] [IsStrictOrderedRing K] {overlay : OverlayFunction G}
  (ho : Overlays overlay) {A : RegionArea G K} {t : Layers G} (h : t.Valid A)
  {lgu : List LguBoundary} {nodes : List TmntNode} (hlgu : lgu.Perm (t.lguBoundary overlay A))
  (hnodes : nodes.Perm t.nodes)

include ho hlgu in
/-- The rows that are read, in any order. -/
theorem mem_read {r : LguBoundary} : r ∈ lgu ↔
    (∃ d ∈ t.known, ∃ s ∈ t.subbasins, 1 < A.area (d.geom ⊓ s.geometry) ∧
      r = row (some d) (some s)) ∨
    (∃ d ∈ t.known, 1 < A.area (d.geom \ cover (t.subbasins.map Subbasin.geometry)) ∧
      r = row (some d) none) ∨
    (∃ s ∈ t.subbasins,
      1 < A.area (s.geometry \ cover (t.known.map TMNTFacilityDelineation.geom)) ∧
      r = row none (some s)) :=
  hlgu.mem_iff.trans (mem_lguBoundary ho)

include ho h hlgu hnodes

theorem Valid.namedTables : NamedTables lgu (some nodes) where
  subbasin_isSome := by
    intro r hr
    rcases (mem_read ho hlgu).1 hr with ⟨d, -, s, -, -, rfl⟩ | ⟨d, -, -, rfl⟩ | ⟨s, -, -, rfl⟩ <;>
      rfl
  basinname_isSome := by
    intro r hr
    rcases (mem_read ho hlgu).1 hr with ⟨d, -, s, -, -, rfl⟩ | ⟨d, -, -, rfl⟩ | ⟨s, -, -, rfl⟩ <;>
      rfl
  facility_name := by
    intro n hn
    obtain ⟨f, a, hfa, rfl⟩ := h.mem_nodes.1 (hnodes.mem_iff.1 hn)
    obtain ⟨n, haltid, hname⟩ := h.altid_isSome f hfa.1
    have hnode : (nodeOf f (some a)).nodeId = n := by
      rw [nodeOf, h.facility_named f hfa.1, haltid]
      rfl
    rw [hnode]
    exact hname

/-- **The layers give well formed tables.** -/
theorem Valid.watershedTables (hout : t.OutsideDelineated A) :
    WatershedTables lgu (some nodes) where
  nodeId_nodup := (hlgu.map _).nodup_iff.2 (h.nodup_nodeId ho)
  subbasin_isSome := (h.namedTables ho hlgu hnodes).subbasin_isSome
  basinname_isSome := (h.namedTables ho hlgu hnodes).basinname_isSome
  facility_nodup := (hnodes.map _).nodup_iff.2 h.nodup_nodes
  facility_name := (h.namedTables ho hlgu hnodes).facility_name
  relid_mem := by
    have hknown : ∀ d ∈ t.known, ∀ n, d.relid = some n → ∃ f ∈ nodes, f.nodeId = n := by
      intro d hd n hn
      obtain ⟨f, hf, hrel⟩ := List.mem_map.1 (List.contains_iff_mem.1 (List.mem_filter.1 hd).2)
      obtain ⟨a, hfa⟩ := h.exists_attrOf hf
      refine ⟨_, hnodes.mem_iff.2 (h.mem_nodes.2 ⟨f, a, hfa, rfl⟩), ?_⟩
      rw [nodeOf, h.facility_named f hf, hrel, hn]
      rfl
    intro r hr n hn
    rcases (mem_read ho hlgu).1 hr with ⟨d, hd, s, -, -, rfl⟩ | ⟨d, hd, -, rfl⟩ | ⟨s, -, -, rfl⟩
    · exact hknown d hd n hn
    · exact hknown d hd n hn
    · cases hn
  facility_subbasin := by
    intro n hn
    obtain ⟨f, a, hfa, rfl⟩ := h.mem_nodes.1 (hnodes.mem_iff.1 hn)
    rcases h.attr_located a hfa.2.1 with hnone | ⟨s, hs, heq⟩
    · obtain ⟨d, hd, hlt⟩ := hout ⟨f, a, hfa, hnone⟩
      exact ⟨_, (mem_read ho hlgu).2 (.inr (.inl ⟨d, hd, hlt, rfl⟩)), hnone.symm⟩
    · obtain ⟨d, hd⟩ := h.exists_row ho hs
      exact ⟨_, hlgu.mem_iff.2 hd, heq.symm⟩

/-- Where the graph drains, the land around the facilities outside of the subbasins is delineated:
their edges lead to `SB_None`, and the path goes on from there. -/
theorem Valid.outsideDelineated
    (hdrains : Drains (initGraphFromDf (buildEdgeList lgu (some nodes))).Adj (some PUGET_SOUND)) :
    t.OutsideDelineated A := by
  rintro ⟨f, a, hfa, hnone⟩
  have hedge : (initGraphFromDf (buildEdgeList lgu (some nodes))).Adj
      (some (nodeOf f (some a)).nodeId) (sbNode (some "None")) := by
    refine adj_buildEdgeList.2 (.inl (.inl (.inr (flows_tmntToSubbasin.2
      ⟨_, hnodes.mem_iff.2 (h.mem_nodes.2 ⟨f, a, hfa, rfl⟩), rfl, ?_⟩))))
    rw [show (nodeOf f (some a)).subbasin = some "None" from hnone]
    rfl
  rcases hdrains.target_continues hedge with hsound | ⟨w, hw⟩
  · exact absurd hsound (by decide)
  · have hrank : nodeRank (sbNode (some "None")) = 2 := nodeRank_sbNode "None"
    rcases (h.namedTables ho hlgu hnodes).family hw with
      ⟨hu, -⟩ | ⟨hu, -⟩ | ⟨-, hflow⟩ | ⟨hu, -⟩ <;> try omega
    obtain ⟨r, hr, hsource, -⟩ := flows_subbasinToWshed.1 hflow
    obtain ⟨d, hd, hlt, -⟩ := h.of_none ho (hlgu.mem_iff.1 hr.mem) (sbNode_injective hsource)
    exact ⟨d, hd, hlt⟩

end Tables

/-! ### The outlets of the basins -/

section Outlets

variable [DecidableEq G] [IsStrictOrderedRing K] {overlay : OverlayFunction G}
  (ho : Overlays overlay) {A : RegionArea G K} {t : Layers G} (h : t.Valid A)
include ho h

/-- Every basin has an outlet if of each subbasin's basin the row that is read first is
delineated. -/
theorem Valid.hasOutlets_iff {lgu : List LguBoundary}
    (hlgu : lgu.Perm (t.lguBoundary overlay A)) : HasOutlets lgu ↔
      ∀ s ∈ t.subbasins, ∃ r, IsFirst LguBoundary.basinname lgu r ∧ r.altid.isSome ∧
        bNode r.basinname = bNode (some (pyStr s.basinname)) := by
  constructor
  · intro hout s hs
    obtain ⟨d₀, hd₀⟩ := h.exists_row ho hs
    obtain ⟨r, hr, hkey⟩ := exists_isFirst LguBoundary.subbasin (hlgu.mem_iff.2 hd₀)
    have hbasin := h.basinname_eq ho hs (hlgu.mem_iff.1 hr.mem) hkey
    obtain ⟨r', -, hfirst, haltid, hnode⟩ := hout r hr.mem hr
    exact ⟨r', hfirst, haltid, by rw [hnode, hbasin]⟩
  · intro hbasins r hr _
    have hsubbasin : ∀ s ∈ t.subbasins, r.basinname = some (pyStr s.basinname) →
        ∃ r' ∈ lgu, IsFirst LguBoundary.basinname lgu r' ∧ r'.altid.isSome ∧
          bNode r'.basinname = bNode r.basinname := by
      intro s hs hbasin
      obtain ⟨r', hr', haltid, hnode⟩ := hbasins s hs
      exact ⟨r', hr'.mem, hr', haltid, by rw [hnode, hbasin]⟩
    rcases (mem_read ho hlgu).1 hr with ⟨d, -, s, hs, -, rfl⟩ | ⟨d, hd, hlt, rfl⟩ | ⟨s, hs, -, rfl⟩
    · exact hsubbasin s hs rfl
    · -- the first row outside of the subbasins is of a delineation as well
      obtain ⟨r', hr', hkey⟩ := exists_isFirst LguBoundary.basinname hr
      have hne : ∀ s ∈ t.subbasins, r'.basinname ≠ some (pyStr s.basinname) := by
        intro s hs heq
        refine h.basin_ne_none s hs ?_
        rw [← heq, hkey]
        rfl
      refine ⟨r', hr'.mem, hr', ?_, by rw [hkey]⟩
      rcases (mem_read ho hlgu).1 hr'.mem with ⟨d', hd', s, -, -, rfl⟩ | ⟨d', hd', -, rfl⟩ |
        ⟨s, hs, -, rfl⟩
      · exact h.delineation_isSome d' hd'
      · exact h.delineation_isSome d' hd'
      · exact absurd rfl (hne s hs)
    · exact hsubbasin s hs rfl

/-- A row of a basin with an `altid` is of a delineation in a subbasin of it. -/
theorem Valid.exists_of_altid {r : LguBoundary} (hr : r ∈ t.lguBoundary overlay A)
    (haltid : r.altid.isSome) {s : Subbasin G} (hs : s ∈ t.subbasins)
    (hnode : bNode r.basinname = bNode (some (pyStr s.basinname))) :
    ∃ d ∈ t.known, ∃ s' ∈ t.subbasins, r = row (some d) (some s') ∧
      1 < A.area (d.geom ⊓ s'.geometry) := by
  rcases (mem_lguBoundary ho).1 hr with ⟨d, hd, s', hs', hlt, rfl⟩ | ⟨d, -, -, rfl⟩ |
    ⟨s', -, -, rfl⟩
  · exact ⟨d, hd, s', hs', rfl, hlt⟩
  · exact absurd hnode.symm (h.basin_ne_none s hs)
  · cases haltid

/-- The basins can have their outlets if a delineation covers a part of each. -/
theorem Valid.exists_hasOutlets_iff :
    (∃ lgu, lgu.Perm (t.lguBoundary overlay A) ∧ HasOutlets lgu) ↔ t.BasinsDelineated A := by
  constructor
  · rintro ⟨lgu, hlgu, hout⟩ s hs
    obtain ⟨r, hr, haltid, hnode⟩ := (h.hasOutlets_iff ho hlgu).1 hout s hs
    obtain ⟨d, hd, s', hs', rfl, hlt⟩ :=
      h.exists_of_altid ho (hlgu.mem_iff.1 hr.mem) haltid hs hnode
    exact ⟨d, hd, s', hs', hnode, hlt⟩
  · -- the delineated rows are read first
    intro hbasins
    have hperm := List.filter_append_perm (fun r : LguBoundary => r.altid.isSome)
      (t.lguBoundary overlay A)
    refine ⟨_, hperm, (h.hasOutlets_iff ho hperm).2 fun s hs => ?_⟩
    obtain ⟨d, hd, s', hs', hnode, hlt⟩ := hbasins s hs
    have hrow : row (some d) (some s') ∈ t.lguBoundary overlay A :=
      (mem_lguBoundary ho).2 (.inl ⟨d, hd, s', hs', hlt, rfl⟩)
    obtain ⟨r, hr, hkey, haltid⟩ := exists_isFirst_partition LguBoundary.basinname
      (p := fun r : LguBoundary => r.altid.isSome) hrow (h.delineation_isSome d hd)
    exact ⟨r, hr, haltid, by rw [hkey, ← hnode]; rfl⟩

/-- The basins have their outlets in every order if the delineations leave nothing of them out. -/
theorem Valid.forall_hasOutlets_iff :
    (∀ lgu, lgu.Perm (t.lguBoundary overlay A) → HasOutlets lgu) ↔ t.BasinsCovered A := by
  constructor
  · -- the rows of what is left out are read first
    intro hout s hs
    have hperm := List.filter_append_perm (fun r : LguBoundary => r.altid.isNone)
      (t.lguBoundary overlay A)
    obtain ⟨r, hr, haltid, hnode⟩ := (h.hasOutlets_iff ho hperm).1 (hout _ hperm) s hs
    obtain ⟨d, hd, s', hs', rfl, -⟩ :=
      h.exists_of_altid ho (hperm.mem_iff.1 hr.mem) haltid hs hnode
    refine ⟨s', hs', hnode, fun u hu hbasin hlt => ?_⟩
    have hrow : row none (some u) ∈ t.lguBoundary overlay A :=
      (mem_lguBoundary ho).2 (.inr (.inr ⟨u, hu, hlt, rfl⟩))
    obtain ⟨r', hr', hkey, hnone⟩ := exists_isFirst_partition LguBoundary.basinname
      (p := fun r : LguBoundary => r.altid.isNone) hrow rfl
    have hkeys : r'.basinname = (row (some d) (some s')).basinname :=
      hkey.trans (congrArg some hbasin)
    obtain rfl := hr'.unique hr hkeys
    rw [Option.isNone_iff_eq_none] at hnone
    rw [hnone] at haltid
    cases haltid
  · intro hcovered lgu hlgu
    refine (h.hasOutlets_iff ho hlgu).2 fun s hs => ?_
    obtain ⟨s', hs', hnode, hsmall⟩ := hcovered s hs
    obtain ⟨d₀, hd₀⟩ := h.exists_row ho hs'
    obtain ⟨r, hr, hkey⟩ := exists_isFirst LguBoundary.basinname (hlgu.mem_iff.2 hd₀)
    have hbasin : r.basinname = some (pyStr s'.basinname) := hkey
    refine ⟨r, hr, ?_, by rw [hbasin, hnode]⟩
    rcases (mem_read ho hlgu).1 hr.mem with ⟨d, hd, u, -, -, rfl⟩ | ⟨d, hd, -, rfl⟩ |
      ⟨u, hu, hlt, rfl⟩
    · exact h.delineation_isSome d hd
    · exact h.delineation_isSome d hd
    · exact absurd hlt (hsmall u hu (Option.some.inj hbasin))

/-- The graph of the rows that are read drains if every basin has an outlet, and so has the land
outside of the subbasins. -/
theorem Valid.drains_iff {lgu : List LguBoundary}
    {fac : List (TMNTFacilityRow G × Option TMNTFacilityAttr)}
    (hreads : t.Reads overlay A lgu fac) :
    ∃ edges, buildEdgeListFromDatabase lgu fac = some edges ∧
      (Drains (initGraphFromDf edges).Adj (some PUGET_SOUND) ↔
        HasOutlets lgu ∧ t.OutsideDelineated A) := by
  obtain ⟨nodes, hnodes, hedges⟩ := h.exists_nodes hreads.fac lgu
  refine ⟨_, hedges, fun hdrains => ?_, fun ⟨hout, houtside⟩ => ?_⟩
  · have houtside := h.outsideDelineated ho hreads.lgu hnodes hdrains
    have htables := h.watershedTables ho hreads.lgu hnodes houtside
    exact ⟨(drains_iff_hasOutlets htables).1 hdrains, houtside⟩
  · exact (drains_iff_hasOutlets (h.watershedTables ho hreads.lgu hnodes houtside)).2 hout

end Outlets

end Layers

/-- The graph of the rows that are read is made, and it drains to the sound. -/
def DrainsWhenRead {G : Type} (lgu : List LguBoundary)
    (fac : List (TMNTFacilityRow G × Option TMNTFacilityAttr)) : Prop :=
  ∃ edges, buildEdgeListFromDatabase lgu fac = some edges ∧
    Drains (initGraphFromDf edges).Adj (some PUGET_SOUND)

/-- **Which layers drain to the sound.**  In whatever order the tables are read, the graph drains
exactly if of every basin the first row is delineated, and, if a facility is outside of all
subbasins, so is more than a square foot of a delineation.  There is such an order exactly if in
every basin a delineation covers more than a square foot of a subbasin, and every order is one
exactly if in every basin the delineations leave nothing out. -/
theorem layers_drain_iff {G K : Type} [GeneralizedBooleanAlgebra G] [DecidableEq G] [Field K]
    [LinearOrder K] [IsStrictOrderedRing K] {overlay : OverlayFunction G}
    (ho : Overlays overlay) {A : RegionArea G K} {t : Layers G} (h : t.Valid A) :
    (∀ lgu fac, t.Reads overlay A lgu fac →
      ∃ edges, buildEdgeListFromDatabase lgu fac = some edges ∧
        (Drains (initGraphFromDf edges).Adj (some PUGET_SOUND) ↔
          HasOutlets lgu ∧ t.OutsideDelineated A)) ∧
    ((∃ lgu fac, t.Reads overlay A lgu fac ∧ DrainsWhenRead lgu fac) ↔
      t.BasinsDelineated A ∧ t.OutsideDelineated A) ∧
    ((∀ lgu fac, t.Reads overlay A lgu fac → DrainsWhenRead lgu fac) ↔
      t.BasinsCovered A ∧ t.OutsideDelineated A) := by
  have hdrains : ∀ {lgu fac}, t.Reads overlay A lgu fac →
      (DrainsWhenRead lgu fac ↔ HasOutlets lgu ∧ t.OutsideDelineated A) := by
    intro lgu fac hreads
    obtain ⟨edges, hedges, hiff⟩ := h.drains_iff ho hreads
    rw [← hiff, DrainsWhenRead, hedges]
    simp
  refine ⟨fun lgu fac => h.drains_iff ho, ?_, ?_⟩
  · rw [← h.exists_hasOutlets_iff ho]
    constructor
    · rintro ⟨lgu, fac, hreads, hread⟩
      obtain ⟨hout, houtside⟩ := (hdrains hreads).1 hread
      exact ⟨⟨lgu, hreads.lgu, hout⟩, houtside⟩
    · rintro ⟨⟨lgu, hlgu, hout⟩, houtside⟩
      have hreads : t.Reads overlay A lgu t.tmntV := ⟨hlgu, .refl _⟩
      exact ⟨lgu, _, hreads, (hdrains hreads).2 ⟨hout, houtside⟩⟩
  · rw [← h.forall_hasOutlets_iff ho]
    constructor
    · intro hall
      have hlgu : ∀ lgu, lgu.Perm (t.lguBoundary overlay A) →
          HasOutlets lgu ∧ t.OutsideDelineated A := fun lgu hlgu =>
        (hdrains ⟨hlgu, .refl _⟩).1 (hall lgu t.tmntV ⟨hlgu, .refl _⟩)
      exact ⟨fun lgu hperm => (hlgu lgu hperm).1, (hlgu _ (.refl _)).2⟩
    · rintro ⟨hout, houtside⟩ lgu fac hreads
      exact (hdrains hreads).2 ⟨hout lgu hreads.lgu, houtside⟩

/-- A facility with an id. -/
def facilityWithId (altid : String) : TMNTFacilityRow (Finset ℕ) :=
  ⟨some altid, some altid, none, some "Bioretention", none, none, none, none, none, none, none⟩

/-- The layers of a city with a facility in each of two subbasins. -/
def twoLayers : Layers (Finset ℕ) where
  facilities := [facilityWithId "SWFA-1", facilityWithId "SWFA-2"]
  delineations := twoDelineations ++ [⟨some "D3", some "SWFA-3", some "ls_SWFA-3_D3", {8, 9}⟩]
  subbasins := twoSubbasins
  attrs := (setDefaultTmntAttributes [facilityWithId "SWFA-1", facilityWithId "SWFA-2"]).zipWith
    (fun f s => attrRow f (some s)) twoSubbasins

/-- The delineations leave land out in both basins, so that it depends on the order whether the
graph drains. -/
theorem layers_drain_iff_twoLayers : twoLayers.Valid squareFeet ∧
    (∃ lgu fac, twoLayers.Reads overlayInOrder squareFeet lgu fac ∧ DrainsWhenRead lgu fac) ∧
    ¬ ∀ lgu fac, twoLayers.Reads overlayInOrder squareFeet lgu fac → DrainsWhenRead lgu fac := by
  have hvalid : twoLayers.Valid squareFeet := by
    constructor
    case subbasins_named => exact ⟨by decide, by decide⟩
    all_goals decide +kernel
  obtain ⟨-, hsome, hall⟩ := layers_drain_iff overlays_overlayInOrder hvalid
  have hlocated : ∀ a ∈ twoLayers.attrs, a.subbasin ≠ some "None" := by decide +kernel
  have hbasins : twoLayers.BasinsDelineated squareFeet := by
    unfold Layers.BasinsDelineated
    decide +kernel
  have hleft : ¬ twoLayers.BasinsCovered squareFeet := by
    unfold Layers.BasinsCovered
    decide +kernel
  refine ⟨hvalid, hsome.2 ⟨hbasins, ?_⟩, fun h => hleft (hall.1 h).1⟩
  rintro ⟨f, a, hfa, hnone⟩
  exact absurd hnone (hlocated a hfa.2.1)

end StormPiper
