import StormPiper.Watershed.EdgeList
import StormPiper.Graph.Drainage

/-!
# Does the watershed drain to the sound?

In the graph of a well formed watershed (`WatershedTables`) the edges go from land surfaces over
facilities and subbasins to basins and from there to the sound, so there is no cycle, and the
names keep the sources of the four families apart.

The outlet of a basin is taken from the first row of its name, and only if this row has an `altid`.
Subbasins get their edge from their first row whatever its `altid`.  So the watershed drains exactly
if the first row of every subbasin names a basin whose first row has an `altid`
(`HasOutlets`, `drains_iff_hasOutlets`).
-/

namespace StormPiper

open StormPiper.Frame

/-- What the tables promise: names and subbasins are there, and facilities have names of their
own. -/
structure WatershedTables (lgu : List LguBoundary) (tmntV : Option (List TmntNode)) : Prop where
  nodeId_nodup : (lgu.map LguBoundary.nodeId).Nodup
  subbasin_isSome : ∀ r ∈ lgu, r.subbasin.isSome
  basinname_isSome : ∀ r ∈ lgu, r.basinname.isSome
  facility_nodup : ((tmntV.getD []).map TmntNode.nodeId).Nodup
  facility_name : ∀ f ∈ tmntV.getD [], startswith f.nodeId "ls_" = false ∧
    startswith f.nodeId "SB_" = false ∧ startswith f.nodeId "B_" = false ∧ f.nodeId ≠ PUGET_SOUND
  relid_mem : ∀ r ∈ lgu, ∀ n, r.relid = some n → ∃ f ∈ tmntV.getD [], f.nodeId = n
  facility_subbasin : ∀ f ∈ tmntV.getD [], ∃ r ∈ lgu, r.subbasin = f.subbasin

/-- What keeps the four kinds of nodes apart. -/
structure NamedTables (lgu : List LguBoundary) (tmntV : Option (List TmntNode)) : Prop where
  subbasin_isSome : ∀ r ∈ lgu, r.subbasin.isSome
  basinname_isSome : ∀ r ∈ lgu, r.basinname.isSome
  facility_name : ∀ f ∈ tmntV.getD [], startswith f.nodeId "ls_" = false ∧
    startswith f.nodeId "SB_" = false ∧ startswith f.nodeId "B_" = false ∧ f.nodeId ≠ PUGET_SOUND

theorem WatershedTables.named {lgu : List LguBoundary} {tmntV : Option (List TmntNode)}
    (h : WatershedTables lgu tmntV) : NamedTables lgu tmntV :=
  ⟨h.subbasin_isSome, h.basinname_isSome, h.facility_name⟩

/-- Every basin that a subbasin drains to has an outlet: of the rows with its name, or a name that
gives the same node, the first one has an `altid`. -/
def HasOutlets (lgu : List LguBoundary) : Prop :=
  ∀ r ∈ lgu, IsFirst LguBoundary.subbasin lgu r → ∃ r' ∈ lgu,
    IsFirst LguBoundary.basinname lgu r' ∧ r'.altid.isSome ∧ bNode r'.basinname = bNode r.basinname

instance (lgu : List LguBoundary) : Decidable (HasOutlets lgu) :=
  inferInstanceAs (Decidable (∀ r ∈ lgu, _ → ∃ r' ∈ lgu, _))

/-! ### The kinds of nodes -/

/-- The place of a node on the way to the sound. -/
def nodeRank : Option String → ℕ
  | none => 0
  | some n =>
    if startswith n "ls_" then 0 else if startswith n "SB_" then 2
    else if startswith n "B_" then 3 else if n = PUGET_SOUND then 4 else 1

@[simp] theorem nodeRank_sbNode (s : String) : nodeRank (sbNode (some s)) = 2 := by
  have hls : startswith ("SB_" ++ s) "ls_" = false := by simp [startswith, List.isPrefixOf]
  simp [nodeRank, sbNode, hls]

@[simp] theorem nodeRank_bNode (b : String) : nodeRank (bNode (some b)) = 3 := by
  have hls : startswith ("B_" ++ replace b " " "_") "ls_" = false := by
    simp [startswith, List.isPrefixOf]
  have hsb : startswith ("B_" ++ replace b " " "_") "SB_" = false := by
    simp [startswith, List.isPrefixOf]
  simp [nodeRank, bNode, hls, hsb]

@[simp] theorem nodeRank_sound : nodeRank (some PUGET_SOUND) = 4 := by decide

theorem nodeRank_landSurface {n : String} (h : startswith n "ls_" = true) :
    nodeRank (some n) = 0 := by
  simp [nodeRank, h]

section

variable {lgu : List LguBoundary} {tmntV : Option (List TmntNode)}

theorem NamedTables.nodeRank_facility (h : NamedTables lgu tmntV) {f : TmntNode}
    (hf : f ∈ tmntV.getD []) : nodeRank (some f.nodeId) = 1 := by
  obtain ⟨hls, hsb, hb, hsound⟩ := h.facility_name f hf
  simp [nodeRank, hls, hsb, hb, hsound]

/-- The rank of its source tells the family of an edge. -/
theorem NamedTables.family (h : NamedTables lgu tmntV) {u v : Option String}
    (hadj : (initGraphFromDf (buildEdgeList lgu tmntV)).Adj u v) :
    (nodeRank u = 0 ∧ Flows (daToTmnt lgu) u v) ∨
      (nodeRank u = 1 ∧ Flows (tmntToSubbasin (tmntV.getD [])) u v) ∨
      (nodeRank u = 2 ∧ Flows (subbasinToWshed lgu) u v) ∨
      (nodeRank u = 3 ∧ Flows (wshedToSound lgu) u v) := by
  rcases adj_buildEdgeList.1 hadj with ((hda | htmnt) | hsub) | hwshed
  · obtain ⟨r, -, hls, rfl, -⟩ := flows_daToTmnt.1 hda
    exact .inl ⟨nodeRank_landSurface hls, hda⟩
  · obtain ⟨f, hf, rfl, -⟩ := flows_tmntToSubbasin.1 htmnt
    exact .inr (.inl ⟨h.nodeRank_facility hf, htmnt⟩)
  · obtain ⟨r, hr, rfl, -⟩ := flows_subbasinToWshed.1 hsub
    obtain ⟨s, hs⟩ := Option.isSome_iff_exists.1 (h.subbasin_isSome r hr.mem)
    exact .inr (.inr (.inl ⟨by simp [hs], hsub⟩))
  · obtain ⟨r, hr, -, rfl, -⟩ := flows_wshedToSound.1 hwshed
    obtain ⟨b, hb⟩ := Option.isSome_iff_exists.1 (h.basinname_isSome r hr.mem)
    exact .inr (.inr (.inr ⟨by simp [hb], hwshed⟩))

theorem WatershedTables.facility_subbasin_isSome (h : WatershedTables lgu tmntV) {f : TmntNode}
    (hf : f ∈ tmntV.getD []) : f.subbasin.isSome := by
  obtain ⟨r, hr, heq⟩ := h.facility_subbasin f hf
  exact heq ▸ h.subbasin_isSome r hr

/-! ### The edges of a well formed watershed -/

/-- The edges, with nodes in the place of columns that may be null. -/
inductive WatershedEdge (lgu : List LguBoundary) (tmntV : Option (List TmntNode)) :
    Option String → Option String → Prop
  | toFacility {r : LguBoundary} {f : TmntNode} : r ∈ lgu → startswith r.nodeId "ls_" = true →
      r.relid = some f.nodeId → f ∈ tmntV.getD [] →
      WatershedEdge lgu tmntV (some r.nodeId) (some f.nodeId)
  | toSubbasin {r : LguBoundary} {s : String} : r ∈ lgu → startswith r.nodeId "ls_" = true →
      r.relid = none → r.subbasin = some s →
      WatershedEdge lgu tmntV (some r.nodeId) (sbNode (some s))
  | ofFacility {f : TmntNode} {s : String} : f ∈ tmntV.getD [] → f.subbasin = some s →
      WatershedEdge lgu tmntV (some f.nodeId) (sbNode (some s))
  | ofSubbasin {r : LguBoundary} {s b : String} : IsFirst LguBoundary.subbasin lgu r →
      r.subbasin = some s → r.basinname = some b →
      WatershedEdge lgu tmntV (sbNode (some s)) (bNode (some b))
  | ofBasin {r : LguBoundary} {b : String} : IsFirst LguBoundary.basinname lgu r →
      r.altid.isSome → r.basinname = some b →
      WatershedEdge lgu tmntV (bNode (some b)) (some PUGET_SOUND)

theorem WatershedTables.adj_iff (h : WatershedTables lgu tmntV) {u v : Option String} :
    (initGraphFromDf (buildEdgeList lgu tmntV)).Adj u v ↔ WatershedEdge lgu tmntV u v := by
  rw [adj_buildEdgeList, flows_daToTmnt, flows_tmntToSubbasin, flows_subbasinToWshed,
    flows_wshedToSound]
  constructor
  · rintro (((⟨r, hr, hls, rfl, rfl⟩ | ⟨f, hf, rfl, rfl⟩) | ⟨r, hr, rfl, rfl⟩) |
      ⟨r, hr, halt, rfl, rfl⟩)
    · cases hrel : r.relid with
      | some n =>
        obtain ⟨f, hf, rfl⟩ := h.relid_mem r hr n hrel
        simpa [LguBoundary.dsNodeId, hrel] using WatershedEdge.toFacility hr hls hrel hf
      | none =>
        obtain ⟨s, hs⟩ := Option.isSome_iff_exists.1 (h.subbasin_isSome r hr)
        have hedge : WatershedEdge lgu tmntV _ _ := .toSubbasin hr hls hrel hs
        simpa [LguBoundary.dsNodeId, hrel, hs, sbNode] using hedge
    · obtain ⟨s, hs⟩ := Option.isSome_iff_exists.1 (h.facility_subbasin_isSome hf)
      have hedge : WatershedEdge lgu tmntV _ _ := .ofFacility hf hs
      simpa [hs, sbNode] using hedge
    · obtain ⟨s, hs⟩ := Option.isSome_iff_exists.1 (h.subbasin_isSome r hr.mem)
      obtain ⟨b, hb⟩ := Option.isSome_iff_exists.1 (h.basinname_isSome r hr.mem)
      rw [hs, hb]
      exact .ofSubbasin hr hs hb
    · obtain ⟨b, hb⟩ := Option.isSome_iff_exists.1 (h.basinname_isSome r hr.mem)
      rw [hb]
      exact .ofBasin hr halt hb
  · intro hedge
    cases hedge with
    | @toFacility r f hr hls hrel hf =>
      exact .inl (.inl (.inl ⟨r, hr, hls, rfl, by simp [LguBoundary.dsNodeId, hrel]⟩))
    | @toSubbasin r s hr hls hrel hs =>
      exact .inl (.inl (.inl ⟨r, hr, hls, rfl, by simp [LguBoundary.dsNodeId, hrel, hs, sbNode]⟩))
    | @ofFacility f s hf hs =>
      exact .inl (.inl (.inr ⟨f, hf, rfl, by simp [hs, sbNode]⟩))
    | @ofSubbasin r s b hr hs hb =>
      exact .inl (.inr ⟨r, hr, by rw [hs], by simp [hb, bNode]⟩)
    | @ofBasin r b hr halt hb =>
      exact .inr ⟨r, hr, halt, by rw [hb], rfl⟩

/-- **Every edge leads on towards the sound.** -/
theorem WatershedTables.rank_lt (h : WatershedTables lgu tmntV) {u v : Option String}
    (hedge : WatershedEdge lgu tmntV u v) : nodeRank u < nodeRank v ∧ nodeRank v ≤ 4 := by
  cases hedge with
  | toFacility hr hls hrel hf => simp [nodeRank_landSurface hls, h.named.nodeRank_facility hf]
  | toSubbasin hr hls hrel hs => simp [nodeRank_landSurface hls]
  | ofFacility hf hs => simp [h.named.nodeRank_facility hf]
  | ofSubbasin hr hs hb => simp
  | ofBasin hr halt hb => simp

theorem sbNode_injective : Function.Injective sbNode :=
  Option.map_injective (append_left_injective "SB_")

/-- No source has two different targets. -/
theorem WatershedTables.target_unique (h : WatershedTables lgu tmntV) {u v w : Option String}
    (hv : (initGraphFromDf (buildEdgeList lgu tmntV)).Adj u v)
    (hw : (initGraphFromDf (buildEdgeList lgu tmntV)).Adj u w) : v = w := by
  rcases h.named.family hv with ⟨hu, hv⟩ | ⟨hu, hv⟩ | ⟨hu, hv⟩ | ⟨hu, hv⟩ <;>
  rcases h.named.family hw with ⟨hu', hw⟩ | ⟨hu', hw⟩ | ⟨hu', hw⟩ | ⟨hu', hw⟩ <;>
  try omega
  · obtain ⟨r, hr, -, rfl, rfl⟩ := flows_daToTmnt.1 hv
    obtain ⟨r', hr', -, hsource, rfl⟩ := flows_daToTmnt.1 hw
    rw [List.inj_on_of_nodup_map h.nodeId_nodup hr' hr (Option.some.inj hsource)]
  · obtain ⟨f, hf, rfl, rfl⟩ := flows_tmntToSubbasin.1 hv
    obtain ⟨f', hf', hsource, rfl⟩ := flows_tmntToSubbasin.1 hw
    rw [List.inj_on_of_nodup_map h.facility_nodup hf' hf (Option.some.inj hsource)]
  · obtain ⟨r, hr, rfl, rfl⟩ := flows_subbasinToWshed.1 hv
    obtain ⟨r', hr', hsource, rfl⟩ := flows_subbasinToWshed.1 hw
    rw [hr'.unique hr (sbNode_injective hsource)]
  · obtain ⟨r, -, -, -, rfl⟩ := flows_wshedToSound.1 hv
    obtain ⟨r', -, -, -, rfl⟩ := flows_wshedToSound.1 hw
    rfl

theorem WatershedTables.exists_ofSubbasin (h : WatershedTables lgu tmntV) {r : LguBoundary}
    {s : String} (hr : r ∈ lgu) (hs : r.subbasin = some s) :
    ∃ w, WatershedEdge lgu tmntV (sbNode (some s)) w := by
  obtain ⟨r', hr', hkey⟩ := exists_isFirst LguBoundary.subbasin hr
  obtain ⟨b, hb⟩ := Option.isSome_iff_exists.1 (h.basinname_isSome r' hr'.mem)
  exact ⟨_, .ofSubbasin hr' (hkey.trans hs) hb⟩

/-- Only a basin may be the end of a path before the sound. -/
theorem WatershedTables.continues_iff (h : WatershedTables lgu tmntV) :
    (∀ u v, WatershedEdge lgu tmntV u v →
      v = some PUGET_SOUND ∨ ∃ w, WatershedEdge lgu tmntV v w) ↔ HasOutlets lgu := by
  constructor
  · intro hnext r hmem hr
    obtain ⟨s, hs⟩ := Option.isSome_iff_exists.1 (h.subbasin_isSome r hmem)
    obtain ⟨b, hb⟩ := Option.isSome_iff_exists.1 (h.basinname_isSome r hmem)
    rcases hnext _ _ (.ofSubbasin hr hs hb) with hsound | ⟨w, hw⟩
    · simpa using congrArg nodeRank hsound
    · rcases h.named.family (h.adj_iff.2 hw) with
        ⟨hrank, -⟩ | ⟨hrank, -⟩ | ⟨hrank, -⟩ | ⟨-, hwshed⟩ <;> try simp at hrank
      obtain ⟨r', hr', halt, hnode, -⟩ := flows_wshedToSound.1 hwshed
      exact ⟨r', hr'.mem, hr', halt, hnode.trans (by rw [hb])⟩
  · intro hout u v hedge
    cases hedge with
    | @toFacility r f hr hls hrel hf =>
      obtain ⟨s, hs⟩ := Option.isSome_iff_exists.1 (h.facility_subbasin_isSome hf)
      exact .inr ⟨_, .ofFacility hf hs⟩
    | toSubbasin hr hls hrel hs => exact .inr (h.exists_ofSubbasin hr hs)
    | @ofFacility f s hf hs =>
      obtain ⟨r, hr, hrs⟩ := h.facility_subbasin f hf
      exact .inr (h.exists_ofSubbasin hr (hrs.trans hs))
    | @ofSubbasin r s b hr hs hb =>
      obtain ⟨r', hmem, hr', halt, hnode⟩ := hout r hr.mem hr
      obtain ⟨b', hb'⟩ := Option.isSome_iff_exists.1 (h.basinname_isSome r' hmem)
      rw [← hb, ← hnode, hb']
      exact .inr ⟨_, .ofBasin hr' halt hb'⟩
    | ofBasin hr halt hb => exact .inl rfl

/-- **The watershed graph drains to the sound exactly if every basin that a subbasin drains to has
an outlet.** -/
theorem drains_iff_hasOutlets (h : WatershedTables lgu tmntV) :
    Drains (initGraphFromDf (buildEdgeList lgu tmntV)).Adj (some PUGET_SOUND) ↔ HasOutlets lgu := by
  rw [drains_iff nodeRank 4 (fun u v huv => h.rank_lt (h.adj_iff.1 huv))
    fun u v w hv hw => h.target_unique hv hw, ← h.continues_iff]
  simp only [h.adj_iff]

end

/-! ### Two watersheds -/

/-- One subbasin: the part of it that drains to a facility, and the rest. -/
def oneBasin : List LguBoundary :=
  [{ altid := some "SWFA-1", relid := some "SWFA-1", nodeId := "ls_1_SB_FS_01",
     subbasin := some "FS_01", basinname := some "FOSS WATERWAY" },
   { altid := none, relid := none, nodeId := "SB_FS_01", subbasin := some "FS_01",
     basinname := some "FOSS WATERWAY" }]

/-- A facility in its subbasin. -/
def oneFacility : List TmntNode :=
  [{ nodeId := "SWFA-1", subbasin := some "FS_01", basinname := some "FOSS WATERWAY" }]

theorem oneBasin_tables : WatershedTables oneBasin (some oneFacility) where
  nodeId_nodup := by decide
  subbasin_isSome := by decide
  basinname_isSome := by decide
  facility_nodup := by decide
  facility_name := by decide
  relid_mem := by decide
  facility_subbasin := by decide

theorem drains_oneBasin :
    Drains (initGraphFromDf (buildEdgeList oneBasin (some oneFacility))).Adj (some PUGET_SOUND) :=
  (drains_iff_hasOutlets oneBasin_tables).2 (by decide)

/-- A second basin, without facilities. -/
def twoBasins : List LguBoundary :=
  oneBasin ++ [{ altid := none, relid := none, nodeId := "SB_NT_01", subbasin := some "NT_01",
                 basinname := some "NORTH TACOMA" }]

/-- **A basin without a facility has no outlet.** -/
theorem not_drains_twoBasins :
    ¬ ∀ lgu tmntV, WatershedTables lgu tmntV →
      Drains (initGraphFromDf (buildEdgeList lgu tmntV)).Adj (some PUGET_SOUND) := by
  intro hall
  have htables : WatershedTables twoBasins (some oneFacility) :=
    ⟨by decide, by decide, by decide, by decide, by decide, by decide, by decide⟩
  have hedge : (initGraphFromDf (buildEdgeList twoBasins (some oneFacility))).Adj
      (some "SB_NT_01") (some "B_NORTH_TACOMA") := adj_initGraphFromDf.2 (by decide)
  rcases (hall _ _ htables).target_continues hedge with hsound | ⟨w, hw⟩
  · exact absurd hsound (by decide)
  · obtain ⟨e, he, hsource, -⟩ := adj_initGraphFromDf.1 hw
    have hnone : ∀ e ∈ buildEdgeList twoBasins (some oneFacility),
        e.source ≠ some "B_NORTH_TACOMA" := by decide
    exact hnone e he hsource

end StormPiper
