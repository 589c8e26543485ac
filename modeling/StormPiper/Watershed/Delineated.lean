import StormPiper.Watershed.Drains

/-!
# Watersheds that consist of delineations

The boundaries of a scenario are the pieces of its delineations, and nothing else.  All of them are
land surfaces with an `altid`, so that a basin with a piece has its outlet, but a subbasin without a
piece has no edge.  The facility that a piece names need not be there, and a facility may have
several rows.

* `DelineatedTables` : such tables.
* `SourcesDrain` : what is asked of the land surfaces and facilities.
* `TablesDrain` : the condition on the tables.
* `sourcesDrain_iff` : they are equivalent.
-/

namespace StormPiper

open StormPiper.Frame Relation

/-- Every row of `lgu` is a piece of a delineation. -/
structure DelineatedTables (lgu : List LguBoundary) (tmntV : List TmntNode) : Prop where
  named : NamedTables lgu (some tmntV)
  landSurface : ∀ r ∈ lgu, startswith r.nodeId "ls_" = true
  altid_isSome : ∀ r ∈ lgu, r.altid.isSome

/-- Each of the nodes has exactly one target, there is no cycle, and following the targets from any
of them ends at the sound. -/
structure SourcesDrain (edgeList : List Edge) (nodes : List String) : Prop where
  one_target : ∀ n ∈ nodes, ∃! v, (initGraphFromDf edgeList).Adj (some n) v
  acyclic : Acyclic (initGraphFromDf edgeList).Adj
  reaches : ∀ n ∈ nodes, TransGen (initGraphFromDf edgeList).Adj (some n) (some PUGET_SOUND)

/-- The land surfaces and the facilities. -/
def sourceNodes (lgu : List LguBoundary) (tmntV : List TmntNode) : List String :=
  lgu.map LguBoundary.nodeId ++ tmntV.map TmntNode.nodeId

/-- The node is the sound or the source of an edge. -/
def IsNode (lgu : List LguBoundary) (tmntV : List TmntNode) (n : String) : Prop :=
  n = PUGET_SOUND ∨ (∃ f ∈ tmntV, f.nodeId = n) ∨
    ∃ r ∈ lgu, r.nodeId = n ∨ sbNode r.subbasin = some n ∨ bNode r.basinname = some n

/-- The rows of a node agree, what is named is there, and no piece names itself over others. -/
structure TablesDrain (lgu : List LguBoundary) (tmntV : List TmntNode) : Prop where
  land_target : ∀ r ∈ lgu, ∀ r' ∈ lgu, r.nodeId = r'.nodeId → r.dsNodeId = r'.dsNodeId
  facility_target : ∀ f ∈ tmntV, ∀ f' ∈ tmntV, f.nodeId = f'.nodeId → f.subbasin = f'.subbasin
  subbasin_mem : ∀ f ∈ tmntV, ∀ s, f.subbasin = some s → ∃ r ∈ lgu, r.subbasin = some s
  relid_isNode : ∀ r ∈ lgu, ∀ n, r.relid = some n → IsNode lgu tmntV n
  relid_acyclic : Acyclic fun m n : String => ∃ r ∈ lgu, r.nodeId = m ∧ r.relid = some n

theorem SourcesDrain.continues {edgeList : List Edge} {nodes : List String}
    (h : SourcesDrain edgeList nodes) {n : String} (hn : n ∈ nodes) {v : Option String}
    (hadj : (initGraphFromDf edgeList).Adj (some n) v) :
    v = some PUGET_SOUND ∨ ∃ w, (initGraphFromDf edgeList).Adj v w :=
  sink_or_continues (fun _ hv' => (h.one_target n hn).unique hadj hv') (h.reaches n hn)

theorem SourcesDrain.mono {edgeList : List Edge} {nodes nodes' : List String}
    (h : SourcesDrain edgeList nodes) (hsub : ∀ n ∈ nodes', n ∈ nodes) :
    SourcesDrain edgeList nodes' :=
  ⟨fun n hn => h.one_target n (hsub n hn), h.acyclic, fun n hn => h.reaches n (hsub n hn)⟩

/-! ### The targets of the four kinds of nodes -/

section Targets

variable {lgu : List LguBoundary} {tmntV : List TmntNode}

theorem NamedTables.exists_dsNodeId (h : NamedTables lgu (some tmntV)) {r : LguBoundary}
    (hr : r ∈ lgu) : ∃ n, r.dsNodeId = some n := by
  obtain ⟨s, hs⟩ := Option.isSome_iff_exists.1 (h.subbasin_isSome r hr)
  cases hrel : r.relid with
  | some n => exact ⟨n, by rw [LguBoundary.dsNodeId, hrel]; rfl⟩
  | none => exact ⟨"SB_" ++ s, by rw [LguBoundary.dsNodeId, hrel, hs]; rfl⟩

theorem getD_sbNode_injective {x y : Option String}
    (h : (sbNode x).getD PUGET_SOUND = (sbNode y).getD PUGET_SOUND) : x = y := by
  -- the node of a subbasin has another rank than the sound, whatever the name of the subbasin is
  have hne : ∀ s : String, (sbNode (some s)).getD PUGET_SOUND ≠ PUGET_SOUND := by
    intro s hs
    have hrank := congrArg (fun n => nodeRank (some n)) hs
    have hsb : some ((sbNode (some s)).getD PUGET_SOUND) = sbNode (some s) := rfl
    simp only [hsb, nodeRank_sbNode, nodeRank_sound] at hrank
    omega
  cases x with
  | none =>
    cases y with
    | none => rfl
    | some s => exact absurd h.symm (hne s)
  | some s =>
    cases y with
    | none => exact absurd h (hne s)
    | some s' => exact sbNode_injective (congrArg some h)

theorem DelineatedTables.adj_landSurface (h : DelineatedTables lgu tmntV) {r : LguBoundary}
    (hr : r ∈ lgu) {v : Option String} :
    (initGraphFromDf (buildEdgeList lgu (some tmntV))).Adj (some r.nodeId) v ↔
      ∃ r' ∈ lgu, r'.nodeId = r.nodeId ∧ r'.dsNodeId = v := by
  have hrank := nodeRank_landSurface (h.landSurface r hr)
  have hds : ∀ r' ∈ lgu, some (r'.dsNodeId.getD PUGET_SOUND) = r'.dsNodeId := by
    intro r' hr'
    obtain ⟨n, hn⟩ := h.named.exists_dsNodeId hr'
    rw [hn, Option.getD_some]
  constructor
  · intro hadj
    -- of the four families of edges only the first one starts at land surfaces
    rcases h.named.family hadj with ⟨-, hflow⟩ | ⟨hu, -⟩ | ⟨hu, -⟩ | ⟨hu, -⟩ <;> try omega
    obtain ⟨r', hr', -, hsource, rfl⟩ := flows_daToTmnt.1 hflow
    exact ⟨r', hr', Option.some.inj hsource, (hds r' hr').symm⟩
  · rintro ⟨r', hr', hsource, rfl⟩
    exact adj_buildEdgeList.2 (.inl (.inl (.inl (flows_daToTmnt.2
      ⟨r', hr', h.landSurface r' hr', congrArg some hsource, hds r' hr'⟩))))

theorem DelineatedTables.adj_facility (h : DelineatedTables lgu tmntV) {f : TmntNode}
    (hf : f ∈ tmntV) {v : Option String} :
    (initGraphFromDf (buildEdgeList lgu (some tmntV))).Adj (some f.nodeId) v ↔
      ∃ f' ∈ tmntV, f'.nodeId = f.nodeId ∧ some ((sbNode f'.subbasin).getD PUGET_SOUND) = v := by
  have hrank := h.named.nodeRank_facility hf
  constructor
  · intro hadj
    rcases h.named.family hadj with ⟨hu, -⟩ | ⟨-, hflow⟩ | ⟨hu, -⟩ | ⟨hu, -⟩ <;> try omega
    obtain ⟨f', hf', hsource, rfl⟩ := flows_tmntToSubbasin.1 hflow
    exact ⟨f', hf', Option.some.inj hsource, rfl⟩
  · rintro ⟨f', hf', hsource, rfl⟩
    exact adj_buildEdgeList.2 (.inl (.inl (.inr (flows_tmntToSubbasin.2
      ⟨f', hf', congrArg some hsource, rfl⟩))))

/-- A subbasin has a target exactly if it has a row. -/
theorem DelineatedTables.adj_subbasin (h : DelineatedTables lgu tmntV) {s : String} :
    (∃ v, (initGraphFromDf (buildEdgeList lgu (some tmntV))).Adj (sbNode (some s)) v) ↔
      ∃ r ∈ lgu, r.subbasin = some s := by
  constructor
  · rintro ⟨v, hadj⟩
    rcases h.named.family hadj with ⟨hu, -⟩ | ⟨hu, -⟩ | ⟨-, hflow⟩ | ⟨hu, -⟩ <;>
      try simp at hu
    obtain ⟨r, hr, hsource, -⟩ := flows_subbasinToWshed.1 hflow
    exact ⟨r, hr.mem, sbNode_injective hsource⟩
  · rintro ⟨r, hr, hs⟩
    obtain ⟨r', hr', hkey⟩ := exists_isFirst LguBoundary.subbasin hr
    exact ⟨_, adj_buildEdgeList.2 (.inl (.inr (flows_subbasinToWshed.2
      ⟨r', hr', by rw [hkey, hs], rfl⟩)))⟩

theorem DelineatedTables.adj_basin (h : DelineatedTables lgu tmntV) {r : LguBoundary}
    (hr : r ∈ lgu) :
    (initGraphFromDf (buildEdgeList lgu (some tmntV))).Adj (bNode r.basinname)
      (some PUGET_SOUND) := by
  obtain ⟨r', hr', hkey⟩ := exists_isFirst LguBoundary.basinname hr
  exact adj_buildEdgeList.2 (.inr (flows_wshedToSound.2
    ⟨r', hr', h.altid_isSome r' hr'.mem, by rw [hkey], rfl⟩))

/-- Only the sound and the nodes of the rows are sources. -/
theorem isNode_of_adj {n : String} {v : Option String}
    (hadj : (initGraphFromDf (buildEdgeList lgu (some tmntV))).Adj (some n) v) :
    IsNode lgu tmntV n := by
  rcases adj_buildEdgeList.1 hadj with ((hda | htmnt) | hsub) | hwshed
  · obtain ⟨r, hr, -, hsource, -⟩ := flows_daToTmnt.1 hda
    exact .inr (.inr ⟨r, hr, .inl (Option.some.inj hsource)⟩)
  · obtain ⟨f, hf, hsource, -⟩ := flows_tmntToSubbasin.1 htmnt
    exact .inr (.inl ⟨f, hf, Option.some.inj hsource⟩)
  · obtain ⟨r, hr, hsource, -⟩ := flows_subbasinToWshed.1 hsub
    exact .inr (.inr ⟨r, hr.mem, .inr (.inl hsource)⟩)
  · obtain ⟨r, hr, -, hsource, -⟩ := flows_wshedToSound.1 hwshed
    exact .inr (.inr ⟨r, hr.mem, .inr (.inr hsource)⟩)

/-- Every node but the sound has a target. -/
theorem DelineatedTables.exists_adj (h : DelineatedTables lgu tmntV) {n : String}
    (hn : IsNode lgu tmntV n) :
    n = PUGET_SOUND ∨
      ∃ w, (initGraphFromDf (buildEdgeList lgu (some tmntV))).Adj (some n) w := by
  rcases hn with hsound | ⟨f, hf, rfl⟩ | ⟨r, hr, rfl | hsb | hb⟩
  · exact .inl hsound
  · exact .inr ⟨_, (h.adj_facility hf).2 ⟨f, hf, rfl, rfl⟩⟩
  · exact .inr ⟨_, (h.adj_landSurface hr).2 ⟨r, hr, rfl, rfl⟩⟩
  · obtain ⟨s, hs⟩ := Option.isSome_iff_exists.1 (h.named.subbasin_isSome r hr)
    rw [← hsb, hs]
    exact .inr (h.adj_subbasin.2 ⟨r, hr, hs⟩)
  · rw [← hb]
    exact .inr ⟨_, h.adj_basin hr⟩

end Targets

/-! ### When the sources drain -/

section Drain

variable {lgu : List LguBoundary} {tmntV : List TmntNode}

/-- An edge raises the rank, or it goes from a piece to what the piece names. -/
theorem DelineatedTables.rank_lt_or (h : DelineatedTables lgu tmntV) {u v : Option String}
    (hadj : (initGraphFromDf (buildEdgeList lgu (some tmntV))).Adj u v) :
    nodeRank u < nodeRank v ∨
      (nodeRank u = 0 ∧ ∃ r ∈ lgu, r.nodeId = u.getD "" ∧ r.relid = some (v.getD "")) := by
  rcases h.named.family hadj with ⟨hu, hflow⟩ | ⟨hu, hflow⟩ | ⟨hu, hflow⟩ | ⟨hu, hflow⟩
  · obtain ⟨r, hr, -, rfl, rfl⟩ := flows_daToTmnt.1 hflow
    -- a relid may name another piece, or the piece itself
    cases hrel : r.relid with
    | some n =>
      refine .inr ⟨hu, r, hr, rfl, ?_⟩
      simp [LguBoundary.dsNodeId, hrel]
    | none =>
      obtain ⟨s, hs⟩ := Option.isSome_iff_exists.1 (h.named.subbasin_isSome r hr)
      have hds : some (r.dsNodeId.getD PUGET_SOUND) = sbNode (some s) := by
        rw [LguBoundary.dsNodeId, hrel, hs]
        rfl
      left
      rw [hu, hds, nodeRank_sbNode]
      omega
  · obtain ⟨f, hf, rfl, rfl⟩ := flows_tmntToSubbasin.1 hflow
    left
    rw [hu]
    cases f.subbasin with
    | none => exact Nat.lt_of_lt_of_eq (by decide) nodeRank_sound.symm
    | some s => exact Nat.lt_of_lt_of_eq (by decide) (nodeRank_sbNode s).symm
  · obtain ⟨r, hr, rfl, rfl⟩ := flows_subbasinToWshed.1 hflow
    obtain ⟨b, hb⟩ := Option.isSome_iff_exists.1 (h.named.basinname_isSome r hr.mem)
    left
    rw [hu, hb]
    exact Nat.lt_of_lt_of_eq (by decide) (nodeRank_bNode b).symm
  · obtain ⟨r, hr, -, rfl, rfl⟩ := flows_wshedToSound.1 hflow
    left
    rw [hu, nodeRank_sound]
    decide

/-- A cycle of edges is a cycle of pieces. -/
theorem DelineatedTables.acyclic_iff (h : DelineatedTables lgu tmntV) :
    Acyclic (initGraphFromDf (buildEdgeList lgu (some tmntV))).Adj ↔
      Acyclic fun m n : String => ∃ r ∈ lgu, r.nodeId = m ∧ r.relid = some n := by
  constructor
  · intro hacyclic n hcycle
    refine hacyclic (some n) (hcycle.lift some ?_)
    rintro _ m ⟨r, hr, rfl, hrel⟩
    exact (h.adj_landSurface hr).2 ⟨r, hr, rfl, by rw [LguBoundary.dsNodeId, hrel]; rfl⟩
  · intro hacyclic
    -- a path raises the rank somewhere, or all its edges name the next piece
    have hpath : ∀ u v, TransGen (initGraphFromDf (buildEdgeList lgu (some tmntV))).Adj u v →
        nodeRank u < nodeRank v ∨ (nodeRank u = 0 ∧
          TransGen (fun m n : String => ∃ r ∈ lgu, r.nodeId = m ∧ r.relid = some n)
            (u.getD "") (v.getD "")) := by
      intro u v huv
      induction huv with
      | single hadj => exact (h.rank_lt_or hadj).imp_right fun hrel => ⟨hrel.1, .single hrel.2⟩
      | tail _ hadj ih =>
        rcases ih with hlt | ⟨hzero, hrel⟩
        · rcases h.rank_lt_or hadj with hlt' | ⟨hzero', -⟩
          · exact .inl (hlt.trans hlt')
          · omega
        · rcases h.rank_lt_or hadj with hlt' | ⟨-, hrel'⟩
          · exact .inl (by omega)
          · exact .inr ⟨hzero, hrel.tail hrel'⟩
    intro u hcycle
    rcases hpath u u hcycle with hlt | ⟨-, hrel⟩
    · exact Nat.lt_irrefl _ hlt
    · exact hacyclic _ hrel

/-- In drained tables every edge leads on. -/
theorem DelineatedTables.continues (h : DelineatedTables lgu tmntV) (ht : TablesDrain lgu tmntV)
    {u v : Option String}
    (hadj : (initGraphFromDf (buildEdgeList lgu (some tmntV))).Adj u v) :
    v = some PUGET_SOUND ∨
      ∃ w, (initGraphFromDf (buildEdgeList lgu (some tmntV))).Adj v w := by
  have hnode : ∀ n, IsNode lgu tmntV n → some n = some PUGET_SOUND ∨
      ∃ w, (initGraphFromDf (buildEdgeList lgu (some tmntV))).Adj (some n) w :=
    fun n hn => (h.exists_adj hn).imp_left (congrArg some)
  rcases adj_buildEdgeList.1 hadj with ((hda | htmnt) | hsub) | hwshed
  · obtain ⟨r, hr, -, -, rfl⟩ := flows_daToTmnt.1 hda
    refine hnode _ ?_
    cases hrel : r.relid with
    | some n => simpa [LguBoundary.dsNodeId, hrel] using ht.relid_isNode r hr n hrel
    | none =>
      obtain ⟨s, hs⟩ := Option.isSome_iff_exists.1 (h.named.subbasin_isSome r hr)
      refine .inr (.inr ⟨r, hr, .inr (.inl ?_)⟩)
      simp [LguBoundary.dsNodeId, hrel, hs, sbNode]
  · obtain ⟨f, hf, -, rfl⟩ := flows_tmntToSubbasin.1 htmnt
    refine hnode _ ?_
    cases hsub : f.subbasin with
    | none => exact .inl rfl
    | some s =>
      obtain ⟨r, hr, hs⟩ := ht.subbasin_mem f hf s hsub
      exact .inr (.inr ⟨r, hr, .inr (.inl (by rw [hs]; rfl))⟩)
  · obtain ⟨r, hr, -, rfl⟩ := flows_subbasinToWshed.1 hsub
    obtain ⟨b, hb⟩ := Option.isSome_iff_exists.1 (h.named.basinname_isSome r hr.mem)
    exact hnode _ (.inr (.inr ⟨r, hr.mem, .inr (.inr (by rw [hb]; rfl))⟩))
  · obtain ⟨r, -, -, -, rfl⟩ := flows_wshedToSound.1 hwshed
    exact .inl rfl

theorem mem_sourceNodes_landSurface {r : LguBoundary} (hr : r ∈ lgu) :
    r.nodeId ∈ sourceNodes lgu tmntV :=
  List.mem_append_left _ (List.mem_map_of_mem hr)

theorem mem_sourceNodes_facility {f : TmntNode} (hf : f ∈ tmntV) :
    f.nodeId ∈ sourceNodes lgu tmntV :=
  List.mem_append_right _ (List.mem_map_of_mem hf)

/-- Where the sources drain, the tables satisfy the condition. -/
theorem DelineatedTables.tablesDrain (h : DelineatedTables lgu tmntV)
    (hdrain : SourcesDrain (buildEdgeList lgu (some tmntV)) (sourceNodes lgu tmntV)) :
    TablesDrain lgu tmntV where
  land_target := by
    intro r hr r' hr' hnode
    exact (hdrain.one_target _ (mem_sourceNodes_landSurface hr)).unique
      ((h.adj_landSurface hr).2 ⟨r, hr, rfl, rfl⟩)
      ((h.adj_landSurface hr).2 ⟨r', hr', hnode.symm, rfl⟩)
  facility_target := by
    intro f hf f' hf' hnode
    have htarget := (hdrain.one_target _ (mem_sourceNodes_facility hf)).unique
      ((h.adj_facility hf).2 ⟨f, hf, rfl, rfl⟩) ((h.adj_facility hf).2 ⟨f', hf', hnode.symm, rfl⟩)
    exact getD_sbNode_injective (Option.some.inj htarget)
  subbasin_mem := by
    intro f hf s hs
    have hadj := (h.adj_facility hf).2 ⟨f, hf, rfl, rfl⟩
    have hsb : some ((sbNode f.subbasin).getD PUGET_SOUND) = sbNode (some s) := by
      rw [hs]
      rfl
    rw [hsb] at hadj
    rcases hdrain.continues (mem_sourceNodes_facility hf) hadj with hsound | hnext
    · simpa using congrArg nodeRank hsound
    · exact h.adj_subbasin.1 hnext
  relid_isNode := by
    intro r hr n hrel
    have hds : r.dsNodeId = some n := by
      rw [LguBoundary.dsNodeId, hrel]
      rfl
    have hadj := (h.adj_landSurface hr).2 ⟨r, hr, rfl, hds⟩
    rcases hdrain.continues (mem_sourceNodes_landSurface hr) hadj with hsound | ⟨w, hw⟩
    · exact .inl (Option.some.inj hsound)
    · exact isNode_of_adj hw
  relid_acyclic := h.acyclic_iff.1 hdrain.acyclic

/-- Where the tables satisfy the condition, the sources drain. -/
theorem TablesDrain.sourcesDrain (ht : TablesDrain lgu tmntV) (h : DelineatedTables lgu tmntV) :
    SourcesDrain (buildEdgeList lgu (some tmntV)) (sourceNodes lgu tmntV) := by
  have hacyclic := h.acyclic_iff.2 ht.relid_acyclic
  have htarget : ∀ n ∈ sourceNodes lgu tmntV,
      ∃! v, (initGraphFromDf (buildEdgeList lgu (some tmntV))).Adj (some n) v := by
    intro n hn
    rcases List.mem_append.1 hn with hn | hn
    · obtain ⟨r, hr, rfl⟩ := List.mem_map.1 hn
      refine ⟨r.dsNodeId, (h.adj_landSurface hr).2 ⟨r, hr, rfl, rfl⟩, fun v hv => ?_⟩
      obtain ⟨r', hr', hnode, rfl⟩ := (h.adj_landSurface hr).1 hv
      exact ht.land_target r' hr' r hr hnode
    · obtain ⟨f, hf, rfl⟩ := List.mem_map.1 hn
      refine ⟨_, (h.adj_facility hf).2 ⟨f, hf, rfl, rfl⟩, fun v hv => ?_⟩
      obtain ⟨f', hf', hnode, rfl⟩ := (h.adj_facility hf).1 hv
      rw [ht.facility_target f' hf' f hf hnode]
  refine ⟨htarget, hacyclic, fun n hn => ?_⟩
  obtain ⟨v, hv, -⟩ := htarget n hn
  exact reaches_of_acyclic (initGraphFromDf (buildEdgeList lgu (some tmntV))).nodes
    (fun _ _ hadj => hadj.left_mem) hacyclic (fun _ _ hadj => h.continues ht hadj) hv

/-- **The land surfaces and facilities drain exactly if** the rows of each node agree, every
facility is in a subbasin with a piece or in none, every relid names a node, and no piece names
itself over others. -/
theorem sourcesDrain_iff (h : DelineatedTables lgu tmntV) :
    SourcesDrain (buildEdgeList lgu (some tmntV)) (sourceNodes lgu tmntV) ↔
      TablesDrain lgu tmntV :=
  ⟨h.tablesDrain, fun ht => ht.sourcesDrain h⟩

end Drain

end StormPiper
