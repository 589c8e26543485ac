import StormPiper.SourceControl.Stages

/-!
# Virtual pollutants

Loads of some organic pollutants are not measured; they are functions of the load of suspended
solids.  `src/organics.py` adds them to tables of either form: `addVirtualPocsToTidyLoadSummary`
replaces the rows of these pollutants, and `addVirtualPocsToWideLoadSummary` writes their columns.
-/

namespace StormPiper

/-- The virtual pollutants, with their loads as functions of the load of suspended solids. -/
def VIRTUAL_POLLUTANT_MAPPER : List (String × (ℚ → ℚ)) :=
  [("PHE", fun tss => tss * (1 / 10 ^ 6) * 1 * 1),
   ("PYR", fun tss => tss * (1 / 10 ^ 6) * (19 / 10) * 1),
   ("DEHP", fun tss => tss * (1 / 10 ^ 6) * (193 / 10) * (23 / 10))]

/-- `VIRTUAL_POCS` -/
def VIRTUAL_POCS : List String := VIRTUAL_POLLUTANT_MAPPER.map Prod.fst

theorem nodup_VIRTUAL_POCS : VIRTUAL_POCS.Nodup := by decide

theorem TSS_notMem_VIRTUAL_POCS : "TSS" ∉ VIRTUAL_POCS := by decide

/-- A virtual pollutant is a fixed share of the suspended solids. -/
theorem virtual_linear {p : String × (ℚ → ℚ)} (hp : p ∈ VIRTUAL_POLLUTANT_MAPPER) :
    ∃ share : ℚ, share ≠ 0 ∧ ∀ tss, p.2 tss = tss * share := by
  simp only [VIRTUAL_POLLUTANT_MAPPER, List.mem_cons, List.not_mem_nil, or_false] at hp
  rcases hp with rfl | rfl | rfl
  · exact ⟨1 / 10 ^ 6, by norm_num, fun tss => by ring⟩
  · exact ⟨1 / 10 ^ 6 * (19 / 10), by norm_num, fun tss => by ring⟩
  · exact ⟨1 / 10 ^ 6 * (193 / 10) * (23 / 10), by norm_num, fun tss => by ring⟩

/-- The row of a virtual pollutant that is made from a row of suspended solids. -/
def TidyLoad.virtual (p : String × (ℚ → ℚ)) (tss : TidyLoad) : TidyLoad :=
  { tss with variableName := p.1, value := p.2 tss.value }

/-- The rows of a tidy table with the virtual pollutants made anew. -/
def addVirtualPocsToTidyLoadSummary (loadTidy : List TidyLoad) : List TidyLoad :=
  let tss := loadTidy.filter (·.variableName = "TSS")
  let nonVirtualPocs := loadTidy.filter (·.variableName ∉ VIRTUAL_POCS)
  if tss.isEmpty then []
  else nonVirtualPocs ++ VIRTUAL_POLLUTANT_MAPPER.flatMap fun p => tss.map (·.virtual p)

/-- In the result, the rows of a virtual pollutant are those made from its rows of suspended
solids. -/
theorem mem_addVirtualPocs_iff {load : List TidyLoad} {p : String × (ℚ → ℚ)}
    (hp : p ∈ VIRTUAL_POLLUTANT_MAPPER) {r : TidyLoad} :
    (r ∈ addVirtualPocsToTidyLoadSummary load ∧ r.variableName = p.1) ↔
      ∃ t ∈ addVirtualPocsToTidyLoadSummary load, t.variableName = "TSS" ∧ r = t.virtual p := by
  have hmem : ∀ {x : TidyLoad}, x ∈ addVirtualPocsToTidyLoadSummary load ↔
      (load.filter (·.variableName = "TSS")) ≠ [] ∧
        ((x ∈ load ∧ x.variableName ∉ VIRTUAL_POCS) ∨ ∃ q ∈ VIRTUAL_POLLUTANT_MAPPER, ∃ t ∈ load,
          t.variableName = "TSS" ∧ t.virtual q = x) := by
    intro x
    simp only [addVirtualPocsToTidyLoadSummary, List.isEmpty_iff]
    split_ifs with hempty
    · simp [hempty]
    · simp [hempty, and_assoc]
  constructor
  · rintro ⟨hr, hvar⟩
    obtain ⟨hne, ⟨-, hnot⟩ | ⟨q, hq, t, ht, htss, rfl⟩⟩ := hmem.1 hr
    · exact absurd (hvar ▸ List.mem_map_of_mem hp) hnot
    · obtain rfl : q = p := List.inj_on_of_nodup_map nodup_VIRTUAL_POCS hq hp hvar
      exact ⟨t, hmem.2 ⟨hne, .inl ⟨ht, htss ▸ TSS_notMem_VIRTUAL_POCS⟩⟩, htss, rfl⟩
  · rintro ⟨t, ht, htss, rfl⟩
    obtain ⟨hne, ⟨ht, -⟩ | ⟨q, hq, t, -, -, rfl⟩⟩ := hmem.1 ht
    · exact ⟨hmem.2 ⟨hne, .inr ⟨p, hp, t, ht, htss, rfl⟩⟩, rfl⟩
    · exact absurd (htss ▸ List.mem_map_of_mem hq) TSS_notMem_VIRTUAL_POCS

/-- The row of a wide table: its numeric columns by their name. -/
structure WideRow where
  nodeId : String
  epoch : String
  col : String → Option ℚ

/-- A wide table. -/
structure WideFrame where
  /-- The names of the numeric columns. -/
  columns : List String
  rows : List WideRow

/-- The columns of suspended solids. -/
def tssCols (results : WideFrame) : List String :=
  results.columns.filter fun c => isIn "tss" (lower c)

/-- The row after the columns `new_cols` of one pollutant were written. -/
def WideRow.writeVirtual (cols : List String) (p : String × (ℚ → ℚ)) (row : WideRow) : WideRow :=
  { row with
    col := fun name => match cols.reverse.find? fun c => replace c "TSS" p.1 = name with
      | some c => (row.col c).map p.2
      | none => row.col name }

/-- The frame with the columns of the virtual pollutants written. -/
def addVirtualPocsToWideLoadSummary (results : WideFrame) : WideFrame :=
  let cols := tssCols results
  VIRTUAL_POLLUTANT_MAPPER.foldl (fun results p =>
    { columns := cols.foldl (fun columns c =>
        if replace c "TSS" p.1 ∈ columns then columns else columns ++ [replace c "TSS" p.1])
          results.columns
      rows := results.rows.map (·.writeVirtual cols p) }) results

/-! ### The columns that are written -/

/-- The column of the loads of a pollutant. -/
def loadCol (variableName : String) : String := variableName ++ "_load_lbs"

section

variable {p q : String × (ℚ → ℚ)} {cols : List String} {c : String} {row : WideRow}

/-- Only the column of suspended solids is written to the column of a virtual pollutant. -/
theorem replace_eq_loadCol_iff (hp : p ∈ VIRTUAL_POLLUTANT_MAPPER)
    (hc : isIn "tss" (lower c) = true) : replace c "TSS" p.1 = loadCol p.1 ↔ c = loadCol "TSS" := by
  simp only [VIRTUAL_POLLUTANT_MAPPER, List.mem_cons, List.not_mem_nil, or_false] at hp
  refine ⟨fun h => ?_, ?_⟩
  · have hor : c = loadCol "TSS" ∨ c = loadCol p.1 := by
      rcases hp with rfl | rfl | rfl <;>
      exact eq_of_replace (by decide) (by decide) h (by decide) (by decide)
    refine hor.resolve_right fun heq => ?_
    rw [heq] at hc
    rcases hp with rfl | rfl | rfl <;> exact absurd hc (by decide)
  · rintro rfl
    rcases hp with rfl | rfl | rfl <;> decide

/-- The columns of suspended solids and of the other virtual pollutants are not written. -/
theorem replace_ne_loadCol (hq : q ∈ VIRTUAL_POLLUTANT_MAPPER) {v : String}
    (hv : v = "TSS" ∨ v ∈ VIRTUAL_POCS) (hne : q.1 ≠ v) (hc : isIn "tss" (lower c) = true) :
    replace c "TSS" q.1 ≠ loadCol v := by
  intro h
  simp only [VIRTUAL_POCS, VIRTUAL_POLLUTANT_MAPPER, List.map_cons, List.map_nil, List.mem_cons,
    List.not_mem_nil, or_false] at hq hv
  have hcol : c = loadCol v := by
    rcases hq with rfl | rfl | rfl <;> rcases hv with rfl | rfl | rfl | rfl <;>
    first
    | exact absurd rfl hne
    | exact eq_of_replace_of_not_isIn (by decide) h (by decide)
  subst hcol
  rcases hq with rfl | rfl | rfl <;> rcases hv with rfl | rfl | rfl | rfl <;>
  first
  | exact absurd rfl hne
  | exact absurd hc (by decide)
  | exact absurd h (by decide)

theorem writeVirtual_own (hp : p ∈ VIRTUAL_POLLUTANT_MAPPER)
    (hcols : ∀ c ∈ cols, isIn "tss" (lower c) = true) (htss : loadCol "TSS" ∈ cols) :
    (row.writeVirtual cols p).col (loadCol p.1) = (row.col (loadCol "TSS")).map p.2 := by
  have hfind : cols.reverse.find? (fun c => replace c "TSS" p.1 = loadCol p.1) =
      some (loadCol "TSS") := by
    cases hfind : cols.reverse.find? (fun c => replace c "TSS" p.1 = loadCol p.1) with
    | none =>
      have hnone := List.find?_eq_none.1 hfind (loadCol "TSS") (List.mem_reverse.2 htss)
      have heq := (replace_eq_loadCol_iff hp (hcols _ htss)).2 rfl
      exact absurd heq (by simpa using hnone)
    | some c =>
      have hc := hcols c (List.mem_reverse.1 (List.mem_of_find?_eq_some hfind))
      have heq : replace c "TSS" p.1 = loadCol p.1 := by simpa using List.find?_some hfind
      rw [(replace_eq_loadCol_iff hp hc).1 heq]
  simp only [WideRow.writeVirtual, hfind]

theorem writeVirtual_other (hq : q ∈ VIRTUAL_POLLUTANT_MAPPER)
    (hcols : ∀ c ∈ cols, isIn "tss" (lower c) = true) {v : String}
    (hv : v = "TSS" ∨ v ∈ VIRTUAL_POCS) (hne : q.1 ≠ v) :
    (row.writeVirtual cols q).col (loadCol v) = row.col (loadCol v) := by
  have hfind : cols.reverse.find? (fun c => replace c "TSS" q.1 = loadCol v) = none :=
    List.find?_eq_none.2 fun c hc => by
      simpa using replace_ne_loadCol hq hv hne (hcols c (List.mem_reverse.1 hc))
  simp only [WideRow.writeVirtual, hfind]

/-- The row after the columns of all virtual pollutants were written. -/
def WideRow.writeVirtuals (cols : List String) (row : WideRow) : WideRow :=
  VIRTUAL_POLLUTANT_MAPPER.foldl (fun row p => row.writeVirtual cols p) row

@[simp] theorem nodeId_writeVirtuals : (row.writeVirtuals cols).nodeId = row.nodeId := rfl

@[simp] theorem epoch_writeVirtuals : (row.writeVirtuals cols).epoch = row.epoch := rfl

theorem rows_addVirtualPocsToWideLoadSummary (results : WideFrame) :
    (addVirtualPocsToWideLoadSummary results).rows =
      results.rows.map (·.writeVirtuals (tssCols results)) := by
  simp only [addVirtualPocsToWideLoadSummary, VIRTUAL_POLLUTANT_MAPPER, List.foldl_cons,
    List.foldl_nil, List.map_map]
  rfl

theorem foldl_writeVirtual_other (hcols : ∀ c ∈ cols, isIn "tss" (lower c) = true) {v : String}
    (hv : v = "TSS" ∨ v ∈ VIRTUAL_POCS) {ps : List (String × (ℚ → ℚ))}
    (hps : ∀ q ∈ ps, q ∈ VIRTUAL_POLLUTANT_MAPPER) (hne : ∀ q ∈ ps, q.1 ≠ v) (row : WideRow) :
    (ps.foldl (fun row q => row.writeVirtual cols q) row).col (loadCol v) =
      row.col (loadCol v) := by
  induction ps generalizing row with
  | nil => rfl
  | cons q ps ih =>
    rw [List.foldl_cons, ih (fun x hx => hps x (List.mem_cons_of_mem _ hx))
      (fun x hx => hne x (List.mem_cons_of_mem _ hx)),
      writeVirtual_other (hps q List.mem_cons_self) hcols hv (hne q List.mem_cons_self)]

/-- **The columns of the virtual pollutants are functions of the suspended solids.** -/
theorem col_writeVirtuals (hp : p ∈ VIRTUAL_POLLUTANT_MAPPER)
    (hcols : ∀ c ∈ cols, isIn "tss" (lower c) = true) (htss : loadCol "TSS" ∈ cols)
    (row : WideRow) :
    (row.writeVirtuals cols).col (loadCol p.1) = (row.col (loadCol "TSS")).map p.2 := by
  have hmem : p.1 ∈ VIRTUAL_POCS := List.mem_map_of_mem hp
  have hnd := nodup_VIRTUAL_POCS
  have htssNot : ∀ q ∈ VIRTUAL_POLLUTANT_MAPPER, q.1 ≠ "TSS" := fun q hq heq =>
    TSS_notMem_VIRTUAL_POCS (heq ▸ List.mem_map_of_mem hq)
  obtain ⟨before, after, hsplit⟩ := List.append_of_mem hp
  have hafter : ∀ q ∈ after, q.1 ≠ p.1 := by
    intro q hq heq
    rw [VIRTUAL_POCS, hsplit, List.map_append, List.map_cons] at hnd
    exact (List.nodup_cons.1 hnd.of_append_right).1 (heq ▸ List.mem_map_of_mem hq)
  have hsub : ∀ q, q ∈ before ∨ q ∈ after → q ∈ VIRTUAL_POLLUTANT_MAPPER := fun q hq => by
    rw [hsplit]
    exact hq.elim (List.mem_append_left _) fun h =>
      List.mem_append_right _ (List.mem_cons_of_mem _ h)
  -- the writes after that of `p` keep its column, those before it keep the suspended solids
  rw [WideRow.writeVirtuals, hsplit, List.foldl_append, List.foldl_cons,
    foldl_writeVirtual_other hcols (.inr hmem) (fun q hq => hsub q (.inr hq)) hafter,
    writeVirtual_own hp hcols htss,
    foldl_writeVirtual_other hcols (.inl rfl) (fun q hq => hsub q (.inl hq))
      fun q hq => htssNot q (hsub q (.inl hq))]

end

end StormPiper
