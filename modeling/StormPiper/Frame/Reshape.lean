import StormPiper.Frame.Basic
import Mathlib.Algebra.BigOperators.Group.Multiset.Basic

/-!
# Long and wide tables

A long table has a row for each cell; a wide one has a column for each label.  `melt` makes a long
table of a wide one, column by column, and `pivot` a wide table of a long one, with its rows and
columns in order.  A long table with two rows of one cell has no wide form.

* `pivot_eq_some_iff` : when there is a wide form.
* `cell_eq_some` : its cells are the rows.
* `sum_cell` : the cells of a label sum up to its rows.
* `exists_assignAll` : columns that are assigned one after another.
-/

namespace StormPiper

namespace Frame

/-- A table with one column for each label. -/
structure Wide (ι κ v : Type) where
  columns : List κ
  /-- The rows: an index and the values in the columns. -/
  rows : List (ι × (κ → v))

variable {ι κ v α : Type}

/-- `df.melt`. -/
def melt (w : Wide ι κ v) : List (ι × κ × v) :=
  w.columns.flatMap fun k => w.rows.map fun r => (r.1, k, r.2 k)

/-- The cell of a long table. -/
def cell [DecidableEq ι] [DecidableEq κ] (index : α → ι) (label : α → κ) (value : α → v)
    (rows : List α) (i : ι) (k : κ) : Option v :=
  (rows.find? fun a => index a = i ∧ label a = k).map value

/-- `df.pivot`, which fails on duplicate entries. -/
def pivot [LinearOrder ι] [LinearOrder κ] (index : α → ι) (label : α → κ) (value : α → v)
    (rows : List α) : Option (Wide ι κ (Option v)) :=
  if (rows.map fun a => (index a, label a)).Nodup then
    some
      { columns := sortedUnique label rows
        rows := (sortedUnique index rows).map fun i => (i, cell index label value rows i) }
  else none

/-- `df.rename(columns=f)`. -/
def Wide.rename {κ' : Type} [DecidableEq κ'] (f : κ → κ') (w : Wide ι κ (Option v)) :
    Wide ι κ' (Option v) where
  columns := w.columns.map f
  rows := w.rows.map fun r => (r.1, fun name => (w.columns.find? fun k => f k = name).bind r.2)

/-- Under new names that differ, the columns are the same. -/
theorem value_rename {κ' : Type} [DecidableEq κ'] {f : κ → κ'} {columns : List κ} {k : κ}
    (hk : k ∈ columns) (hinj : ∀ k' ∈ columns, f k' = f k → k' = k) (row : κ → Option v) :
    (columns.find? fun k' => f k' = f k).bind row = row k := by
  obtain ⟨k', hk'⟩ : ∃ k', (columns.find? fun k' => f k' = f k) = some k' :=
    Option.isSome_iff_exists.1 (List.find?_isSome.2 ⟨k, hk, by simp⟩)
  obtain rfl : k' = k :=
    hinj k' (List.mem_of_find?_eq_some hk') (by simpa using List.find?_some hk')
  rw [hk', Option.bind_some]

theorem mem_melt {w : Wide ι κ v} {c : ι × κ × v} :
    c ∈ melt w ↔ c.2.1 ∈ w.columns ∧ ∃ r ∈ w.rows, r.1 = c.1 ∧ r.2 c.2.1 = c.2.2 := by
  obtain ⟨i, k, x⟩ := c
  simp only [melt, List.mem_flatMap, List.mem_map, Prod.mk.injEq]
  constructor
  · rintro ⟨k', hk, r, hr, rfl, rfl, rfl⟩
    exact ⟨hk, r, hr, rfl, rfl⟩
  · rintro ⟨hk, r, hr, rfl, rfl⟩
    exact ⟨k, hk, r, hr, rfl, rfl, rfl⟩

/-- Distinct columns and rows make distinct cells. -/
theorem nodup_melt {w : Wide ι κ v} (hcols : w.columns.Nodup)
    (hrows : (w.rows.map Prod.fst).Nodup) :
    ((melt w).map fun c => (c.1, c.2.1)).Nodup := by
  have hmap : (melt w).map (fun c => (c.1, c.2.1)) =
      w.columns.flatMap fun k => (w.rows.map Prod.fst).map fun i => (i, k) := by
    simp [melt, List.map_flatMap, Function.comp_def]
  rw [hmap, List.nodup_flatMap]
  refine ⟨fun k _ => hrows.map fun i j h => (Prod.mk.inj h).1, ?_⟩
  refine hcols.imp fun hne => ?_
  show List.Disjoint _ _
  rw [List.disjoint_left]
  rintro ⟨i, k⟩ h h'
  simp only [List.mem_map, Prod.mk.injEq] at h h'
  obtain ⟨-, -, -, rfl⟩ := h
  obtain ⟨-, -, -, rfl⟩ := h'
  exact hne rfl

section Cell

variable [DecidableEq ι] [DecidableEq κ] {index : α → ι} {label : α → κ} {value : α → v}
  {rows : List α}

theorem cell_eq_some (hnd : (rows.map fun a => (index a, label a)).Nodup) {a : α} (ha : a ∈ rows) :
    cell index label value rows (index a) (label a) = some (value a) := by
  have hfind : (rows.find? fun b => index b = index a ∧ label b = label a) = some a := by
    obtain ⟨b, hb⟩ : ∃ b, (rows.find? fun b => index b = index a ∧ label b = label a) = some b :=
      Option.isSome_iff_exists.1 (List.find?_isSome.2 ⟨a, ha, by simp⟩)
    have hkey : index b = index a ∧ label b = label a := by simpa using List.find?_some hb
    have hba : b = a :=
      List.inj_on_of_nodup_map hnd (List.mem_of_find?_eq_some hb) ha
        (Prod.ext hkey.1 hkey.2)
    rw [hb, hba]
  rw [cell, hfind, Option.map_some]

theorem cell_eq_none {i : ι} {k : κ} (h : ∀ a ∈ rows, index a = i → label a ≠ k) :
    cell index label value rows i k = none := by
  simpa [cell] using h

end Cell

section Pivot

variable [LinearOrder ι] [LinearOrder κ] {index : α → ι} {label : α → κ} {value : α → v}
  {rows : List α} {w : Wide ι κ (Option v)}

theorem pivot_eq_some_iff :
    (∃ w, pivot index label value rows = some w) ↔
      (rows.map fun a => (index a, label a)).Nodup := by
  unfold pivot
  split <;> simp_all

theorem rows_pivot (h : pivot index label value rows = some w) :
    w.rows = (sortedUnique index rows).map fun i => (i, cell index label value rows i) := by
  unfold pivot at h
  split at h <;> simp_all
  exact h ▸ rfl

theorem columns_pivot (h : pivot index label value rows = some w) :
    w.columns = sortedUnique label rows := by
  unfold pivot at h
  split at h <;> simp_all
  exact h ▸ rfl

theorem index_pivot (h : pivot index label value rows = some w) :
    w.rows.map Prod.fst = sortedUnique index rows := by
  rw [rows_pivot h, List.map_map]
  exact List.map_id _

end Pivot

/-! ### Sums of columns -/

section Sums

variable {M : Type} [AddCommMonoid M] {κ' : Type} [DecidableEq κ']

/-- The rows of the keys, summed up key by key. -/
theorem sum_filter_key (key : α → κ') (col : α → M) {ks : List κ'} (hnd : ks.Nodup)
    {rows : List α} (hkeys : ∀ a ∈ rows, key a ∈ ks) :
    (ks.map fun k => ((rows.filter fun a => key a = k).map col).sum).sum = (rows.map col).sum := by
  have hsum : ∀ ks : List κ', ((ks.flatMap fun k => rows.filter fun a => key a = k).map col).sum =
      (ks.map fun k => ((rows.filter fun a => key a = k).map col).sum).sum := by
    intro ks
    induction ks with
    | nil => rfl
    | cons k ks ih => rw [List.flatMap_cons, List.map_append, List.sum_append, ih]; rfl
  rw [← hsum]
  exact ((perm_flatMap_filter_key key hnd hkeys).map col).sum_eq

/-- The cells of a label sum up to its rows. -/
theorem sum_cell [LinearOrder ι] [DecidableEq κ] {index : α → ι} {label : α → κ} {value : α → M}
    {rows : List α} (hnd : (rows.map fun a => (index a, label a)).Nodup) (k : κ) :
    ((sortedUnique index rows).map fun i => (cell index label value rows i k).getD 0).sum =
      ((rows.filter fun a => label a = k).map value).sum := by
  have hcell (i : ι) : (cell index label value rows i k).getD 0 =
      (((rows.filter fun a => label a = k).filter fun a => index a = i).map value).sum := by
    by_cases hex : ∃ a ∈ rows, index a = i ∧ label a = k
    · obtain ⟨a, ha, rfl, rfl⟩ := hex
      have hone := filter_key_eq_singleton (fun a => (index a, label a)) hnd ha
      have hfilter : ((rows.filter fun b => label b = label a).filter
          fun b => index b = index a) = [a] := by
        rw [List.filter_filter, ← hone]
        exact List.filter_congr fun b _ => by simp
      rw [cell_eq_some hnd ha, hfilter]
      simp
    · push Not at hex
      have hfilter : ((rows.filter fun b => label b = k).filter fun b => index b = i) = [] := by
        rw [List.filter_filter, List.filter_eq_nil_iff]
        intro b hb
        simpa using hex b hb
      rw [cell_eq_none hex, hfilter]
      rfl
  refine Eq.trans ?_ (sum_filter_key index value (nodup_sortedUnique index rows)
    fun a ha => mem_sortedUnique.2 ⟨a, (List.mem_filter.1 ha).1, rfl⟩)
  exact congrArg List.sum (List.map_congr_left fun i _ => hcell i)

theorem sum_map_sub {A : Type} [AddCommGroup A] (f g : α → A) (xs : List α) :
    (xs.map fun a => f a - g a).sum = (xs.map f).sum - (xs.map g).sum := by
  simpa using Multiset.sum_map_sub (m := (xs : Multiset α)) (f := f) (g := g)

end Sums

/-! ### Assigned columns -/

section Assign

variable {γ : Type} [DecidableEq κ]

/-- `df.assign(name=f)`, where `f` fails if a column that it reads is missing. -/
def Wide.assign (w : Wide ι κ v) (name : κ) (reads : List κ) (f : (κ → v) → v) :
    Option (Wide ι κ v) :=
  if ∀ k ∈ reads, k ∈ w.columns then
    some
      { columns := if name ∈ w.columns then w.columns else w.columns ++ [name]
        rows := w.rows.map fun r => (r.1, Function.update r.2 name (f r.2)) }
  else none

/-- One column after another, each from the columns that are there. -/
def Wide.assignAll (w : Wide ι κ v) (name : γ → κ) (reads : γ → List κ) (f : γ → (κ → v) → v)
    (cs : List γ) : Option (Wide ι κ v) :=
  cs.foldlM (fun w c => w.assign (name c) (reads c) (f c)) w

/-- The same on a row. -/
def assignEach (name : γ → κ) (f : γ → (κ → v) → v) (row : κ → v) (cs : List γ) : κ → v :=
  cs.foldl (fun row c => Function.update row (name c) (f c row)) row

variable (name : γ → κ) (f : γ → (κ → v) → v)

theorem assignEach_of_notMem {cs : List γ} {k : κ} (hk : k ∉ cs.map name) (row : κ → v) :
    assignEach name f row cs k = row k := by
  induction cs generalizing row with
  | nil => rfl
  | cons c cs ih =>
    rw [List.map_cons, List.mem_cons, not_or] at hk
    exact (ih hk.2 _).trans (Function.update_of_ne hk.1 _ _)

/-- The columns do not depend on each other: each is computed from the row as it was. -/
theorem assignEach_name (reads : γ → List κ) {cs : List γ} (hnd : (cs.map name).Nodup)
    (hreads : ∀ c ∈ cs, ∀ k ∈ reads c, k ∉ cs.map name)
    (hf : ∀ c row row', (∀ k ∈ reads c, row k = row' k) → f c row = f c row')
    {c : γ} (hc : c ∈ cs) (row : κ → v) : assignEach name f row cs (name c) = f c row := by
  induction cs generalizing row with
  | nil => cases hc
  | cons d cs ih =>
    rw [List.map_cons, List.nodup_cons] at hnd
    rcases List.mem_cons.1 hc with rfl | hc
    · exact (assignEach_of_notMem name f hnd.1 _).trans (Function.update_self ..)
    · have hread : ∀ c ∈ cs, ∀ k ∈ reads c, k ∉ cs.map name := fun c hc k hk h =>
        hreads c (List.mem_cons_of_mem _ hc) k hk (List.mem_cons_of_mem _ h)
      refine (ih hnd.2 hread hc _).trans (hf c _ _ fun k hk => Function.update_of_ne ?_ _ _)
      rintro rfl
      exact hreads c (List.mem_cons_of_mem _ hc) _ hk (List.mem_cons_self ..)

/-- **Columns are assigned one after another** if the columns that they are computed from are
there. -/
theorem exists_assignAll {reads : γ → List κ} {cs : List γ} {w : Wide ι κ v}
    (hreads : ∀ c ∈ cs, ∀ k ∈ reads c, k ∈ w.columns) :
    ∃ w', w.assignAll name reads f cs = some w' ∧
      (∀ k, k ∈ w'.columns ↔ k ∈ w.columns ∨ k ∈ cs.map name) ∧
      w'.rows = w.rows.map fun r => (r.1, assignEach name f r.2 cs) := by
  induction cs generalizing w with
  | nil => exact ⟨w, rfl, by simp, by simp [assignEach]⟩
  | cons c cs ih =>
    obtain ⟨w₁, hw₁⟩ : ∃ w₁, w.assign (name c) (reads c) (f c) = some w₁ :=
      ⟨_, if_pos (hreads c (List.mem_cons_self ..))⟩
    have hassign := hw₁
    rw [Wide.assign, if_pos (hreads c (List.mem_cons_self ..)), Option.some.injEq] at hassign
    have hcols : ∀ k, k ∈ w₁.columns ↔ k ∈ w.columns ∨ k = name c := by
      intro k
      rw [← hassign]
      by_cases hname : name c ∈ w.columns
      · simp only [hname, if_true]
        exact ⟨.inl, Or.rec id fun h => h ▸ hname⟩
      · simp [hname]
    obtain ⟨w', hw', hcols', hrows'⟩ := ih (w := w₁) fun d hd k hk =>
      (hcols k).2 (.inl (hreads d (List.mem_cons_of_mem _ hd) k hk))
    refine ⟨w', ?_, fun k => ?_, ?_⟩
    · rw [Wide.assignAll, List.foldlM_cons, hw₁]
      exact hw'
    · rw [hcols', hcols, List.map_cons, List.mem_cons, or_assoc]
    · rw [hrows', ← hassign, List.map_map]
      rfl

end Assign

end Frame

end StormPiper
