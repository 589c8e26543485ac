import StormPiper.Dependencies.Dirty
import Mathlib.Data.List.Sort

/-!
# The change log

The rows of the table `tablechangelog` and the queries of `database/changelog.py` and
`database/dependencies.py` on them.  A table is logged by moving the time stamp of its row, or by
inserting a row; the dirty check reads the rows sorted by time stamp.

A `Changelog` is a table of rows with at most one row for each name and no two equal time stamps.
Sorted by time stamp it is a recency list, and logging a table later than all rows touches that
list (`tables_log`), so that what is proved of `isDirty` on recency lists holds of the database
(`asyncIsDirty_eq`): a table is dirty by the time stamps of its ancestors
(`asyncIsDirty_iff_updated_after`).
-/

namespace StormPiper

open Recency Relation

variable {α : Type} [DecidableEq α]

/-- A row of the table `tablechangelog`. -/
structure TableChangeLog (α : Type) where
  tablename : α
  lastUpdated : ℕ
  deriving Repr, DecidableEq

/-- Log a change of `tablename` at time `ts`; a new row gets its time stamp from the database
clock `now`. -/
def syncLog (ts now : ℕ) (tablename : α) (rows : List (TableChangeLog α)) :
    List (TableChangeLog α) :=
  let ls := rows.filter (·.tablename = tablename)
  if 1 ≤ ls.length then
    rows.map fun r => if r.tablename = tablename then { r with lastUpdated := ts } else r
  else rows ++ [⟨tablename, now⟩]

/-- The rows, oldest change first. -/
def sortedChangelogRecords (rows : List (TableChangeLog α)) : List (TableChangeLog α) :=
  rows.insertionSort fun a b => a.lastUpdated ≤ b.lastUpdated

/-- The dirty check of one table, `None` when it was never logged, with the time of its last
change. -/
def asyncIsDirty (g : DiGraph α) (tablename : α) (rows : List (TableChangeLog α)) :
    Except PyError (Option (Bool × ℕ)) :=
  let records := sortedChangelogRecords rows
  match records.find? (·.tablename = tablename) with
  | none => .ok none
  | some resultRecord => do
    let isDirtyBool ← isDirty g tablename (records.map (·.tablename))
    return some (isDirtyBool, resultRecord.lastUpdated)

/-- The check of a logged table is the dirty check of the names, in whatever table of rows. -/
theorem asyncIsDirty_of_mem (g : DiGraph α) {t : α} {rows : List (TableChangeLog α)}
    (ht : t ∈ (sortedChangelogRecords rows).map (·.tablename)) : ∃ lastUpdated,
      asyncIsDirty g t rows = (isDirty g t ((sortedChangelogRecords rows).map (·.tablename))).map
        fun b => some (b, lastUpdated) := by
  obtain ⟨r, hr⟩ : ∃ r, (sortedChangelogRecords rows).find? (·.tablename = t) = some r := by
    obtain ⟨r, hr, hrt⟩ := List.mem_map.1 ht
    exact Option.isSome_iff_exists.1 (List.find?_isSome.2 ⟨r, hr, by simpa using hrt⟩)
  refine ⟨r.lastUpdated, ?_⟩
  simp only [asyncIsDirty, hr]
  cases isDirty g t ((sortedChangelogRecords rows).map (·.tablename)) <;> rfl

/-- A table that was never logged has no answer. -/
theorem asyncIsDirty_of_not_logged (g : DiGraph α) {t : α} {rows : List (TableChangeLog α)}
    (ht : t ∉ (sortedChangelogRecords rows).map (·.tablename)) :
    asyncIsDirty g t rows = .ok none := by
  have hnone : (sortedChangelogRecords rows).find? (·.tablename = t) = none := by
    rw [List.find?_eq_none]
    intro r hr hrt
    exact ht (List.mem_map.2 ⟨r, hr, by simpa using hrt⟩)
  simp only [asyncIsDirty, hnone]

/-- A well-formed table of rows: one row for a name, and no two rows with one time stamp. -/
structure Changelog (α : Type) where
  rows : List (TableChangeLog α)
  tablename_nodup : (rows.map (·.tablename)).Nodup
  lastUpdated_nodup : (rows.map (·.lastUpdated)).Nodup

namespace Changelog

variable {c : Changelog α} {t : α} {ts : ℕ}

/-- The logged tables, oldest change first. -/
def tables (c : Changelog α) : List α :=
  (sortedChangelogRecords c.rows).map (·.tablename)

/-- All rows are older than a time. -/
def Older (c : Changelog α) (ts : ℕ) : Prop := ∀ r ∈ c.rows, r.lastUpdated < ts

omit [DecidableEq α] in
theorem mem_tables : t ∈ c.tables ↔ ∃ r ∈ c.rows, r.tablename = t := by
  simp [tables, sortedChangelogRecords]

omit [DecidableEq α] in
theorem nodup_tables : c.tables.Nodup :=
  (((List.perm_insertionSort _ c.rows).map _).nodup_iff).2 c.tablename_nodup

omit [DecidableEq α] in
theorem eq_of_lastUpdated {a b : TableChangeLog α} (ha : a ∈ c.rows) (hb : b ∈ c.rows)
    (h : a.lastUpdated = b.lastUpdated) : a = b :=
  List.inj_on_of_nodup_map c.lastUpdated_nodup ha hb h

/-- Logging a table replaces its row. -/
theorem perm_syncLog :
    (syncLog ts ts t c.rows).Perm (c.rows.filter (·.tablename ≠ t) ++ [⟨t, ts⟩]) := by
  unfold syncLog
  have hnames := c.tablename_nodup
  generalize c.rows = rows at hnames ⊢
  dsimp only
  split_ifs with h
  · -- the row of `t` is moved from its place to the end
    induction rows with
    | nil => simp at h
    | cons r rows ih =>
      rw [List.map_cons] at hnames
      obtain ⟨hr, hnames⟩ := List.nodup_cons.1 hnames
      by_cases hrt : r.tablename = t
      · have hrest : ∀ x ∈ rows, x.tablename ≠ t := by
          rintro x hx rfl
          exact hr (hrt ▸ List.mem_map_of_mem hx)
        have hmap : (rows.map fun x : TableChangeLog α =>
            if x.tablename = t then { x with lastUpdated := ts } else x) = rows :=
          List.map_congr_left (fun x hx => if_neg (hrest x hx)) |>.trans (List.map_id _)
        have hfilter : rows.filter (·.tablename ≠ t) = rows :=
          List.filter_eq_self.2 fun x hx => by simpa using hrest x hx
        obtain rfl : t = r.tablename := hrt.symm
        rw [List.map_cons, if_pos rfl, hmap, List.filter_cons_of_neg (by simp), hfilter]
        exact (List.perm_append_singleton _ _).symm
      · rw [List.map_cons, if_neg hrt, List.filter_cons_of_pos (by simpa using hrt),
          List.cons_append]
        rw [List.filter_cons_of_neg (by simpa using hrt)] at h
        exact (ih hnames h).cons r
  · have hnone : ∀ x ∈ rows, x.tablename ≠ t := by
      intro x hx hxt
      exact h (List.length_pos_of_mem (List.mem_filter.2 ⟨hx, by simpa using hxt⟩))
    rw [List.filter_eq_self.2 fun x hx => by simpa using hnone x hx]

/-- The table after `t` is logged at a time later than all rows. -/
def log (c : Changelog α) (ts : ℕ) (t : α) (h : c.Older ts) : Changelog α where
  rows := syncLog ts ts t c.rows
  tablename_nodup := by
    have hsub : ((c.rows.filter (·.tablename ≠ t)).map (·.tablename)).Nodup :=
      c.tablename_nodup.sublist (List.filter_sublist.map _)
    rw [(perm_syncLog.map _).nodup_iff, List.map_append]
    refine hsub.append (by simp) ?_
    simp
  lastUpdated_nodup := by
    have hsub : ((c.rows.filter (·.tablename ≠ t)).map (·.lastUpdated)).Nodup :=
      c.lastUpdated_nodup.sublist (List.filter_sublist.map _)
    rw [(perm_syncLog.map _).nodup_iff, List.map_append]
    refine hsub.append (by simp) ?_
    simp only [List.disjoint_singleton, List.map_cons, List.map_nil, List.mem_map, List.mem_filter]
    rintro ⟨r, ⟨hr, -⟩, rfl⟩
    have := h r hr
    omega

/-- **Logging a table touches the recency list.** -/
theorem tables_log (h : c.Older ts) : (c.log ts t h).tables = touch t c.tables := by
  have hsorted : sortedChangelogRecords (syncLog ts ts t c.rows) =
      (sortedChangelogRecords c.rows).filter (·.tablename ≠ t) ++ [⟨t, ts⟩] := by
    have hperm : (sortedChangelogRecords (syncLog ts ts t c.rows)).Perm
        ((sortedChangelogRecords c.rows).filter (·.tablename ≠ t) ++ [⟨t, ts⟩]) :=
      (List.perm_insertionSort _ _).trans (perm_syncLog.trans
        (((List.perm_insertionSort _ _).symm.filter _).append_right _))
    -- the records are in the order of their time stamps on both sides, and these are distinct
    have hsortedLog : (sortedChangelogRecords (syncLog ts ts t c.rows)).Pairwise
        fun a b => a.lastUpdated ≤ b.lastUpdated := List.pairwise_insertionSort _ _
    refine hperm.eq_of_pairwise ?_ hsortedLog ?_
    · intro a b ha hb hab hba
      refine (c.log ts t h).eq_of_lastUpdated ?_ ?_ (by omega)
      · exact (List.mem_insertionSort _).1 ha
      · exact (List.mem_insertionSort _).1 (hperm.mem_iff.2 hb)
    · refine List.pairwise_append.2 ⟨(List.pairwise_insertionSort _ _).filter _, by simp, ?_⟩
      intro a ha b hb
      obtain rfl := List.mem_singleton.1 hb
      exact (h a ((List.mem_insertionSort _).1 (List.mem_of_mem_filter ha))).le
  change (sortedChangelogRecords (syncLog ts ts t c.rows)).map _ = _
  rw [hsorted, List.map_append, touch, tables, List.filter_map]
  rfl

theorem asyncIsDirty_eq (g : DiGraph α) (ht : t ∈ c.tables) :
    ∃ lastUpdated, asyncIsDirty g t c.rows =
      (isDirty g t c.tables).map fun b => some (b, lastUpdated) :=
  asyncIsDirty_of_mem g ht

/-- The names of rows in the order of a key are in the order of that key. -/
theorem idxOf_map_lt {β : Type} {f : β → α} {key : β → ℕ} {rows : List β}
    (hsorted : rows.Pairwise fun a b => key a < key b) (hnames : (rows.map f).Nodup) {a b : β}
    (ha : a ∈ rows) (hb : b ∈ rows) :
    (rows.map f).idxOf (f a) < (rows.map f).idxOf (f b) ↔ key a < key b := by
  induction rows with
  | nil => cases ha
  | cons r rows ih =>
    rw [List.pairwise_cons] at hsorted
    rw [List.map_cons, List.nodup_cons] at hnames
    have hne : ∀ c ∈ rows, f r ≠ f c := fun c hc h => hnames.1 (h ▸ List.mem_map_of_mem hc)
    rw [List.map_cons]
    rcases List.mem_cons.1 ha with rfl | ha'
    · rcases List.mem_cons.1 hb with rfl | hb
      · simp
      · rw [List.idxOf_cons_self, List.idxOf_cons_ne _ (hne b hb)]
        exact iff_of_true (Nat.succ_pos _) (hsorted.1 b hb)
    · rcases List.mem_cons.1 hb with rfl | hb
      · rw [List.idxOf_cons_self]
        exact iff_of_false (Nat.not_lt_zero _) (hsorted.1 a ha').asymm
      · rw [List.idxOf_cons_ne _ (hne a ha'), List.idxOf_cons_ne _ (hne b hb), Nat.succ_lt_succ_iff]
        exact ih hsorted.2 hnames.2 ha' hb

/-- A table was logged after another one if its time stamp is later. -/
theorem before_tables {a b : TableChangeLog α} (ha : a ∈ c.rows) (hb : b ∈ c.rows) :
    Before c.tables a.tablename b.tablename ↔ a.lastUpdated < b.lastUpdated := by
  have hsorted : (sortedChangelogRecords c.rows).Pairwise
      fun a b => a.lastUpdated < b.lastUpdated := by
    have hdistinct : ((sortedChangelogRecords c.rows).map (·.lastUpdated)).Nodup :=
      (((List.perm_insertionSort _ c.rows).map _).nodup_iff).2 c.lastUpdated_nodup
    have hle : (sortedChangelogRecords c.rows).Pairwise
        fun a b => a.lastUpdated ≤ b.lastUpdated := List.pairwise_insertionSort _ _
    exact (hle.and (List.pairwise_map.1 hdistinct)).imp fun h => lt_of_le_of_ne h.1 h.2
  have hlt := idxOf_map_lt hsorted c.nodup_tables ((List.mem_insertionSort _).2 ha)
    ((List.mem_insertionSort _).2 hb)
  exact ⟨fun h => hlt.1 h.2.2, fun h => ⟨mem_tables.2 ⟨a, ha, rfl⟩, mem_tables.2 ⟨b, hb, rfl⟩,
    hlt.2 h⟩⟩

/-- **The API's check by time stamps.**  A logged table of an acyclic graph is dirty exactly if it
or one of its ancestors has an earlier time stamp than one of its own ancestors. -/
theorem asyncIsDirty_iff_updated_after {g : DiGraph α} (hg : Acyclic g.Adj) (ht : t ∈ c.tables)
    (htg : t ∈ g.nodes) : ∃ b lastUpdated, asyncIsDirty g t c.rows = .ok (some (b, lastUpdated)) ∧
      (b = true ↔ ∃ u ∈ c.rows, ∃ v ∈ c.rows, ReflTransGen g.Adj v.tablename t ∧
        TransGen g.Adj u.tablename v.tablename ∧ v.lastUpdated < u.lastUpdated) := by
  obtain ⟨lastUpdated, heq⟩ := c.asyncIsDirty_eq g ht
  obtain ⟨b, hb, hdirty⟩ := isDirty_spec hg ht htg
  refine ⟨b, lastUpdated, by rw [heq, hb]; rfl, hdirty.trans ⟨?_, ?_⟩⟩
  · rintro ⟨u, v, hvt, huv, hbefore⟩
    obtain ⟨x, hx, rfl⟩ := mem_tables.1 hbefore.1
    obtain ⟨y, hy, rfl⟩ := mem_tables.1 hbefore.2.1
    exact ⟨y, hy, x, hx, hvt, huv, (before_tables hx hy).1 hbefore⟩
  · rintro ⟨u, hu, v, hv, hvt, huv, hlt⟩
    exact ⟨u.tablename, v.tablename, hvt, huv, (before_tables hv hu).2 hlt⟩

end Changelog

end StormPiper
