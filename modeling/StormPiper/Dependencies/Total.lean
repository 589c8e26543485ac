import StormPiper.Dependencies.Changelog
import StormPiper.Dependencies.Simplified
import StormPiper.Dependencies.Tables

/-!
# Where the dirty check returns

The graph knows the tables of the adjacency list, the change log those that were ever written, and
a client may ask for any name.  A name that was never logged has no verdict.  A logged table of the
graph has one: no lookup in the graph or in the change log fails, and the walk ends.  A logged
table that the adjacency list does not mention, such as the global settings, is looked up in the
graph all the same.

* `CheckReturns` : the check of a table returns what it should.
* `asyncIsDirty_returns_iff` : it does unless the table is logged and not a node of `OG`.
-/

namespace StormPiper

variable {α : Type} [DecidableEq α]

/-- The check of a table returns: a verdict with the time of the last change where the table was
logged, `None` where it never was; and the graph is simplified without a failing lookup. -/
structure CheckReturns (g : DiGraph α) (tablename : α) (rows : List (TableChangeLog α)) :
    Prop where
  simplified : simplifyGraphIn g.nodes g ((sortedChangelogRecords rows).map (·.tablename)) =
    .ok (simplifyGraph g ((sortedChangelogRecords rows).map (·.tablename)))
  none_of_not_logged : tablename ∉ rows.map (·.tablename) → asyncIsDirty g tablename rows = .ok none
  verdict_of_logged : tablename ∈ rows.map (·.tablename) →
    ∃ isDirty lastUpdated, asyncIsDirty g tablename rows = .ok (some (isDirty, lastUpdated))

omit [DecidableEq α] in
theorem mem_sortedChangelogRecords {t : α} {rows : List (TableChangeLog α)} :
    t ∈ (sortedChangelogRecords rows).map (·.tablename) ↔ t ∈ rows.map (·.tablename) :=
  ((List.perm_insertionSort _ rows).map _).mem_iff

theorem isDirty_of_not_mem {g : DiGraph α} {t : α} {changelog : List α} (ht : t ∉ g.nodes) :
    isDirty g t changelog = .error .networkXError := by
  have hng : t ∉ (simplifyGraph g changelog).nodes := fun h => ht (mem_simplifyGraph.1 h).1
  rw [isDirty, checkIfDepsAreSorted, predecessors, if_neg hng]
  rfl

/-- On an acyclic graph the check fails exactly for the logged tables that are not nodes. -/
theorem checkReturns_iff {g : DiGraph α} (hg : Acyclic g.Adj) {t : α}
    {rows : List (TableChangeLog α)} :
    CheckReturns g t rows ↔ (t ∈ rows.map (·.tablename) → t ∈ g.nodes) := by
  constructor
  · intro h ht
    by_contra htg
    obtain ⟨isDirty, lastUpdated, hok⟩ := h.verdict_of_logged ht
    obtain ⟨lastUpdated', heq⟩ := asyncIsDirty_of_mem g (mem_sortedChangelogRecords.2 ht)
    rw [heq, isDirty_of_not_mem htg] at hok
    cases hok
  · intro h
    refine ⟨simplifyGraphIn_eq g.nodes_nodup fun _ hn => hn, fun ht => ?_, fun ht => ?_⟩
    · exact asyncIsDirty_of_not_logged g (mt mem_sortedChangelogRecords.1 ht)
    · have hlog := mem_sortedChangelogRecords.2 ht
      obtain ⟨b, hb, -⟩ := isDirty_spec hg hlog (h ht)
      obtain ⟨lastUpdated, heq⟩ := asyncIsDirty_of_mem g hlog
      exact ⟨b, lastUpdated, by rw [heq, hb]; rfl⟩

/-- **Where the dirty check is total.**  For every change log and every name it returns, exactly if
the table was never logged or is one of the adjacency list. -/
theorem asyncIsDirty_returns_iff (t : Table) (rows : List (TableChangeLog Table)) :
    CheckReturns OG t rows ↔ (t ∈ rows.map (·.tablename) → t ∈ OG.nodes) :=
  checkReturns_iff acyclic_OG

/-- The global settings, once they are logged. -/
theorem not_checkReturns_global_setting :
    ¬ CheckReturns OG (.other "global_setting") [⟨.met, 1⟩, ⟨.other "global_setting", 2⟩] := by
  intro h
  obtain ⟨isDirty, lastUpdated, hok⟩ := h.verdict_of_logged (by decide)
  have herror : asyncIsDirty OG (.other "global_setting")
      [⟨.met, 1⟩, ⟨.other "global_setting", 2⟩] = .error .networkXError := by decide +kernel
  rw [herror] at hok
  cases hok

end StormPiper
