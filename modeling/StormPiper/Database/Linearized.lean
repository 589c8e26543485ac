import StormPiper.Database.Sessions

/-!
# Concurrent requests take effect one after the other

What is known of a request at each point of its steps (`Progress`) is kept by its own steps
(`Current.turn_spec`) and by those of the others (`Progress.append`); so every run is linearized.

* `CrudTable.linearized_run` : every run is linearized.
-/

namespace StormPiper

variable {Row Id : Type}

namespace CrudTable

/-! ### What a request has changed -/

section Changes

variable {t : CrudTable Row Id} {commits : List (ℕ × CrudCommit Row Id)} {i : ℕ}

theorem changesOf_append (cs : List (ℕ × CrudCommit Row Id)) :
    changesOf i (commits ++ cs) = changesOf i commits ++ changesOf i cs := List.filterMap_append ..

theorem changesOf_of_ne {j : ℕ} (hne : i ≠ j) (cs : List (CrudCommit Row Id)) :
    changesOf j (cs.map fun c => (i, c)) = [] := by
  rw [changesOf, List.filterMap_map, List.filterMap_eq_nil_iff]
  rintro (change | _) -
  · exact if_neg hne
  · rfl

theorem changesOf_self {change : CrudChange Row Id} (h : changesOf i commits = []) :
    changesOf i (commits ++ [(i, .changed change)]) = [change] := by
  rw [changesOf_append, h]
  simp [changesOf, changeOf]

theorem changesOf_logged {changes : List (CrudChange Row Id)} (h : changesOf i commits = changes) :
    changesOf i (commits ++ [(i, .logged)]) = changes := by
  rw [changesOf_append, h]
  simp [changesOf, changeOf]

theorem ne_of_changesOf_nil {change : CrudChange Row Id} (h : changesOf i commits = [])
    (past : List (ℕ × CrudCommit Row Id)) : commits ≠ past ++ [(i, .changed change)] := by
  rintro rfl
  rw [changesOf_append] at h
  simp [changesOf, changeOf] at h

theorem mem_of_changesOf {change : CrudChange Row Id} (h : changesOf i commits = [change]) :
    (i, .changed change) ∈ commits := by
  have hmem : change ∈ changesOf i commits := h ▸ List.mem_singleton.2 rfl
  obtain ⟨⟨j, c⟩, hc, hchange⟩ := List.mem_filterMap.1 hmem
  cases c with
  | logged => cases hchange
  | changed change' =>
    simp only [changeOf] at hchange
    split_ifs at hchange with hj
    cases hchange
    exact hj ▸ hc

theorem DeletedAfter.append {change : CrudChange Row Id} (h : t.DeletedAfter commits i change)
    (cs : List (ℕ × CrudCommit Row Id)) : t.DeletedAfter (commits ++ cs) i change := by
  obtain ⟨past, later, k, rfl, hk, hmem⟩ := h
  refine ⟨past, later ++ cs, k, ?_, hk, List.mem_append_left _ hmem⟩
  rw [List.append_assoc, List.cons_append]

/-- The last commit is not a change that was followed by a deletion. -/
theorem DeletedAfter.last_ne {change change' : CrudChange Row Id}
    (hchange : changesOf i commits = [change]) (h : t.DeletedAfter commits i change)
    (past : List (ℕ × CrudCommit Row Id)) : commits ≠ past ++ [(i, .changed change')] := by
  rintro hlast
  obtain ⟨before, later, j, hsplit, -, hmem⟩ := h
  have hlater : (i, .changed change') ∈ later := by
    have hget : commits.getLast? = some (i, .changed change') := by rw [hlast]; simp
    obtain ⟨c, cs, rfl⟩ := List.exists_cons_of_ne_nil (List.ne_nil_of_mem hmem)
    rw [hsplit, List.getLast?_append_cons, List.getLast?_cons_cons] at hget
    exact List.mem_of_getLast? hget
  have hone : change' ∈ changesOf i later :=
    List.mem_filterMap.2 ⟨_, hlater, if_pos rfl⟩
  have htwo : changesOf i commits = changesOf i before ++ change :: changesOf i later := by
    rw [hsplit, changesOf_append]
    simp [changesOf, changeOf]
  rw [hchange] at htwo
  have hlen := congrArg List.length htwo
  have hpos := List.length_pos_of_mem hone
  simp only [List.length_cons, List.length_nil, List.length_append] at hlen
  omega

end Changes

/-! ### Statements -/

variable [DecidableEq Id] {t : CrudTable Row Id} {rows : List Row}
  {commits : List (ℕ × CrudCommit Row Id)} {i : ℕ} {id : Id}

theorem find_mem {r : Row} (h : t.find rows id = some r) : r ∈ rows ∧ t.idOf r = id :=
  ⟨List.mem_of_find?_eq_some h, by simpa using List.find?_some h⟩

theorem find_append {row : Row} (hnd : ((rows ++ [row]).map t.idOf).Nodup) :
    t.find (rows ++ [row]) = Function.update (t.find rows) (t.idOf row) (some row) := by
  funext id
  rw [find, List.find?_append]
  by_cases hid : id = t.idOf row
  · subst hid
    have hnone : (rows.find? fun r => t.idOf r = t.idOf row) = none := by
      rw [List.map_append, List.nodup_append] at hnd
      refine List.find?_eq_none.2 fun r hr heq => ?_
      exact hnd.2.2 _ (List.mem_map_of_mem hr) _ (List.mem_singleton.2 rfl)
        (of_decide_eq_true heq)
    rw [hnone, Function.update_self]
    simp
  · rw [Function.update_of_ne hid]
    have hnot : ¬ t.idOf row = id := fun h => hid h.symm
    simp [find, hnot]

theorem find_map (id : Id) (updateData : Row → Row) :
    t.find (rows.map fun r => if t.idOf r = id then t.setId id (updateData r) else r) =
      Function.update (t.find rows) id
        ((t.find rows id).map fun r => t.setId id (updateData r)) := by
  funext id'
  induction rows with
  | nil => by_cases hid : id' = id <;> simp [find, Function.update_apply, hid]
  | cons r rows ih =>
    simp only [find, Function.update_apply] at ih ⊢
    rw [List.map_cons, List.find?_cons, ih, List.find?_cons, List.find?_cons]
    by_cases hr : t.idOf r = id
    · by_cases hid : id' = id
      · simp [hr, hid, t.idOf_setId]
      · simp [hr, hid, t.idOf_setId, Ne.symm hid]
    · by_cases hid : id' = id
      · simp [hr, hid]
      · simp [hr, hid]

theorem find_filter (id : Id) :
    t.find (rows.filter fun r => t.idOf r ≠ id) = Function.update (t.find rows) id none := by
  funext id'
  rw [find, List.find?_filter]
  by_cases hid : id' = id
  · subst hid
    rw [Function.update_self, List.find?_eq_none]
    simp
  · rw [Function.update_of_ne hid, find]
    refine congrArg (fun p => rows.find? p) (funext fun r => ?_)
    by_cases hr : t.idOf r = id'
    · simp [hr, hid]
    · simp [hr]

theorem replay_append (rows₀ : List Row) (cs : List (ℕ × CrudCommit Row Id)) :
    t.replay rows₀ (commits ++ cs) = cs.foldl t.applyCommit (t.replay rows₀ commits) := by
  rw [replay, List.foldl_append]
  rfl

/-! ### How far a request has come -/

variable (t) in
/-- The sequence will not give this value any more. -/
def Issued (nextId : ℕ) (id : Id) : Prop := ∀ n, nextId ≤ n → id ≠ t.serial n

/-- The rows that are inserted get values of the sequence from `nextId` on. -/
def Fresh (t : CrudTable Row Id) (nextId : ℕ) (cs : List (CrudCommit Row Id)) : Prop :=
  ∀ row, .changed (.insert row) ∈ cs → ∃ n, nextId ≤ n ∧ t.idOf row = t.serial n

variable (t) in
/-- What is known of a request at each point. -/
def Progress (rows : List Row) (commits : List (ℕ × CrudCommit Row Id)) (nextId i : ℕ)
    (request : CrudRequest Row Id) : CrudPhase Row Id → Prop
  | .started => changesOf i commits = []
  | .looked | .found => changesOf i commits = [] ∧
    ∃ id updateData, request = .patch id updateData ∧ t.Issued nextId id ∧
      (t.replay rows commits id ≠ none ∨ DeletedByOther commits i id)
  | .written id =>
    (∃ change, changesOf i commits = [change] ∧ t.Asks request change ∧
      t.changedId change = id ∧
      (t.replay rows commits id ≠ none ∨ t.DeletedAfter commits i change)) ∨
    -- the row was deleted between the look-up and the statement
    (Misses commits i request ∧ t.Issued nextId id ∧ t.replay rows commits id = none)
  | .refreshed obj => ∃ change, changesOf i commits = [change] ∧ t.Asks request change ∧
    t.SeenAfter rows commits i change obj
  | .removed => ∃ id, request = .remove id ∧ changesOf i commits = [.delete id]
  | .done answer => t.Tells rows commits i request answer

section Others

variable {j nextId nextId' : ℕ} {cs : List (CrudCommit Row Id)} {rows₀ : List Row}

theorem Seen.append {obj : Option Row} (h : t.Seen rows₀ commits id obj)
    (cs : List (ℕ × CrudCommit Row Id)) : t.Seen rows₀ (commits ++ cs) id obj := by
  obtain ⟨past, hpast, hobj⟩ := h
  exact ⟨past, hpast.trans (List.prefix_append ..), hobj⟩

theorem SeenAfter.append {change : CrudChange Row Id} {obj : Row}
    (h : t.SeenAfter rows₀ commits i change obj) (cs : List (ℕ × CrudCommit Row Id)) :
    t.SeenAfter rows₀ (commits ++ cs) i change obj := by
  obtain ⟨past, hpast, hmem, hobj⟩ := h
  exact ⟨past, hpast.trans (List.prefix_append ..), hmem, hobj⟩

/-- A row that is there stays, or it is deleted. -/
theorem replay_ne_none_or (hlen : cs.length ≤ 1) (h : t.replay rows₀ commits id ≠ none) :
    t.replay rows₀ (commits ++ cs.map fun c => (i, c)) id ≠ none ∨
      cs = [.changed (.delete id)] := by
  match cs, hlen with
  | [], _ => exact .inl (by simpa using h)
  | [c], _ =>
    rw [replay_append, List.map_singleton, List.foldl_cons, List.foldl_nil]
    cases c with
    | logged => exact .inl h
    | changed change =>
      cases change with
      | insert row =>
        refine .inl ?_
        rw [applyCommit, apply]
        by_cases hid : id = t.idOf row
        · rw [hid, Function.update_self]
          exact Option.some_ne_none _
        · rwa [Function.update_of_ne hid]
      | modify id' updateData =>
        refine .inl ?_
        rw [applyCommit, apply]
        by_cases hid : id = id'
        · rw [← hid, Function.update_self]
          simpa using h
        · rwa [Function.update_of_ne hid]
      | delete id' =>
        by_cases hid : id' = id
        · exact .inr (by rw [hid])
        · refine .inl ?_
          rw [applyCommit, apply]
          rwa [Function.update_of_ne (Ne.symm hid)]

omit [DecidableEq Id] in
theorem DeletedAfter.of_delete (hne : i ≠ j) {change : CrudChange Row Id}
    (hchange : changesOf j commits = [change]) :
    t.DeletedAfter (commits ++ [(i, .changed (.delete (t.changedId change)))]) j change := by
  obtain ⟨past, later, hsplit⟩ := List.append_of_mem (mem_of_changesOf hchange)
  refine ⟨past, later ++ [(i, .changed (.delete (t.changedId change)))], i, ?_, hne,
    List.mem_append_right _ (List.mem_singleton.2 rfl)⟩
  rw [hsplit, List.append_assoc, List.cons_append]

omit [DecidableEq Id] in
theorem DeletedByOther.append (h : DeletedByOther commits i id)
    (cs : List (ℕ × CrudCommit Row Id)) : DeletedByOther (commits ++ cs) i id := by
  obtain ⟨k, hk, hmem⟩ := h
  exact ⟨k, hk, List.mem_append_left _ hmem⟩

omit [DecidableEq Id] in
theorem Misses.append (hne : i ≠ j) {request : CrudRequest Row Id}
    (h : Misses commits j request) :
    Misses (commits ++ cs.map fun c => (i, c)) j request := by
  obtain ⟨hnone, id, updateData, hrequest, hdeleted⟩ := h
  refine ⟨?_, id, updateData, hrequest, hdeleted.append _⟩
  rw [changesOf_append, changesOf_of_ne hne, List.append_nil, hnone]

/-- A row that is gone does not come back. -/
theorem replay_eq_none (hlen : cs.length ≤ 1) (hfresh : t.Fresh nextId cs)
    (hissued : t.Issued nextId id) (h : t.replay rows₀ commits id = none) :
    t.replay rows₀ (commits ++ cs.map fun c => (i, c)) id = none := by
  match cs, hlen with
  | [], _ => simpa using h
  | [c], _ =>
    rw [replay_append, List.map_singleton, List.foldl_cons, List.foldl_nil]
    cases c with
    | logged => exact h
    | changed change =>
      cases change with
      | insert row =>
        obtain ⟨n, hn, hid⟩ := hfresh row (List.mem_singleton.2 rfl)
        rw [applyCommit, apply]
        rwa [Function.update_of_ne (hid ▸ hissued n hn)]
      | modify id' updateData =>
        rw [applyCommit, apply]
        by_cases hid : id = id'
        · rw [← hid, Function.update_self, h]
          rfl
        · rwa [Function.update_of_ne hid]
      | delete id' =>
        rw [applyCommit, apply]
        by_cases hid : id = id'
        · rw [hid, Function.update_self]
        · rwa [Function.update_of_ne hid]

theorem Tells.append (hne : i ≠ j) {request : CrudRequest Row Id} {answer : CrudAnswer Row}
    (h : t.Tells rows₀ commits j request answer) :
    t.Tells rows₀ (commits ++ cs.map fun c => (i, c)) j request answer := by
  have hchanges : changesOf j (commits ++ cs.map fun c => (i, c)) = changesOf j commits := by
    rw [changesOf_append, changesOf_of_ne hne, List.append_nil]
  cases answer with
  | ok obj =>
    cases request with
    | get id => exact ⟨hchanges.trans h.1, h.2.append _⟩
    | create _ | patch _ _ | remove _ =>
      obtain ⟨change, hchange, hasks, hseen⟩ := h
      exact ⟨change, hchanges.trans hchange, hasks, hseen.append _⟩
  | noContent =>
    obtain ⟨id, hrequest, hchange⟩ := h
    exact ⟨id, hrequest, hchanges.trans hchange⟩
  | notFound =>
    obtain ⟨hnone, id, hseen, hrequest⟩ := h
    exact ⟨hchanges.trans hnone, id, hseen.append _, hrequest⟩
  | failed e =>
    cases e with
    | recordNotFound => exact Misses.append hne h
    | refused => exact hchanges.trans h
    | notRefreshed =>
      rcases h with hmisses | ⟨change, hchange, hasks, hdeleted⟩
      · exact .inl (hmisses.append hne)
      · exact .inr ⟨change, hchanges.trans hchange, hasks, hdeleted.append _⟩
  | serverError => exact ⟨hchanges.trans h.1, h.2⟩

/-- What is known of a request stays true while others make their steps. -/
theorem Progress.append (hne : i ≠ j) (hlen : cs.length ≤ 1) (hle : nextId ≤ nextId')
    (hfresh : t.Fresh nextId cs) {request : CrudRequest Row Id} {phase : CrudPhase Row Id}
    (h : t.Progress rows₀ commits nextId j request phase) :
    t.Progress rows₀ (commits ++ cs.map fun c => (i, c)) nextId' j request phase := by
  have hchanges : changesOf j (commits ++ cs.map fun c => (i, c)) = changesOf j commits := by
    rw [changesOf_append, changesOf_of_ne hne, List.append_nil]
  have hissued {id : Id} (h : t.Issued nextId id) : t.Issued nextId' id := fun n hn =>
    h n (Nat.le_trans hle hn)
  cases phase with
  | started => exact hchanges.trans h
  | looked | found =>
    obtain ⟨hnone, id, updateData, hrequest, hid, hthere⟩ := h
    refine ⟨hchanges.trans hnone, id, updateData, hrequest, hissued hid, ?_⟩
    rcases hthere with hrow | hdeleted
    · rcases replay_ne_none_or (i := i) hlen hrow with hrow | rfl
      · exact .inl hrow
      · exact .inr ⟨i, hne, List.mem_append_right _ (List.mem_singleton.2 rfl)⟩
    · exact .inr (hdeleted.append _)
  | written id =>
    rcases h with ⟨change, hchange, hasks, rfl, hrow | hdeleted⟩ | ⟨hmisses, hid, hrow⟩
    · refine .inl ⟨change, hchanges.trans hchange, hasks, rfl, ?_⟩
      rcases replay_ne_none_or (i := i) hlen hrow with hrow | rfl
      · exact .inl hrow
      · exact .inr (.of_delete hne hchange)
    · exact .inl ⟨change, hchanges.trans hchange, hasks, rfl, .inr (hdeleted.append _)⟩
    · exact .inr ⟨hmisses.append hne, hissued hid, replay_eq_none hlen hfresh hid hrow⟩
  | refreshed obj =>
    obtain ⟨change, hchange, hasks, hseen⟩ := h
    exact ⟨change, hchanges.trans hchange, hasks, hseen.append _⟩
  | removed =>
    obtain ⟨id, hrequest, hchange⟩ := h
    exact ⟨id, hrequest, hchanges.trans hchange⟩
  | done answer => exact Tells.append hne h

end Others

/-! ### The step of a request -/

section Turn

variable {nextId : ℕ} {rows₀ : List Row}

/-- The statement of a request is committed, its entry in the change log is not. -/
def Pending : CrudPhase Row Id → Prop
  | .written _ | .refreshed _ | .removed => True
  | _ => False

/-- The table between two steps: what the commits have made of it, and which ids are given. -/
structure Current (t : CrudTable Row Id) (rows₀ : List Row)
    (commits : List (ℕ × CrudCommit Row Id)) (rows : List Row) (nextId : ℕ) : Prop where
  replayed : t.find rows = t.replay rows₀ commits
  accepted : t.accepts rows = true
  issued : ∀ r ∈ rows, t.Issued nextId (t.idOf r)

/-- What a step of a request does. -/
structure TurnSpec (t : CrudTable Row Id) (rows₀ : List Row)
    (commits : List (ℕ × CrudCommit Row Id)) (nextId i : ℕ) (session : CrudSession Row Id)
    (turn : CrudTurn Row Id) : Prop where
  replayed : t.find turn.rows = t.replay rows₀ (commits ++ turn.commits.map fun c => (i, c))
  accepted : t.accepts turn.rows = true
  issued : ∀ r ∈ turn.rows, t.Issued turn.nextId (t.idOf r)
  length_le : turn.commits.length ≤ 1
  nextId_le : nextId ≤ turn.nextId
  fresh : t.Fresh nextId turn.commits
  progress : t.Progress rows₀ (commits ++ turn.commits.map fun c => (i, c)) turn.nextId i
    session.request turn.phase
  pending : ∀ past change, commits ++ (turn.commits.map fun c => (i, c)) =
    past ++ [(i, .changed change)] → (commits = past ++ [(i, .changed change)] →
      Pending session.phase) → Pending turn.phase

/-- A step without a commit. -/
theorem TurnSpec.quiet {session : CrudSession Row Id} {phase : CrudPhase Row Id} {nextId' : ℕ}
    (hnow : t.Current rows₀ commits rows nextId) (hle : nextId ≤ nextId')
    (hprogress : t.Progress rows₀ commits nextId' i session.request phase)
    (hpending : Pending session.phase → (∃ past change, commits = past ++ [(i, .changed change)]) →
      Pending phase) : TurnSpec t rows₀ commits nextId i session ⟨rows, nextId', phase, []⟩ where
  replayed := by simpa using hnow.replayed
  accepted := hnow.accepted
  issued r hr n hn := hnow.issued r hr n (Nat.le_trans hle hn)
  length_le := Nat.zero_le _
  nextId_le := hle
  fresh row hrow := by cases hrow
  progress := by simpa using hprogress
  pending past change hlast hses := by
    rw [List.map_nil, List.append_nil] at hlast
    exact hpending (hses hlast) ⟨past, change, hlast⟩

/-- A step that commits a statement. -/
theorem TurnSpec.change {session : CrudSession Row Id} {phase : CrudPhase Row Id} {nextId' : ℕ}
    {rows' : List Row} {change : CrudChange Row Id} (hnow : t.Current rows₀ commits rows nextId)
    (hfind : t.find rows' = t.apply (t.find rows) change) (haccepted : t.accepts rows' = true)
    (hissued : ∀ r ∈ rows', t.Issued nextId' (t.idOf r)) (hle : nextId ≤ nextId')
    (hfresh : t.Fresh nextId [.changed change])
    (hprogress : t.Progress rows₀ (commits ++ [(i, .changed change)]) nextId' i session.request
      phase) (hpending : Pending phase) :
    TurnSpec t rows₀ commits nextId i session ⟨rows', nextId', phase, [.changed change]⟩ where
  replayed := by
    rw [List.map_singleton, replay_append, ← hnow.replayed, hfind]
    rfl
  accepted := haccepted
  issued := hissued
  length_le := Nat.le_refl _
  nextId_le := hle
  fresh := hfresh
  progress := hprogress
  pending _ _ _ _ := hpending

/-- A step that commits the entry in the change log. -/
theorem TurnSpec.log {session : CrudSession Row Id} {answer : CrudAnswer Row}
    (hnow : t.Current rows₀ commits rows nextId)
    (htells : t.Tells rows₀ (commits ++ [(i, .logged)]) i session.request answer) :
    TurnSpec t rows₀ commits nextId i session ⟨rows, nextId, .done answer, [.logged]⟩ where
  replayed := by
    rw [List.map_singleton, replay_append, ← hnow.replayed]
    rfl
  accepted := hnow.accepted
  issued := hnow.issued
  length_le := Nat.le_refl _
  nextId_le := Nat.le_refl _
  fresh row hrow := by simp at hrow
  progress := htells
  pending past change hlast _ := by
    rw [List.map_singleton] at hlast
    have hlogged := (List.append_inj' hlast rfl).2
    simp at hlogged

namespace Current

variable {request : CrudRequest Row Id} {next : CrudTurn Row Id}

theorem issued_of_find (hnow : t.Current rows₀ commits rows nextId)
    (h : (t.find rows id).isSome) : t.Issued nextId id := by
  obtain ⟨r, hr⟩ := Option.isSome_iff_exists.1 h
  obtain ⟨hmem, rfl⟩ := find_mem hr
  exact hnow.issued r hmem

theorem seen (hnow : t.Current rows₀ commits rows nextId) :
    t.Seen rows₀ commits id (t.find rows id) :=
  ⟨commits, List.prefix_rfl, by rw [hnow.replayed]⟩

theorem gone (hnow : t.Current rows₀ commits rows nextId) (hfind : t.find rows id = none) :
    t.replay rows₀ commits id = none :=
  hnow.replayed ▸ hfind

theorem replay_changed (hnow : t.Current rows₀ commits rows nextId)
    (change : CrudChange Row Id) : t.replay rows₀ (commits ++ [(i, .changed change)]) =
      t.apply (t.find rows) change := by
  rw [replay_append, hnow.replayed]
  rfl

/-- A step without a commit, of a request that has committed nothing. -/
theorem quiet {phase phase' : CrudPhase Row Id} {nextId' : ℕ}
    (hnow : t.Current rows₀ commits rows nextId) (hle : nextId ≤ nextId')
    (hnot : ¬ Pending phase) (hphase : t.Progress rows₀ commits nextId' i request phase') :
    TurnSpec t rows₀ commits nextId i ⟨request, phase⟩ ⟨rows, nextId', phase', []⟩ :=
  .quiet hnow hle hphase fun hpending _ => absurd hpending hnot

theorem turn_get (hnow : t.Current rows₀ commits rows nextId) (hnone : changesOf i commits = [])
    (h : t.turn rows nextId ⟨.get id, .started⟩ = some next) :
    TurnSpec t rows₀ commits nextId i ⟨.get id, .started⟩ next := by
  simp only [turn, Option.some.injEq] at h
  split_ifs at h with hrange
  · split at h <;> rename_i hfind <;> subst h
    · exact hnow.quiet (Nat.le_refl _) (fun h => h) ⟨hnone, hfind ▸ hnow.seen⟩
    · exact hnow.quiet (Nat.le_refl _) (fun h => h) ⟨hnone, _, hfind ▸ hnow.seen, .inl rfl⟩
  · subst h
    exact hnow.quiet (Nat.le_refl _) (fun h => h)
      ⟨hnone, id, Bool.eq_false_iff.2 hrange, .inl rfl⟩

theorem turn_create (hnow : t.Current rows₀ commits rows nextId)
    (hnone : changesOf i commits = []) {newObj : Option Row}
    (h : t.turn rows nextId ⟨.create newObj, .started⟩ = some next) :
    TurnSpec t rows₀ commits nextId i ⟨.create newObj, .started⟩ next := by
  cases newObj with
  | none =>
    simp only [turn, Option.some.injEq] at h
    subst h
    exact hnow.quiet (Nat.le_refl _) (fun h => h) hnone
  | some newObj =>
    simp only [turn, Option.some.injEq] at h
    split_ifs at h with haccepts <;> subst h
    · replace haccepts := (Bool.and_eq_true_iff.1 haccepts).2
      have hfind := find_append (of_decide_eq_true (Bool.and_eq_true_iff.1 haccepts).1)
      refine .change hnow hfind haccepts (fun r hr n hn => ?_) (Nat.le_succ _)
        (fun row hrow => ?_) (.inl ⟨_, changesOf_self hnone, ⟨newObj, rfl, nextId, rfl⟩,
          t.idOf_setId _ _, .inl ?_⟩) trivial
      · rcases List.mem_append.1 hr with hr | hr
        · exact hnow.issued r hr n (Nat.le_of_succ_le hn)
        · rw [List.mem_singleton.1 hr, t.idOf_setId]
          exact fun heq => absurd (t.serial_injective heq) (by omega)
      · cases List.mem_singleton.1 hrow
        exact ⟨nextId, Nat.le_refl _, t.idOf_setId _ _⟩
      · rw [hnow.replay_changed, apply, t.idOf_setId, Function.update_self]
        exact Option.some_ne_none _
    · exact hnow.quiet (Nat.le_succ _) (fun h => h) hnone

theorem turn_patch (hnow : t.Current rows₀ commits rows nextId) (hnone : changesOf i commits = [])
    {updateData : Row → Row} (h : t.turn rows nextId ⟨.patch id updateData, .started⟩ = some next) :
    TurnSpec t rows₀ commits nextId i ⟨.patch id updateData, .started⟩ next := by
  simp only [turn, Option.some.injEq] at h
  split_ifs at h with hrange hfound <;> subst h
  · refine hnow.quiet (Nat.le_refl _) (fun h => h)
      ⟨hnone, id, updateData, rfl, hnow.issued_of_find hfound, .inl ?_⟩
    rw [← hnow.replayed]
    exact Option.isSome_iff_ne_none.1 hfound
  · have hfind : t.find rows id = none := by simpa using hfound
    exact hnow.quiet (Nat.le_refl _) (fun h => h) ⟨hnone, id, hfind ▸ hnow.seen, .inr ⟨_, rfl⟩⟩
  · exact hnow.quiet (Nat.le_refl _) (fun h => h)
      ⟨hnone, id, Bool.eq_false_iff.2 hrange, .inr ⟨_, rfl⟩⟩

theorem turn_remove (hnow : t.Current rows₀ commits rows nextId) (hnone : changesOf i commits = [])
    (h : t.turn rows nextId ⟨.remove id, .started⟩ = some next) :
    TurnSpec t rows₀ commits nextId i ⟨.remove id, .started⟩ next := by
  obtain ⟨hnd, hconstraints⟩ := Bool.and_eq_true_iff.1 hnow.accepted
  simp only [turn, Option.some.injEq] at h
  split_ifs at h <;> subst h
  · refine .change hnow (find_filter id) ?_
      (fun r hr => hnow.issued r (List.mem_filter.1 hr).1) (Nat.le_refl _) (fun row hrow => ?_)
      ⟨id, rfl, changesOf_self hnone⟩ trivial
    · rw [accepts, t.constraints_filter _ _ hconstraints, Bool.and_true]
      exact decide_eq_true ((of_decide_eq_true hnd).sublist (List.filter_sublist.map _))
    · simp at hrow
  · exact hnow.quiet (Nat.le_refl _) (fun h => h) hnone

theorem turn_looked (hnow : t.Current rows₀ commits rows nextId)
    (hprogress : t.Progress rows₀ commits nextId i request .looked)
    (h : t.turn rows nextId ⟨request, .looked⟩ = some next) :
    TurnSpec t rows₀ commits nextId i ⟨request, .looked⟩ next := by
  obtain ⟨hnone, id, updateData, hrequest, hid, hthere⟩ := hprogress
  obtain rfl : request = .patch id updateData := hrequest
  simp only [turn, Option.some.injEq] at h
  split_ifs at h with hfound <;> subst h
  · exact hnow.quiet (Nat.le_refl _) (fun h => h) ⟨hnone, id, updateData, rfl, hid, hthere⟩
  · have hgone := hnow.gone (by simpa using hfound)
    exact hnow.quiet (Nat.le_refl _) (fun h => h)
      ⟨hnone, id, updateData, rfl, hthere.resolve_left fun hrow => hrow hgone⟩

theorem turn_found (hnow : t.Current rows₀ commits rows nextId)
    (hprogress : t.Progress rows₀ commits nextId i request .found)
    (h : t.turn rows nextId ⟨request, .found⟩ = some next) :
    TurnSpec t rows₀ commits nextId i ⟨request, .found⟩ next := by
  obtain ⟨hnone, id, updateData, hrequest, hid, hthere⟩ := hprogress
  obtain rfl : request = .patch id updateData := hrequest
  simp only [turn, Option.some.injEq] at h
  split_ifs at h with hfound haccepts <;> subst h
  · have hgone := hnow.gone (by simpa using hfound)
    have hdeleted : DeletedByOther commits i id := hthere.resolve_left fun hrow => hrow hgone
    exact hnow.quiet (Nat.le_refl _) (fun h => h)
      (.inr ⟨⟨hnone, id, updateData, rfl, hdeleted⟩, hid, hgone⟩)
  · refine .change hnow (find_map id updateData) haccepts (fun r hr => ?_) (Nat.le_refl _)
      (fun row hrow => ?_) (.inl ⟨_, changesOf_self hnone, rfl, rfl, .inl ?_⟩) trivial
    · obtain ⟨r', hr', rfl⟩ := List.mem_map.1 hr
      split_ifs with hr'id
      · rw [t.idOf_setId]
        exact hid
      · exact hnow.issued r' hr'
    · simp at hrow
    · rw [hnow.replay_changed, apply, Function.update_self]
      simpa using hfound
  · exact hnow.quiet (Nat.le_refl _) (fun h => h) hnone

theorem turn_written (hnow : t.Current rows₀ commits rows nextId)
    (hprogress : t.Progress rows₀ commits nextId i request (.written id))
    (h : t.turn rows nextId ⟨request, .written id⟩ = some next) :
    TurnSpec t rows₀ commits nextId i ⟨request, .written id⟩ next := by
  simp only [turn, Option.some.injEq] at h
  split at h <;> rename_i hfind <;> subst h
  · refine .quiet hnow (Nat.le_refl _) ?_ fun _ _ => trivial
    rcases hprogress with ⟨change, hchange, hasks, rfl, -⟩ | ⟨-, -, hrow⟩
    · exact ⟨change, hchange, hasks, commits, List.prefix_rfl, mem_of_changesOf hchange,
        hnow.replayed ▸ hfind⟩
    · rw [← hnow.replayed, hfind] at hrow
      cases hrow
  · have hgone := hnow.gone hfind
    refine .quiet hnow (Nat.le_refl _) ?_ ?_
    · rcases hprogress with ⟨change, hchange, hasks, rfl, hrow | hdeleted⟩ | ⟨hmisses, -⟩
      · exact absurd hgone hrow
      · exact .inr ⟨change, hchange, hasks, hdeleted⟩
      · exact .inl hmisses
    · -- the change of this request is not the last one
      rintro - ⟨past, change', hlast⟩
      rcases hprogress with ⟨change, hchange, -, rfl, hrow | hdeleted⟩ | ⟨⟨hnone, -⟩, -⟩
      · exact absurd hgone hrow
      · exact absurd hlast (hdeleted.last_ne hchange past)
      · exact absurd hlast (ne_of_changesOf_nil hnone past)

/-- **Each step of a request** keeps what is known of it and of the table. -/
theorem turn_spec {session : CrudSession Row Id} (hnow : t.Current rows₀ commits rows nextId)
    (hprogress : t.Progress rows₀ commits nextId i session.request session.phase)
    (h : t.turn rows nextId session = some next) :
    TurnSpec t rows₀ commits nextId i session next := by
  obtain ⟨request, phase⟩ := session
  cases phase with
  | started =>
    cases request with
    | get id => exact hnow.turn_get hprogress h
    | create newObj => exact hnow.turn_create hprogress h
    | patch id updateData => exact hnow.turn_patch hprogress h
    | remove id => exact hnow.turn_remove hprogress h
  | looked => exact hnow.turn_looked hprogress h
  | found => exact hnow.turn_found hprogress h
  | written id => exact hnow.turn_written hprogress h
  | refreshed obj =>
    obtain ⟨change, hchange, hasks, hseen⟩ := hprogress
    simp only [turn, Option.some.injEq] at h
    subst h
    refine .log hnow ?_
    cases request with
    | get id => exact hasks.elim
    | create _ | patch _ _ | remove _ =>
      exact ⟨change, changesOf_logged hchange, hasks, hseen.append _⟩
  | removed =>
    obtain ⟨id, hrequest, hchange⟩ := hprogress
    simp only [turn, Option.some.injEq] at h
    subst h
    exact .log hnow ⟨id, hrequest, changesOf_logged hchange⟩
  | done answer => simp [turn] at h

end Current

end Turn

/-! ### Runs -/

section Run

variable {rows₀ : List Row} {s s' : CrudState Row Id}

/-- What holds at every moment. -/
structure Inv (t : CrudTable Row Id) (rows₀ : List Row) (s : CrudState Row Id) : Prop where
  replayed : t.find s.rows = t.replay rows₀ s.commits
  accepted : t.accepts s.rows = true
  issued : ∀ r ∈ s.rows, t.Issued s.nextId (t.idOf r)
  numbered : ∀ c ∈ s.commits, c.1 < s.sessions.length
  progress : ∀ (i : ℕ) request phase, s.sessions[i]? = some ⟨request, phase⟩ →
    t.Progress rows₀ s.commits s.nextId i request phase
  pending : ∀ past i change, s.commits = past ++ [(i, .changed change)] →
    ∃ session, s.sessions[i]? = some session ∧ Pending session.phase

theorem Inv.request (h : Inv t rows₀ s) (r : CrudRequest Row Id) :
    Inv t rows₀ { s with sessions := s.sessions ++ [⟨r, .started⟩] } where
  replayed := h.replayed
  accepted := h.accepted
  issued := h.issued
  numbered c hc := by
    rw [List.length_append]
    exact Nat.lt_add_right _ (h.numbered c hc)
  progress i request phase hi := by
    rcases Nat.lt_trichotomy i s.sessions.length with hlt | rfl | hgt
    · rw [List.getElem?_append_left hlt] at hi
      exact h.progress i request phase hi
    · -- the new request has no commits
      rw [List.getElem?_append_right (Nat.le_refl _), Nat.sub_self] at hi
      cases hi
      refine List.filterMap_eq_nil_iff.2 fun c hc => ?_
      have hne : c.1 ≠ s.sessions.length := Nat.ne_of_lt (h.numbered c hc)
      obtain ⟨j, change | _⟩ := c
      · exact if_neg hne
      · rfl
    · have hnone : (s.sessions ++ [⟨r, .started⟩])[i]? = none :=
        List.getElem?_eq_none (by rw [List.length_append]; exact hgt)
      simp only at hi
      rw [hnone] at hi
      cases hi
  pending past i change hlast := by
    obtain ⟨session, hsession, hpending⟩ := h.pending past i change hlast
    exact ⟨session, List.getElem?_append_left (List.getElem?_eq_some_iff.1 hsession).1 ▸ hsession,
      hpending⟩

theorem Inv.step (h : Inv t rows₀ s) {i : ℕ} {session : CrudSession Row Id}
    {next : CrudTurn Row Id} (hi : s.sessions[i]? = some session)
    (hnext : t.turn s.rows s.nextId session = some next) :
    Inv t rows₀ (after s i session next) := by
  obtain ⟨hlt, -⟩ := List.getElem?_eq_some_iff.1 hi
  have hnow : t.Current rows₀ s.commits s.rows s.nextId := ⟨h.replayed, h.accepted, h.issued⟩
  have hspec := hnow.turn_spec (h.progress i _ _ hi) hnext
  refine ⟨hspec.replayed, hspec.accepted, hspec.issued, fun c hc => ?_,
    fun j request phase hj => ?_, fun past j change hlast => ?_⟩
  · rw [after, List.length_set]
    rcases List.mem_append.1 hc with hc | hc
    · exact h.numbered c hc
    · obtain ⟨c', -, rfl⟩ := List.mem_map.1 hc
      exact hlt
  · by_cases hij : i = j
    · subst hij
      rw [after, List.getElem?_set_self hlt] at hj
      cases hj
      exact hspec.progress
    · rw [after, List.getElem?_set_ne hij] at hj
      exact (h.progress j request phase hj).append hij hspec.length_le hspec.nextId_le hspec.fresh
  · by_cases hij : i = j
    · subst hij
      refine ⟨_, List.getElem?_set_self hlt, hspec.pending past change hlast fun hlast' => ?_⟩
      obtain ⟨session', hsession', hpending⟩ := h.pending past i change hlast'
      cases hi.symm.trans hsession'
      exact hpending
    · -- the last commit is of another request, so this step commits nothing
      have hnil : next.commits = [] := by
        by_contra hne
        obtain ⟨cs, c, hcs⟩ := (List.eq_nil_or_concat' _).resolve_left hne
        have hlast' : s.commits ++ (next.commits.map fun c => (i, c)) =
          past ++ [(j, .changed change)] := hlast
        rw [hcs, List.map_append, ← List.append_assoc] at hlast'
        have heq := (List.append_inj' hlast' rfl).2
        simp only [List.map_cons, List.map_nil, List.cons.injEq, Prod.mk.injEq] at heq
        exact hij heq.1.1
      have hlast' : s.commits = past ++ [(j, .changed change)] := by
        simpa [after, hnil] using hlast
      obtain ⟨session', hsession', hpending⟩ := h.pending past j change hlast'
      exact ⟨session', (List.getElem?_set_ne hij).trans hsession', hpending⟩

theorem Inv.run (h : Inv t rows₀ s) {as : List (CrudAction Row Id)}
    (hrun : t.machine.run s as = some s') : Inv t rows₀ s' := by
  refine Machine.invariant h (fun s a s' h hstep => ?_) hrun
  cases a with
  | request r =>
    cases hstep
    exact h.request r
  | step i =>
    simp only [machine, Option.bind_eq_bind, Option.bind_eq_some_iff] at hstep
    obtain ⟨session, hi, next, hnext, hstep⟩ := hstep
    cases hstep
    exact h.step hi hnext

end Run

/-! ### Invariants of the rows -/

/-- The rows that a request makes have a property. -/
def Keeps (t : CrudTable Row Id) (P : Row → Prop) : CrudRequest Row Id → Prop
  | .create newObj => ∀ row ∈ newObj, ∀ id, P (t.setId id row)
  | .patch id updateData => ∀ r, P r → P (t.setId id (updateData r))
  | _ => True

theorem rows_turn {P : Row → Prop} {rows : List Row} {nextId : ℕ} {session : CrudSession Row Id}
    {next : CrudTurn Row Id} (hrows : ∀ r ∈ rows, P r) (hkeeps : t.Keeps P session.request)
    (h : t.turn rows nextId session = some next) : ∀ r ∈ next.rows, P r := by
  obtain ⟨request, phase⟩ := session
  cases phase with
  | started =>
    cases request with
    | get id =>
      simp only [turn, Option.some.injEq] at h
      split_ifs at h
      · split at h <;> subst h <;> exact hrows
      · subst h
        exact hrows
    | create newObj =>
      cases newObj with
      | none =>
        simp only [turn, Option.some.injEq] at h
        subst h
        exact hrows
      | some newObj =>
        simp only [turn, Option.some.injEq] at h
        split_ifs at h <;> subst h
        · intro r hr
          rcases List.mem_append.1 hr with hr | hr
          · exact hrows r hr
          · rw [List.mem_singleton.1 hr]
            exact hkeeps newObj rfl _
        · exact hrows
    | patch id updateData =>
      simp only [turn, Option.some.injEq] at h
      split_ifs at h <;> subst h <;> exact hrows
    | remove id =>
      simp only [turn, Option.some.injEq] at h
      split_ifs at h <;> subst h
      · exact fun r hr => hrows r (List.mem_filter.1 hr).1
      · exact hrows
  | looked =>
    cases request with
    | patch id updateData =>
      simp only [turn, Option.some.injEq] at h
      split_ifs at h <;> subst h <;> exact hrows
    | get _ | create _ | remove _ => simp [turn] at h
  | found =>
    cases request with
    | patch id updateData =>
      simp only [turn, Option.some.injEq] at h
      split_ifs at h <;> subst h
      · exact hrows
      · intro r hr
        obtain ⟨r', hr', rfl⟩ := List.mem_map.1 hr
        split_ifs
        · exact hkeeps r' (hrows r' hr')
        · exact hrows r' hr'
      · exact hrows
    | get _ | create _ | remove _ => simp [turn] at h
  | written id =>
    simp only [turn, Option.some.injEq] at h
    split at h <;> subst h <;> exact hrows
  | refreshed _ | removed =>
    simp only [turn, Option.some.injEq] at h
    subst h
    exact hrows
  | done _ => simp [turn] at h

/-- **Invariants of the rows.**  A property of the rows that every request of a run keeps holds of
them after the run. -/
theorem rows_run {P : Row → Prop} {s s' : CrudState Row Id} (hrows : ∀ r ∈ s.rows, P r)
    (hsessions : s.sessions = []) {as : List (CrudAction Row Id)}
    (hkeeps : ∀ r, .request r ∈ as → t.Keeps P r) (hrun : t.machine.run s as = some s') :
    ∀ r ∈ s'.rows, P r := by
  have hok : t.machine.Guarded (fun _ a => ∀ r, a = .request r → t.Keeps P r) s as :=
    Machine.guarded_of_forall fun a ha _ r hr => hkeeps r (hr ▸ ha)
  have h : (∀ r ∈ s'.rows, P r) ∧ ∀ session ∈ s'.sessions, t.Keeps P session.request := by
    refine Machine.guarded_invariant (I := fun s => (∀ r ∈ s.rows, P r) ∧
      ∀ session ∈ s.sessions, t.Keeps P session.request) ⟨hrows, by simp [hsessions]⟩ ?_ hok hrun
    rintro s a s' ⟨hrows, hsessions⟩ hkeep hstep
    cases a with
    | request r =>
      cases hstep
      refine ⟨hrows, fun session hsession => ?_⟩
      rcases List.mem_append.1 hsession with hsession | hsession
      · exact hsessions session hsession
      · rw [List.mem_singleton.1 hsession]
        exact hkeep r rfl
    | step i =>
      simp only [machine, Option.bind_eq_bind, Option.bind_eq_some_iff] at hstep
      obtain ⟨session, hi, next, hnext, hstep⟩ := hstep
      cases hstep
      have hkeep := hsessions session (List.mem_of_getElem? hi)
      refine ⟨rows_turn hrows hkeep hnext, fun session' hsession' => ?_⟩
      rcases List.mem_or_eq_of_mem_set hsession' with hold | rfl
      · exact hsessions session' hold
      · exact hkeep
  exact h.1

variable (t) in
/-- A table that the database accepts, with a sequence that is past its rows. -/
structure Start (s : CrudState Row Id) : Prop where
  accepted : t.accepts s.rows = true
  issued : ∀ r ∈ s.rows, t.Issued s.nextId (t.idOf r)
  sessions : s.sessions = []
  commits : s.commits = []

/-- **Concurrent requests take effect one after the other.**  In every run, whatever the order of
the steps of the requests, the table is what their statements make of it in the order of the
commits; a request commits at most one statement, and its answer tells whether it did; and when all
requests are answered, every change is followed by an entry in the change log. -/
theorem linearized_run {s₀ s : CrudState Row Id} (h₀ : t.Start s₀) {as : List (CrudAction Row Id)}
    (hrun : t.machine.run s₀ as = some s) : t.Linearized s₀.rows s := by
  have hstart : Inv t s₀.rows s₀ := by
    refine ⟨?_, h₀.accepted, h₀.issued, ?_, ?_, ?_⟩ <;> simp [h₀.sessions, h₀.commits, replay]
  have h := hstart.run hrun
  refine ⟨h.replayed, h.accepted, fun i request answer hi => h.progress i request _ hi, ?_⟩
  intro hdone past i change later hsplit
  have hne : s.commits ≠ [] := by simp [hsplit]
  obtain ⟨cs, ⟨j, c⟩, hlast⟩ := (List.eq_nil_or_concat' _).resolve_left hne
  cases c with
  | changed change' =>
    obtain ⟨session, hsession, hpending⟩ := h.pending cs j change' hlast
    obtain ⟨answer, hanswer⟩ := hdone session (List.mem_of_getElem? hsession)
    rw [hanswer] at hpending
    exact hpending.elim
  | logged =>
    refine ⟨j, ?_⟩
    have hget : s.commits.getLast? = some (j, .logged) := by rw [hlast]; simp
    rw [hsplit, List.getLast?_append_cons] at hget
    rcases List.mem_cons.1 (List.mem_of_getLast? hget) with heq | hmem
    · cases heq
    · exact hmem

end CrudTable

end StormPiper
