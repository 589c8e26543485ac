import Mathlib.Data.List.Basic
import Mathlib.Logic.Function.Basic

/-!
# Transactions and steps that may fail

A program is a list of steps, each in one of several transactions.  A statement changes what its
transaction will commit, a commit makes this visible, and any step may raise: then the program
ends, and what is not committed is rolled back.  Which steps raise is a parameter (`fails`).

* `exec` : the database, the commits that were made and the step that raised.
* `db_exec` : in the end the database has the changes of the committed transactions.
* `together_iff` : a program makes both or none of two commits, and none if it fails, exactly if it
  does not fail after the first one.
-/

namespace StormPiper

variable {Db Name Work : Type}

/-- What a step does to its transaction. -/
inductive Effect (Db : Type) where
  /-- It reads, computes, or opens the transaction. -/
  | other
  | statement (f : Db → Db)
  | commit

/-- A step of a program, in the transaction `work`. -/
structure TxStep (Db Name Work : Type) where
  name : Name
  work : Work
  effect : Effect Db

/-- The committed database, and what the open transactions will do to it. -/
structure TxState (Db Work : Type) where
  committed : Db
  pending : Work → Db → Db

/-- How a program ends. -/
structure TxResult (Db Name Work : Type) where
  db : Db
  /-- The transactions that were committed, in order. -/
  commits : List Work
  /-- The step that raised. -/
  raised : Option Name

/-- No transaction is open. -/
def TxState.start (db : Db) : TxState Db Work := ⟨db, fun _ => id⟩

variable [DecidableEq Work]

/-- The state after a step that does not raise. -/
def TxState.after (st : TxState Db Work) (s : TxStep Db Name Work) : TxState Db Work :=
  match s.effect with
  | .other => st
  | .statement f => { st with pending := Function.update st.pending s.work (f ∘ st.pending s.work) }
  | .commit => ⟨st.pending s.work st.committed, Function.update st.pending s.work id⟩

/-- The commit that a step makes. -/
def TxStep.commits (s : TxStep Db Name Work) : List Work :=
  match s.effect with
  | .commit => [s.work]
  | _ => []

/-- The commits that a program makes if it does not fail. -/
def commitsOf (steps : List (TxStep Db Name Work)) : List Work := steps.flatMap (·.commits)

/-- Run a program. -/
def exec (fails : Name → Bool) :
    TxState Db Work → List (TxStep Db Name Work) → TxResult Db Name Work
  | st, [] => ⟨st.committed, [], none⟩
  | st, s :: steps =>
    if fails s.name then ⟨st.committed, [], some s.name⟩
    else
      let r := exec fails (st.after s) steps
      { r with commits := s.commits ++ r.commits }

/-- Every commit of a program, with these statements pending, makes the changes `total` of its
transaction. -/
def CommitsTotal (total : Work → Db → Db) : (Work → Db → Db) → List (TxStep Db Name Work) → Prop
  | _, [] => True
  | pending, s :: steps =>
    match s.effect with
    | .other => CommitsTotal total pending steps
    | .statement f =>
      CommitsTotal total (Function.update pending s.work (f ∘ pending s.work)) steps
    | .commit =>
      pending s.work = total s.work ∧ CommitsTotal total (Function.update pending s.work id) steps

/-- Both or none of two transactions are committed, and none if the program fails. -/
def Together (a b : Work) (r : TxResult Db Name Work) : Prop :=
  (a ∈ r.commits ↔ b ∈ r.commits) ∧ (r.raised.isSome → a ∉ r.commits ∧ b ∉ r.commits)

omit [DecidableEq Work] in
theorem together_comm {a b : Work} {r : TxResult Db Name Work} :
    Together a b r ↔ Together b a r := by
  simp only [Together, iff_comm (a := a ∈ r.commits), and_comm (a := a ∉ r.commits)]

section

variable {fails : Name → Bool} {steps : List (TxStep Db Name Work)} {st : TxState Db Work}

theorem exec_cons_of_fails {s : TxStep Db Name Work} (h : fails s.name = true) :
    exec fails st (s :: steps) = ⟨st.committed, [], some s.name⟩ := by
  rw [exec, if_pos h]

theorem exec_cons_of_ok {s : TxStep Db Name Work} (h : fails s.name = false) :
    exec fails st (s :: steps) =
      { exec fails (st.after s) steps with
        commits := s.commits ++ (exec fails (st.after s) steps).commits } := by
  rw [exec, if_neg (by simp [h])]

/-- A program raises exactly if some step does. -/
theorem raised_exec :
    (exec fails st steps).raised.isSome ↔ ∃ s ∈ steps, fails s.name = true := by
  induction steps generalizing st with
  | nil => simp [exec]
  | cons s steps ih =>
    cases hs : fails s.name with
    | true => simp [exec_cons_of_fails hs, hs]
    | false => simp [exec_cons_of_ok hs, hs, ih]

/-- A program that does not fail makes all its commits. -/
theorem commits_exec_of_forall (h : ∀ s ∈ steps, fails s.name = false) :
    (exec fails st steps).commits = commitsOf steps := by
  induction steps generalizing st with
  | nil => rfl
  | cons s steps ih =>
    rw [exec_cons_of_ok (h s List.mem_cons_self),
      ih fun x hx => h x (List.mem_cons_of_mem _ hx)]
    rfl

variable (st) in
/-- A program that fails in its first part, or in the step after it, makes at most the commits of
this part. -/
theorem commits_exec_subset_of_fails (pre : List (TxStep Db Name Work)) {c : TxStep Db Name Work}
    (post : List (TxStep Db Name Work)) (h : ∃ s ∈ pre ++ [c], fails s.name = true) :
    (exec fails st (pre ++ c :: post)).commits ⊆ commitsOf pre := by
  induction pre generalizing st with
  | nil =>
    obtain ⟨s, hs, hfail⟩ := h
    obtain rfl : s = c := by simpa using hs
    simp [exec_cons_of_fails hfail]
  | cons x pre ih =>
    rw [List.cons_append]
    cases hx : fails x.name with
    | true => simp [exec_cons_of_fails hx]
    | false =>
      obtain ⟨s, hs, hfail⟩ := h
      have h' : ∃ s ∈ pre ++ [c], fails s.name = true := by
        rcases List.mem_cons.1 hs with rfl | hs
        · rw [hx] at hfail
          cases hfail
        · exact ⟨s, hs, hfail⟩
      rw [exec_cons_of_ok hx, commitsOf, List.flatMap_cons]
      intro w hw
      rcases List.mem_append.1 hw with hw | hw
      · exact List.mem_append_left _ hw
      · exact List.mem_append_right _ (ih _ h' hw)

variable (st) in
/-- What is committed before a step that fails stays committed. -/
theorem subset_commits_exec {pre : List (TxStep Db Name Work)}
    (post : List (TxStep Db Name Work)) (h : ∀ s ∈ pre, fails s.name = false) :
    commitsOf pre ⊆ (exec fails st (pre ++ post)).commits := by
  induction pre generalizing st with
  | nil => simp [commitsOf]
  | cons x pre ih =>
    have ih := ih (st.after x) fun s hs => h s (List.mem_cons_of_mem _ hs)
    rw [List.cons_append, exec_cons_of_ok (h x List.mem_cons_self), commitsOf, List.flatMap_cons]
    intro w hw
    rcases List.mem_append.1 hw with hw | hw
    · exact List.mem_append_left _ hw
    · exact List.mem_append_right _ (ih hw)

/-- **In the end the database has the changes of the transactions that were committed.** -/
theorem db_exec {total : Work → Db → Db} (h : CommitsTotal total st.pending steps) :
    (exec fails st steps).db =
      (exec fails st steps).commits.foldl (fun db w => total w db) st.committed := by
  induction steps generalizing st with
  | nil => rfl
  | cons s steps ih =>
    cases hs : fails s.name with
    | true => rw [exec_cons_of_fails hs]; rfl
    | false =>
      rw [exec_cons_of_ok hs]
      cases heffect : s.effect with
      | other =>
        simp only [CommitsTotal, heffect] at h
        have hafter : st.after s = st := by simp only [TxState.after, heffect]
        simpa only [TxStep.commits, heffect, List.nil_append, hafter] using ih h
      | statement f =>
        simp only [CommitsTotal, heffect] at h
        have hafter : st.after s =
            { st with pending := Function.update st.pending s.work (f ∘ st.pending s.work) } := by
          simp only [TxState.after, heffect]
        rw [hafter, TxStep.commits, heffect]
        exact ih h
      | commit =>
        simp only [CommitsTotal, heffect] at h
        have hafter : st.after s =
            ⟨total s.work st.committed, Function.update st.pending s.work id⟩ := by
          simp only [TxState.after, heffect, h.1]
        rw [hafter, TxStep.commits, heffect]
        exact ih h.2

end

/-- **The exact condition.**  A program makes two commits together if and only if it does not fail,
or fails up to the first of them. -/
theorem together_iff {fails : Name → Bool} {pre post : List (TxStep Db Name Work)}
    {c : TxStep Db Name Work} {a b : Work} {st : TxState Db Work} (hc : c.commits = [a])
    (ha : a ∉ commitsOf pre) (hb : b ∉ commitsOf pre) (hpost : b ∈ commitsOf post) :
    Together a b (exec fails st (pre ++ c :: post)) ↔
      (∀ s ∈ pre ++ c :: post, fails s.name = false) ∨
        ∃ s ∈ pre ++ [c], fails s.name = true := by
  have hsplit : pre ++ c :: post = (pre ++ [c]) ++ post := by simp
  have hfirst : a ∈ commitsOf (pre ++ [c]) := by simp [commitsOf, hc]
  constructor
  · rintro ⟨-, hraised⟩
    by_contra hnot
    obtain ⟨hsome, hpre⟩ := not_or.1 hnot
    have hok : ∀ s ∈ pre ++ [c], fails s.name = false := fun s hs => by
      simpa using fun hfail => hpre ⟨s, hs, hfail⟩
    have hfail : ∃ s ∈ pre ++ c :: post, fails s.name = true := by
      by_contra hnone
      exact hsome fun s hs => by simpa using fun hfail => hnone ⟨s, hs, hfail⟩
    -- the first commit was made, and the program failed after it
    refine (hraised (raised_exec.2 hfail)).1 ?_
    rw [hsplit]
    exact subset_commits_exec st post hok hfirst
  · rintro (hok | hfail)
    · have hall : ∀ w, w ∈ commitsOf (pre ++ c :: post) →
          w ∈ (exec fails st (pre ++ c :: post)).commits := by
        rw [commits_exec_of_forall hok]
        exact fun _ => id
      have hmema : a ∈ commitsOf (pre ++ c :: post) := by simp [commitsOf, hc]
      have hmemb : b ∈ commitsOf (pre ++ c :: post) := by
        rw [commitsOf, List.flatMap_append, List.flatMap_cons]
        exact List.mem_append_right _ (List.mem_append_right _ hpost)
      refine ⟨iff_of_true (hall a hmema) (hall b hmemb), fun hraised => ?_⟩
      obtain ⟨s, hs, hfail⟩ := raised_exec.1 hraised
      rw [hok s hs] at hfail
      cases hfail
    · have hsub := commits_exec_subset_of_fails st pre post hfail
      have hnot : a ∉ (exec fails st (pre ++ c :: post)).commits ∧
          b ∉ (exec fails st (pre ++ c :: post)).commits :=
        ⟨fun h => ha (hsub h), fun h => hb (hsub h)⟩
      exact ⟨iff_of_false hnot.1 hnot.2, fun _ => hnot⟩

end StormPiper
