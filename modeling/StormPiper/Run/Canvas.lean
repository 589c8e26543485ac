import StormPiper.Run.Machine
import Mathlib.Algebra.Order.Group.Nat
import Mathlib.Logic.Relation

/-!
# Workflows of tasks

A *canvas* puts tasks one after the other (`seq`) and side by side (`par`).  A task is sent with the
results of the tasks before it and becomes a *job*; jobs that run side by side take their steps in
any order on a shared state, and other programs may change that state in between.  A job that ends
without a result keeps everything after it from being sent.

## Main definitions

* `Canvas T` : workflows over tasks `T`.
* `Jobs T V J W C` : the jobs `J` of tasks `T` with results `V`, their steps on a state `W` under
  choices `C`.
* `Jobs.machine` : the runs of a workflow, in every order of steps.
* `Jobs.Triple G P c Q` : sent with results and a state that satisfy `P`, the workflow `c` changes
  the state only by `G`, and `Q` holds of its results when it ends, if the others do so too.

## Main results

* `Jobs.Triple.run` : what a triple says holds in every run.
* `Jobs.all_run` : a property of single jobs that holds in a run.
* `Jobs.failed_run` : failures are passed on to the end.
* `Jobs.spends_run` : a workflow spends no more than the budgets of its tasks, and what a run
  supplies.
* `Jobs.Embeds.run_eq` : the runs under some of the choices.
* `Jobs.progress` : a workflow that cannot go on has ended, or one of its jobs has without result.
-/

namespace StormPiper

open Relation

/-- Tasks one after the other and side by side. -/
inductive Canvas (T : Type*) where
  | task (t : T)
  /-- The second workflow is sent with the results of the first. -/
  | seq (p q : Canvas T)
  /-- Both workflows are sent with the same results; theirs are listed together. -/
  | par (p q : Canvas T)
  deriving Repr, DecidableEq

namespace Canvas

variable {T : Type*}

/-- The number of results of the workflow. -/
def width : Canvas T → ℕ
  | task _ => 1
  | seq _ q => width q
  | par p q => width p + width q

/-- Several workflows side by side. -/
def group (p : Canvas T) : List (Canvas T) → Canvas T
  | [] => p
  | q :: qs => par p (group q qs)

/-- Several workflows one after the other. -/
def chain (p : Canvas T) : List (Canvas T) → Canvas T
  | [] => p
  | q :: qs => seq p (chain q qs)

/-- Every task of the workflow satisfies `P`. -/
def Forall (P : T → Prop) : Canvas T → Prop
  | task t => P t
  | seq p q | par p q => Forall P p ∧ Forall P q

instance Forall.decidable (P : T → Prop) [DecidablePred P] : ∀ c, Decidable (Forall P c)
  | task t => inferInstanceAs (Decidable (P t))
  | seq p q | par p q =>
    have := Forall.decidable P p
    have := Forall.decidable P q
    inferInstanceAs (Decidable (_ ∧ _))

end Canvas

/-- A workflow of which some tasks were sent. -/
inductive Proc (T J : Type*) where
  | job (j : J)
  /-- The second workflow is not sent yet. -/
  | seq (p : Proc T J) (q : Canvas T)
  | par (p q : Proc T J)
  deriving Repr, DecidableEq

/-- A side of two workflows that run together. -/
inductive Branch where
  | fst
  | snd
  deriving Repr, DecidableEq

/-- How tasks run. -/
structure Jobs (T V J W C : Type*) where
  /-- The job of a task that is sent with the results of the tasks before it. -/
  send : T → List V → J
  /-- A step of a job, `none` when it cannot be made. -/
  step : J → C → W → Option (J × W)
  /-- The result of a job that has ended with one. -/
  returned : J → Option V

namespace Jobs

variable {T V J W C E : Type*} (D : Jobs T V J W C)

/-- Send a workflow with the results of the tasks before it. -/
def start : Canvas T → List V → Proc T J
  | .task t, vs => .job (D.send t vs)
  | .seq p q, vs => .seq (start p vs) q
  | .par p q, vs => .par (start p vs) (start q vs)

/-- The results of a workflow that has ended. -/
def results : Proc T J → Option (List V)
  | .job j => (D.returned j).map fun v => [v]
  | .seq _ _ => none
  | .par p q => (results p).bind fun us => (results q).map fun vs => us ++ vs

/-- A step of the job at a place, or with `none` the sending of what comes next there. -/
def stepAt : Proc T J → List Branch → Option C → W → Option (Proc T J × W)
  | .job j, [], some c, w => (D.step j c w).map fun r => (.job r.1, r.2)
  | .job _, _, _, _ => none
  | .seq p q, path, a, w =>
    match D.results p with
    | some vs => if path.isEmpty && a.isNone then some (D.start q vs, w) else none
    | none => (stepAt p path a w).map fun r => (.seq r.1 q, r.2)
  | .par p q, .fst :: path, a, w => (stepAt p path a w).map fun r => (.par r.1 q, r.2)
  | .par p q, .snd :: path, a, w => (stepAt q path a w).map fun r => (.par p r.1, r.2)
  | .par _ _, [], _, _ => none

/-- What happens while a workflow runs. -/
inductive Action (C E : Type*) where
  /-- The workflow makes a step. -/
  | step (path : List Branch) (c : Option C)
  /-- Another program changes the state. -/
  | other (e : E)
  deriving Repr, DecidableEq

/-- The workflow makes a step. -/
def Action.isStep : Action C E → Bool
  | .step _ _ => true
  | .other _ => false

/-- The same with other choices. -/
def Action.map {C' : Type*} (f : C → C') : Action C E → Action C' E
  | .step path c => .step path (c.map f)
  | .other e => .other e

/-- The runs of a workflow, among the changes `env` that others make. -/
def machine (env : E → W → W) : Machine (Proc T J × W) (Action C E) where
  step s
    | .step path c => D.stepAt s.1 path c s.2
    | .other e => some (s.1, env e s.2)

/-- The jobs of a workflow that were sent and whose results were not passed on yet. -/
def jobs : Proc T J → List J
  | .job j => [j]
  | .seq p _ => jobs p
  | .par p q => jobs p ++ jobs q

/-- Every such job satisfies `I`, and every task that is not sent yet `P`. -/
def All (P : T → Prop) (I : J → Prop) : Proc T J → Prop
  | .job j => I j
  | .seq p q => All P I p ∧ q.Forall P
  | .par p q => All P I p ∧ All P I q

/-! ### Rules -/

/-- `A` holds of a job all along if it does when the job is sent: the steps of the others, which are
in `G`, keep it, its own steps keep it and are in `G`, and `Q` holds of its result. -/
structure Keeps (G : W → W → Prop) (A : J → W → Prop) (Q : List V → W → Prop) : Prop where
  stable : ∀ j w w', A j w → G w w' → A j w'
  step : ∀ j c w j' w', A j w → D.step j c w = some (j', w') → A j' w' ∧ G w w'
  returned : ∀ j v w, A j w → D.returned j = some v → Q [v] w

/-- The outline of a workflow. -/
def Triple (G : W → W → Prop) :
    (List V → W → Prop) → Canvas T → (List V → W → Prop) → Prop
  | P, .task t, Q => ∃ A, D.Keeps G A Q ∧ ∀ vs w, P vs w → A (D.send t vs) w
  | P, .seq p q, R => ∃ Q, Triple G P p Q ∧ Triple G Q q R
  | P, .par p q, S => ∃ Q R, Triple G P p Q ∧ Triple G P q R ∧
      ∀ us vs w, Q us w → R vs w → S (us ++ vs) w

/-- The outline of what is left of a workflow. -/
def Valid (G : W → W → Prop) : Proc T J → (List V → W → Prop) → W → Prop
  | .job j, Q, w => ∃ A, D.Keeps G A Q ∧ A j w
  | .seq p q, R, w => ∃ Q, Valid G p Q w ∧ D.Triple G Q q R
  | .par p q, S, w => ∃ Q R, Valid G p Q w ∧ Valid G q R w ∧
      ∀ us vs w, Q us w → R vs w → S (us ++ vs) w

variable {D} {G : W → W → Prop} {P Q R S : List V → W → Prop} {c p q : Canvas T}

theorem Keeps.weaken {A : J → W → Prop} (h : D.Keeps G A Q) (hQ : ∀ vs w, Q vs w → R vs w) :
    D.Keeps G A R :=
  ⟨h.stable, h.step, fun j v w hA hv => hQ _ _ (h.returned j v w hA hv)⟩

theorem Triple.seq (hp : D.Triple G P p Q) (hq : D.Triple G Q q R) : D.Triple G P (.seq p q) R :=
  ⟨Q, hp, hq⟩

theorem Triple.par (hp : D.Triple G P p Q) (hq : D.Triple G P q R)
    (hS : ∀ us vs w, Q us w → R vs w → S (us ++ vs) w) : D.Triple G P (.par p q) S :=
  ⟨Q, R, hp, hq, hS⟩

theorem Triple.weaken {Q' : List V → W → Prop} (h : D.Triple G P c Q)
    (hQ : ∀ vs w, Q vs w → Q' vs w) : D.Triple G P c Q' := by
  induction c generalizing P Q Q' with
  | task t =>
    obtain ⟨A, hA, hsend⟩ := h
    exact ⟨A, hA.weaken hQ, hsend⟩
  | seq p q _ ihq =>
    obtain ⟨R, hp, hq⟩ := h
    exact ⟨R, hp, ihq hq hQ⟩
  | par p q _ _ =>
    obtain ⟨R, R', hp, hq, hjoin⟩ := h
    exact ⟨R, R', hp, hq, fun us vs w hu hv => hQ _ _ (hjoin us vs w hu hv)⟩

/-- A workflow that is sent in a state in which its outline starts. -/
theorem Triple.start (h : D.Triple G P c Q) {vs : List V} {w : W} (hP : P vs w) :
    D.Valid G (D.start c vs) Q w := by
  induction c generalizing P Q with
  | task t =>
    obtain ⟨A, hA, hsend⟩ := h
    exact ⟨A, hA, hsend vs w hP⟩
  | seq p q ihp _ =>
    obtain ⟨R, hp, hq⟩ := h
    exact ⟨R, ihp hp hP, hq⟩
  | par p q ihp ihq =>
    obtain ⟨R, R', hp, hq, hjoin⟩ := h
    exact ⟨R, R', ihp hp hP, ihq hq hP, hjoin⟩

variable {pr pr' : Proc T J} {w w' : W}

/-- The steps of the others keep an outline. -/
theorem Valid.stable (h : D.Valid G pr Q w) (hG : G w w') : D.Valid G pr Q w' := by
  induction pr generalizing Q with
  | job j =>
    obtain ⟨A, hA, hj⟩ := h
    exact ⟨A, hA, hA.stable j w w' hj hG⟩
  | seq p q ih =>
    obtain ⟨R, hp, hq⟩ := h
    exact ⟨R, ih hp, hq⟩
  | par p q ihp ihq =>
    obtain ⟨R, R', hp, hq, hjoin⟩ := h
    exact ⟨R, R', ihp hp, ihq hq, hjoin⟩

theorem Valid.results (h : D.Valid G pr Q w) {vs : List V} (hvs : D.results pr = some vs) :
    Q vs w := by
  induction pr generalizing Q vs with
  | job j =>
    obtain ⟨A, hA, hj⟩ := h
    obtain ⟨v, hv, rfl⟩ := Option.map_eq_some_iff.1 hvs
    exact hA.returned j v w hj hv
  | seq p q ih => cases hvs
  | par p q ihp ihq =>
    obtain ⟨R, R', hp, hq, hjoin⟩ := h
    obtain ⟨us, hus, hvs⟩ := Option.bind_eq_some_iff.1 hvs
    obtain ⟨us', hus', rfl⟩ := Option.map_eq_some_iff.1 hvs
    exact hjoin _ _ _ (ihp hp hus) (ihq hq hus')

/-- What a step of a workflow in two parts can do. -/
theorem stepAt_seq {path : List Branch} {a : Option C}
    (h : D.stepAt (.seq pr q) path a w = some (pr', w')) :
    (∃ vs, D.results pr = some vs ∧ a = none ∧ pr' = D.start q vs ∧ w' = w) ∨
    (∃ r, D.results pr = none ∧ D.stepAt pr path a w = some (r, w') ∧ pr' = .seq r q) := by
  simp only [stepAt] at h
  cases hr : D.results pr with
  | none =>
    simp only [hr, Option.map_eq_some_iff, Prod.mk.injEq, Prod.exists] at h
    obtain ⟨r, w₁, hstep, rfl, rfl⟩ := h
    exact .inr ⟨r, rfl, hstep, rfl⟩
  | some vs =>
    simp only [hr, Bool.and_eq_true, List.isEmpty_iff, Option.isNone_iff_eq_none,
      Option.ite_none_right_eq_some, Option.some.injEq, Prod.mk.injEq] at h
    obtain ⟨⟨-, rfl⟩, rfl, rfl⟩ := h
    exact .inl ⟨vs, rfl, rfl, rfl, rfl⟩

/-- What a step of two workflows side by side can do. -/
theorem stepAt_par {p q : Proc T J} {path : List Branch} {a : Option C}
    (h : D.stepAt (.par p q) path a w = some (pr', w')) :
    (∃ path' r, D.stepAt p path' a w = some (r, w') ∧ pr' = .par r q) ∨
    (∃ path' r, D.stepAt q path' a w = some (r, w') ∧ pr' = .par p r) := by
  match path with
  | [] => cases h
  | .fst :: path' =>
    simp only [stepAt, Option.map_eq_some_iff, Prod.mk.injEq, Prod.exists] at h
    obtain ⟨r, w₁, hstep, rfl, rfl⟩ := h
    exact .inl ⟨path', r, hstep, rfl⟩
  | .snd :: path' =>
    simp only [stepAt, Option.map_eq_some_iff, Prod.mk.injEq, Prod.exists] at h
    obtain ⟨r, w₁, hstep, rfl, rfl⟩ := h
    exact .inr ⟨path', r, hstep, rfl⟩

theorem stepAt_job {j : J} {path : List Branch} {a : Option C}
    (h : D.stepAt (.job j : Proc T J) path a w = some (pr', w')) :
    ∃ c j', a = some c ∧ D.step j c w = some (j', w') ∧ pr' = .job j' := by
  match path, a with
  | [], some c =>
    simp only [stepAt, Option.map_eq_some_iff, Prod.mk.injEq, Prod.exists] at h
    obtain ⟨j', w₁, hstep, rfl, rfl⟩ := h
    exact ⟨c, j', rfl, hstep, rfl⟩
  | [], none => cases h
  | _ :: _, _ => cases h

/-- A step of a workflow keeps its outline, and a change of the state is one that the others
expect. -/
theorem Valid.stepAt {path : List Branch} {a : Option C} (h : D.Valid G pr Q w)
    (hstep : D.stepAt pr path a w = some (pr', w')) :
    D.Valid G pr' Q w' ∧ (w' = w ∨ G w w') := by
  induction pr generalizing Q pr' path a with
  | job j =>
    obtain ⟨A, hA, hj⟩ := h
    obtain ⟨c, j', rfl, hjob, rfl⟩ := stepAt_job hstep
    obtain ⟨hj', hG⟩ := hA.step j c w j' w' hj hjob
    exact ⟨⟨A, hA, hj'⟩, .inr hG⟩
  | seq p q ih =>
    obtain ⟨R, hp, hq⟩ := h
    rcases stepAt_seq hstep with ⟨vs, hvs, -, rfl, rfl⟩ | ⟨r, -, hr, rfl⟩
    · exact ⟨hq.start (hp.results hvs), .inl rfl⟩
    · obtain ⟨hr', hw⟩ := ih hp hr
      exact ⟨⟨R, hr', hq⟩, hw⟩
  | par p q ihp ihq =>
    obtain ⟨R, R', hp, hq, hjoin⟩ := h
    have hkeep : ∀ {r : Proc T J} {S}, D.Valid G r S w → (w' = w ∨ G w w') →
        D.Valid G r S w' := by
      rintro r S hr (rfl | hG)
      · exact hr
      · exact hr.stable hG
    rcases stepAt_par hstep with ⟨path', r, hr, rfl⟩ | ⟨path', r, hr, rfl⟩
    · obtain ⟨hr', hw⟩ := ihp hp hr
      exact ⟨⟨R, R', hr', hkeep hq hw, hjoin⟩, hw⟩
    · obtain ⟨hr', hw⟩ := ihq hq hr
      exact ⟨⟨R, R', hkeep hp hw, hr', hjoin⟩, hw⟩

/-- **Soundness of outlines.**  In every run of a workflow, whatever the order of the steps of its
jobs and of the others, what is left of the outline holds. -/
theorem Triple.run {env : E → W → W} (h : D.Triple G P c Q) (henv : ∀ e w, G w (env e w))
    {vs : List V} (hP : P vs w) {as : List (Action C E)}
    (hrun : (D.machine env).run (D.start c vs, w) as = some (pr, w')) :
    D.Valid G pr Q w' ∧ ReflTransGen G w w' := by
  refine Machine.invariant (I := fun s => D.Valid G s.1 Q s.2 ∧ ReflTransGen G w s.2)
    ⟨h.start hP, .refl⟩ ?_ hrun
  rintro ⟨p, u⟩ a ⟨p', u'⟩ ⟨hval, hG⟩ hstep
  cases a with
  | step path a =>
    obtain ⟨hval', rfl | hu⟩ := hval.stepAt hstep
    · exact ⟨hval', hG⟩
    · exact ⟨hval', hG.tail hu⟩
  | other e =>
    obtain ⟨rfl, rfl⟩ : p = p' ∧ env e u = u' := by simpa [machine] using hstep
    exact ⟨hval.stable (henv e u), hG.tail (henv e u)⟩

/-! ### Properties of single jobs -/

section Local

variable {P : T → Prop} {I : J → Prop} {R : V → Prop} {ok : C → Prop}

theorem All.jobs (h : All P I pr) : ∀ j ∈ jobs pr, I j := by
  induction pr with
  | job j => simpa [Jobs.jobs, All] using h
  | seq p q ih => exact ih h.1
  | par p q ihp ihq =>
    intro j hj
    exact (List.mem_append.1 hj).elim (ihp h.1 j) (ihq h.2 j)

theorem all_start (hsend : ∀ t vs, P t → (∀ v ∈ vs, R v) → I (D.send t vs)) (hc : c.Forall P)
    {vs : List V} (hvs : ∀ v ∈ vs, R v) : All P I (D.start c vs) := by
  induction c with
  | task t => exact hsend t vs hc hvs
  | seq p q ihp _ => exact ⟨ihp hc.1, hc.2⟩
  | par p q ihp ihq => exact ⟨ihp hc.1, ihq hc.2⟩

theorem All.results (hret : ∀ j v, I j → D.returned j = some v → R v) (h : All P I pr)
    {vs : List V} (hvs : D.results pr = some vs) : ∀ v ∈ vs, R v := by
  induction pr generalizing vs with
  | job j =>
    obtain ⟨v, hv, rfl⟩ := Option.map_eq_some_iff.1 hvs
    simpa using hret j v h hv
  | seq p q ih => cases hvs
  | par p q ihp ihq =>
    obtain ⟨us, hus, hvs⟩ := Option.bind_eq_some_iff.1 hvs
    obtain ⟨us', hus', rfl⟩ := Option.map_eq_some_iff.1 hvs
    intro v hv
    exact (List.mem_append.1 hv).elim (ihp h.1 hus v) (ihq h.2 hus' v)

theorem All.stepAt (hsend : ∀ t vs, P t → (∀ v ∈ vs, R v) → I (D.send t vs))
    (hstep : ∀ j c w j' w', I j → ok c → D.step j c w = some (j', w') → I j')
    (hret : ∀ j v, I j → D.returned j = some v → R v) {path : List Branch} {a : Option C}
    (hok : ∀ c, a = some c → ok c) (hI : All P I pr)
    (h : D.stepAt pr path a w = some (pr', w')) : All P I pr' := by
  induction pr generalizing pr' path a with
  | job j =>
    obtain ⟨c, j', rfl, hjob, rfl⟩ := stepAt_job h
    exact hstep j c w j' w' hI (hok c rfl) hjob
  | seq p q ih =>
    rcases stepAt_seq h with ⟨vs, hvs, -, rfl, rfl⟩ | ⟨r, -, hr, rfl⟩
    · exact all_start hsend hI.2 (hI.1.results hret hvs)
    · exact ⟨ih hok hI.1 hr, hI.2⟩
  | par p q ihp ihq =>
    rcases stepAt_par h with ⟨path', r, hr, rfl⟩ | ⟨path', r, hr, rfl⟩
    · exact ⟨ihp hok hI.1 hr, hI.2⟩
    · exact ⟨hI.1, ihq hok hI.2 hr⟩

theorem All.stepAt_of_keep (hI : ∀ t vs, P t → I (D.send t vs))
    (hkeep : ∀ j c w j' w', I j → D.step j c w = some (j', w') → I j') {path : List Branch}
    {a : Option C} (h : All P I pr) (hstep : D.stepAt pr path a w = some (pr', w')) :
    All P I pr' :=
  h.stepAt (R := fun _ => True) (fun t vs ht _ => hI t vs ht)
    (fun j c w j' w' hj (_ : True) => hkeep j c w j' w' hj) (fun _ _ _ _ => trivial)
    (fun _ _ => trivial) hstep

/-- What holds of every job that is sent with good results, and is kept by the steps that a run
makes, holds of all jobs of the run. -/
theorem all_run {env : E → W → W} (hsend : ∀ t vs, P t → (∀ v ∈ vs, R v) → I (D.send t vs))
    (hstep : ∀ j c w j' w', I j → ok c → D.step j c w = some (j', w') → I j')
    (hret : ∀ j v, I j → D.returned j = some v → R v) (hc : c.Forall P) {vs : List V}
    (hvs : ∀ v ∈ vs, R v) {as : List (Action C E)}
    (hok : ∀ path c, .step path (some c) ∈ as → ok c)
    (hrun : (D.machine env).run (D.start c vs, w) as = some (pr, w')) : All P I pr := by
  let allowed (_ : Proc T J × W) (a : Action C E) : Prop :=
    ∀ path c, a = .step path (some c) → ok c
  have hallowed : (D.machine env).Guarded allowed (D.start c vs, w) as :=
    Machine.guarded_of_forall fun a ha _ path c hac => hok path c (hac ▸ ha)
  refine Machine.guarded_invariant (I := fun s => All P I s.1) (all_start hsend hc hvs) ?_
    hallowed hrun
  rintro ⟨p, v⟩ a ⟨p', v'⟩ hI hok ha
  cases a with
  | step path a => exact hI.stepAt hsend hstep hret (fun c hc => hok path c (by rw [hc])) ha
  | other e =>
    obtain ⟨rfl, -⟩ : p = p' ∧ env e v = v' := by simpa [machine] using ha
    exact hI

end Local

/-! ### Failures -/

section Failures

variable (D) (bad : J → Prop) (badV : V → Prop)

/-- Sent `n` results of which one is bad, the workflow fails. -/
def Strict : ℕ → Canvas T → Prop
  | n, .task t => ∀ vs, vs.length = n → (∃ v ∈ vs, badV v) → bad (D.send t vs)
  | n, .seq p q => Strict n p ∧ Strict p.width q
  | n, .par p q => Strict n p ∨ Strict n q

/-- What comes after a failure fails. -/
def Robust : Canvas T → Prop
  | .task _ => True
  | .seq p q => Robust p ∧ D.Strict bad badV p.width q ∧ Robust q
  | .par p q => Robust p ∧ Robust q

/-- The number of results of what is left of a workflow. -/
def width : Proc T J → ℕ
  | .job _ => 1
  | .seq _ q => q.width
  | .par p q => width p + width q

/-- What comes after a failure in what is left of a workflow fails. -/
def RobustLeft : Proc T J → Prop
  | .job _ => True
  | .seq p q => RobustLeft p ∧ D.Strict bad badV (width p) q ∧ D.Robust bad badV q
  | .par p q => RobustLeft p ∧ RobustLeft q

/-- A job has failed, and so will all that comes after it. -/
def Failed : Proc T J → Prop
  | .job j => bad j
  | .seq p q => Failed p ∧ D.Strict bad badV (width p) q
  | .par p q => Failed p ∨ Failed q

variable {D bad badV} {fails : C → Prop}

@[simp] theorem width_start (c : Canvas T) (vs : List V) : width (D.start c vs) = c.width := by
  induction c with
  | task t => rfl
  | seq p q ihp _ => rfl
  | par p q ihp ihq => simp [start, width, Canvas.width, ihp, ihq]

theorem length_results {vs : List V} (hvs : D.results pr = some vs) : vs.length = width pr := by
  induction pr generalizing vs with
  | job j =>
    obtain ⟨v, -, rfl⟩ := Option.map_eq_some_iff.1 hvs
    rfl
  | seq p q ih => cases hvs
  | par p q ihp ihq =>
    obtain ⟨us, hus, hvs⟩ := Option.bind_eq_some_iff.1 hvs
    obtain ⟨us', hus', rfl⟩ := Option.map_eq_some_iff.1 hvs
    simp [width, ihp hus, ihq hus']

theorem width_stepAt {path : List Branch} {a : Option C}
    (h : D.stepAt pr path a w = some (pr', w')) : width pr' = width pr := by
  induction pr generalizing pr' path a with
  | job j =>
    obtain ⟨c, j', rfl, -, rfl⟩ := stepAt_job h
    rfl
  | seq p q ih =>
    rcases stepAt_seq h with ⟨vs, -, -, rfl, rfl⟩ | ⟨r, -, hr, rfl⟩
    · exact width_start q vs
    · rfl
  | par p q ihp ihq =>
    rcases stepAt_par h with ⟨path', r, hr, rfl⟩ | ⟨path', r, hr, rfl⟩
    · simp [width, ihp hr]
    · simp [width, ihq hr]

theorem robustLeft_start {c : Canvas T} (h : D.Robust bad badV c) (vs : List V) :
    D.RobustLeft bad badV (D.start c vs) := by
  induction c with
  | task t => trivial
  | seq p q ihp _ => exact ⟨ihp h.1, by simpa using h.2.1, h.2.2⟩
  | par p q ihp ihq => exact ⟨ihp h.1, ihq h.2⟩

/-- A strict workflow that is sent a bad result has failed. -/
theorem failed_start {c : Canvas T} {vs : List V} (h : D.Strict bad badV vs.length c)
    (hvs : ∃ v ∈ vs, badV v) : D.Failed bad badV (D.start c vs) := by
  induction c with
  | task t => exact h vs rfl hvs
  | seq p q ihp _ => exact ⟨ihp h.1, by simpa using h.2⟩
  | par p q ihp ihq => exact h.imp ihp ihq

theorem Failed.results (hret : ∀ j v, bad j → D.returned j = some v → badV v)
    (h : D.Failed bad badV pr) {vs : List V} (hvs : D.results pr = some vs) :
    ∃ v ∈ vs, badV v := by
  induction pr generalizing vs with
  | job j =>
    obtain ⟨v, hv, rfl⟩ := Option.map_eq_some_iff.1 hvs
    exact ⟨v, by simp, hret j v h hv⟩
  | seq p q ih => cases hvs
  | par p q ihp ihq =>
    obtain ⟨us, hus, hvs⟩ := Option.bind_eq_some_iff.1 hvs
    obtain ⟨us', hus', rfl⟩ := Option.map_eq_some_iff.1 hvs
    rcases h with h | h
    · obtain ⟨v, hv, hbad⟩ := ihp h hus
      exact ⟨v, List.mem_append_left _ hv, hbad⟩
    · obtain ⟨v, hv, hbad⟩ := ihq h hus'
      exact ⟨v, List.mem_append_right _ hv, hbad⟩

theorem RobustLeft.stepAt {path : List Branch} {a : Option C} (h : D.RobustLeft bad badV pr)
    (hstep : D.stepAt pr path a w = some (pr', w')) : D.RobustLeft bad badV pr' := by
  induction pr generalizing pr' path a with
  | job j =>
    obtain ⟨c, j', rfl, -, rfl⟩ := stepAt_job hstep
    trivial
  | seq p q ih =>
    rcases stepAt_seq hstep with ⟨vs, -, -, rfl, rfl⟩ | ⟨r, -, hr, rfl⟩
    · exact robustLeft_start h.2.2 vs
    · exact ⟨ih h.1 hr, width_stepAt hr ▸ h.2.1, h.2.2⟩
  | par p q ihp ihq =>
    rcases stepAt_par hstep with ⟨path', r, hr, rfl⟩ | ⟨path', r, hr, rfl⟩
    · exact ⟨ihp h.1 hr, h.2⟩
    · exact ⟨h.1, ihq h.2 hr⟩

/-- A failure stays one. -/
theorem Failed.stepAt (hkeep : ∀ j c w j' w', bad j → D.step j c w = some (j', w') → bad j')
    (hret : ∀ j v, bad j → D.returned j = some v → badV v) {path : List Branch} {a : Option C}
    (h : D.Failed bad badV pr) (hstep : D.stepAt pr path a w = some (pr', w')) :
    D.Failed bad badV pr' := by
  induction pr generalizing pr' path a with
  | job j =>
    obtain ⟨c, j', rfl, hjob, rfl⟩ := stepAt_job hstep
    exact hkeep j c w j' w' h hjob
  | seq p q ih =>
    rcases stepAt_seq hstep with ⟨vs, hvs, -, rfl, rfl⟩ | ⟨r, -, hr, rfl⟩
    · exact failed_start (length_results hvs ▸ h.2) (h.1.results hret hvs)
    · exact ⟨ih h.1 hr, width_stepAt hr ▸ h.2⟩
  | par p q ihp ihq =>
    rcases stepAt_par hstep with ⟨path', r, hr, rfl⟩ | ⟨path', r, hr, rfl⟩
    · exact h.imp_left fun hp => ihp hp hr
    · exact h.imp_right fun hq => ihq hq hr

/-- A step in which a job fails. -/
theorem RobustLeft.failed_stepAt
    (hfail : ∀ j c w j' w', fails c → D.step j c w = some (j', w') → bad j') {path : List Branch}
    {c : C} (hc : fails c) (h : D.RobustLeft bad badV pr)
    (hstep : D.stepAt pr path (some c) w = some (pr', w')) : D.Failed bad badV pr' := by
  induction pr generalizing pr' path with
  | job j =>
    obtain ⟨c', j', heq, hjob, rfl⟩ := stepAt_job hstep
    obtain rfl : c = c' := Option.some.inj heq
    exact hfail j c w j' w' hc hjob
  | seq p q ih =>
    rcases stepAt_seq hstep with ⟨vs, -, hnone, -, -⟩ | ⟨r, -, hr, rfl⟩
    · cases hnone
    · exact ⟨ih h.1 hr, width_stepAt hr ▸ h.2.1⟩
  | par p q ihp ihq =>
    rcases stepAt_par hstep with ⟨path', r, hr, rfl⟩ | ⟨path', r, hr, rfl⟩
    · exact .inl (ihp h.1 hr)
    · exact .inr (ihq h.2 hr)

/-- **Failures are passed on.**  If a job of a robust workflow fails in a run, then the workflow has
failed. -/
theorem failed_run {env : E → W → W}
    (hkeep : ∀ j c w j' w', bad j → D.step j c w = some (j', w') → bad j')
    (hfail : ∀ j c w j' w', fails c → D.step j c w = some (j', w') → bad j')
    (hret : ∀ j v, bad j → D.returned j = some v → badV v) {c : Canvas T}
    (hc : D.Robust bad badV c) {vs : List V} {as : List (Action C E)} {path : List Branch} {x : C}
    (hx : fails x) (hmem : .step path (some x) ∈ as)
    (hrun : (D.machine env).run (D.start c vs, w) as = some (pr, w')) :
    D.Failed bad badV pr := by
  have hrobust := robustLeft_start hc vs
  suffices h : ∀ (as : List (Action C E)) p w, D.RobustLeft bad badV p →
      (D.machine env).run (p, w) as = some (pr, w') →
      (D.Failed bad badV p ∨ .step path (some x) ∈ as) → D.Failed bad badV pr from
    h as _ w hrobust hrun (.inr hmem)
  intro as
  induction as with
  | nil =>
    intro p w _ hrun hcase
    cases hrun
    simpa using hcase
  | cons a as ih =>
    intro p w hp hrun hcase
    obtain ⟨⟨p₁, w₁⟩, hfirst, hrest⟩ := Machine.run_cons_eq_some.1 hrun
    cases a with
    | step path' a =>
      refine ih p₁ w₁ (hp.stepAt hfirst) hrest ?_
      rcases hcase with hbad | hmem
      · exact .inl (hbad.stepAt hkeep hret hfirst)
      · rcases List.mem_cons.1 hmem with heq | hmem
        · obtain ⟨rfl, rfl⟩ : path = path' ∧ some x = a := by simpa using heq
          exact .inl (hp.failed_stepAt hfail hx hfirst)
        · exact .inr hmem
    | other e =>
      obtain ⟨rfl, rfl⟩ : p = p₁ ∧ env e w = w₁ := by simpa [machine] using hfirst
      exact ih p _ hp hrest (by simpa using hcase)

end Failures

/-! ### Budgets -/

section Budgets

variable {M : Type*} [AddCommMonoid M] [PartialOrder M] [IsOrderedAddMonoid M]
  [CanonicallyOrderedAdd M]

/-- The budget of a workflow: those of its tasks, with `u` for each sending. -/
def budget (u : M) (f : T → M) : Canvas T → M
  | .task t => f t
  | .seq p q => budget u f p + (u + budget u f q)
  | .par p q => budget u f p + budget u f q

/-- What is left of the budget of a workflow. -/
def left (u : M) (f : T → M) (g : J → M) : Proc T J → M
  | .job j => g j
  | .seq p q => left u f g p + (u + budget u f q)
  | .par p q => left u f g p + left u f g q

/-- What the budget of a job gets in an action. -/
def Action.refill (r : C → M) : Action C E → M
  | .step _ (some c) => r c
  | .step _ none | .other _ => 0

/-- What the budgets get in a run. -/
def supply (r : C → M) (as : List (Action C E)) : M := (as.map (Action.refill r)).sum

variable {P : T → Prop} {I : J → Prop} {u : M} {f : T → M} {g : J → M} {r : C → M}
  {spent : W → W → M → Prop}

omit [CanonicallyOrderedAdd M] in
theorem left_start_le (hsend : ∀ t vs, g (D.send t vs) ≤ f t) (c : Canvas T) (vs : List V) :
    left u f g (D.start c vs) ≤ budget u f c := by
  induction c with
  | task t => exact hsend t vs
  | seq p q ihp _ => exact add_le_add_left ihp _
  | par p q ihp ihq => exact add_le_add ihp ihq

/-- If the steps of jobs pay for what they spend, then so do the steps of workflows. -/
theorem spends_stepAt (hsend : ∀ t vs, g (D.send t vs) ≤ f t)
    (hstep : ∀ j c w j' w', I j → D.step j c w = some (j', w') →
      ∃ m, spent w w' m ∧ m + g j' ≤ g j + r c)
    (hu : ∀ w, spent w w u) {path : List Branch} {a : Option C} (hI : All P I pr)
    (h : D.stepAt pr path a w = some (pr', w')) :
    ∃ m, spent w w' m ∧ m + left u f g pr' ≤ left u f g pr + a.elim 0 r := by
  induction pr generalizing pr' path a with
  | job j =>
    obtain ⟨c, j', rfl, hjob, rfl⟩ := stepAt_job h
    exact hstep j c w j' w' hI hjob
  | seq p q ih =>
    rcases stepAt_seq h with ⟨vs, -, rfl, rfl, rfl⟩ | ⟨r', -, hr, rfl⟩
    · refine ⟨u, hu w', ?_⟩
      calc u + left u f g (D.start q vs)
          ≤ u + budget u f q := add_le_add_right (left_start_le hsend q vs) u
        _ ≤ left u f g p + (u + budget u f q) := le_add_self
        _ = left u f g p + (u + budget u f q) + 0 := (add_zero _).symm
    · obtain ⟨m, hm, hle⟩ := ih hI.1 hr
      refine ⟨m, hm, ?_⟩
      rw [left, left, ← add_assoc, add_right_comm (left u f g p)]
      exact add_le_add_left hle _
  | par p q ihp ihq =>
    rcases stepAt_par h with ⟨path', r', hr, rfl⟩ | ⟨path', r', hr, rfl⟩
    · obtain ⟨m, hm, hle⟩ := ihp hI.1 hr
      refine ⟨m, hm, ?_⟩
      rw [left, left, ← add_assoc, add_right_comm (left u f g p)]
      exact add_le_add_left hle _
    · obtain ⟨m, hm, hle⟩ := ihq hI.2 hr
      refine ⟨m, hm, ?_⟩
      rw [left, left, add_left_comm, add_assoc]
      exact add_le_add_right hle _

variable {env : E → W → W} {vs : List V} {as : List (Action C E)}

/-- **Budgets.**  What the jobs of a workflow put out in a run is within its budget, and what the
run supplies. -/
theorem spends_run {out : W → M} (hsend : ∀ t vs, g (D.send t vs) ≤ f t)
    (hI : ∀ t vs, P t → I (D.send t vs))
    (hkeep : ∀ j c w j' w', I j → D.step j c w = some (j', w') → I j')
    (hstep : ∀ j c w j' w', I j → D.step j c w = some (j', w') →
      ∃ m, out w' ≤ out w + m ∧ m + g j' ≤ g j + r c)
    (henv : ∀ e w, out (env e w) = out w) (hc : c.Forall P)
    (hrun : (D.machine env).run (D.start c vs, w) as = some (pr, w')) :
    out w' + left 0 f g pr ≤ out w + budget 0 f c + supply r as := by
  suffices h : ∀ p, All P I p → (D.machine env).run (p, w) as = some (pr, w') →
      out w' + left 0 f g pr ≤ out w + left 0 f g p + supply r as by
    have hall : All P I (D.start c vs) :=
      all_start (R := fun _ => True) (fun t vs ht _ => hI t vs ht) hc fun _ _ => trivial
    refine (h _ hall hrun).trans (add_le_add_left (add_le_add_right ?_ _) _)
    exact left_start_le hsend c vs
  clear hrun
  induction as generalizing w with
  | nil =>
    intro p _ hrun
    cases hrun
    exact (add_zero _).ge
  | cons a as ih =>
    intro p hp hrun
    obtain ⟨⟨p₁, w₁⟩, hfirst, hrest⟩ := Machine.run_cons_eq_some.1 hrun
    cases a with
    | step path a =>
      obtain ⟨m, hm, hleft⟩ : ∃ m, out w₁ ≤ out w + m ∧
          m + left 0 f g p₁ ≤ left 0 f g p + a.elim 0 r :=
        spends_stepAt hsend hstep (fun w => (add_zero (out w)).ge) hp hfirst
      have hp₁ : All P I p₁ := hp.stepAt_of_keep hI hkeep hfirst
      have hrefill : a.elim 0 r = Action.refill r (.step path a : Action C E) := by
        cases a <;> rfl
      calc out w' + left 0 f g pr
          ≤ out w₁ + left 0 f g p₁ + supply r as := ih p₁ hp₁ hrest
        _ ≤ out w + m + left 0 f g p₁ + supply r as :=
          add_le_add_left (add_le_add_left hm _) _
        _ = out w + (m + left 0 f g p₁) + supply r as := by rw [add_assoc (out w)]
        _ ≤ out w + (left 0 f g p + a.elim 0 r) + supply r as :=
          add_le_add_left (add_le_add_right hleft _) _
        _ = out w + left 0 f g p + supply r (.step path a :: as) := by
          rw [supply, supply, List.map_cons, List.sum_cons, hrefill, ← add_assoc, ← add_assoc]
    | other e =>
      obtain ⟨rfl, rfl⟩ : p = p₁ ∧ env e w = w₁ := by simpa [machine] using hfirst
      have hsupply : supply r (.other e :: as) = supply r as := by
        rw [supply, supply, List.map_cons, List.sum_cons]
        exact zero_add _
      simpa only [henv, hsupply] using ih p hp hrest

end Budgets

/-- A workflow makes no more steps than its tasks have, one for each sending in between, and what
the run supplies. -/
theorem length_run_le {P : T → Prop} {I : J → Prop} {f : T → ℕ} {g : J → ℕ} {r : C → ℕ}
    {env : E → W → W} (hsend : ∀ t vs, g (D.send t vs) ≤ f t)
    (hI : ∀ t vs, P t → I (D.send t vs))
    (hkeep : ∀ j c w j' w', I j → D.step j c w = some (j', w') → I j')
    (hstep : ∀ j c w j' w', I j → D.step j c w = some (j', w') → 1 + g j' ≤ g j + r c)
    (hc : c.Forall P) {vs : List V} {as : List (Action C E)}
    (hrun : (D.machine env).run (D.start c vs, w) as = some (pr, w')) :
    (as.filter Action.isStep).length ≤ budget 1 f c + supply r as := by
  have hstart := left_start_le (u := 1) hsend c vs
  have hall : All P I (D.start c vs) :=
    all_start (R := fun _ => True) (fun t vs ht _ => hI t vs ht) hc fun _ _ => trivial
  generalize D.start c vs = p at hrun hstart hall
  suffices h : (as.filter Action.isStep).length + left 1 f g pr ≤ left 1 f g p + supply r as by
    omega
  clear hstart
  induction as generalizing p w with
  | nil => cases hrun; simp [supply]
  | cons a as ih =>
    obtain ⟨⟨p₁, w₁⟩, hfirst, hrest⟩ := Machine.run_cons_eq_some.1 hrun
    cases a with
    | step path a =>
      obtain ⟨m, hm, hleft⟩ : ∃ m, 1 ≤ m ∧ m + left 1 f g p₁ ≤ left 1 f g p + a.elim 0 r :=
        spends_stepAt hsend (fun j c w j' w' hj h => ⟨1, le_rfl, hstep j c w j' w' hj h⟩)
          (fun _ => le_rfl) hall hfirst
      have hp₁ : All P I p₁ := hall.stepAt_of_keep hI hkeep hfirst
      have hle := ih p₁ hrest hp₁
      have hrefill : a.elim 0 r = Action.refill r (.step path a : Action C E) := by
        cases a <;> rfl
      simp only [List.filter_cons, Action.isStep, ↓reduceIte, List.length_cons, supply,
        List.map_cons, List.sum_cons, ← hrefill] at hle ⊢
      omega
    | other e =>
      obtain ⟨rfl, -⟩ : p = p₁ ∧ env e w = w₁ := by simpa [machine] using hfirst
      have hle := ih p hrest hall
      simpa [Action.isStep, supply, Action.refill] using hle

/-! ### More choices -/

/-- `D` makes the steps of `D'` under the choices `f`. -/
structure Embeds {C' : Type*} (D : Jobs T V J W C) (D' : Jobs T V J W C') (f : C → C') :
    Prop where
  send : D.send = D'.send
  returned : D.returned = D'.returned
  step : ∀ j c w, D.step j c w = D'.step j (f c) w

namespace Embeds

variable {C' : Type*} {D' : Jobs T V J W C'} {f : C → C'} (h : D.Embeds D' f)
include h

theorem start_eq (c : Canvas T) (vs : List V) : D.start c vs = D'.start c vs := by
  induction c with
  | task t => rw [start, start, h.send]
  | seq p q ihp _ => rw [start, start, ihp]
  | par p q ihp ihq => rw [start, start, ihp, ihq]

theorem results_eq (p : Proc T J) : D.results p = D'.results p := by
  induction p with
  | job j => rw [results, results, h.returned]
  | seq p q _ => rfl
  | par p q ihp ihq => rw [results, results, ihp, ihq]

theorem stepAt_eq (p : Proc T J) (path : List Branch) (a : Option C) (w : W) :
    D.stepAt p path a w = D'.stepAt p path (a.map f) w := by
  induction p generalizing path a with
  | job j =>
    match path, a with
    | [], some c => exact congrArg (Option.map _) (h.step j c w)
    | [], none | _ :: _, _ => rfl
  | seq p q ih =>
    rw [stepAt, stepAt, h.results_eq p]
    cases D'.results p with
    | some vs => simp [h.start_eq]
    | none => exact congrArg (Option.map _) (ih path a)
  | par p q ihp ihq =>
    match path with
    | [] => rfl
    | .fst :: path' => exact congrArg (Option.map _) (ihp path' a)
    | .snd :: path' => exact congrArg (Option.map _) (ihq path' a)

/-- The runs of the one are runs of the other. -/
theorem run_eq (env : E → W → W) (s : Proc T J × W) (as : List (Action C E)) :
    (D.machine env).run s as = (D'.machine env).run s (as.map (Action.map f)) := by
  induction as generalizing s with
  | nil => rfl
  | cons a as ih =>
    have hstep : (D.machine env).step s a = (D'.machine env).step s (a.map f) := by
      cases a with
      | step path c => exact h.stepAt_eq s.1 path c s.2
      | other e => rfl
    rw [List.map_cons, Machine.run_cons, Machine.run_cons, hstep]
    exact congrArg (Option.bind _) (funext ih)

end Embeds

/-! ### Progress -/

/-- **Progress.**  A workflow has ended, or it can make a step, or one of its jobs has ended without
result. -/
theorem progress (D : Jobs T V J W C) (pr : Proc T J) (w : W) :
    (∃ vs, D.results pr = some vs) ∨ (∃ path a s, D.stepAt pr path a w = some s) ∨
      ∃ j ∈ jobs pr, D.returned j = none ∧ ∀ c, D.step j c w = none := by
  induction pr with
  | job j =>
    cases hv : D.returned j with
    | some v => exact .inl ⟨[v], by simp [results, hv]⟩
    | none =>
      by_cases hc : ∃ c r, D.step j c w = some r
      · obtain ⟨c, r, hr⟩ := hc
        exact .inr (.inl ⟨[], some c, (.job r.1, r.2), by simp [stepAt, hr]⟩)
      · push Not at hc
        refine .inr (.inr ⟨j, by simp [jobs], hv, fun c => ?_⟩)
        exact Option.eq_none_iff_forall_ne_some.2 (hc c)
  | seq p q ih =>
    rcases ih with ⟨vs, hvs⟩ | ⟨path, a, s, hs⟩ | hlost
    · exact .inr (.inl ⟨[], none, (D.start q vs, w), by simp [stepAt, hvs]⟩)
    · cases hr : D.results p with
      | some vs => exact .inr (.inl ⟨[], none, (D.start q vs, w), by simp [stepAt, hr]⟩)
      | none => exact .inr (.inl ⟨path, a, (.seq s.1 q, s.2), by simp [stepAt, hr, hs]⟩)
    · exact .inr (.inr hlost)
  | par p q ihp ihq =>
    rcases ihp with ⟨us, hus⟩ | ⟨path, a, s, hs⟩ | ⟨j, hj, hlost⟩
    · rcases ihq with ⟨vs, hvs⟩ | ⟨path, a, s, hs⟩ | ⟨j, hj, hlost⟩
      · exact .inl ⟨us ++ vs, by simp [results, hus, hvs]⟩
      · exact .inr (.inl ⟨.snd :: path, a, (.par p s.1, s.2), by simp [stepAt, hs]⟩)
      · exact .inr (.inr ⟨j, List.mem_append_right _ hj, hlost⟩)
    · exact .inr (.inl ⟨.fst :: path, a, (.par s.1 q, s.2), by simp [stepAt, hs]⟩)
    · exact .inr (.inr ⟨j, List.mem_append_left _ hj, hlost⟩)

end Jobs

end StormPiper
