import Mathlib.Data.Option.Basic
import Mathlib.Logic.Basic

/-!
# Partial machines and their runs

A system with a state is given as a *partial machine*: a function `step s a` that gives the state
after action `a`, or `none` when `a` cannot happen in `s`.  A run is a list of actions.

## Main definitions

* `Machine S A` : a partial transition function.
* `Machine.run s as` : the state after the actions `as`, if all of them can happen.
* `Machine.Guarded ok s as` : every action of the run satisfies `ok` in the state it starts from.
* `Machine.Always P s as` : every state that the run reaches satisfies `P`.
* `Machine.EachStep Q s as` : every step of the run satisfies `Q`.
* `Machine.invariant`, `Machine.guarded_invariant` : a predicate that every (guarded) step
  preserves holds after every (guarded) run.
* `Machine.always_iff_guarded_of_mem`, `Machine.always_iff_guarded` : where a guard says of every
  step whether it preserves the predicate, the predicate holds all along exactly in the guarded
  runs.
* `Machine.eachStep_iff_guarded` : the same for a predicate on the steps.
-/

namespace StormPiper

/-- A partial machine with states `S` and actions `A`. -/
structure Machine (S : Type*) (A : Type*) where
  /-- The state after an action, `none` when the action cannot happen. -/
  step : S → A → Option S

namespace Machine

variable {S A : Type*} (M : Machine S A)

/-- The state after a list of actions. -/
def run : S → List A → Option S
  | s, [] => some s
  | s, a :: as => (M.step s a).bind fun s' => run s' as

/-- Every action of the run is allowed by `ok` in the state in which it happens. -/
def Guarded (ok : S → A → Prop) : S → List A → Prop
  | _, [] => True
  | s, a :: as => ok s a ∧ ∀ s', M.step s a = some s' → Guarded ok s' as

/-- Every state that the run reaches satisfies `P`. -/
def Always (P : S → Prop) : S → List A → Prop
  | s, [] => P s
  | s, a :: as => P s ∧ ∀ s', M.step s a = some s' → Always P s' as

/-- Every step of the run, with the states before and after it, satisfies `Q`. -/
def EachStep (Q : S → A → S → Prop) : S → List A → Prop
  | _, [] => True
  | s, a :: as => ∀ s', M.step s a = some s' → Q s a s' ∧ EachStep Q s' as

variable {M}

@[simp] theorem run_nil (s : S) : M.run s [] = some s := rfl

theorem run_cons (s : S) (a : A) (as : List A) :
    M.run s (a :: as) = (M.step s a).bind fun s' => M.run s' as := rfl

theorem run_cons_eq_some {s s' : S} {a : A} {as : List A} :
    M.run s (a :: as) = some s' ↔ ∃ t, M.step s a = some t ∧ M.run t as = some s' := by
  simp [run_cons, Option.bind_eq_some_iff]

/-- A predicate that holds initially and that every step preserves holds after every run. -/
theorem invariant {I : S → Prop} {s s' : S} {as : List A} (h₀ : I s)
    (hstep : ∀ s a t, I s → M.step s a = some t → I t) (h : M.run s as = some s') : I s' := by
  induction as generalizing s with
  | nil => cases h; exact h₀
  | cons a as ih =>
    obtain ⟨t, ht, hrun⟩ := run_cons_eq_some.1 h
    exact ih (hstep s a t h₀ ht) hrun

/-- A predicate that holds initially and that every allowed step preserves holds after every
run whose steps are all allowed. -/
theorem guarded_invariant {ok : S → A → Prop} {I : S → Prop} {s s' : S} {as : List A}
    (h₀ : I s) (hstep : ∀ s a t, I s → ok s a → M.step s a = some t → I t)
    (hok : M.Guarded ok s as) (h : M.run s as = some s') : I s' := by
  induction as generalizing s with
  | nil => cases h; exact h₀
  | cons a as ih =>
    obtain ⟨t, ht, hrun⟩ := run_cons_eq_some.1 h
    exact ih (hstep s a t h₀ hok.1 ht) (hok.2 t ht) hrun

/-- What holds all along holds in the end. -/
theorem Always.last {P : S → Prop} {s s' : S} {as : List A} (h : M.Always P s as)
    (hrun : M.run s as = some s') : P s' := by
  induction as generalizing s with
  | nil => cases hrun; exact h
  | cons a as ih =>
    obtain ⟨t, ht, hrun⟩ := run_cons_eq_some.1 hrun
    exact ih (h.2 t ht) hrun

/-- **The exact guard.**  If of every step from `P` the guard says whether it leads to `P` again,
then a run has `P` all along if and only if every step of it is guarded.  Only the actions of the
run matter. -/
theorem always_iff_guarded_of_mem {ok : S → A → Prop} {P : S → Prop} {s s' : S} {as : List A}
    (h₀ : P s) (hstep : ∀ s, ∀ a ∈ as, ∀ t, P s → M.step s a = some t → (P t ↔ ok s a))
    (hrun : M.run s as = some s') : M.Always P s as ↔ M.Guarded ok s as := by
  induction as generalizing s with
  | nil => exact ⟨fun _ => trivial, fun _ => h₀⟩
  | cons a as ih =>
    obtain ⟨t, ht, hrun⟩ := run_cons_eq_some.1 hrun
    have hfirst : M.Always P t as → P t := by
      cases as with
      | nil => exact id
      | cons b bs => exact And.left
    have hiff : P t ↔ ok s a := hstep s a List.mem_cons_self t h₀ ht
    have ih (hPt : P t) : M.Always P t as ↔ M.Guarded ok t as :=
      ih hPt (fun s b hb => hstep s b (List.mem_cons_of_mem a hb)) hrun
    constructor
    · rintro ⟨-, halways⟩
      have hPt : P t := hfirst (halways t ht)
      refine ⟨hiff.1 hPt, fun r hr => ?_⟩
      obtain rfl : t = r := Option.some.inj (ht.symm.trans hr)
      exact (ih hPt).1 (halways t ht)
    · rintro ⟨hok, hguarded⟩
      have hPt : P t := hiff.2 hok
      refine ⟨h₀, fun r hr => ?_⟩
      obtain rfl : t = r := Option.some.inj (ht.symm.trans hr)
      exact (ih hPt).2 (hguarded t ht)

theorem always_iff_guarded {ok : S → A → Prop} {P : S → Prop} {s s' : S} {as : List A} (h₀ : P s)
    (hstep : ∀ s a t, P s → M.step s a = some t → (P t ↔ ok s a)) (hrun : M.run s as = some s') :
    M.Always P s as ↔ M.Guarded ok s as :=
  always_iff_guarded_of_mem h₀ (fun s a _ => hstep s a) hrun

/-- Where every action can happen, every run has a last state. -/
theorem exists_run (h : ∀ s a, ∃ t, M.step s a = some t) (s : S) (as : List A) :
    ∃ s', M.run s as = some s' := by
  induction as generalizing s with
  | nil => exact ⟨s, rfl⟩
  | cons a as ih =>
    obtain ⟨t, ht⟩ := h s a
    obtain ⟨s', hs'⟩ := ih t
    exact ⟨s', run_cons_eq_some.2 ⟨t, ht, hs'⟩⟩

/-- If an action can always happen and the guard says of its step whether it satisfies `Q`, then
every step of a run does if and only if all of them are guarded. -/
theorem eachStep_iff_guarded {ok : S → A → Prop} {Q : S → A → S → Prop} {s : S} {as : List A}
    (hstep : ∀ s a, ∃ t, M.step s a = some t ∧ (Q s a t ↔ ok s a)) :
    M.EachStep Q s as ↔ M.Guarded ok s as := by
  induction as generalizing s with
  | nil => rfl
  | cons a as ih =>
    obtain ⟨t, ht, hiff⟩ := hstep s a
    simp only [EachStep, Guarded, ht, Option.some.injEq, forall_eq', hiff, ih]

/-- A condition on the actions alone, which all actions of a run meet. -/
theorem guarded_of_forall {ok : S → A → Prop} {as : List A} {s : S}
    (h : ∀ a ∈ as, ∀ s, ok s a) : M.Guarded ok s as := by
  induction as generalizing s with
  | nil => trivial
  | cons a as ih =>
    exact ⟨h a List.mem_cons_self s, fun t _ => ih fun b hb => h b (List.mem_cons_of_mem a hb)⟩

instance Guarded.decidable {ok : S → A → Prop} [∀ s a, Decidable (ok s a)] :
    ∀ s as, Decidable (M.Guarded ok s as)
  | _, [] => isTrue trivial
  | s, a :: as =>
    match h : M.step s a with
    | none => decidable_of_iff (ok s a) (by simp [Guarded, h])
    | some t =>
      have : Decidable (M.Guarded ok t as) := Guarded.decidable t as
      decidable_of_iff (ok s a ∧ M.Guarded ok t as) (by simp [Guarded, h])

end Machine

end StormPiper
