import Mathlib.Logic.Basic

/-!
# Computations that change a state in place and may fail

A `Mutation S E` takes a state to a state and says whether it ran to its end.  Unlike in
`Except`, what was changed before a failure stays changed.

## Main definitions

* `Mutation.assign`, `Mutation.andThen`, `Mutation.when`, `Mutation.forEach`,
  `Mutation.mutateEach` : the constructions.
* `Mutation.Keeps π f` : the frame of a mutation, `f` leaves `π` of the state as it is, also when
  it fails.
* `Mutation.Fixes f s`, `Mutation.Passes f s` : `f` leaves the state `s` as it is, and it does not
  fail in it.
* `Mutation.andThen_fixes_iff` : two mutations that write apart leave a state as it is if both do.
-/

namespace StormPiper

/-- A computation that changes a state in place and may fail. -/
def Mutation (S E : Type) : Type := S → S × Except E Unit

namespace Mutation

variable {S A B E : Type}

/-- Nothing is done. -/
def skip : Mutation S E := fun s => (s, .ok ())

/-- Compute a value and write it. -/
def assign (x : S → Except E A) (set : S → A → S) : Mutation S E := fun s =>
  match x s with
  | .ok a => (set s a, .ok ())
  | .error e => (s, .error e)

/-- One after the other, if the first does not fail. -/
def andThen (f g : Mutation S E) : Mutation S E := fun s =>
  match f s with
  | (t, .ok ()) => g t
  | (t, .error e) => (t, .error e)

/-- Only under a condition. -/
def when (c : Bool) (f : Mutation S E) : Mutation S E := if c then f else skip

/-- A loop over a list. -/
def forEach (f : A → Mutation S E) : List A → Mutation S E
  | [] => skip
  | a :: as => (f a).andThen (forEach f as)

/-- A loop that changes the elements of a list. -/
def mutateEach (f : Mutation A E) : Mutation (List A) E
  | [] => ([], .ok ())
  | a :: as =>
    match f a with
    | (b, .error e) => (b :: as, .error e)
    | (b, .ok ()) => (b :: (mutateEach f as).1, (mutateEach f as).2)

/-! ### Success -/

theorem assign_eq_ok {x : S → Except E A} {set : S → A → S} {s t : S} :
    assign x set s = (t, .ok ()) ↔ ∃ a, x s = .ok a ∧ t = set s a := by
  unfold assign
  cases x s with
  | error e => simp
  | ok a => simp [eq_comm]

theorem andThen_eq_ok {f g : Mutation S E} {s t : S} :
    f.andThen g s = (t, .ok ()) ↔ ∃ r, f s = (r, .ok ()) ∧ g r = (t, .ok ()) := by
  unfold andThen
  rcases f s with ⟨r, e | u⟩
  · simp
  · simp

theorem when_eq_ok {c : Bool} {f : Mutation S E} {s t : S} :
    when c f s = (t, .ok ()) ↔ if c then f s = (t, .ok ()) else t = s := by
  cases c with
  | true => rfl
  | false => simp [when, skip, eq_comm]

/-! ### Frames -/

/-- `f` leaves `π` of the state as it is, also when it fails. -/
def Keeps (π : S → B) (f : Mutation S E) : Prop := ∀ s, π (f s).1 = π s

variable {π : S → B}

theorem keeps_skip : Keeps π (skip : Mutation S E) := fun _ => rfl

theorem keeps_assign {x : S → Except E A} {set : S → A → S} (h : ∀ s a, π (set s a) = π s) :
    Keeps π (assign x set) := by
  intro s
  unfold assign
  cases x s with
  | error e => rfl
  | ok a => exact h s a

/-- What is kept determines what else is kept. -/
theorem Keeps.map {C : Type} {f : Mutation S E} (σ : B → C) (hf : Keeps π f) :
    Keeps (fun s => σ (π s)) f := fun s => congrArg σ (hf s)

theorem Keeps.andThen {f g : Mutation S E} (hf : Keeps π f) (hg : Keeps π g) :
    Keeps π (f.andThen g) := by
  intro s
  have hs := hf s
  unfold Mutation.andThen
  rcases h : f s with ⟨r, e | u⟩
  · rwa [h] at hs
  · rw [h] at hs
    exact (hg r).trans hs

theorem Keeps.when {c : Bool} {f : Mutation S E} (hf : Keeps π f) : Keeps π (when c f) := by
  cases c with
  | true => exact hf
  | false => exact keeps_skip

theorem keeps_forEach {f : A → Mutation S E} (hf : ∀ a, Keeps π (f a)) (as : List A) :
    Keeps π (forEach f as) := by
  induction as with
  | nil => exact keeps_skip
  | cons a as ih => exact (hf a).andThen ih

/-- A loop over the elements keeps of each what its body keeps. -/
theorem keeps_mutateEach {f : Mutation S E} (hf : Keeps π f) :
    Keeps (List.map π) (mutateEach f) := by
  intro as
  induction as with
  | nil => rfl
  | cons a as ih =>
    have ha := hf a
    unfold mutateEach
    rcases h : f a with ⟨b, e | u⟩
    · rw [h] at ha
      exact congrArg (· :: _) ha
    · rw [h] at ha
      exact congrArg₂ List.cons ha ih

/-! ### States that stay as they are -/

/-- `f` leaves the state as it is. -/
def Fixes (f : Mutation S E) (s : S) : Prop := (f s).1 = s

/-- `f` does not fail. -/
def Passes (f : Mutation S E) (s : S) : Prop := (f s).2 = .ok ()

theorem fixes_assign {x : S → Except E A} {set : S → A → S} {s : S} :
    Fixes (assign x set) s ↔ ∀ a, x s = .ok a → set s a = s := by
  unfold Fixes assign
  cases x s with
  | error e => simp
  | ok a => simp

theorem passes_assign {x : S → Except E A} {set : S → A → S} {s : S} :
    Passes (assign x set) s ↔ ∃ a, x s = .ok a := by
  unfold Passes assign
  cases x s with
  | error e => simp
  | ok a => simp

theorem fixes_when {c : Bool} {f : Mutation S E} {s : S} :
    Fixes (when c f) s ↔ (c = true → Fixes f s) := by
  cases c with
  | true => exact ⟨fun h _ => h, fun h => h rfl⟩
  | false => exact ⟨fun _ h => absurd h Bool.false_ne_true, fun _ => rfl⟩

theorem passes_when {c : Bool} {f : Mutation S E} {s : S} :
    Passes (when c f) s ↔ (c = true → Passes f s) := by
  cases c with
  | true => exact ⟨fun h _ => h, fun h => h rfl⟩
  | false => exact ⟨fun _ h => absurd h Bool.false_ne_true, fun _ => rfl⟩

/-- **Mutations that write apart.**  The second keeps `π`, the first keeps `ρ`, and the two make up
the state: then the second cannot undo what the first does. -/
theorem andThen_fixes_iff {C : Type} {ρ : S → C} {f g : Mutation S E} {s : S} (hf : Keeps ρ f)
    (hg : Keeps π g) (hsep : ∀ s t, π s = π t → ρ s = ρ t → s = t) :
    Fixes (f.andThen g) s ↔ Fixes f s ∧ (Passes f s → Fixes g s) := by
  have hρ := hf s
  unfold Fixes Passes andThen
  rcases h : f s with ⟨r, e | u⟩
  · simp
  · rw [h] at hρ
    simp only [forall_const]
    constructor
    · intro hr
      have hrs : r = s := hsep r s ((hg r).symm.trans (congrArg π hr)) hρ
      exact ⟨hrs, hrs ▸ hr⟩
    · rintro ⟨rfl, hr⟩
      exact hr

theorem andThen_passes_iff {f g : Mutation S E} {s : S} (hf : Fixes f s) :
    Passes (f.andThen g) s ↔ Passes f s ∧ Passes g s := by
  unfold Fixes at hf
  unfold Passes andThen
  rcases h : f s with ⟨r, e | u⟩
  · simp
  · rw [h] at hf
    obtain rfl : r = s := hf
    simp

/-- A loop leaves its list as it is if it does so with each element that it comes to. -/
theorem fixes_mutateEach_cons {f : Mutation S E} {a : S} {as : List S} :
    Fixes (mutateEach f) (a :: as) ↔ Fixes f a ∧ (Passes f a → Fixes (mutateEach f) as) := by
  unfold Fixes Passes
  rw [mutateEach]
  rcases f a with ⟨b, e | u⟩
  · simp
  · simp

theorem passes_mutateEach {f : Mutation S E} {as : List S} :
    Passes (mutateEach f) as ↔ ∀ a ∈ as, Passes f a := by
  induction as with
  | nil => exact ⟨fun _ => nofun, fun _ => rfl⟩
  | cons a as ih =>
    rw [List.forall_mem_cons, ← ih]
    unfold Passes
    rw [mutateEach]
    rcases f a with ⟨b, e | u⟩
    · simp
    · simp

/-- A loop that does not fail changes every element. -/
theorem mutateEach_of_passes {f : Mutation S E} {as : List S} (h : ∀ a ∈ as, Passes f a) :
    (mutateEach f as).1 = as.map fun a => (f a).1 := by
  induction as with
  | nil => rfl
  | cons a as ih =>
    obtain ⟨ha, has⟩ := List.forall_mem_cons.1 h
    unfold Passes at ha
    rw [mutateEach, List.map_cons, ← ih has]
    rcases hf : f a with ⟨b, e | u⟩
    · rw [hf] at ha
      cases ha
    · rfl

end Mutation

end StormPiper
