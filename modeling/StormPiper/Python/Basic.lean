import Mathlib.Data.List.Forall2
import Mathlib.Data.Rat.Defs

/-!
# Python values and exceptions

The parts of Python that several components of the source share: the exceptions it raises, list
indexing with negative indices, and the three states of a dictionary key or model field.
-/

namespace StormPiper

/-- The exceptions that the modelled functions raise. -/
inductive PyError where
  | keyError
  | indexError
  | valueError
  | typeError
  | zeroDivisionError
  | overflowError
  | memoryError
  | assertionError
  | recursionError
  /-- `networkx.NetworkXError`: the node is not in the digraph. -/
  | networkXError
  /-- `pydantic.ValidationError`. -/
  | validationError
  | recordNotFound
  | httpException (statusCode : ℕ)
  /-- An exception of a library or service that is not under the source tree. -/
  | external (message : String)
  deriving Repr, DecidableEq

theorem ok_bind {ε α β : Type} (a : α) (f : α → Except ε β) : (Except.ok a >>= f) = f a := rfl

theorem error_bind {α β : Type} (e : PyError) (f : α → Except PyError β) :
    (Except.error e >>= f) = .error e := rfl

theorem bind_eq_ok {ε α β : Type} {x : Except ε α} {f : α → Except ε β} {b : β}
    (h : (x >>= f) = .ok b) : ∃ a, x = .ok a ∧ f a = .ok b := by
  cases x with
  | error e => cases h
  | ok a => exact ⟨a, rfl, h⟩

theorem bind_eq_ok_iff {ε α β : Type} {x : Except ε α} {f : α → Except ε β} {b : β} :
    (x >>= f) = .ok b ↔ ∃ a, x = .ok a ∧ f a = .ok b := by
  refine ⟨bind_eq_ok, ?_⟩
  rintro ⟨a, rfl, h⟩
  exact h

theorem map_eq_ok {α β : Type} {x : Except PyError α} {f : α → β} {b : β}
    (h : x.map f = .ok b) : ∃ a, x = .ok a ∧ f a = b := by
  cases x with
  | error e => cases h
  | ok a => exact ⟨a, rfl, Except.ok.inj h⟩

theorem ite_throw_eq_ok {α : Type} {p : Prop} [Decidable p] {x : Except PyError α} {e : PyError}
    {a : α} : (if p then x else throw e) = .ok a ↔ p ∧ x = .ok a := by
  split_ifs with h <;> simp [h]

theorem pure_eq_ok {ε α : Type} {a b : α} : (pure a : Except ε α) = .ok b ↔ b = a :=
  ⟨fun h => (Except.ok.inj h).symm, fun h => h ▸ rfl⟩

/-- A list comprehension returns where it does for each element. -/
theorem mapM_eq_ok_iff {ε α β : Type} {f : α → Except ε β} {xs : List α} {ys : List β} :
    xs.mapM f = .ok ys ↔ List.Forall₂ (fun x y => f x = .ok y) xs ys := by
  induction xs generalizing ys with
  | nil => rw [List.mapM_nil, pure_eq_ok, List.forall₂_nil_left_iff]
  | cons x xs ih =>
    simp only [List.mapM_cons, bind_eq_ok_iff, pure_eq_ok, ih, List.forall₂_cons_left_iff]
    constructor
    · rintro ⟨y, hy, ys', hys, rfl⟩
      exact ⟨y, ys', hy, hys, rfl⟩
    · rintro ⟨y, ys', hy, hys, rfl⟩
      exact ⟨y, hy, ys', hys, rfl⟩

theorem exists_mapM_eq_ok {ε α β : Type} {f : α → Except ε β} {xs : List α} :
    (∃ ys, xs.mapM f = .ok ys) ↔ ∀ x ∈ xs, ∃ y, f x = .ok y := by
  simp only [mapM_eq_ok_iff]
  induction xs with
  | nil => simp
  | cons x xs ih =>
    simp only [List.forall₂_cons_left_iff, List.forall_mem_cons, ← ih]
    constructor
    · rintro ⟨_, y, ys, hy, hys, -⟩
      exact ⟨⟨y, hy⟩, ys, hys⟩
    · rintro ⟨⟨y, hy⟩, ys, hys⟩
      exact ⟨_, y, ys, hy, hys, rfl⟩

theorem exists_of_mapM_eq_ok {ε α β : Type} {f : α → Except ε β} {xs : List α} {ys : List β}
    (h : xs.mapM f = .ok ys) {x : α} (hx : x ∈ xs) : ∃ y ∈ ys, f x = .ok y := by
  induction mapM_eq_ok_iff.1 h with
  | nil => cases hx
  | cons hxy hrest ih =>
    rcases List.mem_cons.1 hx with rfl | hx
    · exact ⟨_, List.mem_cons_self, hxy⟩
    · obtain ⟨y, hy, hfy⟩ := ih (mapM_eq_ok_iff.2 hrest) hx
      exact ⟨y, List.mem_cons_of_mem _ hy, hfy⟩

theorem map_of_mapM_eq_ok {ε α β γ : Type} {f : α → Except ε β} {col : α → γ} {col' : β → γ}
    {xs : List α} {ys : List β} (h : xs.mapM f = .ok ys)
    (hcol : ∀ x y, f x = .ok y → col' y = col x) : ys.map col' = xs.map col := by
  induction mapM_eq_ok_iff.1 h with
  | nil => rfl
  | cons hxy hrest ih =>
    rw [List.map_cons, List.map_cons, hcol _ _ hxy, ih (mapM_eq_ok_iff.2 hrest)]

theorem toOption_getD_cases {α : Type} {x : Except PyError α} {a b : α}
    (h : x.toOption.getD a = b) : ((∃ e, x = .error e) ∧ b = a) ∨ x = .ok b := by
  cases x with
  | error e => exact .inl ⟨⟨e, rfl⟩, h.symm⟩
  | ok c => exact .inr (congrArg Except.ok h)

/-- The position that index `i` means in a list of length `n`: a negative index counts from the
end. -/
def pyPosition (n : ℕ) (i : ℤ) : Option ℕ :=
  if 0 ≤ i then if i < n then some i.toNat else none
  else if 0 ≤ n + i then some (n + i).toNat else none

/-- `xs[i]`. -/
def pyIndex {α : Type} (xs : List α) (i : ℤ) : Except PyError α :=
  match (pyPosition xs.length i).bind fun k => xs[k]? with
  | none => .error .indexError
  | some x => .ok x

theorem pyPosition_lt {n k : ℕ} {i : ℤ} (h : pyPosition n i = some k) : k < n := by
  unfold pyPosition at h
  split_ifs at h <;> simp only [Option.some.injEq] at h <;> omega

theorem pyIndex_eq_ok {α : Type} {xs : List α} {i : ℤ} {k : ℕ} {x : α}
    (hk : pyPosition xs.length i = some k) (hx : xs[k]? = some x) : pyIndex xs i = .ok x := by
  simp [pyIndex, hk, hx]

theorem exists_of_pyIndex_eq_ok {α : Type} {xs : List α} {i : ℤ} {x : α}
    (h : pyIndex xs i = .ok x) : ∃ k, pyPosition xs.length i = some k ∧ xs[k]? = some x := by
  unfold pyIndex at h
  split at h
  · cases h
  · rename_i y hy
    obtain rfl : y = x := Except.ok.inj h
    exact Option.bind_eq_some_iff.1 hy

theorem pyIndex_eq_error {α : Type} {xs : List α} {i : ℤ} (h : pyPosition xs.length i = none) :
    pyIndex xs i = .error .indexError := by
  simp [pyIndex, h]

/-- `xs.index(x)`. -/
def index {α : Type*} [DecidableEq α] (xs : List α) (x : α) : Except PyError ℕ :=
  if x ∈ xs then .ok (xs.idxOf x) else .error .valueError

/-- `max(xs)`. -/
def pyMax (xs : List ℕ) : Except PyError ℕ :=
  match xs.max? with
  | none => .error .valueError
  | some m => .ok m

/-- A key of a dictionary, or a field of a pydantic model: not set, set to `None`, or set to a
value. -/
inductive ModelField (α : Type*) where
  | unset
  | null
  | val (a : α)
  deriving Repr, DecidableEq

namespace ModelField

variable {α : Type*}

/-- `d.get(key, None)`. -/
def get : ModelField α → Option α
  | unset => none
  | null => none
  | val a => some a

/-- The field as it is written by an assignment of `x`. -/
def ofOption : Option α → ModelField α
  | none => null
  | some a => val a

/-- The field is set. -/
def isSet : ModelField α → Bool
  | unset => false
  | _ => true

/-- The column after an update that leaves out unset fields. -/
def apply : ModelField α → Option α → Option α
  | unset, old => old
  | null, _ => none
  | val a, _ => some a

/-- The key is left out if it is null. -/
def dropna : ModelField α → ModelField α
  | null => unset
  | f => f

/-- The value of a key after `d.update(e)`: the key of `e` if it is set. -/
def orElse : ModelField α → ModelField α → ModelField α
  | unset, f => f
  | f, _ => f

@[simp] theorem get_unset : (unset : ModelField α).get = none := rfl
@[simp] theorem get_null : (null : ModelField α).get = none := rfl
@[simp] theorem get_val (a : α) : (val a).get = some a := rfl
@[simp] theorem get_ofOption (x : Option α) : (ofOption x).get = x := by cases x <;> rfl
@[simp] theorem apply_unset (old : Option α) : (unset : ModelField α).apply old = old := rfl
@[simp] theorem apply_null (old : Option α) : (null : ModelField α).apply old = none := rfl
@[simp] theorem apply_val (a : α) (old : Option α) : (val a).apply old = some a := rfl
@[simp] theorem apply_ofOption (x old : Option α) : (ofOption x).apply old = x := by
  cases x <;> rfl

theorem orElse_apply (f g : ModelField α) (old : Option α) :
    (f.orElse g).apply old = f.apply (g.apply old) := by
  cases f <;> rfl

theorem apply_none (f : ModelField α) : f.apply none = f.get := by
  cases f <;> rfl

theorem get_eq_some {f : ModelField α} {a : α} : f.get = some a ↔ f = val a := by
  cases f <;> simp

end ModelField

end StormPiper
