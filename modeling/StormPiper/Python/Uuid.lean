import StormPiper.Python.Text
import Mathlib.Data.List.Basic

/-!
# The text of a UUID

A UUID is written with 32 hexadecimal digits in five groups, and read from many other spellings:
in capitals, without hyphens, in braces or as a URN (`uuid.UUID`).  The database reads the text of
a parameter for a `uuid` column by itself, with hyphens anywhere.

* `UuidText` : how ids are written and read, and what writer and readers agree on.
* `Uuid.text` : the texts of the UUIDs.
-/

namespace StormPiper

/-- How the ids of a table are written and read. -/
structure UuidText (ID : Type) where
  /-- `str(id)` -/
  str : ID → String
  /-- `uuid.UUID(text)`, `none` for a `ValueError`. -/
  parse : String → Option ID
  /-- The id that the database reads in a parameter, `none` for a `DataError`. -/
  bind : String → Option ID
  parse_str : ∀ u, parse (str u) = some u
  bind_str : ∀ u, bind (str u) = some u
  parse_empty : parse "" = none
  eq_of_parse_of_bind : ∀ {t u v}, parse t = some u → bind t = some v → u = v

/-- A UUID, as its 32 hexadecimal digits. -/
structure Uuid where
  digits : List (Fin 16)
  length_digits : digits.length = 32
  deriving DecidableEq, Repr

namespace Uuid

/-- The UUID `dddddddd-dddd-dddd-dddd-dddddddddddd`. -/
def repeated (d : Fin 16) : Uuid := ⟨List.replicate 32 d, rfl⟩

/-- A digit of `'%032x'`. -/
def hexChar (d : Fin 16) : Char := "0123456789abcdef".toList.get ⟨d, by simp⟩

/-- The value of a hexadecimal digit, small or capital. -/
def hexValue? (c : Char) : Option (Fin 16) :=
  (List.finRange 16).find? fun d => hexChar d = c.toLower

/-- The UUID with these digits. -/
def ofHex? (hex : List Char) : Option Uuid :=
  match hex.mapM hexValue? with
  | some ds => if h : ds.length = 32 then some ⟨ds, h⟩ else none
  | none => none

/-- `str(u)` -/
def str (u : Uuid) : String :=
  let hex := u.digits.map hexChar
  String.ofList (hex.take 8 ++ '-' :: (hex.drop 8).take 4 ++ '-' :: (hex.drop 12).take 4 ++
    '-' :: (hex.drop 16).take 4 ++ '-' :: hex.drop 20)

/-- `text.strip('{}')` -/
def stripBraces (cs : List Char) : List Char :=
  let brace := fun c => decide (c = '{' ∨ c = '}')
  ((cs.dropWhile brace).reverse.dropWhile brace).reverse

/-- `uuid.UUID(text)` -/
def parse (text : String) : Option Uuid :=
  let hex := replace (replace text "urn:" "") "uuid:" ""
  ofHex? ((stripBraces hex.toList).filter (· ≠ '-'))

/-- What the database driver reads in the text of a parameter. -/
def bind (text : String) : Option Uuid :=
  ofHex? (text.toList.filter (· ≠ '-'))

theorem hexValue?_hexChar (d : Fin 16) : hexValue? (hexChar d) = some d := by
  revert d
  decide

/-- A hyphen or a hexadecimal digit. -/
def Plain (c : Char) : Prop := c = '-' ∨ (hexValue? c).isSome

theorem Plain.ne {c d : Char} (h : Plain c) (hd : d ≠ '-') (hnone : hexValue? d = none) :
    c ≠ d := by
  rintro rfl
  rcases h with h | h
  · exact hd h
  · rw [hnone] at h
    cases h

theorem hexChar_ne (d : Fin 16) : hexChar d ≠ '-' := by
  revert d
  decide

theorem ofHex?_map (u : Uuid) : ofHex? (u.digits.map hexChar) = some u := by
  have hmap : ∀ ds : List (Fin 16), (ds.map hexChar).mapM hexValue? = some ds := by
    intro ds
    induction ds with
    | nil => rfl
    | cons d ds ih => simp [List.mapM_cons, hexValue?_hexChar, ih]
  simp only [ofHex?, hmap, u.length_digits, dite_true]

theorem bind_str (u : Uuid) : bind u.str = some u := by
  have hkeep : ∀ l ⊆ u.digits.map hexChar, l.filter (· ≠ '-') = l := by
    intro l hl
    refine List.filter_eq_self.2 fun c hc => ?_
    obtain ⟨d, -, rfl⟩ := List.mem_map.1 (hl hc)
    simpa using hexChar_ne d
  have hfilter : u.str.toList.filter (· ≠ '-') = u.digits.map hexChar := by
    rw [str, String.toList_ofList]
    generalize u.digits.map hexChar = hex at hkeep ⊢
    have htake : ∀ m n, (hex.drop m).take n ⊆ hex := fun m n =>
      ((List.take_sublist _ _).trans (List.drop_sublist _ _)).subset
    have hjoin : ∀ m, (hex.drop m).take 4 ++ hex.drop (m + 4) = hex.drop m := fun m => by
      rw [← List.drop_drop, List.take_append_drop]
    simp only [List.append_assoc, List.filter_append, List.filter_cons_of_neg,
      ne_eq, not_true_eq_false, decide_false, Bool.false_eq_true, not_false_eq_true,
      hkeep _ (htake _ _), hkeep _ (List.take_sublist _ _).subset,
      hkeep _ (List.drop_sublist _ _).subset]
    rw [hjoin 16, hjoin 12, hjoin 8, List.take_append_drop]
  rw [bind, hfilter, ofHex?_map]

theorem replaceAux_of_notMem {o : Char} {os new cs : List Char} (h : o ∉ cs) :
    replaceAux (o :: os) new 0 cs = cs := by
  induction cs with
  | nil => rfl
  | cons c cs ih =>
    have hne : (o == c) = false := by
      simpa using fun hoc : o = c => h (hoc ▸ List.mem_cons_self)
    rw [replaceAux, if_neg (by simp [List.isPrefixOf, hne]),
      ih fun hmem => h (List.mem_cons_of_mem _ hmem)]

theorem stripBraces_of_forall {cs : List Char} (h : ∀ c ∈ cs, c ≠ '{' ∧ c ≠ '}') :
    stripBraces cs = cs := by
  have hdrop : ∀ l ⊆ cs, l.dropWhile (fun c => decide (c = '{' ∨ c = '}')) = l := by
    intro l hl
    cases l with
    | nil => rfl
    | cons c l =>
      have := h c (hl List.mem_cons_self)
      rw [List.dropWhile_cons_of_neg (by simpa using this)]
  simp only [stripBraces, hdrop cs (List.Subset.refl _)]
  rw [hdrop _ (List.reverse_subset.2 (List.Subset.refl _)), List.reverse_reverse]

/-- Digits and hyphens are read in the same way. -/
theorem parse_of_plain {t : String} (h : ∀ c ∈ t.toList, Plain c) : parse t = bind t := by
  have hu : 'u' ∉ t.toList := fun hmem =>
    (h _ hmem).ne (by decide) (by decide) rfl
  have hreplace : ∀ old : String, old.toList.head? = some 'u' → replace t old "" = t := by
    intro old hold
    obtain ⟨os, hos⟩ : ∃ os, old.toList = 'u' :: os := List.head?_eq_some_iff.1 hold
    rw [replace, hos, replaceAux_of_notMem hu, String.ofList_toList]
  have hbraces : ∀ c ∈ t.toList, c ≠ '{' ∧ c ≠ '}' := fun c hc =>
    ⟨(h c hc).ne (by decide) (by decide), (h c hc).ne (by decide) (by decide)⟩
  simp only [parse, hreplace "urn:" rfl, hreplace "uuid:" rfl, stripBraces_of_forall hbraces, bind]

/-- Text that the driver reads has digits and hyphens only. -/
theorem plain_of_bind {t : String} {u : Uuid} (h : bind t = some u) :
    ∀ c ∈ t.toList, Plain c := by
  have hsome : ∀ (cs : List Char) (ds : List (Fin 16)), cs.mapM hexValue? = some ds →
      ∀ c ∈ cs, (hexValue? c).isSome := by
    intro cs
    induction cs with
    | nil => simp
    | cons c cs ih =>
      intro ds hds
      rw [List.mapM_cons] at hds
      cases hc : hexValue? c with
      | none => simp [hc] at hds
      | some d =>
        cases hcs : cs.mapM hexValue? with
        | none => simp [hc, hcs] at hds
        | some ds' => simpa [hc] using ih ds' hcs
  intro c hc
  by_cases hdash : c = '-'
  · exact .inl hdash
  · unfold bind ofHex? at h
    split at h
    · next ds hds => exact .inr (hsome _ ds hds c (List.mem_filter.2 ⟨hc, by simpa using hdash⟩))
    · cases h

/-- The texts of the UUIDs. -/
def text : UuidText Uuid where
  str := str
  parse := parse
  bind := bind
  parse_str u := by rw [parse_of_plain (plain_of_bind (bind_str u)), bind_str]
  bind_str := bind_str
  parse_empty := by decide
  eq_of_parse_of_bind hparse hbind := by
    rw [parse_of_plain (plain_of_bind hbind), hbind] at hparse
    exact (Option.some.inj hparse).symm

end Uuid

end StormPiper
