import Mathlib.Data.String.Basic

/-!
# Text columns

The string operations of `pandas` and Python that the source uses on node names.
-/

namespace StormPiper

/-- `s.startswith(p)`. -/
def startswith (s p : String) : Bool := p.toList.isPrefixOf s.toList

/-- `s.endswith(p)`. -/
def endswith (s p : String) : Bool := p.toList.isSuffixOf s.toList

/-- `in` for lists of characters. -/
def isInAux (sub : List Char) : List Char → Bool
  | [] => sub.isEmpty
  | c :: cs => sub.isPrefixOf (c :: cs) || isInAux sub cs

/-- `sub in s`. -/
def isIn (sub s : String) : Bool := isInAux sub.toList s.toList

/-- `s.lower()` for ASCII text. -/
def lower (s : String) : String := String.ofList (s.toList.map Char.toLower)

/-- `s.lower()` for a comparison with ASCII text: the only other character whose lower case is an
ASCII character alone is the Kelvin sign. -/
def lowerText (s : String) : String :=
  String.ofList (s.toList.map fun c => if c = Char.ofNat 0x212A then 'k' else c.toLower)

/-- The characters that `str.strip` takes for whitespace. -/
def isSpace (c : Char) : Bool :=
  c.toNat ∈ [0x09, 0x0A, 0x0B, 0x0C, 0x0D, 0x1C, 0x1D, 0x1E, 0x1F, 0x20, 0x85, 0xA0, 0x1680,
    0x2028, 0x2029, 0x202F, 0x205F, 0x3000] ∨ (0x2000 ≤ c.toNat ∧ c.toNat ≤ 0x200A)

/-- `s.strip()`. -/
def strip (s : String) : String :=
  String.ofList (((s.toList.dropWhile isSpace).reverse.dropWhile isSpace).reverse)

/-- The replacement from the left; the number says how many characters of the last occurrence are
still to be passed over. -/
def replaceAux (old new : List Char) : ℕ → List Char → List Char
  | _, [] => []
  | k + 1, _ :: cs => replaceAux old new k cs
  | 0, c :: cs =>
    if old.isPrefixOf (c :: cs) then new ++ replaceAux old new (old.length - 1) cs
    else c :: replaceAux old new 0 cs

/-- `s.replace(old, new)` for text `old` that is not empty. -/
def replace (s old new : String) : String :=
  String.ofList (replaceAux old.toList new.toList 0 s.toList)

/-- What stands before the separator. -/
def beforeAux (sep : List Char) : List Char → List Char
  | [] => []
  | c :: cs => if sep.isPrefixOf (c :: cs) then [] else c :: beforeAux sep cs

/-- `s.split(sep)[0]`. -/
def splitFirst (s sep : String) : String := String.ofList (beforeAux sep.toList s.toList)

/-- `s.split(c)[-1]` for a single character. -/
def splitLast (s : String) (c : Char) : String :=
  String.ofList (s.toList.reverse.takeWhile (· ≠ c)).reverse

/-- What `s.split(c)[:-1]` joins up to again, for a single character. -/
def beforeLast (s : String) (c : Char) : String :=
  String.ofList ((s.toList.reverse.dropWhile (· ≠ c)).drop 1).reverse

theorem startswith_iff {s p : String} : startswith s p = true ↔ p.toList <+: s.toList :=
  List.isPrefixOf_iff_prefix

@[simp] theorem startswith_append (p s : String) : startswith (p ++ s) p = true := by
  simp [startswith_iff]

/-! ### Undoing a replacement -/

theorem isInAux_of_head {sub s : List Char} (h : sub.isPrefixOf s = true) (hs : s ≠ []) :
    isInAux sub s = true := by
  cases s with
  | nil => exact absurd rfl hs
  | cons c cs => rw [isInAux, h, Bool.true_or]

/-- Passing over characters is dropping them. -/
theorem replaceAux_skip (old new : List Char) (k : ℕ) (cs : List Char) :
    replaceAux old new k cs = replaceAux old new 0 (cs.drop k) := by
  induction cs generalizing k with
  | nil => cases k <;> rfl
  | cons c cs ih =>
    cases k with
    | zero => rfl
    | succ k => rw [replaceAux, ih, List.drop_succ_cons]

theorem replaceAux_of_not_isInAux {old new cs : List Char} (h : isInAux old cs = false) :
    replaceAux old new 0 cs = cs := by
  induction cs with
  | nil => rfl
  | cons c cs ih =>
    rw [isInAux, Bool.or_eq_false_iff] at h
    rw [replaceAux, if_neg (by rw [h.1]; simp), ih h.2]

/-- A prefix that does not come again is replaced once. -/
theorem replace_prefix {p s new : String} (hp : p.toList ≠ []) (h : isIn p s = false) :
    replace (p ++ s) p new = new ++ s := by
  refine String.toList_inj.1 ?_
  obtain ⟨c, cs, hcs⟩ := List.exists_cons_of_ne_nil hp
  have happ : p.toList ++ s.toList = c :: (cs ++ s.toList) := by rw [hcs, List.cons_append]
  have hpre : p.toList.isPrefixOf (c :: (cs ++ s.toList)) = true :=
    List.isPrefixOf_iff_prefix.2 ⟨s.toList, happ⟩
  have hdrop : (cs ++ s.toList).drop (p.toList.length - 1) = s.toList := by
    rw [hcs, List.length_cons, Nat.add_sub_cancel, List.drop_left]
  rw [replace, String.toList_ofList, String.toList_append, String.toList_append, happ, replaceAux,
    if_pos hpre, replaceAux_skip, hdrop, replaceAux_of_not_isInAux h]

/-- Text without the new part was not changed. -/
theorem eq_of_replaceAux {old new cs out : List Char} (hnew : new ≠ [])
    (h : replaceAux old new 0 cs = out) (hout : isInAux new out = false) : cs = out := by
  induction cs generalizing out with
  | nil => simpa [replaceAux] using h
  | cons c cs ih =>
    rw [replaceAux] at h
    split_ifs at h with hpre
    · have hpre : new.isPrefixOf out = true := by
        rw [← h]
        exact List.isPrefixOf_iff_prefix.2 (List.prefix_append ..)
      have hne : out ≠ [] := by
        rintro rfl
        exact hnew (List.append_eq_nil_iff.1 h).1
      rw [isInAux_of_head hpre hne] at hout
      cases hout
    · subst h
      rw [isInAux, Bool.or_eq_false_iff] at hout
      rw [← ih rfl hout.2]

theorem eq_of_replace_of_not_isIn {s old new out : String} (hnew : new.toList ≠ [])
    (h : replace s old new = out) (hout : isIn new out = false) : s = out := by
  have hlist : replaceAux old.toList new.toList 0 s.toList = out.toList := by
    rw [← h, replace, String.toList_ofList]
  exact String.toList_inj.1 (eq_of_replaceAux hnew hlist hout)

/-- Text that begins with the new part and does not have it again was changed there, if at all. -/
theorem eq_of_replace {s old new rest : String} (hold : old.toList ≠ []) (hnew : new.toList ≠ [])
    (h : replace s old new = new ++ rest)
    (hrest : isInAux new.toList (new ++ rest).toList.tail = false)
    (hlater : isInAux new.toList rest.toList = false) : s = old ++ rest ∨ s = new ++ rest := by
  have hlist : replaceAux old.toList new.toList 0 s.toList = (new ++ rest).toList := by
    rw [← h, replace, String.toList_ofList]
  cases hs : s.toList with
  | nil =>
    rw [hs, replaceAux, String.toList_append, eq_comm, List.append_eq_nil_iff] at hlist
    exact absurd hlist.1 hnew
  | cons c cs =>
    rw [hs, replaceAux] at hlist
    split_ifs at hlist with hpre
    · rw [String.toList_append, List.append_cancel_left_eq, replaceAux_skip] at hlist
      have hdrop : cs.drop (old.toList.length - 1) = rest.toList :=
        eq_of_replaceAux hnew hlist hlater
      obtain ⟨t, ht⟩ := List.isPrefixOf_iff_prefix.1 hpre
      have ht' : t = rest.toList := by
        have hlen : old.toList.length = old.toList.length - 1 + 1 :=
          (Nat.succ_pred_eq_of_pos (List.length_pos_iff.2 hold)).symm
        have := congrArg (List.drop old.toList.length) ht
        rw [List.drop_left, hlen, List.drop_succ_cons, hdrop] at this
        exact this
      exact .inl (String.toList_inj.1 (by rw [hs, String.toList_append, ← ht, ht']))
    · have htail := congrArg List.tail hlist
      rw [List.tail_cons] at htail
      have hcs : cs = (new ++ rest).toList.tail := eq_of_replaceAux hnew htail hrest
      refine .inr (String.toList_inj.1 ?_)
      rw [hs, ← hlist]
      exact congrArg (c :: ·) (hcs.trans htail.symm)

theorem append_left_injective (p : String) : Function.Injective fun s : String => p ++ s := by
  intro a b h
  simpa using h

end StormPiper
